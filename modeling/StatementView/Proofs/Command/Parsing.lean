import StatementView.Proofs.Command.Sorting

namespace StatementView.Command

variable {α : Type}

namespace Usage

/-- `u.Takes a items b`: from `a`, each of the items is fit, and they come to `b`. -/
inductive Takes (u : Usage α) : Arguments α → List Item → Arguments α → Prop where
  | done (a : Arguments α) : Takes u a [] a
  | option {a b : Arguments α} {flag value : Text} {items : List Item} (options : α) :
    u.option a.options flag value = .ok options → Takes u { a with options := options } items b →
      Takes u a (.option flag value :: items) b
  | switch {a b : Arguments α} {name : Text} {items : List Item} :
    Takes u { a with options := u.switch a.options } items b → Takes u a (.switch name :: items) b
  | file {a b : Arguments α} {path : Text} {items : List Item} :
    Takes u { a with files := a.files ++ [path] } items b → Takes u a (.file path :: items) b

variable {u : Usage α} {a b : Arguments α} {items : List Item} {arguments : List Text}

theorem take_eq_some_iff : u.take a items = .ok (some b) ↔ u.Takes a items b := by
  constructor
  · intro h
    induction a, items using take.induct u with
    | case1 a => cases h; exact .done b
    | case3 a flag value items options ho ih =>
      rw [take, ho] at h
      exact .option options ho (ih h)
    | case4 a flag value items fault ho =>
      rw [take, ho] at h
      cases h
    | case6 a name items ih => exact .switch (ih h)
    | case8 a path items ih => exact .file (ih h)
    | case2 | case5 | case7 => cases h
  · intro h
    induction h with
    | done a => rfl
    | option options ho _ ih => rw [take, ho]; exact ih
    | switch _ ih => exact ih
    | file _ ih => exact ih

theorem Takes.dangling_not_mem (h : u.Takes a items b) (flag : Text) : .dangling flag ∉ items := by
  induction h with
  | done a => exact List.not_mem_nil
  | option _ _ _ ih | switch _ ih | file _ ih =>
    exact fun hmem ↦ ih ((List.mem_cons.mp hmem).resolve_left Item.noConfusion)

theorem Takes.files_eq (h : u.Takes a items b) :
    b.files = a.files ++ items.filterMap Item.path? := by
  induction h with
  | done a => exact (List.append_nil a.files).symm
  | option _ _ _ ih | switch _ ih => exact ih
  | file _ ih => rw [ih, List.append_assoc]; rfl

/-- The options are what the arguments other than files come to, whatever the files are. -/
theorem Takes.withoutFiles (h : u.Takes a items b) (files : List Text) (path : Text) :
    u.Takes ⟨a.options, files⟩ (items.filter (·.path?.isNone) ++ [.file path])
      ⟨b.options, files ++ [path]⟩ := by
  induction h with
  | done a => exact .file (.done _)
  | option options ho _ ih => exact .option options ho ih
  | switch _ ih => exact .switch ih
  | file _ ih => exact ih

theorem files_of_read (h : u.read arguments = .ok (some a)) :
    a.files = (u.known.items arguments).filterMap Item.path? :=
  (take_eq_some_iff.mp h).files_eq

theorem read_alone (h : u.read arguments = .ok (some b)) {path : Text} (hpath : path ∈ b.files) :
    u.read (u.known.withoutFiles arguments ++ [path]) = .ok (some ⟨b.options, [path]⟩) := by
  have ht := take_eq_some_iff.mp h
  rw [files_of_read h, List.mem_filterMap] at hpath
  obtain ⟨item, hmem, hitem⟩ := hpath
  rw [Item.eq_file_of_path? hitem] at hmem
  obtain ⟨hflag, hfile⟩ := Options.of_file_mem_items hmem
  rw [read, Options.items_withoutFiles_append hflag hfile ht.dangling_not_mem]
  exact take_eq_some_iff.mpr (ht.withoutFiles [] path)

theorem request_eq_ok {topic : Topic} {ask : Arguments α → Request} {r : Request}
    (h : u.request topic ask arguments = .ok r) :
    r = .help topic ∨ ∃ a, r = ask a ∧ u.read arguments = .ok (some a) := by
  rw [request] at h
  cases hr : u.read arguments with
  | error fault => rw [hr] at h; cases h
  | ok read =>
    rw [hr] at h
    cases read with
    | none => cases h; exact .inl rfl
    | some a => cases h; exact .inr ⟨a, rfl, rfl⟩

theorem request_of_read {topic : Topic} {ask : Arguments α → Request}
    (h : u.read arguments = .ok (some a)) : u.request topic ask arguments = .ok (ask a) := by
  rw [request, h]; rfl

end Usage

theorem takeEscape_eq_ok {document : Option Text} {arguments : List Text} {r : Request}
    (h : takeEscape document arguments = .ok r) : r = .help .escape ∨ ∃ t, r = .escape t := by
  induction document, arguments using takeEscape.induct with
  | case1 => cases h
  | case2 t => cases h; exact .inr ⟨t, rfl⟩
  | case3 document token rest hhelp =>
    rw [takeEscape, if_pos hhelp] at h
    cases h
    exact .inl rfl
  | case4 document token rest hhelp hdocument =>
    rw [takeEscape, if_neg hhelp, if_pos hdocument] at h
    cases h
  | case5 document token rest hhelp hdocument ih =>
    rw [takeEscape, if_neg hhelp, if_neg hdocument] at h
    exact ih h

theorem parse_minify (rest : List Text) :
    parse ("minify".toList :: rest) = minifyUsage.request .minify .minify rest := by
  rw [parse, if_neg (by decide), if_pos rfl]

theorem parse_subst (rest : List Text) :
    parse ("subst".toList :: rest) = substUsage.request .subst .subst rest := by
  rw [parse, if_neg (by decide), if_neg (by decide), if_pos rfl]

theorem parse_html (rest : List Text) :
    parse ("html".toList :: rest) = htmlUsage.request .html .html rest := by
  rw [parse, if_neg (by decide), if_neg (by decide), if_neg (by decide), if_neg (by decide),
    if_pos rfl]

theorem parse_cases {arguments : List Text} {r : Request} (h : parse arguments = .ok r) :
    (∃ topic, r = .help topic) ∨ (∃ t, r = .escape t) ∨
      ∃ rest,
        (arguments = "minify".toList :: rest ∧
          ∃ a, r = .minify a ∧ minifyUsage.read rest = .ok (some a)) ∨
        (arguments = "subst".toList :: rest ∧
          ∃ a, r = .subst a ∧ substUsage.read rest = .ok (some a)) ∨
        (arguments = "html".toList :: rest ∧
          ∃ a, r = .html a ∧ htmlUsage.read rest = .ok (some a)) := by
  cases arguments with
  | nil => cases h; exact .inl ⟨.root, rfl⟩
  | cons name rest =>
    rw [parse] at h
    split at h
    · cases h; exact .inl ⟨.root, rfl⟩
    split at h
    · next hname =>
      rcases Usage.request_eq_ok h with hhelp | ha
      · exact .inl ⟨.minify, hhelp⟩
      · exact .inr (.inr ⟨rest, .inl ⟨by rw [hname], ha⟩⟩)
    split at h
    · next hname =>
      rcases Usage.request_eq_ok h with hhelp | ha
      · exact .inl ⟨.subst, hhelp⟩
      · exact .inr (.inr ⟨rest, .inr (.inl ⟨by rw [hname], ha⟩)⟩)
    split at h
    · rcases takeEscape_eq_ok h with hhelp | ht
      · exact .inl ⟨.escape, hhelp⟩
      · exact .inr (.inl ht)
    split at h
    · next hname =>
      rcases Usage.request_eq_ok h with hhelp | ha
      · exact .inl ⟨.html, hhelp⟩
      · exact .inr (.inr ⟨rest, .inr (.inr ⟨by rw [hname], ha⟩)⟩)
    · cases h

end StatementView.Command
