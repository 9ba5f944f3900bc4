import StatementView.Command.Arguments

namespace StatementView.Command

def Item.path? : Item → Option Text
  | .file path => some path
  | _ => none

theorem Item.eq_file_of_path? {item : Item} {path : Text} (h : item.path? = some path) :
    item = .file path := by
  cases item with
  | file _ => cases h; rfl
  | help | option | dangling | switch | unknown => cases h

namespace Options

def withoutFiles (o : Options) : List Text → List Text
  | [] => []
  | [token] =>
    if o.flags.contains token then [token]
    else if (o.single token).path?.isSome then [] else [token]
  | token :: next :: rest =>
    if o.flags.contains token then token :: next :: o.withoutFiles rest
    else if (o.single token).path?.isSome then o.withoutFiles (next :: rest)
    else token :: o.withoutFiles (next :: rest)

variable {o : Options} {token path : Text}

theorem eq_of_single (h : o.single token = .file path) : token = path := by
  unfold single at h
  split at h
  · cases h
  · split at h
    · cases h
    · split at h
      · cases h
      · split at h
        · cases h
        · exact Item.file.inj h

theorem items_cons (h : o.flags.contains token = false) (rest : List Text) :
    o.items (token :: rest) = o.single token :: o.items rest := by
  cases rest with
  | nil => simp only [items, h, Bool.false_eq_true, if_false]
  | cons next rest => simp only [items, h, Bool.false_eq_true, if_false]

theorem items_cons_cons (h : o.flags.contains token = true) (next : Text) (rest : List Text) :
    o.items (token :: next :: rest) = .option token next :: o.items rest := by
  simp only [items, h, if_true]

theorem items_singleton (h : o.flags.contains token = true) :
    o.items [token] = [.dangling token] := by
  simp only [items, h, if_true]

theorem withoutFiles_cons (h : o.flags.contains token = false) (rest : List Text) :
    o.withoutFiles (token :: rest) =
      if (o.single token).path?.isSome then o.withoutFiles rest
      else token :: o.withoutFiles rest := by
  cases rest with
  | nil => simp only [withoutFiles, h, Bool.false_eq_true, if_false]
  | cons next rest => simp only [withoutFiles, h, Bool.false_eq_true, if_false]

theorem withoutFiles_cons_cons (h : o.flags.contains token = true) (next : Text)
    (rest : List Text) :
    o.withoutFiles (token :: next :: rest) = token :: next :: o.withoutFiles rest := by
  simp only [withoutFiles, h, if_true]

theorem of_file_mem_items {arguments : List Text} (h : .file path ∈ o.items arguments) :
    o.flags.contains path = false ∧ o.single path = .file path := by
  have hsingle {token : Text} (hflag : o.flags.contains token = false)
      (he : .file path = o.single token) :
      o.flags.contains path = false ∧ o.single path = .file path := by
    obtain rfl := eq_of_single he.symm
    exact ⟨hflag, he.symm⟩
  induction arguments using items.induct o with
  | case1 => cases h
  | case2 token =>
    cases hflag : o.flags.contains token with
    | true =>
      rw [items_singleton hflag] at h
      cases List.mem_singleton.mp h
    | false =>
      rw [items_cons hflag] at h
      exact hsingle hflag (List.mem_singleton.mp h)
  | case3 token next rest hflag ih =>
    rw [items_cons_cons hflag] at h
    exact ih ((List.mem_cons.mp h).resolve_left fun he ↦ by cases he)
  | case4 token next rest hflag ih =>
    have hflag := Bool.eq_false_iff.mpr hflag
    rw [items_cons hflag] at h
    rcases List.mem_cons.mp h with he | h
    · exact hsingle hflag he
    · exact ih h

/-- With its files taken out and one put at the end, a command has the same options and that file. -/
theorem items_withoutFiles_append {arguments : List Text}
    (hflag : o.flags.contains path = false) (hfile : o.single path = .file path)
    (h : ∀ flag, .dangling flag ∉ o.items arguments) :
    o.items (o.withoutFiles arguments ++ [path]) =
      (o.items arguments).filter (·.path?.isNone) ++ [.file path] := by
  have hone : o.items [path] = [.file path] := by rw [items_cons hflag, hfile]; rfl
  -- an argument that is no flag is sorted alone, whatever is behind it
  have hcons {token : Text} (ht : o.flags.contains token = false) {rest : List Text}
      (ih : o.items (o.withoutFiles rest ++ [path]) =
        (o.items rest).filter (·.path?.isNone) ++ [.file path]) :
      o.items (o.withoutFiles (token :: rest) ++ [path]) =
        (o.items (token :: rest)).filter (·.path?.isNone) ++ [.file path] := by
    rw [withoutFiles_cons ht, items_cons ht]
    cases hf : (o.single token).path? with
    | some _ =>
      rw [List.filter_cons_of_neg (by rw [hf]; exact Bool.false_ne_true), Option.isSome_some,
        if_pos rfl]
      exact ih
    | none =>
      rw [List.filter_cons_of_pos (by rw [hf]; rfl), Option.isSome_none,
        if_neg Bool.false_ne_true, List.cons_append, items_cons ht, ih]
      rfl
  induction arguments using items.induct o with
  | case1 => exact hone
  | case2 token =>
    cases ht : o.flags.contains token with
    | true =>
      rw [items_singleton ht] at h
      exact absurd (List.mem_singleton_self _) (h token)
    | false => exact hcons ht hone
  | case3 token next rest ht ih =>
    rw [items_cons_cons ht] at h ⊢
    rw [withoutFiles_cons_cons ht, List.cons_append, List.cons_append, items_cons_cons ht,
      ih fun flag hflag ↦ h flag (List.mem_cons_of_mem _ hflag)]
    rfl
  | case4 token next rest ht ih =>
    have ht := Bool.eq_false_iff.mpr ht
    rw [items_cons ht] at h
    exact hcons ht (ih fun flag hflag ↦ h flag (List.mem_cons_of_mem _ hflag))

end Options

end StatementView.Command
