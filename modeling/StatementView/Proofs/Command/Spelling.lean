import StatementView.Proofs.Command.Parsing
import StatementView.Proofs.Decimal.Canonical
import StatementView.Proofs.Text.Runs

namespace StatementView.Command

/-- `Writes items arguments`: the arguments say the items one after the other. The value of an
option is a further argument or is joined to its flag. -/
inductive Writes : List Item → List Text → Prop
  | nil : Writes [] []
  | apart {items : List Item} {arguments : List Text} (flag value : Text) :
    Writes items arguments → Writes (.option flag value :: items) (flag :: value :: arguments)
  | joined {items : List Item} {arguments : List Text} (flag value : Text) :
    Writes items arguments →
      Writes (.option flag value :: items) ((flag ++ '=' :: value) :: arguments)
  | switch {items : List Item} {arguments : List Text} (name : Text) :
    Writes items arguments → Writes (.switch name :: items) (name :: arguments)
  | file {items : List Item} {arguments : List Text} (path : Text) :
    Writes items arguments → Writes (.file path :: items) (path :: arguments)

namespace Item

def Fits (o : Options) : Item → Prop
  | .option flag _ => flag ∈ o.flags
  | .switch name => name ∈ o.switches
  | .file path => ¬ "--".toList <+: path ∧ path ≠ "-h".toList
  | _ => False

instance (o : Options) : DecidablePred (Fits o)
  | .option flag _ => inferInstanceAs (Decidable (flag ∈ o.flags))
  | .switch name => inferInstanceAs (Decidable (name ∈ o.switches))
  | .file path => inferInstanceAs (Decidable (¬ "--".toList <+: path ∧ path ≠ "-h".toList))
  | .help | .dangling _ | .unknown _ => inferInstanceAs (Decidable False)

def value? (flag : Text) : Item → Option Text
  | .option f value => if f = flag then some value else none
  | _ => none

def switch? : Item → Option Text
  | .switch name => some name
  | _ => none

def source? : Item → Option Source
  | .option flag value =>
    if flag = sourceFlag then some (.inline value)
    else if flag = sourceFileFlag then some (.file value)
    else none
  | _ => none

end Item

def values (flag : Text) (items : List Item) : List Text := items.filterMap (Item.value? flag)

/-- A decimal of a number from 1 to the largest word. -/
structure IsWidth (t : Text) : Prop where
  ne_nil : t ≠ []
  digits : ∀ c ∈ t, c.isDigit = true
  pos : 0 < Decimal.value t
  lt : Decimal.value t < Decimal.wordBound

namespace Options

def IsName (t : Text) : Prop := "--".toList <+: t ∧ t ≠ "--help".toList ∧ '=' ∉ t

instance : DecidablePred IsName := fun _ ↦ inferInstanceAs (Decidable (_ ∧ _ ∧ _))

/-- Flags and switches are named as such, and none is both. -/
structure IsRegular (o : Options) : Prop where
  flags : ∀ flag ∈ o.flags, IsName flag
  switches : ∀ name ∈ o.switches, IsName name ∧ name ∉ o.flags

variable {o : Options}

theorem joined?_eq_some_iff {flag token value : Text} :
    joined? flag token = some value ↔ token = flag ++ '=' :: value := by
  rw [joined?, Option.bind_eq_some_iff]
  simp only [Text.after?_eq_some_iff]
  constructor
  · intro h
    obtain ⟨_, rfl, rfl⟩ := h
    rfl
  · intro h
    exact ⟨_, h, rfl⟩

theorem joined_inj {flag flag' value value' : Text} (h : '=' ∉ flag) (h' : '=' ∉ flag')
    (he : flag ++ '=' :: value = flag' ++ '=' :: value') : flag = flag' ∧ value = value' := by
  have hrun {t u : Text} (ht : '=' ∉ t) : (t ++ '=' :: u).takeWhile (· != '=') = t := by
    refine Text.takeWhile_run (fun c hc ↦ ?_) (mt Text.begins_cons.mp (by decide))
    exact bne_iff_ne.mpr fun hce ↦ ht (hce ▸ hc)
  have hflag := congrArg (List.takeWhile (· != '=')) he
  rw [hrun h, hrun h'] at hflag
  subst hflag
  exact ⟨rfl, (List.cons.inj (List.append_cancel_left he)).2⟩

theorem findSome?_joined_eq_none {token : Text}
    (h : ∀ flag ∈ o.flags, ∀ value, token ≠ flag ++ '=' :: value) :
    (o.flags.findSome? fun flag ↦ (joined? flag token).map (flag, ·)) = none := by
  rw [List.findSome?_eq_none_iff]
  intro flag hflag
  rw [Option.map_eq_none_iff, Option.eq_none_iff_forall_ne_some]
  intro value hvalue
  exact h flag hflag value (joined?_eq_some_iff.mp hvalue)

/-- The flag ends at the first equals sign, so no other flag is found in front of it. -/
theorem findSome?_joined (ho : o.IsRegular) {flag : Text} (hflag : flag ∈ o.flags) (value : Text) :
    (o.flags.findSome? fun f ↦ (joined? f (flag ++ '=' :: value)).map (f, ·)) =
      some (flag, value) := by
  have hne : (o.flags.findSome? fun f ↦ (joined? f (flag ++ '=' :: value)).map (f, ·)) ≠ none := by
    intro h
    have hnone := List.findSome?_eq_none_iff.mp h flag hflag
    rw [joined?_eq_some_iff.mpr rfl] at hnone
    cases hnone
  obtain ⟨found, hfound⟩ := Option.ne_none_iff_exists'.mp hne
  obtain ⟨f, hf, h⟩ := List.exists_of_findSome?_eq_some hfound
  obtain ⟨v, hv, rfl⟩ := Option.map_eq_some_iff.mp h
  obtain ⟨rfl, rfl⟩ := joined_inj (ho.flags flag hflag).2.2 (ho.flags f hf).2.2
    (joined?_eq_some_iff.mp hv)
  exact hfound

theorem isHelp_eq_false {token : Text} (h : token ≠ "-h".toList) (h' : token ≠ "--help".toList) :
    isHelp token = false := by
  rw [isHelp, decide_eq_false h, decide_eq_false h']
  rfl

theorem contains_eq_false {l : List Text} {t : Text} (h : t ∉ l) : l.contains t = false :=
  Bool.eq_false_iff.mpr (mt List.contains_iff_mem.mp h)

theorem single_joined (ho : o.IsRegular) {flag : Text} (hflag : flag ∈ o.flags) (value : Text) :
    o.single (flag ++ '=' :: value) = .option flag value := by
  have hmem : '=' ∈ flag ++ '=' :: value := List.mem_append_right flag List.mem_cons_self
  have hhelp : isHelp (flag ++ '=' :: value) = false := by
    refine isHelp_eq_false ?_ ?_
    · intro h
      exact absurd (h ▸ hmem) (by decide)
    · intro h
      exact absurd (h ▸ hmem) (by decide)
  rw [single, hhelp, findSome?_joined ho hflag]
  rfl

theorem single_switch (ho : o.IsRegular) {name : Text} (hname : name ∈ o.switches) :
    o.single name = .switch name := by
  obtain ⟨⟨hdashes, hnohelp, hequals⟩, -⟩ := ho.switches name hname
  have hhelp : isHelp name = false := by
    refine isHelp_eq_false ?_ hnohelp
    rintro rfl
    exact absurd hdashes (by decide)
  have hnone : (o.flags.findSome? fun flag ↦ (joined? flag name).map (flag, ·)) = none := by
    refine findSome?_joined_eq_none fun flag _ value h ↦ hequals ?_
    rw [h]
    exact List.mem_append_right flag List.mem_cons_self
  rw [single, hhelp, hnone]
  simp only [Bool.false_eq_true, if_false, List.contains_iff_mem.mpr hname, if_true]

theorem single_file (ho : o.IsRegular) {path : Text} (hp : ¬ "--".toList <+: path)
    (hh : path ≠ "-h".toList) : o.single path = .file path := by
  have hhelp : isHelp path = false := by
    refine isHelp_eq_false hh ?_
    rintro rfl
    exact hp (by decide)
  have hnone : (o.flags.findSome? fun flag ↦ (joined? flag path).map (flag, ·)) = none := by
    refine findSome?_joined_eq_none fun flag hflag value h ↦ hp ?_
    rw [h]
    exact (ho.flags flag hflag).1.trans (List.prefix_append flag _)
  have hswitch : o.switches.contains path = false :=
    contains_eq_false fun hmem ↦ hp (ho.switches path hmem).1.1
  have hdashes : "--".toList.isPrefixOf path = false :=
    Bool.eq_false_iff.mpr (mt List.isPrefixOf_iff_prefix.mp hp)
  rw [single, hhelp, hnone]
  simp only [Bool.false_eq_true, if_false, hswitch, hdashes]

theorem items_append_of_writes (ho : o.IsRegular) {items : List Item} {arguments : List Text}
    (h : Writes items arguments) (hfit : ∀ item ∈ items, item.Fits o) (rest : List Text) :
    o.items (arguments ++ rest) = items ++ o.items rest := by
  induction h with
  | nil => rfl
  | apart flag value _ ih =>
    obtain ⟨hflag, hitems⟩ := List.forall_mem_cons.mp hfit
    rw [List.cons_append, List.cons_append, items_cons_cons (List.contains_iff_mem.mpr hflag),
      ih hitems, List.cons_append]
  | joined flag value _ ih =>
    obtain ⟨hflag, hitems⟩ := List.forall_mem_cons.mp hfit
    have hmem : flag ++ '=' :: value ∉ o.flags := fun hmem ↦
      (ho.flags _ hmem).2.2 (List.mem_append_right flag List.mem_cons_self)
    rw [List.cons_append, items_cons (contains_eq_false hmem), single_joined ho hflag, ih hitems,
      List.cons_append]
  | switch name _ ih =>
    obtain ⟨hname, hitems⟩ := List.forall_mem_cons.mp hfit
    rw [List.cons_append, items_cons (contains_eq_false (ho.switches name hname).2),
      single_switch ho hname, ih hitems, List.cons_append]
  | file path _ ih =>
    obtain ⟨⟨hdashes, hhelp⟩, hitems⟩ := List.forall_mem_cons.mp hfit
    have hmem : path ∉ o.flags := fun hmem ↦ hdashes (ho.flags path hmem).1
    rw [List.cons_append, items_cons (contains_eq_false hmem), single_file ho hdashes hhelp,
      ih hitems, List.cons_append]

end Options

section Values

variable {flag f value : Text} {items : List Item}

theorem values_cons_self (flag value : Text) (items : List Item) :
    values flag (.option flag value :: items) = value :: values flag items :=
  List.filterMap_cons_some (if_pos rfl)

theorem values_cons_ne (h : f ≠ flag) (value : Text) (items : List Item) :
    values flag (.option f value :: items) = values flag items :=
  List.filterMap_cons_none (if_neg h)

end Values

theorem width_of_isWidth {t : Text} (h : IsWidth t) : width t = .ok (Decimal.value t) := by
  have hword := Decimal.word?_of_digits h.ne_nil h.digits h.lt
  obtain ⟨n, hn⟩ := Nat.exists_eq_add_one.mpr h.pos
  rw [hn] at hword ⊢
  rw [width, hword]
  rfl

namespace Usage

variable {items : List Item}

theorem Takes.file_cons {α : Type} {u : Usage α} {a : Arguments α} {path : Text} {options : α}
    {files : List Text}
    (h : u.Takes ⟨a.options, a.files ++ [path]⟩ items ⟨options, (a.files ++ [path]) ++ files⟩) :
    u.Takes a (.file path :: items) ⟨options, a.files ++ path :: files⟩ := by
  rw [List.append_assoc] at h
  exact .file h

theorem option_width {value : Text} (h : IsWidth value) (o : SummaryOptions) :
    minifyUsage.option o widthFlag value = .ok { o with width := some (Decimal.value value) } := by
  have hflag : widthFlag ≠ configFlag := by decide
  simp only [minifyUsage, if_neg hflag, width_of_isWidth h]
  rfl

theorem takes_minify (hfit : ∀ item ∈ items, item.Fits ⟨[configFlag, widthFlag], []⟩)
    (hwidth : ∀ value ∈ values widthFlag items, IsWidth value) (a : Arguments SummaryOptions) :
    minifyUsage.Takes a items
      ⟨⟨(values configFlag items).getLast?.getD a.options.config,
        ((values widthFlag items).getLast?.map fun value ↦ some (Decimal.value value)).getD
          a.options.width⟩, a.files ++ items.filterMap Item.path?⟩ := by
  induction items generalizing a with
  | nil => simpa [values] using Takes.done a
  | cons item items ih =>
    obtain ⟨hitem, hitems⟩ := List.forall_mem_cons.mp hfit
    cases item with
    | option flag value =>
      obtain rfl | rfl : flag = configFlag ∨ flag = widthFlag := by simpa [Item.Fits] using hitem
      · rw [values_cons_ne (by decide)] at hwidth
        rw [values_cons_self, List.getLast?_cons, values_cons_ne (by decide)]
        exact .option ⟨value, a.options.width⟩ rfl (ih hitems hwidth _)
      · rw [values_cons_self] at hwidth
        obtain ⟨hvalue, hwidth⟩ := List.forall_mem_cons.mp hwidth
        rw [values_cons_self, List.getLast?_cons, values_cons_ne (by decide), Option.map_some,
          Option.getD_some, ← Option.getD_map fun value ↦ some (Decimal.value value)]
        exact .option _ (option_width hvalue a.options) (ih hitems hwidth _)
    | file path =>
      exact .file_cons (ih hitems hwidth ⟨a.options, a.files ++ [path]⟩)
    | switch name => cases hitem
    | help | dangling | unknown => cases hitem

theorem takes_subst (hfit : ∀ item ∈ items, item.Fits ⟨[sourceFileFlag, sourceFlag], []⟩)
    {a : Arguments Source}
    (h : items.filterMap Item.source? = [] ∨
      a.options = .nothing ∧ (items.filterMap Item.source?).length ≤ 1) :
    substUsage.Takes a items
      ⟨(items.filterMap Item.source?).head?.getD a.options,
        a.files ++ items.filterMap Item.path?⟩ := by
  induction items generalizing a with
  | nil => simpa using Takes.done a
  | cons item items ih =>
    obtain ⟨hitem, hitems⟩ := List.forall_mem_cons.mp hfit
    cases item with
    | option flag value =>
      obtain ⟨source, hsource, hoption⟩ : ∃ source,
          (Item.option flag value).source? = some source ∧
            substUsage.option .nothing flag value = .ok source := by
        obtain rfl | rfl : flag = sourceFileFlag ∨ flag = sourceFlag := by
          simpa [Item.Fits] using hitem
        · exact ⟨.file value, rfl, rfl⟩
        · exact ⟨.inline value, rfl, rfl⟩
      rw [List.filterMap_cons_some hsource] at h ⊢
      obtain ⟨ha, hlength⟩ := h.resolve_left (List.cons_ne_nil _ _)
      -- the one source is taken, so none is left
      have hnone : items.filterMap Item.source? = [] :=
        List.eq_nil_of_length_eq_zero (by rw [List.length_cons] at hlength; omega)
      have htail := ih hitems (a := ⟨source, a.files⟩) (.inl hnone)
      rw [hnone] at htail ⊢
      exact .option source (ha ▸ hoption) htail
    | file path =>
      exact .file_cons (ih hitems (a := ⟨a.options, a.files ++ [path]⟩) h)
    | switch name => cases hitem
    | help | dangling | unknown => cases hitem

theorem takes_html (hfit : ∀ item ∈ items, item.Fits ⟨[configFlag], [highlightSwitch]⟩)
    (a : Arguments MarkupOptions) :
    htmlUsage.Takes a items
      ⟨⟨(values configFlag items).getLast?.getD a.options.config,
        a.options.highlightOnly || (items.filterMap Item.switch?).contains highlightSwitch⟩,
        a.files ++ items.filterMap Item.path?⟩ := by
  induction items generalizing a with
  | nil => simpa [values] using Takes.done a
  | cons item items ih =>
    obtain ⟨hitem, hitems⟩ := List.forall_mem_cons.mp hfit
    cases item with
    | option flag value =>
      obtain rfl : flag = configFlag := List.mem_singleton.mp hitem
      rw [values_cons_self, List.getLast?_cons]
      exact .option ⟨value, a.options.highlightOnly⟩ rfl (ih hitems _)
    | switch name =>
      obtain rfl : name = highlightSwitch := List.mem_singleton.mp hitem
      have hcontains : ((Item.switch highlightSwitch :: items).filterMap Item.switch?).contains
          highlightSwitch = true := List.contains_iff_mem.mpr List.mem_cons_self
      have htail := ih hitems ⟨⟨a.options.config, true⟩, a.files⟩
      rw [hcontains, Bool.or_true]
      exact .switch htail
    | file path =>
      exact .file_cons (ih hitems ⟨a.options, a.files ++ [path]⟩)
    | help | dangling | unknown => cases hitem

variable {α : Type} {u : Usage α} {arguments arguments' : List Text}

theorem read_of_writes (hu : u.known.IsRegular) (h : Writes items arguments)
    (hfit : ∀ item ∈ items, item.Fits u.known) {b : Arguments α}
    (ht : u.Takes ⟨u.initial, []⟩ items b) : u.read arguments = .ok (some b) := by
  have hitems := Options.items_append_of_writes hu h hfit []
  rw [Options.items, List.append_nil, List.append_nil] at hitems
  rw [read, hitems]
  exact take_eq_some_iff.mpr ht

theorem request_of_same_items (hu : u.known.IsRegular) (h : Writes items arguments)
    (h' : Writes items arguments') (hfit : ∀ item ∈ items, item.Fits u.known) (topic : Topic)
    (ask : Arguments α → Request) (rest : List Text) :
    u.request topic ask (arguments ++ rest) = u.request topic ask (arguments' ++ rest) := by
  have hitems := Options.items_append_of_writes hu h hfit rest
  have hitems' := Options.items_append_of_writes hu h' hfit rest
  rw [request, request, read, read, hitems, hitems']

theorem isRegular_minify : minifyUsage.known.IsRegular := ⟨by decide, by decide⟩

theorem isRegular_subst : substUsage.known.IsRegular := ⟨by decide, by decide⟩

theorem isRegular_html : htmlUsage.known.IsRegular := ⟨by decide, by decide⟩

end Usage

def fileCommands : List (Text × Options) :=
  [("minify".toList, ⟨[configFlag, widthFlag], []⟩),
   ("subst".toList, ⟨[sourceFileFlag, sourceFlag], []⟩),
   ("html".toList, ⟨[configFlag], [highlightSwitch]⟩)]

/-- Options, switches and files that a command has are taken as they are written, in any order: the
files in theirs, the last value of each option or else its default, and the one source of bindings.
Which way an option is written makes no difference, whatever its value is and whatever stands behind
it. -/
theorem parse_of_writes :
    (∀ items arguments, Writes items arguments →
      (∀ item ∈ items, item.Fits ⟨[configFlag, widthFlag], []⟩) →
      (∀ value ∈ values widthFlag items, IsWidth value) →
      parse ("minify".toList :: arguments) =
        .ok (.minify ⟨⟨(values configFlag items).getLast?.getD "sqlpeek.toml".toList,
          (values widthFlag items).getLast?.map Decimal.value⟩, items.filterMap Item.path?⟩)) ∧
    (∀ items arguments, Writes items arguments →
      (∀ item ∈ items, item.Fits ⟨[sourceFileFlag, sourceFlag], []⟩) →
      (items.filterMap Item.source?).length ≤ 1 →
      parse ("subst".toList :: arguments) =
        .ok (.subst ⟨(items.filterMap Item.source?).head?.getD .nothing,
          items.filterMap Item.path?⟩)) ∧
    (∀ items arguments, Writes items arguments →
      (∀ item ∈ items, item.Fits ⟨[configFlag], [highlightSwitch]⟩) →
      parse ("html".toList :: arguments) =
        .ok (.html ⟨⟨(values configFlag items).getLast?.getD "sqlpeek.toml".toList,
          (items.filterMap Item.switch?).contains highlightSwitch⟩,
          items.filterMap Item.path?⟩)) ∧
    ∀ command ∈ fileCommands, ∀ items arguments arguments' rest, Writes items arguments →
      Writes items arguments' → (∀ item ∈ items, item.Fits command.2) →
      parse (command.1 :: (arguments ++ rest)) = parse (command.1 :: (arguments' ++ rest)) := by
  refine ⟨?_, ?_, ?_, ?_⟩
  · intro items arguments h hfit hwidth
    have hread := Usage.read_of_writes Usage.isRegular_minify h hfit
      (Usage.takes_minify hfit hwidth _)
    have hnone : ((values widthFlag items).getLast?.map fun value ↦ some (Decimal.value value)).getD none =
        (values widthFlag items).getLast?.map Decimal.value := by
      cases (values widthFlag items).getLast? <;> rfl
    rw [parse_minify, Usage.request_of_read hread]
    simp only [minifyUsage, hnone, List.nil_append]
    rfl
  · intro items arguments h hfit hone
    have hread := Usage.read_of_writes Usage.isRegular_subst h hfit
      (Usage.takes_subst hfit (.inr ⟨rfl, hone⟩))
    rw [parse_subst, Usage.request_of_read hread]
    rfl
  · intro items arguments h hfit
    have hread := Usage.read_of_writes Usage.isRegular_html h hfit (Usage.takes_html hfit _)
    rw [parse_html, Usage.request_of_read hread]
    rfl
  · intro command hcommand items arguments arguments' rest h h' hfit
    obtain rfl | rfl | rfl : command = ("minify".toList, ⟨[configFlag, widthFlag], []⟩) ∨
        command = ("subst".toList, ⟨[sourceFileFlag, sourceFlag], []⟩) ∨
        command = ("html".toList, ⟨[configFlag], [highlightSwitch]⟩) := by
      simpa [fileCommands] using hcommand
    · rw [parse_minify, parse_minify]
      exact Usage.request_of_same_items Usage.isRegular_minify h h' hfit _ _ rest
    · rw [parse_subst, parse_subst]
      exact Usage.request_of_same_items Usage.isRegular_subst h h' hfit _ _ rest
    · rw [parse_html, parse_html]
      exact Usage.request_of_same_items Usage.isRegular_html h h' hfit _ _ rest

def flagValues : List Item :=
  [.option configFlag "--width".toList, .option widthFlag "007".toList, .file "-x".toList,
   .option configFlag []]

def flagValuesArguments : List Text :=
  ["--config".toList, "--width".toList, "--width=007".toList, "-x".toList, "--config=".toList]

theorem parse_of_writes_flagValues :
    Writes flagValues flagValuesArguments ∧
      (∀ item ∈ flagValues, item.Fits ⟨[configFlag, widthFlag], []⟩) ∧
      (∀ value ∈ values widthFlag flagValues, IsWidth value) ∧
      parse ("minify".toList :: flagValuesArguments) =
        .ok (.minify ⟨⟨[], some 7⟩, ["-x".toList]⟩) ∧
      parse ["subst".toList, "a".toList, "--params-file=p=q".toList, "b".toList] =
        .ok (.subst ⟨.file "p=q".toList, ["a".toList, "b".toList]⟩) ∧
      parse ["html".toList, "--config".toList, "--help".toList, "--highlight-only".toList] =
        .ok (.html ⟨⟨"--help".toList, true⟩, []⟩) ∧
      parse ["minify".toList, "--width".toList, "-h".toList, "--other".toList] =
        parse ["minify".toList, "--width=-h".toList, "--other".toList] := by
  obtain ⟨hminify, hsubst, hhtml, hspelling⟩ := parse_of_writes
  have hwrites : Writes flagValues flagValuesArguments :=
    .apart _ _ (.joined _ _ (.file _ (.joined _ _ .nil)))
  have hfit : ∀ item ∈ flagValues, item.Fits ⟨[configFlag, widthFlag], []⟩ := by decide
  have hdigits : "007".toList.all Char.isDigit = true := by decide
  have hseven : IsWidth "007".toList :=
    ⟨by decide, List.all_eq_true.mp hdigits, by decide, by decide⟩
  have hwidth : ∀ value ∈ values widthFlag flagValues, IsWidth value :=
    List.forall_mem_singleton.mpr hseven
  refine ⟨hwrites, hfit, hwidth, hminify _ _ hwrites hfit hwidth, ?_, ?_, ?_⟩
  · exact hsubst [.file "a".toList, .option sourceFileFlag "p=q".toList, .file "b".toList] _
      (.file _ (.joined _ _ (.file _ .nil))) (by decide) (by decide)
  · exact hhtml [.option configFlag "--help".toList, .switch highlightSwitch] _
      (.apart _ _ (.switch _ .nil)) (by decide)
  · exact hspelling _ List.mem_cons_self [.option widthFlag "-h".toList] _ _ ["--other".toList]
      (.apart _ _ .nil) (.joined _ _ .nil) (by decide)

end StatementView.Command
