import Mathlib.Data.List.Forall2
import StatementView.Command.Run
import StatementView.Proofs.Command.Parsing
import StatementView.Proofs.Command.Session

namespace StatementView.Command

open Session (ending_lift_bind)

variable {α : Type}

def Options.alone (o : Options) (path : Text) : List Text → List Text
  | [] => [path]
  | command :: rest => command :: (o.withoutFiles rest ++ [path])

/-- The run prints, for each of its files in order, a label and what the run with the same options
prints for the file alone. -/
structure IsBatch (l : Libraries) (w : World) (arguments : List Text) (u : Usage α)
    (ask : Arguments α → Request) (a : Arguments α) (label : Text → Text) : Prop where
  files_eq : a.files = (u.known.items arguments.tail).filterMap Item.path?
  parse_alone : ∀ path ∈ a.files,
    parse (u.known.alone path arguments) = .ok (ask ⟨a.options, [path]⟩)
  code_alone : ∀ path ∈ a.files, (l.run w (u.known.alone path arguments)).code = 0
  output_eq : (l.run w arguments).output =
    a.files.flatMap fun path ↦ label path ++ (l.run w (u.known.alone path arguments)).output

section Statements

variable {w : World} {files : List Text} {path : Text} {s : Statement}

theorem label_of_statement (h : w.statement path = .ok s) : s.label = path := by
  rw [World.statement] at h
  cases hr : w.read path with
  | error e => rw [hr] at h; cases h
  | ok t => rw [hr] at h; cases h; rfl

theorem forall₂_of_mapM {ε β γ : Type} {f : β → Except ε γ} {l : List β} {l' : List γ}
    (h : l.mapM f = .ok l') : List.Forall₂ (fun b c ↦ f b = .ok c) l l' := by
  induction l generalizing l' with
  | nil => cases h; exact .nil
  | cons b l ih =>
    rw [List.mapM_cons] at h
    cases hb : f b with
    | error e => rw [hb] at h; cases h
    | ok c =>
      cases hl : l.mapM f with
      | error e => rw [hb, hl] at h; cases h
      | ok l' => rw [hb, hl] at h; cases h; exact .cons hb (ih hl)

theorem exists_of_forall₂ {β γ : Type} {R : β → γ → Prop} {l : List β} {l' : List γ}
    (h : List.Forall₂ R l l') {b : β} (hb : b ∈ l) : ∃ c, R b c := by
  induction h with
  | nil => cases hb
  | cons hR _ ih =>
    rcases List.mem_cons.mp hb with rfl | hb
    · exact ⟨_, hR⟩
    · exact ih hb

theorem forall₂_of_statements {statements : List Statement} (hne : files ≠ [])
    (h : w.statements files = .ok statements) :
    List.Forall₂ (fun path s ↦ w.statement path = .ok s) files statements := by
  rw [World.statements, if_neg (by rwa [List.isEmpty_iff])] at h
  exact forall₂_of_mapM h

theorem ending_printEach_single (line : Bool → Statement → Text) (h : w.statement path = .ok s) :
    (w.printEach [path] line).ending [] = (.ok (), printed [line false s]) := by
  have hs : w.statements [path] = .ok [s] := by
    rw [World.statements, if_neg (List.isEmpty_iff.not.mpr (List.cons_ne_nil path [])),
      List.mapM_cons, h]
    rfl
  rw [ending_printEach, hs]
  rfl

theorem printed_eq_flatMap {statements : List Statement} {several : Bool}
    {line : Bool → Statement → Text} {label : Text → Text}
    (h : List.Forall₂ (fun path s ↦ w.statement path = .ok s) files statements)
    (hline : ∀ path s, w.statement path = .ok s → line several s = label path ++ line false s) :
    printed (statements.map (line several)) =
      files.flatMap fun path ↦ label path ++ ((w.printEach [path] line).ending []).2 := by
  induction h with
  | nil => rfl
  | @cons path s files statements hs _ ih =>
    calc printed ((s :: statements).map (line several))
        = printed [line several s] ++ printed (statements.map (line several)) :=
          printed_append [line several s] _
      _ = label path ++ printed [line false s] ++ printed (statements.map (line several)) := by
          rw [hline path s hs]
          simp only [printed, List.flatMap_cons, List.flatMap_nil, List.append_nil,
            List.append_assoc]
      _ = _ := by rw [ih, List.flatMap_cons, ending_printEach_single line hs]

theorem ending_printEach_batch {line : Bool → Statement → Text} {label : Text → Text}
    {output : Text} (hne : files ≠ [])
    (hline : ∀ path s, w.statement path = .ok s →
      line (files.length > 1) s = label path ++ line false s)
    (h : (w.printEach files line).ending [] = (.ok (), output)) :
    (∀ path ∈ files, ((w.printEach [path] line).ending []).1 = .ok ()) ∧
      output = files.flatMap fun path ↦ label path ++ ((w.printEach [path] line).ending []).2 := by
  rw [ending_printEach] at h
  cases hs : w.statements files with
  | error e => rw [hs] at h; cases h
  | ok statements =>
    have hread := forall₂_of_statements hne hs
    rw [hs] at h
    obtain rfl := (Prod.mk.inj h).2
    constructor
    · intro path hpath
      obtain ⟨s, hp⟩ := exists_of_forall₂ hread hpath
      rw [ending_printEach_single line hp]
    · rw [List.nil_append, ← hread.length_eq]
      exact printed_eq_flatMap hread hline

end Statements

section Runs

variable {l : Libraries} {w : World} {arguments : List Text} {r : Request} {output : Text}

theorem ending_session (h : parse arguments = .ok r) :
    (l.session w arguments).ending [] = (l.perform w r).ending [] := by
  rw [Libraries.session, ending_lift_bind, h]
  rfl

theorem run_of_ending (h : parse arguments = .ok r)
    (he : (l.perform w r).ending [] = (.ok (), output)) : l.run w arguments = ⟨0, output, []⟩ := by
  rw [Libraries.run, ending_session h, he]

theorem ending_of_code (h : parse arguments = .ok r) (hcode : (l.run w arguments).code = 0) :
    (l.perform w r).ending [] = (.ok (), (l.run w arguments).output) := by
  rw [Libraries.run, ending_session h] at hcode ⊢
  split at hcode
  · next he => rw [he]
  · cases hcode

theorem perform_minify (l : Libraries) (w : World) (o : SummaryOptions) (files : List Text) :
    l.perform w (.minify ⟨o, files⟩) = liftM (l.settings w o) >>= fun settings ↦
      w.printEach files fun several s ↦
        if several then s.label ++ ": ".toList ++ settings.summarize s.text
        else settings.summarize s.text := rfl

theorem perform_subst (l : Libraries) (w : World) (source : Source) (files : List Text) :
    l.perform w (.subst ⟨source, files⟩) = liftM (l.bindings w source) >>= fun bindings ↦
      w.printEach files fun _ s ↦ Placeholder.substitute bindings s.text := rfl

theorem perform_html (l : Libraries) (w : World) (o : MarkupOptions) (files : List Text) :
    l.perform w (.html ⟨o, files⟩) = liftM (l.classes w o.config) >>= fun classes ↦
      w.printEach files fun _ s ↦ l.backend.render classes s.text o.highlightOnly := rfl

theorem isBatch_of_printEach {γ : Type} {u : Usage α} {ask : Arguments α → Request}
    {a : Arguments α} {prepare : α → Except Failure γ}
    {line : α → γ → Bool → Statement → Text}
    {label : Text → Text} {topic : Topic} {command : Text} {rest : List Text}
    (hperform : ∀ options files, l.perform w (ask ⟨options, files⟩) =
      liftM (prepare options) >>= fun c ↦ w.printEach files (line options c))
    (hparse : ∀ rest, parse (command :: rest) = u.request topic ask rest)
    (hread : u.read rest = .ok (some a)) (hne : a.files ≠ [])
    (hcode : (l.run w (command :: rest)).code = 0)
    (hline : ∀ c path s, w.statement path = .ok s →
      line a.options c (a.files.length > 1) s = label path ++ line a.options c false s) :
    IsBatch l w (command :: rest) u ask a label := by
  have hall : parse (command :: rest) = .ok (ask a) :=
    (hparse rest).trans (Usage.request_of_read hread)
  have halone (path : Text) (hpath : path ∈ a.files) :
      parse (u.known.alone path (command :: rest)) = .ok (ask ⟨a.options, [path]⟩) :=
    (hparse _).trans (Usage.request_of_read (Usage.read_alone hread hpath))
  have hending := ending_of_code hall hcode
  rw [hperform, ending_lift_bind] at hending
  -- the options are the same in a run over one file, and so is what is prepared from them
  cases hp : prepare a.options with
  | error e => rw [hp] at hending; cases hending
  | ok c =>
    rw [hp] at hending
    obtain ⟨hsingle, houtput⟩ := ending_printEach_batch hne (hline c) hending
    have hrun (path : Text) (hpath : path ∈ a.files) :
        l.run w (u.known.alone path (command :: rest)) =
          ⟨0, ((w.printEach [path] (line a.options c)).ending []).2, []⟩ := by
      refine run_of_ending (halone path hpath) ?_
      rw [hperform, ending_lift_bind, hp]
      exact Prod.ext (hsingle path hpath) rfl
    refine ⟨Usage.files_of_read hread, halone, ?_, ?_⟩
    · intro path hpath
      rw [hrun path hpath]
    · rw [houtput]
      exact List.flatMap_congr fun path hpath ↦ by rw [hrun path hpath]

/-- A run that fails prints nothing. A run of `subst` or `html` over files that succeeds prints what
each file alone gives, and one of `minify` over several files puts each file's path before it. -/
theorem run_batch (l : Libraries) (w : World) (arguments : List Text) :
    ((l.run w arguments).code ≠ 0 → (l.run w arguments).output = []) ∧
      ((l.run w arguments).code = 0 →
        (∀ a, parse arguments = .ok (.subst a) → a.files ≠ [] →
          IsBatch l w arguments substUsage .subst a fun _ ↦ []) ∧
        (∀ a, parse arguments = .ok (.html a) → a.files ≠ [] →
          IsBatch l w arguments htmlUsage .html a fun _ ↦ []) ∧
        (∀ a, parse arguments = .ok (.minify a) → 2 ≤ a.files.length →
          IsBatch l w arguments minifyUsage .minify a fun path ↦ path ++ ": ".toList)) := by
  refine ⟨output_eq_nil_of_code l w arguments, fun hcode ↦ ⟨?_, ?_, ?_⟩⟩
  · intro a h hne
    obtain ⟨_, h⟩ | ⟨_, h⟩ | ⟨rest, ⟨_, _, h, _⟩ | ⟨rfl, _, h, hread⟩ | ⟨_, _, h, _⟩⟩ :=
      parse_cases h <;> cases h
    exact isBatch_of_printEach (perform_subst l w) parse_subst hread hne hcode fun _ _ _ _ ↦ rfl
  · intro a h hne
    obtain ⟨_, h⟩ | ⟨_, h⟩ | ⟨rest, ⟨_, _, h, _⟩ | ⟨_, _, h, _⟩ | ⟨rfl, _, h, hread⟩⟩ :=
      parse_cases h <;> cases h
    exact isBatch_of_printEach (perform_html l w) parse_html hread hne hcode fun _ _ _ _ ↦ rfl
  · intro a h hseveral
    obtain ⟨_, h⟩ | ⟨_, h⟩ | ⟨rest, ⟨rfl, _, h, hread⟩ | ⟨_, _, h, _⟩ | ⟨_, _, h, _⟩⟩ :=
      parse_cases h <;> cases h
    have hlength : a.files.length > 1 := hseveral
    refine isBatch_of_printEach (perform_minify l w) parse_minify hread
      (List.ne_nil_of_length_pos (by omega)) hcode fun settings path s hs ↦ ?_
    rw [decide_eq_true hlength, if_pos rfl, if_neg Bool.false_ne_true, label_of_statement hs,
      List.append_assoc]

def twoFiles : World where
  input := []
  look path :=
    if path = "a.sql".toList then .file (Text.encode "a = ?".toList)
    else if path = "b.sql".toList then .file (Text.encode "b = ?\n".toList)
    else .missing

def twoFilesArguments : List Text :=
  ["subst".toList, "a.sql".toList, "--params".toList, "[1]".toList, "b.sql".toList]

theorem parse_twoFilesArguments : parse twoFilesArguments =
    .ok (.subst ⟨.inline "[1]".toList, ["a.sql".toList, "b.sql".toList]⟩) := rfl

theorem run_twoFiles : run twoFiles twoFilesArguments = ⟨0, "a = 1\nb = 1\n".toList, []⟩ := by
  have hbindings : Libraries.standard.bindings twoFiles (.inline "[1]".toList) =
      .ok (.positional [.integer 1]) := by
    rfl
  have hstatements : twoFiles.statements ["a.sql".toList, "b.sql".toList] =
      .ok [⟨"a.sql".toList, "a = ?".toList⟩, ⟨"b.sql".toList, "b = ?".toList⟩] := by
    with_unfolding_all rfl
  refine run_of_ending parse_twoFilesArguments ?_
  rw [perform_subst, ending_lift_bind, hbindings]
  simp only [ending_printEach, hstatements]
  with_unfolding_all rfl

theorem run_batch_twoFiles :
    (run twoFiles twoFilesArguments).output = "a = 1\nb = 1\n".toList ∧
      IsBatch .standard twoFiles twoFilesArguments substUsage .subst
        ⟨.inline "[1]".toList, ["a.sql".toList, "b.sql".toList]⟩ fun _ ↦ [] := by
  refine ⟨by rw [run_twoFiles], ?_⟩
  have hcode : (run twoFiles twoFilesArguments).code = 0 := by rw [run_twoFiles]
  exact ((run_batch .standard twoFiles twoFilesArguments).2 hcode).1 _ parse_twoFilesArguments
    (List.cons_ne_nil _ _)

end Runs

end StatementView.Command
