import StatementView.Command.Session

namespace StatementView.Command

theorem printed_append (lines lines' : List Text) :
    printed (lines ++ lines') = printed lines ++ printed lines' := List.flatMap_append

namespace Session

variable {α β : Type}

theorem ending_lift_bind (x : Except Failure α) (f : α → Session β) (output : Text) :
    Session.ending (liftM x >>= f) output =
      match x with
      | .ok a => (f a).ending output
      | .error e => (.error e, output) := by
  cases x <;> rfl

theorem ending_print_bind (line : Text) (x : Session β) (output : Text) :
    Session.ending (print line >>= fun _ ↦ x) output = x.ending (output ++ printed [line]) := rfl

theorem ending_forM_print (l : List β) (line : β → Text) (output : Text) :
    Session.ending (l.forM fun s ↦ print (line s)) output =
      (.ok (), output ++ printed (l.map line)) := by
  induction l generalizing output with
  | nil => rw [List.map_nil, printed, List.flatMap_nil, List.append_nil]; rfl
  | cons s l ih =>
    have hcons : (s :: l).forM (fun s ↦ print (line s)) =
        print (line s) >>= fun _ ↦ l.forM fun s ↦ print (line s) := rfl
    rw [hcons, ending_print_bind, ih, List.append_assoc, ← printed_append]
    rfl

/-- A run that prints nothing when it fails. -/
def IsAllOrNothing (x : Session α) : Prop :=
  ∀ output e, (x.ending output).1 = .error e → (x.ending output).2 = output

theorem isAllOrNothing_of_ok {x : Session α} (h : ∀ output, ∃ a, (x.ending output).1 = .ok a) :
    IsAllOrNothing x := by
  intro output e he
  obtain ⟨a, ha⟩ := h output
  cases ha.symm.trans he

theorem isAllOrNothing_throw (e : Failure) : IsAllOrNothing (throw e : Session α) :=
  fun _ _ _ ↦ rfl

theorem IsAllOrNothing.lift_bind {x : Except Failure α} {f : α → Session β}
    (h : ∀ a, IsAllOrNothing (f a)) : IsAllOrNothing (liftM x >>= f) := by
  intro output e he
  rw [ending_lift_bind] at he ⊢
  cases x with
  | ok a => exact h a output e he
  | error e' => rfl

end Session

open Session (IsAllOrNothing ending_lift_bind ending_forM_print)

variable {w : World} {files : List Text}

theorem ending_printEach (line : Bool → Statement → Text) (output : Text) :
    (w.printEach files line).ending output =
      match w.statements files with
      | .ok statements =>
        (.ok (), output ++ printed (statements.map (line (statements.length > 1))))
      | .error e => (.error e, output) := by
  rw [World.printEach, ending_lift_bind]
  cases w.statements files with
  | ok statements => exact ending_forM_print statements _ output
  | error e => rfl

theorem isAllOrNothing_printEach (w : World) (files : List Text)
    (line : Bool → Statement → Text) : IsAllOrNothing (w.printEach files line) := by
  -- once the statements are read, nothing can fail any more
  refine IsAllOrNothing.lift_bind fun statements ↦ Session.isAllOrNothing_of_ok fun output ↦ ?_
  rw [ending_forM_print]
  exact ⟨(), rfl⟩

theorem ending_escape {json : Reader Json} {document : Text} {j : Json} (h : json document = .ok j)
    (output : Text) :
    (escape json document).ending output =
      (.ok (), output ++ printed [(Value.ofJson j).literal]) := by
  rw [escape, h]
  rfl

theorem isAllOrNothing_print (line : Text) : IsAllOrNothing (print line) :=
  Session.isAllOrNothing_of_ok fun _ ↦ ⟨(), rfl⟩

theorem isAllOrNothing_escape (json : Reader Json) (document : Text) :
    IsAllOrNothing (escape json document) := by
  unfold escape
  split
  · exact isAllOrNothing_print _
  · exact Session.isAllOrNothing_throw _

theorem isAllOrNothing_perform (l : Libraries) (w : World) (r : Request) :
    IsAllOrNothing (l.perform w r) := by
  cases r with
  | help topic => exact isAllOrNothing_print topic.text
  | minify a => exact IsAllOrNothing.lift_bind fun _ ↦ isAllOrNothing_printEach w a.files _
  | subst a => exact IsAllOrNothing.lift_bind fun _ ↦ isAllOrNothing_printEach w a.files _
  | html a => exact IsAllOrNothing.lift_bind fun _ ↦ isAllOrNothing_printEach w a.files _
  | escape document => exact isAllOrNothing_escape l.json document

theorem output_eq_nil_of_code (l : Libraries) (w : World) (arguments : List Text)
    (h : (l.run w arguments).code ≠ 0) : (l.run w arguments).output = [] := by
  have hnothing : IsAllOrNothing (l.session w arguments) :=
    IsAllOrNothing.lift_bind fun r ↦ isAllOrNothing_perform l w r
  rw [Libraries.run] at h ⊢
  split at h
  · exact absurd rfl h
  · next e output he =>
    have hprinted := hnothing [] e (congrArg Prod.fst he)
    rwa [he] at hprinted

end StatementView.Command
