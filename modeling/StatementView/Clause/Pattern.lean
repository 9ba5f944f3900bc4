import StatementView.Text.Blank
import StatementView.Text.Folding

namespace StatementView

structure Capture where
  keyword : Text
  value : Text

namespace Clause

/-- What follows a keyword at the front of a text. Letters match in any case of any script. -/
def afterKeyword? : Text → Text → Option Text
  | [], t => some t
  | _ :: _, [] => none
  | k :: keyword, c :: t =>
    if Text.fold k = Text.fold c then afterKeyword? keyword t else none

def afterBlank? : Text → Option Text
  | [] => none
  | c :: t => if Text.isBlank c then some t else none

/-- The shortest gap with a blank behind it where `accept` takes the rest, and its answer. -/
def seek {α : Type} (accept : Text → Option α) : Text → Option (Text × α)
  | [] => none
  | c :: t =>
    match if Text.isBlank c then accept t else none with
    | some answer => some ([], answer)
    | none => (seek accept t).map fun (gap, answer) ↦ (c :: gap, answer)

/-- The answer of `accept` behind the longest run of blanks at the front where it has one. -/
def skipBlanks {α : Type} (accept : Text → Option α) : Text → Option α
  | [] => accept []
  | c :: t =>
    if Text.isBlank c then
      match skipBlanks accept t with
      | some answer => some answer
      | none => accept (c :: t)
    else accept (c :: t)

def gaps? : List Text → Text → Option (List Text)
  | [], t => (afterBlank? t).map ([·])
  | [k], t =>
    (seek (fun u ↦ (afterKeyword? k u).bind afterBlank?) t).map fun (gap, rest) ↦ [gap, rest]
  | k :: k' :: keywords, t =>
    (seek (afterKeyword? k) t).bind fun (gap, rest) ↦ (gaps? (k' :: keywords) rest).map (gap :: ·)

structure Pattern where
  keywords : List Text

namespace Pattern

def ofKeywords (keywords : List Text) : Pattern := ⟨keywords.map Text.upper⟩

def gaps? (p : Pattern) (t : Text) : Option (List Text) :=
  match p.keywords with
  | [] => some []
  | k :: keywords => skipBlanks (fun u ↦ (afterKeyword? k u).bind (Clause.gaps? keywords)) t

def captures? (p : Pattern) (t : Text) : Option (List Capture) :=
  (p.gaps? t).map fun gaps ↦ List.zipWith (fun k gap ↦ ⟨k, Text.trim gap⟩) p.keywords gaps

def isMatch (p : Pattern) (t : Text) : Bool := (p.gaps? t).isSome

end Pattern

end Clause

end StatementView
