import StatementView.Combination

namespace StatementView

/-- A walk through the combinations of some elements, which moves its positions in place. A step may
be a fault here, where it reads or subtracts; the program enumerates by `Combinations`, whose steps
cannot, and the two answer alike call by call. -/
structure Walk (α : Type) where
  elements : List α
  positions : List Nat
  started : Bool
  done : Bool

namespace Walk

inductive Fault where
  | belowZero
  | outOfRange

def minus (a b : Nat) : Except Fault Nat := if b ≤ a then .ok (a - b) else .error .belowZero

def read {α : Type} (l : List α) (i : Nat) : Except Fault α :=
  match l[i]? with
  | some a => .ok a
  | none => .error .outOfRange

def write {α : Type} (l : List α) (i : Nat) (a : α) : Except Fault (List α) :=
  if i < l.length then .ok (l.set i a) else .error .outOfRange

/-- The last of the first `count` positions that can move up below `n`. -/
def pivot? (n : Nat) (positions : List Nat) : Nat → Except Fault (Option Nat)
  | 0 => .ok none
  | i + 1 => do
    let position ← read positions i
    let spare ← minus n positions.length
    if position < spare + i then .ok (some i) else pivot? n positions i

def closeUp (positions : List Nat) (j : Nat) : Nat → Except Fault (List Nat)
  | 0 => .ok positions
  | count + 1 => do
    let before ← read positions (← minus j 1)
    closeUp (← write positions j (before + 1)) (j + 1) count

def advance (n : Nat) (positions : List Nat) : Except Fault (Option (List Nat)) := do
  match ← pivot? n positions positions.length with
  | none => .ok none
  | some i =>
    let moved ← write positions i ((← read positions i) + 1)
    let closed ← closeUp moved (i + 1) (positions.length - (i + 1))
    .ok (some closed)

section Calls

variable {α : Type}

def start (elements : List α) (level : Nat) : Walk α :=
  ⟨elements, List.range level, false, level = 0 ∨ elements.length < level⟩

def answer (w : Walk α) : Except Fault (List α) := w.positions.mapM (read w.elements)

def next (w : Walk α) : Except Fault (Option (List α) × Walk α) :=
  if w.done then .ok (none, w)
  else if w.started then do
    match ← advance w.elements.length w.positions with
    | none => .ok (none, { w with done := true })
    | some positions =>
      let w := { w with positions := positions }
      .ok (some (← w.answer), w)
  else do
    let w := { w with started := true }
    .ok (some (← w.answer), w)

def calls (w : Walk α) : Nat → Except Fault (List (Option (List α)) × Walk α)
  | 0 => .ok ([], w)
  | count + 1 => do
    let (answer, w) ← w.next
    let (answers, w) ← w.calls count
    .ok (answer :: answers, w)

end Calls

end Walk

end StatementView
