namespace StatementView

/-- The combination after the one at ascending positions below `n`: the last position that can move
up does, and those behind it follow closely. -/
def nextPositions? (n : Nat) : List Nat → Option (List Nat)
  | [] => none
  | i :: is =>
    match nextPositions? n is with
    | some js => some (i :: js)
    | none =>
      if i + is.length + 1 < n then some (List.range' (i + 1) (is.length + 1)) else none

/-- How far ascending positions below `n` are from the last combination, read as the digits of a
number. -/
def distance (n : Nat) : List Nat → Nat
  | [] => 0
  | i :: is => (n - i) * Nat.pow (n + 1) is.length + distance n is

theorem length_nextPositions {n : Nat} {is js : List Nat} (h : nextPositions? n is = some js) :
    js.length = is.length := by
  induction is generalizing js with
  | nil => simp [nextPositions?] at h
  | cons i is ih =>
    simp only [nextPositions?] at h
    split at h
    · next ks hk =>
      obtain rfl := Option.some.inj h
      simp [ih hk]
    · split at h
      · obtain rfl := Option.some.inj h
        simp
      · simp at h

theorem distance_lt (n : Nat) (is : List Nat) :
    distance n is < Nat.pow (n + 1) is.length := by
  induction is with
  | nil => exact Nat.zero_lt_one
  | cons i is ih =>
    have h : (n - i) * Nat.pow (n + 1) is.length ≤ n * Nat.pow (n + 1) is.length :=
      Nat.mul_le_mul_right _ (Nat.sub_le n i)
    have hp : Nat.pow (n + 1) (is.length + 1) =
        n * Nat.pow (n + 1) is.length + Nat.pow (n + 1) is.length :=
      (Nat.mul_comm _ (n + 1)).trans (Nat.succ_mul n _)
    rw [distance, List.length_cons, hp]
    exact Nat.add_lt_add_of_le_of_lt h ih

theorem distance_nextPositions_lt {n : Nat} {is js : List Nat}
    (h : nextPositions? n is = some js) : distance n js < distance n is := by
  induction is generalizing js with
  | nil => simp [nextPositions?] at h
  | cons i is ih =>
    simp only [nextPositions?] at h
    split at h
    · next ks hk =>
      obtain rfl := Option.some.inj h
      have := ih hk
      simp only [distance, length_nextPositions hk]
      omega
    · split at h
      · next hi =>
        obtain rfl := Option.some.inj h
        have hd := distance_lt n (List.range' (i + 1 + 1) is.length)
        simp only [List.length_range'] at hd
        have hn : n - i = (n - (i + 1)) + 1 := by omega
        simp only [List.range'_succ, distance, List.length_range']
        rw [hn, Nat.add_mul, Nat.one_mul]
        omega
      · simp at h

/-- An enumeration of combinations: the elements they are taken from and the positions of the
combination that comes next, none when all have come. -/
structure Combinations (α : Type) where
  elements : List α
  upcoming : Option (List Nat)

namespace Combinations

variable {α : Type}

def start (elements : List α) (level : Nat) : Combinations α :=
  -- there is no combination of no element, not even the empty one
  ⟨elements, if level = 0 ∨ elements.length < level then none else some (List.range level)⟩

def pick (elements : List α) (positions : List Nat) : List α :=
  positions.filterMap fun i ↦ elements[i]?

def head? (c : Combinations α) : Option (List α) := c.upcoming.map (pick c.elements)

def tail (c : Combinations α) : Combinations α :=
  { c with upcoming := c.upcoming.bind (nextPositions? c.elements.length) }

def positionsFrom (n : Nat) (is : List Nat) : List (List Nat) :=
  match _h : nextPositions? n is with
  | some js => is :: positionsFrom n js
  | none => [is]
termination_by distance n is
decreasing_by exact distance_nextPositions_lt _h

def toList (c : Combinations α) : List (List α) :=
  match c.upcoming with
  | some is => (positionsFrom c.elements.length is).map (pick c.elements)
  | none => []

end Combinations

def combinations {α : Type} (elements : List α) (level : Nat) : List (List α) :=
  (Combinations.start elements level).toList

end StatementView
