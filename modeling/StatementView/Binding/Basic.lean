import StatementView.Binding.Key
import StatementView.Value.Basic

namespace StatementView

def putEntry (key : Key) (value : Value) : List (Key × Value) → List (Key × Value)
  | [] => [(key, value)]
  | (k, v) :: entries =>
    if k = key then (key, value) :: entries else (k, v) :: putEntry key value entries

theorem mem_keys_putEntry {key k : Key} {value : Value} {entries : List (Key × Value)} :
    k ∈ (putEntry key value entries).map Prod.fst ↔ k = key ∨ k ∈ entries.map Prod.fst := by
  induction entries with
  | nil => simp [putEntry]
  | cons entry entries ih =>
    obtain ⟨k', v'⟩ := entry
    simp only [putEntry]
    split
    · next h => simp [h]
    · rw [List.map_cons, List.mem_cons, ih, List.map_cons, List.mem_cons]
      exact or_left_comm

theorem nodup_keys_putEntry {key : Key} {value : Value} {entries : List (Key × Value)}
    (h : (entries.map Prod.fst).Nodup) : ((putEntry key value entries).map Prod.fst).Nodup := by
  induction entries with
  | nil => simp [putEntry]
  | cons entry entries ih =>
    obtain ⟨k', v'⟩ := entry
    simp only [List.map_cons, List.nodup_cons] at h
    simp only [putEntry]
    split
    · next hk => simpa [← hk] using h
    · next hk =>
      rw [List.map_cons, List.nodup_cons, mem_keys_putEntry]
      exact ⟨fun hm ↦ hm.elim hk h.1, ih h.2⟩

structure Bindings where
  entries : List (Key × Value)
  nodup_keys : (entries.map Prod.fst).Nodup

namespace Bindings

def empty : Bindings := ⟨[], List.nodup_nil⟩

def get? (b : Bindings) (key : Key) : Option Value :=
  (b.entries.find? fun entry ↦ entry.1 = key).map Prod.snd

def getIndex? (b : Bindings) (n : Nat) : Option Value := b.get? (.index n)

def getName? (b : Bindings) (t : Text) : Option Value := b.get? (Key.ofName t)

def containsIndex (b : Bindings) (n : Nat) : Bool := (b.getIndex? n).isSome

def size (b : Bindings) : Nat := b.entries.length

def isEmpty (b : Bindings) : Bool := b.entries.isEmpty

def put (b : Bindings) (key : Key) (value : Value) : Bindings :=
  ⟨putEntry key value b.entries, nodup_keys_putEntry b.nodup_keys⟩

def exchange (b : Bindings) (key : Key) (value : Value) : Option Value × Bindings :=
  (b.get? key, b.put key value)

def ofEntries (entries : List (Key × Value)) : Bindings :=
  entries.foldl (fun b (key, value) ↦ b.put key value) empty

def ofValues (start : Nat) (values : List Value) : Bindings :=
  ofEntries ((values.zipIdx start).map fun (value, n) ↦ (.index n, value))

def positional (values : List Value) : Bindings := ofValues 0 values

def oneBased (values : List Value) : Bindings := ofValues 1 values

/-- The position of the first value without a name: one when position 1 is bound and 0 is not. -/
def firstIndex (b : Bindings) : Nat :=
  if !b.containsIndex 0 && b.containsIndex 1 then 1 else 0

def same (a b : Bindings) : Bool :=
  a.size == b.size && a.entries.all fun (key, value) ↦
    match b.get? key with
    | some v => value == v
    | none => false

end Bindings

end StatementView
