import Mathlib.Data.Finset.Card
import StatementView.Proofs.Binding.Lookup
import StatementView.Proofs.Decimal.Canonical

namespace StatementView

namespace Key

theorem ofName_cases (t : Text) :
    (∃ n < Decimal.wordBound, Decimal.natural n = t ∧ ofName t = .index n) ∨
      ofName t = .name t := by
  unfold ofName
  split
  · next n hread =>
    split
    · next ht => exact .inl ⟨n, Decimal.lt_of_word? hread, ht, rfl⟩
    · exact .inr rfl
  · exact .inr rfl

theorem ofName_eq_index_iff {t : Text} {n : Nat} :
    ofName t = .index n ↔ n < Decimal.wordBound ∧ Decimal.natural n = t := by
  constructor
  · intro h
    obtain ⟨m, hm, ht, hi⟩ | hname := ofName_cases t
    · rw [hi] at h
      cases h
      exact ⟨hm, ht⟩
    · rw [hname] at h
      cases h
  · intro h
    obtain ⟨hn, rfl⟩ := h
    rw [ofName, Decimal.word?_natural hn]
    exact if_pos rfl

theorem ofName_eq_name_iff {t s : Text} :
    ofName t = .name s ↔ s = t ∧ ∀ n < Decimal.wordBound, Decimal.natural n ≠ t := by
  obtain ⟨n, hn, ht, hi⟩ | hname := ofName_cases t
  · rw [hi]
    constructor
    · intro h
      cases h
    · intro h
      exact absurd ht (h.2 n hn)
  · constructor
    · intro h
      refine ⟨Key.name.inj (h.symm.trans hname), ?_⟩
      intro n hn ht
      rw [ofName_eq_index_iff.mpr ⟨hn, ht⟩] at h
      cases h
    · intro h
      rw [hname, h.1]

end Key

namespace Bindings

def putAll (b : Bindings) (entries : List (Key × Value)) : Bindings :=
  entries.foldl (fun b (key, value) ↦ b.put key value) b

/-- What each entry takes out as the entries are put one after the other, and the collection after
them. -/
def exchangeAll (b : Bindings) : List (Key × Value) → List (Option Value) × Bindings
  | [] => ([], b)
  | (key, value) :: entries =>
    let (old, b) := b.exchange key value
    let (olds, b) := exchangeAll b entries
    (old :: olds, b)

def keys (b : Bindings) : Finset Key := (b.entries.map Prod.fst).toFinset

def Agree (a b : Bindings) : Prop := ∀ key, a.get? key = b.get? key

variable {a b : Bindings}

theorem putAll_cons (b : Bindings) (key : Key) (value : Value) (entries : List (Key × Value)) :
    b.putAll ((key, value) :: entries) = (b.put key value).putAll entries := rfl

theorem putAll_take_succ (b : Bindings) {entries : List (Key × Value)} {i : Nat}
    {entry : Key × Value} (h : entries[i]? = some entry) :
    b.putAll (entries.take (i + 1)) = (b.putAll (entries.take i)).put entry.1 entry.2 := by
  rw [List.take_add_one, h, putAll, List.foldl_append]
  rfl

theorem get?_putAll (b : Bindings) (entries : List (Key × Value)) (key : Key) :
    (b.putAll entries).get? key = (entries.reverse.lookup key).or (b.get? key) := by
  induction entries generalizing b with
  | nil => rfl
  | cons entry entries ih =>
    obtain ⟨k, v⟩ := entry
    rw [putAll_cons, ih, get?_put, List.reverse_cons, List.lookup_append, Option.or_assoc]
    congr 1
    by_cases hk : key = k
    · rw [if_pos hk, hk, List.lookup_cons_self, Option.some_or]
    · have hb : (key == k) = false := beq_eq_false_iff_ne.mpr hk
      rw [if_neg hk, List.lookup_cons, hb]
      rfl

theorem exchangeAll_snd (b : Bindings) (entries : List (Key × Value)) :
    (b.exchangeAll entries).2 = b.putAll entries := by
  induction entries generalizing b with
  | nil => rfl
  | cons entry entries ih => exact ih (b.put entry.1 entry.2)

theorem getElem?_exchangeAll (b : Bindings) (entries : List (Key × Value)) (i : Nat) :
    (b.exchangeAll entries).1[i]? =
      entries[i]?.map fun entry ↦ (b.putAll (entries.take i)).get? entry.1 := by
  induction entries generalizing b i with
  | nil => rfl
  | cons entry entries ih =>
    cases i with
    | zero => rfl
    | succ i => exact ih (b.put entry.1 entry.2) i

theorem mem_keys_iff {key : Key} : key ∈ b.keys ↔ (b.get? key).isSome = true := by
  rw [keys, List.mem_toFinset, get?, Option.isSome_map, List.find?_isSome, List.mem_map]
  simp only [decide_eq_true_eq]

theorem size_eq_card (b : Bindings) : b.size = b.keys.card := by
  rw [size, keys, List.toFinset_card_of_nodup b.nodup_keys, List.length_map]

theorem keys_put (b : Bindings) (key : Key) (value : Value) :
    (b.put key value).keys = insert key b.keys := by
  ext k
  rw [Finset.mem_insert, keys, keys, List.mem_toFinset, List.mem_toFinset]
  exact mem_keys_putEntry

theorem keys_putAll (b : Bindings) (entries : List (Key × Value)) :
    (b.putAll entries).keys = b.keys ∪ (entries.map Prod.fst).toFinset := by
  induction entries generalizing b with
  | nil => exact (Finset.union_empty _).symm
  | cons entry entries ih =>
    obtain ⟨k, v⟩ := entry
    rw [putAll_cons, ih, keys_put, List.map_cons, List.toFinset_cons, Finset.insert_union,
      Finset.union_insert]

theorem firstIndex_congr (h : ∀ n, a.getIndex? n = b.getIndex? n) : a.firstIndex = b.firstIndex := by
  have hcontains (n : Nat) : a.containsIndex n = b.containsIndex n :=
    congrArg Option.isSome (h n)
  rw [firstIndex, firstIndex, hcontains, hcontains]

namespace Agree

theorem put (h : a.Agree b) (key : Key) (value : Value) :
    (a.put key value).Agree (b.put key value) := by
  intro k
  rw [get?_put, get?_put, h k]

theorem putAll (h : a.Agree b) (entries : List (Key × Value)) :
    (a.putAll entries).Agree (b.putAll entries) := by
  intro k
  rw [get?_putAll, get?_putAll, h k]

theorem put_comm (h : a.Agree b) {key key' : Key} (hne : key ≠ key') (value value' : Value) :
    ((a.put key value).put key' value').Agree ((b.put key' value').put key value) := by
  intro k
  simp only [get?_put, h k]
  by_cases hk : k = key
  · rw [if_neg (hk ▸ hne), if_pos hk, if_pos hk]
  · rw [if_neg hk, if_neg hk]

theorem putAll_perm {entries entries' : List (Key × Value)} (hp : entries.Perm entries')
    (hn : (entries.map Prod.fst).Nodup) (h : a.Agree b) :
    (a.putAll entries).Agree (b.putAll entries') := by
  induction hp generalizing a b with
  | nil => exact h
  | cons entry _ ih =>
    rw [List.map_cons, List.nodup_cons] at hn
    exact ih hn.2 (h.put entry.1 entry.2)
  | swap entry entry' entries =>
    simp only [List.map_cons, List.nodup_cons, List.mem_cons, not_or] at hn
    exact (h.put_comm hn.1.1 entry'.2 entry.2).putAll entries
  | trans hp _ ih ih' =>
    -- the first list leads from `a` to itself, the second one from `a` to `b`
    intro k
    rw [ih hn (fun _ ↦ rfl), ih' ((hp.map Prod.fst).nodup_iff.mp hn) h]

theorem firstIndex_eq (h : a.Agree b) : a.firstIndex = b.firstIndex :=
  firstIndex_congr fun n ↦ h (.index n)

end Agree

end Bindings

end StatementView
