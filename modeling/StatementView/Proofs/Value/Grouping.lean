import StatementView.Proofs.Placeholder.Literals

namespace StatementView

namespace Text

variable {separator : Text}

theorem join_cons {t : Text} {ts : List Text} (h : ts ≠ []) :
    join separator (t :: ts) = t ++ separator ++ join separator ts := by
  obtain ⟨u, us, rfl⟩ := List.exists_cons_of_ne_nil h
  rfl

theorem join_append {ts us : List Text} (ht : ts ≠ []) (hu : us ≠ []) :
    join separator (ts ++ us) = join separator ts ++ separator ++ join separator us := by
  induction ts with
  | nil => exact absurd rfl ht
  | cons t ts ih =>
    cases ts with
    | nil => exact join_cons hu
    | cons t' ts =>
      have hne : t' :: ts ++ us ≠ [] := List.cons_ne_nil t' (ts ++ us)
      rw [List.cons_append, join_cons hne, ih (List.cons_ne_nil t' ts),
        join_cons (List.cons_ne_nil t' ts)]
      simp only [List.append_assoc]

theorem join_map_join {groups : List (List Text)} (h : ∀ ts ∈ groups, ts ≠ []) :
    join separator (groups.map (join separator)) = join separator groups.flatten := by
  induction groups with
  | nil => rfl
  | cons ts groups ih =>
    obtain ⟨hts, hgroups⟩ := List.forall_mem_cons.mp h
    cases groups with
    | nil =>
      rw [List.flatten_singleton]
      rfl
    | cons us groups =>
      have hmap : (us :: groups).map (join separator) ≠ [] := List.cons_ne_nil _ _
      have hflat : (us :: groups).flatten ≠ [] :=
        List.append_ne_nil_of_left_ne_nil (hgroups us List.mem_cons_self) _
      rw [List.map_cons, join_cons hmap, ih hgroups, ← join_append hts hflat, ← List.flatten_cons]

end Text

namespace Value

def IsList (v : Value) : Prop := ∃ items, v = .list items

/-- A value is reached from another through lists: it is that value, or reached from an item of it. -/
inductive Reaches : Value → Value → Prop
  | self (v : Value) : Reaches v v
  | item {items : List Value} {item v : Value} :
      item ∈ items → Reaches item v → Reaches (.list items) v

mutual

/-- The values that are no lists themselves, through lists within lists, from left to right. -/
def leaves : Value → List Value
  | .list items => leavesOf items
  | v => [v]

def leavesOf : List Value → List Value
  | [] => []
  | item :: items => item.leaves ++ leavesOf items

end

/-- Lists may be nested to any depth, and other values are not looked into. -/
theorem inductionOnLists {motive : Value → Prop} (leaf : ∀ v, ¬ v.IsList → motive v)
    (list : ∀ items, (∀ item ∈ items, motive item) → motive (.list items)) :
    ∀ v, motive v
  | .list items => list items fun item _ ↦ inductionOnLists leaf list item
  | .null | .bool _ | .integer _ | .float _ | .numeral _ | .text _ | .bytes _ | .bound _
  | .object _ => leaf _ (by simp [IsList])

theorem leaves_list (items : List Value) : (Value.list items).leaves = items.flatMap leaves := by
  have hitems : leavesOf items = items.flatMap leaves := by
    induction items with
    | nil => rfl
    | cons item items ih => rw [leavesOf, ih, List.flatMap_cons]
  rw [leaves, hitems]

theorem leaves_of_not_isList {v : Value} (h : ¬ v.IsList) : v.leaves = [v] := by
  cases v with
  | list items => exact absurd ⟨items, rfl⟩ h
  | _ => rfl

theorem literals_eq_map (items : List Value) : literals items = items.map literal := by
  induction items with
  | nil => rfl
  | cons item items ih => rw [literals, ih, List.map_cons]

theorem plains_eq_map (items : List Value) : plains items = items.map plain := by
  induction items with
  | nil => rfl
  | cons item items ih => rw [plains, ih, List.map_cons]

theorem reaches_iff_of_not_isList {v u : Value} (hv : ¬ v.IsList) : v.Reaches u ↔ u = v := by
  constructor
  · intro h
    cases h with
    | self => rfl
    | item hitem h => exact absurd ⟨_, rfl⟩ hv
  · rintro rfl
    exact .self u

theorem reaches_list_iff {items : List Value} {u : Value} :
    (Value.list items).Reaches u ↔ u = .list items ∨ ∃ item ∈ items, item.Reaches u := by
  constructor
  · intro h
    cases h with
    | self => exact .inl rfl
    | item hitem h => exact .inr ⟨_, hitem, h⟩
  · rintro (rfl | ⟨item, hitem, h⟩)
    · exact .self _
    · exact .item hitem h

theorem mem_leaves_iff {v u : Value} : u ∈ v.leaves ↔ v.Reaches u ∧ ¬ u.IsList := by
  induction v using inductionOnLists with
  | leaf v hv =>
    rw [leaves_of_not_isList hv, List.mem_singleton, reaches_iff_of_not_isList hv]
    exact iff_self_and.mpr fun h ↦ h ▸ hv
  | list items ih =>
    rw [leaves_list, List.mem_flatMap, reaches_list_iff]
    constructor
    · intro h
      obtain ⟨item, hitem, hu⟩ := h
      obtain ⟨hreach, hlist⟩ := (ih item hitem).mp hu
      exact ⟨.inr ⟨item, hitem, hreach⟩, hlist⟩
    · intro h
      obtain ⟨rfl | ⟨item, hitem, hreach⟩, hlist⟩ := h
      · exact absurd ⟨items, rfl⟩ hlist
      · exact ⟨item, hitem, (ih item hitem).mpr ⟨hreach, hlist⟩⟩

theorem not_reaches_of_mem {items : List Value} {item u : Value} (hitem : item ∈ items)
    (h : ¬ (Value.list items).Reaches u) : ¬ item.Reaches u :=
  fun hu ↦ h (.item hitem hu)

theorem leaves_ne_nil {v : Value} (h : ¬ v.Reaches (.list [])) : v.leaves ≠ [] := by
  induction v using inductionOnLists with
  | leaf v hv =>
    rw [leaves_of_not_isList hv]
    exact List.cons_ne_nil v []
  | list items ih =>
    cases items with
    | nil => exact absurd (.self _) h
    | cons item items =>
      rw [leaves_list, List.flatMap_cons]
      refine List.append_ne_nil_of_left_ne_nil ?_ _
      exact ih item List.mem_cons_self (not_reaches_of_mem List.mem_cons_self h)

theorem eq_join_leaves {f : Value → Text} {separator : Text}
    (hf : ∀ items, f (.list items) = Text.join separator (items.map f)) {v : Value}
    (h : ¬ v.Reaches (.list [])) : f v = Text.join separator (v.leaves.map f) := by
  induction v using inductionOnLists with
  | leaf v hv =>
    rw [leaves_of_not_isList hv]
    rfl
  | list items ih =>
    have hitems : items.map f =
        (items.map fun item ↦ item.leaves.map f).map (Text.join separator) := by
      rw [List.map_map]
      exact List.map_congr_left fun item hitem ↦ ih item hitem (not_reaches_of_mem hitem h)
    -- an item without leaves would leave a separator too many
    have hgroups : ∀ ts ∈ items.map fun item ↦ item.leaves.map f, ts ≠ [] := by
      intro ts hts
      obtain ⟨item, hitem, rfl⟩ := List.mem_map.mp hts
      exact mt List.map_eq_nil_iff.mp (leaves_ne_nil (not_reaches_of_mem hitem h))
    rw [hf, hitems, Text.join_map_join hgroups, leaves_list, List.map_flatMap, List.flatMap]

theorem literal_eq_join_leaves {v : Value} (h : ¬ v.Reaches (.list [])) :
    v.literal = Text.join [',', ' '] (v.leaves.map literal) := by
  refine eq_join_leaves ?_ h
  intro items
  rw [literal, literals_eq_map]

theorem plain_eq_join_leaves {v : Value} (h : ¬ v.Reaches (.list [])) :
    v.plain = Text.join [',', ' '] (v.leaves.map plain) := by
  refine eq_join_leaves ?_ h
  intro items
  rw [plain, plains_eq_map]

/-- The literal of a value in which no list is empty is the literals of its leaves, which are the
values in it that are no lists, in order and with commas between them, and its plain text is their
plain texts. So values with the same leaves are written alike wherever they are bound, however their
leaves are grouped into lists. -/
theorem literal_of_leaves (v : Value) (h : ¬ v.Reaches (.list [])) :
    v.literal = Text.join [',', ' '] (v.leaves.map literal) ∧
      v.plain = Text.join [',', ' '] (v.leaves.map plain) ∧
      (∀ u, u ∈ v.leaves ↔ v.Reaches u ∧ ¬ u.IsList) ∧
      ∀ w : Value, ¬ w.Reaches (.list []) → w.leaves = v.leaves →
        w.literal = v.literal ∧ w.plain = v.plain ∧
          ∀ (b : Bindings) (key : Key) (t : Text),
            Placeholder.substitute (b.put key w) t = Placeholder.substitute (b.put key v) t := by
  have hliteral := literal_eq_join_leaves h
  have hplain := plain_eq_join_leaves h
  refine ⟨hliteral, hplain, fun u ↦ mem_leaves_iff, ?_⟩
  intro w hw hleaves
  have hsame : w.literal = v.literal := by
    rw [literal_eq_join_leaves hw, hleaves, hliteral]
  refine ⟨hsame, ?_, fun b key t ↦ (Bindings.SameLiterals.put b key hsame).substitute_eq t⟩
  rw [plain_eq_join_leaves hw, hleaves, hplain]

theorem literal_of_leaves_regrouped :
    ¬ (Value.list [.list [.integer 1, .null], .text ['a']]).Reaches (.list []) ∧
      ¬ (Value.list [.integer 1, .list [.list [.null, .text ['a']]]]).Reaches (.list []) ∧
      (Value.list [.list [.integer 1, .null], .text ['a']]).literal = "1, NULL, 'a'".toList ∧
      Placeholder.substitute (.put .empty (.index 0)
          (.list [.integer 1, .list [.list [.null, .text ['a']]]])) "IN (?)".toList =
        Placeholder.substitute (.put .empty (.index 0)
          (.list [.list [.integer 1, .null], .text ['a']])) "IN (?)".toList := by
  have hv : ¬ (Value.list [.list [.integer 1, .null], .text ['a']]).Reaches (.list []) := by
    simp [reaches_list_iff, reaches_iff_of_not_isList, IsList]
  have hw : ¬ (Value.list [.integer 1, .list [.list [.null, .text ['a']]]]).Reaches (.list []) := by
    simp [reaches_list_iff, reaches_iff_of_not_isList, IsList]
  obtain ⟨hliteral, -, -, hsame⟩ := literal_of_leaves _ hv
  refine ⟨hv, hw, hliteral.trans (by decide), ?_⟩
  obtain ⟨-, -, hsubstitute⟩ := hsame _ hw rfl
  exact hsubstitute _ _ _

example : (Value.list [.list [], .integer 1]).literal = ", 1".toList := by decide

end Value

end StatementView
