import Mathlib.Data.List.AList

/-!
# Maps whose values carry their keys

A map from a key to a record that holds the same key, whose values are then
returned as a list, is a common shape of Go code. For such a map, the values
whose key field is a given key are exactly the one value the map holds at
that key: one value per key, and no value for a key the map does not hold.

Go's `for k, v := range entries { m[k] = v }` is `assignAll`: after it, a key
holds the value of its last entry, or what it held before. When the entries
are those of another map, visited in whatever order Go's runtime picks, the
order does not matter (`lookup_assignAll_of_perm`).
-/

namespace Forge.Lib.Maps

variable {α β : Type} [DecidableEq α]

/-- Every value of the map holds its own key. -/
def KeyedBy (key : β → α) (s : AList fun _ : α => β) : Prop :=
  ∀ a b, s.lookup a = some b → key b = a

theorem filter_values_eq_dlookup (key : β → α) :
    ∀ (l : List (Σ _ : α, β)), l.NodupKeys → (∀ x ∈ l, key x.2 = x.1) →
      ∀ a, (l.map (·.2)).filter (fun b => key b = a) = (l.dlookup a).toList
  | [], _, _, _ => rfl
  | ⟨k, v⟩ :: rest, nodup, keyed, a => by
    obtain ⟨notInRest, restNodup⟩ := List.nodupKeys_cons.mp nodup
    have restKeyed : ∀ x ∈ rest, key x.2 = x.1 := fun x mem => keyed x (List.mem_cons_of_mem _ mem)
    have headKey : key v = k := keyed ⟨k, v⟩ List.mem_cons_self
    have restValues := filter_values_eq_dlookup key rest restNodup restKeyed a
    by_cases same : k = a
    · -- the head holds `a`, and no other entry does
      subst same
      rw [List.map_cons, List.filter_cons_of_pos (by simp [headKey]), List.dlookup_cons_eq,
        restValues, List.dlookup_eq_none.mpr notInRest]
      rfl
    · rw [List.map_cons, List.filter_cons_of_neg (by simp [headKey, same]),
        List.dlookup_cons_ne _ _ (Ne.symm same), restValues]

theorem filter_values_eq_lookup (key : β → α) (s : AList fun _ : α => β) (keyed : KeyedBy key s)
    (a : α) : (s.entries.map (·.2)).filter (fun b => key b = a) = (s.lookup a).toList :=
  filter_values_eq_dlookup key s.entries s.nodupKeys
    (fun x mem => keyed x.1 x.2 (AList.mem_lookup_iff.mpr mem)) a

/-! ## Assignment loops -/

/-- `for k, v := range entries { m[k] = v }`: the entries assigned in turn,
a later one replacing an earlier one of the same key. -/
def assignAll (entries : List (Σ _ : α, β)) (m : AList fun _ : α => β) : AList fun _ : α => β :=
  entries.foldl (fun acc e => acc.insert e.1 e.2) m

@[simp] theorem assignAll_nil (m : AList fun _ : α => β) : assignAll [] m = m := rfl

theorem assignAll_cons (e : Σ _ : α, β) (entries : List (Σ _ : α, β)) (m : AList fun _ : α => β) :
    assignAll (e :: entries) m = assignAll entries (m.insert e.1 e.2) := rfl

/-- After the loop a key holds the value of its last entry, or what it held
before. -/
theorem lookup_assignAll (entries : List (Σ _ : α, β)) (m : AList fun _ : α => β) (a : α) :
    (assignAll entries m).lookup a = (entries.reverse.dlookup a).or (m.lookup a) := by
  induction entries generalizing m with
  | nil => simp
  | cons e rest ih =>
    obtain ⟨k, v⟩ := e
    rw [assignAll_cons, ih, List.reverse_cons, List.dlookup_append, Option.or_assoc]
    congr 1
    by_cases same : a = k
    · subst same
      simp [AList.lookup_insert]
    · rw [AList.lookup_insert_ne same, List.dlookup_cons_ne [] (⟨k, v⟩ : Σ _ : α, β) same,
        List.dlookup_nil, Option.none_or]

theorem lookup_assignAll_of_perm {entries : List (Σ _ : α, β)} {source : AList fun _ : α => β}
    (order : entries.Perm source.entries) (m : AList fun _ : α => β) (a : α) :
    (assignAll entries m).lookup a = (source.lookup a).or (m.lookup a) := by
  have reordered : entries.reverse.dlookup a = source.entries.dlookup a :=
    (List.perm_dlookup a source.nodupKeys ((List.reverse_perm entries).trans order).symm).symm
  rw [lookup_assignAll, reordered]
  rfl

theorem lookup_assignAll_keyed (key : β → α) {s : AList fun _ : α => β} (keyed : KeyedBy key s)
    (m : AList fun _ : α => β) (a : α) :
    (assignAll (s.entries.map fun e => ⟨key e.2, e.2⟩) m).lookup a = (s.lookup a).or (m.lookup a) := by
  have rekeyed : (s.entries.map fun e => (⟨key e.2, e.2⟩ : Σ _ : α, β)) = s.entries := by
    conv => rhs; rw [← List.map_id s.entries]
    apply List.map_congr_left
    intro e mem
    rw [keyed e.1 e.2 (AList.mem_lookup_iff.mpr mem)]
    rfl
  rw [rekeyed]
  exact lookup_assignAll_of_perm (List.Perm.refl _) m a

theorem dlookup_reverse (entries : List (Σ _ : α, β)) (a : α) :
    entries.reverse.dlookup a = (entries.filterMap fun e => if e.1 = a then some e.2 else none).getLast? := by
  induction entries with
  | nil => rfl
  | cons e rest ih =>
    obtain ⟨k, v⟩ := e
    rw [List.reverse_cons, List.dlookup_append, ih]
    by_cases same : k = a
    · subst same
      simp [List.getLast?_cons]
    · rw [List.dlookup_cons_ne [] (⟨k, v⟩ : Σ _ : α, β) (Ne.symm same), List.dlookup_nil, Option.or_none]
      simp [same]

theorem dlookup_map_key {f : α → α} (injective : f.Injective) (entries : List (Σ _ : α, β)) (a : α) :
    (entries.map fun e => (⟨f e.1, e.2⟩ : Σ _ : α, β)).dlookup (f a) = entries.dlookup a := by
  induction entries with
  | nil => rfl
  | cons e rest ih =>
    obtain ⟨k, v⟩ := e
    by_cases same : a = k
    · subst same
      simp
    · have renamed : f a ≠ f k := fun h => same (injective h)
      rw [List.map_cons, List.dlookup_cons_ne _ (⟨f k, v⟩ : Σ _ : α, β) renamed,
        List.dlookup_cons_ne _ (⟨k, v⟩ : Σ _ : α, β) same, ih]

theorem dlookup_map_key_of_not_mem {f : α → α} (entries : List (Σ _ : α, β)) {a : α}
    (outside : ∀ b, f b ≠ a) : (entries.map fun e => (⟨f e.1, e.2⟩ : Σ _ : α, β)).dlookup a = none := by
  rw [List.dlookup_eq_none]
  simp only [List.keys, List.map_map, List.mem_map, Function.comp_apply, not_exists, not_and]
  exact fun e _ => outside e.1

end Forge.Lib.Maps
