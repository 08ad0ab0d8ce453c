import Mathlib.Algebra.BigOperators.Group.Finset.Basic
import Mathlib.Algebra.BigOperators.Group.List.Basic
import Mathlib.Algebra.Order.BigOperators.Group.Finset
import Mathlib.Algebra.Order.BigOperators.Group.List
import Mathlib.Algebra.Order.Group.Unbundled.Basic
import Mathlib.Data.List.AList
import Mathlib.Tactic.Abel

/-! Tables as one finite map from keys to rows, where the key says which table a row is in.
Writes are laid over a store newest first, and a weight of the rows adds up to a total.
-/

namespace Database

variable {κ : Type} [DecidableEq κ] {Row : κ → Type}

/-- The store after a list of writes, of which the first is the newest. -/
def overlay (writes : List (Sigma Row)) (store : AList Row) : AList Row :=
  writes.foldr (fun write later => later.insert write.1 write.2) store

@[simp]
theorem overlay_nil (store : AList Row) : overlay [] store = store := rfl

@[simp]
theorem overlay_cons (write : Sigma Row) (writes : List (Sigma Row)) (store : AList Row)
    : overlay (write :: writes) store = (overlay writes store).insert write.1 write.2 :=
  rfl

/-- A store answers with its newest write, by induction on the writes. -/
theorem lookup_overlay (key : κ) (writes : List (Sigma Row)) (store : AList Row)
    : (overlay writes store).lookup key = (writes.dlookup key).or (store.lookup key) := by
  induction writes with
  | nil => simp
  | cons write writes ih =>
      obtain ⟨written, row⟩ := write
      by_cases same : key = written
      · subst same
        simp
      · rw [overlay_cons, AList.lookup_insert_ne same, List.dlookup_cons_ne _ _ same]
        exact ih

theorem lookup_overlay_of_written {key : κ} {row : Row key} {writes : List (Sigma Row)}
    (store : AList Row) (written : writes.dlookup key = some row)
    : (overlay writes store).lookup key = some row := by
  rw [lookup_overlay, written, Option.some_or]

theorem lookup_overlay_of_unwritten {key : κ} {writes : List (Sigma Row)} (store : AList Row)
    (unwritten : writes.dlookup key = none)
    : (overlay writes store).lookup key = store.lookup key := by
  rw [lookup_overlay, unwritten, Option.none_or]

/-- What a store shows was written last or was there before. -/
theorem lookup_overlay_cases {key : κ} {row : Row key} {writes : List (Sigma Row)}
    {store : AList Row} (shown : (overlay writes store).lookup key = some row)
    : ⟨key, row⟩ ∈ writes ∨ store.lookup key = some row := by
  rw [lookup_overlay] at shown
  rcases Option.or_eq_some_iff.mp shown with written | ⟨_, before⟩
  · exact Or.inl (List.of_mem_dlookup written)
  · exact Or.inr before

/-- What a store shows after an insertion was inserted or was there before. -/
theorem lookup_insert_cases {key written : κ} {row : Row key} {new : Row written}
    {store : AList Row} (shown : (store.insert written new).lookup key = some row)
    : (⟨key, row⟩ : Sigma Row) = ⟨written, new⟩ ∨ store.lookup key = some row := by
  rw [← overlay_nil store, ← overlay_cons ⟨written, new⟩ [] store] at shown
  exact (lookup_overlay_cases shown).imp_left List.mem_singleton.mp

variable {M : Type} [AddCommGroup M]

/-- The weight of all rows of a store. -/
def total (weight : Sigma Row → M) (store : AList Row) : M := (store.entries.map weight).sum

/-- The weight that a key has in a store, zero where it is absent. -/
def weightAt (weight : Sigma Row → M) (store : AList Row) (key : κ) : M :=
  (store.lookup key).elim 0 fun row => weight ⟨key, row⟩

/-- Erasing a key takes its weight away, by induction on the entries. -/
theorem sum_kerase (weight : Sigma Row → M) (key : κ) (entries : List (Sigma Row))
    : ((entries.kerase key).map weight).sum
      = (entries.map weight).sum - (entries.dlookup key).elim 0 fun row => weight ⟨key, row⟩ := by
  induction entries with
  | nil => simp
  | cons entry entries ih =>
      obtain ⟨first, row⟩ := entry
      by_cases same : key = first
      · subst same
        have erased : List.kerase key (⟨key, row⟩ :: entries) = entries :=
          List.kerase_cons_eq rfl
        simp [erased]
      · rw [List.kerase_cons_ne same, List.dlookup_cons_ne _ _ same, List.map_cons,
          List.sum_cons, List.map_cons, List.sum_cons, ih]
        exact add_sub_assoc' _ _ _

/-- Writing a row replaces the weight of its key. -/
theorem total_insert (weight : Sigma Row → M) (store : AList Row) (key : κ) (row : Row key)
    : total weight (store.insert key row)
      = total weight store - weightAt weight store key + weight ⟨key, row⟩ := by
  have erased := sum_kerase weight key store.entries
  simp only [total, AList.entries_insert, List.map_cons, List.sum_cons, erased]
  exact add_comm _ _

/-- How much a write adds to the total of a store. -/
def gain (weight : Sigma Row → M) (store : AList Row) (write : Sigma Row) : M :=
  weight write - weightAt weight store write.1

section

variable {weight : Sigma Row → M} {store : AList Row} {key : κ} {old new : Row key}

theorem gain_of_found (found : store.lookup key = some old)
    : gain weight store ⟨key, new⟩ = weight ⟨key, new⟩ - weight ⟨key, old⟩ := by
  rw [gain, weightAt, found, Option.elim_some]

theorem gain_of_absent (absent : store.lookup key = none)
    : gain weight store ⟨key, new⟩ = weight ⟨key, new⟩ := by
  rw [gain, weightAt, absent, Option.elim_none, sub_zero]

/-- Rows that weigh nothing gain nothing. -/
theorem gain_of_weightless (weightless : ∀ row, weight ⟨key, row⟩ = 0)
    : gain weight store ⟨key, new⟩ = 0 := by
  cases found : store.lookup key with
  | none => rw [gain_of_absent found, weightless]
  | some old => rw [gain_of_found found, weightless, weightless, sub_zero]

end

/-- Writes of different rows add up, by induction on the writes. -/
theorem total_overlay (weight : Sigma Row → M) (store : AList Row)
    {writes : List (Sigma Row)} (nodup : writes.NodupKeys)
    : total weight (overlay writes store)
      = total weight store + (writes.map (gain weight store)).sum := by
  induction writes with
  | nil => simp
  | cons write writes ih =>
      obtain ⟨unwritten, nodup⟩ := List.nodupKeys_cons.mp nodup
      have before : weightAt weight (overlay writes store) write.1
          = weightAt weight store write.1 := by
        rw [weightAt, lookup_overlay_of_unwritten store (List.dlookup_eq_none.mpr unwritten),
          weightAt]
      rw [overlay_cons, total_insert, ih nodup, before, List.map_cons, List.sum_cons, gain]
      abel

/-- A row weighs no more than the whole store if nothing has a negative weight. -/
theorem weightAt_le_total [PartialOrder M] [IsOrderedAddMonoid M] {weight : Sigma Row → M}
    {store : AList Row} (nonneg : ∀ key row, store.lookup key = some row → 0 ≤ weight ⟨key, row⟩)
    (key : κ)
    : weightAt weight store key ≤ total weight store := by
  have erased := sum_kerase weight key store.entries
  have rest : 0 ≤ ((store.entries.kerase key).map weight).sum := by
    refine List.sum_nonneg fun value member => ?_
    obtain ⟨entry, kept, rfl⟩ := List.mem_map.mp member
    have present := List.kerase_sublist key store.entries |>.subset kept
    exact nonneg entry.1 entry.2 (AList.mem_lookup_iff.mpr present)
  rw [erased] at rest
  exact sub_nonneg.mp rest

/-- A total adds up the weights of the keys, of which there may be others. -/
theorem total_eq_sum (weight : Sigma Row → M) {store : AList Row} {keys : Finset κ}
    (all : ∀ key ∈ store, key ∈ keys)
    : total weight store = ∑ key ∈ keys, weightAt weight store key := by
  have entries : store.entries.map weight = store.keys.map (weightAt weight store) := by
    rw [AList.keys, List.keys, List.map_map]
    refine List.map_congr_left fun entry member => ?_
    rw [Function.comp_apply, weightAt, AList.mem_lookup_iff.mpr member, Option.elim_some]
  rw [total, entries, ← List.sum_toFinset _ store.keys_nodup]
  refine Finset.sum_subset (fun key member => all key (List.mem_toFinset.mp member)) ?_
  intro key _ absent
  have missing : store.lookup key = none :=
    AList.lookup_eq_none.mpr fun present => absent (List.mem_toFinset.mpr present)
  rw [weightAt, missing, Option.elim_none]

/-- If no key gains weight, the total does not. -/
theorem total_le_total [PartialOrder M] [IsOrderedAddMonoid M] {weight : Sigma Row → M}
    {before after : AList Row} (le : ∀ key, weightAt weight after key ≤ weightAt weight before key)
    : total weight after ≤ total weight before := by
  have both (store : AList Row) (among : store = before ∨ store = after)
      : ∀ key ∈ store, key ∈ (before.keys ++ after.keys).toFinset := by
    intro key present
    rw [List.mem_toFinset, List.mem_append]
    rcases among with rfl | rfl
    · exact Or.inl present
    · exact Or.inr present
  rw [total_eq_sum weight (both before (Or.inl rfl)), total_eq_sum weight (both after (Or.inr rfl))]
  exact Finset.sum_le_sum fun key _ => le key

end Database
