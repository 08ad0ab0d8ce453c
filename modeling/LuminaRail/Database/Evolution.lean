import LuminaRail.Database.Isolation

/-! How the committed rows change when every write is justified by the row that it replaces.
A transaction may collect its writes one after the other: they hold the locks of their rows,
so what justified a write when it was made still justifies it at the commit.
-/

namespace Database

namespace Server

variable {κ : Type} [DecidableEq κ] {Row : κ → Type}

/-- Which row may replace which; `none` is an absent row. -/
abbrev Replaces (Row : κ → Type) := (key : κ) → Option (Row key) → Row key → Prop

/-- One replacement after the other is a replacement. -/
def Replaces.Transitive (R : Replaces Row) : Prop :=
  ∀ ⦃key old row next⦄, R key old row → R key (some row) next → R key old next

/-- The committed rows change by replacements, and no row disappears. -/
structure Evolves (R : Replaces Row) (before after : AList Row) : Prop where
  rows : ∀ {key row}, after.lookup key = some row
    → before.lookup key = some row ∨ R key (before.lookup key) row
  kept : ∀ {key}, (before.lookup key).isSome → (after.lookup key).isSome

/-- The writes of a transaction may replace the committed rows. -/
def Justified (R : Replaces Row) (writes : List (Sigma Row)) (server : Server Row) : Prop :=
  ∀ write ∈ writes, R write.1 (server.committed.lookup write.1) write.2

/-- Every open transaction has justified its writes. -/
def AllJustified (R : Nat → Replaces Row) (server : Server Row) : Prop :=
  ∀ ⦃x writes⦄, server.pending x = some writes → Justified (R x.owner) writes server

variable {R : Replaces Row} {server before middle after : Server Row} {x : TxId}
  {rows writes : List (Sigma Row)}

theorem Evolves.refl (R : Replaces Row) (store : AList Row) : Evolves R store store :=
  ⟨fun found => Or.inl found, fun found => found⟩

theorem Evolves.of_eq {first second : AList Row} (same : second = first)
    : Evolves R first second :=
  same ▸ Evolves.refl R first

theorem Evolves.trans {first second third : AList Row} (transitive : R.Transitive)
    (early : Evolves R first second) (late : Evolves R second third)
    : Evolves R first third := by
  refine ⟨fun {key row} found => ?_, fun present => late.kept (early.kept present)⟩
  rcases late.rows found with same | replaced
  · exact early.rows same
  · cases between : second.lookup key with
    | none =>
        have absent : first.lookup key = none := by
          by_contra present
          have := early.kept (Option.isSome_iff_ne_none.mpr present)
          simp [between] at this
        rw [between] at replaced
        exact Or.inr (absent ▸ replaced)
    | some row' =>
        rw [between] at replaced
        rcases early.rows between with same | first_replaced
        · exact Or.inr (same ▸ replaced)
        · exact Or.inr (transitive first_replaced replaced)

/-- More permissive replacements allow more. -/
theorem Evolves.mono {R' : Replaces Row} {first second : AList Row}
    (evolves : Evolves R first second)
    (weaker : ∀ key old row, R key old row → R' key old row)
    : Evolves R' first second :=
  ⟨fun found => (evolves.rows found).imp_right (weaker _ _ _), evolves.kept⟩

/-- A row that nothing may replace stays. -/
theorem Evolves.lookup_eq {first second : AList Row} {key : κ} (evolves : Evolves R first second)
    (fixed : ∀ old new, ¬R key old new)
    : second.lookup key = first.lookup key := by
  cases found : second.lookup key with
  | some row => exact ((evolves.rows found).resolve_right (fixed _ _)).symm
  | none =>
      by_contra present
      have kept := evolves.kept (Option.isSome_iff_ne_none.mpr (Ne.symm present))
      simp [found] at kept

/-- Laying justified writes over a store changes it by replacements. -/
theorem Evolves.overlay {store : AList Row}
    (justified : ∀ write ∈ writes, R write.1 (store.lookup write.1) write.2)
    : Evolves R store (overlay writes store) := by
  refine ⟨fun {key row} found => ?_, fun {key} present => ?_⟩
  · rcases lookup_overlay_cases found with written | before
    · exact Or.inr (justified _ written)
    · exact Or.inl before
  · obtain ⟨row, present⟩ := Option.isSome_iff_exists.mp present
    rw [lookup_overlay, present]
    cases writes.dlookup key <;> simp

/-- An open transaction's writes stay justified while its locks keep the rows in place. -/
theorem Justified.of_isolated (isolated : Isolated x.owner before after)
    (opened : after.pending x = some writes) (justified : Justified R writes before)
    : Justified R writes after := by
  intro write member
  have opened_before := isolated.writes rfl opened
  have held := before.writes_held opened_before write member
  rw [isolated.rows rfl (by simp [opened]) held]
  exact justified write member

/-- What a transaction sees is its own justified write or the committed row. -/
theorem Justified.visible (opened : server.pending x = some writes)
    (justified : Justified R writes server) {key : κ} {row : Row key}
    (seen : (server.visible (some x)).lookup key = some row)
    : R key (server.committed.lookup key) row ∨ server.committed.lookup key = some row := by
  simp only [Server.visible, opened, Option.getD_some] at seen
  rcases lookup_overlay_cases seen with written | committed
  · exact Or.inl (justified _ written)
  · exact Or.inr committed

/-- A statement whose rows may replace what its transaction sees leaves all its writes
justified.
-/
theorem Justified.save (transitive : R.Transitive) (opened : server.pending x = some writes)
    (justified : Justified R writes server)
    (rows_justified : ∀ row ∈ rows, R row.1 ((server.visible (some x)).lookup row.1) row.2)
    : Justified R (rows.reverse ++ writes) server := by
  intro write member
  rcases List.mem_append.mp member with new | old
  · have replaced := rows_justified write (List.mem_reverse.mp new)
    cases seen : (server.visible (some x)).lookup write.1 with
    | none =>
        rw [seen] at replaced
        simp only [Server.visible, opened, Option.getD_some, lookup_overlay,
          Option.or_eq_none_iff] at seen
        rw [seen.2]
        exact replaced
    | some row =>
        rw [seen] at replaced
        rcases justified.visible opened seen with first | committed
        · exact transitive first replaced
        · rw [committed]
          exact replaced
  · exact justified write old

variable {S : Nat → Replaces Row} {key : κ} {t : Nat}

theorem AllJustified.start (committed : AList Row) : AllJustified S (start committed) :=
  nofun

/-- A change that is isolated from every program but `t` needs care for the transactions of
`t` only.
-/
theorem AllJustified.step (justified : AllJustified S server)
    (isolated : ∀ u, u ≠ t → Isolated u server after)
    (own : ∀ {x writes}, x.owner = t → after.pending x = some writes
      → Justified (S t) writes after)
    : AllJustified S after := by
  intro x writes opened
  by_cases mine : x.owner = t
  · rw [mine]
    exact own mine opened
  · exact Justified.of_isolated (isolated x.owner mine) opened
      (justified ((isolated x.owner mine).writes rfl opened))

theorem AllJustified.begin (justified : AllJustified S server)
    : AllJustified S (server.begin t).2 := by
  intro x writes opened
  by_cases new : x = ⟨t, server.serial⟩
  · subst new
    simp only [begin_pending, Function.update_self, Option.some.injEq] at opened
    subst opened
    exact nofun
  · simp only [begin_pending, Function.update_of_ne new] at opened
    exact justified opened

theorem AllJustified.lock (justified : AllJustified S server)
    (granted : server.lock x key = some after)
    : AllJustified S after := by
  obtain ⟨_, _, committed, pending, _, _⟩ := lock_eq_some granted
  intro y writes opened
  rw [pending] at opened
  simpa [Justified, committed] using justified opened

theorem AllJustified.rollback (justified : AllJustified S server)
    : AllJustified S (server.rollback x) := by
  intro y writes opened
  by_cases same : y = x
  · simp [same] at opened
  · simp only [rollback_pending, Function.update_of_ne same] at opened
    exact justified opened

theorem AllJustified.save (justified : AllJustified S server) (transitive : (S x.owner).Transitive)
    (rows_justified : ∀ row ∈ rows,
      S x.owner row.1 ((server.visible (some x)).lookup row.1) row.2)
    (granted : server.save (some x) rows = some after)
    : AllJustified S after := by
  cases opened : server.pending x with
  | none =>
      cases rows with
      | nil =>
          obtain rfl := Option.some.inj granted
          exact justified
      | cons row rows =>
          obtain ⟨next, written, _⟩ := Option.bind_eq_some_iff.mp granted
          obtain ⟨⟨_, opened', _⟩, _⟩ := write_eq_some written
          simp [opened] at opened'
  | some before =>
      obtain ⟨committed, pending, _⟩ := save_eq_some opened granted
      intro y writes opened_after
      by_cases same : y = x
      · subst same
        simp only [pending, Function.update_self, Option.some.injEq] at opened_after
        subst opened_after
        simpa [Justified, committed] using
          (justified opened).save transitive opened rows_justified
      · simp only [pending, Function.update_of_ne same] at opened_after
        simpa [Justified, committed] using justified opened_after

/-- A commit changes the committed rows by the replacements that its owner may make. -/
theorem AllJustified.commit_evolves (justified : AllJustified S server)
    : Evolves (S x.owner) server.committed (server.commit x).committed := by
  rw [commit_committed]
  cases opened : server.pending x with
  | none => exact Evolves.refl _ _
  | some writes => exact Evolves.overlay (justified opened)

theorem AllJustified.commit (justified : AllJustified S server)
    : AllJustified S (server.commit x) := by
  refine justified.step (t := x.owner) (fun _ _ => commit_isolated server x) ?_
  intro y writes own opened
  by_cases same : y = x
  · simp [same] at opened
  · have isolated : Isolated y.owner server (server.commit x) := commit_isolated server x
    have before := isolated.writes rfl opened
    exact own ▸ Justified.of_isolated isolated opened (justified before)

/-- A statement outside any transaction commits its rows at once. -/
theorem save_none_evolves (granted : server.save none rows = some after)
    (rows_justified : ∀ row ∈ rows, R row.1 (server.committed.lookup row.1) row.2)
    : Evolves R server.committed after.committed := by
  obtain ⟨_, committed, _, _⟩ := save_none_eq_some granted
  rw [committed]
  exact Evolves.overlay fun row member => rows_justified row (List.mem_reverse.mp member)

theorem AllJustified.save_none (justified : AllJustified S server)
    (granted : server.save none rows = some after)
    : AllJustified S after := by
  intro x writes opened
  have isolated : Isolated x.owner server after := save_isolated granted (by simp)
  exact Justified.of_isolated isolated opened (justified (isolated.writes rfl opened))

end Server

end Database
