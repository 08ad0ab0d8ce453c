import LuminaRail.Model.Discipline

/-! Programs that may write less in one phase than in another. What the open transactions of a
program have written in a phase, it may also commit in it.
-/

namespace LuminaRail

open Concurrency Database Service

/-- The open transactions of the program have only written as it may write in its phase. -/
def Phased (t : Tid) (writes : Server.Replaces Row) (world : World) : Prop :=
  Server.AllJustified (fun u => if u = t then writes else fun _ _ _ => True) world.db

variable {t : Tid} {writes writes' : Server.Replaces Row} {world after : World}
  {phase footprint : Footprint}

namespace Phased

theorem justified (phased : Phased t writes world) {x : TxId} {rows : List (Sigma Row)}
    (own : x.owner = t) (opened : world.db.pending x = some rows)
    : Server.Justified writes rows world.db := by
  have justified := phased opened
  simpa [own] using justified

theorem of_justified
    (justified : ∀ ⦃x rows⦄, x.owner = t → world.db.pending x = some rows
      → Server.Justified writes rows world.db)
    : Phased t writes world := by
  intro x rows opened
  by_cases own : x.owner = t
  · simpa [own] using justified own opened
  · intro _ _
    simp [own]

theorem start (t : Tid) (writes : Server.Replaces Row) (rows : AList Row)
    : Phased t writes (World.start rows) :=
  Server.AllJustified.start rows

theorem stable (phased : Phased t writes world)
    (isolated : Server.Isolated t world.db after.db)
    : Phased t writes after :=
  of_justified fun _ _ own opened =>
    Server.Justified.of_isolated (own ▸ isolated) opened
      (phased.justified own (isolated.writes own opened))

/-- The next phase allows what has been written already. -/
theorem mono (phased : Phased t writes world)
    (weaker : ∀ key old new, writes key old new → writes' key old new)
    : Phased t writes' world :=
  of_justified fun _ _ own opened write member =>
    weaker _ _ _ (phased.justified own opened write member)

theorem effect (phased : Phased t phase.writes world) (step : Step phase t world after)
    : Effect phase t world after :=
  step.effect phased (by simp)

theorem step (phased : Phased t phase.writes world) (step : Step phase t world after)
    (transitive : phase.writes.Transitive)
    : Phased t phase.writes after :=
  step.justified phased (by simp) transitive

/-- What the program does not write, it sees as it has been committed. -/
theorem visible (phased : Phased t writes world) {client : Option TxId}
    (own : ∀ x ∈ client, x.owner = t) {key : Key} (never : ∀ old new, ¬writes key old new)
    : (world.db.visible client).lookup key = world.db.committed.lookup key := by
  cases client with
  | none => rfl
  | some x =>
      simp only [Server.visible, lookup_overlay]
      cases opened : world.db.pending x with
      | none => simp
      | some rows =>
          have unwritten : rows.dlookup key = none := by
            rw [List.dlookup_eq_none]
            intro written
            obtain ⟨row, member⟩ := List.exists_of_mem_keys written
            exact never _ _ (phased.justified (own x rfl) opened _ member)
          simp [unwritten]

end Phased

namespace Discipline

variable {discipline : Discipline} {P : World → Prop} {α : Type} {program : Service α}
  {Q : α → Prop}

/-- A phase respects the discipline if its effects, where they are taken into account, are changes
that an action may make and keep the invariant and what is known in the phase.
-/
theorem Admits.respects_phase (admits : discipline.Admits footprint t)
    (transitive : phase.writes.Transitive)
    (narrower : ∀ key old new, phase.writes key old new → footprint.writes key old new)
    (events : ∀ event, phase.events event → footprint.events event)
    (keeps : ∀ world after, discipline.inv world → P world → Effect phase t world after
      → discipline.allowed t world after
      → Server.Evolves discipline.changes world.db.committed after.db.committed
        ∧ discipline.inv after ∧ P after)
    : discipline.protocol.Respects t (Step phase t) fun world =>
        Phased t phase.writes world ∧ P world := by
  intro world after inv given step allowed
  have effect := given.1.effect step
  have justified :=
    (step.mono narrower events).justified inv.2 admits.writes admits.transitive
  obtain ⟨changes, kept, still⟩ := keeps world after inv.1 given.2 effect allowed
  refine ⟨⟨kept, justified⟩, ⟨effect.isolated, changes, effect.trace.mono fun event caused => ?_⟩,
    given.1.step step transitive, still⟩
  exact admits.events event (events event caused)

end Discipline

end LuminaRail
