import LuminaRail.Model.System

/-! The protocol of a system whose services only make replacements of rows that they have agreed
on, together with an invariant of what has been committed and observed.
-/

namespace LuminaRail

open Concurrency Database

/-- What the services of a system agree on: which committed rows an action may replace by which,
and which may therefore replace which in the course of time, what the open transactions of each
program are known to have justified, an invariant, and which actions are taken into account.
-/
structure Discipline where
  rows : Server.Replaces Row
  changes : Server.Replaces Row := rows
  promised : ∀ key old new, changes key old new → rows key old new := by exact fun _ _ _ => id
  transitive : rows.Transitive
  writes : Tid → Server.Replaces Row
  inv : World → Prop
  allowed : Tid → World → World → Prop

/-- A condition on the committed rows and the trace only, which crashes do not falsify. -/
structure Observable (I : World → Prop) : Prop where
  calm : ∀ ⦃world after : World⦄, after.db.committed = world.db.committed
    → after.trace = world.trace → I world → I after
  crashed : ∀ t world, I world → I { world with trace := .crashed t :: world.trace }

namespace Discipline

/-- The others do not touch what a transaction has to itself and replace committed rows only as
agreed, and their events are not one's own.
-/
def protocol (discipline : Discipline) : Protocol World where
  inv world := discipline.inv world ∧ Server.AllJustified discipline.writes world.db
  rely t before after := Server.Isolated t before.db after.db
    ∧ Server.Evolves discipline.rows before.db.committed after.db.committed
    ∧ Grows (fun event => event.owner ≠ some t) before.trace after.trace
  guar t before after := (∀ u, u ≠ t → Server.Isolated u before.db after.db)
    ∧ Server.Evolves discipline.changes before.db.committed after.db.committed
    ∧ Grows (fun event => ∀ u ∈ event.owner, u = t) before.trace after.trace
  allowed := discipline.allowed
  rely_refl t world :=
    ⟨Server.Isolated.refl t world.db, Server.Evolves.refl _ _, Grows.refl _ _⟩
  rely_trans first second :=
    ⟨first.1.trans second.1, first.2.1.trans discipline.transitive second.2.1,
      first.2.2.trans second.2.2⟩
  guar_rely other _ _ guaranteed :=
    ⟨guaranteed.1 _ (Ne.symm other), guaranteed.2.1.mono discipline.promised,
      guaranteed.2.2.mono fun _ own mine => other (own _ mine).symm⟩

variable {discipline : Discipline} {footprint : Footprint} {t : Tid} {world after : World}
  {P : World → Prop} {mayExpire : (Tid → Bool) → World → String → Bool}

theorem guar_refl (t : Tid) (world : World) : discipline.protocol.guar t world world :=
  ⟨fun u _ => Server.Isolated.refl u world.db, Server.Evolves.refl _ _, Grows.refl _ _⟩

/-- A program may have this footprint in the discipline. -/
structure Admits (discipline : Discipline) (footprint : Footprint) (t : Tid) : Prop where
  transitive : footprint.writes.Transitive
  writes : discipline.writes t = footprint.writes
  events : ∀ event, footprint.events event → ∀ u ∈ event.owner, u = t

/-- A footprint respects the discipline if its effects, where they are taken into account, are
changes that an action may make and keep the invariant.
-/
theorem Admits.respects (admits : discipline.Admits footprint t)
    (keeps : ∀ world after, discipline.inv world → P world → Effect footprint t world after
      → discipline.allowed t world after
      → Server.Evolves discipline.changes world.db.committed after.db.committed
        ∧ discipline.inv after ∧ P after)
    : discipline.protocol.Respects t (Step footprint t) P := by
  intro world after inv given step allowed
  have effect := step.effect inv.2 admits.writes
  have justified := step.justified inv.2 admits.writes admits.transitive
  obtain ⟨changes, kept, still⟩ := keeps world after inv.1 given effect allowed
  exact ⟨⟨kept, justified⟩, ⟨effect.isolated, changes, effect.trace.mono admits.events⟩, still⟩

/-- The specification of a service of which nothing but the footprint matters. -/
theorem Admits.spec {α : Type} {program : Service α} {Q : α → Prop}
    (admits : discipline.Admits footprint t)
    (keeps : ∀ world after, discipline.inv world → Effect footprint t world after
      → discipline.allowed t world after
      → Server.Evolves discipline.changes world.db.committed after.db.committed
        ∧ discipline.inv after)
    (within : Within (Step footprint t) t program Q)
    : discipline.protocol.Spec t (fun _ => True) program (fun value _ => Q value)
        fun _ _ => True := by
  have respects : discipline.protocol.Respects t (Step footprint t) fun _ => True :=
    admits.respects fun world after holds _ effect allowed =>
      ⟨(keeps world after holds effect allowed).1, (keeps world after holds effect allowed).2,
        trivial⟩
  refine (Protocol.Spec.of_within within respects (Protocol.Stable.const True)).conseq
    (fun _ _ given => given) (fun _ _ _ ends => ends.1) ?_
  exact fun _ _ _ _ => trivial

/-- What is not seen by others and adds no writes needs no justification. -/
theorem reading (observable : Observable discipline.inv) : Reading discipline.protocol t where
  isolated relied := relied.1
  unwritten {world db} inv unseen shrinks := by
    refine ⟨⟨observable.calm unseen.committed rfl inv.1, ?_⟩, unseen.isolated, ?_⟩
    · refine inv.2.step unseen.isolated fun {x writes} own opened => ?_
      rcases shrinks own opened with rfl | before
      · exact fun _ member => absurd member List.not_mem_nil
      · have justified : Server.Justified (discipline.writes t) writes world.db :=
          own ▸ inv.2 before
        exact fun write member => unseen.committed ▸ justified write member
    · exact ⟨Server.Evolves.of_eq unseen.committed, Grows.refl _ _⟩

section

variable {α : Type} {E : AppError → World → Prop} (stable : discipline.protocol.Stable t P)
include stable

/-- A SELECT outside any transaction. -/
theorem spec_select {query : AList Row → α} {Q : α → World → Prop}
    (found : ∀ world, discipline.inv world → P world → discipline.allowed t world world
      → Q (query world.db.committed) world)
    (throws : ∀ world error, P world → E error world)
    : discipline.protocol.Spec t P (Service.select none query) Q E := by
  refine Protocol.Spec.action stable fun world input result after inv given acted allowed => ?_
  dsimp only at acted
  split at acted
  · obtain ⟨rfl, rfl⟩ := Prod.mk.inj (Option.some.inj acted)
    exact ⟨inv, guar_refl t world, throws world _ given⟩
  · obtain ⟨rfl, rfl⟩ := Prod.mk.inj (Option.some.inj acted)
    exact ⟨inv, guar_refl t world, found world inv.1 given allowed⟩

/-- An UPDATE outside any transaction that is observed if its condition holds. -/
theorem spec_claim {key : Key} {condition : Row key → Bool} {data : Row key → Row key}
    {event : Tid → Event} {Q : Nat → World → Prop} (own : (event t).owner = some t)
    (replaces : ∀ row, condition row → discipline.changes key (some row) (data row))
    (claimed : ∀ world after row, discipline.inv world → P world
      → world.db.committed.lookup key = some row → condition row
      → after.db.committed = world.db.committed.insert key (data row)
      → after.trace = event t :: world.trace → discipline.allowed t world after
      → discipline.inv after ∧ Q 1 after)
    (unclaimed : ∀ world, discipline.inv world → P world → Q 0 world)
    (throws : ∀ world error, P world → E error world)
    : discipline.protocol.Spec t P (Service.claim key condition data event) Q E := by
  refine Protocol.Spec.action stable fun world input result after inv given acted allowed => ?_
  split at acted
  · obtain ⟨rfl, rfl⟩ := Prod.mk.inj (Option.some.inj acted)
    exact ⟨inv, guar_refl t world, throws world _ given⟩
  · split at acted
    · obtain ⟨rfl, rfl⟩ := Prod.mk.inj (Option.some.inj acted)
      exact ⟨inv, guar_refl t world, unclaimed world inv.1 given⟩
    · rename_i row found
      split at acted
      · rename_i satisfied
        obtain ⟨db, granted, same⟩ := Option.map_eq_some_iff.mp acted
        obtain ⟨rfl, rfl⟩ := Prod.mk.inj same
        have committed := (Server.save_none_eq_some granted).2.1
        have rows : Server.Evolves discipline.changes world.db.committed db.committed := by
          refine Server.save_none_evolves granted fun entry member => ?_
          obtain rfl := List.mem_singleton.mp member
          simpa [found] using replaces row satisfied
        obtain ⟨kept, reached⟩ :=
          claimed world _ row inv.1 given found satisfied committed rfl allowed
        refine ⟨⟨kept, inv.2.save_none granted⟩, ⟨fun u _ => ?_, rows, ?_⟩, reached⟩
        · exact Server.save_isolated granted (by simp)
        · refine ⟨[event t], rfl, fun other member => ?_⟩
          obtain rfl := List.mem_singleton.mp member
          simp [own]
      · obtain ⟨rfl, rfl⟩ := Prod.mk.inj (Option.some.inj acted)
        exact ⟨inv, guar_refl t world, unclaimed world inv.1 given⟩

theorem spec_emit {event : Tid → Event} {Q : Unit → World → Prop}
    (own : ∀ u ∈ (event t).owner, u = t)
    (observed : ∀ world, discipline.inv world → P world
      → discipline.allowed t world { world with trace := event t :: world.trace }
      → discipline.inv { world with trace := event t :: world.trace }
        ∧ Q () { world with trace := event t :: world.trace })
    : discipline.protocol.Spec t P (Service.emit event) Q E := by
  refine Protocol.Spec.action stable fun world input result after inv given acted allowed => ?_
  obtain ⟨rfl, rfl⟩ := Prod.mk.inj (Option.some.inj acted)
  obtain ⟨kept, reached⟩ := observed world inv.1 given allowed
  refine ⟨⟨kept, inv.2⟩, ⟨fun u _ => Server.Isolated.refl u world.db, ?_, ?_⟩, reached⟩
  · exact Server.Evolves.refl _ _
  · refine ⟨[event t], rfl, fun other member => ?_⟩
    obtain rfl := List.mem_singleton.mp member
    exact own

end

/-- What happens by itself fits the discipline. -/
theorem fits (observable : Observable discipline.inv)
    : (machine mayExpire).Fits discipline.protocol where
  env live world chance after inv happened := by
    obtain ⟨rfl, _⟩ := machine_env happened
    refine ⟨⟨observable.calm (by simp) (by simp) inv.1, ?_⟩, fun t _ => ⟨?_, ?_, ?_⟩⟩
    · cases chance with
      | abort x => exact inv.2.rollback
      | _ => exact inv.2
    · exact chance.apply_isolated world t
    · exact Server.Evolves.of_eq (Chance.apply_committed world chance)
    · rw [Chance.apply_trace]
      exact Grows.refl _ _
  crash t world inv := by
    refine ⟨⟨observable.crashed t world inv.1, inv.2⟩, fun u other => ⟨?_, ?_, ?_⟩⟩
    · exact Server.Isolated.refl u world.db
    · exact Server.Evolves.refl _ _
    · refine ⟨[.crashed t], rfl, fun event member => ?_⟩
      obtain rfl := List.mem_singleton.mp member
      exact fun same => other (Option.some.inj same).symm

/-- In every run of services that are verified, from a world without open transactions, the
invariant holds.
-/
theorem verified {services : Tid → Program World Input Unit} {pool : Pool World Input}
    {rows : AList Row} (observable : Observable discipline.inv)
    (start : world.db = Server.start rows) (holds : discipline.inv world)
    (safe : ∀ t, discipline.protocol.Safe t (fun _ _ => True) (services t) world)
    (run : Run (machine mayExpire) discipline.allowed ⟨world, services⟩ pool)
    : pool.Verified discipline.protocol := by
  refine Run.verified (fits observable) run ⟨⟨holds, ?_⟩, fun t _ => safe t⟩
  rw [start]
  exact Server.AllJustified.start rows

/-- Every move of a verified pool changes the committed rows as agreed. -/
theorem evolves {pool last : Pool World Input} {move : Move Input Chance}
    (verified : pool.Verified discipline.protocol)
    (moved : pool.move (machine mayExpire) move = some last)
    (allowed : ∀ t input, move = .run t input → discipline.allowed t pool.state last.state)
    : Server.Evolves discipline.changes pool.state.db.committed last.state.db.committed := by
  cases move with
  | run t input => exact (verified.run moved (allowed t input rfl)).1.2.1
  | crash t =>
      obtain ⟨_, state, _⟩ := Pool.move_crash moved
      exact Server.Evolves.of_eq (by rw [state]; rfl)
  | env change =>
      obtain ⟨same, _⟩ := machine_env (Pool.move_env moved).1
      exact Server.Evolves.of_eq (by rw [same, Chance.apply_committed])

end Discipline

end LuminaRail
