import LuminaRail.Concurrency.Footprint
import LuminaRail.Database.Evolution
import LuminaRail.Model.World

/-! The footprints of services: which rows they may replace by which, and which events they
may cause. Each primitive step of a service is a `Step` of its footprint.
-/

namespace LuminaRail

open Concurrency Database

/-- The replacements of rows and the events that a service may cause. -/
structure Footprint where
  writes : Server.Replaces Row
  events : Event → Prop

/-- The trace has grown by events of a kind. -/
def Grows (kind : Event → Prop) (before after : List Event) : Prop :=
  ∃ events, after = events ++ before ∧ ∀ event ∈ events, kind event

/-- One action of a service with the footprint. -/
inductive Step (footprint : Footprint) (t : Tid) (world : World) : World → Prop
  | idle : Step footprint t world world
  | begin : Step footprint t world { world with db := (world.db.begin t).2 }
  | rollback (x : TxId) : Step footprint t world { world with db := world.db.rollback x }
  | commit (x : TxId) (own : x.owner = t)
    : Step footprint t world { world with db := world.db.commit x }
  | lock (x : TxId) (key : Key) (after : Server Row) (own : x.owner = t)
    (granted : world.db.lock x key = some after)
    : Step footprint t world { world with db := after }
  | save (client : Option TxId) (rows : List (Sigma Row)) (after : Server Row)
    (own : ∀ x ∈ client, x.owner = t)
    (replaces : ∀ row ∈ rows,
      footprint.writes row.1 ((world.db.visible client).lookup row.1) row.2)
    (granted : world.db.save client rows = some after)
    : Step footprint t world { world with db := after }
  | claim (key : Key) (row : Row key) (after : Server Row) (event : Event)
    (caused : footprint.events event)
    (replaces : footprint.writes key (world.db.committed.lookup key) row)
    (granted : world.db.save none [⟨key, row⟩] = some after)
    : Step footprint t world { world with db := after, trace := event :: world.trace }
  | emit (events : List Event) (caused : ∀ event ∈ events, footprint.events event)
    : Step footprint t world { world with trace := events ++ world.trace }
  | redis (redis : Leases String) (lost : Token → Bool)
    (kept : ∀ u, u ≠ t → Leases.Kept u world.redis redis)
    : Step footprint t world { world with redis := redis, lost := lost }
  | remember (mock ngn : Sandbox) : Step footprint t world { world with mock := mock, ngn := ngn }

/-- What the other programs and the observer see of an action. -/
structure Effect (footprint : Footprint) (t : Tid) (before after : World) : Prop where
  isolated : ∀ u, u ≠ t → Server.Isolated u before.db after.db
  rows : Server.Evolves footprint.writes before.db.committed after.db.committed
  trace : Grows footprint.events before.trace after.trace
  redis : ∀ u, u ≠ t → Leases.Kept u before.redis after.redis

variable {footprint : Footprint} {t : Tid} {world after : World}
  {S : Nat → Server.Replaces Row}

/-- A footprint may be enlarged. -/
theorem Step.mono {larger : Footprint} (step : Step footprint t world after)
    (writes : ∀ key old new, footprint.writes key old new → larger.writes key old new)
    (events : ∀ event, footprint.events event → larger.events event)
    : Step larger t world after := by
  cases step with
  | idle => exact .idle
  | begin => exact .begin
  | rollback x => exact .rollback x
  | commit x own => exact .commit x own
  | lock x key db own granted => exact .lock x key db own granted
  | save client rows db own replaces granted =>
      exact .save client rows db own (fun row member => writes _ _ _ (replaces row member)) granted
  | claim key row db event caused replaces granted =>
      exact .claim key row db event (events _ caused) (writes _ _ _ replaces) granted
  | emit happened caused => exact .emit happened fun event member => events _ (caused event member)
  | redis redis lost kept => exact .redis redis lost kept
  | remember mock ngn => exact .remember mock ngn

/-- A trace grows into itself by no event. -/
theorem Grows.refl (kind : Event → Prop) (trace : List Event) : Grows kind trace trace :=
  ⟨[], rfl, nofun⟩

/-- Growth composes, by append. -/
theorem Grows.trans {kind : Event → Prop} {first second third : List Event}
    (early : Grows kind first second) (late : Grows kind second third)
    : Grows kind first third := by
  obtain ⟨events, rfl, of_kind⟩ := early
  obtain ⟨later, rfl, of_kind'⟩ := late
  refine ⟨later ++ events, (List.append_assoc _ _ _).symm, fun event member => ?_⟩
  exact (List.mem_append.mp member).elim (of_kind' event) (of_kind event)

/-- Growth by events of a kind is growth by events of any wider kind. -/
theorem Grows.mono {kind kind' : Event → Prop} {before after : List Event}
    (grows : Grows kind before after) (weaker : ∀ event, kind event → kind' event)
    : Grows kind' before after := by
  obtain ⟨events, same, of_kind⟩ := grows
  exact ⟨events, same, fun event member => weaker event (of_kind event member)⟩

/-- The events of a grown trace are the old ones and new ones of the kind. -/
theorem Grows.mem {kind : Event → Prop} {before after : List Event} {event : Event}
    (grows : Grows kind before after)
    : event ∈ after ↔ event ∈ before ∨ (kind event ∧ event ∈ after) := by
  obtain ⟨events, rfl, of_kind⟩ := grows
  simp only [List.mem_append]
  constructor
  · intro member
    exact member.elim (fun new => Or.inr ⟨of_kind event new, Or.inl new⟩) Or.inl
  · exact fun member => member.elim Or.inr fun new => new.2

/-- Events of another kind are not new. -/
theorem Grows.mem_iff {kind : Event → Prop} {before after : List Event} {event : Event}
    (grows : Grows kind before after) (other : ¬kind event)
    : event ∈ after ↔ event ∈ before :=
  ⟨fun member => (grows.mem.mp member).resolve_right fun new => other new.1,
    fun member => grows.mem.mpr (Or.inl member)⟩

/-- Events of another kind do not count. -/
theorem Grows.countP {kind : Event → Prop} {before after : List Event} {p : Event → Bool}
    (grows : Grows kind before after) (others : ∀ event, kind event → p event = false)
    : after.countP p = before.countP p := by
  obtain ⟨events, rfl, of_kind⟩ := grows
  have none_counted : events.countP p = 0 :=
    List.countP_eq_zero.mpr fun event member => by simp [others event (of_kind event member)]
  rw [List.countP_append, none_counted, Nat.zero_add]

/-- Doing nothing is within every footprint. -/
theorem Effect.refl (footprint : Footprint) (t : Tid) (world : World)
    : Effect footprint t world world :=
  ⟨fun u _ => Server.Isolated.refl u _, Server.Evolves.refl _ _, Grows.refl _ _,
    fun u _ => Leases.Kept.refl u _⟩

/-- The database and nothing else may change. -/
theorem Effect.of_db {db : Server Row}
    (isolated : ∀ u, u ≠ t → Server.Isolated u world.db db)
    (rows : Server.Evolves footprint.writes world.db.committed db.committed)
    : Effect footprint t world { world with db := db } :=
  ⟨isolated, rows, Grows.refl _ _, fun u _ => Leases.Kept.refl u _⟩

/-- An action causes events of its footprint only. -/
theorem Step.grows (step : Step footprint t world after)
    : Grows footprint.events world.trace after.trace := by
  cases step with
  | emit events caused => exact ⟨events, rfl, caused⟩
  | claim key row db event caused replaces granted =>
      refine ⟨[event], rfl, fun other member => ?_⟩
      obtain rfl := List.mem_singleton.mp member
      exact caused
  | _ => exact Grows.refl _ _

/-- An action has the effects of its footprint if all open transactions are justified. -/
theorem Step.effect (step : Step footprint t world after)
    (justified : Server.AllJustified S world.db) (mine : S t = footprint.writes)
    : Effect footprint t world after := by
  cases step with
  | idle => exact Effect.refl footprint t world
  | begin =>
      exact Effect.of_db (fun u other => Server.begin_isolated _ (Ne.symm other))
        (Server.Evolves.refl _ _)
  | rollback x =>
      exact Effect.of_db (fun u _ => Server.rollback_isolated _ x) (Server.Evolves.refl _ _)
  | commit x own =>
      refine Effect.of_db (fun u _ => Server.commit_isolated _ x) ?_
      rw [← mine, ← own]
      exact justified.commit_evolves
  | lock x key db own granted =>
      refine Effect.of_db (fun u other => ?_) ?_
      · exact Server.lock_isolated granted fun same => other (same.symm.trans own)
      · exact Server.Evolves.of_eq (Server.lock_eq_some granted).2.2.1
  | save client rows db own replaces granted =>
      refine Effect.of_db (fun u other => ?_) ?_
      · exact Server.save_isolated granted fun x member same =>
          other (same.symm.trans (own x member))
      · cases client with
        | none => exact Server.save_none_evolves granted replaces
        | some x => exact Server.Evolves.of_eq (Server.save_committed granted)
  | claim key row db event caused replaces granted =>
      refine ⟨fun u _ => Server.save_isolated granted (by simp), ?_, ⟨[event], rfl, ?_⟩,
        fun u _ => Leases.Kept.refl u _⟩
      · refine Server.save_none_evolves granted fun entry member => ?_
        obtain rfl := List.mem_singleton.mp member
        exact replaces
      · intro other member
        obtain rfl := List.mem_singleton.mp member
        exact caused
  | emit events caused =>
      exact ⟨fun u _ => Server.Isolated.refl u _, Server.Evolves.refl _ _,
        ⟨events, rfl, caused⟩, fun u _ => Leases.Kept.refl u _⟩
  | redis redis lost kept =>
      exact ⟨fun u _ => Server.Isolated.refl u _, Server.Evolves.refl _ _, Grows.refl _ _,
        kept⟩
  | remember mock ngn =>
      exact ⟨fun u _ => Server.Isolated.refl u _, Server.Evolves.refl _ _, Grows.refl _ _,
        fun u _ => Leases.Kept.refl u _⟩

/-- An action leaves all open transactions justified. -/
theorem Step.justified (step : Step footprint t world after)
    (justified : Server.AllJustified S world.db) (mine : S t = footprint.writes)
    (transitive : footprint.writes.Transitive)
    : Server.AllJustified S after.db := by
  cases step with
  | idle => exact justified
  | begin => exact justified.begin
  | rollback x => exact justified.rollback
  | commit x own => exact justified.commit
  | lock x key db own granted => exact justified.lock granted
  | save client rows db own replaces granted =>
      cases client with
      | none => exact justified.save_none granted
      | some x =>
          have writes : S x.owner = footprint.writes := (own x rfl) ▸ mine
          exact justified.save (writes ▸ transitive) (writes ▸ replaces) granted
  | claim key row db event caused replaces granted => exact justified.save_none granted
  | emit events caused => exact justified
  | redis redis lost kept => exact justified
  | remember mock ngn => exact justified

-----------------------------------------------------------------------------------------
-- Lone runs
-----------------------------------------------------------------------------------------

/-- No step of a service moves the clock, by cases on the kind of step. -/
theorem Step.clock (step : Step footprint t world after) : after.clock = world.clock := by
  cases step <;> rfl

/-- No time passes while a service runs. -/
theorem clock_of_alone {α : Type} {service : Service α} {Q : α → Prop} {result : Except AppError α}
    (within : Within (Step footprint t) t service Q)
    (run : Program.Alone t service.run world result after)
    : after.clock = world.clock := by
  have still : (Protocol.alone t).Respects t (Step footprint t)
      fun next : World => next.clock = world.clock :=
    fun _ _ _ same step _ => ⟨trivial, fun other => absurd rfl other, step.clock.trans same⟩
  have spec := Protocol.Spec.of_within within still fun _ _ _ _ same before => same rfl ▸ before
  cases result with
  | ok value => exact (Protocol.Spec.of_alone spec rfl run).2
  | error error => exact Protocol.Spec.of_alone spec rfl run

namespace Footprint

/-- What a program may write by its footprint, while nothing is asked of the others. -/
def ofOne (footprint : Footprint) (t u : Tid) : Server.Replaces Row :=
  if u = t then footprint.writes else fun _ _ _ => True

/-- The program may have led the one world to the other, in which its open transactions are justified.
Its actions take no time.
-/
structure Leads (footprint : Footprint) (t : Tid) (before after : World) : Prop where
  justified : Server.AllJustified (footprint.ofOne t) after.db
  rows : Server.Evolves footprint.writes before.db.committed after.db.committed
  clock : after.clock = before.clock

variable {before : World}

/-- A program without transactions has written nothing yet. -/
theorem Leads.start (idle : ∀ x, x.owner = t → world.db.pending x = none)
    : footprint.Leads t world world where
  justified x writes opened := by
    have other : x.owner ≠ t := fun own => by simp [idle x own] at opened
    intro write _
    simp [ofOne, other]
  rows := .refl _ _
  clock := rfl

/-- Where a footprint has led it has led from there too, by no step. -/
theorem Leads.again (leads : footprint.Leads t before world) : footprint.Leads t world world where
  justified := leads.justified
  rows := .refl _ _
  clock := rfl

/-- A step within the footprint leads further, by transitivity of its writes. -/
theorem Leads.step (leads : footprint.Leads t before world) (transitive : footprint.writes.Transitive)
    (step : Step footprint t world after)
    : footprint.Leads t before after where
  justified := step.justified leads.justified (if_pos rfl) transitive
  rows := leads.rows.trans transitive (step.effect leads.justified (if_pos rfl)).rows
  clock := step.clock.trans leads.clock

end Footprint

-----------------------------------------------------------------------------------------
-- The footprints of the primitive steps
-----------------------------------------------------------------------------------------

namespace Service

variable {α : Type} {client : Option TxId} {key : Key} {x : TxId} {Q : α → Prop}

/-- A statement's footprint is that of its successful runs. -/
theorem within_statement {run : Server Row → Option (Except AppError α × Server Row)}
    (runs : ∀ world result db, run world.db = some (result, db)
      → Step footprint t world { world with db := db } ∧ returned Q result)
    : Within (Step footprint t) t (statement client run) Q := by
  refine Within.action fun world input result after acted => ?_
  have ran : (run world.db).map (fun answer => (answer.1, { world with db := answer.2 }))
      = some (result, after) → Step footprint t world after ∧ returned Q result := by
    intro ran
    obtain ⟨answer, answered, same⟩ := Option.map_eq_some_iff.mp ran
    obtain ⟨rfl, rfl⟩ := Prod.mk.inj same
    exact runs world _ _ answered
  cases client with
  | none =>
      dsimp only at acted
      split at acted
      · obtain ⟨rfl, rfl⟩ := Prod.mk.inj (Option.some.inj acted)
        exact ⟨.idle, trivial⟩
      · exact ran acted
  | some x =>
      dsimp only at acted
      split at acted
      · obtain ⟨rfl, rfl⟩ := Prod.mk.inj (Option.some.inj acted)
        exact ⟨.idle, trivial⟩
      · split at acted
        · obtain ⟨rfl, rfl⟩ := Prod.mk.inj (Option.some.inj acted)
          exact ⟨.rollback x, trivial⟩
        · exact ran acted

/-- A query writes nothing. -/
theorem within_select {query : AList Row → α} (values : ∀ rows, Q (query rows))
    : Within (Step footprint t) t (select client query) Q := by
  refine within_statement fun world result db ran => ?_
  obtain ⟨rfl, rfl⟩ := Prod.mk.inj (Option.some.inj ran)
  exact ⟨.idle, values _⟩

/-- A read of one row writes nothing. -/
theorem within_findUnique : Within (Step footprint t) t (findUnique client key) :=
  within_select fun _ => trivial

/-- A read of one row writes nothing, whether the row is there or not. -/
theorem within_findUniqueOrThrow
    : Within (Step footprint t) t (findUniqueOrThrow client key) := by
  refine Within.bind within_findUnique fun row _ => ?_
  cases row with
  | none => exact Within.throw _
  | some row => exact Within.pure trivial

/-- A row lock writes nothing. -/
theorem within_selectForUpdate (own : x.owner = t)
    : Within (Step footprint t) t (selectForUpdate x key) := by
  refine within_statement fun world result db ran => ?_
  split at ran
  · obtain ⟨rfl, rfl⟩ := Prod.mk.inj (Option.some.inj ran)
    exact ⟨.idle, trivial⟩
  · obtain ⟨after, granted, same⟩ := Option.map_eq_some_iff.mp ran
    obtain ⟨rfl, rfl⟩ := Prod.mk.inj same
    exact ⟨.lock x key after own granted, trivial⟩

/-- An UPDATE replaces the row that it finds. -/
theorem within_update {data : Row key → Row key} (own : ∀ x ∈ client, x.owner = t)
    (replaces : ∀ row, footprint.writes key (some row) (data row)) {Q : Row key → Prop}
    (values : ∀ row, Q (data row))
    : Within (Step footprint t) t (update client key data) Q := by
  refine within_statement fun world result db ran => ?_
  split at ran
  · obtain ⟨rfl, rfl⟩ := Prod.mk.inj (Option.some.inj ran)
    exact ⟨.idle, trivial⟩
  · rename_i row found
    obtain ⟨after, granted, same⟩ := Option.map_eq_some_iff.mp ran
    obtain ⟨rfl, rfl⟩ := Prod.mk.inj same
    refine ⟨.save client _ after own (fun entry member => ?_) granted, values row⟩
    obtain rfl := List.mem_singleton.mp member
    simpa [found] using replaces row

/-- An UPDATE in a transaction writes what the footprint allows to replace the row. -/
theorem within_updateIn {data : Row key → Row key} (own : x.owner = t)
    (replaces : ∀ row, footprint.writes key (some row) (data row))
    : Within (Step footprint t) t (update (some x) key data) :=
  within_update (by simpa using own) replaces fun _ => trivial

/-- An UPDATE outside any transaction writes what the footprint allows to replace the row. -/
theorem within_updateNow {data : Row key → Row key}
    (replaces : ∀ row, footprint.writes key (some row) (data row))
    : Within (Step footprint t) t (update none key data) :=
  within_update (by simp) replaces fun _ => trivial

/-- An UPDATE with a condition has to be allowed only for rows that meet the condition. -/
theorem within_updateMany {condition : Row key → Bool} {data : Row key → Row key}
    (own : ∀ x ∈ client, x.owner = t)
    (replaces : ∀ row, condition row → footprint.writes key (some row) (data row))
    : Within (Step footprint t) t (updateMany client key condition data) := by
  refine within_statement fun world result db ran => ?_
  split at ran
  · obtain ⟨rfl, rfl⟩ := Prod.mk.inj (Option.some.inj ran)
    exact ⟨.idle, trivial⟩
  · rename_i row found
    split at ran
    · rename_i satisfied
      obtain ⟨after, granted, same⟩ := Option.map_eq_some_iff.mp ran
      obtain ⟨rfl, rfl⟩ := Prod.mk.inj same
      refine ⟨.save client _ after own (fun entry member => ?_) granted, trivial⟩
      obtain rfl := List.mem_singleton.mp member
      simpa [found] using replaces row satisfied
    · obtain ⟨rfl, rfl⟩ := Prod.mk.inj (Option.some.inj ran)
      exact ⟨.idle, trivial⟩

/-- Such an UPDATE that is observed makes two steps in one. -/
theorem within_claim {condition : Row key → Bool} {data : Row key → Row key}
    {event : Tid → Event} (caused : footprint.events (event t))
    (replaces : ∀ row, condition row → footprint.writes key (some row) (data row))
    : Within (Step footprint t) t (claim key condition data event) := by
  refine Within.action fun world input result after acted => ?_
  split at acted
  · obtain ⟨rfl, rfl⟩ := Prod.mk.inj (Option.some.inj acted)
    exact ⟨.idle, trivial⟩
  · split at acted
    · obtain ⟨rfl, rfl⟩ := Prod.mk.inj (Option.some.inj acted)
      exact ⟨.idle, trivial⟩
    · rename_i row found
      split at acted
      · rename_i satisfied
        obtain ⟨db, granted, same⟩ := Option.map_eq_some_iff.mp acted
        obtain ⟨rfl, rfl⟩ := Prod.mk.inj same
        refine ⟨.claim key (data row) db (event t) caused ?_ granted, trivial⟩
        rw [found]
        exact replaces row satisfied
      · obtain ⟨rfl, rfl⟩ := Prod.mk.inj (Option.some.inj acted)
        exact ⟨.idle, trivial⟩

/-- An INSERT writes a row that the footprint allows to be added, and its event. -/
theorem within_insert {row : Row key} {event : Tid → Event} (caused : footprint.events (event t))
    (adds : footprint.writes key none row)
    : Within (Step footprint t) t (insert key row event) := by
  refine Within.action fun world input result after acted => ?_
  split at acted
  · obtain ⟨rfl, rfl⟩ := Prod.mk.inj (Option.some.inj acted)
    exact ⟨.idle, trivial⟩
  · split at acted
    · obtain ⟨rfl, rfl⟩ := Prod.mk.inj (Option.some.inj acted)
      exact ⟨.idle, trivial⟩
    · rename_i absent
      obtain ⟨db, granted, same⟩ := Option.map_eq_some_iff.mp acted
      obtain ⟨rfl, rfl⟩ := Prod.mk.inj same
      refine ⟨.claim key row db (event t) caused ?_ granted, trivial⟩
      rw [Option.not_isSome_iff_eq_none.mp absent]
      exact adds

/-- An INSERT adds rows where there were none. -/
theorem within_create {row : Row key} {index : List (Sigma Row)}
    (own : ∀ x ∈ client, x.owner = t)
    (adds : ∀ entry ∈ ⟨key, row⟩ :: index, footprint.writes entry.1 none entry.2)
    {Q : Row key → Prop} (value : Q row)
    : Within (Step footprint t) t (create client key row index) Q := by
  refine within_statement fun world result db ran => ?_
  split at ran
  · obtain ⟨rfl, rfl⟩ := Prod.mk.inj (Option.some.inj ran)
    cases client with
    | none => exact ⟨.idle, trivial⟩
    | some x => exact ⟨.rollback x, trivial⟩
  · rename_i new
    obtain ⟨after, granted, same⟩ := Option.map_eq_some_iff.mp ran
    obtain ⟨rfl, rfl⟩ := Prod.mk.inj same
    refine ⟨.save client _ after own (fun entry member => ?_) granted, value⟩
    have absent : (world.db.visible client).lookup entry.1 = none := by
      by_contra present
      exact new (List.any_eq_true.mpr ⟨entry, member, Option.isSome_iff_ne_none.mpr present⟩)
    rw [absent]
    exact adds entry member

/-- A check that returns has passed, and writes nothing. -/
theorem within_throwIf {bad : Prop} [Decidable bad] {error : AppError}
    : Within (Step footprint t) t (throwIf bad error) fun _ => ¬bad := by
  unfold throwIf
  split
  · exact Within.throw _
  · exact Within.pure ‹_›

/-- BEGIN writes nothing and opens a transaction of the call's own. -/
theorem within_begin : Within (Step footprint t) t begin fun x => x.owner = t := by
  refine Within.action fun world input result after acted => ?_
  split at acted
  · obtain ⟨rfl, rfl⟩ := Prod.mk.inj (Option.some.inj acted)
    exact ⟨.idle, trivial⟩
  · obtain ⟨rfl, rfl⟩ := Prod.mk.inj (Option.some.inj acted)
    exact ⟨.begin, rfl⟩

/-- COMMIT writes nothing that was not written into the transaction before. -/
theorem within_commit (own : x.owner = t)
    : Within (Step footprint t) t (commit x) := by
  refine Within.action fun world input result after acted => ?_
  split at acted
  · obtain ⟨rfl, rfl⟩ := Prod.mk.inj (Option.some.inj acted)
    exact ⟨.idle, trivial⟩
  · split at acted
    · obtain ⟨rfl, rfl⟩ := Prod.mk.inj (Option.some.inj acted)
      exact ⟨.rollback x, trivial⟩
    · obtain ⟨rfl, rfl⟩ := Prod.mk.inj (Option.some.inj acted)
      exact ⟨.commit x own, trivial⟩

/-- ROLLBACK writes nothing. -/
theorem within_rollback : Within (Step footprint t) t (rollback x) := by
  refine Within.action fun world input result after acted => ?_
  split at acted
  · obtain ⟨rfl, rfl⟩ := Prod.mk.inj (Option.some.inj acted)
    exact ⟨.idle, trivial⟩
  · obtain ⟨rfl, rfl⟩ := Prod.mk.inj (Option.some.inj acted)
    exact ⟨.rollback x, trivial⟩

/-- A transaction has the footprint of its body. -/
theorem within_transaction {body : TxId → Service α}
    (within : ∀ x : TxId, x.owner = t → Within (Step footprint t) t (body x) Q)
    : Within (Step footprint t) t (transaction body) Q := by
  refine Within.bind within_begin fun x own => ?_
  refine Within.bind (Within.tryCatch (within x own) fun error => ?_) fun value holds => ?_
  · exact Within.bind within_rollback fun _ _ => Within.throw error
  · exact Within.bind (within_commit own) fun _ _ => Within.pure holds

/-- A read of the clock writes nothing. -/
theorem within_now : Within (Step footprint t) t now := by
  refine Within.action fun world input result after acted => ?_
  obtain ⟨rfl, rfl⟩ := Prod.mk.inj (Option.some.inj acted)
  exact ⟨.idle, trivial⟩

/-- A random text writes nothing. -/
theorem within_randomText : Within (Step footprint t) t randomText := by
  refine Within.action fun world input result after acted => ?_
  obtain ⟨rfl, rfl⟩ := Prod.mk.inj (Option.some.inj acted)
  exact ⟨.idle, trivial⟩

/-- The number of attempts is read without any write. -/
theorem within_attempts : Within (Step footprint t) t attempts := by
  refine Within.action fun world input result after acted => ?_
  obtain ⟨rfl, rfl⟩ := Prod.mk.inj (Option.some.inj acted)
  exact ⟨.idle, trivial⟩

/-- An observation is within a footprint that has its event. -/
theorem within_emit {event : Tid → Event} (caused : footprint.events (event t))
    : Within (Step footprint t) t (emit event) := by
  refine Within.action fun world input result after acted => ?_
  obtain ⟨rfl, rfl⟩ := Prod.mk.inj (Option.some.inj acted)
  refine ⟨.emit [event t] (fun other member => ?_), trivial⟩
  obtain rfl := List.mem_singleton.mp member
  exact caused

/-- A call to the outside is within a footprint that has the events of all its answers. -/
theorem within_external {answer : Input → Option (Except AppError α × List Event)}
    (caused : ∀ input result events, answer input = some (result, events)
      → (∀ event ∈ events, footprint.events event) ∧ returned Q result)
    : Within (Step footprint t) t (external answer) Q := by
  refine Within.action fun world input result after acted => ?_
  obtain ⟨⟨result', events⟩, answered, same⟩ := Option.map_eq_some_iff.mp acted
  obtain ⟨rfl, rfl⟩ := Prod.mk.inj same
  obtain ⟨allowed, holds⟩ := caused input _ events answered
  exact ⟨.emit events allowed, holds⟩

/-- A call to the mock provider writes nothing into the database. -/
theorem within_onMock {run : Nat → String → Sandbox → α × Sandbox}
    : Within (Step footprint t) t (onMock run) := by
  refine Within.action fun world input result after acted => ?_
  obtain ⟨rfl, rfl⟩ := Prod.mk.inj (Option.some.inj acted)
  exact ⟨.remember _ world.ngn, trivial⟩

/-- A call to the NGN provider writes nothing into the database. -/
theorem within_onNgn {run : Nat → String → Sandbox → α × Sandbox}
    : Within (Step footprint t) t (onNgn run) := by
  refine Within.action fun world input result after acted => ?_
  obtain ⟨rfl, rfl⟩ := Prod.mk.inj (Option.some.inj acted)
  exact ⟨.remember world.mock _, trivial⟩

/-- What is found first is one of the rows that the query finds. -/
theorem within_findFirst {query : AList Row → List α} {R : α → Prop}
    (values : ∀ rows, ∀ value ∈ query rows, R value)
    : Within (Step footprint t) t (findFirst client query) fun found => ∀ value ∈ found, R value := by
  refine Within.bind (Q := fun found => ∀ value ∈ found, R value) (within_select values)
    fun found all => ?_
  refine Within.bind within_attempts fun choice _ => Within.pure fun value chosen => ?_
  exact all value (List.mem_of_getElem? chosen)

/-- A cleanup within the footprint keeps the body within it, by the rules of its parts. -/
theorem within_finally' {body : Service α} {cleanup : Service Unit}
    (within : Within (Step footprint t) t body Q)
    (cleans : Within (Step footprint t) t cleanup)
    : Within (Step footprint t) t (finally' body cleanup) Q := by
  have caught : Within (Step footprint t) t
      (tryCatch (Except.ok <$> body) fun error => pure (.error error) : Service _)
      (returned (ε := AppError) Q) :=
    Within.tryCatch (Within.map within) fun error => Within.pure trivial
  refine Within.bind caught fun result holds => Within.bind cleans fun _ _ => ?_
  cases result with
  | ok value => exact Within.pure holds
  | error error => exact Within.throw error

end Service

end LuminaRail
