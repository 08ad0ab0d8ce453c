import LuminaRail.Concurrency.Hindsight
import LuminaRail.Model.LockedRows
import LuminaRail.Model.Phases

/-! What a service learns. Where every state of a run is known to be part of the run's end, what a
service reads is a fact of the whole run, so it need not be carried through the steps in between:
a service that keeps a discipline is known by a condition on its value alone. Moreover every
program answers for its own writes.
-/

namespace LuminaRail

open Concurrency Database Service

namespace Discipline

/-- The protocol of a discipline in which every program moreover changes the committed rows only
as it may itself.
-/
def accountable (discipline : Discipline) : Protocol World :=
  discipline.protocol.vowing fun t before after =>
    Server.Evolves (discipline.writes t) before.db.committed after.db.committed

/-- The service keeps the discipline, and its value satisfies `Q`. -/
def Learns {α : Type} (discipline : Discipline) (t : Tid) (program : Service α)
    (Q : α → Prop := fun _ => True) : Prop :=
  discipline.accountable.Spec t (fun _ => True) program (fun value _ => Q value) fun _ _ => True

/-- The services of a program stay in its footprint, and whatever they do there is in order. -/
structure Keeps (discipline : Discipline) (footprint : Footprint) (t : Tid) : Prop where
  observable : Observable discipline.inv
  admits : discipline.Admits footprint t
  keeps : ∀ world after, discipline.inv world → Effect footprint t world after
    → discipline.allowed t world after
    → Server.Evolves discipline.changes world.db.committed after.db.committed
      ∧ discipline.inv after

/-- A transaction that has not written anything yet. -/
def Unwritten (x : TxId) : World → Prop := Begun x fun writes _ => writes = []

/-- What holds of the writes of a transaction as long as it is open. -/
def Wrote (x : TxId) (P : List (Sigma Row) → Prop) (world : World) : Prop :=
  world.db.During x fun writes _ => P writes

variable {discipline : Discipline} {footprint : Footprint} {t : Tid} {x : TxId} {key : Key}
  {α β : Type} {Q : α → Prop} {R : β → Prop}

/-- A step that changes nothing is allowed to everybody. -/
theorem accountable_refl (t : Tid) (world : World) : discipline.accountable.guar t world world :=
  ⟨guar_refl t world, Server.Evolves.refl _ _⟩

/-- The steps of the footprint keep the discipline, and the program answers for them. -/
theorem Keeps.respects (keeps : discipline.Keeps footprint t)
    : discipline.accountable.Respects t (Step footprint t) fun _ => True := by
  refine Protocol.Respects.vowing (keeps.admits.respects fun world after inv _ effect allowed => ?_)
    fun world after inv _ step _ => ?_
  · obtain ⟨changes, kept⟩ := keeps.keeps world after inv effect allowed
    exact ⟨changes, kept, trivial⟩
  · rw [keeps.admits.writes]
    exact (step.effect inv.2 keeps.admits.writes).rows

/-- A phase respects the discipline, and the program answers for it. -/
theorem Admits.accounts_phase {phase : Footprint} {P : World → Prop}
    (admits : discipline.Admits footprint t) (transitive : phase.writes.Transitive)
    (narrower : ∀ key old new, phase.writes key old new → footprint.writes key old new)
    (events : ∀ event, phase.events event → footprint.events event)
    (keeps : ∀ world after, discipline.inv world → P world → Effect phase t world after
      → discipline.allowed t world after
      → Server.Evolves discipline.changes world.db.committed after.db.committed
        ∧ discipline.inv after ∧ P after)
    : discipline.accountable.Respects t (Step phase t) fun world =>
        Phased t phase.writes world ∧ P world := by
  refine Protocol.Respects.vowing (admits.respects_phase transitive narrower events keeps)
    fun world after _ given step _ => ?_
  rw [admits.writes]
  exact (given.1.effect step).rows.mono narrower

/-- A transaction without writes stays without writes. -/
theorem stable_unwritten (own : x.owner = t) : discipline.accountable.Stable t (Unwritten x) :=
  show discipline.protocol.Stable t (Unwritten x) from stable_begun own (Server.Local.const _)

/-- What is not seen by others and adds no writes changes no row. -/
theorem reading_accountable (observable : Observable discipline.inv)
    : Reading discipline.accountable t :=
  (reading observable).vowing fun same => Server.Evolves.of_eq same

/-- The rule for all statements of a program that stays in its footprint. -/
theorem Keeps.statement {client : Option TxId}
    {run : Server Row → Option (Except AppError α × Server Row)} {S : α → World → Prop}
    (keeps : discipline.Keeps footprint t)
    (runs : ∀ (world : World) result db, run world.db = some (result, db)
      → Step footprint t world { world with db := db }
        ∧ ∀ value, result = .ok value → discipline.inv { world with db := db }
          → S value { world with db := db })
    : discipline.accountable.Spec t (fun _ => True) (Service.statement client run) S
        fun _ _ => True := by
  refine Service.spec_statement (reading_accountable keeps.observable) (Protocol.Stable.const True)
    (fun world result db inv given _ ran allowed => ?_) fun _ _ _ _ _ _ => trivial
  obtain ⟨step, holds⟩ := runs world result db ran
  obtain ⟨kept, guaranteed, _⟩ := keeps.respects world _ inv trivial step allowed
  refine ⟨kept, guaranteed, ?_⟩
  cases result with
  | ok value => exact holds value rfl kept.1
  | error error => trivial

/-- An INSERT saves its row and the rows of its indices. -/
theorem Keeps.insert {client : Option TxId} {row : Row key} {index : List (Sigma Row)}
    {S : Row key → World → Prop} (keeps : discipline.Keeps footprint t)
    (own : ∀ x ∈ client, x.owner = t)
    (inserts : ∀ entry ∈ ⟨key, row⟩ :: index, footprint.writes entry.1 none entry.2)
    (saved : ∀ (world : World) db, world.db.save client (⟨key, row⟩ :: index) = some db
      → discipline.inv { world with db := db } → S row { world with db := db })
    : discipline.accountable.Spec t (fun _ => True) (Service.create client key row index) S
        fun _ _ => True := by
  refine keeps.statement fun world result db ran => ?_
  split at ran
  · obtain ⟨rfl, rfl⟩ := Prod.mk.inj (Option.some.inj ran)
    refine ⟨?_, nofun⟩
    cases client with
    | none => exact .idle
    | some x => exact .rollback x
  · rename_i absent
    obtain ⟨after, granted, same⟩ := Option.map_eq_some_iff.mp ran
    obtain ⟨rfl, rfl⟩ := Prod.mk.inj same
    refine ⟨.save client _ after own (fun entry member => ?_) granted, fun value same inv => ?_⟩
    · have unseen : (world.db.visible client).lookup entry.1 = none := by
        by_contra present
        exact absent (List.any_eq_true.mpr ⟨entry, member, Option.isSome_iff_ne_none.mpr present⟩)
      rw [unseen]
      exact inserts entry member
    · obtain rfl := Except.ok.inj same
      exact saved world after granted inv

/-- The row of an INSERT is found among what has been saved. -/
theorem dlookup_reverse_cons {row : Row key} {index : List (Sigma Row)}
    (distinct : ∀ entry ∈ index, entry.1 ≠ key) (writes : List (Sigma Row))
    : ((⟨key, row⟩ :: index).reverse ++ writes).dlookup key = some row := by
  have unindexed : index.reverse.dlookup key = none := by
    refine List.dlookup_eq_none.mpr fun listed => ?_
    obtain ⟨entry, member, same⟩ := List.mem_map.mp listed
    exact distinct entry (List.mem_reverse.mp member) same
  simp [List.dlookup_append, unindexed]

namespace Learns

/-- A value is learnt where its fact holds. -/
theorem pure {value : α} (holds : Q value) : discipline.Learns t (pure value) Q :=
  Protocol.Spec.pure value fun _ _ _ => holds

/-- A service that only throws teaches anything. -/
theorem throw (error : AppError) : discipline.Learns t (throw error) Q :=
  Protocol.Spec.throw error fun _ _ _ => trivial

/-- What is learnt can be weakened. -/
theorem weaken {program : Service α} {Q' : α → Prop} (learns : discipline.Learns t program Q)
    (values : ∀ value, Q value → Q' value)
    : discipline.Learns t program Q' :=
  Protocol.Spec.conseq learns (fun _ _ given => given) (fun value _ _ => values value)
    fun _ _ _ given => given

/-- The rest may be known by what it leaves behind. -/
theorem thenSpec {program : Service α} {rest : α → Service β} {S : β → World → Prop}
    (first : discipline.Learns t program Q)
    (second : ∀ value, Q value
      → discipline.accountable.Spec t (fun _ => True) (rest value) S fun _ _ => True)
    : discipline.accountable.Spec t (fun _ => True) (program >>= rest) S fun _ _ => True := by
  refine Protocol.Spec.bind first fun value => ?_
  refine Protocol.Spec.pre (Protocol.Spec.assume (second value)) fun _ _ given => ?_
  exact ⟨given, trivial⟩

/-- What is learnt about the value is a fact for the rest. -/
theorem bind {program : Service α} {rest : α → Service β} (first : discipline.Learns t program Q)
    (second : ∀ value, Q value → discipline.Learns t (rest value) R)
    : discipline.Learns t (program >>= rest) R :=
  thenSpec first second

/-- A body and its handler teach the same if each of them does. -/
theorem tryCatch {program : Service α} {handler : AppError → Service α}
    (body : discipline.Learns t program Q)
    (handled : ∀ error, discipline.Learns t (handler error) Q)
    : discipline.Learns t (tryCatch program handler) Q :=
  Protocol.Spec.tryCatch body handled

/-- A function of the result moves into what is learnt. -/
theorem map {program : Service α} {f : α → β}
    (learns : discipline.Learns t program fun value => R (f value))
    : discipline.Learns t (f <$> program) R :=
  Protocol.Spec.map learns

/-- A loop keeps the discipline if its body does, by induction on the list. -/
theorem forM {items : List β} {body : β → Service Unit}
    (each : ∀ item ∈ items, discipline.Learns t (body item))
    : discipline.Learns t (items.forM body) := by
  induction items with
  | nil => exact pure trivial
  | cons item items ih =>
      exact bind (each item List.mem_cons_self) fun _ _ =>
        ih fun other member => each other (List.mem_cons_of_mem item member)

/-- A cleanup takes nothing of what the body has taught. -/
theorem finally' {body : Service α} {cleanup : Service Unit} (runs : discipline.Learns t body Q)
    (cleans : discipline.Learns t cleanup)
    : discipline.Learns t (finally' body cleanup) Q := by
  have caught : discipline.Learns t
      (MonadExcept.tryCatch (Except.ok <$> body) fun error => Pure.pure (.error error) : Service _)
      (returned (ε := AppError) Q) :=
    Learns.tryCatch (Learns.map runs) fun _ => Learns.pure trivial
  refine bind caught fun result holds => bind cleans fun _ _ => ?_
  cases result with
  | ok value => exact pure holds
  | error error => exact throw error

/-- A SELECT outside any transaction is made of committed rows. -/
theorem select {query : AList Row → α}
    (found : ∀ world, discipline.inv world → Q (query world.db.committed))
    : discipline.Learns t (Service.select none query) Q := by
  refine Protocol.Spec.action (Protocol.Stable.const True)
    fun world input result after inv given acted _ => ?_
  dsimp only at acted
  split at acted
  · obtain ⟨rfl, rfl⟩ := Prod.mk.inj (Option.some.inj acted)
    exact ⟨inv, accountable_refl t world, trivial⟩
  · obtain ⟨rfl, rfl⟩ := Prod.mk.inj (Option.some.inj acted)
    exact ⟨inv, accountable_refl t world, found world inv.1⟩

/-- The answer of an external service comes with the events that it is observed by. -/
theorem external {answer : Input → Option (Except AppError α × List Event)}
    (keeps : discipline.Keeps footprint t)
    (caused : ∀ input result events, answer input = some (result, events)
      → ∀ event ∈ events, footprint.events event)
    (learnt : ∀ (world : World) input value events, answer input = some (.ok value, events)
      → discipline.inv { world with trace := events ++ world.trace } → Q value)
    : discipline.Learns t (Service.external answer) Q := by
  refine Protocol.Spec.action (Protocol.Stable.const True)
    fun world input result after inv given acted allowed => ?_
  obtain ⟨⟨result', events⟩, answered, same⟩ := Option.map_eq_some_iff.mp acted
  obtain ⟨rfl, rfl⟩ := Prod.mk.inj same
  obtain ⟨kept, guaranteed, _⟩ := keeps.respects world _ inv trivial
    (.emit events (caused input _ events answered)) allowed
  refine ⟨kept, guaranteed, ?_⟩
  cases result' with
  | ok value => exact learnt world input value events answered kept.1
  | error error => trivial

/-- What has been observed is a fact of the run. -/
theorem emit {event : Tid → Event} {p : Prop} (keeps : discipline.Keeps footprint t)
    (caused : footprint.events (event t))
    (learnt : ∀ world : World, discipline.inv { world with trace := event t :: world.trace } → p)
    : discipline.Learns t (Service.emit event) fun _ => p := by
  refine Protocol.Spec.action (Protocol.Stable.const True)
    fun world input result after inv given acted allowed => ?_
  obtain ⟨rfl, rfl⟩ := Prod.mk.inj (Option.some.inj acted)
  obtain ⟨kept, guaranteed, _⟩ := keeps.respects world _ inv trivial
    (.emit [event t] (by simpa using caused)) allowed
  exact ⟨kept, guaranteed, learnt world kept.1⟩

/-- An UPDATE outside any transaction answers with a committed row. -/
theorem update {data : Row key → Row key} {R : Row key → Prop}
    (keeps : discipline.Keeps footprint t)
    (replaces : ∀ row, footprint.writes key (some row) (data row))
    (learnt : ∀ world row, discipline.inv world → world.db.committed.lookup key = some row → R row)
    : discipline.Learns t (Service.update none key data) R := by
  refine keeps.statement fun world result db ran => ?_
  split at ran
  · obtain ⟨rfl, rfl⟩ := Prod.mk.inj (Option.some.inj ran)
    exact ⟨.idle, nofun⟩
  · rename_i row found
    obtain ⟨after, granted, same⟩ := Option.map_eq_some_iff.mp ran
    obtain ⟨rfl, rfl⟩ := Prod.mk.inj same
    refine ⟨.save none _ after (by simp) (fun entry member => ?_) granted, fun value same inv => ?_⟩
    · obtain rfl := List.mem_singleton.mp member
      rw [found]
      exact replaces row
    · obtain rfl := Except.ok.inj same
      refine learnt _ (data row) inv ?_
      rw [(Server.save_none_eq_some granted).2.1]
      simp

/-- What an INSERT outside any transaction answers with is committed. -/
theorem create {row : Row key} {index : List (Sigma Row)} {R : Row key → Prop}
    (keeps : discipline.Keeps footprint t) (distinct : ∀ entry ∈ index, entry.1 ≠ key)
    (inserts : ∀ entry ∈ ⟨key, row⟩ :: index, footprint.writes entry.1 none entry.2)
    (learnt : ∀ world, discipline.inv world → world.db.committed.lookup key = some row → R row)
    : discipline.Learns t (Service.create none key row index) R := by
  refine keeps.insert (by simp) inserts fun world db granted inv => learnt _ inv ?_
  have placed : List.dlookup key ((Sigma.mk key row :: index).reverse ++ []) = some row :=
    dlookup_reverse_cons distinct []
  rw [(Server.save_none_eq_some granted).2.1, lookup_overlay]
  simpa using placed

end Learns

section

variable (keeps : discipline.Keeps footprint t)
include keeps

/-- What stays within the footprint keeps the discipline. -/
theorem Keeps.learns {program : Service α} (within : Within (Step footprint t) t program Q)
    : discipline.Learns t program Q := by
  refine (Protocol.Spec.of_within within keeps.respects (Protocol.Stable.const True)).conseq
    (fun _ _ given => given) (fun _ _ _ ends => ends.1) ?_
  exact fun _ _ _ _ => trivial

/-- What is found outside any transaction is one of the committed rows. -/
theorem Keeps.findFirst {query : AList Row → List α}
    (found : ∀ world, discipline.inv world → ∀ value ∈ query world.db.committed, Q value)
    : discipline.Learns t (Service.findFirst none query) fun found => ∀ value ∈ found, Q value := by
  refine Learns.bind (Q := fun values => ∀ value ∈ values, Q value) (Learns.select found)
    fun values all => ?_
  refine Learns.bind (keeps.learns within_attempts) fun choice _ => ?_
  exact Learns.pure fun value chosen => all value (List.mem_of_getElem? chosen)

/-- A row that is inserted is among the writes of the transaction. -/
theorem Keeps.create {row : Row key} {index : List (Sigma Row)} (own : x.owner = t)
    (distinct : ∀ entry ∈ index, entry.1 ≠ key)
    (inserts : ∀ entry ∈ ⟨key, row⟩ :: index, footprint.writes entry.1 none entry.2)
    : discipline.accountable.Spec t (fun _ => True) (Service.create (some x) key row index)
        (fun value world => value = row
          ∧ Wrote x (fun writes => writes.dlookup key = some row) world) fun _ _ => True := by
  refine keeps.insert (by simpa using own) inserts fun world db granted _ => ⟨rfl, ?_⟩
  have during : world.db.During x fun _ _ => True := fun _ _ => trivial
  exact during.save granted fun writes _ _ _ _ _ => dlookup_reverse_cons distinct writes

/-- The lock of a row is not a write. -/
theorem Keeps.selectForUpdate (own : x.owner = t)
    : discipline.accountable.Spec t (Unwritten x) (selectForUpdate x key) (fun _ => Unwritten x)
        fun _ _ => True := by
  refine spec_selectForUpdate (reading_accountable keeps.observable) own (stable_unwritten own)
    (fun _ _ given _ => given) (fun world db _ given granted => ⟨?_, ?_⟩) fun _ _ _ _ _ _ => trivial
  · exact given.1.trans_le (Server.lock_eq_some granted).2.2.2.2.2.ge
  · exact given.2.lock granted fun writes unwritten _ _ _ => unwritten

end

-----------------------------------------------------------------------------------------
-- Conditions on the rows that last
-----------------------------------------------------------------------------------------

/-- Once it holds of the committed rows it holds of them for good. -/
def Lasts (discipline : Discipline) (R : AList Row → Prop) : Prop :=
  ∀ ⦃rows later⦄, Server.Evolves discipline.rows rows later → R rows → R later

namespace Lasts

variable {R : AList Row → Prop}

/-- What lasts is stable. -/
theorem stable (lasts : discipline.Lasts R)
    : discipline.accountable.Stable t fun world => R world.db.committed :=
  fun _ _ _ _ relied => lasts relied.2.1

/-- What lasts still holds after any program. -/
theorem frame {program : Service α} {P : World → Prop} {S : α → World → Prop}
    {E : AppError → World → Prop} (lasts : discipline.Lasts R)
    (spec : discipline.accountable.Spec t P program S E)
    : discipline.accountable.Spec t (fun world => P world ∧ R world.db.committed) program
        (fun value world => S value world ∧ R world.db.committed) fun _ _ => True := by
  refine Protocol.Spec.conseq (Protocol.Spec.frame spec (fun relied => lasts relied.2.1) ?_)
    (fun _ _ given => given) (fun _ _ _ ends => ends) fun _ _ _ _ => trivial
  exact fun guaranteed => lasts (guaranteed.1.2.1.mono discipline.promised)

/-- Every round of a loop may rely on what lasts. -/
theorem forM {items : List β} {body : β → Service Unit} (lasts : discipline.Lasts R)
    (each : ∀ item ∈ items, discipline.accountable.Spec t (fun world => R world.db.committed)
      (body item) (fun _ _ => True) fun _ _ => True)
    : discipline.accountable.Spec t (fun world => R world.db.committed) (items.forM body)
        (fun _ _ => True) fun _ _ => True := by
  have rounds := Protocol.Spec.forM fun item member =>
    Protocol.Spec.conseq (lasts.frame (each item member)) (fun _ _ given => ⟨given, given⟩)
      (fun _ _ _ ends => ends.2) fun _ _ _ ends => ends
  exact rounds.forget

/-- A transaction starts without having written anything and may rely on what lasts, and what it has
written in the end is committed.
-/
theorem transaction {body : TxId → Service α} {S : α → Prop} {P : α → List (Sigma Row) → Prop}
    (lasts : discipline.Lasts R) (keeps : discipline.Keeps footprint t)
    (runs : ∀ x : TxId, x.owner = t → discipline.accountable.Spec t
      (fun world => Unwritten x world ∧ R world.db.committed) (body x)
      (fun value world => Q value ∧ Wrote x (P value) world) fun _ _ => True)
    (learnt : ∀ world value writes, discipline.inv world → Q value → P value writes
      → (∀ key row, writes.dlookup key = some row → world.db.committed.lookup key = some row)
      → S value)
    : discipline.accountable.Spec t (fun world => R world.db.committed) (Service.transaction body)
        (fun value _ => S value) fun _ _ => True := by
  have reading : Reading discipline.accountable t := reading_accountable keeps.observable
  refine Protocol.Spec.bind
    (Q := fun x world => x.owner = t ∧ Unwritten x world ∧ R world.db.committed)
    (spec_begin reading lasts.stable (fun world _ given _ =>
      ⟨rfl, ⟨by simp, Server.During.begin world.db t⟩, given⟩) fun _ _ _ _ _ => trivial)
    fun x => Protocol.Spec.assume fun own => ?_
  refine Protocol.Spec.bind (Q := fun value world => Q value ∧ Wrote x (P value) world)
    (Protocol.Spec.tryCatch (runs x own) fun error => ?_) fun value => ?_
  · refine Protocol.Spec.bind (Q := fun _ _ => True) (keeps.learns within_rollback) fun _ => ?_
    exact Protocol.Spec.throw error fun _ _ _ => trivial
  refine Protocol.Spec.assume fun holds => Protocol.Spec.bind (Q := fun _ _ => S value) ?_
    fun _ => Protocol.Spec.pure value fun _ _ given => given
  refine Service.spec_commit reading (Service.stable_during reading own (Server.Local.const _))
    (fun world writes inv given opened allowed => ?_) fun _ _ _ _ _ _ _ => trivial
  obtain ⟨kept, guaranteed, _⟩ := keeps.respects world _ inv trivial (.commit x own) allowed
  refine ⟨kept, guaranteed, learnt _ value writes kept.1 holds (given writes opened) ?_⟩
  intro key row written
  simp [opened, lookup_overlay, written]

/-- What a transaction reads before it has written anything is committed. -/
theorem select {query : AList Row → α} (lasts : discipline.Lasts R)
    (keeps : discipline.Keeps footprint t) (own : x.owner = t)
    (found : ∀ world, discipline.inv world → R world.db.committed → Q (query world.db.committed))
    : discipline.accountable.Spec t (fun world => Unwritten x world ∧ R world.db.committed)
        (Service.select (some x) query)
        (fun value world => Q value ∧ Unwritten x world ∧ R world.db.committed)
        fun _ _ => True := by
  refine Service.spec_select (reading_accountable keeps.observable)
    ((stable_unwritten own).and lasts.stable) (fun world inv given opened => ⟨?_, given⟩)
    fun _ _ _ _ _ _ => trivial
  obtain ⟨writes, opened⟩ := Option.isSome_iff_exists.mp (opened x rfl)
  obtain rfl := given.1.2 writes opened
  simpa [Server.visible, opened] using found world inv.1 given.2

end Lasts

theorem lasts_true : discipline.Lasts fun _ => True := fun _ _ _ _ => trivial

theorem Keeps.transactionStoring {body : TxId → Service α} {S : α → Prop}
    {P : α → List (Sigma Row) → Prop} (keeps : discipline.Keeps footprint t)
    (runs : ∀ x : TxId, x.owner = t → discipline.accountable.Spec t (Unwritten x) (body x)
      (fun value world => Q value ∧ Wrote x (P value) world) fun _ _ => True)
    (learnt : ∀ world value writes, discipline.inv world → Q value → P value writes
      → (∀ key row, writes.dlookup key = some row → world.db.committed.lookup key = some row)
      → S value)
    : discipline.Learns t (Service.transaction body) S := by
  have started (x : TxId) (own : x.owner = t) := Protocol.Spec.pre (runs x own)
    fun world _ (given : Unwritten x world ∧ True) => given.1
  exact Protocol.Spec.pre (lasts_true.transaction keeps started learnt) fun _ _ _ => trivial

theorem Keeps.selectUnwritten {query : AList Row → α} (keeps : discipline.Keeps footprint t)
    (own : x.owner = t) (found : ∀ world, discipline.inv world → Q (query world.db.committed))
    : discipline.accountable.Spec t (Unwritten x) (select (some x) query)
        (fun value world => Q value ∧ Unwritten x world) fun _ _ => True :=
  Protocol.Spec.conseq (lasts_true.select keeps own fun world inv _ => found world inv)
    (fun _ _ given => ⟨given, trivial⟩) (fun _ _ _ ends => ⟨ends.1, ends.2.1⟩)
    fun _ _ _ given => given

-----------------------------------------------------------------------------------------
-- Runs
-----------------------------------------------------------------------------------------

variable {mayExpire : (Tid → Bool) → World → String → Bool} {pool last : Pool World Input}

/-- In every run of services that learn, from a world without open transactions, they keep what
they have agreed on.
-/
theorem accountable_verified {services : Tid → Program World Input Unit} {world : World}
    {rows : AList Row} (observable : Observable discipline.inv)
    (start : world.db = Server.start rows) (holds : discipline.inv world)
    (safe : ∀ t, discipline.accountable.Safe t (fun _ _ => True) (services t) world)
    (run : Run (machine mayExpire) discipline.allowed ⟨world, services⟩ pool)
    : pool.Verified discipline.accountable := by
  refine Run.verified ((fits observable).vowing _) run ⟨⟨holds, ?_⟩, fun t _ => safe t⟩
  rw [start]
  exact Server.AllJustified.start rows

/-- An action of a verified pool changes the committed rows as its program may. -/
theorem answers_for (verified : pool.Verified discipline.accountable) {t : Tid} {input : Input}
    (moved : pool.move (machine mayExpire) (.run t input) = some last)
    (allowed : discipline.allowed t pool.state last.state)
    : Server.Evolves (discipline.writes t) pool.state.db.committed last.state.db.committed :=
  (verified.run moved allowed).1.2

/-- From a verified pool, a run changes the committed rows as agreed and only adds to the trace,
by induction on the run.
-/
theorem run_evolves (observable : Observable discipline.inv)
    (transitive : discipline.changes.Transitive) (verified : pool.Verified discipline.accountable)
    (run : Run (machine mayExpire) discipline.allowed pool last)
    : last.Verified discipline.accountable
      ∧ Server.Evolves discipline.changes pool.state.db.committed last.state.db.committed
      ∧ ∀ event ∈ pool.state.trace, event ∈ last.state.trace := by
  induction run with
  | refl => exact ⟨verified, Server.Evolves.refl _ _, fun _ member => member⟩
  | step _ move moved permitted ih =>
      obtain ⟨there, evolved, grown⟩ := ih
      have next := there.move ((fits observable).vowing _) moved permitted
      cases move with
      | run t input =>
          have guaranteed := (there.run moved (permitted t input rfl)).1.1
          exact ⟨next, evolved.trans transitive guaranteed.2.1, fun event member =>
            guaranteed.2.2.mem.mpr (Or.inl (grown event member))⟩
      | crash t =>
          obtain ⟨_, state, _⟩ := Pool.move_crash moved
          refine ⟨next, ?_, fun event member => ?_⟩
          · rw [state]
            exact evolved
          · rw [state]
            exact List.mem_cons_of_mem _ (grown event member)
      | env change =>
          obtain ⟨same, _⟩ := machine_env (Pool.move_env moved).1
          refine ⟨next, ?_, fun event member => ?_⟩
          · rw [same, Chance.apply_committed]
            exact evolved
          · rw [same, Chance.apply_trace]
            exact grown event member

end Discipline

end LuminaRail
