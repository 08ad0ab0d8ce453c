import LuminaRail.Model.Footprints

/-! Hoare rules for the primitive steps of services, relative to a protocol.
Statements of a transaction change nothing that others see before the commit, so a protocol
only has to accept them once, and their rules are about what the transaction knows.
-/

namespace LuminaRail

open Concurrency Database

/-- The program `t` leaves the transactions of the others alone. -/
structure Apart (t : Tid) (before after : Server Row) : Prop where
  isolated : ∀ u, u ≠ t → Server.Isolated u before after
  others : ∀ x, x.owner ≠ t → after.pending x = before.pending x

/-- The changes of the database that only the program `t` can see. -/
structure Unseen (t : Tid) (before after : Server Row) : Prop extends Apart t before after where
  committed : after.committed = before.committed

/-- The program `t` relies on the isolation of its transactions, and the protocol accepts
what others cannot see.
-/
structure Transactional (Γ : Protocol World) (t : Tid) : Prop where
  isolated : ∀ {world after}, Γ.rely t world after → Server.Isolated t world.db after.db
  unseen : ∀ {world : World} {db}, Γ.inv world → Unseen t world.db db
    → Γ.inv { world with db := db } ∧ Γ.guar t world { world with db := db }

/-- The program `t` relies on the isolation of its transactions, and the protocol accepts what
others cannot see as long as it adds no writes.
-/
structure Reading (Γ : Protocol World) (t : Tid) : Prop where
  isolated : ∀ {world after}, Γ.rely t world after → Server.Isolated t world.db after.db
  unwritten : ∀ {world : World} {db}, Γ.inv world → Unseen t world.db db
    → (∀ {x writes}, x.owner = t → db.pending x = some writes
      → writes = [] ∨ world.db.pending x = some writes)
    → Γ.inv { world with db := db } ∧ Γ.guar t world { world with db := db }

/-- A protocol that allows transactions allows reads. -/
theorem Transactional.reading {Γ : Protocol World} {t : Tid} (transactional : Transactional Γ t)
    : Reading Γ t :=
  ⟨transactional.isolated, fun inv unseen _ => transactional.unseen inv unseen⟩

/-- A vow about committed rows is kept by whatever others cannot see. -/
theorem Reading.vowing {Γ : Protocol World} {t : Tid} {vow : Tid → World → World → Prop}
    (reading : Reading Γ t)
    (calm : ∀ {world : World} {db : Server Row}, db.committed = world.db.committed
      → vow t world { world with db := db })
    : Reading (Γ.vowing vow) t where
  isolated relied := reading.isolated relied
  unwritten inv unseen shrinks := by
    obtain ⟨kept, guaranteed⟩ := reading.unwritten inv unseen shrinks
    exact ⟨kept, guaranteed, calm unseen.committed⟩

instance (Γ : Protocol World) (t : Tid) : Coe (Transactional Γ t) (Reading Γ t) :=
  ⟨Transactional.reading⟩

/-- A server is apart from itself in nothing. -/
theorem Apart.refl (t : Tid) (server : Server Row) : Apart t server server :=
  ⟨fun u _ => Server.Isolated.refl u server, fun _ _ => rfl⟩

/-- A write concerns only the writing call, by cases on the client. -/
theorem Apart.save {server after : Server Row} {client : Option TxId} {rows : List (Sigma Row)}
    {t : Tid} (own : ∀ x ∈ client, x.owner = t) (granted : server.save client rows = some after)
    : Apart t server after := by
  refine ⟨fun u other => Server.save_isolated granted fun x member same =>
    other (same.symm.trans (own x member)), fun y other => ?_⟩
  cases client with
  | none => rw [(Server.save_none_eq_some granted).2.2.1]
  | some x =>
      have different : x ≠ y := fun same => other (by rw [← same, own x rfl])
      exact (Server.save_other granted different).1

/-- A COMMIT concerns only the transaction's own call. -/
theorem Apart.commit {t : Tid} (server : Server Row) {x : TxId} (own : x.owner = t)
    : Apart t server (server.commit x) := by
  refine ⟨fun u _ => Server.commit_isolated server x, fun y other => ?_⟩
  have different : y ≠ x := fun same => other (same ▸ own)
  simp [different]

/-- Others see nothing of a server that is unchanged. -/
theorem Unseen.refl (t : Tid) (server : Server Row) : Unseen t server server :=
  ⟨Apart.refl t server, rfl⟩

/-- Others see nothing of a ROLLBACK. -/
theorem Unseen.rollback {t : Tid} (server : Server Row) {x : TxId} (own : x.owner = t)
    : Unseen t server (server.rollback x) := by
  refine ⟨⟨fun _ _ => Server.rollback_isolated server x, fun y other => ?_⟩, rfl⟩
  have different : y ≠ x := fun same => other (same ▸ own)
  simp [different]

/-- Others see nothing of a BEGIN. -/
theorem Unseen.begin (t : Tid) (server : Server Row) : Unseen t server (server.begin t).2 := by
  refine ⟨⟨fun _ other => Server.begin_isolated server (Ne.symm other), fun y other => ?_⟩, rfl⟩
  have different : y ≠ ⟨t, server.serial⟩ := fun same => other (by rw [same])
  simp [different]

/-- Others see nothing of a row lock. -/
theorem Unseen.lock {server after : Server Row} {x : TxId} {key : Key}
    (granted : server.lock x key = some after)
    : Unseen x.owner server after := by
  obtain ⟨_, _, committed, pending, _⟩ := Server.lock_eq_some granted
  exact ⟨⟨fun _ other => Server.lock_isolated granted (Ne.symm other), fun y _ => by rw [pending]⟩,
    committed⟩

/-- Others see nothing of a write in a transaction. -/
theorem Unseen.save {server after : Server Row} {x : TxId} {rows : List (Sigma Row)}
    (granted : server.save (some x) rows = some after)
    : Unseen x.owner server after :=
  ⟨Apart.save (by simp) granted, Server.save_committed granted⟩

/-- How a statement of a program that throws leaves the database. -/
def Aborted (t : Tid) (client : Option TxId) (before after : Server Row) : Prop :=
  after = before ∨ ∃ x ∈ client, x.owner = t ∧ after = before.rollback x

/-- Others see nothing of an abort, by cases on whether there was a transaction. -/
theorem Aborted.unseen {t : Tid} {client : Option TxId} {before after : Server Row}
    (aborted : Aborted t client before after)
    : Unseen t before after := by
  rcases aborted with rfl | ⟨x, _, own, rfl⟩
  · exact Unseen.refl t _
  · exact Unseen.rollback _ own

namespace Reading

variable {Γ : Protocol World} {t : Tid} {world : World} {x : TxId} {key : Key} {db : Server Row}
  (reading : Reading Γ t) (inv : Γ.inv world)
include reading inv

/-- A step that changes nothing is allowed. -/
theorem refl : Γ.inv world ∧ Γ.guar t world world :=
  reading.unwritten inv (Unseen.refl t world.db) fun _ opened => Or.inr opened

/-- A ROLLBACK of the call's own transaction is allowed. -/
theorem rollback (own : x.owner = t)
    : Γ.inv { world with db := world.db.rollback x }
      ∧ Γ.guar t world { world with db := world.db.rollback x } := by
  refine reading.unwritten inv (Unseen.rollback world.db own) fun {y writes} _ opened => ?_
  by_cases same : y = x
  · simp [same] at opened
  · exact Or.inr (by simpa [same] using opened)

/-- A BEGIN is allowed. -/
theorem begin
    : Γ.inv { world with db := (world.db.begin t).2 }
      ∧ Γ.guar t world { world with db := (world.db.begin t).2 } := by
  refine reading.unwritten inv (Unseen.begin t world.db) fun {y writes} _ opened => ?_
  by_cases same : y = ⟨t, world.db.serial⟩
  · exact Or.inl (by simpa [same, eq_comm] using opened)
  · exact Or.inr (by simpa [same] using opened)

/-- A row lock is allowed. -/
theorem lock (own : x.owner = t) (granted : world.db.lock x key = some db)
    : Γ.inv { world with db := db } ∧ Γ.guar t world { world with db := db } := by
  refine reading.unwritten inv (own ▸ Unseen.lock granted) fun _ opened => Or.inr ?_
  rw [← (Server.lock_eq_some granted).2.2.2.1]
  exact opened

/-- An abort is allowed, by cases on whether there was a transaction. -/
theorem aborted {client : Option TxId} (aborted : Aborted t client world.db db)
    : Γ.inv { world with db := db } ∧ Γ.guar t world { world with db := db } := by
  rcases aborted with rfl | ⟨x, _, own, rfl⟩
  · exact reading.refl inv
  · exact reading.rollback inv own

end Reading

namespace Service

variable {Γ : Protocol World} {t : Tid} {α : Type} {client : Option TxId} {x : TxId} {key : Key}
  {P : World → Prop} {Q : α → World → Prop} {E : AppError → World → Prop}

/-- What a transaction knows survives the steps of the others. -/
theorem stable_during {A : List (Sigma Row) → Server Row → Prop}
    (reading : Reading Γ t) (own : x.owner = t) (private' : Server.Local x A)
    : Γ.Stable t fun world => world.db.During x A :=
  fun _ _ _ _ relied during =>
    Server.During.isolated private' (own ▸ reading.isolated relied) during

/-- The rule for all statements: they run, or the database is not available. -/
theorem spec_available {run : Server Row → Option (Except AppError α × Server Row)}
    (reading : Reading Γ t) (stable : Γ.Stable t P)
    (runs : ∀ world result db, Γ.inv world → P world
      → (∀ x ∈ client, (world.db.pending x).isSome ∧ x.owner = t) → run world.db = some (result, db)
      → Γ.allowed t world { world with db := db }
      → Γ.inv { world with db := db } ∧ Γ.guar t world { world with db := db }
        ∧ Protocol.outcome Q E result { world with db := db })
    (throws : ∀ world db error, Γ.inv world → P world → Aborted t client world.db db
      → error.Unavailable → E error { world with db := db })
    : Γ.Spec t P (statement client run) Q E := by
  refine Protocol.Spec.action stable fun world input result after inv given acted allowed => ?_
  have aborts : ∀ {db error}, Aborted t client world.db db → error.Unavailable
      → after = { world with db := db } → result = .error error
      → Γ.inv after ∧ Γ.guar t world after ∧ Protocol.outcome Q E result after := by
    intro db error aborted unavailable after_eq result_eq
    subst after_eq result_eq
    obtain ⟨kept, guaranteed⟩ := reading.aborted inv aborted
    exact ⟨kept, guaranteed, throws world db error inv given aborted unavailable⟩
  have ran : (∀ x ∈ client, (world.db.pending x).isSome ∧ x.owner = t)
      → (run world.db).map (fun answer => (answer.1, { world with db := answer.2 }))
        = some (result, after)
      → Γ.inv after ∧ Γ.guar t world after ∧ Protocol.outcome Q E result after := by
    intro opened ran
    obtain ⟨answer, answered, same⟩ := Option.map_eq_some_iff.mp ran
    obtain ⟨rfl, rfl⟩ := Prod.mk.inj same
    exact runs world _ _ inv given opened answered allowed
  cases client with
  | none =>
      dsimp only at acted
      split at acted
      · obtain ⟨same, rfl⟩ := Prod.mk.inj (Option.some.inj acted)
        exact aborts (Or.inl rfl) (Or.inl rfl) rfl same.symm
      · exact ran nofun acted
  | some x =>
      dsimp only at acted
      split at acted
      · obtain ⟨same, rfl⟩ := Prod.mk.inj (Option.some.inj acted)
        exact aborts (Or.inl rfl) (Or.inr rfl) rfl same.symm
      · rename_i opened
        have opened : (world.db.pending x).isSome ∧ x.owner = t := by
          simpa [Option.isSome_iff_ne_none, not_or] using opened
        split at acted
        · obtain ⟨same, rfl⟩ := Prod.mk.inj (Option.some.inj acted)
          exact aborts (Or.inr ⟨x, rfl, opened.2, rfl⟩) (Or.inl rfl) rfl same.symm
        · refine ran (fun y member => ?_) acted
          obtain rfl := Option.some.inj member
          exact opened

/-- The rule where it does not matter why a statement throws. -/
theorem spec_statement {run : Server Row → Option (Except AppError α × Server Row)}
    (reading : Reading Γ t) (stable : Γ.Stable t P)
    (runs : ∀ world result db, Γ.inv world → P world
      → (∀ x ∈ client, (world.db.pending x).isSome ∧ x.owner = t) → run world.db = some (result, db)
      → Γ.allowed t world { world with db := db }
      → Γ.inv { world with db := db } ∧ Γ.guar t world { world with db := db }
        ∧ Protocol.outcome Q E result { world with db := db })
    (throws : ∀ world db error, Γ.inv world → P world → Aborted t client world.db db
      → E error { world with db := db })
    : Γ.Spec t P (statement client run) Q E :=
  spec_available reading stable runs fun world db error inv given aborted _ =>
    throws world db error inv given aborted

/-- A SELECT leaves the world as it is. -/
theorem spec_select_allowed {query : AList Row → α} (reading : Reading Γ t)
    (stable : Γ.Stable t P)
    (found : ∀ world, Γ.inv world → P world → (∀ x ∈ client, (world.db.pending x).isSome)
      → Γ.allowed t world world → Q (query (world.db.visible client)) world)
    (throws : ∀ world db error, Γ.inv world → P world → Aborted t client world.db db
      → E error { world with db := db })
    : Γ.Spec t P (select client query) Q E := by
  refine spec_statement reading stable
    (fun world result db inv given opened ran allowed => ?_) throws
  obtain ⟨rfl, rfl⟩ := Prod.mk.inj (Option.some.inj ran)
  obtain ⟨kept, guaranteed⟩ := reading.refl inv
  exact ⟨kept, guaranteed, found world inv given (fun x member => (opened x member).1) allowed⟩

/-- The rule for a query: its result is taken of the rows visible when it runs. -/
theorem spec_select {query : AList Row → α} (reading : Reading Γ t)
    (stable : Γ.Stable t P)
    (found : ∀ world, Γ.inv world → P world → (∀ x ∈ client, (world.db.pending x).isSome)
      → Q (query (world.db.visible client)) world)
    (throws : ∀ world db error, Γ.inv world → P world → Aborted t client world.db db
      → E error { world with db := db })
    : Γ.Spec t P (select client query) Q E :=
  spec_select_allowed reading stable (fun world inv given opened _ => found world inv given opened)
    throws

/-- The rule for a read of one row, as a query. -/
theorem spec_findUnique {Q : Option (Row key) → World → Prop}
    (reading : Reading Γ t) (stable : Γ.Stable t P)
    (found : ∀ world, Γ.inv world → P world → (∀ x ∈ client, (world.db.pending x).isSome)
      → Q ((world.db.visible client).lookup key) world)
    (throws : ∀ world db error, Γ.inv world → P world → Aborted t client world.db db
      → E error { world with db := db })
    : Γ.Spec t P (findUnique client key) Q E :=
  spec_select reading stable found throws

/-- The rule for a read of one row that has to be there, by the rule for the read and cases on
its result.
-/
theorem spec_findUniqueOrThrow {Q : Row key → World → Prop}
    (reading : Reading Γ t) (stable : Γ.Stable t P)
    (found : ∀ world row, Γ.inv world → P world → (∀ x ∈ client, (world.db.pending x).isSome)
      → (world.db.visible client).lookup key = some row → Q row world)
    (throws : ∀ world db error, Γ.inv world → P world → Aborted t client world.db db
      → E error { world with db := db })
    : Γ.Spec t P (findUniqueOrThrow client key) Q E := by
  refine Protocol.Spec.bind (Q := fun row world =>
    (∀ error, E error world) ∧ ∀ present, row = some present → Q present world)
    (spec_findUnique reading stable (fun world inv given opened => ⟨fun error => ?_, ?_⟩)
      throws) fun row => ?_
  · simpa using throws world world.db error inv given (Or.inl rfl)
  · exact fun present same => found world present inv given opened same
  · cases row with
    | none => exact Protocol.Spec.throw _ fun world _ given => given.1 _
    | some row => exact Protocol.Spec.pure row fun world _ given => given.2 row rfl

/-- SELECT ... FOR UPDATE: an existing row is locked. -/
theorem spec_selectForUpdate {Q : Unit → World → Prop} (reading : Reading Γ t)
    (own : x.owner = t) (stable : Γ.Stable t P)
    (absent : ∀ world, Γ.inv world → P world
      → (world.db.visible (some x)).lookup key = none → Q () world)
    (locked : ∀ world db, Γ.inv world → P world → world.db.lock x key = some db
      → Q () { world with db := db })
    (throws : ∀ world db error, Γ.inv world → P world → Aborted t (some x) world.db db
      → E error { world with db := db })
    : Γ.Spec t P (selectForUpdate x key) Q E := by
  refine spec_statement reading stable (fun world result db inv given _ ran _ => ?_) throws
  split at ran
  · rename_i missing
    obtain ⟨rfl, rfl⟩ := Prod.mk.inj (Option.some.inj ran)
    obtain ⟨kept, guaranteed⟩ := reading.refl inv
    exact ⟨kept, guaranteed, absent world inv given missing⟩
  · obtain ⟨after, granted, same⟩ := Option.map_eq_some_iff.mp ran
    obtain ⟨rfl, rfl⟩ := Prod.mk.inj same
    obtain ⟨kept, guaranteed⟩ := reading.lock inv own granted
    exact ⟨kept, guaranteed, locked world after inv given granted⟩

/-- An UPDATE of a transaction. -/
theorem spec_update {data : Row key → Row key} {Q : Row key → World → Prop}
    (transactional : Transactional Γ t) (own : x.owner = t) (stable : Γ.Stable t P)
    (saved : ∀ world db row, Γ.inv world → P world
      → (world.db.visible (some x)).lookup key = some row
      → world.db.save (some x) [⟨key, data row⟩] = some db
      → Γ.allowed t world { world with db := db } → Q (data row) { world with db := db })
    (throws : ∀ world db error, Γ.inv world → P world → Aborted t (some x) world.db db
      → E error { world with db := db })
    : Γ.Spec t P (update (some x) key data) Q E := by
  refine spec_statement transactional stable
    (fun world result db inv given opened ran allowed => ?_) throws
  split at ran
  · obtain ⟨rfl, rfl⟩ := Prod.mk.inj (Option.some.inj ran)
    obtain ⟨kept, guaranteed⟩ := transactional.unseen inv (Unseen.refl t world.db)
    exact ⟨kept, guaranteed, throws world _ _ inv given (Or.inl rfl)⟩
  · rename_i row found
    obtain ⟨after, granted, same⟩ := Option.map_eq_some_iff.mp ran
    obtain ⟨rfl, rfl⟩ := Prod.mk.inj same
    obtain ⟨kept, guaranteed⟩ := transactional.unseen inv (own ▸ Unseen.save granted)
    exact ⟨kept, guaranteed, saved world after row inv given found granted allowed⟩

/-- An INSERT of a transaction. -/
theorem spec_create {row : Row key} {index : List (Sigma Row)} {Q : Row key → World → Prop}
    (transactional : Transactional Γ t) (own : x.owner = t) (stable : Γ.Stable t P)
    (saved : ∀ world db, Γ.inv world → P world
      → (∀ entry ∈ ⟨key, row⟩ :: index, (world.db.visible (some x)).lookup entry.1 = none)
      → world.db.save (some x) (⟨key, row⟩ :: index) = some db
      → Γ.allowed t world { world with db := db } → Q row { world with db := db })
    (throws : ∀ world db error, Γ.inv world → P world → Aborted t (some x) world.db db
      → E error { world with db := db })
    : Γ.Spec t P (create (some x) key row index) Q E := by
  refine spec_statement transactional stable
    (fun world result db inv given opened ran allowed => ?_) throws
  split at ran
  · obtain ⟨rfl, rfl⟩ := Prod.mk.inj (Option.some.inj ran)
    obtain ⟨kept, guaranteed⟩ := transactional.unseen inv (Unseen.rollback world.db own)
    exact ⟨kept, guaranteed, throws world _ _ inv given (Or.inr ⟨x, rfl, own, rfl⟩)⟩
  · rename_i new
    obtain ⟨after, granted, same⟩ := Option.map_eq_some_iff.mp ran
    obtain ⟨rfl, rfl⟩ := Prod.mk.inj same
    obtain ⟨kept, guaranteed⟩ := transactional.unseen inv (own ▸ Unseen.save granted)
    refine ⟨kept, guaranteed, saved world after inv given (fun entry member => ?_) granted
      allowed⟩
    by_contra present
    exact new (List.any_eq_true.mpr ⟨entry, member, Option.isSome_iff_ne_none.mpr present⟩)

/-- An UPDATE outside any transaction is committed at once. -/
theorem spec_updateNow {data : Row key → Row key} {Q : Row key → World → Prop}
    (reading : Reading Γ t) (stable : Γ.Stable t P)
    (saved : ∀ world db row, Γ.inv world → P world
      → world.db.committed.lookup key = some row → world.db.holder key = none
      → db.committed = world.db.committed.insert key (data row) → Apart t world.db db
      → Γ.allowed t world { world with db := db }
      → Γ.inv { world with db := db } ∧ Γ.guar t world { world with db := db }
        ∧ Q (data row) { world with db := db })
    (throws : ∀ world error, Γ.inv world → P world → E error world)
    : Γ.Spec t P (update none key data) Q E := by
  refine spec_statement reading stable (fun world result db inv given _ ran allowed => ?_)
    fun world db error inv given aborted => ?_
  · split at ran
    · obtain ⟨rfl, rfl⟩ := Prod.mk.inj (Option.some.inj ran)
      obtain ⟨kept, guaranteed⟩ := reading.refl inv
      exact ⟨kept, guaranteed, throws world _ inv given⟩
    · rename_i row found
      obtain ⟨after, granted, same⟩ := Option.map_eq_some_iff.mp ran
      obtain ⟨rfl, rfl⟩ := Prod.mk.inj same
      obtain ⟨free, committed, _⟩ := Server.save_none_eq_some granted
      exact saved world after row inv given found (free _ List.mem_cons_self) committed
        (Apart.save (by simp) granted) allowed
  · obtain rfl : db = world.db := aborted.resolve_right (by simp)
    exact throws world error inv given

/-- An INSERT outside any transaction is committed at once. -/
theorem spec_createNow {row : Row key} {index : List (Sigma Row)} {Q : Row key → World → Prop}
    (reading : Reading Γ t) (stable : Γ.Stable t P)
    (saved : ∀ world db, Γ.inv world → P world
      → (∀ entry ∈ ⟨key, row⟩ :: index, world.db.committed.lookup entry.1 = none)
      → db.committed = overlay (⟨key, row⟩ :: index).reverse world.db.committed
      → Apart t world.db db → Γ.allowed t world { world with db := db }
      → Γ.inv { world with db := db } ∧ Γ.guar t world { world with db := db }
        ∧ Q row { world with db := db })
    (throws : ∀ world error, Γ.inv world → P world → E error world)
    : Γ.Spec t P (create none key row index) Q E := by
  refine spec_statement reading stable (fun world result db inv given _ ran allowed => ?_)
    fun world db error inv given aborted => ?_
  · split at ran
    · obtain ⟨rfl, rfl⟩ := Prod.mk.inj (Option.some.inj ran)
      obtain ⟨kept, guaranteed⟩ := reading.refl inv
      exact ⟨kept, guaranteed, throws world _ inv given⟩
    · rename_i new
      obtain ⟨after, granted, same⟩ := Option.map_eq_some_iff.mp ran
      obtain ⟨rfl, rfl⟩ := Prod.mk.inj same
      refine saved world after inv given (fun entry member => ?_)
        (Server.save_none_eq_some granted).2.1 (Apart.save (by simp) granted) allowed
      by_contra present
      exact new (List.any_eq_true.mpr ⟨entry, member, Option.isSome_iff_ne_none.mpr present⟩)
  · obtain rfl : db = world.db := aborted.resolve_right (by simp)
    exact throws world error inv given

/-- BEGIN opens a transaction without writes. -/
theorem spec_begin {Q : TxId → World → Prop} (reading : Reading Γ t)
    (stable : Γ.Stable t P)
    (begun : ∀ world, Γ.inv world → P world
      → Γ.allowed t world { world with db := (world.db.begin t).2 }
      → Q ⟨t, world.db.serial⟩ { world with db := (world.db.begin t).2 })
    (throws : ∀ world error, Γ.inv world → P world → error.Unavailable → E error world)
    : Γ.Spec t P begin Q E := by
  refine Protocol.Spec.action stable fun world input result after inv given acted allowed => ?_
  split at acted
  · obtain ⟨rfl, rfl⟩ := Prod.mk.inj (Option.some.inj acted)
    obtain ⟨kept, guaranteed⟩ := reading.refl inv
    exact ⟨kept, guaranteed, throws world _ inv given (Or.inl rfl)⟩
  · obtain ⟨rfl, rfl⟩ := Prod.mk.inj (Option.some.inj acted)
    obtain ⟨kept, guaranteed⟩ := reading.begin inv
    exact ⟨kept, guaranteed, begun world inv given allowed⟩

/-- COMMIT makes the writes of the transaction visible to all. -/
theorem spec_commit {Q : Unit → World → Prop} (reading : Reading Γ t)
    (stable : Γ.Stable t P)
    (commits : ∀ world writes, Γ.inv world → P world → world.db.pending x = some writes
      → Γ.allowed t world { world with db := world.db.commit x }
      → Γ.inv { world with db := world.db.commit x }
        ∧ Γ.guar t world { world with db := world.db.commit x }
        ∧ Q () { world with db := world.db.commit x })
    (throws : ∀ world db error, Γ.inv world → P world → Aborted t (some x) world.db db
      → error.Unavailable → E error { world with db := db })
    : Γ.Spec t P (commit x) Q E := by
  refine Protocol.Spec.action stable fun world input result after inv given acted allowed => ?_
  split at acted
  · obtain ⟨rfl, rfl⟩ := Prod.mk.inj (Option.some.inj acted)
    obtain ⟨kept, guaranteed⟩ := reading.refl inv
    exact ⟨kept, guaranteed, throws world _ _ inv given (Or.inl rfl) (Or.inr rfl)⟩
  · rename_i opened
    have opened : (world.db.pending x).isSome ∧ x.owner = t := by
      simpa [Option.isSome_iff_ne_none, not_or] using opened
    split at acted
    · obtain ⟨rfl, rfl⟩ := Prod.mk.inj (Option.some.inj acted)
      obtain ⟨kept, guaranteed⟩ := reading.rollback inv opened.2
      exact ⟨kept, guaranteed,
        throws world _ _ inv given (Or.inr ⟨x, rfl, opened.2, rfl⟩) (Or.inl rfl)⟩
    · obtain ⟨rfl, rfl⟩ := Prod.mk.inj (Option.some.inj acted)
      obtain ⟨writes, opened⟩ := Option.isSome_iff_exists.mp opened.1
      exact commits world writes inv given opened allowed

/-- The rule for ROLLBACK, which does not throw. -/
theorem spec_rollback {Q : Unit → World → Prop} (reading : Reading Γ t) (own : x.owner = t)
    (stable : Γ.Stable t P)
    (ends : ∀ world, Γ.inv world → P world → Q () { world with db := world.db.rollback x })
    : Γ.Spec t P (rollback x) Q E := by
  refine Protocol.Spec.action stable fun world input result after inv given acted _ => ?_
  rw [if_neg (by simp [own])] at acted
  obtain ⟨rfl, rfl⟩ := Prod.mk.inj (Option.some.inj acted)
  obtain ⟨kept, guaranteed⟩ := reading.rollback inv own
  exact ⟨kept, guaranteed, ends world inv given⟩

/-- A transaction whose body ends with the writes in a state that may be committed. -/
theorem spec_transaction {body : TxId → Service α} {B : TxId → World → Prop}
    {R : TxId → α → World → Prop} (transactional : Transactional Γ t) (stable : Γ.Stable t P)
    (begun : ∀ world, Γ.inv world → P world → B ⟨t, world.db.serial⟩
      { world with db := (world.db.begin t).2 })
    (runs : ∀ x : TxId, x.owner = t → Γ.Spec t (B x) (body x) (R x) E)
    (ready : ∀ x value, x.owner = t → Γ.Stable t (R x value))
    (commits : ∀ x value world writes, x.owner = t → Γ.inv world → R x value world
      → world.db.pending x = some writes
      → Γ.allowed t world { world with db := world.db.commit x }
      → Γ.inv { world with db := world.db.commit x }
        ∧ Γ.guar t world { world with db := world.db.commit x }
        ∧ Q value { world with db := world.db.commit x })
    (unopened : ∀ world error, Γ.inv world → P world → E error world)
    (uncommitted : ∀ x value world db error, Γ.inv world → R x value world
      → Aborted t (some x) world.db db → E error { world with db := db })
    (failing : ∀ error, Γ.Stable t (E error))
    (rolled : ∀ error world x, Γ.inv world → E error world
      → E error { world with db := world.db.rollback x })
    : Γ.Spec t P (transaction body) Q E := by
  refine Protocol.Spec.bind (Q := fun x world => x.owner = t ∧ B x world)
    (spec_begin transactional stable (fun world inv given _ => ⟨rfl, begun world inv given⟩)
      fun world error inv given _ => unopened world error inv given) fun x => ?_
  refine Protocol.Spec.assume fun own => ?_
  refine Protocol.Spec.bind (Q := R x) (Protocol.Spec.tryCatch (runs x own) fun error => ?_)
    fun value => ?_
  · refine Protocol.Spec.bind (Q := fun _ => E error)
      (spec_rollback transactional own (failing error) fun world => rolled error world x)
      fun _ => ?_
    exact Protocol.Spec.throw error fun _ _ given => given
  · refine Protocol.Spec.bind (Q := fun _ => Q value)
      (spec_commit transactional (ready x value own)
        (fun world writes inv given => commits x value world writes own inv given)
        fun world db error inv given aborted _ =>
          uncommitted x value world db error inv given aborted) fun _ => ?_
    exact Protocol.Spec.pure value fun _ _ given => given

/-- The rule for a check, by cases on its condition. -/
theorem spec_throwIf {bad : Prop} [Decidable bad] {error : AppError}
    (throws : ∀ world, Γ.inv world → P world → E error world)
    : Γ.Spec t P (throwIf bad error) (fun _ world => ¬bad ∧ P world) E := by
  unfold throwIf
  split
  · exact Protocol.Spec.throw _ throws
  · exact Protocol.Spec.pure _ fun _ _ given => ⟨‹_›, given⟩

/-- The cleanup keeps whatever holds after the body. -/
theorem spec_cleanup {body : Service α} {cleanup : Service Unit}
    (runs : Γ.Spec t P body Q E) (cleans : ∀ value, Γ.Spec t (Q value) cleanup (fun _ => Q value) E)
    (anyhow : ∀ error, Γ.Spec t (E error) cleanup (fun _ => E error) E)
    : Γ.Spec t P (finally' body cleanup) Q E := by
  have caught : Γ.Spec t P
      (tryCatch (Except.ok <$> body) fun error => pure (.error error) : Service _)
      (Protocol.outcome Q E) E := by
    refine Protocol.Spec.tryCatch (Q := Protocol.outcome Q E) (Protocol.Spec.map runs)
      fun error => ?_
    exact Protocol.Spec.pure _ fun _ _ given => given
  refine Protocol.Spec.bind caught fun result => ?_
  cases result with
  | ok value =>
      exact Protocol.Spec.bind (cleans value) fun _ => Protocol.Spec.pure _ fun _ _ given => given
  | error error =>
      exact Protocol.Spec.bind (anyhow error) fun _ => Protocol.Spec.throw _ fun _ _ given => given

/-- A cleanup that only has to be safe, however the body has ended. -/
theorem spec_finally' {body : Service α} {cleanup : Service Unit} {D : World → Prop}
    (runs : Γ.Spec t P body (fun _ => D) fun _ => D)
    (cleans : Γ.Spec t D cleanup (fun _ => D) fun _ => D)
    : Γ.Spec t P (finally' body cleanup) (fun _ => D) fun _ => D :=
  spec_cleanup runs (fun _ => cleans) fun _ => cleans

/-- The clock is read at some moment. -/
theorem spec_now {Q : Nat → World → Prop} (reading : Reading Γ t)
    (stable : Γ.Stable t P) (read : ∀ world, Γ.inv world → P world → Q world.clock world)
    : Γ.Spec t P now Q E := by
  refine Protocol.Spec.action stable fun world input result after inv given acted _ => ?_
  obtain ⟨rfl, rfl⟩ := Prod.mk.inj (Option.some.inj acted)
  obtain ⟨kept, guaranteed⟩ := reading.refl inv
  exact ⟨kept, guaranteed, read world inv given⟩

/-- The rule for a random text: any text may be read. -/
theorem spec_randomText {Q : String → World → Prop} (reading : Reading Γ t)
    (stable : Γ.Stable t P) (read : ∀ world text, Γ.inv world → P world → Q text world)
    : Γ.Spec t P randomText Q E := by
  refine Protocol.Spec.action stable fun world input result after inv given acted _ => ?_
  obtain ⟨rfl, rfl⟩ := Prod.mk.inj (Option.some.inj acted)
  obtain ⟨kept, guaranteed⟩ := reading.refl inv
  exact ⟨kept, guaranteed, read world _ inv given⟩

/-- The rule for the number of attempts: any count may be read. -/
theorem spec_attempts {Q : Nat → World → Prop} (reading : Reading Γ t)
    (stable : Γ.Stable t P) (read : ∀ world count, Γ.inv world → P world → Q count world)
    : Γ.Spec t P attempts Q E := by
  refine Protocol.Spec.action stable fun world input result after inv given acted _ => ?_
  obtain ⟨rfl, rfl⟩ := Prod.mk.inj (Option.some.inj acted)
  obtain ⟨kept, guaranteed⟩ := reading.refl inv
  exact ⟨kept, guaranteed, read world _ inv given⟩

/-- One of the rows is found, if there are any. -/
theorem spec_findFirst {query : AList Row → List α} {Q : Option α → World → Prop}
    (reading : Reading Γ t) (stable : Γ.Stable t P) (later : ∀ found, Γ.Stable t (Q found))
    (found : ∀ world found, Γ.inv world → P world → Γ.allowed t world world
      → (∀ value ∈ found, value ∈ query (world.db.visible client))
      → (found = none → query (world.db.visible client) = []) → Q found world)
    (throws : ∀ world db error, Γ.inv world → P world → Aborted t client world.db db
      → E error { world with db := db })
    : Γ.Spec t P (findFirst client query) Q E := by
  refine Protocol.Spec.bind (Q := fun values world => ∀ found, (∀ value ∈ found, value ∈ values)
    → (found = none → values = []) → Q found world) (spec_select_allowed reading stable
      (fun world inv given _ allowed value listed missing =>
        found world value inv given allowed listed missing)
      throws) fun values => ?_
  refine Protocol.Spec.bind (Q := fun choice => Q values[choice % values.length]?)
    (spec_attempts reading (fun s s' before after relied given value listed missing =>
      later value s s' before after relied (given value listed missing))
      fun world choice _ given => given _ (fun value => List.mem_of_getElem?) fun missing => ?_)
    fun choice => Protocol.Spec.pure _ fun _ _ given => given
  by_contra nonempty
  have bound : choice % values.length < values.length :=
    Nat.mod_lt _ (List.length_pos_iff.mpr nonempty)
  exact absurd (List.getElem?_eq_none_iff.mp missing) (Nat.not_le.mpr bound)

-----------------------------------------------------------------------------------------
-- What a transaction knows
-----------------------------------------------------------------------------------------

/-- While `x` is open, `A` holds of its writes and locks, and `K` holds of the committed rows. -/
def At (x : TxId) (A : List (Sigma Row) → Server Row → Prop) (K : AList Row → Prop)
    (world : World) : Prop :=
  world.db.During x A ∧ K world.db.committed

/-- The others cannot falsify `K`. -/
def Steady (Γ : Protocol World) (t : Tid) (K : AList Row → Prop) : Prop :=
  ∀ ⦃world after⦄, Γ.inv world → Γ.inv after → Γ.rely t world after
    → K world.db.committed → K after.db.committed

variable {A : List (Sigma Row) → Server Row → Prop} {K F : AList Row → Prop}

/-- A fact that is not about the rows is steady. -/
theorem Steady.const (p : Prop) : Steady Γ t fun _ => p := fun _ _ _ _ _ holds => holds

/-- Two steady facts are steady together. -/
theorem Steady.and {K' : AList Row → Prop} (first : Steady Γ t K) (second : Steady Γ t K')
    : Steady Γ t fun store => K store ∧ K' store :=
  fun _ _ before after relied holds =>
    ⟨first before after relied holds.1, second before after relied holds.2⟩

/-- A private view and a steady fact are stable. -/
theorem At.stable (transactional : Transactional Γ t) (own : x.owner = t)
    (private' : Server.Local x A) (steady : Steady Γ t K)
    : Γ.Stable t (At x A K) :=
  fun world after before_inv after_inv relied given =>
    ⟨stable_during transactional own private' world after before_inv after_inv relied given.1,
      steady before_inv after_inv relied given.2⟩

/-- A statement that throws leaves the committed rows alone. -/
theorem At.aborted {world : World} {db : Server Row} (weaker : ∀ store, K store → F store)
    {t : Tid} (given : At x A K world) (aborted : Aborted t client world.db db)
    : F db.committed :=
  aborted.unseen.committed ▸ weaker _ given.2

section

variable (transactional : Transactional Γ t) (own : x.owner = t) (private' : Server.Local x A)
  (steady : Steady Γ t K) (weaker : ∀ store, K store → F store)
include transactional own private' steady weaker

/-- What a transaction finds, at the moment of the statement. -/
theorem at_findUnique
    : Γ.Spec t (At x A K) (findUnique (some x) key)
        (fun row world => At x A K world ∧ ∃ writes, A writes world.db
          ∧ (overlay writes world.db.committed).lookup key = row)
        fun _ world => F world.db.committed := by
  refine spec_findUnique transactional (At.stable transactional own private' steady)
    (fun world _ given opened => ⟨given, ?_⟩)
    fun _ _ _ _ given aborted => given.aborted weaker aborted
  obtain ⟨writes, opened⟩ := Option.isSome_iff_exists.mp (opened x rfl)
  exact ⟨writes, given.1 writes opened, by simp [Server.visible, opened]⟩

omit weaker in
/-- The clock is read while the transaction waits. -/
theorem at_now : Γ.Spec t (At x A K) now (fun _ => At x A K) E :=
  spec_now transactional (At.stable transactional own private' steady) fun _ _ given => given

omit weaker in
/-- A random text keeps the view of the transaction. -/
theorem at_randomText : Γ.Spec t (At x A K) randomText (fun _ => At x A K) E :=
  spec_randomText transactional (At.stable transactional own private' steady)
    fun _ _ _ given => given

/-- The row was locked, or there is no such row yet. -/
theorem at_selectForUpdate {B : List (Sigma Row) → Server Row → Prop}
    (locked : ∀ writes before db, A writes before → K before.committed
      → (∀ k y, before.holder k = some y → db.holder k = some y)
      → db.committed = before.committed → db.holder key = some x → B writes db)
    : Γ.Spec t (At x A K) (selectForUpdate x key)
        (fun _ world => At x B K world
          ∨ At x A (fun store => K store ∧ store.lookup key = none) world)
        fun _ world => F world.db.committed := by
  refine spec_selectForUpdate transactional own (At.stable transactional own private' steady)
    (fun world _ given missing => Or.inr ⟨given.1, given.2, ?_⟩)
    (fun world db _ given granted => Or.inl ⟨?_, ?_⟩)
    fun _ _ _ _ given aborted => given.aborted weaker aborted
  · simp only [Server.visible, lookup_overlay, Option.or_eq_none_iff] at missing
    exact missing.2
  · exact given.1.lock granted fun writes holds locks committed held =>
      locked writes world.db db holds given.2 locks committed held
  · exact (Server.lock_eq_some granted).2.2.1 ▸ given.2

/-- The new row stands first among the writes and is locked. -/
theorem at_update {data : Row key → Row key}
    {B : Row key → List (Sigma Row) → Server Row → Prop}
    (next : ∀ world writes db row, A writes world.db → K world.db.committed
      → world.db.pending x = some writes
      → (overlay writes world.db.committed).lookup key = some row
      → world.db.save (some x) [⟨key, data row⟩] = some db
      → Γ.allowed t world { world with db := db }
      → (∀ k y, world.db.holder k = some y → db.holder k = some y)
      → db.committed = world.db.committed → db.holder key = some x
      → B (data row) (⟨key, data row⟩ :: writes) db)
    : Γ.Spec t (At x A K) (update (some x) key data) (fun row => At x (B row) K)
        fun _ world => F world.db.committed := by
  refine spec_update transactional own (At.stable transactional own private' steady)
    (fun world db row _ given found granted allowed => ⟨?_, ?_⟩)
    fun _ _ _ _ given aborted => given.aborted weaker aborted
  · refine given.1.save granted fun writes opened holds locks committed held => ?_
    refine next world writes db row holds given.2 opened ?_ granted allowed locks committed
      (held ⟨key, data row⟩ List.mem_cons_self)
    simpa [Server.visible, opened] using found
  · exact Server.save_committed granted ▸ given.2

/-- The new rows stand first among the writes and are locked; they were absent before. -/
theorem at_create {row : Row key} {index : List (Sigma Row)}
    {B : List (Sigma Row) → Server Row → Prop}
    (next : ∀ world writes db, A writes world.db → K world.db.committed
      → (∀ entry ∈ ⟨key, row⟩ :: index,
        (overlay writes world.db.committed).lookup entry.1 = none)
      → Γ.allowed t world { world with db := db }
      → (∀ k y, world.db.holder k = some y → db.holder k = some y)
      → db.committed = world.db.committed
      → (∀ entry ∈ ⟨key, row⟩ :: index, db.holder entry.1 = some x)
      → B ((⟨key, row⟩ :: index).reverse ++ writes) db)
    : Γ.Spec t (At x A K) (create (some x) key row index) (fun _ => At x B K)
        fun _ world => F world.db.committed := by
  refine spec_create transactional own (At.stable transactional own private' steady)
    (fun world db _ given absent granted allowed => ⟨?_, ?_⟩)
    fun _ _ _ _ given aborted => given.aborted weaker aborted
  · refine given.1.save granted fun writes opened holds locks committed held => ?_
    refine next world writes db holds given.2 (fun entry member => ?_) allowed locks committed
      held
    simpa [Server.visible, opened] using absent entry member
  · exact Server.save_committed granted ▸ given.2

omit own private' in
/-- A transaction starts without writes; at its end they must be ready to be committed. -/
theorem at_transaction {body : TxId → Service α} {R : TxId → α → List (Sigma Row) → Server Row → Prop}
    {L : AList Row → Prop} {Q : α → World → Prop}
    (runs : ∀ x : TxId, x.owner = t →
      Γ.Spec t (At x (fun writes _ => writes = []) K) (body x) (fun value => At x (R x value) L)
        fun _ world => F world.db.committed)
    (ready : ∀ x value, Server.Local x (R x value)) (steady_last : Steady Γ t L)
    (steady_error : Steady Γ t F) (last : ∀ store, L store → F store)
    (commits : ∀ x value world writes, x.owner = t → Γ.inv world
      → R x value writes world.db → L world.db.committed → world.db.pending x = some writes
      → Γ.allowed t world { world with db := world.db.commit x }
      → Γ.inv { world with db := world.db.commit x }
        ∧ Γ.guar t world { world with db := world.db.commit x }
        ∧ Q value { world with db := world.db.commit x })
    : Γ.Spec t (fun world => K world.db.committed) (transaction body) Q
        fun _ world => F world.db.committed := by
  refine spec_transaction transactional
    (fun _ _ before after relied => steady before after relied)
    (fun world _ given => ⟨Server.During.begin world.db t, given⟩) runs
    (fun x value own => At.stable transactional own (ready x value) steady_last)
    (fun x value world writes own inv given opened allowed =>
      commits x value world writes own inv (given.1 writes opened) given.2 opened allowed)
    (fun world _ _ given => weaker _ given)
    (fun x value world db _ _ given aborted => given.aborted last aborted)
    (fun _ _ _ before after relied => steady_error before after relied)
    fun _ _ _ _ given => given

end

end Service

end LuminaRail
