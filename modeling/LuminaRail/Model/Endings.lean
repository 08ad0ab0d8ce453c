import LuminaRail.Model.Exclusive

/-! How a service that runs alone ends, with a value or with an error, and which errors mean that
the database was not available.
-/

namespace LuminaRail

open Concurrency Database Service Exclusive

-----------------------------------------------------------------------------------------
-- Services that leave the database alone
-----------------------------------------------------------------------------------------

section

variable {t : Tid} {s : Snapshot} {α : Type}

/-- However the service ends, the database stays as it is. -/
def Stays (t : Tid) (s : Snapshot) (service : Service α) : Prop :=
  (Protocol.alone t).Spec t ((exclusiveAlone t).At s) service (fun _ => (exclusiveAlone t).At s)
    fun _ => (exclusiveAlone t).At s

/-- A service that leaves the database alone yields the same snapshot. -/
theorem Stays.yields {service : Service α} (stays : Stays t s service)
    : (exclusiveAlone t).Yields s service fun _ last => last = s :=
  Protocol.Spec.conseq stays (fun _ _ here => here) (fun _ _ _ here => ⟨s, here, rfl⟩)
    fun _ _ _ _ => trivial

/-- A service that only returns leaves the database alone. -/
theorem Stays.pure (value : α) : Stays t s (pure value) :=
  Protocol.Spec.pure value fun _ _ here => here

/-- A service that only throws leaves the database alone. -/
theorem Stays.throw (error : AppError) : Stays t s (throw error : Service α) :=
  Protocol.Spec.throw error fun _ _ here => here

/-- Two services in sequence leave the database alone if both do. -/
theorem Stays.bind {β : Type} {first : Service β} {rest : β → Service α} (stays : Stays t s first)
    (continues : ∀ value, Stays t s (rest value))
    : Stays t s (first >>= rest) :=
  Protocol.Spec.bind stays continues

/-- A check leaves the database alone, by cases on whether it throws. -/
theorem stays_throwIf {bad : Prop} [Decidable bad] {error : AppError}
    : Stays t s (throwIf bad error) := by
  unfold throwIf
  split
  · exact Stays.throw _
  · exact Stays.pure _

/-- An action that leaves the database alone. -/
theorem stays_act {action : Tid → World → Input → Option (Except AppError α × World)}
    (quiet : ∀ {world input result after}, action t world input = some (result, after)
      → after.db = world.db)
    : Stays t s (act action) := by
  refine Protocol.Spec.action (At.stable s) fun world input result after _ here acted _ => ?_
  have same := quiet acted
  have still : (exclusiveAlone t).At s after := ⟨trivial, fun _ _ _ _ _ _ => trivial,
    same ▸ here.pending, same ▸ here.old, same ▸ here.committed, nofun⟩
  refine ⟨trivial, fun other => absurd rfl other, ?_⟩
  cases result with
  | error error => exact still
  | ok value => exact still

/-- A call to the outside only appends events, so the database stays. -/
theorem stays_external {answer : Input → Option (Except AppError α × List Event)}
    : Stays t s (external answer) := by
  refine stays_act fun acted => ?_
  obtain ⟨reply, _, same⟩ := Option.map_eq_some_iff.mp acted
  obtain ⟨_, rfl⟩ := Prod.mk.inj same
  rfl

/-- A call to the mock provider only changes its sandbox. -/
theorem stays_onMock {run : Nat → String → Sandbox → α × Sandbox} : Stays t s (onMock run) := by
  refine stays_act fun acted => ?_
  obtain ⟨_, rfl⟩ := Prod.mk.inj (Option.some.inj acted)
  rfl

/-- A call to the NGN provider only changes its sandbox. -/
theorem stays_onNgn {run : Nat → String → Sandbox → α × Sandbox} : Stays t s (onNgn run) := by
  refine stays_act fun acted => ?_
  obtain ⟨_, rfl⟩ := Prod.mk.inj (Option.some.inj acted)
  rfl

/-- An observation only appends its event. -/
theorem stays_emit {event : Tid → Event} : Stays t s (emit event) := by
  refine stays_act fun acted => ?_
  obtain ⟨_, rfl⟩ := Prod.mk.inj (Option.some.inj acted)
  rfl

/-- A read of the clock changes nothing. -/
theorem stays_now : Stays t s now := by
  refine stays_act fun acted => ?_
  obtain ⟨_, rfl⟩ := Prod.mk.inj (Option.some.inj acted)
  rfl

/-- A random text changes nothing in the database. -/
theorem stays_randomText : Stays t s randomText := by
  refine stays_act fun acted => ?_
  obtain ⟨_, rfl⟩ := Prod.mk.inj (Option.some.inj acted)
  rfl

/-- A body and its handler leave the database alone if both do. -/
theorem Stays.tryCatch {body : Service α} {handler : AppError → Service α} (stays : Stays t s body)
    (handled : ∀ error, Stays t s (handler error))
    : Stays t s (tryCatch body handler) :=
  Protocol.Spec.tryCatch stays handled

end

/-- The transaction is no longer open. -/
def Snapshot.rollback (s : Snapshot) (x : TxId) : Snapshot :=
  { s with pending := Function.update s.pending x none }

/-- From the snapshot the service returns as described, or throws as described. -/
def Ends {α : Type} (t : Tid) (s : Snapshot) (service : Service α) (Q : α → Snapshot → Prop)
    (F : AppError → Snapshot → Prop) : Prop :=
  (Protocol.alone t).Spec t ((exclusiveAlone t).At s) service
    (fun value world => ∃ last, (exclusiveAlone t).At last world ∧ Q value last)
    fun error world => ∃ last, (exclusiveAlone t).At last world ∧ F error last

/-- The service was interrupted and has left the snapshot as it was. -/
def Interrupted (s : Snapshot) (error : AppError) (last : Snapshot) : Prop :=
  error.Unavailable ∧ last = s

namespace Ends

variable {α β : Type} {t : Tid} {s : Snapshot} {world : World} {client : Option TxId} {x : TxId}
  {key : Key} {Q Q' : α → Snapshot → Prop} {F F' : AppError → Snapshot → Prop} {db : Server Row}

-----------------------------------------------------------------------------------------
-- Composition
-----------------------------------------------------------------------------------------

/-- A service that leaves the database alone ends in the same snapshot, returning or throwing. -/
theorem of_stays {service : Service α} (stays : Stays t s service)
    : Ends t s service (fun _ last => last = s) fun _ last => last = s :=
  Protocol.Spec.conseq stays (fun _ _ here => here) (fun _ _ _ here => ⟨s, here, rfl⟩)
    fun _ _ _ here => ⟨s, here, rfl⟩

/-- Both postconditions of an ending can be weakened. -/
theorem mono {service : Service α} (ends : Ends t s service Q F)
    (weaker : ∀ value last, Q value last → Q' value last)
    (throws : ∀ error last, F error last → F' error last)
    : Ends t s service Q' F' := by
  refine Protocol.Spec.conseq ends (fun _ _ here => here) (fun value world _ ended => ?_)
    fun error world _ ended => ?_
  · exact ended.imp fun last holds => ⟨holds.1, weaker value last holds.2⟩
  · exact ended.imp fun last holds => ⟨holds.1, throws error last holds.2⟩

/-- A service that only returns ends in the snapshot in which it starts. -/
theorem pure {value : α} (holds : Q value s) : Ends t s (pure value) Q F :=
  Protocol.Spec.pure value fun _ _ here => ⟨s, here, holds⟩

/-- A service that only throws ends in the snapshot in which it starts. -/
theorem throw {error : AppError} (holds : F error s) : Ends t s (throw error : Service α) Q F :=
  Protocol.Spec.throw error fun _ _ here => ⟨s, here, holds⟩

/-- Endings compose: what follows starts in a snapshot in which the first service has ended. -/
theorem bind {first : Service β} {rest : β → Service α} {R : β → Snapshot → Prop}
    (ends : Ends t s first R F) (later : ∀ value next, R value next → Ends t next (rest value) Q F)
    : Ends t s (first >>= rest) Q F := by
  refine Protocol.Spec.bind ends fun value => Protocol.Spec.of_safe fun world inv given => ?_
  obtain ⟨next, there, holds⟩ := given
  exact (later value next holds).safe inv there

/-- What follows a read. -/
theorem read {first : Service β} {rest : β → Service α} {R : β → Prop}
    (ends : Ends t s first (fun value last => R value ∧ last = s) (Interrupted s))
    (throws : ∀ error, error.Unavailable → F error s)
    (later : ∀ value, R value → Ends t s (rest value) Q F)
    : Ends t s (first >>= rest) Q F := by
  refine bind (ends.mono (fun _ _ given => given)
    fun error last interrupted => interrupted.2 ▸ throws error interrupted.1)
    fun value next given => ?_
  obtain ⟨holds, rfl⟩ := given
  exact later value holds

/-- What follows an operation that leaves the database alone. -/
theorem stay {first : Service β} {rest : β → Service α} (stays : Stays t s first)
    (throws : ∀ error, F error s) (later : ∀ value, Ends t s (rest value) Q F)
    : Ends t s (first >>= rest) Q F := by
  refine bind ((of_stays stays).mono (fun _ _ same => same)
    fun error last same => same ▸ throws error) fun value next same => ?_
  subst same
  exact later value

/-- A function of the result moves into the postcondition. -/
theorem map {service : Service β} {f : β → α} (ends : Ends t s service (fun value => Q (f value)) F)
    : Ends t s (f <$> service) Q F :=
  Protocol.Spec.map ends

/-- A handler starts in a snapshot in which the body has thrown. -/
theorem tryCatch {body : Service α} {handler : AppError → Service α} (ends : Ends t s body Q F)
    (handled : ∀ error next, F error next → Ends t next (handler error) Q F')
    : Ends t s (tryCatch body handler) Q F' := by
  refine Protocol.Spec.tryCatch ends fun error => Protocol.Spec.of_safe fun world inv given => ?_
  obtain ⟨next, there, holds⟩ := given
  exact (handled error next holds).safe inv there

/-- A cleanup that leaves the database alone, however the body has ended. -/
theorem finally' {body : Service α} {cleanup : Service Unit} (ends : Ends t s body Q F)
    (cleans : ∀ s, Stays t s cleanup) (thrown : ∀ {error last}, F error last → F' error last)
    (either : ∀ {value error last}, Q value last → F' error last)
    (both : ∀ {error error' last}, F error last → F' error' last)
    : Ends t s (finally' body cleanup) Q F' := by
  have caught : Ends t s
      (MonadExcept.tryCatch (Except.ok <$> body) fun error => Pure.pure (.error error) : Service _)
      (Protocol.outcome Q F) F' :=
    tryCatch (map (f := Except.ok) ends) fun error next fails => pure fails
  refine bind caught fun result next holds => ?_
  cases result with
  | ok value =>
      refine bind ((of_stays (cleans next)).mono (fun _ _ same => same)
        fun error last same => same ▸ either holds) fun _ last same => ?_
      subst same
      exact pure holds
  | error error =>
      refine bind ((of_stays (cleans next)).mono (fun _ _ same => same)
        fun error last same => same ▸ both holds) fun _ last same => ?_
      subst same
      exact throw (thrown holds)

/-- A lone run of the service ends so. -/
theorem alone {service : Service α} {after : World} {result : Except AppError α}
    (ends : Ends t (.of t world) service Q F) (run : Program.Alone t service.run world result after)
    : ∃ last, (exclusiveAlone t).At last after ∧ Protocol.outcome Q F result last := by
  have ended := Protocol.Spec.of_alone ends (at_alone t world) run
  cases result with
  | ok value => exact ended
  | error error => exact ended

-----------------------------------------------------------------------------------------
-- Statements
-----------------------------------------------------------------------------------------

/-- An action that leaves the database alone and never throws. -/
theorem act {action : Tid → World → Input → Option (Except AppError α × World)}
    (quiet : ∀ {world input result after}, action t world input = some (result, after)
      → after.db = world.db ∧ ∃ value, result = .ok value)
    : Ends t s (Service.act action) (fun _ last => last = s) fun _ _ => False := by
  refine Protocol.Spec.action (At.stable s) fun world input result after _ here acted _ => ?_
  obtain ⟨same, value, rfl⟩ := quiet acted
  refine ⟨trivial, fun other => absurd rfl other, s, ?_, rfl⟩
  exact ⟨trivial, fun _ _ _ _ _ _ => trivial, same ▸ here.pending, same ▸ here.old,
    same ▸ here.committed, nofun⟩

/-- What follows an observation. -/
theorem observe {event : Tid → Event} {rest : Unit → Service α} (later : Ends t s (rest ()) Q F)
    : Ends t s (emit event >>= rest) Q F := by
  have observed : Ends t s (emit event) (fun _ last => last = s) fun _ _ => False := by
    refine act fun acted => ?_
    obtain ⟨rfl, rfl⟩ := Prod.mk.inj (Option.some.inj acted)
    exact ⟨rfl, (), rfl⟩
  refine bind (observed.mono (fun _ _ same => same) fun _ _ => False.elim) fun _ next same => ?_
  subst same
  exact later

/-- A server whose committed rows and own transactions are as before is at the same snapshot. -/
theorem stays_at {db : Server Row} (here : (exclusiveAlone t).At s world)
    (unseen : Unseen t world.db db) (serial : world.db.serial ≤ db.serial)
    (kept : ∀ y writes, y.owner = t → db.pending y = some writes
      → world.db.pending y = some writes)
    : (exclusiveAlone t).At s { world with db := db } where
  mine := trivial
  covered _ _ _ _ _ _ := trivial
  pending y writes own opened := here.pending y writes own (kept y writes own opened)
  old y opened := (here.old y opened).trans_le serial
  committed key covered := unseen.committed ▸ here.committed key covered
  kept := nofun

/-- A server whose transaction was aborted, or that is unchanged, is at the same snapshot. -/
theorem aborted_at (here : (exclusiveAlone t).At s world) (aborted : Aborted t client world.db db)
    : (exclusiveAlone t).At s { world with db := db } := by
  rcases aborted with rfl | ⟨y, _, own, rfl⟩
  · exact here
  · refine stays_at here (Unseen.rollback _ own) le_rfl fun z writes _ opened => ?_
    by_cases same : z = y
    · simp [same] at opened
    · simpa [same] using opened

/-- What a statement returns is known; it throws what its run throws, or is interrupted. -/
theorem statement {run : Server Row → Option (Except AppError α × Server Row)}
    (yields : (exclusiveAlone t).Yields s (Service.statement client run) Q)
    (errors : ∀ world error after, (exclusiveAlone t).At s world
      → (∀ y ∈ client, (world.db.pending y).isSome ∧ y.owner = t)
      → run world.db = some (.error error, after) → Aborted t client world.db after ∧ F error s)
    (unavailable : ∀ error, error.Unavailable → F error s)
    : Ends t s (Service.statement client run) Q F := by
  have throws : (Protocol.alone t).Spec t ((exclusiveAlone t).At s) (Service.statement client run)
      (fun _ _ => True)
      fun error world => ∃ last, (exclusiveAlone t).At last world ∧ F error last := by
    refine spec_available (transactional_alone t).reading (At.stable s)
      (fun world result db inv here opened ran _ => ?_)
      fun world db error _ here aborted lost => ⟨s, aborted_at here aborted, unavailable error lost⟩
    refine ⟨trivial, fun other => absurd rfl other, ?_⟩
    cases result with
    | ok value => trivial
    | error error =>
        obtain ⟨aborted, fails⟩ := errors world error db here opened ran
        exact ⟨s, aborted_at here aborted, fails⟩
  refine (yields.and throws).conseq (fun _ _ here => here) (fun _ _ _ ended => ended.1)
    fun _ _ _ ended => ended.2

/-- A query reads the rows that its client sees, by the same rule for yields. -/
theorem select {query : AList Row → α}
    : Ends t s (select client query) (fun value last =>
        (∃ rows, Agree (fun _ => True) (s.visible client) rows ∧ value = query rows) ∧ last = s)
        (Interrupted s) := by
  refine statement yields_select (fun world error after _ _ ran => ?_) fun _ lost => ⟨lost, rfl⟩
  simp at ran

/-- The row under a key is the one that the client sees. -/
theorem findUnique
    : Ends t s (findUnique client key) (fun row last =>
        row = (s.visible client).lookup key ∧ last = s) (Interrupted s) := by
  refine select.mono (fun row last given => ?_) fun _ _ fails => fails
  obtain ⟨⟨rows, agree, rfl⟩, rfl⟩ := given
  exact ⟨agree key trivial, rfl⟩

/-- A row that is there is returned, unless the read is interrupted. -/
theorem findUniqueOrThrow {row : Row key} (found : (s.visible client).lookup key = some row)
    : Ends t s (findUniqueOrThrow client key) (fun value last => value = row ∧ last = s)
        (Interrupted s) := by
  refine bind findUnique fun value next given => ?_
  obtain ⟨rfl, rfl⟩ := given
  rw [found]
  exact pure ⟨rfl, rfl⟩

/-- A row lock shows in no snapshot. -/
theorem selectForUpdate
    : Ends t s (selectForUpdate x key) (fun _ last => last = s) (Interrupted s) := by
  refine statement yields_selectForUpdate (fun world error after _ _ ran => ?_)
    fun _ lost => ⟨lost, rfl⟩
  split at ran
  · simp at ran
  · simp at ran

/-- An UPDATE in a transaction writes the row that is there, or is interrupted. -/
theorem update {data : Row key → Row key} {row : Row key}
    (found : (s.visible (some x)).lookup key = some row)
    : Ends t s (update (some x) key data) (fun value last =>
        value = data row ∧ last = s.save (some x) [⟨key, data row⟩]) (Interrupted s) := by
  refine (statement (yields_update trivial) (fun world error after here opened ran => ?_)
    fun _ lost => ⟨lost, rfl⟩).mono (fun value last given => ?_) fun _ _ fails => fails
  · have there : (world.db.visible (some x)).lookup key = some row :=
      (here.visible opened key trivial).trans found
    rw [there] at ran
    simp at ran
  · obtain ⟨row', found', value, last⟩ := given
    obtain rfl := Option.some.inj (found.symm.trans found')
    exact ⟨value, last⟩

/-- An UPDATE with a condition writes its row or finds it not as required, by cases on the count. -/
theorem updateMany {condition : Row key → Bool} {data : Row key → Row key}
    : Ends t s (updateMany (some x) key condition data) (fun count last =>
        (∃ row, (s.visible (some x)).lookup key = some row ∧ condition row ∧ count = 1
          ∧ last = s.save (some x) [⟨key, data row⟩])
        ∨ ((∀ row, (s.visible (some x)).lookup key = some row → condition row = false)
          ∧ count = 0 ∧ last = s)) (Interrupted s) := by
  refine statement (yields_updateMany trivial) (fun world error after _ _ ran => ?_)
    fun _ lost => ⟨lost, rfl⟩
  split at ran
  · simp at ran
  · split at ran
    · simp at ran
    · simp at ran

/-- An UPDATE outside any transaction commits the row at once. -/
theorem updateNow {data : Row key → Row key} {row : Row key}
    (found : s.committed.lookup key = some row)
    : Ends t s (Service.update none key data) (fun value last =>
        value = data row ∧ last = s.save none [⟨key, data row⟩]) (Interrupted s) := by
  refine (statement (yields_updateNow trivial fun _ _ => trivial)
    (fun world error after here _ ran => ?_) fun _ lost => ⟨lost, rfl⟩).mono
    (fun value last given => ?_) fun _ _ fails => fails
  · have there : (world.db.visible none).lookup key = some row :=
      (here.committed key trivial).trans found
    rw [there] at ran
    simp at ran
  · obtain ⟨row', found', value, last⟩ := given
    obtain rfl := Option.some.inj (found.symm.trans found')
    exact ⟨value, last⟩

/-- An observed UPDATE outside any transaction finds the row as it is required, or does nothing. -/
theorem claim {condition : Row key → Bool} {data : Row key → Row key} {event : Tid → Event}
    : Ends t s (claim key condition data event) (fun count last =>
        (∃ row, s.committed.lookup key = some row ∧ condition row ∧ count = 1
          ∧ last = s.save none [⟨key, data row⟩])
        ∨ count = 0 ∧ last = s) (Interrupted s) := by
  refine Protocol.Spec.action (At.stable s) fun world input result after _ here acted _ => ?_
  refine ⟨trivial, fun other => absurd rfl other, ?_⟩
  split at acted
  · obtain ⟨rfl, rfl⟩ := Prod.mk.inj (Option.some.inj acted)
    exact ⟨s, here, Or.inl rfl, rfl⟩
  · split at acted
    · obtain ⟨rfl, rfl⟩ := Prod.mk.inj (Option.some.inj acted)
      exact ⟨s, here, Or.inr ⟨rfl, rfl⟩⟩
    · rename_i row found
      split at acted
      · rename_i satisfied
        obtain ⟨db, granted, same⟩ := Option.map_eq_some_iff.mp acted
        obtain ⟨rfl, rfl⟩ := Prod.mk.inj same
        obtain ⟨_, committed, pending, _⟩ := Server.save_none_eq_some granted
        refine ⟨_, ⟨trivial, fun _ _ _ _ _ _ => trivial, fun y writes own opened => ?_,
          fun y opened => ?_, fun other covered => ?_, nofun⟩, Or.inl ⟨row, ?_, satisfied, rfl, rfl⟩⟩
        · exact here.pending y writes own (pending ▸ opened)
        · exact (Server.save_serial granted).symm ▸ here.old y opened
        · simp only [committed, Snapshot.save, lookup_overlay, here.committed other covered]
        · exact (here.committed key trivial).symm.trans found
      · obtain ⟨rfl, rfl⟩ := Prod.mk.inj (Option.some.inj acted)
        exact ⟨s, here, Or.inr ⟨rfl, rfl⟩⟩

/-- An INSERT writes rows whose keys were free, or throws that one was taken. -/
theorem create {row : Row key} {index : List (Sigma Row)}
    : Ends t s (create (some x) key row index) (fun value last =>
        value = row ∧ last = s.save (some x) (⟨key, row⟩ :: index)
          ∧ ∀ entry ∈ (⟨key, row⟩ :: index : List (Sigma Row)),
            (s.visible (some x)).lookup entry.1 = none)
        fun error last => (error.Unavailable ∨ error = .uniqueConstraint) ∧ last = s := by
  refine statement (yields_create fun _ _ => trivial) (fun world error after here opened ran => ?_)
    fun _ lost => ⟨Or.inl lost, rfl⟩
  split at ran
  · obtain ⟨same, rfl⟩ := Prod.mk.inj (Option.some.inj ran)
    exact ⟨Or.inr ⟨x, rfl, (opened x rfl).2, rfl⟩, Or.inr (Except.error.inj same).symm, rfl⟩
  · simp at ran

/-- A check passes, or throws what its condition allows. -/
theorem throwIf {bad : Prop} [Decidable bad] {error : AppError} (fails : bad → F error s)
    : Ends t s (throwIf bad error) (fun _ last => ¬bad ∧ last = s) F := by
  unfold Service.throwIf
  split
  · exact throw (fails ‹_›)
  · exact pure ⟨‹_›, rfl⟩

/-- What follows a check. -/
theorem guard {bad : Prop} [Decidable bad] {error : AppError} {rest : Unit → Service α}
    (fails : bad → F error s) (later : ¬bad → Ends t s (rest ()) Q F)
    : Ends t s (Service.throwIf bad error >>= rest) Q F := by
  refine bind (throwIf fails) fun _ next given => ?_
  obtain ⟨good, rfl⟩ := given
  exact later good

/-- A read of the clock never throws. -/
theorem now : Ends t s now (fun _ last => last = s) F :=
  spec_now (transactional_alone t).reading (At.stable s) fun _ _ here => ⟨s, here, rfl⟩

/-- A random text never throws. -/
theorem randomText : Ends t s randomText (fun _ last => last = s) F :=
  spec_randomText (transactional_alone t).reading (At.stable s) fun _ _ _ here => ⟨s, here, rfl⟩

-----------------------------------------------------------------------------------------
-- Transactions
-----------------------------------------------------------------------------------------

/-- BEGIN opens a transaction of the call's own whose name is new, or is interrupted. -/
theorem begin
    : Ends t s Service.begin (fun x next =>
        x.owner = t ∧ s.pending x = none ∧ next = s.begin x) (Interrupted s) := by
  have throws : (Protocol.alone t).Spec t ((exclusiveAlone t).At s) Service.begin
      (fun _ _ => True)
      fun error world => ∃ last, (exclusiveAlone t).At last world ∧ Interrupted s error last :=
    spec_begin (transactional_alone t).reading (At.stable s) (fun _ _ _ _ => trivial)
      fun world error _ here lost => ⟨s, here, lost, rfl⟩
  refine (yields_begin.and throws).conseq (fun _ _ here => here) (fun x world _ ended => ?_)
    fun _ _ _ ended => ended.2
  obtain ⟨last, there, own, new, _, begun⟩ := ended.1
  exact ⟨last, there, own, new, begun⟩

/-- A transaction that has ended without being committed. -/
theorem closed_at (here : (exclusiveAlone t).At s world) (unseen : Unseen t world.db db)
    (serial : world.db.serial ≤ db.serial) (closed : db.pending x = none)
    (kept : ∀ y writes, y.owner = t → db.pending y = some writes
      → world.db.pending y = some writes)
    : (exclusiveAlone t).At (s.rollback x) { world with db := db } := by
  have there := stays_at here unseen serial kept
  have still (y : TxId) (other : y ≠ x) : (s.rollback x).pending y = s.pending y := by
    simp [Snapshot.rollback, other]
  refine ⟨trivial, fun _ _ _ _ _ _ => trivial, fun y writes own opened => ?_, fun y opened => ?_,
    there.committed, nofun⟩
  · have other : y ≠ x := by
      intro same
      simp [same, closed] at opened
    exact (still y other).trans (there.pending y writes own opened)
  · have other : y ≠ x := by
      intro same
      simp [same, Snapshot.rollback] at opened
    exact there.old y (still y other ▸ opened)

/-- ROLLBACK leaves the committed rows and closes the transaction, by the general rule for a
transaction that is closed.
-/
theorem rolled_back_at (here : (exclusiveAlone t).At s world) (own : x.owner = t)
    : (exclusiveAlone t).At (s.rollback x) { world with db := world.db.rollback x } := by
  refine closed_at here (Unseen.rollback _ own) le_rfl (by simp) fun y writes _ opened => ?_
  by_cases same : y = x
  · simp [same] at opened
  · simpa [same] using opened

/-- COMMIT commits the transaction, or it is rolled back. -/
theorem commit (own : x.owner = t)
    : Ends t s (Service.commit x) (fun _ last => last = s.commit x)
        (Interrupted (s.rollback x)) := by
  have throws : (Protocol.alone t).Spec t ((exclusiveAlone t).At s) (Service.commit x)
      (fun _ _ => True)
      fun error world => ∃ last, (exclusiveAlone t).At last world
        ∧ Interrupted (s.rollback x) error last := by
    refine Protocol.Spec.action (At.stable s) fun world input result after _ here acted _ => ?_
    refine ⟨trivial, fun other => absurd rfl other, ?_⟩
    split at acted
    · rename_i unopened
      obtain ⟨rfl, rfl⟩ := Prod.mk.inj (Option.some.inj acted)
      have closed : world.db.pending x = none := by simpa [own] using unopened
      exact ⟨_, closed_at here (Unseen.refl t _) le_rfl closed (fun _ _ _ opened => opened),
        Or.inr rfl, rfl⟩
    · split at acted
      · obtain ⟨rfl, rfl⟩ := Prod.mk.inj (Option.some.inj acted)
        exact ⟨_, rolled_back_at here own, Or.inl rfl, rfl⟩
      · obtain ⟨rfl, rfl⟩ := Prod.mk.inj (Option.some.inj acted)
        trivial
  have yields : (exclusiveAlone t).Yields s (Service.commit x) fun _ last => last = s.commit x :=
    yields_commit own (Option.not_mem_none x) trivial
  exact (yields.and throws).conseq (fun _ _ here => here) (fun _ _ _ ended => ended.1)
    fun _ _ _ ended => ended.2

/-- ROLLBACK never throws. -/
theorem rollback (own : x.owner = t)
    : Ends t s (Service.rollback x) (fun _ last => last = s.rollback x) F :=
  spec_rollback (transactional_alone t).reading own (At.stable s) fun _ _ here =>
    ⟨_, rolled_back_at here own, rfl⟩

/-- A transaction commits what its body has written, or it is rolled back. -/
theorem transaction {body : TxId → Service α} {R : TxId → α → Snapshot → Prop}
    {G : TxId → AppError → Snapshot → Prop}
    (runs : ∀ x, x.owner = t → s.pending x = none → Ends t (s.begin x) (body x) (R x) (G x))
    (commits : ∀ x value last, s.pending x = none → R x value last → Q value (last.commit x))
    (fails : ∀ x error last, s.pending x = none → G x error last → F error (last.rollback x))
    (unopened : ∀ error, error.Unavailable → F error s)
    (uncommitted : ∀ x value error last, s.pending x = none → R x value last → error.Unavailable
      → F error (last.rollback x))
    : Ends t s (Service.transaction body) Q F := by
  have begun : Ends t s Service.begin _ F := begin.mono (fun _ _ given => given)
    fun error last interrupted => interrupted.2 ▸ unopened error interrupted.1
  refine bind begun fun x next given => ?_
  obtain ⟨own, new, rfl⟩ := given
  refine bind (R := R x) (tryCatch (runs x own new) fun error last failed => ?_)
    fun value last held => ?_
  · refine bind (R := fun _ next => next = last.rollback x) (rollback own) fun _ next same => ?_
    subst same
    exact throw (fails x error _ new failed)
  · have committed : Ends t last (Service.commit x) _ F := (commit own).mono
      (fun _ _ given => given) fun error ended interrupted =>
        interrupted.2 ▸ uncommitted x value error last new held interrupted.1
    refine bind committed fun _ ended same => ?_
    subst same
    exact pure (commits x value last new held)

end Ends

-----------------------------------------------------------------------------------------
-- What a transaction drafts
-----------------------------------------------------------------------------------------

/-- Since the snapshot, only the transaction has written, and it sees these rows. -/
structure Drafts (s : Snapshot) (x : TxId) (rows : AList Row) (last : Snapshot) : Prop where
  opened : (last.pending x).isSome
  others : ∀ y, y ≠ x → last.pending y = s.pending y
  committed : last.committed = s.committed
  visible : last.visible (some x) = rows

namespace Drafts

variable {t : Tid} {s last : Snapshot} {x : TxId} {rows : AList Row} {key : Key}

/-- A transaction that has just begun sees the committed rows. -/
theorem begin (s : Snapshot) (x : TxId) : Drafts s x s.committed (s.begin x) where
  opened := by simp
  others _ other := Snapshot.begin_pending_other other
  committed := rfl
  visible := Snapshot.visible_of_pending Snapshot.begin_pending

/-- A write changes the rows that the transaction sees and nothing else. -/
theorem save (drafts : Drafts s x rows last) (written : List (Sigma Row))
    : Drafts s x (overlay written.reverse rows) (last.save (some x) written) := by
  obtain ⟨writes, opened⟩ := Option.isSome_iff_exists.mp drafts.opened
  refine ⟨by simp [Snapshot.save_pending opened], fun y other => ?_, drafts.committed, ?_⟩
  · rw [Snapshot.save_pending_other other, drafts.others y other]
  · rw [Snapshot.visible_save_all opened, drafts.visible]

/-- The commit of a draft. -/
theorem commit (drafts : Drafts s x rows last) (new : s.pending x = none)
    : (last.commit x).pending = s.pending ∧ (last.commit x).committed = rows := by
  refine ⟨funext fun y => ?_, drafts.visible⟩
  by_cases same : y = x
  · subst same
    simp [Snapshot.commit, new]
  · rw [Snapshot.commit_pending_other same, drafts.others y same]

/-- The rollback of a draft. -/
theorem rollback (drafts : Drafts s x rows last) (new : s.pending x = none)
    : last.rollback x = s := by
  have pending : Function.update last.pending x none = s.pending := by
    funext y
    by_cases same : y = x
    · subst same
      simp [new]
    · rw [Function.update_of_ne same, drafts.others y same]
  rw [Snapshot.rollback, pending, drafts.committed]

/-- A query in a draft reads its rows. -/
theorem select {α : Type} (drafts : Drafts s x rows last) {query : AList Row → α}
    : Ends t last (select (some x) query) (fun value next =>
        (∃ rows', Agree (fun _ => True) rows rows' ∧ value = query rows') ∧ next = last)
        (Interrupted last) :=
  drafts.visible ▸ Ends.select

/-- The row under a key is the one of the draft. -/
theorem findUnique (drafts : Drafts s x rows last)
    : Ends t last (findUnique (some x) key) (fun found next =>
        found = rows.lookup key ∧ next = last) (Interrupted last) :=
  drafts.visible ▸ Ends.findUnique

/-- An UPDATE writes the row into the draft. -/
theorem update (drafts : Drafts s x rows last) {row : Row key} {data : Row key → Row key}
    (found : rows.lookup key = some row)
    : Ends t last (update (some x) key data) (fun value next =>
        value = data row ∧ Drafts s x (rows.insert key (data row)) next) (Interrupted last) := by
  refine (Ends.update (drafts.visible ▸ found)).mono (fun value next given => ?_)
    fun _ _ fails => fails
  obtain ⟨rfl, rfl⟩ := given
  exact ⟨rfl, drafts.save [⟨key, data row⟩]⟩

/-- An INSERT writes new rows into the draft, or finds one of their keys taken. -/
theorem create (drafts : Drafts s x rows last) {row : Row key} {index : List (Sigma Row)}
    : Ends t last (create (some x) key row index) (fun value next =>
        value = row ∧ Drafts s x (overlay (⟨key, row⟩ :: index : List (Sigma Row)).reverse rows) next
          ∧ ∀ entry ∈ (⟨key, row⟩ :: index : List (Sigma Row)), rows.lookup entry.1 = none)
        fun error next => (error.Unavailable ∨ error = .uniqueConstraint) ∧ next = last := by
  refine Ends.create.mono (fun value next given => ?_) fun _ _ fails => fails
  obtain ⟨rfl, rfl, new⟩ := given
  exact ⟨rfl, drafts.save _, drafts.visible ▸ new⟩

end Drafts

/-- The transaction has only written drafts. -/
def Drafting (s : Snapshot) (x : TxId) (last : Snapshot) : Prop := ∃ rows, Drafts s x rows last

/-- An UPDATE with a condition leaves a draft, whether it finds its row or not. -/
theorem Drafts.updateMany {t : Tid} {s last : Snapshot} {x : TxId} {rows : AList Row} {key : Key}
    (drafts : Drafts s x rows last) {condition : Row key → Bool} {data : Row key → Row key}
    : Ends t last (updateMany (some x) key condition data) (fun _ next => Drafting s x next)
        (Interrupted last) := by
  refine Ends.updateMany.mono (fun _ next given => ?_) fun _ _ fails => fails
  rcases given with ⟨row, _, _, _, rfl⟩ | ⟨_, _, rfl⟩
  · exact ⟨_, drafts.save [⟨key, data row⟩]⟩
  · exact ⟨rows, drafts⟩

/-- A transaction that is interrupted has only written drafts. -/
theorem Drafts.interrupted {s last next : Snapshot} {x : TxId} {rows : AList Row}
    (drafts : Drafts s x rows last) {error : AppError} (interrupted : Interrupted last error next)
    : Drafting s x next ∧ error.Unavailable :=
  ⟨⟨rows, interrupted.2 ▸ drafts⟩, interrupted.1⟩

/-- A transaction that only writes drafts is atomic: it commits the last of them, or nothing. -/
theorem Ends.drafted {α : Type} {t : Tid} {s : Snapshot} {body : TxId → Service α}
    {W : α → AList Row → Prop} {E : AppError → Prop}
    (runs : ∀ x, x.owner = t → Ends t (s.begin x) (body x)
      (fun value last => ∃ rows, Drafts s x rows last ∧ W value rows)
      fun error last => Drafting s x last ∧ E error)
    (lost : ∀ error, error.Unavailable → E error)
    : Ends t s (Service.transaction body)
        (fun value last => last.pending = s.pending ∧ W value last.committed)
        fun error last => last = s ∧ E error := by
  refine Ends.transaction (fun x own _ => runs x own) (fun x value last new drafted => ?_)
    (fun x error last new failed => ?_) (fun error given => ⟨rfl, lost error given⟩)
    fun x value error last new drafted given => ?_
  · obtain ⟨rows, drafts, holds⟩ := drafted
    obtain ⟨pending, committed⟩ := drafts.commit new
    exact ⟨pending, committed ▸ holds⟩
  · obtain ⟨⟨rows, drafts⟩, fails⟩ := failed
    exact ⟨drafts.rollback new, fails⟩
  · obtain ⟨rows, drafts, _⟩ := drafted
    exact ⟨drafts.rollback new, lost error given⟩

end LuminaRail
