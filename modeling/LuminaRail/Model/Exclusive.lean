import LuminaRail.Model.Queries
import LuminaRail.Model.Rules

/-! What a service does while nobody else changes the rows that it works on: it leads from one
snapshot of them to another. What makes the others stay away is left open: that there are none,
that the service has claimed a piece of work, or that it holds a lock.
-/

namespace LuminaRail

open Concurrency Database Service

/-- The writes of the open transactions and the committed rows. -/
structure Snapshot where
  pending : TxId → Option (List (Sigma Row))
  committed : AList Row

namespace Snapshot

def visible (snapshot : Snapshot) : Option TxId → AList Row
  | none => snapshot.committed
  | some x => overlay ((snapshot.pending x).getD []) snapshot.committed

def begin (snapshot : Snapshot) (x : TxId) : Snapshot :=
  { snapshot with pending := Function.update snapshot.pending x (some []) }

def save (snapshot : Snapshot) : Option TxId → List (Sigma Row) → Snapshot
  | none, rows => { snapshot with committed := overlay rows.reverse snapshot.committed }
  | some x, rows =>
      { snapshot with
        pending := Function.update snapshot.pending x
          ((snapshot.pending x).map (rows.reverse ++ ·)) }

def commit (snapshot : Snapshot) (x : TxId) : Snapshot :=
  ⟨Function.update snapshot.pending x none, snapshot.visible (some x)⟩

variable {s : Snapshot} {x y : TxId} {key : Key} {writes : List (Sigma Row)}

/-- An open transaction sees the committed rows under its own writes. -/
theorem visible_of_pending (opened : s.pending x = some writes)
    : s.visible (some x) = overlay writes s.committed := by
  simp [visible, opened]

/-- A new transaction has written nothing. -/
@[simp]
theorem begin_pending : (s.begin x).pending x = some [] := by simp [begin]

/-- BEGIN leaves the other transactions. -/
theorem begin_pending_other (other : y ≠ x) : (s.begin x).pending y = s.pending y := by
  simp [begin, other]

/-- COMMIT leaves the other transactions. -/
theorem commit_pending_other (other : y ≠ x) : (s.commit x).pending y = s.pending y := by
  simp [commit, other]

/-- The rows of a write come before the earlier writes of the transaction. -/
theorem save_pending (opened : s.pending x = some writes) (rows : List (Sigma Row))
    : (s.save (some x) rows).pending x = some (rows.reverse ++ writes) := by
  simp [save, opened]

/-- A write leaves the other transactions. -/
theorem save_pending_other (other : y ≠ x) (rows : List (Sigma Row))
    : (s.save (some x) rows).pending y = s.pending y := by
  simp [save, other]

/-- A write in a transaction leaves the committed rows. -/
@[simp]
theorem save_committed (rows : List (Sigma Row)) : (s.save (some x) rows).committed = s.committed :=
  rfl

/-- A transaction sees its last writes. -/
theorem visible_save_all (opened : s.pending x = some writes) (rows : List (Sigma Row))
    : (s.save (some x) rows).visible (some x) = overlay rows.reverse (s.visible (some x)) := by
  rw [visible_of_pending (save_pending opened _), visible_of_pending opened]
  simp [overlay]

/-- The transaction sees the row that it has just written. -/
theorem visible_save {key : Key} (opened : s.pending x = some writes) (row : Row key)
    : (s.save (some x) [⟨key, row⟩]).visible (some x) = (s.visible (some x)).insert key row :=
  visible_save_all opened [⟨key, row⟩]

end Snapshot

/-- The transactions of a program and the committed rows. -/
def Snapshot.of (t : Tid) (world : World) : Snapshot :=
  ⟨fun x => if x.owner = t then world.db.pending x else none, world.db.committed⟩

/-- The same rows under the keys of a kind. -/
def Agree (covers : Key → Prop) (rows rows' : AList Row) : Prop :=
  ∀ key, covers key → rows'.lookup key = rows.lookup key

/-- The rows that only the program `t` changes as long as they are its own: what others do leaves
them to it and the rows in place, and so do its own steps, apart from the commit of the
transaction by which it has them. It may only commit what is acceptable after the committed rows.
-/
structure Exclusive (Γ : Protocol World) (t : Tid) where
  mine : World → Prop
  covers : Key → Prop
  accepts : AList Row → AList Row → Prop
  keeper : Option TxId := none
  transactional : Transactional Γ t
  extensional : ∀ {before before' after after'}, Agree covers before before'
    → Agree covers after after' → accepts before after → accepts before' after'
  stable : ∀ {world after : World}, Γ.inv world → Γ.inv after → Γ.rely t world after → mine world
    → mine after ∧ Agree covers world.db.committed after.db.committed
  unseen : ∀ {world : World} {db}, mine world → db.committed = world.db.committed
    → (∀ key x, world.db.holder key = some x → db.holder key = some x)
    → mine { world with db := db }
  observes : ∀ {world : World} (orderId : Id) (status next : OrderStatus), Γ.inv world → mine world
    → Γ.inv { world with trace := .orderChecked t orderId status next :: world.trace }
      ∧ Γ.guar t world { world with trace := .orderChecked t orderId status next :: world.trace }
      ∧ mine { world with trace := .orderChecked t orderId status next :: world.trace }
  commits : ∀ {world : World} {db}, Γ.inv world → mine world
    → accepts world.db.committed db.committed
    → Apart t world.db db
    → (∀ key, ¬covers key → db.committed.lookup key = world.db.committed.lookup key)
    → (∀ x ∈ keeper, ∀ key, world.db.holder key = some x → db.holder key = some x)
    → Γ.inv { world with db := db } ∧ Γ.guar t world { world with db := db }
      ∧ mine { world with db := db }

namespace Exclusive

variable {Γ : Protocol World} {t : Tid} (e : Exclusive Γ t)

/-- The program has written covered rows only, if any. -/
def Covered (covers : Key → Prop) (t : Tid) (db : Server Row) : Prop :=
  ∀ x writes, x.owner = t → db.pending x = some writes → ∀ write ∈ writes, covers write.1

/-- The world is at the snapshot, apart from what is not covered and from transactions that have
been rolled back.
-/
structure At (s : Snapshot) (world : World) : Prop where
  mine : e.mine world
  covered : Covered e.covers t world.db
  pending : ∀ x writes, x.owner = t → world.db.pending x = some writes → s.pending x = some writes
  old : ∀ x, (s.pending x).isSome → x.serial < world.db.serial
  committed : Agree e.covers s.committed world.db.committed
  kept : ∀ x ∈ e.keeper, (s.pending x).isSome

/-- If the service returns from the snapshot, then as described. -/
def Yields {α : Type} (s : Snapshot) (service : Service α) (Q : α → Snapshot → Prop) : Prop :=
  Γ.Spec t (e.At s) service (fun value world => ∃ last, e.At last world ∧ Q value last)
    fun _ _ => True

variable {e} {α β : Type} {s : Snapshot} {world : World} {client : Option TxId} {x : TxId}
  {key : Key} {Q Q' : α → Snapshot → Prop} {R : β → Snapshot → Prop} {db : Server Row}

/-- The others write nothing for the program. -/
theorem Covered.stable {covers : Key → Prop} {before after : Server Row}
    (covered : Covered covers t before) (isolated : Server.Isolated t before after)
    : Covered covers t after :=
  fun x writes own opened => covered x writes own (isolated.writes own opened)

/-- A new transaction has written nothing, so all its writes are covered. -/
theorem Covered.begin {covers : Key → Prop} {before : Server Row}
    (covered : Covered covers t before)
    : Covered covers t (before.begin t).2 := by
  intro x writes own opened
  by_cases new : x = ⟨t, before.serial⟩
  · obtain rfl : [] = writes := by simpa [new] using opened
    simp
  · exact covered x writes own (by simpa [new] using opened)

/-- Writes of covered rows keep the writes of the transaction covered, by cases on the client. -/
theorem Covered.save {covers : Key → Prop} {before after : Server Row} {rows writes : List (Sigma Row)}
    (covered : Covered covers t before) (new : ∀ row ∈ rows, covers row.1) (own : x.owner = t)
    (opened : before.pending x = some writes) (granted : before.save (some x) rows = some after)
    : Covered covers t after := by
  obtain ⟨_, pending, _⟩ := Server.save_eq_some opened granted
  intro y written owner opened'
  by_cases same : y = x
  · subst same
    obtain rfl : rows.reverse ++ writes = written := by simpa [pending] using opened'
    intro write member
    rcases List.mem_append.mp member with recent | old
    · exact new write (List.mem_reverse.mp recent)
    · exact covered y writes owner opened write old
  · exact covered y written owner (by simpa [pending, same] using opened')

/-- A commit leaves the rows that are not covered alone. -/
theorem Covered.commit {covers : Key → Prop} {before : Server Row} {writes : List (Sigma Row)}
    (covered : Covered covers t before) (own : x.owner = t)
    (opened : before.pending x = some writes) (uncovered : ¬covers key)
    : (before.commit x).committed.lookup key = before.committed.lookup key := by
  have unwritten : writes.dlookup key = none := by
    rw [List.dlookup_eq_none]
    intro written
    obtain ⟨row, member⟩ := List.exists_of_mem_keys written
    exact uncovered (covered x writes own opened _ member)
  simp [lookup_overlay, opened, unwritten]

/-- The snapshot of a world in which the program has its turn. -/
theorem At.of {rows : AList Row} (mine : e.mine world)
    (agree : Agree e.covers rows world.db.committed) (covered : Covered e.covers t world.db)
    (kept : ∀ x ∈ e.keeper, x.owner = t ∧ (world.db.pending x).isSome)
    : e.At { Snapshot.of t world with committed := rows } world where
  mine := mine
  covered := covered
  pending x writes own opened := by simpa [Snapshot.of, own] using opened
  old x opened := by
    refine world.db.serial_new ?_
    simp only [Snapshot.of] at opened
    split at opened
    · exact opened
    · simp at opened
  committed := agree
  kept x keeps := by
    obtain ⟨own, opened⟩ := kept x keeps
    simpa [Snapshot.of, own] using opened

/-- What a client sees in the world agrees with the snapshot on the covered rows. -/
theorem At.visible (here : e.At s world)
    (opened : ∀ x ∈ client, (world.db.pending x).isSome ∧ x.owner = t)
    : Agree e.covers (s.visible client) (world.db.visible client) := by
  intro key covered
  cases client with
  | none => exact here.committed key covered
  | some x =>
      obtain ⟨opened, own⟩ := opened x rfl
      obtain ⟨writes, opened⟩ := Option.isSome_iff_exists.mp opened
      have same := here.pending x writes own opened
      simp only [Server.visible, Snapshot.visible, opened, same, Option.getD_some, lookup_overlay,
        here.committed key covered]

/-- What others do leaves a snapshot, because they write no covered row and no transaction of
the call.
-/
theorem At.stable (s : Snapshot) : Γ.Stable t (e.At s) := by
  intro world after inv inv' relied here
  obtain ⟨mine, kept⟩ := e.stable inv inv' relied here.mine
  have isolated := e.transactional.isolated relied
  refine ⟨mine, here.covered.stable isolated, fun x writes own opened => ?_, fun x opened => ?_,
    fun key covered => ?_, here.kept⟩
  · exact here.pending x writes own (isolated.writes own opened)
  · exact (here.old x opened).trans_le isolated.serial
  · exact (kept key covered).trans (here.committed key covered)

/-- A transaction has written rows. -/
theorem At.save {rows : List (Sigma Row)} (here : e.At s world)
    (covered : ∀ row ∈ rows, e.covers row.1) (opened : (world.db.pending x).isSome ∧ x.owner = t)
    (granted : world.db.save (some x) rows = some db)
    : e.At (s.save (some x) rows) { world with db := db } := by
  obtain ⟨opened, own⟩ := opened
  obtain ⟨writes, opened⟩ := Option.isSome_iff_exists.mp opened
  obtain ⟨committed, pending, locks⟩ := Server.save_eq_some opened granted
  have same := here.pending x writes own opened
  refine ⟨e.unseen here.mine committed locks, here.covered.save covered own opened granted,
    fun y written owner opened' => ?_, fun y opened' => ?_, fun key covered => ?_, fun y keeps => ?_⟩
  · by_cases equal : y = x
    · subst equal
      rw [Snapshot.save_pending same]
      simpa [pending] using opened'
    · rw [Snapshot.save_pending_other equal]
      refine here.pending y written owner ?_
      simpa [pending, equal] using opened'
  · rw [Server.save_serial granted]
    by_cases equal : y = x
    · exact equal ▸ here.old x (by simp [same])
    · exact here.old y (by rwa [Snapshot.save_pending_other equal] at opened')
  · exact committed ▸ here.committed key covered
  · by_cases equal : y = x
    · simp [equal, Snapshot.save_pending same]
    · rw [Snapshot.save_pending_other equal]
      exact here.kept y keeps

namespace Yields

/-- The postcondition of a service can be weakened. -/
theorem mono {service : Service α} (yields : e.Yields s service Q)
    (weaker : ∀ value last, Q value last → Q' value last)
    : e.Yields s service Q' := by
  refine Protocol.Spec.conseq yields (fun _ _ here => here) (fun value world _ ended => ?_)
    fun _ _ _ _ => trivial
  obtain ⟨last, there, holds⟩ := ended
  exact ⟨last, there, weaker value last holds⟩

/-- A service that only returns yields the snapshot in which it starts. -/
theorem pure {value : α} (holds : Q value s) : e.Yields s (pure value) Q :=
  Protocol.Spec.pure value fun _ _ here => ⟨s, here, holds⟩

/-- A service that only throws yields anything. -/
theorem throw {error : AppError} : e.Yields s (throw error : Service α) Q :=
  Protocol.Spec.throw error fun _ _ _ => trivial

/-- What a service leads to is where the rest starts. -/
theorem bind {first : Service β} {rest : β → Service α} (yields : e.Yields s first R)
    (later : ∀ value next, R value next → e.Yields next (rest value) Q)
    : e.Yields s (first >>= rest) Q := by
  refine Protocol.Spec.bind yields fun value => Protocol.Spec.of_safe fun world inv given => ?_
  obtain ⟨next, there, holds⟩ := given
  exact (later value next holds).safe inv there

/-- A function of the result moves into the postcondition. -/
theorem map {service : Service β} {f : β → α}
    (yields : e.Yields s service fun value => Q (f value))
    : e.Yields s (f <$> service) Q :=
  Protocol.Spec.map yields

end Yields

-----------------------------------------------------------------------------------------
-- Statements
-----------------------------------------------------------------------------------------

/-- A query reads rows that agree with the snapshot. -/
theorem yields_select {query : AList Row → α}
    : e.Yields s (select client query) fun value last =>
        (∃ rows, Agree e.covers (s.visible client) rows ∧ value = query rows) ∧ last = s := by
  refine spec_statement e.transactional (At.stable s) (fun world result db inv here opened ran _ => ?_)
    fun _ _ _ _ _ _ => trivial
  obtain ⟨rfl, rfl⟩ := Prod.mk.inj (Option.some.inj ran)
  obtain ⟨kept, guaranteed⟩ := e.transactional.reading.refl inv
  exact ⟨kept, guaranteed, s, here, ⟨_, here.visible opened, rfl⟩, rfl⟩

/-- The covered row under a key is the one of the snapshot. -/
theorem yields_findUnique (covered : e.covers key)
    : e.Yields s (findUnique client key) fun row last =>
        row = (s.visible client).lookup key ∧ last = s := by
  refine (yields_select).mono fun row last given => ?_
  obtain ⟨⟨rows, agree, rfl⟩, rfl⟩ := given
  exact ⟨agree key covered, rfl⟩

/-- A covered row that is returned is the one of the snapshot. -/
theorem yields_findUniqueOrThrow (covered : e.covers key)
    : e.Yields s (findUniqueOrThrow client key) fun row last =>
        (s.visible client).lookup key = some row ∧ last = s := by
  refine Yields.bind (yields_findUnique covered) fun found next given => ?_
  obtain ⟨rfl, rfl⟩ := given
  split
  · rename_i row found
    exact Yields.pure ⟨found, rfl⟩
  · exact Yields.throw

/-- A row lock shows in no snapshot. -/
theorem yields_selectForUpdate : e.Yields s (selectForUpdate x key) fun _ last => last = s := by
  refine spec_statement e.transactional (At.stable s) (fun world result db inv here opened ran _ => ?_)
    fun _ _ _ _ _ _ => trivial
  split at ran
  · obtain ⟨rfl, rfl⟩ := Prod.mk.inj (Option.some.inj ran)
    obtain ⟨kept, guaranteed⟩ := e.transactional.reading.refl inv
    exact ⟨kept, guaranteed, s, here, rfl⟩
  obtain ⟨after, granted, same⟩ := Option.map_eq_some_iff.mp ran
  obtain ⟨rfl, rfl⟩ := Prod.mk.inj same
  obtain ⟨kept, guaranteed⟩ := e.transactional.reading.lock inv (opened x rfl).2 granted
  obtain ⟨_, free, committed, pending, holder, serial⟩ := Server.lock_eq_some granted
  refine ⟨kept, guaranteed, s, ⟨e.unseen here.mine committed fun other y held => ?_,
    fun y writes owner opened => ?_, fun y writes owner opened => ?_, fun y opened => ?_,
    fun other covered => ?_, here.kept⟩, rfl⟩
  · by_cases same : other = key
    · subst same
      rcases free with free | free
      · simp [free] at held
      · simpa [holder, free] using held
    · simpa [holder, same] using held
  · exact here.covered y writes owner (by simpa [pending] using opened)
  · exact here.pending y writes owner (by simpa [pending] using opened)
  · exact serial.symm ▸ here.old y opened
  · exact committed ▸ here.committed other covered

/-- An UPDATE in a transaction writes the covered row of the snapshot. -/
theorem yields_update {data : Row key → Row key} (covered : e.covers key)
    : e.Yields s (update (some x) key data) fun value last =>
        ∃ row, (s.visible (some x)).lookup key = some row ∧ value = data row
          ∧ last = s.save (some x) [⟨key, data row⟩] := by
  refine spec_statement e.transactional (At.stable s) (fun world result db inv here opened ran _ => ?_)
    fun _ _ _ _ _ _ => trivial
  split at ran
  · obtain ⟨rfl, rfl⟩ := Prod.mk.inj (Option.some.inj ran)
    obtain ⟨kept, guaranteed⟩ := e.transactional.reading.refl inv
    exact ⟨kept, guaranteed, trivial⟩
  · rename_i row found
    obtain ⟨after, granted, same⟩ := Option.map_eq_some_iff.mp ran
    obtain ⟨rfl, rfl⟩ := Prod.mk.inj same
    obtain ⟨kept, guaranteed⟩ := e.transactional.unseen inv ((opened x rfl).2 ▸ Unseen.save granted)
    refine ⟨kept, guaranteed, _, here.save (by simp [covered]) (opened x rfl) granted, row, ?_, rfl,
      rfl⟩
    rw [← here.visible opened key covered, found]

/-- An UPDATE with a condition writes the covered row, or the row is not as required. -/
theorem yields_updateMany {condition : Row key → Bool} {data : Row key → Row key}
    (covered : e.covers key)
    : e.Yields s (updateMany (some x) key condition data) fun count last =>
        (∃ row, (s.visible (some x)).lookup key = some row ∧ condition row ∧ count = 1
          ∧ last = s.save (some x) [⟨key, data row⟩])
        ∨ ((∀ row, (s.visible (some x)).lookup key = some row → condition row = false)
          ∧ count = 0 ∧ last = s) := by
  refine spec_statement e.transactional (At.stable s) (fun world result db inv here opened ran _ => ?_)
    fun _ _ _ _ _ _ => trivial
  obtain ⟨kept, guaranteed⟩ := e.transactional.reading.refl inv
  rw [here.visible opened key covered] at ran
  split at ran
  · rename_i missing
    obtain ⟨rfl, rfl⟩ := Prod.mk.inj (Option.some.inj ran)
    exact ⟨kept, guaranteed, s, here, Or.inr ⟨by simp [missing], rfl, rfl⟩⟩
  · rename_i row found
    split at ran
    · rename_i satisfied
      obtain ⟨after, granted, same⟩ := Option.map_eq_some_iff.mp ran
      obtain ⟨rfl, rfl⟩ := Prod.mk.inj same
      obtain ⟨kept, guaranteed⟩ := e.transactional.unseen inv ((opened x rfl).2 ▸ Unseen.save granted)
      exact ⟨kept, guaranteed, _, here.save (by simp [covered]) (opened x rfl) granted,
        Or.inl ⟨row, found, satisfied, rfl, rfl⟩⟩
    · rename_i unsatisfied
      obtain ⟨rfl, rfl⟩ := Prod.mk.inj (Option.some.inj ran)
      refine ⟨kept, guaranteed, s, here, Or.inr ⟨fun other same => ?_, rfl, rfl⟩⟩
      obtain rfl := Option.some.inj (found.symm.trans same)
      simpa using unsatisfied

/-- An INSERT writes covered rows whose keys the transaction sees free. -/
theorem yields_create {row : Row key} {index : List (Sigma Row)}
    (covered : ∀ entry ∈ (⟨key, row⟩ :: index : List (Sigma Row)), e.covers entry.1)
    : e.Yields s (create (some x) key row index) fun value last =>
        value = row ∧ last = s.save (some x) (⟨key, row⟩ :: index)
          ∧ ∀ entry ∈ (⟨key, row⟩ :: index : List (Sigma Row)),
            (s.visible (some x)).lookup entry.1 = none := by
  refine spec_statement e.transactional (At.stable s) (fun world result db inv here opened ran _ => ?_)
    fun _ _ _ _ _ _ => trivial
  split at ran
  · obtain ⟨rfl, rfl⟩ := Prod.mk.inj (Option.some.inj ran)
    obtain ⟨kept, guaranteed⟩ := e.transactional.reading.rollback inv (opened x rfl).2
    exact ⟨kept, guaranteed, trivial⟩
  · rename_i new
    obtain ⟨after, granted, same⟩ := Option.map_eq_some_iff.mp ran
    obtain ⟨rfl, rfl⟩ := Prod.mk.inj same
    obtain ⟨kept, guaranteed⟩ := e.transactional.unseen inv ((opened x rfl).2 ▸ Unseen.save granted)
    refine ⟨kept, guaranteed, _, here.save covered (opened x rfl) granted, rfl, rfl,
      fun entry member => ?_⟩
    rw [← here.visible opened entry.1 (covered entry member)]
    by_contra present
    exact new (List.any_eq_true.mpr ⟨entry, member, Option.isSome_iff_ne_none.mpr present⟩)

/-- An UPDATE outside any transaction, if the row may be committed. -/
theorem yields_updateNow {data : Row key → Row key} (covered : e.covers key)
    (accepted : ∀ row, s.committed.lookup key = some row
      → e.accepts s.committed (s.save none [⟨key, data row⟩]).committed)
    : e.Yields s (update none key data) fun value last =>
        ∃ row, s.committed.lookup key = some row ∧ value = data row
          ∧ last = s.save none [⟨key, data row⟩] := by
  refine spec_statement e.transactional (At.stable s) (fun world result db inv here opened ran _ => ?_)
    fun _ _ _ _ _ _ => trivial
  split at ran
  · obtain ⟨rfl, rfl⟩ := Prod.mk.inj (Option.some.inj ran)
    obtain ⟨kept, guaranteed⟩ := e.transactional.reading.refl inv
    exact ⟨kept, guaranteed, trivial⟩
  · rename_i row found
    obtain ⟨after, granted, same⟩ := Option.map_eq_some_iff.mp ran
    obtain ⟨rfl, rfl⟩ := Prod.mk.inj same
    obtain ⟨_, committed, pending, holder⟩ := Server.save_none_eq_some granted
    have stored : s.committed.lookup key = some row := (here.committed key covered).symm.trans found
    have agree : Agree e.covers (s.save none [⟨key, data row⟩]).committed after.committed := by
      intro other covered'
      simp only [committed, Snapshot.save, lookup_overlay, here.committed other covered']
    have frame : ∀ other, ¬e.covers other
        → after.committed.lookup other = world.db.committed.lookup other := by
      intro other uncovered
      have different : other ≠ key := fun same => uncovered (same ▸ covered)
      rw [committed]
      exact AList.lookup_insert_ne different
    obtain ⟨kept, guaranteed, mine⟩ := e.commits inv here.mine
      (e.extensional here.committed agree (accepted row stored))
      (Apart.save (by simp) granted) frame
      (fun _ _ _ held => holder ▸ held)
    refine ⟨kept, guaranteed, _, ⟨mine, fun y writes owner opened => ?_,
      fun y writes owner opened => ?_, fun y opened => ?_, agree, here.kept⟩, row, stored, rfl, rfl⟩
    · exact here.covered y writes owner (pending ▸ opened)
    · exact here.pending y writes owner (pending ▸ opened)
    · exact (Server.save_serial granted).symm ▸ here.old y opened

/-- A check that returns has passed. -/
theorem yields_throwIf {bad : Prop} [Decidable bad] {error : AppError}
    : e.Yields s (throwIf bad error) fun _ last => ¬bad ∧ last = s := by
  unfold throwIf
  split
  · exact Yields.throw
  · exact Yields.pure ⟨‹_›, rfl⟩

/-- A read of the clock leaves the snapshot. -/
theorem yields_now : e.Yields s now fun _ last => last = s :=
  spec_now e.transactional (At.stable s) fun _ _ here => ⟨s, here, rfl⟩

/-- A random text leaves the snapshot. -/
theorem yields_randomText : e.Yields s randomText fun _ last => last = s :=
  spec_randomText e.transactional (At.stable s) fun _ _ _ here => ⟨s, here, rfl⟩

/-- The number of attempts is read outside the database. -/
theorem yields_attempts : e.Yields s attempts fun _ last => last = s := by
  refine Protocol.Spec.action (At.stable s) fun world input result after inv here acted _ => ?_
  obtain ⟨rfl, rfl⟩ := Prod.mk.inj (Option.some.inj acted)
  obtain ⟨kept, guaranteed⟩ := e.transactional.reading.refl inv
  exact ⟨kept, guaranteed, s, here, rfl⟩

/-- That an order has been checked changes nothing. -/
theorem yields_checked {orderId : Id} {status next : OrderStatus}
    : e.Yields s (emit fun t => .orderChecked t orderId status next) fun _ last => last = s := by
  refine Protocol.Spec.action (At.stable s) fun world input result after inv here acted _ => ?_
  obtain ⟨rfl, rfl⟩ := Prod.mk.inj (Option.some.inj acted)
  obtain ⟨kept, guaranteed, mine⟩ := e.observes orderId status next inv here.mine
  exact ⟨kept, guaranteed, s,
    ⟨mine, here.covered, here.pending, here.old, here.committed, here.kept⟩, rfl⟩

/-- What is found first is one of the rows, if there are any. -/
theorem yields_findFirst {query : AList Row → List α}
    (found_in : ∀ {rows rows'}, Agree e.covers rows rows'
      → ∀ value, value ∈ query rows' ↔ value ∈ query rows)
    : e.Yields s (findFirst client query) fun found last =>
        last = s ∧ (∀ value ∈ found, value ∈ query (s.visible client))
          ∧ (found = none → query (s.visible client) = []) := by
  refine Yields.bind yields_select fun values next given => ?_
  obtain ⟨⟨rows, agree, rfl⟩, rfl⟩ := given
  refine Yields.bind yields_attempts fun choice last same => ?_
  subst same
  refine Yields.pure ⟨rfl, fun value chosen => ?_, fun missing => ?_⟩
  · exact (found_in agree value).mp (List.mem_of_getElem? chosen)
  · refine List.eq_nil_iff_forall_not_mem.mpr fun value member => ?_
    have some_row : query rows ≠ [] :=
      List.ne_nil_of_mem ((found_in agree value).mpr member)
    have bound : choice % (query rows).length < (query rows).length :=
      Nat.mod_lt _ (List.length_pos_iff.mpr some_row)
    exact absurd (List.getElem?_eq_none_iff.mp missing) (Nat.not_le.mpr bound)

-----------------------------------------------------------------------------------------
-- Transactions
-----------------------------------------------------------------------------------------

/-- BEGIN opens a transaction of which the snapshot knows nothing. -/
theorem yields_begin
    : e.Yields s Service.begin fun x next =>
        x.owner = t ∧ s.pending x = none ∧ x ∉ e.keeper ∧ next = s.begin x := by
  refine spec_begin e.transactional (At.stable s) (fun world _ here _ => ?_)
    fun _ _ _ _ _ => trivial
  have new : s.pending ⟨t, world.db.serial⟩ = none := by
    by_contra opened
    exact absurd (here.old _ (Option.isSome_iff_ne_none.mpr opened)) (lt_irrefl _)
  refine ⟨s.begin ⟨t, world.db.serial⟩, ⟨?_, here.covered.begin, fun y writes owner opened => ?_,
    fun y opened => ?_, here.committed, fun y keeps => ?_⟩, rfl, new, fun keeps => ?_, rfl⟩
  · exact e.unseen here.mine rfl fun _ _ held => held
  · by_cases same : y = ⟨t, world.db.serial⟩
    · subst same
      simpa [Snapshot.begin] using opened
    · rw [Snapshot.begin_pending_other same]
      exact here.pending y writes owner (by simpa [same] using opened)
  · by_cases same : y = ⟨t, world.db.serial⟩
    · simp [same]
    · rw [Snapshot.begin_pending_other same] at opened
      exact (here.old y opened).trans (by simp)
  · by_cases same : y = ⟨t, world.db.serial⟩
    · simp [Snapshot.begin, same]
    · rw [Snapshot.begin_pending_other same]
      exact here.kept y keeps
  · simpa [new] using here.kept _ keeps

/-- COMMIT of a transaction by which nothing is kept. -/
theorem yields_commit (own : x.owner = t) (free : x ∉ e.keeper)
    (accepted : e.accepts s.committed (s.commit x).committed)
    : e.Yields s (Service.commit x) fun _ last => last = s.commit x := by
  refine spec_commit e.transactional (At.stable s) (fun world writes inv here opened _ => ?_)
    fun _ _ _ _ _ _ _ => trivial
  have agree : Agree e.covers (s.commit x).committed (world.db.commit x).committed := by
    refine here.visible fun y member => ?_
    obtain rfl := Option.some.inj member
    simp [opened, own]
  have frame : ∀ key, ¬e.covers key
      → (world.db.commit x).committed.lookup key = world.db.committed.lookup key :=
    fun key uncovered => here.covered.commit own opened uncovered
  have other : ∀ y ∈ e.keeper, y ≠ x := fun y keeps same => free (same ▸ keeps)
  obtain ⟨kept, guaranteed, mine⟩ := e.commits inv here.mine
    (e.extensional here.committed agree accepted) (Apart.commit world.db own) frame
    (fun y keeps key held => by simp [held, other y keeps])
  refine ⟨kept, guaranteed, _, ⟨mine, fun y written owner opened' => ?_,
    fun y written owner opened' => ?_, fun y opened' => ?_, agree, fun y keeps => ?_⟩, rfl⟩
  · by_cases same : y = x
    · simp [same] at opened'
    · exact here.covered y written owner (by simpa [same] using opened')
  · by_cases same : y = x
    · simp [same] at opened'
    · rw [Snapshot.commit_pending_other same]
      exact here.pending y written owner (by simpa [same] using opened')
  · by_cases same : y = x
    · simp [Snapshot.commit, same] at opened'
    · rw [Snapshot.commit_pending_other same] at opened'
      exact here.old y opened'
  · rw [Snapshot.commit_pending_other (other y keeps)]
    exact here.kept y keeps

/-- A transaction that returns has committed what its body has written. -/
theorem yields_transaction {body : TxId → Service α} {R : TxId → α → Snapshot → Prop}
    (runs : ∀ x, x.owner = t → s.pending x = none → e.Yields (s.begin x) (body x) (R x))
    (accepted : ∀ x value last, s.pending x = none → R x value last
      → e.accepts last.committed (last.commit x).committed)
    (commits : ∀ x value last, s.pending x = none → R x value last → Q value (last.commit x))
    : e.Yields s (Service.transaction body) Q := by
  refine Yields.bind yields_begin fun x next given => ?_
  obtain ⟨own, new, free, rfl⟩ := given
  refine Yields.bind (R := R x) (Protocol.Spec.tryCatch (runs x own new) fun error => ?_)
    fun value next held => ?_
  · refine Protocol.Spec.bind (Q := fun _ _ => True) (spec_rollback e.transactional own
      (Protocol.Stable.const True) fun _ _ _ => trivial) fun _ => ?_
    exact Protocol.Spec.throw error fun _ _ _ => trivial
  · refine Yields.bind (yields_commit own free (accepted x value next new held))
      fun _ last same => ?_
    subst same
    exact Yields.pure (commits x value next new held)

end Exclusive

-----------------------------------------------------------------------------------------
-- Nobody else
-----------------------------------------------------------------------------------------

/-- A call that runs alone may do anything to the database. -/
theorem transactional_alone (t : Tid) : Transactional (Protocol.alone t) t where
  isolated relied := relied rfl ▸ Server.Isolated.refl t _
  unseen _ _ := ⟨trivial, fun other => absurd rfl other⟩

/-- All rows belong to a program that runs alone. -/
def exclusiveAlone (t : Tid) : Exclusive (Protocol.alone (σ := World) t) t where
  mine _ := True
  covers _ := True
  accepts _ _ := True
  transactional := transactional_alone t
  extensional _ _ _ := trivial
  stable _ _ relied _ := ⟨trivial, fun _ _ => by rw [relied rfl]⟩
  unseen _ _ _ := trivial
  observes _ _ _ _ _ := ⟨trivial, fun other => absurd rfl other, trivial⟩
  commits _ _ _ _ _ _ := ⟨trivial, fun other => absurd rfl other, trivial⟩

/-- A world is at the snapshot taken of it. -/
theorem at_alone (t : Tid) (world : World) : (exclusiveAlone t).At (.of t world) world :=
  Exclusive.At.of (e := exclusiveAlone t) trivial (fun _ _ => rfl) (fun _ _ _ _ _ _ => trivial) nofun

/-- A conditional UPDATE of a program that runs alone. -/
theorem Exclusive.yields_updateManyNow {t : Tid} {s : Snapshot} {key : Key}
    {condition : Row key → Bool} {data : Row key → Row key}
    : (exclusiveAlone t).Yields s (updateMany none key condition data) fun count last =>
        (∃ row, s.committed.lookup key = some row ∧ condition row ∧ count = 1
          ∧ last = s.save none [⟨key, data row⟩])
        ∨ ((∀ row, s.committed.lookup key = some row → condition row = false)
          ∧ count = 0 ∧ last = s) := by
  refine spec_statement (transactional_alone t) (At.stable s)
    (fun world result db _ here opened ran _ => ?_) fun _ _ _ _ _ _ => trivial
  have seen : (world.db.visible none).lookup key = s.committed.lookup key :=
    here.committed key trivial
  rw [seen] at ran
  split at ran
  · rename_i missing
    obtain ⟨rfl, rfl⟩ := Prod.mk.inj (Option.some.inj ran)
    exact ⟨trivial, fun other => absurd rfl other, s, here, Or.inr ⟨by simp [missing], rfl, rfl⟩⟩
  · rename_i row found
    split at ran
    · rename_i satisfied
      obtain ⟨after, granted, same⟩ := Option.map_eq_some_iff.mp ran
      obtain ⟨rfl, rfl⟩ := Prod.mk.inj same
      obtain ⟨_, committed, pending, _⟩ := Server.save_none_eq_some granted
      refine ⟨trivial, fun other => absurd rfl other, _, ⟨trivial, fun _ _ _ _ _ _ => trivial,
        fun x writes own opened => ?_, fun x opened => ?_, fun other _ => ?_, nofun⟩,
        Or.inl ⟨row, found, satisfied, rfl, rfl⟩⟩
      · exact here.pending x writes own (pending ▸ opened)
      · exact (Server.save_serial granted).symm ▸ here.old x opened
      · simp only [committed, Snapshot.save, lookup_overlay, here.committed other trivial]
    · rename_i unsatisfied
      obtain ⟨rfl, rfl⟩ := Prod.mk.inj (Option.some.inj ran)
      refine ⟨trivial, fun other => absurd rfl other, s, here,
        Or.inr ⟨fun other same => ?_, rfl, rfl⟩⟩
      obtain rfl := Option.some.inj (found.symm.trans same)
      simpa using unsatisfied

/-- How a lone run of a service ends. -/
theorem Exclusive.Yields.alone {α : Type} {t : Tid} {service : Service α} {world after : World}
    {value : α} {Q : α → AList Row → Prop}
    (yields : (exclusiveAlone t).Yields (.of t world) service fun value last =>
      ∀ rows, Agree (fun _ => True) last.committed rows → Q value rows)
    (run : Program.Alone t service.run world (.ok value) after)
    : Q value after.db.committed := by
  obtain ⟨last, there, holds⟩ := Protocol.Spec.of_alone yields (at_alone t world) run
  exact holds _ there.committed

end LuminaRail
