import LuminaRail.Database.ReadCommitted

/-! What a transaction may rely on while others act: its own writes, its locks and the
committed versions of the rows it has locked stay as they are until it ends.
-/

namespace Database

namespace Server

variable {κ : Type} [DecidableEq κ] {Row : κ → Type}
  {server before middle after : Server Row} {x y : TxId} {key : κ} {t : Nat}

-----------------------------------------------------------------------------------------
-- What each statement does
-----------------------------------------------------------------------------------------

@[simp]
theorem begin_id (server : Server Row) (owner : Nat)
    : (server.begin owner).1 = ⟨owner, server.serial⟩ :=
  rfl

@[simp]
theorem begin_committed (server : Server Row) (owner : Nat)
    : (server.begin owner).2.committed = server.committed :=
  rfl

@[simp]
theorem begin_holder (server : Server Row) (owner : Nat)
    : (server.begin owner).2.holder = server.holder :=
  rfl

@[simp]
theorem begin_pending (server : Server Row) (owner : Nat)
    : (server.begin owner).2.pending
      = Function.update server.pending ⟨owner, server.serial⟩ (some []) :=
  rfl

@[simp]
theorem begin_serial (server : Server Row) (owner : Nat)
    : (server.begin owner).2.serial = server.serial + 1 :=
  rfl

/-- A granted lock changes the holder of one row, which nobody else held. -/
theorem lock_eq_some (granted : server.lock x key = some after)
    : (server.pending x).isSome
      ∧ (server.holder key = none ∨ server.holder key = some x)
      ∧ after.committed = server.committed
      ∧ after.pending = server.pending
      ∧ after.holder = Function.update server.holder key (some x)
      ∧ after.serial = server.serial := by
  simp only [lock] at granted
  split at granted
  · rename_i allowed
    obtain rfl := Option.some.inj granted
    refine ⟨allowed.1, ?_, rfl, rfl, rfl, rfl⟩
    cases held : server.holder key with
    | none => exact Or.inl rfl
    | some y => exact Or.inr (congrArg some (server.holder_eq_of_free allowed.2 held))
  · simp at granted

/-- A granted write locks its row and stands first among the writes of its transaction. -/
theorem write_eq_some {row : Row key} (granted : server.write x key row = some after)
    : (∃ writes, server.pending x = some writes
        ∧ after.pending = Function.update server.pending x (some (⟨key, row⟩ :: writes)))
      ∧ (server.holder key = none ∨ server.holder key = some x)
      ∧ after.committed = server.committed
      ∧ after.holder = Function.update server.holder key (some x)
      ∧ after.serial = server.serial := by
  simp only [write] at granted
  split at granted
  · simp at granted
  · rename_i locked granting
    obtain rfl := Option.some.inj granted
    obtain ⟨opened, free, committed, pending, holder, serial⟩ := lock_eq_some granting
    obtain ⟨writes, opened⟩ := Option.isSome_iff_exists.mp opened
    refine ⟨⟨writes, opened, ?_⟩, free, committed, holder, serial⟩
    simp [push, pending, opened]

/-- A write outside any transaction changes one row that nobody has locked. -/
theorem put_eq_some {row : Row key} (granted : server.put key row = some after)
    : server.holder key = none
      ∧ after.committed = server.committed.insert key row
      ∧ after.pending = server.pending
      ∧ after.holder = server.holder
      ∧ after.serial = server.serial := by
  simp only [put] at granted
  split at granted
  · rename_i free
    obtain rfl := Option.some.inj granted
    exact ⟨free, rfl, rfl, rfl, rfl⟩
  · simp at granted

/-- A statement of an open transaction adds its rows to the writes and locks them, by
induction on the rows.
-/
theorem save_eq_some {rows writes : List (Sigma Row)} (opened : server.pending x = some writes)
    (granted : server.save (some x) rows = some after)
    : after.committed = server.committed
      ∧ after.pending = Function.update server.pending x (some (rows.reverse ++ writes))
      ∧ (∀ key y, server.holder key = some y → after.holder key = some y) := by
  induction rows generalizing server writes with
  | nil =>
      obtain rfl := Option.some.inj granted
      exact ⟨rfl, by simp [← opened], fun _ _ held => held⟩
  | cons row rows ih =>
      obtain ⟨next, written, later⟩ := Option.bind_eq_some_iff.mp granted
      obtain ⟨⟨before, opened', pending⟩, free, committed, holder, _⟩ := write_eq_some written
      obtain rfl := Option.some.inj (opened.symm.trans opened')
      have opened_next : next.pending x = some (⟨row.1, row.2⟩ :: writes) := by simp [pending]
      obtain ⟨committed', pending', holder'⟩ := ih opened_next later
      refine ⟨committed'.trans committed, ?_, fun key y held => holder' key y ?_⟩
      · rw [pending', pending, Function.update_idem]
        simp
      · by_cases same : key = row.1
        · subst same
          rcases free with free | free
          · simp [free] at held
          · rw [holder, Function.update_self, ← held, free]
        · rw [holder, Function.update_of_ne same]
          exact held

/-- A transaction that is not open writes nothing. -/
theorem save_closed {rows : List (Sigma Row)} (closed : server.pending x = none)
    (granted : server.save (some x) rows = some after)
    : after = server := by
  cases rows with
  | nil => exact (Option.some.inj granted).symm
  | cons row rows =>
      obtain ⟨next, written, _⟩ := Option.bind_eq_some_iff.mp granted
      obtain ⟨⟨_, opened, _⟩, _⟩ := write_eq_some written
      simp [closed] at opened

/-- A statement of a transaction commits nothing. -/
theorem save_committed {rows : List (Sigma Row)}
    (granted : server.save (some x) rows = some after)
    : after.committed = server.committed := by
  cases opened : server.pending x with
  | none => rw [save_closed opened granted]
  | some writes => exact (save_eq_some opened granted).1

/-- A statement outside any transaction commits its rows, by induction on them. -/
theorem save_none_eq_some {rows : List (Sigma Row)}
    (granted : server.save none rows = some after)
    : (∀ row ∈ rows, server.holder row.1 = none)
      ∧ after.committed = overlay rows.reverse server.committed
      ∧ after.pending = server.pending
      ∧ after.holder = server.holder := by
  induction rows generalizing server with
  | nil =>
      obtain rfl := Option.some.inj granted
      exact ⟨nofun, rfl, rfl, rfl⟩
  | cons row rows ih =>
      obtain ⟨next, written, later⟩ := Option.bind_eq_some_iff.mp granted
      obtain ⟨free, committed, pending, holder, _⟩ := put_eq_some written
      obtain ⟨free', committed', pending', holder'⟩ := ih later
      refine ⟨?_, ?_, pending'.trans pending, holder'.trans holder⟩
      · intro other member
        rcases List.mem_cons.mp member with rfl | member
        · exact free
        · rw [← holder]
          exact free' other member
      · rw [committed', committed, List.reverse_cons]
        simp [overlay]

@[simp]
theorem commit_committed (server : Server Row) (x : TxId)
    : (server.commit x).committed
      = overlay ((server.pending x).getD []) server.committed :=
  rfl

@[simp]
theorem commit_pending (server : Server Row) (x : TxId)
    : (server.commit x).pending = Function.update server.pending x none :=
  rfl

@[simp]
theorem commit_holder (server : Server Row) (x : TxId) (key : κ)
    : (server.commit x).holder key
      = if server.holder key = some x then none else server.holder key :=
  rfl

@[simp]
theorem rollback_committed (server : Server Row) (x : TxId)
    : (server.rollback x).committed = server.committed :=
  rfl

@[simp]
theorem rollback_pending (server : Server Row) (x : TxId)
    : (server.rollback x).pending = Function.update server.pending x none :=
  rfl

@[simp]
theorem rollback_holder (server : Server Row) (x : TxId) (key : κ)
    : (server.rollback x).holder key
      = if server.holder key = some x then none else server.holder key :=
  rfl

/-- A row that another transaction has locked is not among the writes of this one. -/
theorem unwritten_of_held {writes : List (Sigma Row)} (opened : server.pending x = some writes)
    (held : server.holder key = some y) (other : y ≠ x)
    : writes.dlookup key = none := by
  rw [List.dlookup_eq_none]
  intro written
  obtain ⟨row, member⟩ := List.exists_of_mem_keys written
  exact other (Option.some.inj (held.symm.trans (server.writes_held opened _ member)))

-----------------------------------------------------------------------------------------
-- Isolation
-----------------------------------------------------------------------------------------

/-- What the transactions of `t` notice of a change: they may have been rolled back, but
while they are open their writes, locks and locked rows are as before. No name of a transaction
becomes new again.
-/
structure Isolated (t : Nat) (before after : Server Row) : Prop where
  writes : ∀ {x writes}, x.owner = t → after.pending x = some writes
    → before.pending x = some writes
  locks : ∀ {x key}, x.owner = t → (after.pending x).isSome
    → (after.holder key = some x ↔ before.holder key = some x)
  rows : ∀ {x key}, x.owner = t → (after.pending x).isSome → before.holder key = some x
    → after.committed.lookup key = before.committed.lookup key
  serial : before.serial ≤ after.serial

/-- A server is isolated from itself. -/
theorem Isolated.refl (t : Nat) (server : Server Row) : Isolated t server server :=
  ⟨fun _ opened => opened, fun _ _ => Iff.rfl, fun _ _ _ => rfl, le_refl _⟩

/-- A transaction of the client that is open afterwards was open before. -/
theorem Isolated.isSome (isolated : Isolated t before after) (own : x.owner = t)
    (opened : (after.pending x).isSome) : (before.pending x).isSome := by
  obtain ⟨writes, opened⟩ := Option.isSome_iff_exists.mp opened
  simp [isolated.writes own opened]

/-- Two steps of others are isolated together. -/
theorem Isolated.trans (first : Isolated t before middle) (second : Isolated t middle after)
    : Isolated t before after where
  writes own opened := first.writes own (second.writes own opened)
  locks own opened :=
    (second.locks own opened).trans (first.locks own (second.isSome own opened))
  rows own opened held :=
    (second.rows own opened ((first.locks own (second.isSome own opened)).mpr held)).trans
      (first.rows own (second.isSome own opened) held)
  serial := first.serial.trans second.serial

/-- A change of nothing but the rows that nobody has locked. -/
theorem Isolated.of_rows (pending : after.pending = before.pending)
    (holder : after.holder = before.holder)
    (rows : ∀ key x, before.holder key = some x → x.owner = t
      → after.committed.lookup key = before.committed.lookup key)
    (serial : after.serial = before.serial)
    : Isolated t before after :=
  ⟨fun _ opened => pending ▸ opened, fun _ _ => by rw [holder],
    fun own _ held => rows _ _ held own, serial.ge⟩

/-- Another client's BEGIN takes a name of its own. -/
theorem begin_isolated (server : Server Row) {owner : Nat} (other : owner ≠ t)
    : Isolated t server (server.begin owner).2 := by
  refine ⟨fun {x writes} own opened => ?_, fun _ _ => by simp, fun _ _ _ => by simp, by simp⟩
  have different : x ≠ ⟨owner, server.serial⟩ := by
    intro same
    subst same
    exact other own
  simpa [different] using opened

/-- Another client's lock takes no lock away, by cases on the key. -/
theorem lock_isolated (granted : server.lock x key = some after) (other : x.owner ≠ t)
    : Isolated t server after := by
  obtain ⟨_, free, committed, pending, holder, serial⟩ := lock_eq_some granted
  refine ⟨fun _ opened => pending ▸ opened, fun {y k} own _ => ?_, fun _ _ _ => by rw [committed],
    serial.ge⟩
  have different : x ≠ y := by
    intro same
    subst same
    exact other own
  by_cases same : k = key
  · subst same
    rcases free with free | free <;> simp [holder, free, different]
  · simp [holder, same]

/-- Another client's write is its own, by cases on the transaction. -/
theorem write_isolated {row : Row key} (granted : server.write x key row = some after)
    (other : x.owner ≠ t)
    : Isolated t server after := by
  obtain ⟨⟨writes, _, pending⟩, free, committed, holder, serial⟩ := write_eq_some granted
  refine ⟨fun {y ws} own opened => ?_, fun {y k} own _ => ?_, fun _ _ _ => by rw [committed],
    serial.ge⟩
  · have different : y ≠ x := by
      intro same
      subst same
      exact other own
    simpa [pending, different] using opened
  · have different : x ≠ y := by
      intro same
      subst same
      exact other own
    by_cases same : k = key
    · subst same
      rcases free with free | free <;> simp [holder, free, different]
    · simp [holder, same]

/-- A row is only put where nobody holds a lock. -/
theorem put_isolated {row : Row key} (granted : server.put key row = some after)
    : Isolated t server after := by
  obtain ⟨free, committed, pending, holder, serial⟩ := put_eq_some granted
  refine Isolated.of_rows pending holder (fun k x held _ => ?_) serial
  have different : k ≠ key := by
    intro same
    subst same
    simp [free] at held
  rw [committed, AList.lookup_insert_ne different]

/-- A statement of another program is isolated, by induction on its rows. -/
theorem save_isolated {client : Option TxId} {rows : List (Sigma Row)}
    (granted : server.save client rows = some after) (other : ∀ x ∈ client, x.owner ≠ t)
    : Isolated t server after := by
  induction rows generalizing server with
  | nil =>
      obtain rfl : server = after := by cases client <;> exact Option.some.inj granted
      exact Isolated.refl t server
  | cons row rows ih =>
      cases client with
      | none =>
          obtain ⟨next, written, later⟩ := Option.bind_eq_some_iff.mp granted
          exact (put_isolated written).trans (ih later)
      | some x =>
          obtain ⟨next, written, later⟩ := Option.bind_eq_some_iff.mp granted
          exact (write_isolated written (other x rfl)).trans (ih later)

/-- Ending a transaction does not disturb any other, whatever happens to its writes. -/
theorem close_isolated {committed : AList Row}
    (rows : ∀ key y, server.holder key = some y → y ≠ x
      → committed.lookup key = server.committed.lookup key)
    : Isolated t server (server.close x committed) := by
  refine ⟨fun {y writes} _ opened => ?_, fun {y k} _ opened => ?_,
    fun {y k} _ opened held => ?_, le_refl _⟩
  · by_cases same : y = x
    · simp [close, same] at opened
    · simpa [close, same] using opened
  · by_cases same : y = x
    · simp [close, same] at opened
    · by_cases held : server.holder k = some x
      · simp [close, held, Ne.symm same]
      · simp [close, held]
  · by_cases same : y = x
    · simp [close, same] at opened
    · exact rows k y held same

/-- A rollback of any transaction, also one of `t` itself, is isolated from `t`. -/
theorem rollback_isolated (server : Server Row) (x : TxId)
    : Isolated t server (server.rollback x) :=
  close_isolated fun _ _ _ _ => rfl

/-- A COMMIT changes no row that the client holds. -/
theorem commit_isolated (server : Server Row) (x : TxId)
    : Isolated t server (server.commit x) := by
  refine close_isolated fun key y held other => ?_
  simp only [visible]
  cases opened : server.pending x with
  | none => simp
  | some writes =>
      exact lookup_overlay_of_unwritten _ (unwritten_of_held opened held other)

/-- The locks and the writes of one transaction do not disturb another one of the same program,
by induction on the rows.
-/
theorem save_other {rows : List (Sigma Row)} (granted : server.save (some y) rows = some after)
    (other : y ≠ x)
    : after.pending x = server.pending x
      ∧ ∀ key, after.holder key = some x ↔ server.holder key = some x := by
  induction rows generalizing server with
  | nil =>
      obtain rfl := Option.some.inj granted
      exact ⟨rfl, fun _ => Iff.rfl⟩
  | cons row rows ih =>
      obtain ⟨next, written, later⟩ := Option.bind_eq_some_iff.mp granted
      obtain ⟨⟨writes, _, pending⟩, free, _, holder, _⟩ := write_eq_some written
      obtain ⟨pending', holder'⟩ := ih later
      refine ⟨by rw [pending', pending, Function.update_of_ne (Ne.symm other)], fun key => ?_⟩
      rw [holder', holder]
      by_cases same : key = row.1
      · subst same
        rcases free with free | free <;> simp [free, other]
      · simp [same]

/-- A write takes no new name, by cases on the client. -/
theorem save_serial {rows : List (Sigma Row)} {client : Option TxId}
    (granted : server.save client rows = some after)
    : after.serial = server.serial := by
  induction rows generalizing server with
  | nil =>
      obtain rfl : server = after := by cases client <;> exact Option.some.inj granted
      rfl
  | cons row rows ih =>
      cases client with
      | none =>
          obtain ⟨next, written, later⟩ := Option.bind_eq_some_iff.mp granted
          exact (ih later).trans (put_eq_some written).2.2.2.2
      | some x =>
          obtain ⟨next, written, later⟩ := Option.bind_eq_some_iff.mp granted
          exact (ih later).trans (write_eq_some written).2.2.2.2

-----------------------------------------------------------------------------------------
-- Assertions about an open transaction
-----------------------------------------------------------------------------------------

/-- While `x` is open, `P` holds of its writes and the server. -/
def During (x : TxId) (P : List (Sigma Row) → Server Row → Prop) (server : Server Row) : Prop :=
  ∀ writes, server.pending x = some writes → P writes server

/-- `P` looks at nothing but the locks of `x` and the rows it has locked. -/
def Local (x : TxId) (P : List (Sigma Row) → Server Row → Prop) : Prop :=
  ∀ writes before after,
    (∀ key, after.holder key = some x ↔ before.holder key = some x)
    → (∀ key, before.holder key = some x
      → after.committed.lookup key = before.committed.lookup key)
    → P writes before → P writes after

/-- The lock of a row and its committed version. -/
def HeldAs (x : TxId) (key : κ) (row : Option (Row key)) (server : Server Row) : Prop :=
  server.holder key = some x ∧ server.committed.lookup key = row

/-- The row that a transaction holds is local to it. -/
theorem Local.heldAs (row : Option (Row key))
    : Local x fun _ server => HeldAs x key row server :=
  fun _ _ _ locks rows held => ⟨(locks key).mpr held.1, (rows key held.1).trans held.2⟩

/-- A fact about the writes alone is local. -/
theorem Local.const (p : List (Sigma Row) → Prop) : Local x fun writes _ => p writes :=
  fun _ _ _ _ _ holds => holds

/-- Two local facts are local together. -/
theorem Local.and {P Q : List (Sigma Row) → Server Row → Prop} (first : Local x P)
    (second : Local x Q)
    : Local x fun writes server => P writes server ∧ Q writes server :=
  fun writes before after locks rows holds =>
    ⟨first writes before after locks rows holds.1, second writes before after locks rows holds.2⟩

/-- A local fact about some index is local. -/
theorem Local.exists {γ : Sort*} {P : γ → List (Sigma Row) → Server Row → Prop}
    (each : ∀ index, Local x (P index))
    : Local x fun writes server => ∃ index, P index writes server :=
  fun writes before after locks rows ⟨index, holds⟩ =>
    ⟨index, each index writes before after locks rows holds⟩

/-- A statement that releases no lock and commits nothing keeps what is known of locked rows. -/
theorem HeldAs.keep {row : Option (Row key)} (held : HeldAs x key row server)
    (locks : ∀ k y, server.holder k = some y → after.holder k = some y)
    (committed : after.committed = server.committed)
    : HeldAs x key row after :=
  ⟨locks key x held.1, committed ▸ held.2⟩

/-- A transaction that has just begun is open and has written nothing. -/
theorem During.begin (server : Server Row) (owner : Nat)
    : (server.begin owner).2.During ⟨owner, server.serial⟩ fun writes _ => writes = [] := by
  intro writes opened
  simpa using opened.symm

/-- What is known of an open transaction can be weakened. -/
theorem During.mono {P Q : List (Sigma Row) → Server Row → Prop} (during : server.During x P)
    (weaker : ∀ writes, P writes server → Q writes server)
    : server.During x Q :=
  fun writes opened => weaker writes (during writes opened)

/-- A transaction that takes a lock knows that it has it. -/
theorem During.lock {P Q : List (Sigma Row) → Server Row → Prop} (during : server.During x P)
    (granted : server.lock x key = some after)
    (next : ∀ writes, P writes server
      → (∀ k y, server.holder k = some y → after.holder k = some y)
      → after.committed = server.committed → after.holder key = some x → Q writes after)
    : after.During x Q := by
  obtain ⟨_, free, committed, pending, holder, _⟩ := lock_eq_some granted
  intro writes opened
  refine next writes (during writes (pending ▸ opened)) (fun k y held => ?_) committed ?_
  · by_cases same : k = key
    · subst same
      rcases free with free | free
      · simp [free] at held
      · rw [holder, Function.update_self, ← held, free]
    · rw [holder, Function.update_of_ne same]
      exact held
  · rw [holder, Function.update_self]

/-- A transaction that writes knows its writes and that it has locked their rows. -/
theorem During.save {P Q : List (Sigma Row) → Server Row → Prop} {rows : List (Sigma Row)}
    (during : server.During x P) (granted : server.save (some x) rows = some after)
    (next : ∀ writes, server.pending x = some writes → P writes server
      → (∀ k y, server.holder k = some y → after.holder k = some y)
      → after.committed = server.committed → (∀ row ∈ rows, after.holder row.1 = some x)
      → Q (rows.reverse ++ writes) after)
    : after.During x Q := by
  intro writes opened
  cases before : server.pending x with
  | none =>
      cases rows with
      | nil =>
          obtain rfl := Option.some.inj granted
          simp [before] at opened
      | cons row rows =>
          obtain ⟨next, written, _⟩ := Option.bind_eq_some_iff.mp granted
          obtain ⟨⟨_, opened', _⟩, _⟩ := write_eq_some written
          simp [before] at opened'
  | some old =>
      obtain ⟨committed, pending, holder⟩ := save_eq_some before granted
      have opened' := opened
      simp only [pending, Function.update_self, Option.some.injEq] at opened
      subst opened
      refine next old before (during old before) holder committed fun row member => ?_
      exact after.writes_held opened' row
        (List.mem_append_left _ (List.mem_reverse.mpr member))

/-- What a transaction knows about itself survives whatever leaves its writes and its locks as
they are and commits nothing.
-/
theorem During.other {P : List (Sigma Row) → Server Row → Prop} (private' : Local x P)
    (during : before.During x P) (pending : after.pending x = before.pending x)
    (holder : ∀ key, after.holder key = some x ↔ before.holder key = some x)
    (committed : after.committed = before.committed)
    : after.During x P := by
  intro writes opened
  rw [pending] at opened
  exact private' writes before after holder (fun _ _ => by rw [committed]) (during writes opened)

/-- What a transaction knows about itself survives the others' steps. -/
theorem During.isolated {P : List (Sigma Row) → Server Row → Prop} (private' : Local x P)
    (isolated : Isolated x.owner before after) (during : before.During x P)
    : after.During x P := by
  intro writes opened
  have before_opened := isolated.writes rfl opened
  have still : (after.pending x).isSome := by simp [opened]
  exact private' writes before after (fun _ => isolated.locks rfl still)
    (fun _ held => isolated.rows rfl still held) (during writes before_opened)

end Server

end Database
