import LuminaRail.Database.Store
import Mathlib.Logic.Function.Basic

/-! A database server at the isolation level READ COMMITTED.
A statement sees the rows committed when it starts and the writes of its own transaction.
Writing a row locks it, `lock` is SELECT ... FOR UPDATE, and a locked row makes the writers
of other transactions wait until its transaction ends.
-/

namespace Database

/-- A transaction, named after the program that runs it. -/
structure TxId where
  owner : Nat
  serial : Nat
deriving DecidableEq

variable {κ : Type} [DecidableEq κ] {Row : κ → Type}

/-- The committed rows, the writes of the transactions that are open (newest first) and the
locked rows. A buffered write is always a locked one, and only open transactions lock.
-/
structure Server {κ : Type} [DecidableEq κ] (Row : κ → Type) where
  committed : AList Row
  pending : TxId → Option (List (Sigma Row))
  holder : κ → Option TxId
  serial : Nat
  writes_held : ∀ {x writes}, pending x = some writes → ∀ write ∈ writes,
    holder write.1 = some x
  holder_open : ∀ {key x}, holder key = some x → (pending x).isSome
  serial_new : ∀ {x}, (pending x).isSome → x.serial < serial

namespace Server

/-- A server with these rows and no open transaction. -/
def start (committed : AList Row) : Server Row where
  committed := committed
  pending := fun _ => none
  holder := fun _ => none
  serial := 0
  writes_held := nofun
  holder_open := nofun
  serial_new := nofun

variable (server : Server Row)

/-- The rows that a client sees: `none` is a client outside any transaction. -/
def visible : Option TxId → AList Row
  | none => server.committed
  | some x => overlay ((server.pending x).getD []) server.committed

/-- BEGIN. -/
def begin (owner : Nat) : TxId × Server Row :=
  (⟨owner, server.serial⟩,
    { committed := server.committed
      pending := Function.update server.pending ⟨owner, server.serial⟩ (some [])
      holder := server.holder
      serial := server.serial + 1
      writes_held := by
        intro x writes held write member
        by_cases new : x = ⟨owner, server.serial⟩
        · simp only [new, Function.update_self, Option.some.injEq] at held
          simp [← held] at member
        · rw [Function.update_of_ne new] at held
          exact server.writes_held held write member
      holder_open := by
        intro key x held
        by_cases new : x = ⟨owner, server.serial⟩
        · simp [new]
        · rw [Function.update_of_ne new]
          exact server.holder_open held
      serial_new := by
        intro x opened
        by_cases new : x = ⟨owner, server.serial⟩
        · simp [new]
        · rw [Function.update_of_ne new] at opened
          exact Nat.lt_succ_of_lt (server.serial_new opened) })

/-- The transaction may take the row's lock. -/
def free (x : TxId) (key : κ) : Bool :=
  match server.holder key with
  | none => true
  | some y => y = x

theorem holder_eq_of_free {x y : TxId} {key : κ} (free : server.free x key = true)
    (held : server.holder key = some y) : y = x := by
  simpa [Server.free, held] using free

/-- Take the row's lock; `none` while the statement waits. -/
def lock (x : TxId) (key : κ) : Option (Server Row) :=
  if allowed : (server.pending x).isSome ∧ server.free x key then
    some
      { server with
        holder := Function.update server.holder key (some x)
        writes_held := by
          intro y writes opened write member
          have held := server.writes_held opened write member
          by_cases same : write.1 = key
          · rw [same] at held ⊢
            rw [Function.update_self, server.holder_eq_of_free allowed.2 held]
          · rw [Function.update_of_ne same]
            exact held
        holder_open := by
          intro other y held
          by_cases same : other = key
          · rw [same, Function.update_self] at held
            exact Option.some.inj held ▸ allowed.1
          · rw [Function.update_of_ne same] at held
            exact server.holder_open held }
  else
    none

/-- Write a row that the transaction has locked. -/
def push (x : TxId) (key : κ) (row : Row key) (held : server.holder key = some x)
    : Server Row :=
  { server with
    pending := Function.update server.pending x
      ((server.pending x).map (⟨key, row⟩ :: ·))
    writes_held := by
      intro y writes opened write member
      by_cases own : y = x
      · subst own
        rw [Function.update_self, Option.map_eq_some_iff] at opened
        obtain ⟨before, opened, rfl⟩ := opened
        rcases List.mem_cons.mp member with rfl | old
        · exact held
        · exact server.writes_held opened write old
      · rw [Function.update_of_ne own] at opened
        exact server.writes_held opened write member
    holder_open := by
      intro other y locked
      have opened := server.holder_open locked
      by_cases own : y = x
      · subst own
        simpa using opened
      · simpa [Function.update_of_ne own] using opened
    serial_new := by
      intro y opened
      by_cases own : y = x
      · subst own
        exact server.serial_new (by simpa using opened)
      · exact server.serial_new (by simpa [Function.update_of_ne own] using opened) }

/-- Lock and write a row; `none` while the statement waits. -/
def write (x : TxId) (key : κ) (row : Row key) : Option (Server Row) :=
  match locked : server.lock x key with
  | none => none
  | some after => some (after.push x key row (by
      simp only [lock] at locked
      split at locked
      · obtain rfl := Option.some.inj locked
        simp
      · simp at locked))

/-- Write a row outside any transaction; `none` while the statement waits. -/
def put (key : κ) (row : Row key) : Option (Server Row) :=
  if server.holder key = none then
    some { server with committed := server.committed.insert key row }
  else
    none

/-- One statement that writes several rows, inside a transaction or outside any; `none` while
it waits for one of the locks.
-/
def save : Option TxId → List (Sigma Row) → Server Row → Option (Server Row)
  | _, [], server => some server
  | none, write :: rest, server =>
      (server.put write.1 write.2).bind fun after => save none rest after
  | some x, write :: rest, server =>
      (server.write x write.1 write.2).bind fun after => save (some x) rest after

/-- End a transaction with these committed rows. -/
def close (x : TxId) (committed : AList Row) : Server Row :=
  { committed := committed
    pending := Function.update server.pending x none
    holder := fun key => if server.holder key = some x then none else server.holder key
    serial := server.serial
    writes_held := by
      intro y writes opened write member
      by_cases own : y = x
      · simp [own] at opened
      · rw [Function.update_of_ne own] at opened
        have held := server.writes_held opened write member
        simp [held, own]
    holder_open := by
      intro key y held
      split at held
      · simp at held
      · rename_i other
        have own : y ≠ x := fun same => other (same ▸ held)
        rw [Function.update_of_ne own]
        exact server.holder_open held
    serial_new := by
      intro y opened
      by_cases own : y = x
      · simp [own] at opened
      · rw [Function.update_of_ne own] at opened
        exact server.serial_new opened }

/-- ROLLBACK. -/
def rollback (x : TxId) : Server Row := server.close x server.committed

/-- COMMIT. -/
def commit (x : TxId) : Server Row := server.close x (server.visible (some x))

end Server

end Database
