import LuminaRail.Model.Queries
import LuminaRail.Database.Isolation

/-! Lone runs of services, put together from runs of their parts. The environment can let any
statement succeed whose locks are free, and any statement fail.
-/

namespace LuminaRail

open Concurrency Database

/-- The name of the next transaction. -/
def World.nextTx (t : Tid) (world : World) : TxId := ⟨t, world.db.serial⟩

/-- Run alone the service can return the value and leave this world. -/
def Service.Returns {α : Type} (t : Tid) (world : World) (service : Service α) (value : α)
    (after : World) : Prop :=
  Program.Alone t service.run world (.ok value) after

/-- Run alone the service can throw the error and leave this world. -/
def Service.Throws {α : Type} (t : Tid) (world : World) (service : Service α) (error : AppError)
    (after : World) : Prop :=
  Program.Alone t service.run world (.error error) after

namespace Service

variable {α β : Type} {t : Tid} {x : TxId} {client : Option TxId} {world next after : World}

/-- A service that only returns does so at once. -/
theorem Returns.pure (value : α) : Returns t world (pure value) value world := .done _ _

/-- A service returns what follows its first part. -/
theorem Returns.bind {first : Service α} {rest : α → Service β} {value : α} {result : β}
    (returns : Returns t world first value next) (later : Returns t next (rest value) result after)
    : Returns t world (first >>= rest) result after :=
  Program.alone_bind_iff.mpr ⟨.ok value, next, returns, later⟩

/-- A service throws what follows its first part. -/
theorem Returns.thenThrows {first : Service α} {rest : α → Service β} {value : α} {error : AppError}
    (returns : Returns t world first value next) (later : Throws t next (rest value) error after)
    : Throws t world (first >>= rest) error after :=
  Program.alone_bind_iff.mpr ⟨.ok value, next, returns, later⟩

/-- A service throws what its first part does. -/
theorem Throws.bind {first : Service α} {rest : α → Service β} {error : AppError}
    (throws : Throws t world first error after)
    : Throws t world (first >>= rest) error after :=
  Program.alone_bind_iff.mpr ⟨.error error, after, throws, .done _ _⟩

/-- A function is applied to what is returned. -/
theorem Returns.map {first : Service α} {f : α → β} {value : α}
    (returns : Returns t world first value after)
    : Returns t world (f <$> first) (f value) after :=
  Program.alone_bind_iff.mpr ⟨.ok value, after, returns, .done _ _⟩

/-- An action that is taken with an input returns its value. -/
theorem returns_act {action : Tid → World → Input → Option (Except AppError α × World)}
    {value : α} (input : Input) (acted : action t world input = some (.ok value, after))
    : Returns t world (act action) value after :=
  .atomic (i := input) acted (.done _ _)

/-- An action that is taken with an input throws its error. -/
theorem throws_act {action : Tid → World → Input → Option (Except AppError α × World)}
    {error : AppError} (input : Input) (acted : action t world input = some (.error error, after))
    : Throws t world (act action) error after :=
  .atomic (i := input) acted (.done _ _)

/-- A statement that succeeds. -/
theorem returns_statement {run : Server Row → Option (Except AppError α × Server Row)} {value : α}
    {db : Server Row} (opened : ∀ x ∈ client, (world.db.pending x).isSome ∧ x.owner = t)
    (ran : run world.db = some (.ok value, db))
    : Returns t world (statement client run) value { world with db := db } := by
  refine returns_act {} ?_
  cases client with
  | none => simp [ran]
  | some x =>
      obtain ⟨opened, own⟩ := opened x rfl
      have open_still : ¬((world.db.pending x).isNone ∨ x.owner ≠ t) := by
        simp [own, Option.isSome_iff_ne_none.mp opened]
      dsimp only
      rw [if_neg open_still]
      simp [ran]

/-- A statement of a transaction whose connection is lost, which ends it. -/
theorem throws_statement {run : Server Row → Option (Except AppError α × Server Row)}
    (opened : (world.db.pending x).isSome) (own : x.owner = t)
    : Throws t world (statement (some x) run) ⟨"", 500, "P1001"⟩
        { world with db := world.db.rollback x } := by
  refine throws_act { throws := true } ?_
  have open_still : ¬((world.db.pending x).isNone ∨ x.owner ≠ t) := by
    simp [own, Option.isSome_iff_ne_none.mp opened]
  dsimp only
  rw [if_neg open_still]
  rfl

/-- A read may be interrupted, and its transaction is aborted. -/
theorem throws_findUnique (opened : (world.db.pending x).isSome) (own : x.owner = t) (key : Key)
    : Throws t world (findUnique (some x) key) ⟨"", 500, "P1001"⟩
        { world with db := world.db.rollback x } := by
  unfold findUnique select
  exact throws_statement opened own

/-- A query returns what its client sees. -/
theorem returns_select {query : AList Row → α}
    (opened : ∀ x ∈ client, (world.db.pending x).isSome ∧ x.owner = t)
    : Returns t world (select client query) (query (world.db.visible client)) world :=
  returns_statement opened rfl

/-- Any of the rows that a search finds may be the first. -/
theorem returns_findFirst {query : AList Row → List α} {found : α}
    (member : found ∈ query world.db.committed)
    : Returns t world (findFirst none query) (some found) world := by
  obtain ⟨i, inside, rfl⟩ := List.mem_iff_getElem.mp member
  refine Returns.bind (returns_select (fun _ absurd' => absurd absurd' (Option.not_mem_none _))) ?_
  refine Returns.bind (returns_act { number := i } rfl) ?_
  have chosen : (query world.db.committed)[i % (query world.db.committed).length]?
      = some (query world.db.committed)[i] := by
    rw [Nat.mod_eq_of_lt inside]
    exact List.getElem?_eq_getElem inside
  change Returns t world (Pure.pure _) _ world
  rw [← chosen]
  exact .done _ _

-----------------------------------------------------------------------------------------
-- Transactions
-----------------------------------------------------------------------------------------

/-- Where a transaction is: on committed rows it sees a view of its own. Locks are held by itself on
rows that are its, and by others on rows that are theirs; the other transactions have not moved.
-/
structure Stage (t : Tid) (x : TxId) (others : TxId → Option (List (Sigma Row)))
    (its theirs : Key → Prop) (rows view : AList Row) (world : World) : Prop where
  own : x.owner = t
  committed : world.db.committed = rows
  opened : (world.db.pending x).isSome
  visible : world.db.visible (some x) = view
  others : ∀ y, y ≠ x → world.db.pending y = others y
  locks : ∀ key y, world.db.holder key = some y → y = x ∧ its key ∨ theirs key

variable {others : TxId → Option (List (Sigma Row))} {its theirs : Key → Prop}
  {rows view : AList Row}

/-- A transaction that has begun sees the committed rows. -/
theorem Stage.begin (committed : world.db.committed = rows)
    (locks : ∀ key y, world.db.holder key = some y → theirs key)
    : Stage t (world.nextTx t) world.db.pending its theirs rows rows
        { world with db := (world.db.begin t).2 } where
  own := rfl
  committed := committed
  opened := by simp [World.nextTx, Server.begin]
  visible := by simp [World.nextTx, Server.begin, Server.visible, committed]
  others y other := by
    rw [Server.begin_pending]
    exact Function.update_of_ne other _ _
  locks key y held := Or.inr (locks key y held)

/-- The transaction on stage is open to its own call. -/
theorem Stage.openTo (stage : Stage t x others its theirs rows view world)
    : ∀ y ∈ some x, (world.db.pending y).isSome ∧ y.owner = t := by
  intro y same
  obtain rfl := Option.some.inj same
  exact ⟨stage.opened, stage.own⟩

/-- A read returns the row on stage. -/
theorem Stage.findUnique (stage : Stage t x others its theirs rows view world) (key : Key)
    : Returns t world (findUnique (some x) key) (view.lookup key) world := by
  rw [← stage.visible]
  exact returns_select stage.openTo

/-- A row of its own the transaction can lock. -/
theorem Stage.free (stage : Stage t x others its theirs rows view world) {key : Key}
    (apart : ¬theirs key)
    : world.db.free x key = true := by
  cases held : world.db.holder key with
  | none => simp [Server.free, held]
  | some y =>
      rcases stage.locks key y held with ⟨rfl, _⟩ | other
      · simp [Server.free, held]
      · exact absurd other apart

/-- A row that nobody else has locked is locked. -/
theorem Stage.selectForUpdate (stage : Stage t x others its theirs rows view world) (key : Key)
    (own : its key) (apart : ¬theirs key)
    : ∃ after, Returns t world (selectForUpdate x key) () after
        ∧ Stage t x others its theirs rows view after := by
  cases found : (world.db.visible (some x)).lookup key with
  | none =>
      refine ⟨world, returns_statement stage.openTo ?_, stage⟩
      rw [found]
  | some row =>
      have granted : ∃ db, world.db.lock x key = some db := by
        simp [Server.lock, stage.opened, stage.free apart]
      obtain ⟨db, granted⟩ := granted
      obtain ⟨_, _, committed, pending, holder, _⟩ := Server.lock_eq_some granted
      refine ⟨{ world with db := db }, returns_statement stage.openTo ?_, stage.own,
        committed.trans stage.committed, ?_, ?_, fun y other => ?_, fun other y held => ?_⟩
      · rw [found]
        simp [granted]
      · rw [pending]
        exact stage.opened
      · rw [← stage.visible, Server.visible, Server.visible, pending, committed]
      · rw [pending]
        exact stage.others y other
      · rw [holder] at held
        by_cases same : other = key
        · subst same
          rw [Function.update_self] at held
          exact Or.inl ⟨(Option.some.inj held).symm, own⟩
        · rw [Function.update_of_ne same] at held
          exact stage.locks other y held

/-- A row of its own the transaction can write. -/
theorem Stage.save (stage : Stage t x others its theirs rows view world) {key : Key} (own : its key)
    (apart : ¬theirs key) (row : Row key)
    : ∃ db, world.db.save (some x) [⟨key, row⟩] = some db
        ∧ Stage t x others its theirs rows (view.insert key row) { world with db := db } := by
  have lockable : ∃ db, world.db.lock x key = some db := by
    simp [Server.lock, stage.opened, stage.free apart]
  have writable : ∃ db, world.db.write x key row = some db := by
    obtain ⟨db, granted⟩ := lockable
    unfold Server.write
    split
    · rename_i refused
      simp [granted] at refused
    · exact ⟨_, rfl⟩
  obtain ⟨db, written⟩ := writable
  obtain ⟨⟨writes, opened, pending⟩, _, committed, holder, _⟩ := Server.write_eq_some written
  refine ⟨db, by simp [Server.save, written], stage.own, committed.trans stage.committed, ?_, ?_,
    fun y other => ?_, fun other y held => ?_⟩
  · simp [pending]
  · have visible := stage.visible
    simp only [Server.visible, opened, Option.getD_some] at visible
    simp [Server.visible, pending, committed, visible]
  · rw [← stage.others y other, pending]
    exact Function.update_of_ne other _ _
  · rw [holder] at held
    by_cases same : other = key
    · subst same
      rw [Function.update_self] at held
      exact Or.inl ⟨(Option.some.inj held).symm, own⟩
    · rw [Function.update_of_ne same] at held
      exact stage.locks other y held

/-- A row that nobody else has locked is written. -/
theorem Stage.update (stage : Stage t x others its theirs rows view world) (key : Key)
    {row : Row key} (own : its key) (apart : ¬theirs key) (found : view.lookup key = some row)
    (data : Row key → Row key)
    : ∃ after, Returns t world (update (some x) key data) (data row) after
        ∧ Stage t x others its theirs rows (view.insert key (data row)) after := by
  obtain ⟨db, saved, later⟩ := stage.save own apart (data row)
  refine ⟨_, returns_statement stage.openTo ?_, later⟩
  rw [stage.visible, found]
  simp [saved]

/-- An update that a row meets the condition of. -/
theorem Stage.updateMany (stage : Stage t x others its theirs rows view world) (key : Key)
    {row : Row key} (condition : Row key → Bool) (own : its key) (apart : ¬theirs key)
    (found : view.lookup key = some row) (meets : condition row) (data : Row key → Row key)
    : ∃ after, Returns t world (updateMany (some x) key condition data) 1 after
        ∧ Stage t x others its theirs rows (view.insert key (data row)) after := by
  obtain ⟨db, saved, later⟩ := stage.save own apart (data row)
  refine ⟨_, returns_statement stage.openTo ?_, later⟩
  rw [stage.visible, found]
  simp [meets, saved]

/-- A row that is missing is not written. -/
theorem Stage.updateMany_none (stage : Stage t x others its theirs rows view world) {key : Key}
    (condition : Row key → Bool) (absent : view.lookup key = none) (data : Row key → Row key)
    : Returns t world (Service.updateMany (some x) key condition data) 0 world := by
  refine returns_statement stage.openTo ?_
  rw [stage.visible, absent]

/-- BEGIN returns the next transaction of the call. -/
theorem returns_begin (t : Tid) (world : World)
    : Returns t world Service.begin (world.nextTx t)
        { world with db := (world.db.begin t).2 } :=
  returns_act {} rfl

/-- A transaction that commits. -/
theorem Stage.transaction {body : TxId → Service α} {value : α}
    (runs : Returns t { world with db := (world.db.begin t).2 } (body (world.nextTx t)) value next)
    (stage : Stage t (world.nextTx t) others its theirs rows view next)
    : Returns t world (transaction body) value
        { next with db := next.db.commit (world.nextTx t) } := by
  have caught : Returns t { world with db := (world.db.begin t).2 }
      (tryCatch (body (world.nextTx t)) fun error => do
        rollback (world.nextTx t)
        throw error) value next :=
    Program.alone_bind_iff.mpr ⟨.ok value, next, runs, .done _ _⟩
  have commits : Returns t next (Service.commit (world.nextTx t)) ()
      { next with db := next.db.commit (world.nextTx t) } := by
    refine returns_act {} ((if_neg ?_).trans rfl)
    simp [stage.own, Option.isSome_iff_ne_none.mp stage.opened]
  exact (returns_begin t world).bind (caught.bind (commits.bind (Returns.pure value)))

/-- A transaction whose body throws. -/
theorem throws_transaction {body : TxId → Service α} {error : AppError}
    (throws : Throws t { world with db := (world.db.begin t).2 } (body (world.nextTx t)) error next)
    : Throws t world (transaction body) error
        { next with db := next.db.rollback (world.nextTx t) } := by
  have undoes : Returns t next (Service.rollback (world.nextTx t)) ()
      { next with db := next.db.rollback (world.nextTx t) } :=
    returns_act {} (if_neg (not_not.mpr rfl))
  refine (returns_begin t world).thenThrows (Throws.bind ?_)
  exact Program.alone_bind_iff.mpr ⟨.error error, next, throws, undoes.thenThrows (.done _ _)⟩

end Service

end LuminaRail
