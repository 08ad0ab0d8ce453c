import LuminaRail.Model.Exclusive
import LuminaRail.Model.Discipline

/-! The protocol of programs that take turns with some rows. Whoever has the turn has the rows to
itself; what gives it the turn is left open.
-/

namespace LuminaRail

open Concurrency Database Service

/-- Who may have the turn with the covered rows and when, an invariant, and a condition on the
committed rows that stays once it holds.
-/
structure Sections (H : Type) where
  owner : H → Tid
  mine : H → World → Prop
  covers : Key → Prop
  inv : World → Prop
  final : AList Row → Prop := fun _ => True

namespace Sections

variable {H : Type} (sections : Sections H)

/-- If it is the holder's turn, it stays so and the rows stay. -/
def Respected (h : H) (before after : World) : Prop :=
  sections.mine h before
    → sections.mine h after ∧ Agree sections.covers before.db.committed after.db.committed

def protocol : Protocol World where
  inv := sections.inv
  rely t before after := Server.Isolated t before.db after.db
    ∧ Grows (fun event => event.owner ≠ some t) before.trace after.trace
    ∧ (∀ h, sections.owner h = t → sections.Respected h before after)
    ∧ (sections.final before.db.committed → sections.final after.db.committed)
  guar t before after := Apart t before.db after.db
    ∧ Grows (fun event => ∀ u ∈ event.owner, u = t) before.trace after.trace
    ∧ (∀ h, sections.owner h ≠ t → sections.Respected h before after)
    ∧ (sections.final before.db.committed → sections.final after.db.committed)
  allowed _ _ _ := True
  rely_refl t world :=
    ⟨Server.Isolated.refl t world.db, Grows.refl _ _, fun _ _ mine => ⟨mine, fun _ _ => rfl⟩, id⟩
  rely_trans first second := by
    refine ⟨first.1.trans second.1, first.2.1.trans second.2.1, fun h own mine => ?_,
      fun holds => second.2.2.2 (first.2.2.2 holds)⟩
    obtain ⟨still, agree⟩ := first.2.2.1 h own mine
    obtain ⟨still', agree'⟩ := second.2.2.1 h own still
    exact ⟨still', fun key covered => (agree' key covered).trans (agree key covered)⟩
  guar_rely other _ _ guaranteed :=
    ⟨guaranteed.1.isolated _ (Ne.symm other),
      guaranteed.2.1.mono fun _ own mine => other (own _ mine).symm,
      fun h own => guaranteed.2.2.1 h fun same => other (same.symm.trans own),
      guaranteed.2.2.2⟩

/-- There is one turn at a time, and nobody takes it from its holder. -/
structure Lawful : Prop where
  observable : Observable sections.inv
  checked : ∀ (t : Tid) (orderId : Id) (status next : OrderStatus) {world : World},
    sections.inv world
      → sections.inv { world with trace := .orderChecked t orderId status next :: world.trace }
  still : ∀ {h} (t : Tid) (orderId : Id) (status next : OrderStatus) {world : World},
    sections.mine h world
      → sections.mine h { world with trace := .orderChecked t orderId status next :: world.trace }
  one : ∀ {h h' world}, sections.inv world → sections.mine h world → sections.mine h' world → h = h'
  held : ∀ {h t world after}, sections.owner h ≠ t → Apart t world.db after.db
    → Grows (fun event => ∀ u ∈ event.owner, u = t) world.trace after.trace
    → sections.mine h world → sections.mine h after

variable {sections} {t : Tid} {world after : World} {α : Type} {P : World → Prop}
  {Q : α → World → Prop} {E : AppError → World → Prop}

/-- What has been observed stays observed. -/
theorem stable_mem (event : Event) : sections.protocol.Stable t fun world => event ∈ world.trace :=
  fun _ _ _ _ relied member => relied.2.1.mem.mpr (Or.inl member)

/-- Nobody else causes a program's events. -/
theorem stable_notMem {event : Event} (own : event.owner = some t)
    : sections.protocol.Stable t fun world => event ∉ world.trace :=
  fun _ _ _ _ relied absent member =>
    absent ((relied.2.1.mem_iff (fun other => other own)).mp member)

/-- Whoever has the turn keeps what it knows of the covered rows. -/
theorem stable_turn {h : H} {K : AList Row → Prop} (own : sections.owner h = t)
    (extensional : ∀ {rows rows'}, Agree sections.covers rows rows' → K rows → K rows')
    : sections.protocol.Stable t fun world => sections.mine h world ∧ K world.db.committed := by
  intro world after _ _ relied given
  obtain ⟨still, agree⟩ := relied.2.2.1 h own given.1
  exact ⟨still, extensional agree given.2⟩

namespace Lawful

variable (lawful : sections.Lawful)
include lawful

/-- Steps that leave the covered rows alone keep the guarantee. -/
theorem guar_of_agree (apart : Apart t world.db after.db)
    (grows : Grows (fun event => ∀ u ∈ event.owner, u = t) world.trace after.trace)
    (agree : Agree sections.covers world.db.committed after.db.committed)
    (final : sections.final world.db.committed → sections.final after.db.committed)
    : sections.protocol.guar t world after :=
  ⟨apart, grows, fun _ other mine => ⟨lawful.held other apart grows mine, agree⟩, final⟩

/-- So do all steps of the program that has the turn. -/
theorem guar_of_mine {h : H} (inv : sections.inv world) (mine : sections.mine h world)
    (own : sections.owner h = t) (apart : Apart t world.db after.db)
    (grows : Grows (fun event => ∀ u ∈ event.owner, u = t) world.trace after.trace)
    (final : sections.final world.db.committed → sections.final after.db.committed)
    : sections.protocol.guar t world after :=
  ⟨apart, grows, fun _ other mine' => absurd (lawful.one inv mine' mine ▸ own) other, final⟩

theorem transactional : Transactional sections.protocol t where
  isolated relied := relied.1
  unseen inv unseen :=
    ⟨lawful.observable.calm unseen.committed rfl inv,
      lawful.guar_of_agree unseen.toApart (Grows.refl _ _)
        (fun _ _ => congrArg _ unseen.committed) fun holds => by rwa [unseen.committed]⟩

/-- One action that leaves the covered rows alone. -/
theorem spec_outside {action : Tid → World → Input → Option (Except AppError α × World)}
    (stable : sections.protocol.Stable t P)
    (acts : ∀ world input result after, sections.inv world → P world
      → action t world input = some (result, after)
      → sections.inv after ∧ Apart t world.db after.db
        ∧ Grows (fun event => ∀ u ∈ event.owner, u = t) world.trace after.trace
        ∧ Agree sections.covers world.db.committed after.db.committed
        ∧ (sections.final world.db.committed → sections.final after.db.committed)
        ∧ Protocol.outcome Q E result after)
    : sections.protocol.Spec t P (Service.act action) Q E := by
  refine Protocol.Spec.action stable fun world input result after inv given acted _ => ?_
  obtain ⟨kept, apart, grows, agree, final, ended⟩ := acts world input result after inv given acted
  exact ⟨kept, lawful.guar_of_agree apart grows agree final, ended⟩

/-- An event is observed. -/
theorem spec_emit {event : Tid → Event} {Q : Unit → World → Prop}
    (stable : sections.protocol.Stable t P) (own : ∀ u ∈ (event t).owner, u = t)
    (observed : ∀ world, sections.inv world → P world
      → sections.inv { world with trace := event t :: world.trace }
        ∧ Q () { world with trace := event t :: world.trace })
    : sections.protocol.Spec t P (Service.emit event) Q E := by
  refine lawful.spec_outside stable fun world input result after inv given acted => ?_
  obtain ⟨rfl, rfl⟩ := Prod.mk.inj (Option.some.inj acted)
  obtain ⟨kept, ended⟩ := observed world inv given
  refine ⟨kept, Apart.refl t _, ⟨[event t], rfl, fun other member => ?_⟩, fun _ _ => rfl, id, ended⟩
  obtain rfl := List.mem_singleton.mp member
  exact own

/-- A call is observed, if at all, by events that are nobody's. -/
theorem spec_quiet {action : Tid → World → Input → Option (Except AppError α × World)}
    (stable : sections.protocol.Stable t P)
    (quiet : ∀ world input result after, action t world input = some (result, after)
      → after.db = world.db ∧ Grows (fun event => event.owner = none) world.trace after.trace)
    (keeps : ∀ {world after : World}, after.db = world.db
      → Grows (fun event => event.owner = none) world.trace after.trace
      → sections.inv world → sections.inv after)
    (returns : ∀ world input value after, P world → action t world input = some (.ok value, after)
      → Q value after)
    (throws : ∀ world input error after, P world → action t world input = some (.error error, after)
      → E error after)
    : sections.protocol.Spec t P (Service.act action) Q E := by
  refine lawful.spec_outside stable fun world input result after inv given acted => ?_
  obtain ⟨same, grows⟩ := quiet world input result after acted
  refine ⟨keeps same grows inv, same ▸ Apart.refl t _, grows.mono fun event ownerless => ?_,
    fun _ _ => by rw [same], fun holds => by rwa [same], ?_⟩
  · simp [ownerless]
  · cases result with
    | ok value => exact returns world input value after given acted
    | error error => exact throws world input error after given acted

/-- An UPDATE of a row that is not covered, outside any transaction. -/
theorem spec_updateOutside {key : Key} {data : Row key → Row key} {Q : Row key → World → Prop}
    (stable : sections.protocol.Stable t P) (outside : ¬sections.covers key)
    (extensional : ∀ {rows rows'}, Agree sections.covers rows rows' → sections.final rows
      → sections.final rows')
    (updates : ∀ {world : World} {db : Server Row} {row : Row key}, sections.inv world → P world
      → world.db.committed.lookup key = some row
      → db.committed = world.db.committed.insert key (data row)
      → sections.inv { world with db := db } ∧ Q (data row) { world with db := db })
    (throws : ∀ world error, P world → E error world)
    : sections.protocol.Spec t P (update none key data) Q E := by
  refine lawful.spec_outside stable fun world input result after inv given acted => ?_
  have idle : sections.inv world ∧ Apart t world.db world.db
      ∧ Grows (fun event => ∀ u ∈ event.owner, u = t) world.trace world.trace
      ∧ Agree sections.covers world.db.committed world.db.committed
      ∧ (sections.final world.db.committed → sections.final world.db.committed) :=
    ⟨inv, Apart.refl t _, Grows.refl _ _, fun _ _ => rfl, id⟩
  dsimp only at acted
  split at acted
  · obtain ⟨rfl, rfl⟩ := Prod.mk.inj (Option.some.inj acted)
    exact ⟨idle.1, idle.2.1, idle.2.2.1, idle.2.2.2.1, idle.2.2.2.2, throws world _ given⟩
  · obtain ⟨answer, ran, same⟩ := Option.map_eq_some_iff.mp acted
    obtain ⟨rfl, rfl⟩ := Prod.mk.inj same
    split at ran
    · obtain rfl := Option.some.inj ran
      exact ⟨idle.1, idle.2.1, idle.2.2.1, idle.2.2.2.1, idle.2.2.2.2, throws world _ given⟩
    · rename_i row found
      obtain ⟨db, granted, rfl⟩ := Option.map_eq_some_iff.mp ran
      have committed := (Server.save_none_eq_some granted).2.1
      have agree : Agree sections.covers world.db.committed db.committed := by
        intro other covered
        have different : other ≠ key := fun same => outside (same ▸ covered)
        rw [committed]
        exact AList.lookup_insert_ne different
      obtain ⟨kept, reached⟩ := updates inv given found committed
      exact ⟨kept, Apart.save (by simp) granted, Grows.refl _ _, agree, extensional agree, reached⟩

/-- An observed INSERT of a row that is not covered, outside any transaction. -/
theorem spec_insertOutside {key : Key} {row : Row key} {event : Tid → Event}
    {Q : Unit → World → Prop} (stable : sections.protocol.Stable t P)
    (outside : ¬sections.covers key) (own : ∀ u ∈ (event t).owner, u = t)
    (extensional : ∀ {rows rows'}, Agree sections.covers rows rows' → sections.final rows
      → sections.final rows')
    (inserts : ∀ {world : World} {db : Server Row}, sections.inv world → P world
      → world.db.committed.lookup key = none → db.committed = world.db.committed.insert key row
      → db.pending = world.db.pending
      → sections.inv { world with db := db, trace := event t :: world.trace }
        ∧ Q () { world with db := db, trace := event t :: world.trace })
    (taken : ∀ world, sections.inv world → P world → (world.db.committed.lookup key).isSome
      → E .uniqueConstraint world)
    (throws : ∀ world text, P world → E ⟨text, 500, "P1001"⟩ world)
    : sections.protocol.Spec t P (insert key row event) Q E := by
  refine lawful.spec_outside stable fun world input result after inv given acted => ?_
  split at acted
  · obtain ⟨rfl, rfl⟩ := Prod.mk.inj (Option.some.inj acted)
    exact ⟨inv, Apart.refl t _, Grows.refl _ _, fun _ _ => rfl, id, throws world _ given⟩
  · split at acted
    · rename_i present
      obtain ⟨rfl, rfl⟩ := Prod.mk.inj (Option.some.inj acted)
      exact ⟨inv, Apart.refl t _, Grows.refl _ _, fun _ _ => rfl, id, taken world inv given present⟩
    · rename_i absent
      obtain ⟨db, granted, same⟩ := Option.map_eq_some_iff.mp acted
      obtain ⟨rfl, rfl⟩ := Prod.mk.inj same
      obtain ⟨_, committed, pending, _⟩ := Server.save_none_eq_some granted
      have agree : Agree sections.covers world.db.committed db.committed := by
        intro other covered
        have different : other ≠ key := fun same => outside (same ▸ covered)
        rw [committed]
        exact AList.lookup_insert_ne different
      obtain ⟨kept, reached⟩ := inserts inv given
        (Option.not_isSome_iff_eq_none.mp absent) committed pending
      refine ⟨kept, Apart.save (by simp) granted, ⟨[event t], rfl, fun other member => ?_⟩, agree,
        extensional agree, reached⟩
      obtain rfl := List.mem_singleton.mp member
      exact own

end Lawful

/-- The turn of a holder as an exclusive section. -/
def exclusive (lawful : sections.Lawful) (h : H)
    (accepts : AList Row → AList Row → Prop) (keeper : Option TxId)
    (extensional : ∀ {before before' after after'}, Agree sections.covers before before'
      → Agree sections.covers after after' → accepts before after → accepts before' after')
    (unseen : ∀ {world : World} {db}, sections.mine h world → db.committed = world.db.committed
      → (∀ key x, world.db.holder key = some x → db.holder key = some x)
      → sections.mine h { world with db := db })
    (commits : ∀ {world : World} {db}, sections.inv world → sections.mine h world
      → accepts world.db.committed db.committed → Apart (sections.owner h) world.db db
      → (∀ key, ¬sections.covers key → db.committed.lookup key = world.db.committed.lookup key)
      → (∀ x ∈ keeper, ∀ key, world.db.holder key = some x → db.holder key = some x)
      → sections.inv { world with db := db } ∧ sections.mine h { world with db := db }
        ∧ (sections.final world.db.committed → sections.final db.committed))
    : Exclusive sections.protocol (sections.owner h) where
  mine := sections.mine h
  covers := sections.covers
  accepts := accepts
  keeper := keeper
  transactional := lawful.transactional
  extensional := extensional
  stable _ _ relied mine := relied.2.2.1 h rfl mine
  unseen := unseen
  observes {world} orderId status next inv mine := by
    refine ⟨lawful.checked _ orderId status next inv, ?_, lawful.still _ orderId status next mine⟩
    refine lawful.guar_of_mine inv mine rfl (Apart.refl _ _) ⟨[_], rfl, fun event member => ?_⟩ id
    obtain rfl := List.mem_singleton.mp member
    exact fun u own => (Option.some.inj own).symm
  commits inv mine accepted apart frame keeps := by
    obtain ⟨kept, still, final⟩ := commits inv mine accepted apart frame keeps
    exact ⟨kept, lawful.guar_of_mine inv mine rfl apart (Grows.refl _ _) final, still⟩

/-- What happens by itself fits the protocol, if it takes the turn from nobody. -/
theorem Lawful.fits {machine : Machine World Chance} (lawful : sections.Lawful)
    (env : ∀ {live world chance after}, machine.env live world chance = some after
      → after = chance.apply world ∧ ∀ h, sections.mine h world → sections.mine h after)
    (crash : ∀ t world, machine.crash t world = { world with trace := .crashed t :: world.trace })
    : machine.Fits sections.protocol where
  env live world chance after inv happened := by
    obtain ⟨rfl, kept⟩ := env happened
    refine ⟨lawful.observable.calm (by simp) (by simp) inv, fun t _ => ⟨chance.apply_isolated world t,
      ?_, fun h _ mine => ⟨kept h mine, fun _ _ => by simp⟩, by simp⟩⟩
    rw [Chance.apply_trace]
    exact Grows.refl _ _
  crash t world inv := by
    rw [crash]
    have crashed (u : Tid) (owner : u = t → False)
        : sections.protocol.rely u world { world with trace := .crashed t :: world.trace } := by
      refine sections.protocol.guar_rely (u := t) (fun same => owner same.symm) inv
        (lawful.observable.crashed t world inv)
        (lawful.guar_of_agree (Apart.refl t _) ⟨[.crashed t], rfl, fun event member => ?_⟩
          (fun _ _ => rfl) id)
      obtain rfl := List.mem_singleton.mp member
      simp [Event.owner]
    exact ⟨lawful.observable.crashed t world inv, crashed⟩

end Sections

end LuminaRail
