import LuminaRail.Model.Discipline

/-! What a transaction knows of a row that it has locked, whatever else it does meanwhile. -/

namespace LuminaRail

open Concurrency Database Service

/-- The transaction has begun, and as long as it is open `P` holds of its writes and locks. -/
def Begun (x : TxId) (P : List (Sigma Row) → Server Row → Prop) (world : World) : Prop :=
  x.serial < world.db.serial ∧ world.db.During x P

/-- The lock of a row, which the transaction has not written yet. -/
def Holding (x : TxId) (key : Key) (row : Option (Row key)) (writes : List (Sigma Row))
    (server : Server Row) : Prop :=
  Server.HeldAs x key row server ∧ writes.dlookup key = none

/-- A committed row that is there. -/
def Exists (key : Key) (world : World) : Prop := (world.db.committed.lookup key).isSome

variable {x : TxId} {key : Key} {row : Option (Row key)} {world after : World}
  {footprint : Footprint} {t : Tid} {P : List (Sigma Row) → Server Row → Prop}

theorem Holding.private' : Server.Local x (Holding x key row) :=
  (Server.Local.heldAs row).and (Server.Local.const _)

namespace Begun

/-- A change that leaves the transaction's writes, its locks and its locked rows in place. -/
theorem isolated (private' : Server.Local x P) (begun : Begun x P world)
    (isolated : Server.Isolated x.owner world.db after.db)
    : Begun x P after :=
  ⟨begun.1.trans_le isolated.serial, Server.During.isolated private' isolated begun.2⟩

/-- The steps of a program that does not write the row leave it held. -/
theorem step (begun : Begun x (Holding x key row) world) (step : Step footprint t world after)
    (never : ∀ old new, ¬footprint.writes key old new)
    : Begun x (Holding x key row) after := by
  cases step with
  | idle | emit | redis | remember => exact begun
  | begin =>
      refine ⟨begun.1.trans (by simp), begun.2.other Holding.private' ?_ (fun _ => Iff.rfl) rfl⟩
      have different : x ≠ ⟨t, world.db.serial⟩ := by
        intro same
        have old := begun.1
        rw [same] at old
        exact absurd old (lt_irrefl _)
      simp [different]
  | rollback y => exact begun.isolated Holding.private' (Server.rollback_isolated world.db y)
  | commit y own => exact begun.isolated Holding.private' (Server.commit_isolated world.db y)
  | lock y other db own granted =>
      obtain ⟨_, free, committed, pending, holder, serial⟩ := Server.lock_eq_some granted
      refine ⟨begun.1.trans_le serial.ge, ?_⟩
      by_cases same : y = x
      · subst same
        refine begun.2.lock granted fun writes holding locks committed _ => ?_
        exact ⟨holding.1.keep locks committed, holding.2⟩
      · refine begun.2.other Holding.private' (by rw [pending]) (fun k => ?_) committed
        by_cases locked : k = other
        · subst locked
          rcases free with free | free <;> simp [holder, free, same]
        · simp [holder, locked]
  | save client rows db own replaces granted =>
      cases client with
      | none => exact begun.isolated Holding.private' (Server.save_isolated granted (by simp))
      | some y =>
          refine ⟨begun.1.trans_le (Server.save_serial granted).ge, ?_⟩
          by_cases same : y = x
          · subst same
            refine begun.2.save granted fun writes _ holding locks committed _ => ?_
            refine ⟨holding.1.keep locks committed, ?_⟩
            rw [List.dlookup_eq_none]
            intro written
            obtain ⟨entry, member, rfl⟩ := List.mem_map.mp written
            rcases List.mem_append.mp member with new | old
            · exact never _ _ (replaces entry (List.mem_reverse.mp new))
            · exact List.dlookup_eq_none.mp holding.2 (List.mem_map.mpr ⟨entry, old, rfl⟩)
          · obtain ⟨pending, holder⟩ := Server.save_other granted same
            exact begun.2.other Holding.private' pending holder (Server.save_committed granted)
  | claim other row' db event caused replaces granted =>
      exact begun.isolated Holding.private' (Server.save_isolated granted (by simp))

end Begun

namespace Discipline

variable {discipline : Discipline} {α : Type}

theorem stable_begun (own : x.owner = t) (private' : Server.Local x P)
    : discipline.protocol.Stable t (Begun x P) :=
  fun _ _ _ _ relied begun => begun.isolated private' (own ▸ relied.1)

theorem stable_exists (key : Key) : discipline.protocol.Stable t (Exists key) :=
  fun _ _ _ _ relied found => relied.2.1.kept found

/-- A transaction whose body only has to be safe, with what is known when it begins. -/
theorem spec_transaction {body : TxId → Service α} {K L : World → Prop}
    (observable : Observable discipline.inv) (admits : discipline.Admits footprint t)
    (keeps : ∀ world after, discipline.inv world → Effect footprint t world after
      → discipline.allowed t world after
      → Server.Evolves discipline.changes world.db.committed after.db.committed
        ∧ discipline.inv after)
    (stable : discipline.protocol.Stable t K)
    (begins : ∀ world after, K world → discipline.allowed t world after
      → after.db.committed = world.db.committed → L after)
    (runs : ∀ x : TxId, x.owner = t → discipline.protocol.Spec t
      (fun world => Begun x (fun writes _ => writes = []) world ∧ L world) (body x)
      (fun _ _ => True) fun _ _ => True)
    : discipline.protocol.Spec t K (Service.transaction body) (fun _ _ => True)
        fun _ _ => True := by
  refine Protocol.Spec.bind
    (Q := fun x world => x.owner = t ∧ Begun x (fun writes _ => writes = []) world ∧ L world)
    (spec_begin (reading observable) stable (fun world _ given allowed => ⟨rfl, ⟨?_, ?_⟩, ?_⟩)
      fun _ _ _ _ _ => trivial) fun x => ?_
  · simp
  · exact Server.During.begin world.db t
  · exact begins world _ given allowed rfl
  refine Protocol.Spec.assume fun own => ?_
  refine Protocol.Spec.bind (Q := fun _ _ => True)
    (Protocol.Spec.tryCatch (runs x own) fun error => ?_) fun value => ?_
  · exact Protocol.Spec.bind (admits.spec keeps within_rollback) fun _ =>
      Protocol.Spec.throw error fun _ _ _ => trivial
  · exact Protocol.Spec.bind (admits.spec keeps (within_commit own)) fun _ =>
      Protocol.Spec.pure value fun _ _ _ => trivial

/-- The row is there, so SELECT ... FOR UPDATE locks it. -/
theorem spec_lock (observable : Observable discipline.inv) (own : x.owner = t)
    : discipline.protocol.Spec t
        (fun world => Begun x (fun writes _ => writes = []) world ∧ Exists key world)
        (selectForUpdate x key)
        (fun _ => Begun x fun writes server => writes = [] ∧ server.holder key = some x)
        fun _ _ => True := by
  refine spec_selectForUpdate (reading observable) own
    ((stable_begun own (Server.Local.const _)).and (stable_exists key))
    (fun world _ given missing => ?_) (fun world db _ given granted => ?_) fun _ _ _ _ _ _ => trivial
  · simp only [Server.visible, lookup_overlay, Option.or_eq_none_iff] at missing
    have found : (world.db.committed.lookup key).isSome := given.2
    simp [missing.2] at found
  · refine ⟨given.1.1.trans_le (Server.lock_eq_some granted).2.2.2.2.2.ge, ?_⟩
    exact given.1.2.lock granted fun writes unwritten _ _ held => ⟨unwritten, held⟩

/-- What a transaction reads of a row that it has locked. -/
theorem spec_readLocked (observable : Observable discipline.inv) (own : x.owner = t)
    : discipline.protocol.Spec t
        (Begun x fun writes server => writes = [] ∧ server.holder key = some x)
        (findUnique (some x) key) (fun row => Begun x (Holding x key row)) fun _ _ => True := by
  have private' : Server.Local x fun writes (server : Server Row) =>
      writes = [] ∧ server.holder key = some x :=
    (Server.Local.const _).and fun _ _ _ locks _ held => (locks key).mpr held
  refine spec_findUnique (reading observable) (stable_begun own private')
    (fun world _ given _ => ⟨given.1, fun writes opened => ?_⟩) fun _ _ _ _ _ _ => trivial
  obtain ⟨rfl, held⟩ := given.2 writes opened
  exact ⟨⟨held, by simp [Server.visible, opened]⟩, rfl⟩

/-- Steps that do not write a row that the transaction holds. -/
theorem spec_holding {narrow : Footprint} {program : Service α} {Q : α → Prop}
    (own : x.owner = t) (admits : discipline.Admits footprint t)
    (keeps : ∀ world after, discipline.inv world → Effect footprint t world after
      → discipline.allowed t world after
      → Server.Evolves discipline.changes world.db.committed after.db.committed
        ∧ discipline.inv after)
    (never : ∀ old new, ¬narrow.writes key old new)
    (narrower : ∀ key old new, narrow.writes key old new → footprint.writes key old new)
    (events : ∀ event, narrow.events event → footprint.events event)
    (within : Within (Step narrow t) t program Q)
    : discipline.protocol.Spec t (Begun x (Holding x key row)) program
        (fun value world => Q value ∧ Begun x (Holding x key row) world) fun _ _ => True := by
  have respects : discipline.protocol.Respects t (Step narrow t) (Begun x (Holding x key row)) := by
    intro world after inv begun step allowed
    obtain ⟨kept, guaranteed, _⟩ := admits.respects (P := fun _ => True)
      (fun world after holds _ effect allowed =>
        ⟨(keeps world after holds effect allowed).1, (keeps world after holds effect allowed).2,
          trivial⟩) world after inv trivial (step.mono narrower events) allowed
    exact ⟨kept, guaranteed, begun.step step never⟩
  exact (Protocol.Spec.of_within within respects (stable_begun own Holding.private')).conseq
    (fun _ _ given => given) (fun _ _ _ ends => ends) fun _ _ _ _ => trivial

/-- An UPDATE of a row that the transaction holds replaces the row that it has read. -/
theorem spec_updateHeld {old : Row key} {data : Row key → Row key}
    (observable : Observable discipline.inv) (own : x.owner = t)
    (transitive : (discipline.writes t).Transitive)
    (replaces : discipline.writes t key (some old) (data old))
    : discipline.protocol.Spec t (Begun x (Holding x key (some old)))
        (update (some x) key data) (fun _ _ => True) fun _ _ => True := by
  refine spec_statement (reading observable) (stable_begun own Holding.private')
    (fun world result db inv given opened ran _ => ?_) fun _ _ _ _ _ _ => trivial
  obtain ⟨writes, opened⟩ := Option.isSome_iff_exists.mp (opened x rfl).1
  obtain ⟨held, unwritten⟩ := given.2 writes opened
  have seen : (world.db.visible (some x)).lookup key = some old := by
    simp [Server.visible, opened, lookup_overlay, unwritten, held.2]
  rw [seen] at ran
  obtain ⟨after, granted, same⟩ := Option.map_eq_some_iff.mp ran
  obtain ⟨rfl, rfl⟩ := Prod.mk.inj same
  have justified : Server.AllJustified discipline.writes after := by
    refine inv.2.save (own.symm ▸ transitive) (fun entry member => ?_) granted
    obtain rfl := List.mem_singleton.mp member
    rw [own, seen]
    exact replaces
  have unseen := own ▸ Unseen.save granted
  refine ⟨⟨observable.calm unseen.committed rfl inv.1, justified⟩, ⟨unseen.isolated, ?_, ?_⟩, trivial⟩
  · exact Server.Evolves.of_eq unseen.committed
  · exact Grows.refl _ _

end Discipline

end LuminaRail
