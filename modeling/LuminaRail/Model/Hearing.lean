import LuminaRail.Model.Endings

/-! How a service that runs alone ends, together with the events of some kind that have been observed
by then. So what it returns can be related to what it was answered on the way.
-/

namespace LuminaRail

open Concurrency Database Service Exclusive

/-- A service that may write anything and causes no event of the kind. -/
def unheard (kind : Event → Bool) : Footprint := ⟨fun _ _ _ => True, fun event => kind event = false⟩

/-- From the snapshot, after these events of the kind, the service returns as described, or throws
as described.
-/
def Hears {α : Type} (kind : Event → Bool) (t : Tid) (s : Snapshot) (heard : List Event)
    (service : Service α) (Q : α → Snapshot → List Event → Prop)
    (F : AppError → Snapshot → List Event → Prop) : Prop :=
  (Protocol.alone t).Spec t
    (fun world => (exclusiveAlone t).At s world ∧ world.trace.filter kind = heard) service
    (fun value world => ∃ last, (exclusiveAlone t).At last world
      ∧ Q value last (world.trace.filter kind))
    fun error world => ∃ last, (exclusiveAlone t).At last world
      ∧ F error last (world.trace.filter kind)

theorem Grows.filter_eq {kind : Event → Bool} {before after : List Event}
    (grows : Grows (unheard kind).events before after)
    : after.filter kind = before.filter kind := by
  obtain ⟨events, rfl, quiet⟩ := grows
  have dropped : events.filter kind = [] :=
    List.filter_eq_nil_iff.mpr fun event member => by
      simp [show kind event = false from quiet event member]
  rw [List.filter_append, dropped, List.nil_append]

namespace Hears

variable {α β : Type} {kind : Event → Bool} {t : Tid} {s : Snapshot} {heard : List Event}
  {Q Q' : α → Snapshot → List Event → Prop} {F F' : AppError → Snapshot → List Event → Prop}

theorem mono {service : Service α} (hears : Hears kind t s heard service Q F)
    (weaker : ∀ value last heard, Q value last heard → Q' value last heard)
    (throws : ∀ error last heard, F error last heard → F' error last heard)
    : Hears kind t s heard service Q' F' := by
  refine Protocol.Spec.conseq hears (fun _ _ here => here) (fun value world _ ended => ?_)
    fun error world _ ended => ?_
  · exact ended.imp fun last holds => ⟨holds.1, weaker value last _ holds.2⟩
  · exact ended.imp fun last holds => ⟨holds.1, throws error last _ holds.2⟩

/-- A silent service ends as it does anyway, and nothing has been heard. -/
theorem of_ends {service : Service α} {R : α → Snapshot → Prop} {G : AppError → Snapshot → Prop}
    {W : α → Prop} (ends : Ends t s service R G)
    (quiet : Within (Step (unheard kind) t) t service W)
    : Hears kind t s heard service (fun value last now => (R value last ∧ W value) ∧ now = heard)
        fun error last now => G error last ∧ now = heard := by
  have respects : (Protocol.alone t).Respects t (Step (unheard kind) t)
      fun world : World => world.trace.filter kind = heard :=
    fun _ _ _ before step _ =>
      ⟨trivial, fun other => absurd rfl other, step.grows.filter_eq.trans before⟩
  have still := Protocol.Spec.of_within quiet respects fun _ _ _ _ same before => same rfl ▸ before
  refine ((ends.pre fun _ _ given => given.1).and (still.pre fun _ _ given => given.2)).conseq
    (fun _ _ given => given) (fun value world _ ended => ?_) fun error world _ ended => ?_
  · exact ended.1.imp fun last holds => ⟨holds.1, ⟨holds.2, ended.2.1⟩, ended.2.2⟩
  · exact ended.1.imp fun last holds => ⟨holds.1, holds.2, ended.2⟩

theorem of_stays {service : Service α} {W : α → Prop} (stays : Stays t s service)
    (quiet : Within (Step (unheard kind) t) t service W)
    : Hears kind t s heard service (fun value last now => (last = s ∧ W value) ∧ now = heard)
        fun _ last now => last = s ∧ now = heard :=
  of_ends (Ends.of_stays stays) quiet

theorem pure {value : α} (holds : Q value s heard) : Hears kind t s heard (pure value) Q F :=
  Protocol.Spec.pure value fun _ _ here => ⟨s, here.1, here.2 ▸ holds⟩

/-- A silent service of which only is known what it returns. -/
theorem of_yields {service : Service α} {R : α → Snapshot → Prop} {W : α → Prop}
    (yields : (exclusiveAlone t).Yields s service R)
    (quiet : Within (Step (unheard kind) t) t service W)
    : Hears kind t s heard service (fun value last now => R value last ∧ now = heard)
        fun _ _ _ => True := by
  refine (of_ends (G := fun _ _ => True) ?_ quiet).mono
    (fun _ _ _ given => given.imp_left And.left) fun _ _ _ _ => trivial
  exact Protocol.Spec.conseq yields (fun _ _ here => here) (fun _ _ _ ended => ended)
    fun _ world _ _ => ⟨.of t world, at_alone t world, trivial⟩

theorem throw {error : AppError} (holds : F error s heard)
    : Hears kind t s heard (throw error : Service α) Q F :=
  Protocol.Spec.throw error fun _ _ here => ⟨s, here.1, here.2 ▸ holds⟩

theorem bind {first : Service β} {rest : β → Service α} {R : β → Snapshot → List Event → Prop}
    (hears : Hears kind t s heard first R F)
    (later : ∀ value next now, R value next now → Hears kind t next now (rest value) Q F)
    : Hears kind t s heard (first >>= rest) Q F := by
  refine Protocol.Spec.bind hears fun value => Protocol.Spec.of_safe fun world inv given => ?_
  obtain ⟨next, there, holds⟩ := given
  exact (later value next _ holds).safe inv ⟨there, rfl⟩

/-- What follows a silent service. -/
theorem after {first : Service β} {rest : β → Service α} {R : β → Snapshot → Prop}
    {G : AppError → Snapshot → Prop} {W : β → Prop} (ends : Ends t s first R G)
    (quiet : Within (Step (unheard kind) t) t first W)
    (throws : ∀ error last, G error last → F error last heard)
    (later : ∀ value next, R value next → Hears kind t next heard (rest value) Q F)
    : Hears kind t s heard (first >>= rest) Q F := by
  refine bind ((of_ends ends quiet).mono (fun _ _ _ given => given)
    fun error last now failed => failed.2 ▸ throws error last failed.1) fun value next now given => ?_
  obtain ⟨⟨holds, _⟩, rfl⟩ := given
  exact later value next holds

/-- What follows a silent service, if nothing needs to be known of failures. -/
theorem follow {first : Service β} {rest : β → Service α} {R : β → Snapshot → Prop}
    {W : β → Prop} (yields : (exclusiveAlone t).Yields s first R)
    (quiet : Within (Step (unheard kind) t) t first W)
    (later : ∀ value next, R value next
      → Hears kind t next heard (rest value) Q fun _ _ _ => True)
    : Hears kind t s heard (first >>= rest) Q fun _ _ _ => True := by
  refine bind (of_yields yields quiet) fun value next now given => ?_
  obtain ⟨holds, rfl⟩ := given
  exact later value next holds

theorem map {service : Service β} {f : β → α}
    (hears : Hears kind t s heard service (fun value => Q (f value)) F)
    : Hears kind t s heard (f <$> service) Q F :=
  Protocol.Spec.map hears

theorem tryCatch {body : Service α} {handler : AppError → Service α}
    (hears : Hears kind t s heard body Q F)
    (handled : ∀ error next now, F error next now → Hears kind t next now (handler error) Q F')
    : Hears kind t s heard (tryCatch body handler) Q F' := by
  refine Protocol.Spec.tryCatch hears fun error => Protocol.Spec.of_safe fun world inv given => ?_
  obtain ⟨next, there, holds⟩ := given
  exact (handled error next _ holds).safe inv ⟨there, rfl⟩

/-- An event of the kind is heard. -/
theorem emit {event : Tid → Event} (audible : kind (event t) = true)
    : Hears kind t s heard (emit event) (fun _ last now => last = s ∧ now = event t :: heard) F := by
  refine Protocol.Spec.action (fun _ _ _ _ same given => same rfl ▸ given)
    fun world input result after _ given acted _ => ?_
  obtain ⟨rfl, rfl⟩ := Prod.mk.inj (Option.some.inj acted)
  refine ⟨trivial, fun other => absurd rfl other, s, ?_, rfl, ?_⟩
  · exact ⟨trivial, fun _ _ _ _ _ _ => trivial, given.1.pending, given.1.old, given.1.committed,
      nofun⟩
  · simp [audible, given.2]

/-- An external service is heard. -/
theorem external {answer : Input → Option (Except AppError α × List Event)}
    (value : ∀ input value events, answer input = some (.ok value, events)
      → Q value s (events.filter kind ++ heard))
    (error : ∀ input error events, answer input = some (.error error, events)
      → F error s (events.filter kind ++ heard))
    : Hears kind t s heard (external answer) Q F := by
  refine Protocol.Spec.action (fun _ _ _ _ same given => same rfl ▸ given)
    fun world input result after _ given acted _ => ?_
  obtain ⟨⟨replied, events⟩, replies, same⟩ := Option.map_eq_some_iff.mp acted
  obtain ⟨rfl, rfl⟩ := Prod.mk.inj same
  have there : (exclusiveAlone t).At s { world with trace := events ++ world.trace } :=
    ⟨trivial, fun _ _ _ _ _ _ => trivial, given.1.pending, given.1.old, given.1.committed, nofun⟩
  refine ⟨trivial, fun other => absurd rfl other, ?_⟩
  cases replied with
  | ok replied =>
      refine ⟨s, there, ?_⟩
      rw [List.filter_append, given.2]
      exact value input replied events replies
  | error failed =>
      refine ⟨s, there, ?_⟩
      rw [List.filter_append, given.2]
      exact error input failed events replies

/-- A silent cleanup that always succeeds and leaves the database alone. -/
theorem finally' {body : Service α} {cleanup : Service Unit} (hears : Hears kind t s heard body Q F)
    (cleans : ∀ s, Ends t s cleanup (fun _ last => last = s) fun _ _ => False)
    (quiet : Within (Step (unheard kind) t) t cleanup)
    : Hears kind t s heard (finally' body cleanup) Q F := by
  have caught : Hears kind t s heard
      (MonadExcept.tryCatch (Except.ok <$> body) fun error => Pure.pure (.error error) : Service _)
      (fun result last now => Protocol.outcome (fun value last => Q value last now)
        (fun error last => F error last now) result last) F :=
    tryCatch (map (f := Except.ok) hears) fun error next now fails => pure fails
  refine bind caught fun result next now holds => ?_
  refine after (cleans next) quiet (fun _ _ => False.elim) fun _ last same => ?_
  subst same
  cases result with
  | ok value => exact pure holds
  | error error => exact throw holds

/-- A transaction commits what its body has written, or it is rolled back. -/
theorem transaction {body : TxId → Service α} {R : TxId → α → Snapshot → List Event → Prop}
    {G : TxId → AppError → Snapshot → List Event → Prop}
    (runs : ∀ x, x.owner = t → s.pending x = none
      → Hears kind t (s.begin x) heard (body x) (R x) (G x))
    (commits : ∀ x value last now, s.pending x = none → R x value last now
      → Q value (last.commit x) now)
    (fails : ∀ x error last now, s.pending x = none → G x error last now
      → F error (last.rollback x) now)
    (unopened : ∀ error, error.Unavailable → F error s heard)
    (uncommitted : ∀ x value error last now, s.pending x = none → R x value last now
      → error.Unavailable → F error (last.rollback x) now)
    : Hears kind t s heard (Service.transaction body) Q F := by
  refine after Ends.begin within_begin (fun error last interrupted =>
    interrupted.2 ▸ unopened error interrupted.1) fun x next given => ?_
  obtain ⟨own, new, rfl⟩ := given
  refine bind (R := R x) (tryCatch (runs x own new) fun error last now failed => ?_)
    fun value last now held => ?_
  · refine after (Ends.rollback (F := fun _ _ => False) own) within_rollback (fun _ _ => False.elim)
      fun _ next same => ?_
    subst same
    exact throw (fails x error _ now new failed)
  · refine after (Ends.commit own) (within_commit own) (fun error ended interrupted =>
      interrupted.2 ▸ uncommitted x value error last now new held interrupted.1) fun _ ended same => ?_
    subst same
    exact pure (commits x value last now new held)

/-- How a lone run of the service ends, and what has been heard by then. -/
theorem alone {service : Service α} {world last : World} {result : Except AppError α}
    (hears : Hears kind t (.of t world) (world.trace.filter kind) service Q F)
    (run : Program.Alone t service.run world result last)
    : ∃ snapshot, (exclusiveAlone t).At snapshot last
      ∧ Protocol.outcome (fun value snapshot => Q value snapshot (last.trace.filter kind))
        (fun error snapshot => F error snapshot (last.trace.filter kind)) result snapshot := by
  have ended := Protocol.Spec.of_alone hears ⟨at_alone t world, rfl⟩ run
  cases result with
  | ok value => exact ended
  | error error => exact ended

end Hears

end LuminaRail
