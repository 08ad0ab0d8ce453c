import LuminaRail.Payments.Verdicts
import LuminaRail.Webhooks.Deliveries

/-! Whether an event that has been answered as processed has had its effect. The row of the event
lets one handler in; a handler that stops after it has claimed the event and before it has applied
it leaves the row behind, which turns all redeliveries away.
-/

namespace LuminaRail

open Concurrency Database Service Exclusive Sections

/-- The effect of the event is committed: every table but the one of the webhook events is as the
verdict on the payment leaves it.
-/
def EventApplied (paymentId : Id) (payment : Payment) (verdict : PaymentStatus)
    (rows after : AList Row) : Prop :=
  ∀ key : Key, key.lasting
    → after.lookup key = settle payment.orderId paymentId verdict (tableOf rows) key

/-- What is known of the deliveries of an event. -/
structure Handled (provider : Provider) (event : WebhookEventPayload) (paymentId : Id)
    (payment : Payment) (rows : AList Row) (world : World) : Prop where
  one : ∀ u v, .webhookClaimed u provider.providerId event.eventId ∈ world.trace
    → .webhookClaimed v provider.providerId event.eventId ∈ world.trace → u = v
  recorded : (∃ u, .webhookClaimed u provider.providerId event.eventId ∈ world.trace)
    ↔ (world.db.committed.lookup (.webhookEvent provider.providerId event.eventId)).isSome
  untouched : (∀ u, .webhookClaimed u provider.providerId event.eventId ∉ world.trace)
    → Agree Key.lasting rows world.db.committed
  applied : ∀ u, .webhookClaimed u provider.providerId event.eventId ∈ world.trace
    → .webhookAnswered u ∈ world.trace
    → EventApplied paymentId payment event.status rows world.db.committed
  answered : ∀ u, .webhookAnswered u ∈ world.trace
    → ∃ v, .webhookClaimed v provider.providerId event.eventId ∈ world.trace

/-- Whoever claims the event has the turn until it answers. -/
def claiming (provider : Provider) (event : WebhookEventPayload) (paymentId : Id)
    (payment : Payment) (rows : AList Row) : Sections Tid where
  owner := id
  mine t world := .webhookClaimed t provider.providerId event.eventId ∈ world.trace
    ∧ .webhookAnswered t ∉ world.trace
  covers := Key.lasting
  inv := Handled provider event paymentId payment rows

variable {provider : Provider} {event : WebhookEventPayload} {paymentId : Id} {payment : Payment}
  {rows : AList Row} {world after : World} {t : Tid}

/-- Events of other kinds do not matter. -/
theorem Handled.grows (kind : Event → Prop)
    (handled : Handled provider event paymentId payment rows world)
    (committed : after.db.committed = world.db.committed)
    (grows : Grows kind world.trace after.trace)
    (unclaimed : ∀ u, ¬kind (.webhookClaimed u provider.providerId event.eventId))
    (unanswered : ∀ u, ¬kind (.webhookAnswered u))
    : Handled provider event paymentId payment rows after := by
  have claims (u : Tid) : .webhookClaimed u provider.providerId event.eventId ∈ after.trace
      ↔ .webhookClaimed u provider.providerId event.eventId ∈ world.trace :=
    grows.mem_iff (unclaimed u)
  have answers (u : Tid) : .webhookAnswered u ∈ after.trace ↔ .webhookAnswered u ∈ world.trace :=
    grows.mem_iff (unanswered u)
  constructor
  · simpa only [claims] using handled.one
  · simpa only [claims, committed] using handled.recorded
  · simpa only [claims, committed] using handled.untouched
  · simpa only [claims, answers, committed] using handled.applied
  · simpa only [claims, answers] using handled.answered

theorem lawful_claiming : (claiming provider event paymentId payment rows).Lawful where
  observable :=
    { calm := fun _ _ committed trace handled =>
        handled.grows (fun _ => False) committed ⟨[], trace, nofun⟩ (fun _ => id) fun _ => id
      crashed := fun t world handled =>
        handled.grows (· = .crashed t) rfl ⟨[.crashed t], rfl, by simp⟩
          (by simp) (by simp) }
  checked t orderId status next world handled :=
    handled.grows (· = .orderChecked t orderId status next) rfl ⟨[_], rfl, by simp⟩
      (by simp) (by simp)
  still _ _ _ _ _ mine := by simpa [claiming] using mine
  one inv mine mine' := inv.one _ _ mine.1 mine'.1
  held {h t world after} other _ grows mine := by
    refine ⟨grows.mem.mpr (Or.inl mine.1), fun answered => ?_⟩
    rcases grows.mem.mp answered with before | ⟨own, _⟩
    · exact mine.2 before
    · exact other (own h rfl)

/-- The turn of the handler that has claimed the event. -/
def claimed (provider : Provider) (event : WebhookEventPayload) (paymentId : Id)
    (payment : Payment) (rows : AList Row) (t : Tid)
    : Exclusive (claiming provider event paymentId payment rows).protocol t :=
  Sections.exclusive lawful_claiming t (fun _ _ => True) none (fun _ _ _ => trivial)
    (fun mine _ _ => mine) fun {world db} inv mine _ _ frame _ => by
      refine ⟨⟨inv.one, ?_, fun unclaimed => ?_, fun u claims answers => ?_, inv.answered⟩, mine, id⟩
      · have same := frame (.webhookEvent provider.providerId event.eventId) id
        exact ⟨fun some_claim => same ▸ inv.recorded.mp some_claim, fun _ => ⟨t, mine.1⟩⟩
      · exact absurd mine.1 (unclaimed t)
      · exact absurd (inv.one _ _ claims mine.1 ▸ answers) mine.2

/-- The handler has applied the event that it has claimed. -/
def Applying (provider : Provider) (event : WebhookEventPayload) (paymentId : Id)
    (payment : Payment) (rows : AList Row) (t : Tid) (world : World) : Prop :=
  (claiming provider event paymentId payment rows).mine t world
    ∧ EventApplied paymentId payment event.status rows world.db.committed

theorem EventApplied.agree {verdict : PaymentStatus} {before after : AList Row}
    (applied : EventApplied paymentId payment verdict rows before)
    (agree : Agree Key.lasting before after)
    : EventApplied paymentId payment verdict rows after :=
  fun key lasts => (agree key lasts).trans (applied key lasts)

theorem stable_applying
    : (claiming provider event paymentId payment rows).protocol.Stable t
        (Applying provider event paymentId payment rows t) :=
  stable_turn (h := t) rfl fun agree applied => applied.agree agree

/-- A handler that has claimed the event has answered, or the effect is committed. -/
def Honoured (provider : Provider) (event : WebhookEventPayload) (paymentId : Id)
    (payment : Payment) (rows : AList Row) (t : Tid) (world : World) : Prop :=
  .webhookClaimed t provider.providerId event.eventId ∈ world.trace
    → .webhookAnswered t ∈ world.trace
      ∨ EventApplied paymentId payment event.status rows world.db.committed

/-- The others leave the effect in place. -/
theorem Honoured.rely (honoured : Honoured provider event paymentId payment rows t world)
    (relied : (claiming provider event paymentId payment rows).protocol.rely t world after)
    : Honoured provider event paymentId payment rows t after := by
  intro claimed
  have claimed := (relied.2.1.mem_iff (by simp [Event.owner])).mp claimed
  by_cases answered : .webhookAnswered t ∈ world.trace
  · exact Or.inl (relied.2.1.mem.mpr (Or.inl answered))
  · have applied := (honoured claimed).resolve_left answered
    exact Or.inr (applied.agree (relied.2.2.1 t rfl ⟨claimed, answered⟩).2)

/-- The program has not handled the event yet, nor written what an event changes. -/
structure Unhandled (provider : Provider) (event : WebhookEventPayload) (t : Tid) (world : World)
    : Prop where
  unclaimed : .webhookClaimed t provider.providerId event.eventId ∉ world.trace
  unanswered : .webhookAnswered t ∉ world.trace
  unwritten : Covered Key.lasting t world.db

theorem stable_unhandled
    : (claiming provider event paymentId payment rows).protocol.Stable t
        (Unhandled provider event t) := by
  intro world after inv inv' relied given
  exact ⟨stable_notMem rfl world after inv inv' relied given.unclaimed,
    stable_notMem rfl world after inv inv' relied given.unanswered, given.unwritten.stable relied.1⟩

/-- Whoever claims the event knows the committed rows, and whoever does not knows of a claim. -/
def AfterClaim (provider : Provider) (event : WebhookEventPayload) (paymentId : Id)
    (payment : Payment) (rows : AList Row) (t : Tid) : Option WebhookResult → World → Prop
  | none, world =>
      ∃ s : Snapshot, (claimed provider event paymentId payment rows t).At s world
        ∧ s.committed = rows
  | some _, world =>
      .webhookClaimed t provider.providerId event.eventId ∉ world.trace
        ∧ ∃ u, .webhookClaimed u provider.providerId event.eventId ∈ world.trace

section

variable (names : Names provider event paymentId payment rows)
  (allowed : PaymentStateMachine.canTransition payment.status event.status)
include names allowed

omit names allowed in
/-- Either the event is claimed now, or it has been claimed already. -/
theorem spec_claimEvent
    : (claiming provider event paymentId payment rows).protocol.Spec t
        (Unhandled provider event t)
        (WebhookService.claimEvent provider event)
        (AfterClaim provider event paymentId payment rows t)
        fun _ _ => True := by
  refine Protocol.Spec.tryCatch (E := fun error world =>
    .webhookClaimed t provider.providerId event.eventId ∉ world.trace
      ∧ (error.errorCode = "P2002"
        → ∃ u, .webhookClaimed u provider.providerId event.eventId ∈ world.trace))
    (Protocol.Spec.bind (Q := fun _ world => ∃ s : Snapshot,
      (claimed provider event paymentId payment rows t).At s world ∧ s.committed = rows)
      ?_ fun _ => Protocol.Spec.pure none fun _ _ here => here) fun error => ?_
  · refine lawful_claiming.spec_insertOutside stable_unhandled id (by simp [Event.owner])
      (fun _ _ => trivial) (fun {world db} inv given absent committed pending => ?_)
      (fun world inv given present => ⟨given.unclaimed, fun _ => inv.recorded.mpr present⟩)
      fun world text given => ⟨given.unclaimed, by simp⟩
    obtain ⟨_, unanswered, unwritten⟩ := given
    have unclaimed (u : Tid)
        : .webhookClaimed u provider.providerId event.eventId ∉ world.trace := by
      intro claims
      simpa [absent] using inv.recorded.mp ⟨u, claims⟩
    have lasting : Agree Key.lasting rows db.committed := by
      intro key lasts
      have different : key ≠ .webhookEvent provider.providerId event.eventId := by
        rintro rfl
        exact lasts
      rw [committed, AList.lookup_insert_ne different]
      exact inv.untouched unclaimed key lasts
    have mine (u : Tid) : .webhookClaimed u provider.providerId event.eventId
        ∈ .webhookClaimed t provider.providerId event.eventId :: world.trace ↔ u = t := by
      simp [unclaimed u]
    have others (u : Tid) : .webhookAnswered u
        ∈ .webhookClaimed t provider.providerId event.eventId :: world.trace
          ↔ .webhookAnswered u ∈ world.trace := by
      simp
    refine ⟨⟨fun u v claims claims' => ?_, ⟨fun _ => ?_, fun _ => ⟨t, List.mem_cons_self⟩⟩,
      fun none_claims => ?_, fun u claims answers => ?_, fun _ _ => ⟨t, List.mem_cons_self⟩⟩,
      { Snapshot.of t _ with committed := rows },
      At.of ⟨List.mem_cons_self, fun answers => unanswered ((others t).mp answers)⟩ lasting
        (fun x writes own opened => unwritten x writes own (pending ▸ opened))
        fun y keeps => absurd keeps (Option.not_mem_none y), rfl⟩
    · exact ((mine u).mp claims).trans ((mine v).mp claims').symm
    · simp [committed]
    · exact absurd List.mem_cons_self (none_claims t)
    · obtain rfl := (mine u).mp claims
      exact absurd ((others u).mp answers) unanswered
  · split
    · refine Protocol.Spec.bind (Q := fun _ world =>
        .webhookClaimed t provider.providerId event.eventId ∉ world.trace
          ∧ ∃ u, .webhookClaimed u provider.providerId event.eventId ∈ world.trace)
        ?_ fun existing => ?_
      · refine (spec_findUnique lawful_claiming.transactional.reading
          ((stable_notMem rfl).and (Protocol.Stable.exists fun u => stable_mem _))
          (fun _ _ given _ => given) fun _ _ _ _ _ _ => trivial).pre fun world _ given => ?_
        exact ⟨given.1, given.2 ‹_›⟩
      · split
        · exact Protocol.Spec.pure _ fun _ _ given => given
        · exact Protocol.Spec.pure _ fun _ _ given => given
    · exact Protocol.Spec.throw error fun _ _ _ => trivial

/-- A handler that answers has applied the event or has found that it is claimed. -/
theorem spec_handleEvent
    : (claiming provider event paymentId payment rows).protocol.Spec t
        (Unhandled provider event t)
        (WebhookService.handleEvent provider event)
        (fun _ world => (.webhookClaimed t provider.providerId event.eventId ∉ world.trace
            ∧ ∃ u, .webhookClaimed u provider.providerId event.eventId ∈ world.trace)
          ∨ Applying provider event paymentId payment rows t world)
        fun _ _ => True := by
  refine Protocol.Spec.bind spec_claimEvent fun duplicate => ?_
  cases duplicate with
  | some duplicate => exact Protocol.Spec.pure _ fun _ _ given => Or.inl given
  | none =>
      refine Protocol.Spec.bind
        (Q := fun _ => Applying provider event paymentId payment rows t) ?_ fun _ => ?_
      · refine Protocol.Spec.of_safe fun world inv given => ?_
        obtain ⟨s, here, rfl⟩ := given
        refine Protocol.Spec.safe ((yields_applyEvent (fun _ => id) (fun _ _ _ => trivial)
          (fun _ _ _ => trivial) names allowed rfl).conseq (fun _ _ here => here)
          (fun _ world _ given => ?_) fun _ _ _ _ => trivial) inv here
        obtain ⟨last, there, settled⟩ := given
        exact ⟨there.mine, fun key lasts => (there.committed key lasts).trans (congrFun settled key)⟩
      have stable : (claiming provider event paymentId payment rows).protocol.Stable t
          (Applying provider event paymentId payment rows t) := stable_applying
      refine Protocol.Spec.bind (Q := fun _ => Applying provider event paymentId payment rows t)
        (spec_now lawful_claiming.transactional.reading stable fun _ _ given => given) fun time => ?_
      refine Protocol.Spec.bind (Q := fun _ => Applying provider event paymentId payment rows t)
        (lawful_claiming.spec_updateOutside stable id (fun _ _ => trivial)
          (fun {world db row} inv given found committed => ?_) fun _ _ _ => trivial)
        fun _ => Protocol.Spec.pure _ fun _ _ given => Or.inr given
      have agree : Agree Key.lasting world.db.committed db.committed := by
        intro key lasts
        have different : key ≠ .webhookEvent provider.providerId event.eventId := by
          rintro rfl
          exact lasts
        rw [committed, AList.lookup_insert_ne different]
      refine ⟨⟨inv.one, ⟨fun _ => by simp [committed], fun _ => ⟨t, given.1.1⟩⟩,
        fun unclaimed => absurd given.1.1 (unclaimed t), fun u claims answers => ?_, inv.answered⟩,
        given.1, given.2.agree agree⟩
      exact (inv.applied u claims answers).agree agree

/-- Processing a delivery of the event is safe. -/
theorem safe_process {crypto : Crypto} {config : Config} {delivery : Delivery}
    (carries : delivery.Carries crypto config provider (· = event)) {world : World}
    (inv : Handled provider event paymentId payment rows world)
    (fresh : Unhandled provider event t world)
    : (claiming provider event paymentId payment rows).protocol.Safe t (fun _ _ => True)
        (delivery.process crypto config).thread world := by
  have unowned {before after : World} (same : after.db = before.db)
      (grows : Grows (fun event => event.owner = none) before.trace after.trace)
      (inv : Handled provider event paymentId payment rows before)
      : Handled provider event paymentId payment rows after :=
    inv.grows _ (congrArg _ same) grows (by simp [Event.owner]) (by simp [Event.owner])
  have quiet {before after : World} (same : after.db = before.db)
      (grows : Grows (fun event => event.owner = none) before.trace after.trace)
      (given : Unhandled provider event t before)
      : Unhandled provider event t after :=
    ⟨mt (grows.mem_iff (by simp [Event.owner])).mp given.unclaimed,
      mt (grows.mem_iff (by simp [Event.owner])).mp given.unanswered, same ▸ given.unwritten⟩
  have absent : (claiming provider event paymentId payment rows).protocol.Stable t
      fun world => .webhookClaimed t provider.providerId event.eventId ∉ world.trace :=
    stable_notMem rfl
  have answering := (absent.and (Protocol.Stable.exists fun u => stable_mem
    (.webhookClaimed u provider.providerId event.eventId))).or stable_applying
  refine Service.thread_safe (Delivery.spec_process lawful_claiming stable_unhandled unowned quiet carries
    (F := fun _ => True) (fun other same => ?_) (fun _ _ => trivial) answering
    (Protocol.Stable.const True) (fun world inv given => ?_) fun world inv _ => ?_) inv fresh
  · rw [show other = event from same]
    exact spec_handleEvent names allowed
  · have claims (u : Tid) : .webhookClaimed u provider.providerId event.eventId
        ∈ .webhookAnswered t :: world.trace
          ↔ .webhookClaimed u provider.providerId event.eventId ∈ world.trace := by
      simp
    refine ⟨?_, ?_, ?_, fun u claimed answered => ?_, fun u answered => ?_⟩
    · simpa only [claims] using inv.one
    · simpa only [claims] using inv.recorded
    · simpa only [claims] using inv.untouched
    · rw [claims] at claimed
      rcases List.mem_cons.mp answered with same | before
      · obtain rfl : u = t := by simpa using same
        exact given.elim (fun other => absurd claimed other.1) And.right
      · exact inv.applied u claimed before
    · simp only [claims]
      rcases given with ⟨_, claimed⟩ | applying
      · exact claimed
      · exact ⟨t, applying.1.1⟩
  · exact inv.grows (· = .webhookFailed t) rfl
      ⟨[.webhookFailed t], rfl, by simp⟩ (by simp) (by simp)

/-- However deliveries of an event interleave, fail and crash: as long as no handler that has
claimed the event stops before the effect is committed, an answer means that the effect is
committed or that the handler that has claimed the event still runs, and whenever that one
answers, the effect is committed. By the invariant that a claimed event is handled by its
claimant.
-/
theorem webhook_not_lost {crypto : Crypto} {config : Config} {deliveries : Tid → Option Delivery}
    {mayExpire : (Tid → Bool) → World → String → Bool} {pool : Pool World Input}
    (carries : ∀ t delivery, deliveries t = some delivery
      → delivery.Carries crypto config provider (· = event))
    (new : rows.lookup (.webhookEvent provider.providerId event.eventId) = none)
    (steps : Steps (machine mayExpire) (fun before after => ∀ t, before.live t → after.live t = false
        → Honoured provider event paymentId payment rows t after.state)
      ⟨World.start rows, processing crypto config deliveries⟩ pool)
    : (∀ t, .webhookAnswered t ∈ pool.state.trace
        → EventApplied paymentId payment event.status rows pool.state.db.committed
          ∨ ∃ u, .webhookClaimed u provider.providerId event.eventId ∈ pool.state.trace ∧ pool.live u)
      ∧ ∀ u, .webhookClaimed u provider.providerId event.eventId ∈ pool.state.trace
        → .webhookAnswered u ∈ pool.state.trace
        → EventApplied paymentId payment event.status rows pool.state.db.committed := by
  have start : Handled provider event paymentId payment rows (World.start rows) := by
    refine ⟨nofun, ⟨nofun, fun present => ?_⟩, fun _ _ _ => rfl, nofun, nofun⟩
    simp [World.start, Server.start, new] at present
  have fits : (machine mayExpire).Fits (claiming provider event paymentId payment rows).protocol := by
    refine lawful_claiming.fits (fun happened => ?_) fun _ _ => rfl
    obtain ⟨rfl, _⟩ := machine_env happened
    exact ⟨rfl, fun h mine => by simpa only [claiming, Chance.apply_trace] using mine⟩
  have safe (t : Tid) : (claiming provider event paymentId payment rows).protocol.Safe t
      (fun _ _ => True) (processing crypto config deliveries t) (World.start rows) := by
    unfold processing
    split
    · exact Protocol.Safe.done trivial
    · rename_i delivery found
      exact safe_process names allowed (carries t delivery found) start
        ⟨nofun, nofun, nofun⟩
  have calm {t : Tid} {live : Tid → Bool} {before after : World} {chance : Chance}
      (happened : (machine mayExpire).env live before chance = some after)
      (honoured : Honoured provider event paymentId payment rows t before)
      : Honoured provider event paymentId payment rows t after := by
    obtain ⟨rfl, _⟩ := machine_env happened
    simpa only [Honoured, Chance.apply_trace, Chance.apply_committed] using honoured
  obtain ⟨verified, ended⟩ := Steps.ended (R := Honoured provider event paymentId payment rows)
    fits (fun _ _ _ => trivial)
    (fun relied honoured => Honoured.rely honoured relied) calm
    (fun {_ _ t} honours alive ended => honours t alive ended) steps ⟨start, fun t _ => safe t⟩
    fun _ _ => nofun
  have inv := verified.inv
  refine ⟨fun t answered => ?_, inv.applied⟩
  obtain ⟨u, claimed⟩ := inv.answered t answered
  by_cases running : pool.live u = true
  · exact Or.inr ⟨u, claimed, running⟩
  · rcases ended u (Bool.eq_false_iff.mpr running) claimed with answers | applied
    · exact Or.inl (inv.applied u claimed answers)
    · exact Or.inl applied

end

/-- The first handler crashes right after it has claimed the event. The second answers that the
event is being processed, nobody is left to do so, and the payment stays PENDING.
-/
theorem crashed_handler_loses_event
    : ∃ pool, AnyRun (machine anyExpiry)
        ⟨World.start (awaitingPayment none), processing plainCrypto paystackConfig deliveredTwice⟩
          pool
        ∧ .webhookAnswered 1 ∈ pool.state.trace ∧ statusOfPayment pool.state = some .PENDING
        ∧ pool.live 0 = false ∧ pool.live 1 = false := by
  have went : (Pool.schedule (machine anyExpiry)
      ⟨World.start (awaitingPayment none), processing plainCrypto paystackConfig deliveredTwice⟩
      [.run 0 {}, .run 0 {}, .crash 0, .run 1 {}, .run 1 {}, .run 1 {}, .run 1 {}]).map
        (fun pool => (decide (Event.webhookAnswered 1 ∈ pool.state.trace),
          statusOfPayment pool.state, pool.live 0, pool.live 1))
      = some (true, some .PENDING, false, false) := by
    decide +kernel
  obtain ⟨pool, reached, seen⟩ := AnyRun.of_schedule_map went
  simp only [Prod.mk.injEq, decide_eq_true_eq] at seen
  exact ⟨pool, reached, seen⟩

/-- Only the first handler moves, and if it ends, it has answered. -/
def firstAnswers (before : Pool World Input) (move : Move Input Chance) (after : Pool World Input)
    : Bool :=
  match move with
  | .run 0 _ =>
      !before.live 0 || after.live 0 || decide (Event.webhookAnswered 0 ∈ after.state.trace)
  | _ => false

theorem honoured_of_firstAnswers {before after : Pool World Input} {move : Move Input Chance}
    (moved : before.move (machine anyExpiry) move = some after)
    (passes : firstAnswers before move after = true) (t : Tid) (alive : before.live t)
    (ended : after.live t = false)
    : Honoured provider event paymentId payment rows t after.state := by
  unfold firstAnswers at passes
  split at passes
  · obtain ⟨β, act, next, value, _, _, threads⟩ := Pool.move_run moved
    by_cases first : t = 0
    · subst first
      simp only [alive, ended, Bool.not_true, Bool.false_or, decide_eq_true_eq] at passes
      exact fun _ => Or.inl passes
    · have same : after.live t = before.live t := by simp [Pool.live, threads, first]
      simp [same, alive] at ended
  · simp at passes

/-- A handler that is left alone applies the event. -/
theorem webhook_not_lost_alone
    : ∃ pool, AnyRun (machine anyExpiry)
        ⟨World.start (awaitingPayment none), processing plainCrypto paystackConfig deliveredTwice⟩
          pool
        ∧ .webhookAnswered 0 ∈ pool.state.trace
        ∧ EventApplied "payment" paidThroughPaystack .SUCCEEDED (awaitingPayment none)
            pool.state.db.committed := by
  have went : (Pool.scheduleWhere (machine anyExpiry) firstAnswers
      ⟨World.start (awaitingPayment none), processing plainCrypto paystackConfig deliveredTwice⟩
      (List.replicate 18 (.run 0 {}))).map (fun pool => pool.state.trace)
      = some [.webhookAnswered 0, .orderChecked 0 "order" .AWAITING_PAYMENT .PAYMENT_CONFIRMED,
          .webhookClaimed 0 "PAYSTACK_NGN_BANK_TRANSFER" "evt_1", .paymentReported "PAY_1"] := by
    decide +kernel
  obtain ⟨pool, went, seen⟩ := Option.map_eq_some_iff.mp went
  have carries (t : Tid) (delivery : Delivery) (given : deliveredTwice t = some delivery)
      : delivery.Carries plainCrypto paystackConfig .PAYSTACK_NGN_BANK_TRANSFER
          (· = parsePaystackEvent plainCrypto chargeSuccess.body) := by
    unfold deliveredTwice at given
    split at given
    · obtain rfl := Option.some.inj given
      exact ⟨by decide +kernel, fun _ => rfl⟩
    · simp at given
  have names : Names .PAYSTACK_NGN_BANK_TRANSFER (parsePaystackEvent plainCrypto chargeSuccess.body)
      "payment" paidThroughPaystack (awaitingPayment none) :=
    ⟨by decide, rfl, "PAY_1", by decide +kernel, by decide, by decide +kernel⟩
  have steps : Steps (machine anyExpiry) (fun before after => ∀ t, before.live t
      → after.live t = false → Honoured .PAYSTACK_NGN_BANK_TRANSFER
        (parsePaystackEvent plainCrypto chargeSuccess.body) "payment" paidThroughPaystack
        (awaitingPayment none) t after.state) _ pool :=
    Steps.of_schedule (fun moved passes => honoured_of_firstAnswers moved passes) went
  have applied := (webhook_not_lost names (by decide +kernel) carries (by decide +kernel) steps).2 0
  exact ⟨pool, steps.run, by simp [seen], applied (by rw [seen]; decide +kernel) (by simp [seen])⟩

end LuminaRail
