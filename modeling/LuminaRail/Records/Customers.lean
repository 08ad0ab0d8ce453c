import LuminaRail.Records.Runs

/-! Whose records a request changes. A user is refused what belongs to somebody else, and what the
request reads on the way still belongs to the same customer when it writes.
-/

namespace LuminaRail

open Concurrency Database Service

/-- The record names the customer. -/
def NamedBy (user : Id) : (key : Key) → Row key → Prop
  | .order _, (order : Order) => order.userId = user
  | .payment _, (payment : Payment) => payment.userId = user
  | .settlement _, (settlement : Settlement) => settlement.userId = user
  | .refund _, (refund : Refund) => refund.userId = user
  | _, _ => False

/-- A reservation belongs to the customer of its order, the record of a provider to the customer of
its payment.
-/
def HeldFor (rows : AList Row) (user : Id) : Key → Prop
  | .liquidityReservation orderId =>
      ∃ order : Order, rows.lookup (.order orderId) = some order ∧ order.userId = user
  | .providerTransaction paymentId =>
      ∃ payment : Payment, rows.lookup (.payment paymentId) = some payment ∧ payment.userId = user
  | _ => False

theorem Order.userId_of_terms {id : Id} {order later : Order}
    (same : OfSameTerms (.order id) order later)
    : later.userId = order.userId := by
  have terms : Order.terms later = Order.terms order := same
  simp only [Order.terms, Order.mk.injEq] at terms
  exact terms.1

theorem Payment.userId_of_terms {id : Id} {payment later : Payment}
    (same : OfSameTerms (.payment id) payment later)
    : later.userId = payment.userId ∧ later.orderId = payment.orderId := by
  have terms : Payment.terms later = Payment.terms payment := same
  simp only [Payment.terms, Payment.mk.injEq] at terms
  exact ⟨terms.2.1, terms.1⟩

section

variable {deployment : Deployment} {calls : Tid → SystemCall} {rows : AList Row}
  {pool next : Pool World Input} {t : Tid} {input : Input}

namespace Foresight

variable {last : Pool World Input} {actsFor : Tid → Id → Prop}

/-- Every order that is known under one name is the same customer's. -/
theorem actsFor_order {id : Id} {order : Order}
    (own : (hindsight deployment calls rows last actsFor).OwnOrder t id)
    (known : (hindsight deployment calls rows last actsFor).known (.order id) order)
    : actsFor t order.userId := by
  obtain all | ⟨other, ⟨later, found, same⟩, acts⟩ := own
  · exact all _
  · obtain ⟨later', found', same'⟩ := known
    obtain rfl := Option.some.inj (found.symm.trans found')
    rw [← Order.userId_of_terms same', Order.userId_of_terms same]
    exact acts

theorem actsFor_payment {id : Id} {payment : Payment}
    (own : (hindsight deployment calls rows last actsFor).OwnPayment t id)
    (known : (hindsight deployment calls rows last actsFor).known (.payment id) payment)
    : actsFor t payment.userId := by
  obtain all | ⟨other, ⟨later, found, same⟩, acts⟩ := own
  · exact all _
  · obtain ⟨later', found', same'⟩ := known
    obtain rfl := Option.some.inj (found.symm.trans found')
    rw [← (Payment.userId_of_terms same').1, (Payment.userId_of_terms same).1]
    exact acts

theorem actsFor_refund {id : Id} {refund : Refund}
    (own : (hindsight deployment calls rows last actsFor).OwnRefund t id)
    (known : (hindsight deployment calls rows last actsFor).known (.refund id) refund)
    : actsFor t refund.userId := by
  obtain all | ⟨other, ⟨later, found, same⟩, acts⟩ := own
  · exact all _
  · obtain ⟨later', found', same'⟩ := known
    obtain rfl := Option.some.inj (found.symm.trans found')
    have request : other.SameRequest later := same
    have request' : refund.SameRequest later := same'
    rw [← request'.userId, request.userId]
    exact acts

/-- In a linked database what refers to an own record is an own one. -/
theorem paired_of_linked (linked : AllLinked deployment.quotes last.state.db.committed)
    : (hindsight deployment calls rows last actsFor).Paired t where
  payment known own := by
    obtain ⟨later, found, same⟩ := known
    obtain ⟨order, ordered, user, _⟩ := linked _ later found
    have acts := actsFor_payment own ⟨later, found, OfSameTerms.refl _ _⟩
    rw [(Payment.userId_of_terms same).2] at ordered
    exact Or.inr ⟨order, ⟨order, ordered, OfSameTerms.refl _ _⟩, user ▸ acts⟩
  refund known own := by
    obtain ⟨later, found, same⟩ := known
    obtain ⟨order, ordered, user, paymentId, payment, chosen, paid, of_order⟩ :=
      linked _ later found
    have acts := actsFor_refund own ⟨later, found, OfSameTerms.refl _ _⟩
    have request : Refund.SameRequest _ later := same
    rw [request.orderId] at ordered of_order
    rw [request.paymentId] at chosen
    refine ⟨Or.inr ⟨order, ⟨order, ordered, OfSameTerms.refl _ _⟩, user ▸ acts⟩, fun id given => ?_⟩
    obtain rfl := Option.some.inj (chosen.symm.trans given)
    obtain ⟨order', ordered', user', _⟩ := linked (.payment paymentId) payment paid
    rw [of_order] at ordered'
    obtain rfl := Option.some.inj (ordered.symm.trans ordered')
    exact Or.inr ⟨payment, ⟨payment, paid, OfSameTerms.refl _ _⟩, by rw [user', ← user]; exact acts⟩

/-- Whoever replaces a record acts for the customer that it names. -/
theorem WritesBy.actsFor_named {key : Key} {old : Option (Row key)} {new : Row key} {user : Id}
    (written : (hindsight deployment calls rows last actsFor).WritesBy t key old new)
    (linked : AllLinked deployment.quotes last.state.db.committed)
    (stored : last.state.db.committed.lookup key = some new) (named : NamedBy user key new)
    : actsFor t user := by
  have known : (hindsight deployment calls rows last actsFor).known key new :=
    ⟨new, stored, OfSameTerms.refl key new⟩
  cases old with
  | none =>
      have makes := written.makes rfl
      cases key with
      | order id => exact named ▸ makes
      | payment id => exact named ▸ makes
      | settlement id => exact named ▸ makes
      | refund id => exact named ▸ makes
      | _ => exact named.elim
  | some row =>
      have own := written.changes rfl
      cases key with
      | order id => exact named ▸ actsFor_order own known
      | payment id => exact named ▸ actsFor_payment own known
      | refund id => exact named ▸ actsFor_refund own known
      | settlement id =>
          obtain ⟨order, ordered, for_user, _⟩ := linked _ new stored
          have acts := actsFor_order own ⟨order, ordered, OfSameTerms.refl _ _⟩
          exact named ▸ for_user ▸ acts
      | _ => exact named.elim

end Foresight

/-- Whatever calls run, in whatever order they act, fail and crash: an action of a call that is
not made for a customer neither changes nor makes an order, a payment, a settlement or a refund
in his name, and leaves the reservations of his orders and the records of his payments as they
are. By what the call of a step may write, as it is known in hindsight.
-/
theorem strangers_leave_records_alone (linked : AllLinked deployment.quotes rows)
    (reached : AnyRun (machine anyExpiry) (startOf deployment calls rows) pool)
    (moved : pool.move (machine anyExpiry) (.run t input) = some next) {user : Id}
    (stranger : ¬(calls t).actsFor user)
    : (∀ key row, next.state.db.committed.lookup key = some row → NamedBy user key row
        → pool.state.db.committed.lookup key = some row)
      ∧ ∀ key row, pool.state.db.committed.lookup key = some row
        → HeldFor pool.state.db.committed user key
        → next.state.db.committed.lookup key = some row := by
  have onward : AnyRun (machine anyExpiry) pool next :=
    .step (.refl pool) (.run t input) moved fun _ _ _ => trivial
  have linked_next := linked.after_run (reached.trans onward)
  have kept {key : Key} {row : Row key} (found : pool.state.db.committed.lookup key = some row) :=
    Foresight.kept_terms (Run.terms reached onward).1 found
  have verified := Run.accountable (fun _ => Foresight.paired_of_linked linked_next)
    (fun _ _ => id) reached onward
  have written := Discipline.answers_for verified moved
    (Run.foretells (reached.trans onward) (.refl next))
  refine ⟨fun key row stored named => ?_, fun key row stored held => ?_⟩
  · rcases written.rows stored with same | replaced
    · exact same
    · exact absurd (replaced.actsFor_named linked_next stored named) stranger
  · have present : (pool.state.db.committed.lookup key).isSome := by simp [stored]
    obtain ⟨later, found⟩ := Option.isSome_iff_exists.mp (written.kept present)
    rcases written.rows found with same | replaced
    · rw [found, ← same, stored]
    · rw [stored] at replaced
      have own := replaced.changes rfl
      refine absurd ?_ stranger
      cases key with
      | liquidityReservation orderId =>
          obtain ⟨order, ordered, rfl⟩ := held
          exact Foresight.actsFor_order own (kept ordered)
      | providerTransaction paymentId =>
          obtain ⟨payment, paid, rfl⟩ := held
          exact Foresight.actsFor_payment own (kept paid)
      | _ => exact held.elim

/-- A quote is made and ordered, and somebody else sends the wallet for the order. -/
def visitsOrder (t : Tid) : SystemCall :=
  if t = 2 then .attachingWallet "quote" "other" "GOTHER" false else ordersQuote t

/-- The request of somebody else leaves the order as it is. -/
theorem strangers_leave_records_alone_visited
    : ∃ pool next order, AnyRun (machine anyExpiry) (startOf testnet visitsOrder ∅) pool
      ∧ pool.move (machine anyExpiry) (.run 2 {}) = some next
      ∧ pool.state.db.committed.lookup (.order "quote") = some order
      ∧ ∀ row : Order, next.state.db.committed.lookup (.order "quote") = some row
        → NamedBy "user" (.order "quote") row → row = order := by
  have went : ((startOf testnet visitsOrder ∅).schedule (machine anyExpiry)
      (List.replicate 6 (.run 0 { text := "quote" })
        ++ List.replicate 17 (.run 1 { text := "quote" }))).map
        (fun pool => (pool.state.db.committed.lookup (.order "quote")).isSome
          && (pool.move (machine anyExpiry) (.run 2 {})).isSome) = some true := by
    decide +kernel
  obtain ⟨pool, run, seen⟩ := AnyRun.of_schedule_map went
  obtain ⟨present, moves⟩ := Bool.and_eq_true_iff.mp seen
  obtain ⟨order, stored⟩ := Option.isSome_iff_exists.mp present
  obtain ⟨next, moved⟩ := Option.isSome_iff_exists.mp moves
  have stranger : ¬(visitsOrder 2).actsFor "user" := by simp [visitsOrder, SystemCall.actsFor]
  have alone := strangers_leave_records_alone (by intro key row stored; simp at stored) run moved
    stranger
  refine ⟨pool, next, order, run, moved, stored, fun row found named => ?_⟩
  exact Option.some.inj ((alone.1 _ row found named).symm.trans stored)

end

end LuminaRail
