import LuminaRail.Model.System
import LuminaRail.Services.Orders

/-! Whether a quote is used by at most one order. Its status is checked before the transaction that
creates the order, and neither this transaction nor the expiry of the quote looks at it again.
-/

namespace LuminaRail

open Concurrency Database Service

/-- The calls that write quotes. -/
inductive QuoteCall
  | ordering (userId : Id) (dto : CreateOrderDTO)
  | reading (quoteId : Id)
  | using' (quoteId : Id)

def QuoteCall.thread : QuoteCall → Program World Input Unit
  | .ordering userId dto => (OrderService.createOrder userId dto).thread
  | .reading quoteId => (QuoteService.getQuoteById quoteId).thread
  | .using' quoteId => (QuoteService.validateAndUseQuote quoteId).thread

-----------------------------------------------------------------------------------------
-- Quotes and their orders
-----------------------------------------------------------------------------------------

/-- The quote is there with this status. -/
def QuoteIs (id : Id) (status : QuoteStatus) (rows : AList Row) : Prop :=
  ∃ quote, rows.lookup (.quote id) = some quote ∧ quote.status = status

/-- Orders have used their quotes, and no two of them the same. -/
structure QuotesUsed (rows : AList Row) : Prop where
  used : ∀ id order, rows.lookup (.order id) = some order → QuoteIs order.quoteId .USED rows
  once : ∀ id id' order order', rows.lookup (.order id) = some order
    → rows.lookup (.order id') = some order' → order.quoteId = order'.quoteId → id = id'

/-- An order that is new has found its quote ACTIVE, and what is USED stays so. -/
structure QuoteStep (before after : AList Row) : Prop where
  placed : ∀ id order, before.lookup (.order id) = none → after.lookup (.order id) = some order
    → QuoteIs order.quoteId .ACTIVE before
  used : ∀ id, QuoteIs id .USED before → QuoteIs id .USED after

/-- A statement of the program writes the quote, in a transaction or outside any. -/
def WritesQuote (t : Tid) (id : Id) (before after : World) : Prop :=
  (∃ x writes row, x.owner = t ∧ before.db.pending x = some writes
      ∧ after.db.pending x = some (⟨.quote id, row⟩ :: writes))
    ∨ (before.db.holder (.quote id) = none
      ∧ after.db.committed.lookup (.quote id) ≠ before.db.committed.lookup (.quote id))

/-- Every UPDATE of a quote finds it ACTIVE. -/
def FindsActive (t : Tid) (before after : World) : Prop :=
  ∀ id, WritesQuote t id before after → QuoteIs id .ACTIVE before.db.committed

/-- A quote has one status. -/
theorem QuoteIs.unique {id : Id} {status status' : QuoteStatus} {rows : AList Row}
    (first : QuoteIs id status rows) (second : QuoteIs id status' rows)
    : status = status' := by
  obtain ⟨quote, found, rfl⟩ := first
  obtain ⟨quote', found', rfl⟩ := second
  rw [Option.some.inj (found.symm.trans found')]

/-- Rows that stay take no step. -/
theorem QuoteStep.refl (rows : AList Row) : QuoteStep rows rows :=
  ⟨fun _ _ absent found => by simp [absent] at found, fun _ used => used⟩

/-- The rows that matter here. -/
def Key.quoted : Key → Prop
  | .quote _ | .order _ => True
  | _ => False

section

variable {before after : AList Row} {id : Id} {status : QuoteStatus}

/-- The status of a quote depends on its own row only. -/
theorem QuoteIs.of_lookup (is : QuoteIs id status before)
    (same : after.lookup (.quote id) = before.lookup (.quote id))
    : QuoteIs id status after := by
  obtain ⟨quote, stored, status⟩ := is
  exact ⟨quote, same.trans stored, status⟩

/-- The other rows do not matter. -/
theorem QuotesUsed.of_lookup (quotes : QuotesUsed before)
    (same : ∀ key : Key, key.quoted → after.lookup key = before.lookup key)
    : QuotesUsed after ∧ QuoteStep before after := by
  have order (id : Id) : after.lookup (.order id) = before.lookup (.order id) := same _ trivial
  refine ⟨⟨fun id row found => ?_, fun id id' row row' found found' => ?_⟩,
    fun id row absent found => ?_, fun id used => used.of_lookup (same _ trivial)⟩
  · exact (quotes.used id row (order id ▸ found)).of_lookup (same _ trivial)
  · exact quotes.once id id' row row' (order id ▸ found) (order id' ▸ found')
  · simp [order, absent] at found

/-- An ACTIVE quote is not that of any order and may get another status. -/
theorem QuotesUsed.insert_quote {quote : Quote} (quotes : QuotesUsed before)
    (active : QuoteIs id .ACTIVE before)
    : QuotesUsed (before.insert (.quote id) quote)
      ∧ QuoteStep before (before.insert (.quote id) quote) := by
  have order (other : Id) : (before.insert (.quote id) quote).lookup (.order other)
      = before.lookup (.order other) := AList.lookup_insert_ne (by simp)
  have kept {other : Id} (used : QuoteIs other .USED before)
      : QuoteIs other .USED (before.insert (.quote id) quote) := by
    refine used.of_lookup (AList.lookup_insert_ne fun same => ?_)
    obtain rfl := Key.quote.inj same
    exact absurd (used.unique active) (by simp)
  refine ⟨⟨fun other row found => kept (quotes.used other row (order other ▸ found)),
    fun first second row row' found found' => ?_⟩, fun other row absent found => ?_,
    fun other used => kept used⟩
  · exact quotes.once first second row row' (order first ▸ found) (order second ▸ found')
  · simp [order, absent] at found

end

-----------------------------------------------------------------------------------------
-- The transaction of an order
-----------------------------------------------------------------------------------------

/-- The transaction has locked an ACTIVE quote and used it up, and has at most placed one order. -/
structure Placing (x : TxId) (quoteId : Id) (placed : Option Id) (writes : List (Sigma Row))
    (server : Server Row) : Prop where
  active : ∃ quote : Quote, Server.HeldAs x (.quote quoteId) (some quote) server
    ∧ quote.status = .ACTIVE
  used : ∃ quote : Quote, writes.dlookup (.quote quoteId) = some quote ∧ quote.status = .USED
  others : ∀ id, id ≠ quoteId → writes.dlookup (.quote id) = none
  orders : ∀ id order, writes.dlookup (.order id) = some order
    → placed = some id ∧ order.quoteId = quoteId ∧ Server.HeldAs x (.order id) none server

section

variable {x : TxId} {quoteId : Id} {placed : Option Id} {writes writes' : List (Sigma Row)}
  {server after : Server Row}

/-- What an order is placed with is local to its transaction. -/
theorem Placing.local : Server.Local x (Placing x quoteId placed) := by
  intro writes before after locks rows placing
  have keep {key : Key} {row : Option (Row key)} (held : Server.HeldAs x key row before)
      : Server.HeldAs x key row after :=
    Server.Local.heldAs row writes before after locks rows held
  obtain ⟨quote, held, active⟩ := placing.active
  refine ⟨⟨quote, keep held, active⟩, placing.used, placing.others, fun id order found => ?_⟩
  obtain ⟨same, of_quote, held⟩ := placing.orders id order found
  exact ⟨same, of_quote, keep held⟩

/-- Writes of other rows do not matter. -/
theorem Placing.keep (placing : Placing x quoteId placed writes server)
    (same : ∀ key : Key, key.quoted → writes'.dlookup key = writes.dlookup key)
    (locks : ∀ k y, server.holder k = some y → after.holder k = some y)
    (committed : after.committed = server.committed)
    : Placing x quoteId placed writes' after := by
  obtain ⟨quote, held, active⟩ := placing.active
  obtain ⟨used, written, status⟩ := placing.used
  refine ⟨⟨quote, held.keep locks committed, active⟩,
    ⟨used, (same (.quote _) trivial).trans written, status⟩,
    fun id other => (same (.quote _) trivial).trans (placing.others id other),
    fun id order found => ?_⟩
  obtain ⟨same, of_quote, held⟩ :=
    placing.orders id order ((same (.order _) trivial).symm.trans found)
  exact ⟨same, of_quote, held.keep locks committed⟩

/-- Such a transaction may be committed. -/
theorem Placing.commits (placing : Placing x quoteId placed writes server)
    (quotes : QuotesUsed server.committed)
    : QuotesUsed (overlay writes server.committed)
      ∧ QuoteStep server.committed (overlay writes server.committed) := by
  obtain ⟨quote, held, status⟩ := placing.active
  have active : QuoteIs quoteId .ACTIVE server.committed := ⟨quote, held.2, status⟩
  have now_used : QuoteIs quoteId .USED (overlay writes server.committed) := by
    obtain ⟨used, written, status⟩ := placing.used
    exact ⟨used, by simp [lookup_overlay, written], status⟩
  have kept {id : Id} (used : QuoteIs id .USED server.committed)
      : QuoteIs id .USED (overlay writes server.committed) := by
    by_cases same : id = quoteId
    · exact same ▸ now_used
    · exact used.of_lookup (by simp [lookup_overlay, placing.others id same])
  -- every order was there before, of another quote, or is the one that is placed
  have order {id : Id} {order : Order}
      (found : (overlay writes server.committed).lookup (.order id) = some order)
      : (server.committed.lookup (.order id) = some order ∧ order.quoteId ≠ quoteId)
        ∨ (server.committed.lookup (.order id) = none ∧ order.quoteId = quoteId
          ∧ placed = some id) := by
    rw [lookup_overlay] at found
    rcases Option.or_eq_some_iff.mp found with written | ⟨_, stored⟩
    · obtain ⟨same, of_quote, held⟩ := placing.orders id order written
      exact Or.inr ⟨held.2, of_quote, same⟩
    · refine Or.inl ⟨stored, fun same => ?_⟩
      exact absurd ((same ▸ quotes.used id order stored).unique active) (by simp)
  refine ⟨⟨fun id row found => ?_, fun id id' row row' found found' same => ?_⟩,
    fun id row absent found => ?_, fun id used => kept used⟩
  · rcases order found with ⟨stored, _⟩ | ⟨_, of_quote, _⟩
    · exact kept (quotes.used id row stored)
    · exact of_quote ▸ now_used
  · rcases order found with ⟨stored, other⟩ | ⟨_, of_quote, new⟩ <;>
      rcases order found' with ⟨stored', other'⟩ | ⟨_, of_quote', new'⟩
    · exact quotes.once id id' row row' stored stored' same
    · exact absurd (same.trans of_quote') other
    · exact absurd (same.symm.trans of_quote) other'
    · exact Option.some.inj (new.symm.trans new')
  · rcases order found with ⟨stored, _⟩ | ⟨_, of_quote, _⟩
    · simp [absent] at stored
    · exact of_quote ▸ active

end

-----------------------------------------------------------------------------------------
-- The calls
-----------------------------------------------------------------------------------------

/-- The others leave open transactions alone, and whatever is committed is a step of quotes. -/
def quoteProtocol : Protocol World where
  inv world := QuotesUsed world.db.committed
  rely t before after := Server.Isolated t before.db after.db
  guar t before after := (∀ u, u ≠ t → Server.Isolated u before.db after.db)
    ∧ QuoteStep before.db.committed after.db.committed
  allowed := FindsActive
  rely_refl t world := Server.Isolated.refl t world.db
  rely_trans first second := first.trans second
  guar_rely other _ _ guaranteed := guaranteed.1 _ (Ne.symm other)

section

variable {t : Tid} {x : TxId} {world : World} {db : Server Row}

/-- Writes that stay in a transaction are allowed to every call. -/
theorem quote_transactional : Transactional quoteProtocol t where
  isolated relied := relied
  unseen {world db} inv unseen := by
    have same (key : Key) : db.committed.lookup key = world.db.committed.lookup key := by
      rw [unseen.committed]
    obtain ⟨kept, step⟩ := QuotesUsed.of_lookup inv fun key _ => same key
    exact ⟨kept, unseen.isolated, step⟩

/-- What is committed at once without touching quotes and orders. -/
theorem quote_outside (inv : QuotesUsed world.db.committed) (apart : Apart t world.db db)
    (same : ∀ key : Key, key.quoted → db.committed.lookup key = world.db.committed.lookup key)
    : quoteProtocol.inv { world with db := db } ∧ quoteProtocol.guar t world { world with db := db } :=
  have commits := QuotesUsed.of_lookup inv same
  ⟨commits.1, apart.isolated, commits.2⟩

/-- Nothing is known in every world. -/
theorem quote_stable : quoteProtocol.Stable t fun _ => True := Protocol.Stable.const True

/-- An UPDATE of a quote outside any transaction finds it ACTIVE or changes nothing. -/
theorem spec_writeQuote (quoteId : Id) (status : QuoteStatus)
    : quoteProtocol.Spec t (fun _ => True)
        (update none (.quote quoteId) fun row => { row with status := status }) (fun _ _ => True)
        fun _ _ => True := by
  refine spec_updateNow quote_transactional.reading quote_stable
    (fun world db row inv _ found free committed apart allowed => ?_) fun _ _ _ _ => trivial
  have written : db.committed.lookup (.quote quoteId) = some { row with status := status } :=
    committed ▸ AList.lookup_insert _
  by_cases idle : { row with status := status } = row
  · refine and_assoc.mp ⟨quote_outside inv apart fun key _ => ?_, trivial⟩
    by_cases same : key = .quote quoteId
    · subst same
      exact written.trans (idle ▸ found.symm)
    · rw [committed, AList.lookup_insert_ne same]
  · have active : QuoteIs quoteId .ACTIVE world.db.committed := by
      refine allowed quoteId (Or.inr ⟨free, fun same => idle ?_⟩)
      exact Option.some.inj (written.symm.trans (same.trans found))
    obtain ⟨kept, step⟩ := QuotesUsed.insert_quote inv active
    rw [← committed] at kept step
    exact ⟨kept, ⟨apart.isolated, step⟩, trivial⟩

/-- A quote that is read late is marked EXPIRED only where it was ACTIVE. -/
theorem spec_getQuoteById (quoteId : Id)
    : quoteProtocol.Spec t (fun _ => True) (QuoteService.getQuoteById quoteId) (fun _ _ => True)
        fun _ _ => True := by
  refine Protocol.Spec.bind (Q := fun _ _ => True) (spec_findUnique quote_transactional.reading
    quote_stable (fun _ _ _ _ => trivial) fun _ _ _ _ _ _ => trivial) fun found => ?_
  cases found with
  | none => exact Protocol.Spec.throw _ fun _ _ _ => trivial
  | some quote =>
      refine Protocol.Spec.bind (Q := fun _ _ => True) (spec_now quote_transactional.reading
        quote_stable fun _ _ _ => trivial) fun time => ?_
      split
      · exact spec_writeQuote quoteId .EXPIRED
      · exact Protocol.Spec.pure _ fun _ _ _ => trivial

/-- A check writes nothing. -/
theorem spec_check {bad : Prop} [Decidable bad] {error : AppError}
    : quoteProtocol.Spec t (fun _ => True) (throwIf bad error) (fun _ _ => True)
        fun _ _ => True :=
  (spec_throwIf (P := fun _ => True) (E := fun _ _ => True) fun _ _ _ => trivial).conseq
    (fun _ _ given => given) (fun _ _ _ _ => trivial) fun _ _ _ _ => trivial

/-- A quote is marked USED after a read that found it ACTIVE. -/
theorem spec_validateAndUseQuote (quoteId : Id)
    : quoteProtocol.Spec t (fun _ => True) (QuoteService.validateAndUseQuote quoteId)
        (fun _ _ => True) fun _ _ => True := by
  refine Protocol.Spec.bind (spec_getQuoteById quoteId) fun quote => ?_
  refine Protocol.Spec.bind (Q := fun _ _ => True) (spec_now quote_transactional.reading
    quote_stable fun _ _ _ => trivial) fun time => ?_
  refine Protocol.Spec.bind spec_check fun _ => Protocol.Spec.bind spec_check fun _ => ?_
  exact Protocol.Spec.bind spec_check fun _ => spec_writeQuote quoteId .USED

/-- The pool is read or created, which concerns no quote. -/
theorem spec_getPool
    : quoteProtocol.Spec t (fun _ => True) LiquidityService.getPool (fun _ _ => True)
        fun _ _ => True := by
  refine Protocol.Spec.bind (Q := fun _ _ => True) (spec_randomText quote_transactional.reading
    quote_stable fun _ _ _ _ => trivial) fun poolId => ?_
  refine Protocol.Spec.bind (Q := fun _ _ => True) (spec_findUnique quote_transactional.reading
    quote_stable (fun _ _ _ _ => trivial) fun _ _ _ _ _ _ => trivial) fun found => ?_
  cases found with
  | some existing => exact Protocol.Spec.pure _ fun _ _ _ => trivial
  | none =>
      refine Protocol.Spec.bind (Q := fun _ _ => True) (spec_createNow quote_transactional.reading
        quote_stable (fun world db inv _ _ committed apart _ => ?_) fun _ _ _ _ => trivial)
        fun created => Protocol.Spec.pure _ fun _ _ _ => trivial
      refine and_assoc.mp ⟨quote_outside inv apart fun key quoted => ?_, trivial⟩
      rw [committed]
      exact AList.lookup_insert_ne fun same => by simp [same, Key.quoted] at quoted

/-- Reserving liquidity leaves the transaction's quote and order as they are. -/
theorem spec_reserveForOrder (own : x.owner = t) {quoteId : Id} {placed : Option Id}
    (params : ReserveLiquidityParams)
    : quoteProtocol.Spec t (At x (Placing x quoteId placed) fun _ => True)
        (LiquidityService.reserveForOrderInTx x params)
        (fun _ => At x (Placing x quoteId placed) fun _ => True) fun _ _ => True := by
  have throws {bad : Prop} [Decidable bad] {error : AppError}
      : quoteProtocol.Spec t (At x (Placing x quoteId placed) fun _ => True) (throwIf bad error)
          (fun _ => At x (Placing x quoteId placed) fun _ => True) fun _ _ => True :=
    (spec_throwIf (E := fun _ _ => True) fun _ _ _ => trivial).conseq (fun _ _ given => given)
      (fun _ _ _ given => given.2) fun _ _ _ _ => trivial
  refine Protocol.Spec.bind throws fun _ => ?_
  refine Protocol.Spec.bind (Q := fun _ => At x (Placing x quoteId placed) fun _ => True)
    ((at_selectForUpdate (B := Placing x quoteId placed) quote_transactional own Placing.local
      (Steady.const True) (fun _ _ => trivial)
      fun writes before db placing _ locks committed _ =>
        placing.keep (fun _ _ => rfl) locks committed).conseq (fun _ _ given => given)
      (fun _ _ _ ends => ends.elim id fun given => ⟨given.1, trivial⟩) fun _ _ _ _ => trivial)
    fun _ => ?_
  refine Protocol.Spec.bind (Q := fun _ => At x (Placing x quoteId placed) fun _ => True)
    ((at_findUnique quote_transactional own Placing.local (Steady.const True)
      fun _ _ => trivial).conseq (fun _ _ given => given) (fun _ _ _ ends => ends.1)
      fun _ _ _ _ => trivial) fun found => ?_
  cases found with
  | none => exact Protocol.Spec.throw _ fun _ _ _ => trivial
  | some pool =>
      refine Protocol.Spec.bind throws fun _ => Protocol.Spec.bind throws fun _ => ?_
      refine Protocol.Spec.bind (at_update quote_transactional own Placing.local (Steady.const True)
        (fun _ _ => trivial) (B := fun _ => Placing x quoteId placed)
        fun world writes db row placing _ _ _ _ _ locks committed _ =>
          placing.keep (fun key quoted => ?_) locks committed) fun _ => ?_
      · exact List.dlookup_cons_ne _ _ fun same => by simp [same, Key.quoted] at quoted
      refine Protocol.Spec.bind (at_now quote_transactional own Placing.local (Steady.const True))
        fun time => ?_
      refine at_create quote_transactional own Placing.local (Steady.const True)
        (fun _ _ => trivial) fun world writes db placing _ _ _ locks committed _ =>
          placing.keep (fun key quoted => ?_) locks committed
      exact List.dlookup_cons_ne _ _ fun same => by simp [same, Key.quoted] at quoted

/-- The transaction uses up an ACTIVE quote. -/
theorem spec_useQuote (own : x.owner = t) (quoteId : Id)
    : quoteProtocol.Spec t (At x (fun writes _ => writes = []) fun _ => True)
        (update (some x) (.quote quoteId) fun row => { row with status := .USED })
        (fun _ => At x (Placing x quoteId none) fun _ => True) fun _ _ => True := by
  refine at_update quote_transactional own (Server.Local.const _) (Steady.const True)
    (fun _ _ => trivial) (B := fun _ => Placing x quoteId none)
    fun world writes db quote empty _ opened found saved allowed locks committed held => ?_
  subst empty
  obtain ⟨_, pending, _⟩ := Server.save_eq_some opened saved
  have active : QuoteIs quoteId .ACTIVE world.db.committed :=
    allowed quoteId (Or.inl ⟨x, [], _, own, opened, by simpa using congrFun pending x⟩)
  obtain ⟨quote', stored, status⟩ := active
  refine ⟨⟨quote', ⟨held, committed ▸ stored⟩, status⟩, ⟨_, List.dlookup_cons_eq _ _ _, rfl⟩,
    fun id other => ?_, fun id order found => ?_⟩
  · exact List.dlookup_cons_ne _ _ fun same => other (Key.quote.inj same)
  · rw [List.dlookup_cons_ne _ _ (by simp)] at found
    simp at found

/-- The index rows of an order are neither quotes nor orders. -/
theorem orderIndex_quoted {id : Id} {order : Order} {key : Key} (quoted : key.quoted)
    : key ∉ (OrderService.orderIndex id order).keys := by
  unfold OrderService.orderIndex
  intro member
  split at member
  · simp only [List.keys_cons, List.keys_nil, List.mem_singleton] at member
    simp [member, Key.quoted] at quoted
  · simp at member

/-- The transaction places the order. -/
theorem spec_placeOrderRow (own : x.owner = t) {quoteId orderId : Id} {order : Order}
    (of_quote : order.quoteId = quoteId)
    : quoteProtocol.Spec t (At x (Placing x quoteId none) fun _ => True)
        (create (some x) (.order orderId) order (OrderService.orderIndex orderId order))
        (fun _ => At x (Placing x quoteId (some orderId)) fun _ => True) fun _ _ => True := by
  refine at_create quote_transactional own Placing.local (Steady.const True) (fun _ _ => trivial)
    fun world writes db placing _ absent _ locks committed held => ?_
  have written (key : Key) (quoted : key.quoted)
      : ((⟨.order orderId, order⟩ :: OrderService.orderIndex orderId order).reverse
          ++ writes : List (Sigma Row)).dlookup key
        = (⟨.order orderId, order⟩ :: writes : List (Sigma Row)).dlookup key := by
    have unindexed : (OrderService.orderIndex orderId order).reverse.dlookup key = none := by
      rw [List.dlookup_eq_none, List.keys, List.map_reverse, List.mem_reverse]
      exact orderIndex_quoted quoted
    rw [List.reverse_cons, List.append_assoc, List.dlookup_append, unindexed]
    rfl
  have absent := absent ⟨.order orderId, order⟩ List.mem_cons_self
  rw [lookup_overlay, Option.or_eq_none_iff] at absent
  obtain ⟨quote, holds, status⟩ := placing.active
  obtain ⟨used, use, used_status⟩ := placing.used
  refine ⟨⟨quote, holds.keep locks committed, status⟩, ⟨used, ?_, used_status⟩,
    fun id other => ?_, fun id row found => ?_⟩
  · exact (written (.quote quoteId) trivial).trans ((List.dlookup_cons_ne _ _ (by simp)).trans use)
  · rw [written (.quote id) trivial, List.dlookup_cons_ne _ _ (by simp)]
    exact placing.others id other
  · rw [written (.order id) trivial] at found
    by_cases same : id = orderId
    · subst same
      obtain rfl := Option.some.inj ((List.dlookup_cons_eq _ _ _).symm.trans found)
      refine ⟨rfl, of_quote, held ⟨.order id, order⟩ List.mem_cons_self, ?_⟩
      rw [committed]
      exact absent.2
    · rw [List.dlookup_cons_ne _ _ fun key => same (Key.order.inj key)] at found
      exact absurd (placing.orders id row found).1 (by simp)

/-- The transaction of an order writes the quote and the order together. -/
theorem spec_createOrderInTx (own : x.owner = t) (userId : Id) (dto : CreateOrderDTO)
    (quote : Quote) (poolId : Id)
    : quoteProtocol.Spec t (At x (fun writes _ => writes = []) fun _ => True)
        (OrderService.createOrderInTx x userId dto quote poolId)
        (fun placed => At x (Placing x dto.quoteId (some placed.1)) fun _ => True)
        fun _ _ => True := by
  refine Protocol.Spec.bind (spec_useQuote own dto.quoteId) fun _ => ?_
  refine Protocol.Spec.bind (at_randomText quote_transactional own Placing.local
    (Steady.const True)) fun orderId => ?_
  refine Protocol.Spec.bind (at_now quote_transactional own Placing.local (Steady.const True))
    fun time => ?_
  refine Protocol.Spec.bind (spec_placeOrderRow own rfl) fun newOrder => ?_
  refine Protocol.Spec.bind (spec_reserveForOrder own _) fun _ => ?_
  exact Protocol.Spec.pure _ fun _ _ given => given

/-- An order is placed in one transaction, by the rule for transactions. -/
theorem spec_placeOrder (userId : Id) (dto : CreateOrderDTO)
    : quoteProtocol.Spec t (fun _ => True) (OrderService.placeOrder userId dto) (fun _ _ => True)
        fun _ _ => True := by
  refine Protocol.Spec.bind (spec_getQuoteById dto.quoteId) fun quote => ?_
  refine Protocol.Spec.bind spec_check fun _ => Protocol.Spec.bind spec_check fun _ => ?_
  refine Protocol.Spec.bind (Q := fun _ _ => True) (spec_now quote_transactional.reading
    quote_stable fun _ _ _ => trivial) fun time => Protocol.Spec.bind spec_check fun _ => ?_
  refine Protocol.Spec.bind spec_getPool fun pool => ?_
  refine Protocol.Spec.bind (Q := fun _ _ => True) (spec_findUniqueOrThrow
    quote_transactional.reading quote_stable (fun _ _ _ _ _ _ => trivial)
    fun _ _ _ _ _ _ => trivial) fun available => Protocol.Spec.bind spec_check fun _ => ?_
  refine at_transaction
    (R := fun x (placed : Id × Order × Bool) => Placing x dto.quoteId (some placed.1))
    quote_transactional (Steady.const True) (fun _ _ => trivial)
    (fun x own => spec_createOrderInTx own userId dto quote pool.1) (fun _ _ => Placing.local)
    (Steady.const True) (Steady.const True) (fun _ _ => trivial)
    fun x placed world writes own inv placing _ opened _ => ?_
  have commits := placing.commits inv
  have overlays : (world.db.commit x).committed = overlay writes world.db.committed := by
    simp [opened]
  rw [← overlays] at commits
  exact ⟨commits.1, ⟨(Apart.commit world.db own).isolated, commits.2⟩, trivial⟩

/-- An order is placed with a quote that was read before, or found by its key. -/
theorem spec_createOrder (userId : Id) (dto : CreateOrderDTO)
    : quoteProtocol.Spec t (fun _ => True) (OrderService.createOrder userId dto) (fun _ _ => True)
        fun _ _ => True := by
  unfold OrderService.createOrder
  split
  · exact spec_placeOrder userId dto
  · refine Protocol.Spec.bind (Q := fun _ _ => True) (spec_select quote_transactional.reading
      quote_stable (fun _ _ _ _ => trivial) fun _ _ _ _ _ _ => trivial) fun found => ?_
    cases found with
    | some existing => exact Protocol.Spec.pure _ fun _ _ _ => trivial
    | none => exact spec_placeOrder userId dto

/-- Every call is verified. -/
theorem QuoteCall.quotes_safe (call : QuoteCall) {world : World}
    (holds : QuotesUsed world.db.committed)
    : quoteProtocol.Safe t (fun _ _ => True) call.thread world := by
  cases call with
  | ordering userId dto => exact Service.thread_safe (spec_createOrder userId dto) holds trivial
  | reading quoteId => exact Service.thread_safe (spec_getQuoteById quoteId) holds trivial
  | using' quoteId => exact Service.thread_safe (spec_validateAndUseQuote quoteId) holds trivial

end

/-- The machine takes no step that the protocol does not know. -/
theorem quote_fits : (machine anyExpiry).Fits quoteProtocol where
  env live world chance after inv happened := by
    obtain ⟨rfl, _⟩ := machine_env happened
    refine ⟨?_, fun t _ => Chance.apply_isolated world chance t⟩
    have kept : QuotesUsed (chance.apply world).db.committed := by
      rw [Chance.apply_committed]
      exact inv
    exact kept
  crash t world inv := ⟨inv, fun u _ => Server.Isolated.refl u world.db⟩

/-- However the calls interleave, fail and crash: as long as every UPDATE of a quote finds it
ACTIVE, no two orders have the same quote, a new order has found its quote ACTIVE, and a USED
quote stays USED. By the invariant that a USED quote has one order at most, and by what a step
may do.
-/
theorem quote_used_once {calls : Tid → QuoteCall} {rows : AList Row}
    {pool last : Pool World Input} (start : QuotesUsed rows)
    (run : Run (machine anyExpiry) FindsActive
      ⟨World.start rows, fun t => (calls t).thread⟩ pool)
    {move : Move Input Chance} (moved : pool.move (machine anyExpiry) move = some last)
    (finds : ∀ t input, move = .run t input → FindsActive t pool.state last.state)
    : QuotesUsed last.state.db.committed
      ∧ QuoteStep pool.state.db.committed last.state.db.committed := by
  have verified := Run.verified quote_fits run
    ⟨start, fun t _ => (calls t).quotes_safe start⟩
  refine ⟨(verified.move quote_fits moved finds).inv, ?_⟩
  cases move with
  | run t input => exact (verified.run moved (finds t input rfl)).1.2
  | crash t => exact (Pool.move_crash moved).2.1 ▸ QuoteStep.refl _
  | env chance =>
      obtain ⟨same, _⟩ := machine_env (Pool.move_env moved).1
      rw [same, Chance.apply_committed]
      exact QuoteStep.refl _

-----------------------------------------------------------------------------------------
-- One quote, two orders
-----------------------------------------------------------------------------------------

/-- One hundred naira, to be used until 1000. -/
def activeQuote : AList Row :=
  (((∅ : AList Row).insert (.quote "quote")
      { sourceCurrency := "NGN"
        destinationAsset := "USDC"
        sourceAmount := 1000000
        destinationAmount := 700000
        expiresAt := 1000 }).insert (.liquidityPool "pool") ⟨100000000000, 0, 100000000000⟩)

/-- Witness: no quote is USED in the rows that the run starts with. -/
theorem activeQuote_used : QuotesUsed activeQuote := by
  have none (id : Id) : activeQuote.lookup (.order id) = none := by
    simp [activeQuote, AList.lookup_insert_ne, -AList.insert_empty]
  exact ⟨fun id order found => by simp [none] at found,
    fun id _ order _ found => by simp [none] at found⟩

/-- Two users order at once. -/
def orderingTwice (t : Tid) : QuoteCall :=
  .ordering (if t = 0 then "ada" else "bola") { quoteId := "quote" }

/-- The quotes of both orders. -/
def quotesOfBoth (world : World) : Option Id × Option Id :=
  ((world.db.committed.lookup (.order "first")).map fun (order : Order) => order.quoteId,
    (world.db.committed.lookup (.order "second")).map fun (order : Order) => order.quoteId)

/-- Both have read the quote before either uses it up. -/
theorem quote_used_twice
    : QuotesUsed activeQuote ∧ ∃ last : Pool World Input,
        AnyRun (machine anyExpiry)
          ⟨World.start activeQuote, fun t => (orderingTwice t).thread⟩ last
        ∧ ¬QuotesUsed last.state.db.committed := by
  have went : ((Pool.schedule (machine anyExpiry)
      ⟨World.start activeQuote, fun t => (orderingTwice t).thread⟩
      (List.replicate 6 (.run 0 { text := "pool" })
        ++ List.replicate 6 (.run 1 { text := "pool" })
        ++ List.replicate 11 (.run 0 { text := "first" })
        ++ List.replicate 11 (.run 1 { text := "second" }))).map fun last =>
          quotesOfBoth last.state)
      = some (some "quote", some "quote") := by
    decide +kernel
  obtain ⟨last, reached, found⟩ := AnyRun.of_schedule_map went
  refine ⟨activeQuote_used, last, reached, fun quotes => ?_⟩
  obtain ⟨first, second⟩ := Prod.mk.inj found
  obtain ⟨order, stored, same⟩ := Option.map_eq_some_iff.mp first
  obtain ⟨order', stored', same'⟩ := Option.map_eq_some_iff.mp second
  exact absurd (quotes.once _ _ order order' stored stored' (same.trans same'.symm)) (by decide)

/-- The quote is ACTIVE. -/
def quoteActive (id : Id) (world : World) : Bool :=
  (world.db.committed.lookup (.quote id)).any fun (quote : Quote) => quote.status = .ACTIVE

/-- Every quote that a transaction of the program writes, or that changes without being locked, is
ACTIVE.
-/
def findsActive (t : Tid) (before after : World) : Bool :=
  ((List.range before.db.serial).all fun serial =>
    match before.db.pending ⟨t, serial⟩, after.db.pending ⟨t, serial⟩ with
    | some writes, some (⟨.quote id, _⟩ :: others) =>
        others.length ≠ writes.length || quoteActive id before
    | _, _ => true)
  && (before.db.committed.keys ++ after.db.committed.keys).all fun key =>
    match key with
    | .quote id =>
        after.db.committed.lookup (.quote id) = before.db.committed.lookup (.quote id)
          || (before.db.holder (.quote id)).isSome || quoteActive id before
    | _ => true

/-- The evaluated check decides that a quote is ACTIVE. -/
theorem quoteIs_of_active {id : Id} {world : World} (active : quoteActive id world = true)
    : QuoteIs id .ACTIVE world.db.committed := by
  obtain ⟨quote, stored, status⟩ := (Option.any_eq_true _ _).mp active
  exact ⟨quote, stored, of_decide_eq_true status⟩

/-- The evaluated check decides the condition on a step. -/
theorem findsActive_of_check {t : Tid} {before after : World}
    (check : findsActive t before after = true)
    : FindsActive t before after := by
  obtain ⟨statements, rows⟩ := (Bool.and_eq_true_iff.mp check)
  intro id writes
  rcases writes with ⟨x, writes, row, own, opened, written⟩ | ⟨free, changed⟩
  · obtain ⟨owner, serial⟩ := x
    obtain rfl : owner = t := own
    have new := before.db.serial_new (x := ⟨owner, serial⟩) (by simp [opened])
    have passed := List.all_eq_true.mp statements serial (List.mem_range.mpr new)
    simp only [opened, written] at passed
    exact quoteIs_of_active (by simpa using passed)
  · have listed : Key.quote id ∈ before.db.committed.keys ++ after.db.committed.keys := by
      rw [List.mem_append, ← AList.mem_keys, ← AList.mem_keys]
      by_contra absent
      rw [not_or, ← AList.lookup_eq_none, ← AList.lookup_eq_none] at absent
      exact changed (absent.2.trans absent.1.symm)
    have passed := List.all_eq_true.mp rows _ listed
    exact quoteIs_of_active (by simpa [free, changed] using passed)

/-- A single order of the quote. -/
theorem quote_used_once_alone
    : ∃ last : Pool World Input,
        QuotesUsed last.state.db.committed ∧ quotesOfBoth last.state = (some "quote", none) := by
  have went : ((Pool.checkedSchedule (machine anyExpiry) findsActive
      ⟨World.start activeQuote, fun t => (orderingTwice t).thread⟩
      (List.replicate 6 (.run 0 { text := "pool" })
        ++ List.replicate 10 (.run 0 { text := "first" }))).bind fun pool =>
      (pool.move (machine anyExpiry) (.run 0 {})).map fun last =>
        (quotesOfBoth last.state, findsActive 0 pool.state last.state))
      = some ((some "quote", none), true) := by
    decide +kernel
  obtain ⟨pool, reached, later⟩ := Option.bind_eq_some_iff.mp went
  obtain ⟨last, moved, found⟩ := Option.map_eq_some_iff.mp later
  obtain ⟨found, check⟩ := Prod.mk.inj found
  have used := quote_used_once activeQuote_used
    (Run.of_checkedSchedule (fun _ _ _ => findsActive_of_check) reached) moved
    fun t input same => by
      obtain ⟨rfl, rfl⟩ := Move.run.inj same
      exact findsActive_of_check check
  exact ⟨last, used.1, found⟩

end LuminaRail
