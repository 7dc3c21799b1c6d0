import Curtain.Allocation
import Curtain.CancelTerms

/-!
# Numbers and amounts under a truthful gateway

While the gateway's answers are truthful and the webhooks authentic, every
number that a call carries or a payment stores is the number of an executed
approval or refund of the same order, and every sum is the sum of that order.
-/

namespace Curtain

open Queries Table HoldService OrderService

/-! ## What never disappears -/

/-- The columns of an order that no statement writes. -/
def Order.head (order : Order) : Order :=
  { order with status := .pending, responseSnapshot := none }

theorem Order.id_of_head {left right : Order} (equal : left.head = right.head) :
    left.id = right.id := by
  show left.head.id = right.head.id
  rw [equal]

theorem Order.key_of_head {left right : Order} (equal : left.head = right.head) :
    left.idempotencyKey = right.idempotencyKey := by
  show left.head.idempotencyKey = right.head.idempotencyKey
  rw [equal]

theorem Order.userId_of_head {left right : Order}
    (equal : left.head = right.head) :
    left.userId = right.userId := by
  show left.head.userId = right.head.userId
  rw [equal]

/-- The ledgers and the orders of the books are the beginning of the later ones. -/
structure Books.Grows (books later : Books) : Prop where
  approvals : books.approvals <+: later.approvals
  refunds : books.refunds <+: later.refunds
  orders :
    books.db.orders.map Order.head <+: later.db.orders.map Order.head

namespace Books

variable {books later : Books} {db : Db}

theorem Grows.refl (books : Books) : books.Grows books :=
  { approvals := List.prefix_rfl
    refunds := List.prefix_rfl
    orders := List.prefix_rfl }

theorem Grows.approves (grows : books.Grows later)
    {orderId : Nat} {pgTid : String}
    (approved : books.approves orderId pgTid = true) :
    later.approves orderId pgTid = true := by
  obtain ⟨approval, member, found⟩ := List.any_eq_true.mp approved
  exact List.any_eq_true.mpr ⟨approval, grows.approvals.subset member, found⟩

/-- The order of the given number, with the given sum, is in the table. -/
def Orders (books : Books) (orderId : Nat) (total : Int) : Prop :=
  ∃ order ∈ books.db.orders, order.id = orderId ∧ order.totalAmount = total

theorem Grows.orders_of (grows : books.Grows later)
    {orderId : Nat} {total : Int} (ordered : books.Orders orderId total) :
    later.Orders orderId total := by
  obtain ⟨order, member, idEqual, totalEqual⟩ := ordered
  have kept := grows.orders.subset (List.mem_map_of_mem member)
  obtain ⟨row, rowMember, headEqual⟩ := List.mem_map.mp kept
  refine ⟨row, rowMember, ?_, ?_⟩
  · rw [← idEqual]
    show row.head.id = order.head.id
    rw [headEqual]
  · rw [← totalEqual]
    show row.head.totalAmount = order.head.totalAmount
    rw [headEqual]

/-- A refund of the order was executed under the number. -/
def RefundedAs (books : Books) (orderId : Nat) (number : String) : Prop :=
  ∃ refund ∈ books.refunds, refund.refundTid = number ∧
    books.approves orderId refund.pgTid = true

theorem Grows.refundedAs (grows : books.Grows later)
    {orderId : Nat} {number : String}
    (refunded : books.RefundedAs orderId number) :
    later.RefundedAs orderId number := by
  obtain ⟨refund, member, equal, approved⟩ := refunded
  exact
    ⟨refund, grows.refunds.subset member, equal, grows.approves approved⟩

theorem RefundedAs.refunded {orderId : Nat} {number : String}
    (refunded : books.RefundedAs orderId number) :
    books.refunded orderId = true := by
  obtain ⟨refund, member, -, approved⟩ := refunded
  exact List.any_eq_true.mpr ⟨refund, member, approved⟩

theorem Grows.refunded (grows : books.Grows later) {orderId : Nat}
    (refunded : books.refunded orderId = true) :
    later.refunded orderId = true := by
  obtain ⟨refund, member, approved⟩ := List.any_eq_true.mp refunded
  exact
    List.any_eq_true.mpr
      ⟨refund, grows.refunds.subset member, grows.approves approved⟩

end Books

/-- A change of order rows that leaves their heads alone. -/
theorem map_head_updateWhere
    {condition : Order → Bool} {change : Order → Order}
    (kept : ∀ row, (change row).head = row.head) (orders : List Order) :
    (updateWhere condition change orders).map Order.head =
      orders.map Order.head :=
  map_updateWhere Order.head kept orders

theorem Confirmed.map_head
    {order : Order} {pgTid : String} {now : Time} {db after : Db}
    (confirmed : Confirmed order pgTid now db after) :
    after.orders.map Order.head = db.orders.map Order.head := by
  rw [confirmed.after_eq]
  simp only [setOrderSnapshot, markOrderPaid, updateOrder]
  rw [map_head_updateWhere, map_head_updateWhere]
  · intro row
    rfl
  · intro row
    rfl

theorem insertPayment_orders
    {orderId : Nat} {status : PayStatus} {amount : Int}
    {pgTid : Option String} {fees : Option FeeSnapshot} {db after : Db}
    (ok : insertPayment orderId status amount pgTid fees db = .ok after) :
    after.orders = db.orders := by
  obtain ⟨-, rfl⟩ := insertPayment_ok.mp ok
  rfl

theorem markOrder_map_head
    (orderId : Nat) (status expect : OrderStatus) (db : Db) :
    (markOrder orderId status expect db).2.orders.map Order.head =
      db.orders.map Order.head := by
  apply map_head_updateWhere
  intro row
  rfl

theorem closeUnpaid_map_head
    {orderId : Nat} {status : OrderStatus} {db after : Db}
    (ok : closeUnpaid orderId status db = .ok after) :
    after.orders.map Order.head = db.orders.map Order.head := by
  rcases closeUnpaid_ok ok with rfl | ⟨order, -, -, -, rfl⟩
  · rfl
  · exact markOrder_map_head orderId status .pending db

theorem recordRefund_map_head
    {order : Order} {total : Int} {attempt : PayAttempt} {db after : Db}
    (ok : recordRefund order total attempt db = .ok after) :
    after.orders.map Order.head = db.orders.map Order.head := by
  obtain ⟨middle, inserted, rfl⟩ := recordRefund_ok ok
  have same := insertPayment_orders inserted
  split
  · rw [Db.updateSeats_orders, markOrder_map_head, failPendingPayments, same]
  · rw [failPendingPayments, same]

theorem closeCanceled_map_head
    {cancellation : Cancellation} {attempt : PayAttempt} {db after : Db}
    (ok : closeCanceled cancellation attempt db = .ok after) :
    after.orders.map Order.head = db.orders.map Order.head := by
  rcases closeCanceled_ok ok with ⟨rfl, -⟩ | ⟨-, refunded, inserted, rfl⟩
  · rfl
  · have same := insertPayment_orders inserted
    change refunded.orders.map Order.head = _
    rw [same, markOrder_map_head]

/-- A turn opens an order or leaves the heads of the orders alone. -/
theorem Turn.heads
    {world : World} {action : Action} {before after : Option Task}
    {books : Books}
    (consistent : world.Consistent)
    (turn : Turn world action before after books) :
    books.db.orders.map Order.head = world.db.orders.map Order.head ∨
      ∃ request order, Opened request world.clock world.db order books.db := by
  cases turn with
  | acquired ok =>
      obtain ⟨-, rfl⟩ := acquireSeats_ok consistent.sound.rowUnique ok
      exact Or.inl rfl
  | opened opened => exact Or.inr ⟨_, _, opened⟩
  | confirmed confirms source confirmed quiet => exact Or.inl confirmed.map_head
  | recorded recorded => exact Or.inl (recordRefund_map_head recorded)
  | closed closed => exact Or.inl (closeUnpaid_map_head closed)
  | cancelFailed recorded =>
      exact Or.inl (congrArg _ (insertPayment_orders recorded))
  | cancelClosed closed => exact Or.inl (closeCanceled_map_head closed)
  | _ => exact Or.inl rfl

/-- Every turn grows the books. -/
theorem Turn.grows
    {world : World} {action : Action} {before after : Option Task}
    {books : Books}
    (consistent : world.Consistent)
    (turn : Turn world action before after books) :
    world.toBooks.Grows books := by
  have orders :
      world.db.orders.map Order.head <+: books.db.orders.map Order.head := by
    rcases turn.heads consistent with same | ⟨request, order, opened⟩
    · exact ⟨[], by rw [List.append_nil, same]⟩
    · rw [opened.after_eq, List.map_append]
      exact List.prefix_append _ _
  cases turn with
  | approvalExecuted =>
      exact
        { approvals := List.prefix_append _ _
          refunds := List.prefix_rfl
          orders }
  | refundExecuted =>
      exact
        { approvals := List.prefix_rfl
          refunds := List.prefix_append _ _
          orders }
  | cancelExecuted =>
      exact
        { approvals := List.prefix_rfl
          refunds := List.prefix_append _ _
          orders }
  | _ =>
      exact
        { approvals := List.prefix_rfl
          refunds := List.prefix_rfl
          orders }

/-! ## What the calls carry -/

/-- The numbers and sums of a task are those of the ledgers. -/
def Task.Numbered (books : Books) : Task → Prop
  | .approving orderId amount => books.Orders orderId amount
  | .inquiring _ => True
  | .settling (.confirming orderId pgTid amount) =>
      books.approves orderId pgTid = true ∧
        ∀ sum ∈ amount, books.Orders orderId sum
  | .settling (.closing _ _) => True
  | .settling (.compensating orderId pgTid amount _) =>
      books.approves orderId pgTid = true ∧
        ∀ sum ∈ amount, books.Orders orderId sum
  | .settling (.refunding order pgTid total _ number) =>
      books.approves order.id pgTid = true ∧ books.Orders order.id total ∧
        ∀ given ∈ number, books.RefundedAs order.id given
  | .settling (.recording order _ _ attempt) =>
      attempt.approved = true →
        ∃ number, attempt.pgTid = some number ∧
          books.RefundedAs order.id number
  | .canceling cancellation (.refunding number) =>
      books.approves cancellation.order.id cancellation.pgTid = true ∧
        books.Orders cancellation.order.id cancellation.order.totalAmount ∧
        (0 ≤ cancellation.order.totalAmount →
          cancellation.refundAmount ≤ cancellation.order.totalAmount) ∧
        ∀ given ∈ number, books.RefundedAs cancellation.order.id given
  | .canceling _ (.failing _) => True
  | .canceling cancellation (.closing attempt) =>
      ∃ number, attempt.pgTid = some number ∧
        books.RefundedAs cancellation.order.id number

theorem Task.Numbered.mono {books later : Books} {task : Task}
    (grows : books.Grows later) (numbered : task.Numbered books) :
    task.Numbered later := by
  rcases task with
    ⟨orderId, amount⟩ | _ |
    ⟨⟨orderId, pgTid, amount⟩ | _ | ⟨orderId, pgTid, amount, why⟩ |
      ⟨order, pgTid, total, why, number⟩ | ⟨order, total, why, attempt⟩⟩ |
    ⟨cancellation, number | _ | attempt⟩
  · exact grows.orders_of numbered
  · trivial
  · exact
      ⟨grows.approves numbered.1,
        fun sum member => grows.orders_of (numbered.2 sum member)⟩
  · trivial
  · exact
      ⟨grows.approves numbered.1,
        fun sum member => grows.orders_of (numbered.2 sum member)⟩
  · exact
      ⟨grows.approves numbered.1, grows.orders_of numbered.2.1,
        fun given member => grows.refundedAs (numbered.2.2 given member)⟩
  · intro approved
    obtain ⟨number, equal, refunded⟩ := numbered approved
    exact ⟨number, equal, grows.refundedAs refunded⟩
  · exact
      ⟨grows.approves numbered.1, grows.orders_of numbered.2.1,
        numbered.2.2.1,
        fun given member => grows.refundedAs (numbered.2.2.2 given member)⟩
  · trivial
  · obtain ⟨number, equal, refunded⟩ := numbered
    exact ⟨number, equal, grows.refundedAs refunded⟩

/-- An approved payment stores the number of its order's approval. -/
def Books.Attested (books : Books) : Prop :=
  ∀ payment ∈ books.db.payments, payment.status = .approved →
    ∃ pgTid, payment.pgTid = some pgTid ∧
      books.approves payment.orderId pgTid = true

theorem Books.Attested.grow {books later : Books}
    (attested : books.Attested) (grows : books.Grows later)
    (kept :
      ∀ payment ∈ later.db.payments, payment.status = .approved →
        payment ∈ books.db.payments ∨
          ∃ pgTid, payment.pgTid = some pgTid ∧
            later.approves payment.orderId pgTid = true) :
    later.Attested := by
  intro payment member approved
  rcases kept payment member approved with old | new
  · obtain ⟨pgTid, equal, found⟩ := attested payment old approved
    exact ⟨pgTid, equal, grows.approves found⟩
  · exact new

/-- An inserted payment that is not approved adds no approved payment. -/
theorem insertPayment_approved
    {orderId : Nat} {status : PayStatus} {amount : Int}
    {pgTid : Option String} {fees : Option FeeSnapshot} {db after : Db}
    (ok : insertPayment orderId status amount pgTid fees db = .ok after)
    (other : status ≠ .approved) :
    ∀ payment ∈ after.payments, payment.status = .approved →
      payment ∈ db.payments := by
  obtain ⟨-, rfl⟩ := insertPayment_ok.mp ok
  intro payment member approved
  rcases List.mem_append.mp member with old | new
  · exact old
  · rw [List.mem_singleton.mp new] at approved
    exact absurd approved other

theorem failPendingPayments_approved (orderId : Nat) (db : Db) :
    ∀ payment ∈ (failPendingPayments orderId db).payments,
      payment.status = .approved → payment ∈ db.payments := by
  intro payment member approved
  obtain ⟨old, oldMember, ⟨-, rfl⟩ | ⟨-, rfl⟩⟩ := mem_updateWhere.mp member
  · cases approved
  · exact oldMember

theorem closeUnpaid_approved
    {orderId : Nat} {status : OrderStatus} {db after : Db}
    (ok : closeUnpaid orderId status db = .ok after) :
    ∀ payment ∈ after.payments, payment.status = .approved →
      payment ∈ db.payments := by
  rcases closeUnpaid_ok ok with rfl | ⟨order, -, -, -, rfl⟩
  · intro payment member _
    exact member
  · exact
      failPendingPayments_approved orderId
        (markOrder orderId status .pending db).2

theorem recordRefund_approved
    {order : Order} {total : Int} {attempt : PayAttempt} {db after : Db}
    (ok : recordRefund order total attempt db = .ok after) :
    ∀ payment ∈ after.payments, payment.status = .approved →
      payment ∈ db.payments := by
  obtain ⟨middle, inserted, rfl⟩ := recordRefund_ok ok
  have refunded :
      (if attempt.approved = true then PayStatus.refunded else .failed) ≠
        .approved := by
    split <;> decide
  intro payment member approved
  refine insertPayment_approved inserted refunded payment ?_ approved
  apply failPendingPayments_approved order.id middle payment ?_ approved
  split at member <;> exact member

theorem closeCanceled_approved
    {cancellation : Cancellation} {attempt : PayAttempt} {db after : Db}
    (ok : closeCanceled cancellation attempt db = .ok after) :
    ∀ payment ∈ after.payments, payment.status = .approved →
      payment ∈ db.payments := by
  rcases closeCanceled_ok ok with ⟨rfl, -⟩ | ⟨-, refunded, inserted, rfl⟩
  · intro payment member _
    exact member
  · intro payment member approved
    exact insertPayment_approved inserted (by decide) payment member approved

/-- A confirmation approves payments of its order, under its number. -/
theorem Confirmed.approved
    {order : Order} {pgTid : String} {now : Time} {db after : Db}
    (confirmed : Confirmed order pgTid now db after) :
    ∀ payment ∈ after.payments, payment.status = .approved →
      payment ∈ db.payments ∨
        (payment.orderId = order.id ∧ payment.pgTid = some pgTid) := by
  intro payment member approved
  rcases confirmed.promoted with ⟨-, equal⟩ | ⟨-, equal⟩
  · rw [equal] at member
    obtain ⟨old, oldMember, ⟨requested, rfl⟩ | ⟨-, rfl⟩⟩ :=
      mem_updateWhere.mp member
    · simp only [isRequested, Bool.and_eq_true, beq_iff_eq] at requested
      exact Or.inr ⟨requested.1, rfl⟩
    · exact Or.inl oldMember
  · rw [equal] at member
    rcases List.mem_append.mp member with old | new
    · exact Or.inl old
    · rw [List.mem_singleton.mp new]
      exact Or.inr ⟨rfl, rfl⟩

/-! ## Truthful runs -/

/-- The gateway's own ledgers. -/
structure Books.Balanced (books : Books) : Prop where
  issued : books.issued.Nodup
  once : Unique Approval.orderId books.approvals
  priced :
    ∀ approval ∈ books.approvals,
      books.Orders approval.orderId approval.amount
  refunded :
    ∀ refund ∈ books.refunds, ∃ approval ∈ books.approvals,
      approval.pgTid = refund.pgTid ∧
        (0 ≤ approval.amount → refund.amount ≤ approval.amount)

/-- What holds throughout a run with a truthful gateway. -/
structure World.Honest (world : World) : Prop where
  consistent : world.Consistent
  balanced : world.Balanced
  attested : world.Attested
  numbered : ∀ task ∈ world.tasks, task.Numbered world.toBooks

namespace Books.Balanced

variable {books later : Books}

/-- A step that leaves the ledgers alone. -/
theorem keep (balanced : books.Balanced) (grows : books.Grows later)
    (approvals : later.approvals = books.approvals)
    (refunds : later.refunds = books.refunds) :
    later.Balanced := by
  constructor
  case issued =>
    rw [Books.issued, approvals, refunds]
    exact balanced.issued
  case once =>
    rw [approvals]
    exact balanced.once
  case priced =>
    rw [approvals]
    intro approval member
    exact grows.orders_of (balanced.priced approval member)
  case refunded =>
    rw [approvals, refunds]
    exact balanced.refunded

/-- The first approval of an order, under a fresh number. -/
theorem approve (balanced : books.Balanced) {approval : Approval}
    (fresh : approval.pgTid ∉ books.issued)
    (first : books.executed approval.orderId = false)
    (ordered : books.Orders approval.orderId approval.amount) :
    Balanced { books with approvals := books.approvals ++ [approval] } := by
  constructor
  case issued =>
    have numbers :
        (books.issued ++ [approval.pgTid]).Perm
          ((books.approvals ++ [approval]).map (·.pgTid) ++
            books.refunds.map (·.refundTid)) := by
      rw [Books.issued, List.map_append, List.append_assoc, List.append_assoc]
      exact List.perm_append_comm.append_left _
    refine numbers.nodup_iff.mp ?_
    exact List.nodup_append.mpr
      ⟨balanced.issued, by simp, by rintro old member _ new rfl; simp_all⟩
  case once =>
    refine unique_append_singleton.mpr ⟨balanced.once, ?_⟩
    intro old member equal
    have found : books.executed approval.orderId = true :=
      List.any_eq_true.mpr ⟨old, member, by simpa using equal⟩
    rw [first] at found
    cases found
  case priced =>
    intro row member
    rcases List.mem_append.mp member with old | new
    · exact balanced.priced row old
    · rw [List.mem_singleton.mp new]
      exact ordered
  case refunded =>
    intro refund member
    obtain ⟨approval, approvalMember, covers⟩ := balanced.refunded refund member
    exact ⟨approval, List.mem_append_left _ approvalMember, covers⟩

/-- A refund that its approval covers, under a fresh number. -/
theorem refund (balanced : books.Balanced) {refund : Refund}
    (fresh : refund.refundTid ∉ books.issued)
    (covered :
      ∃ approval ∈ books.approvals, approval.pgTid = refund.pgTid ∧
        (0 ≤ approval.amount → refund.amount ≤ approval.amount)) :
    Balanced { books with refunds := books.refunds ++ [refund] } := by
  constructor
  case issued =>
    have numbers :
        books.approvals.map (·.pgTid) ++
            (books.refunds ++ [refund]).map (·.refundTid) =
          books.issued ++ [refund.refundTid] := by
      rw [Books.issued, List.map_append, List.append_assoc]
      rfl
    show List.Nodup (_ ++ _)
    rw [numbers]
    exact List.nodup_append.mpr
      ⟨balanced.issued, by simp, by rintro old member _ new rfl; simp_all⟩
  case once => exact balanced.once
  case priced => exact balanced.priced
  case refunded =>
    intro row member
    rcases List.mem_append.mp member with old | new
    · exact balanced.refunded row old
    · rw [List.mem_singleton.mp new]
      exact covered

end Books.Balanced

/-- The sum of an order is a function of its number. -/
theorem Db.Sound.orders_eq {books : Books} (sound : books.db.Sound)
    {orderId : Nat} {left right : Int}
    (leftOrders : books.Orders orderId left)
    (rightOrders : books.Orders orderId right) :
    left = right := by
  obtain ⟨first, firstMember, firstId, rfl⟩ := leftOrders
  obtain ⟨second, secondMember, secondId, rfl⟩ := rightOrders
  rw [sound.order_eq firstMember secondMember (firstId.trans secondId.symm)]

/-- The answer to a question about an order carries the number of its approval. -/
theorem World.approves_of_truthful
    {world : World} {index : Nat} {attempt : PayAttempt} {asked : Task}
    {orderId : Nat} {pgTid : String}
    (truthful : world.truthful (.answer index attempt) = true)
    (current : world.taskOf (.answer index attempt) = some asked)
    (asks : asked.asks = some orderId)
    (result : attempt.result = .approved)
    (number : attempt.pgTid = some pgTid) :
    world.approves orderId pgTid = true := by
  simp only [World.truthful, current, Option.all_some] at truthful
  cases asked with
  | approving asked amount =>
      cases asks
      simpa [World.truthfulAnswer, result, number] using truthful
  | inquiring asked =>
      cases asks
      simpa [World.truthfulAnswer, result, number] using truthful
  | settling => cases asks
  | canceling => cases asks

/-- An approved refund carries the number under which it was executed. -/
theorem World.number_of_truthful
    {attempt : PayAttempt} {number : Option String}
    (truthful : World.truthfulRefund attempt number = true)
    (approved : attempt.approved = true) :
    ∃ given, number = some given ∧ attempt.pgTid = some given := by
  have result : attempt.result = .approved := by
    simpa [PayAttempt.approved] using approved
  simp only [World.truthfulRefund, result, Bool.and_eq_true, beq_iff_eq]
    at truthful
  obtain ⟨given, equal⟩ := Option.isSome_iff_exists.mp truthful.1
  exact ⟨given, equal, truthful.2.trans equal⟩

theorem approvedPayment_some
    {orderId : Nat} {payment : Payment} {db : Db}
    (found : approvedPayment orderId db = some payment) :
    payment ∈ db.payments ∧ payment.orderId = orderId ∧
      payment.status = .approved := by
  have listed :=
    (List.mem_insertionSort _).mp (List.mem_of_mem_head? found)
  obtain ⟨member, both⟩ := List.mem_filter.mp listed
  simp only [Bool.and_eq_true, beq_iff_eq] at both
  exact ⟨member, both⟩

namespace World.Honest

variable {world next : World} {action : Action} {before after : Option Task}
variable {books : Books}

/-- A confirmation runs under the number of its order's approval. -/
theorem confirms_approves (honest : world.Honest)
    (truthful : world.truthful action = true)
    (known : ∀ task ∈ before, task ∈ world.tasks)
    {orderId : Nat} {pgTid : String}
    (source :
      (∃ amount,
        before = some (.settling (.confirming orderId pgTid amount))) ∨
      (before = none ∧ action = .webhook orderId pgTid)) :
    world.approves orderId pgTid = true := by
  rcases source with ⟨amount, rfl⟩ | ⟨-, rfl⟩
  · exact (honest.numbered _ (known _ rfl)).1
  · exact truthful

/-- The new task of a turn is numbered by the books after it. -/
theorem numbered_after (honest : world.Honest)
    (truthful : world.truthful action = true)
    (current : world.taskOf action = before)
    (known : ∀ task ∈ before, task ∈ world.tasks)
    (turn : Turn world action before after books) :
    ∀ task ∈ after, task.Numbered books := by
  have grows := turn.grows honest.consistent
  have numbered : ∀ task ∈ before, task.Numbered world.toBooks :=
    fun task member => honest.numbered task (known task member)
  have quietNumbered :
      ∀ {task : Option Task} {later : Books}, Quiet task →
        ∀ busy ∈ task, busy.Numbered later := by
    intro task later quiet busy member
    obtain ⟨orderId, rfl⟩ := quiet busy member
    trivial
  cases turn with
  | idle passing quiet => exact quietNumbered quiet
  | acquired => simp
  | released => simp
  | swept => simp
  | opened opened =>
      rintro _ ⟨⟩
      refine ⟨_, ?_, rfl, rfl⟩
      rw [opened.after_eq]
      exact List.mem_append_right _ (List.mem_singleton_self _)
  | approvalExecuted =>
      rintro _ ⟨⟩
      exact (numbered _ rfl).mono grows
  | approved asked result number sum =>
      rintro _ ⟨⟩
      refine ⟨approves_of_truthful truthful current asked result number, ?_⟩
      intro requested member
      have task := numbered _ rfl
      rw [sum requested member] at task
      exact task
  | declined =>
      rintro _ ⟨⟩
      trivial
  | confirmed confirms source confirmed quiet => exact quietNumbered quiet
  | expired =>
      rintro _ ⟨⟩
      have task := numbered _ rfl
      exact task
  | compensating member =>
      rename_i index order pgTid amount why
      rintro _ ⟨⟩
      have task := numbered _ rfl
      refine ⟨task.1, ?_, by simp⟩
      cases amount with
      | none => exact ⟨order, member, rfl, rfl⟩
      | some sum => exact task.2 sum rfl
  | refundExecuted =>
      rintro _ ⟨⟩
      have task := numbered _ rfl
      refine ⟨task.1, task.2.1, ?_⟩
      rintro given ⟨⟩
      exact ⟨_, List.mem_append_right _ (List.mem_singleton_self _), rfl, task.1⟩
  | refundAnswered =>
      rintro _ ⟨⟩
      intro approved
      have task := numbered _ rfl
      have answer := truthful
      simp only [World.truthful, current, Option.all_some, truthfulAnswer]
        at answer
      obtain ⟨given, equal, carried⟩ := number_of_truthful answer approved
      exact ⟨given, carried, task.2.2 given equal⟩
  | recorded recorded quiet => exact quietNumbered quiet
  | unrecorded failed quiet => exact quietNumbered quiet
  | closed closed quiet => exact quietNumbered quiet
  | cancelStarted prepared =>
      rintro _ ⟨⟩
      obtain ⟨order, member, payment, idEq, -, found, priced, orderEq, tidEq⟩ :=
        prepareCancel_ok prepared
      obtain ⟨stored, owner, status⟩ := approvedPayment_some found
      obtain ⟨pgTid, carried, approves⟩ :=
        honest.attested payment stored status
      refine ⟨?_, ⟨order, member, by rw [orderEq], by rw [orderEq]⟩, ?_, by simp⟩
      · rw [tidEq, carried, orderEq, idEq, ← owner]
        exact approves
      · intro positive
        rw [orderEq] at positive
        have fee := Policy.cancelFee_nonneg positive priced
        simp only [Cancellation.refundAmount]
        omega
  | cancelExecuted =>
      rintro _ ⟨⟩
      have task := numbered _ rfl
      refine ⟨task.1, task.2.1, task.2.2.1, ?_⟩
      rintro given ⟨⟩
      exact ⟨_, List.mem_append_right _ (List.mem_singleton_self _), rfl, task.1⟩
  | cancelAnswered =>
      rintro _ ⟨⟩
      split
      · rename_i approved
        have task := numbered _ rfl
        have answer := truthful
        simp only [World.truthful, current, Option.all_some, truthfulAnswer]
          at answer
        obtain ⟨given, equal, carried⟩ := number_of_truthful answer approved
        exact ⟨given, carried, task.2.2.2 given equal⟩
      · trivial
  | cancelFailed => simp
  | cancelUnfailed => simp
  | cancelClosed => simp
  | cancelUnclosed => simp

/-- The payments of a turn stay attested. -/
theorem attested_after (honest : world.Honest)
    (truthful : world.truthful action = true)
    (current : world.taskOf action = before)
    (known : ∀ task ∈ before, task ∈ world.tasks)
    (turn : Turn world action before after books) :
    books.Attested := by
  have attested := honest.attested
  have grows := turn.grows honest.consistent
  have same :
      books.db.payments = world.db.payments → books.Attested := by
    intro equal
    refine attested.grow grows fun payment member _ => Or.inl ?_
    rwa [equal] at member
  have fewer :
      (∀ payment ∈ books.db.payments, payment.status = .approved →
        payment ∈ world.db.payments) → books.Attested :=
    fun kept =>
      attested.grow grows fun payment member approved =>
        Or.inl (kept payment member approved)
  cases turn with
  | idle => exact attested
  | acquired ok =>
      obtain ⟨-, rfl⟩ := acquireSeats_ok honest.consistent.sound.rowUnique ok
      exact same rfl
  | released => exact same rfl
  | swept => exact same rfl
  | opened opened =>
      apply fewer
      intro payment member approved
      rw [opened.after_eq] at member
      rcases List.mem_append.mp member with old | new
      · exact old
      · rw [List.mem_singleton.mp new] at approved
        cases approved
  | approvalExecuted => exact same rfl
  | approved => exact attested
  | declined => exact attested
  | confirmed confirms source confirmed quiet =>
      have approves :=
        honest.confirms_approves truthful known source
      refine attested.grow grows fun payment member approved => ?_
      rcases confirmed.approved payment member approved with old | ⟨own, carried⟩
      · exact Or.inl old
      · rw [← own] at approves
        exact Or.inr ⟨_, carried, approves⟩
  | expired => exact attested
  | compensating => exact attested
  | refundExecuted => exact same rfl
  | refundAnswered => exact attested
  | recorded recorded => exact fewer (recordRefund_approved recorded)
  | unrecorded => exact attested
  | closed closed => exact fewer (closeUnpaid_approved closed)
  | cancelStarted => exact attested
  | cancelExecuted => exact same rfl
  | cancelAnswered => exact attested
  | cancelFailed recorded =>
      exact fewer (insertPayment_approved recorded (by decide))
  | cancelUnfailed => exact attested
  | cancelClosed closed => exact fewer (closeCanceled_approved closed)
  | cancelUnclosed => exact attested

/-- A sum the ledgers approve for an order is the sum of the order. -/
theorem approval_amount (honest : world.Honest)
    {orderId : Nat} {pgTid : String} {total : Int}
    (approves : world.approves orderId pgTid = true)
    (ordered : world.Orders orderId total) :
    ∃ approval ∈ world.approvals, approval.pgTid = pgTid ∧
      approval.amount = total := by
  obtain ⟨approval, member, both⟩ := List.any_eq_true.mp approves
  simp only [Bool.and_eq_true, beq_iff_eq] at both
  have priced := honest.balanced.priced approval member
  rw [both.1] at priced
  exact
    ⟨approval, member, both.2,
      honest.consistent.sound.orders_eq priced ordered⟩

/-- Numbers stay unique, and a refund never exceeds its approval. -/
theorem balanced_after (honest : world.Honest)
    (known : ∀ task ∈ before, task ∈ world.tasks)
    (turn : Turn world action before after books) :
    books.Balanced := by
  have balanced := honest.balanced
  have grows := turn.grows honest.consistent
  cases turn with
  | idle => exact balanced
  | acquired => exact balanced.keep grows rfl rfl
  | released => exact balanced.keep grows rfl rfl
  | swept => exact balanced.keep grows rfl rfl
  | opened => exact balanced.keep grows rfl rfl
  | approvalExecuted fresh first =>
      have task := honest.numbered _ (known _ rfl)
      exact balanced.approve fresh first task
  | approved => exact balanced
  | declined => exact balanced
  | confirmed => exact balanced.keep grows rfl rfl
  | expired => exact balanced
  | compensating => exact balanced
  | refundExecuted fresh =>
      have task := honest.numbered _ (known _ rfl)
      obtain ⟨approval, member, number, amount⟩ :=
        honest.approval_amount task.1 task.2.1
      refine balanced.refund fresh ⟨approval, member, number, fun _ => ?_⟩
      exact amount.ge
  | refundAnswered => exact balanced
  | recorded => exact balanced.keep grows rfl rfl
  | unrecorded => exact balanced
  | closed => exact balanced.keep grows rfl rfl
  | cancelStarted => exact balanced
  | cancelExecuted fresh =>
      have task := honest.numbered _ (known _ rfl)
      obtain ⟨approval, member, number, amount⟩ :=
        honest.approval_amount task.1 task.2.1
      refine balanced.refund fresh ⟨approval, member, number, fun positive => ?_⟩
      rw [amount] at positive ⊢
      exact task.2.2.1 positive
  | cancelAnswered => exact balanced
  | cancelFailed => exact balanced.keep grows rfl rfl
  | cancelUnfailed => exact balanced
  | cancelClosed => exact balanced.keep grows rfl rfl
  | cancelUnclosed => exact balanced

theorem step (honest : world.Honest)
    (truthful : world.truthful action = true)
    (taken : world.step action = some next) :
    next.Honest := by
  obtain ⟨after, exchange, turn⟩ := step_turn taken
  generalize current : world.taskOf action = before at turn exchange
  have known := exchange.mem_before
  refine
    { consistent := honest.consistent.step taken
      balanced := honest.balanced_after known turn
      attested := honest.attested_after truthful current known turn
      numbered := ?_ }
  intro task member
  rcases exchange.mem member with old | new
  · exact (honest.numbered task old).mono (turn.grows honest.consistent)
  · exact honest.numbered_after truthful current known turn task new

theorem initial
    (inventory : Inventory) (startsAt : Nat → Policy.Datetime) (clock : Time) :
    (World.initial inventory startsAt clock).Honest :=
  { consistent := initial_consistent inventory startsAt clock
    balanced := by constructor <;> simp [World.initial, Books.issued, Table.Unique]
    attested := by simp [World.initial, Books.Attested]
    numbered := by simp [World.initial, tasks] }

end World.Honest

end Curtain
