import Curtain.Keys

/-!
# The books of an order

What the payments, the items, the outbox and the stored answer say about an
order, they say together.  An order that was never confirmed has no approved
payment, no items, no notice and no answer.  A confirmed one has each of these
once, and a canceled one has one more notice.  Every step keeps the books of
every order balanced, whichever path it belongs to and however it ends.
-/

namespace Curtain

open Queries Table HoldService OrderService TransitionSystem

/-! ## The entries of an order -/

/-- The order of a notice. -/
def Payload.orderId : Payload → Nat
  | .paid orderId _ => orderId
  | .canceled orderId _ _ => orderId

/-- The payments of an order in a state. -/
def Db.paymentsOf (db : Db) (orderId : Nat) (status : PayStatus) :
    List Payment :=
  db.payments.filter fun payment =>
    payment.orderId == orderId && payment.status == status

/-- The outbox rows of an order under a topic. -/
def Db.notices (db : Db) (orderId : Nat) (topic : String) : List Outbox :=
  db.outbox.filter fun row =>
    row.payload.orderId == orderId && row.topic == topic

/-- What the tables beside `orders` hold about one order. -/
structure Entries where
  requested : List Int
  approved : List Int
  items : List Nat
  paid : List Outbox
  canceled : List Outbox
deriving DecidableEq, Repr

/-- The sums of its payments, the stock rows of its items, and its notices. -/
def Db.entries (db : Db) (orderId : Nat) : Entries where
  requested := (db.paymentsOf orderId .requested).map (·.amount)
  approved := (db.paymentsOf orderId .approved).map (·.amount)
  items := (db.itemsOf orderId).map (·.scheduleSeatId)
  paid := db.notices orderId "order.paid"
  canceled := db.notices orderId "order.canceled"

/-- The entries agree with the row of the order. -/
structure Entries.Balance (entries : Entries) (order : Order) : Prop where
  requested :
    entries.requested = [] ∨
      (order.status = .pending ∧ entries.requested = [order.totalAmount])
  approved :
    entries.approved = if order.confirmed then [order.totalAmount] else []
  answered :
    ∀ snapshot ∈ order.responseSnapshot,
      snapshot.scheduleSeatIds = entries.items.insertionSort (· ≤ ·)
  paid :
    entries.paid =
      if order.confirmed then
        [{ topic := "order.paid", payload := .paid order.id order.seatIds }]
      else []
  canceled :
    entries.canceled.length =
      if order.confirmed ∧ order.status = .canceled then 1 else 0

/-! ## Entries under the writes -/

section Writes

variable {db after : Db} {orderId other : Nat}

theorem paymentsOf_append (payment : Payment) (status : PayStatus) :
    ({ db with payments := db.payments ++ [payment] } : Db).paymentsOf other
        status =
      db.paymentsOf other status ++
        if payment.orderId = other ∧ payment.status = status then [payment]
        else [] := by
  rw [Db.paymentsOf, Db.paymentsOf, List.filter_append, List.filter_singleton]
  simp [Bool.cond_eq_ite]

theorem notices_append (row : Outbox) (topic : String) :
    ({ db with outbox := db.outbox ++ [row] } : Db).notices other topic =
      db.notices other topic ++
        if row.payload.orderId = other ∧ row.topic = topic then [row]
        else [] := by
  rw [Db.notices, Db.notices, List.filter_append, List.filter_singleton]
  simp [Bool.cond_eq_ite]

/-- The notice of a cancellation is one entry of its order. -/
theorem entries_insertOutbox_canceled {fee refund : Int} :
    (insertOutbox "order.canceled" (.canceled orderId fee refund) db).entries
        other =
      { db.entries other with
        canceled :=
          (db.entries other).canceled ++
            if orderId = other then
              [{ topic := "order.canceled"
                 payload := .canceled orderId fee refund }]
            else [] } := by
  simp only [Db.entries, insertOutbox, notices_append]
  simp [Payload.orderId, Db.paymentsOf, Db.itemsOf]

/-- Failed attempts and refunds are no entries. -/
theorem entries_insertPayment
    {status : PayStatus} {amount : Int} {pgTid : Option String}
    {fees : Option FeeSnapshot}
    (aside : status = .failed ∨ status = .refunded)
    (ok : insertPayment orderId status amount pgTid fees db = .ok after) :
    after.entries other = db.entries other := by
  obtain ⟨-, rfl⟩ := insertPayment_ok.mp ok
  simp only [Db.entries, paymentsOf_append]
  rcases aside with rfl | rfl <;> simp [Db.itemsOf, Db.notices]

/-- Closing the requests of an order moves its requests to the failed payments. -/
theorem paymentsOf_failPendingPayments {status : PayStatus}
    (apart :
      other ≠ orderId ∨ (status ≠ .requested ∧ status ≠ .failed)) :
    (failPendingPayments orderId db).paymentsOf other status =
      db.paymentsOf other status := by
  apply filter_updateWhere_of_apart
  intro row touched
  simp only [isRequested, Bool.and_eq_true, beq_iff_eq] at touched
  rcases apart with different | ⟨notRequested, notFailed⟩
  · simp [touched.1, Ne.symm different]
  · simp [touched.2, notRequested.symm, notFailed.symm]

/-- Closing the requests of an order is no entry of another. -/
theorem entries_failPendingPayments :
    (failPendingPayments orderId db).entries other =
      if other = orderId then { db.entries other with requested := [] }
      else db.entries other := by
  have closed :
      (failPendingPayments orderId db).paymentsOf orderId .requested = [] := by
    rw [Db.paymentsOf, List.filter_eq_nil_iff]
    intro row member
    obtain ⟨old, -, ⟨-, rfl⟩ | ⟨untouched, rfl⟩⟩ := mem_updateWhere.mp member
    · simp
    · simpa [isRequested] using untouched
  have approved :
      (failPendingPayments orderId db).paymentsOf other .approved =
        db.paymentsOf other .approved :=
    paymentsOf_failPendingPayments (Or.inr (by simp))
  by_cases own : other = orderId
  · subst own
    rw [if_pos rfl, Db.entries, closed, approved]
    rfl
  · rw [if_neg own, Db.entries, approved,
      paymentsOf_failPendingPayments (Or.inl own)]
    rfl

end Writes

/-! ## Balance under the writes -/

namespace Entries.Balance

variable {entries : Entries} {order : Order}

/-- Closing the requests of an order keeps its books balanced. -/
theorem unrequested (balance : entries.Balance order) :
    { entries with requested := [] }.Balance order :=
  { balance with requested := Or.inl rfl }

/-- An order that was never confirmed may be closed. -/
theorem closed (balance : entries.Balance order)
    (nothing : entries.requested = []) (unconfirmed : order.confirmed = false)
    (status : OrderStatus) :
    entries.Balance { order with status } where
  requested := Or.inl nothing
  approved := balance.approved
  answered := balance.answered
  paid := balance.paid
  canceled := by
    have none := balance.canceled
    simp only [unconfirmed, Bool.false_eq_true, false_and, if_false] at none
    simp [Order.confirmed] at unconfirmed ⊢
    simpa [unconfirmed] using none

end Entries.Balance

/-! ## Balance under the transactions -/

/-- The entries of every order agree with its row. -/
def Db.Balanced (db : Db) : Prop :=
  ∀ order ∈ db.orders, (db.entries order.id).Balance order

section Transactions

variable {db after : Db} {now : Time}

/-- Nothing is entered for an order that is not in the table. -/
theorem entries_of_unknown (sound : db.Sound)
    (referenced : ∀ payment ∈ db.payments, db.HasOrder payment.orderId)
    (noticed : ∀ row ∈ db.outbox, db.HasOrder row.payload.orderId)
    {orderId : Nat} (unknown : ¬ db.HasOrder orderId) :
    db.entries orderId =
      { requested := [], approved := [], items := [], paid := [], canceled := [] } := by
  have unpaid (status : PayStatus) : db.paymentsOf orderId status = [] := by
    rw [Db.paymentsOf, List.filter_eq_nil_iff]
    intro payment member own
    simp only [Bool.and_eq_true, beq_iff_eq] at own
    exact unknown (own.1 ▸ referenced payment member)
  have unnoticed (topic : String) : db.notices orderId topic = [] := by
    rw [Db.notices, List.filter_eq_nil_iff]
    intro row member own
    simp only [Bool.and_eq_true, beq_iff_eq] at own
    exact unknown (own.1 ▸ noticed row member)
  have itemless : db.itemsOf orderId = [] := by
    rw [Db.itemsOf, List.filter_eq_nil_iff]
    intro item member own
    exact unknown (beq_iff_eq.mp own ▸ sound.owned item member)
  simp [Db.entries, unpaid, unnoticed, itemless]

namespace Db.Balanced

/-- An order has one request at most. -/
theorem requests_le (balanced : db.Balanced) {order : Order}
    (member : order ∈ db.orders) :
    (db.payments.filter (isRequested order.id)).length ≤ 1 := by
  have requested := (balanced order member).requested
  rw [← List.length_map (f := fun payment : Payment => payment.amount)]
  rcases requested with none | ⟨-, one⟩
  · exact (congrArg List.length none).le.trans (Nat.zero_le 1)
  · exact (congrArg List.length one).le

/-- A transaction that touches neither an order nor its entries. -/
theorem of_entries (balanced : db.Balanced) (orders : after.orders = db.orders)
    (entries : ∀ orderId, after.entries orderId = db.entries orderId) :
    after.Balanced := by
  intro order member
  rw [entries]
  rw [orders] at member
  exact balanced order member

/-- Closing the requests of an order. -/
theorem failed (balanced : db.Balanced) {orderId : Nat}
    (orders : after.orders = db.orders)
    (entries :
      ∀ other, after.entries other =
        if other = orderId then { db.entries other with requested := [] }
        else db.entries other) :
    after.Balanced := by
  intro order member
  rw [orders] at member
  rw [entries]
  split
  · exact (balanced order member).unrequested
  · exact balanced order member

/-- Closing a pending order together with its requests. -/
theorem closed (balanced : db.Balanced) (sound : db.Sound) {orderId : Nat}
    (status : OrderStatus)
    (orders : after.orders = (markOrder orderId status .pending db).2.orders)
    (entries :
      ∀ other, after.entries other =
        if other = orderId then { db.entries other with requested := [] }
        else db.entries other) :
    after.Balanced := by
  intro order member
  rw [orders] at member
  rw [entries]
  obtain ⟨old, oldMember, ⟨touched, rfl⟩ | ⟨-, rfl⟩⟩ := mem_updateWhere.mp member
  · simp only [Bool.and_eq_true, beq_iff_eq] at touched
    have unanswered :=
      (sound.fillable old oldMember).unanswered (Or.inl touched.2)
    have unconfirmed : old.confirmed = false := by
      rw [Order.confirmed, unanswered]
      rfl
    rw [if_pos touched.1]
    exact
      (balanced old oldMember).unrequested.closed rfl unconfirmed status
  · split
    · exact (balanced order oldMember).unrequested
    · exact balanced order oldMember

theorem closeUnpaid (balanced : db.Balanced) (sound : db.Sound)
    {orderId : Nat} {status : OrderStatus}
    (ok : OrderService.closeUnpaid orderId status db = .ok after) :
    after.Balanced := by
  rcases closeUnpaid_ok ok with rfl | ⟨order, -, -, -, rfl⟩
  · exact balanced
  · exact balanced.closed sound status rfl fun _ => entries_failPendingPayments

theorem recordRefund (balanced : db.Balanced) (sound : db.Sound)
    {order : Order} {total : Int} {attempt : PayAttempt}
    (ok : OrderService.recordRefund order total attempt db = .ok after) :
    after.Balanced := by
  obtain ⟨middle, inserted, rfl⟩ := recordRefund_ok ok
  have orders := insertPayment_orders inserted
  have entries (other : Nat) :
      (Queries.failPendingPayments order.id middle).entries other =
        if other = order.id then { db.entries other with requested := [] }
        else db.entries other := by
    rw [entries_failPendingPayments, entries_insertPayment (by split <;> simp) inserted]
  split
  · refine balanced.closed sound .failed ?_ entries
    rw [Db.updateSeats_orders]
    simp only [markOrder, updateOrder, Queries.failPendingPayments, orders]
  · exact balanced.failed orders entries

theorem closeCanceled (balanced : db.Balanced) (sound : db.Sound)
    {cancellation : Cancellation} {attempt : PayAttempt}
    (ok : OrderService.closeCanceled cancellation attempt db = .ok after) :
    after.Balanced := by
  rcases closeCanceled_ok ok with ⟨rfl, -⟩ | ⟨paid, refunded, inserted, rfl⟩
  · exact balanced
  · obtain ⟨owner, ownerMember, ownerId, ownerPaid⟩ := paid
    have entries (other : Nat) :
        (restoreOrderSeats cancellation.order.id refunded).2.entries other =
          db.entries other := by
      have same :
          refunded.entries other =
            (markOrder cancellation.order.id .canceled .paid db).2.entries other :=
        entries_insertPayment (Or.inr rfl) inserted
      exact same
    intro order member
    change order ∈ refunded.orders at member
    rw [insertPayment_orders inserted] at member
    rw [entries_insertOutbox_canceled, entries]
    obtain ⟨old, oldMember, ⟨touched, rfl⟩ | ⟨untouched, rfl⟩⟩ :=
      mem_updateWhere.mp member
    · simp only [Bool.and_eq_true, beq_iff_eq] at touched
      have confirmed := (sound.fillable old oldMember).answered touched.2
      have before := balanced old oldMember
      refine
        { requested := ?_
          approved := before.approved
          answered := before.answered
          paid := before.paid
          canceled := ?_ }
      · rcases before.requested with none | ⟨pending, -⟩
        · exact Or.inl none
        · rw [touched.2] at pending
          cases pending
      · have once := before.canceled
        rw [touched.2, if_neg (by simp)] at once
        have after : ({ old with status := .canceled } : Order).confirmed = true :=
          confirmed
        rw [if_pos touched.1.symm, List.length_append, once,
          if_pos ⟨after, rfl⟩]
        rfl
    · have apart : cancellation.order.id ≠ order.id := by
        intro own
        have same := sound.order_eq ownerMember oldMember (ownerId.trans own)
        subst same
        simp [own, ownerPaid] at untouched
      rw [if_neg apart, List.append_nil]
      exact balanced order oldMember

/-- A new order starts with its request. -/
theorem opened (balanced : db.Balanced) (sound : db.Sound)
    (referenced : ∀ payment ∈ db.payments, db.HasOrder payment.orderId)
    (noticed : ∀ row ∈ db.outbox, db.HasOrder row.payload.orderId)
    {request : PlaceRequest} {order : Order}
    (opened : Opened request now db order after) :
    after.Balanced := by
  have unknown : ¬ db.HasOrder order.id := by
    rintro ⟨old, member, equal⟩
    exact (opened.older sound.orderIdBound member).ne equal
  have entries (other : Nat) :
      after.entries other =
        { db.entries other with
          requested :=
            (db.entries other).requested ++
              if order.id = other then [order.totalAmount] else [] } := by
    rw [opened.after_eq]
    simp only [Db.entries]
    change
      Entries.mk
        (List.map _ (Db.paymentsOf { db with payments := _ } other .requested))
        (List.map _ (Db.paymentsOf { db with payments := _ } other .approved))
        _ _ _ = _
    rw [paymentsOf_append, paymentsOf_append]
    by_cases own : order.id = other <;> simp [own, Db.itemsOf, Db.notices]
  intro row member
  rw [entries]
  rcases opened.mem_orders_iff.mp member with old | rfl
  · have apart : order.id ≠ row.id := by
      intro equal
      exact unknown ⟨row, old, equal.symm⟩
    rw [if_neg apart, List.append_nil]
    exact balanced row old
  · rw [if_pos rfl, entries_of_unknown sound referenced noticed unknown]
    rw [opened.order_eq]
    exact
      { requested := Or.inr ⟨rfl, rfl⟩
        approved := rfl
        answered := by simp
        paid := rfl
        canceled := rfl }

end Db.Balanced

namespace Confirmed

variable {order : Order} {pgTid : String}

/-- A confirmation moves a request to the approved payments of its order. -/
theorem paymentsOf (confirmed : Confirmed order pgTid now db after)
    {other : Nat} {status : PayStatus}
    (apart :
      other ≠ order.id ∨ (status ≠ .requested ∧ status ≠ .approved)) :
    after.paymentsOf other status = db.paymentsOf other status := by
  rcases confirmed.promoted with ⟨-, equal⟩ | ⟨-, equal⟩
  · rw [Db.paymentsOf, equal]
    apply filter_updateWhere_of_apart
    intro row touched
    simp only [isRequested, Bool.and_eq_true, beq_iff_eq] at touched
    rcases apart with different | ⟨notRequested, notApproved⟩
    · simp [touched.1, Ne.symm different]
    · simp [touched.2, notRequested.symm, notApproved.symm]
  · rw [Db.paymentsOf, equal, List.filter_append, List.filter_singleton]
    rcases apart with different | ⟨-, notApproved⟩
    · simp [Db.paymentsOf, Bool.cond_eq_ite, Ne.symm different]
    · simp [Db.paymentsOf, Bool.cond_eq_ite, notApproved.symm]

/-- A confirmation enters nothing for the other orders. -/
theorem entries_other (confirmed : Confirmed order pgTid now db after)
    {other : Nat} (apart : other ≠ order.id) :
    after.entries other = db.entries other := by
  have foreign : (order.id == other) = false := by
    simpa using Ne.symm apart
  have payments (status : PayStatus) :
      after.paymentsOf other status = db.paymentsOf other status :=
    confirmed.paymentsOf (Or.inl apart)
  have items : after.itemsOf other = db.itemsOf other := by
    rw [Db.itemsOf, Db.itemsOf, confirmed.orderItems, List.filter_append,
      List.append_right_eq_self, List.filter_eq_nil_iff]
    intro item member
    obtain ⟨row, -, -, rfl⟩ := mem_claims.mp member
    simpa [Order.item] using Ne.symm apart
  have notices (topic : String) :
      after.notices other topic = db.notices other topic := by
    rw [confirmed.after_eq, Db.notices, List.filter_append,
      List.filter_singleton]
    simp only [Payload.orderId, foreign, Bool.false_and, cond_false,
      List.append_nil]
    rfl
  simp only [Db.entries, payments, items, notices]

/-- The request of the order is promoted, or the approval is added. -/
theorem payments_own (confirmed : Confirmed order pgTid now db after)
    (unapproved : db.paymentsOf order.id .approved = [])
    (requested :
      (db.paymentsOf order.id .requested).map (·.amount) = [] ∨
        (db.paymentsOf order.id .requested).map (·.amount) =
          [order.totalAmount]) :
    after.paymentsOf order.id .requested = [] ∧
      (after.paymentsOf order.id .approved).map (·.amount) =
        [order.totalAmount] := by
  have notApproved :
      ∀ row ∈ db.payments,
        (row.orderId == order.id && row.status == .approved) = false := by
    intro row member
    exact Bool.eq_false_iff.mpr (List.filter_eq_nil_iff.mp unapproved row member)
  rcases confirmed.promoted with ⟨⟨payment, member, isOwn⟩, equal⟩ | ⟨none, equal⟩
  · constructor
    · rw [Db.paymentsOf, equal, List.filter_eq_nil_iff]
      intro row rowMember
      obtain ⟨old, -, ⟨-, rfl⟩ | ⟨untouched, rfl⟩⟩ := mem_updateWhere.mp rowMember
      · simp
      · simpa [isRequested] using untouched
    · have promoted :
          after.paymentsOf order.id .approved =
            updatedRows (isRequested order.id)
              (fun payment =>
                { payment with status := .approved, pgTid := some pgTid })
              db.payments := by
        rw [Db.paymentsOf, equal]
        apply filter_updateWhere
        · intro row _ touched
          simp only [isRequested, Bool.and_eq_true] at touched
          simp [touched.1]
        · intro row rowMember _
          exact notApproved row rowMember
      rw [promoted, updatedRows, List.map_map]
      rcases requested with nothing | single
      · rw [List.map_eq_nil_iff] at nothing
        exact absurd isOwn (List.filter_eq_nil_iff.mp nothing payment member)
      · exact single
  · rw [Db.paymentsOf, Db.paymentsOf, equal, List.filter_append,
      List.filter_append]
    constructor
    · rw [List.append_eq_nil_iff, List.filter_eq_nil_iff]
      exact ⟨fun row member => by simpa [isRequested] using none row member, by simp⟩
    · change List.map _ (db.paymentsOf order.id .approved ++ _) = _
      rw [unapproved]
      simp

/-- What a confirmation enters for its own order. -/
theorem entries_own (confirmed : Confirmed order pgTid now db after)
    (sound : db.Sound) (balance : (db.entries order.id).Balance order) :
    after.entries order.id =
      { requested := []
        approved := [order.totalAmount]
        items := (order.claims now db).map (·.scheduleSeatId)
        paid :=
          [{ topic := "order.paid", payload := .paid order.id order.seatIds }]
        canceled := [] } := by
  have unconfirmed := confirmed.unanswered sound
  have unapproved : db.paymentsOf order.id .approved = [] := by
    have none := balance.approved
    rwa [unconfirmed, if_neg Bool.false_ne_true, Db.entries,
      List.map_eq_nil_iff] at none
  obtain ⟨requested, approved⟩ :=
    confirmed.payments_own unapproved (balance.requested.imp_right And.right)
  have items : after.itemsOf order.id = order.claims now db := by
    have noItems := sound.item_of_unconfirmed confirmed.member unconfirmed
    have nothing : db.orderItems.filter (·.orderId == order.id) = [] := by
      rw [List.filter_eq_nil_iff]
      intro item member
      simpa using noItems item member
    rw [Db.itemsOf, confirmed.orderItems, List.filter_append, nothing,
      List.nil_append, List.filter_eq_self]
    intro item member
    obtain ⟨row, -, -, rfl⟩ := mem_claims.mp member
    simp [Order.item]
  have paid := balance.paid
  have canceled := balance.canceled
  rw [unconfirmed, if_neg Bool.false_ne_true] at paid
  rw [unconfirmed, if_neg (by simp), List.length_eq_zero_iff] at canceled
  simp only [Db.entries] at paid canceled
  have notices (topic : String) :
      after.notices order.id topic =
        db.notices order.id topic ++
          if "order.paid" = topic then
            [{ topic := "order.paid"
               payload := .paid order.id order.seatIds }]
          else [] := by
    rw [confirmed.after_eq, Db.notices, List.filter_append,
      List.filter_singleton]
    simp [Payload.orderId, Db.notices, Bool.cond_eq_ite]
  simp only [Db.entries, requested, approved, items, notices, paid, canceled]
  simp

/-- A confirmation keeps the books balanced. -/
theorem balanced (confirmed : Confirmed order pgTid now db after)
    (sound : db.Sound) (balanced : db.Balanced) :
    after.Balanced := by
  intro row member
  rcases (confirmed.mem_orders sound).mp member with rfl | ⟨old, apart⟩
  · have own :=
      confirmed.entries_own sound (balanced order confirmed.member)
    refine
      { requested := Or.inl ?_
        approved := ?_
        answered := ?_
        paid := ?_
        canceled := ?_ }
    · exact congrArg Entries.requested own
    · exact congrArg Entries.approved own
    · intro snapshot answered
      cases answered
      exact congrArg (fun entries => entries.items.insertionSort (· ≤ ·)) own.symm
    · exact congrArg Entries.paid own
    · exact congrArg (fun entries => entries.canceled.length) own
  · rw [confirmed.entries_other apart]
    exact balanced row old

end Confirmed

end Transactions

/-! ## Every run -/

/-- The books of every order are balanced, and every notice is of an order. -/
structure World.Bookkept (world : World) : Prop where
  recorded : world.Recorded
  noticed : ∀ row ∈ world.db.outbox, world.db.HasOrder row.payload.orderId
  balanced : world.db.Balanced

namespace World.Bookkept

variable {world next : World} {action : Action} {before after : Option Task}
variable {books : Books}

theorem insertPayment_outbox
    {orderId : Nat} {status : PayStatus} {amount : Int}
    {pgTid : Option String} {fees : Option FeeSnapshot} {db after : Db}
    (ok : insertPayment orderId status amount pgTid fees db = .ok after) :
    after.outbox = db.outbox := by
  obtain ⟨-, rfl⟩ := insertPayment_ok.mp ok
  rfl

/-- A notice after a turn was there before it, or is of an order in the table. -/
theorem noticed_after (bookkept : world.Bookkept)
    (turn : Turn world action before after books) :
    ∀ row ∈ books.db.outbox, books.db.HasOrder row.payload.orderId := by
  have consistent := bookkept.recorded.consistent
  have grows := turn.grows consistent
  have old {row : Outbox} (member : row ∈ world.db.outbox) :
      books.db.HasOrder row.payload.orderId :=
    grows.hasOrder (bookkept.noticed row member)
  intro row member
  cases turn with
  | acquired ok =>
      obtain ⟨-, rfl⟩ := acquireSeats_ok consistent.sound.rowUnique ok
      exact old member
  | opened opened =>
      have listed := member
      dsimp only at listed
      rw [opened.after_eq] at listed
      exact old listed
  | confirmed confirms source confirmed quiet =>
      dsimp only at member
      rw [confirmed.after_eq] at member
      rcases List.mem_append.mp member with earlier | new
      · exact old earlier
      · rw [List.mem_singleton.mp new]
        exact grows.hasOrder ⟨_, confirmed.member, rfl⟩
  | recorded recorded =>
      obtain ⟨middle, inserted, equal⟩ := recordRefund_ok recorded
      have same : middle.outbox = world.db.outbox := insertPayment_outbox inserted
      dsimp only at member
      rw [equal] at member
      apply old
      rw [← same]
      split at member <;> exact member
  | closed closed =>
      rcases closeUnpaid_ok closed with rfl | ⟨owner, -, -, -, rfl⟩ <;>
        exact old member
  | cancelFailed recorded =>
      apply old
      rw [← insertPayment_outbox recorded]
      exact member
  | cancelClosed closed =>
      rcases closeCanceled_ok closed with ⟨rfl, -⟩ | ⟨paid, refunded, inserted, rfl⟩
      · exact old member
      · rcases List.mem_append.mp member with earlier | new
        · apply old
          have same := insertPayment_outbox inserted
          change row ∈ refunded.outbox at earlier
          rw [same] at earlier
          exact earlier
        · obtain ⟨owner, ownerMember, ownerId, -⟩ := paid
          rw [List.mem_singleton.mp new]
          exact grows.hasOrder ⟨owner, ownerMember, ownerId⟩
  | _ => exact old member

/-- Every turn keeps the books balanced. -/
theorem balanced_after (bookkept : world.Bookkept)
    (turn : Turn world action before after books) :
    books.db.Balanced := by
  have balanced := bookkept.balanced
  have sound := bookkept.recorded.consistent.sound
  cases turn with
  | acquired ok =>
      obtain ⟨-, rfl⟩ := acquireSeats_ok sound.rowUnique ok
      exact balanced.of_entries rfl fun _ => rfl
  | released =>
      rw [releaseSeats_snd]
      exact balanced.of_entries rfl fun _ => rfl
  | swept =>
      rename_i batch
      obtain ⟨condition, -, equal⟩ :=
        sweepExpired_snd sound.rowUnique world.clock batch (fun _ => false)
      dsimp only
      rw [equal]
      exact balanced.of_entries rfl fun _ => rfl
  | opened opened =>
      exact
        balanced.opened sound bookkept.recorded.referenced bookkept.noticed opened
  | confirmed confirms source confirmed quiet => exact confirmed.balanced sound balanced
  | recorded recorded => exact balanced.recordRefund sound recorded
  | closed closed => exact balanced.closeUnpaid sound closed
  | cancelFailed recorded =>
      exact
        balanced.of_entries (insertPayment_orders recorded)
          fun _ => entries_insertPayment (Or.inl rfl) recorded
  | cancelClosed closed => exact balanced.closeCanceled sound closed
  | _ => exact balanced

theorem initial
    (inventory : Inventory) (startsAt : Nat → Policy.Datetime) (clock : Time) :
    (World.initial inventory startsAt clock).Bookkept where
  recorded := .initial inventory startsAt clock
  noticed := by simp [World.initial]
  balanced := by simp [World.initial, Db.Balanced]

theorem step (bookkept : world.Bookkept)
    (taken : world.step action = some next) :
    next.Bookkept := by
  obtain ⟨after, exchange, turn⟩ := step_turn taken
  exact
    { recorded := bookkept.recorded.step taken
      noticed := bookkept.noticed_after turn
      balanced := bookkept.balanced_after turn }

end World.Bookkept

/-! ## The past of an order -/

/-- The order has the status. -/
def Db.HasStatus (db : Db) (orderId : Nat) (status : OrderStatus) : Prop :=
  ∃ order ∈ db.orders, order.id = orderId ∧ order.status = status

/-- The order was paid in one of the states. -/
def WasPaid (states : List World) (orderId : Nat) : Prop :=
  ∃ world ∈ states, world.db.HasStatus orderId .paid

/-- The order was paid in one of the states and canceled in the next one. -/
def WasCanceled (states : List World) (orderId : Nat) : Prop :=
  ∃ earlier later : World, [later, earlier] <:+: states ∧
    earlier.db.HasStatus orderId .paid ∧ later.db.HasStatus orderId .canceled

theorem Db.Keeps.trans {db middle after : Db}
    (first : db.Keeps middle) (second : middle.Keeps after) :
    db.Keeps after := by
  intro old member
  obtain ⟨order, orderMember, orderHead, orderStored⟩ := first old member
  obtain ⟨last, lastMember, lastHead, lastStored⟩ := second order orderMember
  exact
    ⟨last, lastMember, lastHead.trans orderHead, fun snapshot stored =>
      lastStored snapshot (orderStored snapshot stored)⟩

theorem WasPaid.cons {states : List World} {orderId : Nat}
    (was : WasPaid states orderId) (world : World) :
    WasPaid (world :: states) orderId := by
  obtain ⟨earlier, member, paid⟩ := was
  exact ⟨earlier, List.mem_cons_of_mem _ member, paid⟩

theorem WasCanceled.cons {states : List World} {orderId : Nat}
    (was : WasCanceled states orderId) (world : World) :
    WasCanceled (world :: states) orderId := by
  obtain ⟨earlier, later, adjacent, paid, canceled⟩ := was
  exact
    ⟨earlier, later, adjacent.trans (List.infix_cons_iff.mpr (Or.inr List.infix_rfl)),
      paid, canceled⟩

/-- What a run with its past satisfies, the latest state first. -/
structure World.Remembers (past : List World) (world : World) : Prop where
  bookkept : world.Bookkept
  sound : ∀ earlier ∈ world :: past, earlier.db.Sound
  keeps :
    (world :: past).Pairwise fun later earlier => earlier.db.Keeps later.db
  paid :
    ∀ order ∈ world.db.orders, order.confirmed = true →
      WasPaid (world :: past) order.id
  canceled :
    ∀ order ∈ world.db.orders,
      (order.confirmed = true ∧ order.status = .canceled ↔
        WasCanceled (world :: past) order.id)

namespace World.Remembers

variable {past : List World} {world next : World} {action : Action}

/-- An order with a stored answer in the past has it now. -/
theorem answer (remembers : world.Remembers past) {earlier : World}
    (member : earlier ∈ world :: past) {old order : Order}
    (oldMember : old ∈ earlier.db.orders) (orderMember : order ∈ world.db.orders)
    (equal : old.id = order.id) {snapshot : Snapshot}
    (stored : old.responseSnapshot = some snapshot) :
    order.responseSnapshot = some snapshot := by
  rcases List.mem_cons.mp member with rfl | before
  · have sound := remembers.bookkept.recorded.consistent.sound
    rw [← sound.order_eq oldMember orderMember equal]
    exact stored
  · obtain ⟨kept, keptMember, keptHead, keptStored⟩ :=
      List.rel_of_pairwise_cons remembers.keeps before old oldMember
    have sound := remembers.bookkept.recorded.consistent.sound
    have same : kept = order :=
      sound.order_eq keptMember orderMember
        ((Order.id_of_head keptHead).trans equal)
    rw [← same]
    exact keptStored snapshot stored

/-- An order was paid at some time exactly when it has a stored answer. -/
theorem wasPaid_iff (remembers : world.Remembers past) {order : Order}
    (member : order ∈ world.db.orders) :
    WasPaid (world :: past) order.id ↔ order.confirmed = true := by
  refine ⟨?_, remembers.paid order member⟩
  rintro ⟨earlier, earlierMember, old, oldMember, equal, paid⟩
  have answered :=
    ((remembers.sound earlier earlierMember).fillable old oldMember).answered paid
  obtain ⟨snapshot, stored⟩ := Option.isSome_iff_exists.mp answered
  have now := remembers.answer earlierMember oldMember member equal stored
  rw [Order.confirmed, now]
  rfl

theorem initial
    (inventory : Inventory) (startsAt : Nat → Policy.Datetime) (clock : Time) :
    (World.initial inventory startsAt clock).Remembers [] where
  bookkept := .initial inventory startsAt clock
  sound := by
    intro earlier member
    rw [List.mem_singleton.mp member]
    exact initial_sound inventory startsAt clock
  keeps := List.pairwise_singleton _ _
  paid := by simp [World.initial]
  canceled := by simp [World.initial]

/-- After a turn the earlier states are still remembered. -/
theorem keeps_after (remembers : world.Remembers past)
    (taken : world.step action = some next) :
    ∀ earlier ∈ world :: past, earlier.db.Keeps next.db := by
  obtain ⟨after, exchange, turn⟩ := step_turn taken
  have last : world.db.Keeps next.db :=
    turn.keeps remembers.bookkept.recorded.consistent
  intro earlier member
  rcases List.mem_cons.mp member with rfl | before
  · exact last
  · exact (List.rel_of_pairwise_cons remembers.keeps before).trans last

/-- A row after a step is a new one, or became of an old one. -/
theorem becomes (remembers : world.Remembers past)
    (taken : world.step action = some next) {order : Order}
    (member : order ∈ next.db.orders) :
    (∃ old ∈ world.db.orders, old.Becomes world action (world.taskOf action) order) ∨
      (order.responseSnapshot = none ∧
        ∀ old ∈ world.db.orders, old.id ≠ order.id) := by
  have consistent := remembers.bookkept.recorded.consistent
  obtain ⟨after, exchange, turn⟩ := step_turn taken
  generalize current : world.taskOf action = before at turn exchange
  have known := exchange.mem_before
  refine (turn.order_becomes consistent known order member).imp_right ?_
  rintro ⟨-, request, opened⟩
  exact
    ⟨by rw [opened.order_eq],
      fun old oldMember => (opened.older consistent.sound.orderIdBound oldMember).ne⟩

/-- An order is paid by a step, or was paid before it. -/
theorem paid_after (remembers : world.Remembers past)
    (taken : world.step action = some next) {order : Order}
    (member : order ∈ next.db.orders) (confirmed : order.confirmed = true) :
    WasPaid (next :: world :: past) order.id := by
  have before {old : Order} (oldMember : old ∈ world.db.orders)
      (oldConfirmed : old.confirmed = true) (equal : old.id = order.id) :
      WasPaid (next :: world :: past) order.id := by
    rw [← equal]
    exact (remembers.paid old oldMember oldConfirmed).cons next
  rcases remembers.becomes taken member with ⟨old, oldMember, becomes⟩ | ⟨unanswered, -⟩
  · cases becomes with
    | same => exact before oldMember confirmed rfl
    | paid => exact ⟨next, List.mem_cons_self, _, member, rfl, rfl⟩
    | unpaid => exact before oldMember confirmed rfl
    | refunded => exact before oldMember confirmed rfl
    | canceled => exact before oldMember confirmed rfl
  · rw [Order.confirmed, unanswered] at confirmed
    cases confirmed

/-- A confirmed order is canceled by a step, or was canceled before it. -/
theorem canceled_after (remembers : world.Remembers past)
    (taken : world.step action = some next) {order : Order}
    (member : order ∈ next.db.orders) (confirmed : order.confirmed = true)
    (canceled : order.status = .canceled) :
    WasCanceled (next :: world :: past) order.id := by
  have sound := remembers.bookkept.recorded.consistent.sound
  rcases remembers.becomes taken member with ⟨old, oldMember, becomes⟩ | ⟨unanswered, -⟩
  · cases becomes with
    | same =>
        exact
          ((remembers.canceled order oldMember).mp ⟨confirmed, canceled⟩).cons next
    | paid => cases canceled
    | unpaid status pending =>
        have unanswered := (sound.fillable old oldMember).unanswered (Or.inl pending)
        have stored : old.responseSnapshot.isSome = true := confirmed
        rw [unanswered] at stored
        cases stored
    | refunded => cases canceled
    | canceled cancellation attempt paid =>
        refine ⟨world, next, ?_, ⟨old, oldMember, rfl, paid⟩, ⟨_, member, rfl, rfl⟩⟩
        exact (List.prefix_append [next, world] past).isInfix
  · rw [Order.confirmed, unanswered] at confirmed
    cases confirmed

/-- What was paid and canceled is confirmed and canceled. -/
theorem of_wasCanceled (remembers : world.Remembers past)
    (taken : world.step action = some next) (after : next.db.Sound)
    {order : Order} (member : order ∈ next.db.orders)
    (was : WasCanceled (next :: world :: past) order.id) :
    order.confirmed = true ∧ order.status = .canceled := by
  have sound := remembers.bookkept.recorded.consistent.sound
  -- An order that was confirmed before the step is the row it became of.
  have kept {earlier : World} (earlierMember : earlier ∈ world :: past)
      {old : Order} (oldMember : old ∈ earlier.db.orders)
      (equal : old.id = order.id) (confirmed : old.confirmed = true) :
      order.confirmed = true := by
    obtain ⟨snapshot, stored⟩ := Option.isSome_iff_exists.mp confirmed
    obtain ⟨row, rowMember, rowHead, rowStored⟩ :=
      remembers.keeps_after taken earlier earlierMember old oldMember
    have same : row = order :=
      after.order_eq rowMember member ((Order.id_of_head rowHead).trans equal)
    rw [Order.confirmed, ← same, rowStored snapshot stored]
    rfl
  obtain ⟨earlier, later, adjacent, ⟨old, oldMember, oldId, paid⟩, canceled⟩ := was
  rcases List.infix_cons_iff.mp adjacent with first | rest
  · obtain ⟨rfl, second⟩ := List.cons_prefix_cons.mp first
    obtain ⟨rfl, -⟩ := List.cons_prefix_cons.mp second
    obtain ⟨row, rowMember, rowId, rowCanceled⟩ := canceled
    rw [after.order_eq rowMember member rowId] at rowCanceled
    have answered := (sound.fillable old oldMember).answered paid
    exact ⟨kept List.mem_cons_self oldMember oldId answered, rowCanceled⟩
  · -- It was canceled before the step: its row in the last state is.
    obtain ⟨row, rowMember, rowId, rowCanceled⟩ := canceled
    have laterMember : later ∈ world :: past := rest.subset List.mem_cons_self
    obtain ⟨last, lastMember, lastId⟩ :
        ∃ last ∈ world.db.orders, last.id = order.id := by
      rcases List.mem_cons.mp laterMember with rfl | before
      · exact ⟨row, rowMember, rowId⟩
      · obtain ⟨last, lastMember, lastHead, -⟩ :=
          List.rel_of_pairwise_cons remembers.keeps before row rowMember
        exact ⟨last, lastMember, (Order.id_of_head lastHead).trans rowId⟩
    have lastCanceled : last.confirmed = true ∧ last.status = .canceled := by
      apply (remembers.canceled last lastMember).mpr
      rw [lastId]
      exact
        ⟨earlier, later, rest, ⟨old, oldMember, oldId, paid⟩,
          ⟨row, rowMember, rowId, rowCanceled⟩⟩
    refine ⟨kept List.mem_cons_self lastMember lastId lastCanceled.1, ?_⟩
    rcases remembers.becomes taken member with ⟨source, sourceMember, becomes⟩ | ⟨-, fresh⟩
    · have same : source = last :=
        sound.order_eq sourceMember lastMember
          ((Order.id_of_head becomes.head).symm.trans lastId.symm)
      subst same
      cases becomes with
      | same => exact lastCanceled.2
      | paid snapshot pgTid pending => rw [lastCanceled.2] at pending; cases pending
      | unpaid status pending => rw [lastCanceled.2] at pending; cases pending
      | refunded refunded total why attempt pending =>
          rw [lastCanceled.2] at pending
          cases pending
      | canceled => rfl
    · exact absurd lastId (fresh last lastMember)

theorem step (remembers : world.Remembers past)
    (taken : world.step action = some next) :
    next.Remembers (world :: past) := by
  have bookkept := remembers.bookkept.step taken
  have sound := bookkept.recorded.consistent.sound
  refine
    { bookkept
      sound := ?_
      keeps := ?_
      paid := ?_
      canceled := ?_ }
  · intro earlier member
    rcases List.mem_cons.mp member with rfl | before
    · exact sound
    · exact remembers.sound earlier before
  · exact List.pairwise_cons.mpr ⟨remembers.keeps_after taken, remembers.keeps⟩
  · intro order member confirmed
    exact remembers.paid_after taken member confirmed
  · intro order member
    constructor
    · rintro ⟨confirmed, canceled⟩
      exact remembers.canceled_after taken member confirmed canceled
    · exact remembers.of_wasCanceled taken sound member

/-- A stored answer is the one it was when the order was paid. -/
theorem unchanged (remembers : world.Remembers past) {order : Order}
    (member : order ∈ world.db.orders) {earlier : World} {before : List World}
    (suffix : earlier :: before <:+ past)
    (was : WasPaid (earlier :: before) order.id) {row : Order}
    (rowMember : row ∈ earlier.db.orders) (equal : row.id = order.id) :
    row.responseSnapshot = order.responseSnapshot := by
  obtain ⟨since, sinceMember, old, oldMember, oldId, paid⟩ := was
  have inRun {state : World} (listed : state ∈ earlier :: before) :
      state ∈ world :: past :=
    List.mem_cons_of_mem _ (suffix.subset listed)
  have answered :=
    ((remembers.sound since (inRun sinceMember)).fillable old oldMember).answered
      paid
  obtain ⟨snapshot, stored⟩ := Option.isSome_iff_exists.mp answered
  have ordered :=
    (List.pairwise_cons.mp remembers.keeps).2.sublist suffix.sublist
  have kept : row.responseSnapshot = some snapshot := by
    have sound := remembers.sound earlier (inRun List.mem_cons_self)
    rcases List.mem_cons.mp sinceMember with rfl | sooner
    · rw [← sound.order_eq oldMember rowMember (oldId.trans equal.symm)]
      exact stored
    · obtain ⟨last, lastMember, lastHead, lastStored⟩ :=
        List.rel_of_pairwise_cons ordered sooner old oldMember
      have same : last = row :=
        sound.order_eq lastMember rowMember
          ((Order.id_of_head lastHead).trans (oldId.trans equal.symm))
      rw [← same]
      exact lastStored snapshot stored
  rw [kept, remembers.answer (inRun sinceMember) oldMember member oldId stored]

end World.Remembers

/-! ## Balance -/

/-- The books of an order balance in the last state of a run. -/
structure World.BooksBalance (past : List World) (world : World)
    (order : Order) : Prop where
  unpaid :
    (order.status = .pending ∨ order.status = .failed ∨
        (order.status = .canceled ∧ ¬ WasPaid (world :: past) order.id)) →
      world.db.paymentsOf order.id .approved = [] ∧
        world.db.itemsOf order.id = [] ∧ order.responseSnapshot = none
  approved :
    WasPaid (world :: past) order.id →
      ∃ payment, world.db.paymentsOf order.id .approved = [payment] ∧
        payment.amount = order.totalAmount
  noticed :
    WasPaid (world :: past) order.id →
      ∃ notice, world.db.notices order.id "order.paid" = [notice]
  answered :
    WasPaid (world :: past) order.id →
      ∃ snapshot, order.responseSnapshot = some snapshot ∧
        snapshot.scheduleSeatIds =
          ((world.db.itemsOf order.id).map
            (·.scheduleSeatId)).insertionSort (· ≤ ·)
  unchanged :
    ∀ (earlier : World) (before : List World), earlier :: before <:+ past →
      WasPaid (earlier :: before) order.id →
        ∀ row ∈ earlier.db.orders, row.id = order.id →
          row.responseSnapshot = order.responseSnapshot
  requested :
    (world.db.paymentsOf order.id .requested).length ≤ 1 ∧
      (world.db.paymentsOf order.id .requested ≠ [] → order.status = .pending)
  canceled :
    (world.db.notices order.id "order.canceled" ≠ [] ↔
        WasCanceled (world :: past) order.id) ∧
      (world.db.notices order.id "order.canceled").length ≤ 1

namespace World

variable {past : List World} {world : World}

theorem Remembers.booksBalance (remembers : world.Remembers past)
    {order : Order} (member : order ∈ world.db.orders) :
    world.BooksBalance past order := by
  have sound := remembers.bookkept.recorded.consistent.sound
  have balance := remembers.bookkept.balanced order member
  have wasPaid := remembers.wasPaid_iff member
  have wasCanceled := remembers.canceled order member
  refine
    { unpaid := ?_
      approved := ?_
      noticed := ?_
      answered := ?_
      unchanged := ?_
      requested := ?_
      canceled := ?_ }
  · intro closed
    have unanswered : order.responseSnapshot = none := by
      rcases closed with pending | failed | ⟨-, never⟩
      · exact (sound.fillable order member).unanswered (Or.inl pending)
      · exact (sound.fillable order member).unanswered (Or.inr failed)
      · rw [wasPaid] at never
        simpa [Order.confirmed] using never
    have unconfirmed : order.confirmed = false := by
      simp [Order.confirmed, unanswered]
    have approved := balance.approved
    have items := sound.filled order member
    rw [unconfirmed, if_neg Bool.false_ne_true] at approved items
    exact
      ⟨List.map_eq_nil_iff.mp approved, List.perm_nil.mp items, unanswered⟩
  · intro was
    have approved := balance.approved
    rw [if_pos (wasPaid.mp was)] at approved
    obtain ⟨payment, single, amount⟩ := List.map_eq_singleton_iff.mp approved
    exact ⟨payment, single, amount⟩
  · intro was
    have paid := balance.paid
    rw [if_pos (wasPaid.mp was)] at paid
    exact ⟨_, paid⟩
  · intro was
    obtain ⟨snapshot, stored⟩ := Option.isSome_iff_exists.mp (wasPaid.mp was)
    exact ⟨snapshot, stored, balance.answered snapshot stored⟩
  · intro earlier before suffix was row rowMember equal
    exact remembers.unchanged member suffix was rowMember equal
  · have requested := balance.requested
    simp only [Db.entries, List.map_eq_nil_iff] at requested
    rcases requested with none | ⟨pending, single⟩
    · simp [none]
    · obtain ⟨payment, equal, -⟩ := List.map_eq_singleton_iff.mp single
      exact ⟨by simp [equal], fun _ => pending⟩
  · have canceled := balance.canceled
    change (world.db.notices order.id "order.canceled").length = _ at canceled
    rw [← wasCanceled, ← List.length_pos_iff, canceled]
    split <;> simp_all

/--
In every run of the calls, whatever the gateway answers, the payments, the
items, the notices and the stored answer of every order balance.
-/
theorem order_books_balance
    {inventory : Inventory} {startsAt : Nat → Policy.Datetime} {clock : Time}
    (run :
      TransitionSystem.Trace World.step (fun _ _ => True)
        (World.initial inventory startsAt clock) past world) :
    ∀ order ∈ world.db.orders, world.BooksBalance past order := by
  have remembers : world.Remembers past :=
    run.invariant (.initial inventory startsAt clock)
      fun _ _ _ _ remembers _ taken => remembers.step taken
  intro order member
  exact remembers.booksBalance member

/-- A purchase that is canceled has the books of a canceled order. -/
theorem order_books_balance_canceled :
    ∃ past world,
      (world.db.orders.map (·.status) = [.canceled] ∧
          world.db.outbox.length = 2) ∧
        ∀ order ∈ world.db.orders, BooksBalance past world order := by
  obtain ⟨past, world, run, seen⟩ :=
    TransitionSystem.Trace.exists_of_checkedTrace World.step
      (fun _ _ => True) World.oneSeat
      (Action.order 7 "key" ++ Action.pay "tid-1" ++
        [.startCancel 1 none,
         .execute 0 "refund-1",
         .answer 0 { result := .approved, pgTid := some "refund-1" },
         .advance 0])
      (fun run =>
        decide
          (run.2.db.orders.map (·.status) = [.canceled] ∧
            run.2.db.outbox.length = 2))
      (by decide)
  exact ⟨past, world, of_decide_eq_true seen, order_books_balance run⟩

end World

end Curtain
