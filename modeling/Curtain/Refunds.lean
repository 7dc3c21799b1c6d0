import Curtain.Settlement

/-!
# Refunds

A refund is requested outside of any transaction, after a confirmation was
rolled back or before a cancellation is written, and other paths go on in the
meantime.  This module says when a refunded order keeps no seats, and when an
order is refunded at most once.
-/

namespace Curtain

open Queries Table HoldService OrderService

/-! ## Conditions -/

/-- The order is pending, and all its seats are validly held by its user. -/
def Order.confirmable (order : Order) (now : Time) (db : Db) : Bool :=
  order.status == .pending && !order.seatIds.isEmpty &&
    (order.claims now db).length == order.seatIds.length

/-- The order the action runs `confirm_paid` on would pass its seat checks. -/
def World.findsConfirmable (world : World) (action : Action) : Bool :=
  (world.confirms action).any fun confirm =>
    (orderForSaga confirm.1 world.db).any fun order =>
      order.confirmable world.clock world.db

/-- The order for which the task is about to ask for a compensation. -/
def Task.compensates : Task → Option Nat
  | .settling (.compensating orderId _ _ _) => some orderId
  | .settling (.refunding order _ _ _ _) => some order.id
  | _ => none

/--
An order whose compensation is under way, or whose money went back already, is
not found confirmable.
-/
def World.leavesRefunded (world : World) (action : Action) : Bool :=
  !(world.findsConfirmable action &&
    (world.confirms action).any fun confirm =>
      world.refunded confirm.1 ||
        world.tasks.any fun task => task.compensates == some confirm.1)

/-! ## What a confirmation finds -/

section Confirming

variable {world : World} {action : Action} {order : Order} {pgTid : String}
variable {db : Db}

theorem Confirmed.confirmable {now : Time}
    (confirmed : Confirmed order pgTid now db after)
    (sound : db.Sound) :
    order.confirmable now db = true := by
  have pending := confirmed.row_pending sound.orderIdUnique
  have nonempty := confirmed.nonempty
  have complete := confirmed.complete
  simp [Order.confirmable, pending, complete, nonempty]

theorem Confirmed.findsConfirmable {after : Db}
    (confirmed : Confirmed order pgTid world.clock world.db after)
    (sound : world.db.Sound)
    (confirms : world.confirms action = some (order.id, pgTid)) :
    world.findsConfirmable action = true := by
  have found := sound.found confirmed.member
  simp [World.findsConfirmable, confirms, found, confirmed.confirmable sound]

end Confirming

/-- A paid order was paid before the turn, or the turn confirmed it. -/
theorem Turn.paid_before
    {world : World} {action : Action} {before after : Option Task}
    {books : Books}
    (consistent : world.Consistent)
    (known : ∀ task ∈ before, task ∈ world.tasks)
    (turn : Turn world action before after books) :
    ∀ order ∈ books.db.orders, order.status = .paid →
      order ∈ world.db.orders ∨
        ∃ confirmed pgTid, confirmed.id = order.id ∧
          world.confirms action = some (order.id, pgTid) ∧
          Confirmed confirmed pgTid world.clock world.db books.db ∧
          books = { world.toBooks with db := books.db } ∧ Quiet after := by
  have sound := consistent.sound
  intro order member paid
  cases turn with
  | acquired ok =>
      obtain ⟨-, rfl⟩ := acquireSeats_ok sound.rowUnique ok
      exact Or.inl member
  | opened opened =>
      rcases opened.mem_orders_iff.mp member with old | rfl
      · exact Or.inl old
      · rw [opened.pending] at paid
        cases paid
  | confirmed confirms source confirmed quiet =>
      rcases (confirmed.mem_orders sound).mp member with rfl | ⟨old, -⟩
      · refine Or.inr ⟨_, _, ?_, confirms, confirmed, rfl, quiet⟩
        rfl
      · exact Or.inl old
  | recorded recorded =>
      obtain ⟨middle, inserted, equal⟩ := recordRefund_ok recorded
      have same := insertPayment_orders inserted
      left
      rw [← same]
      dsimp only at member
      rw [equal] at member
      split at member
      · exact paid_markOrder (by decide) member paid
      · exact member
  | @closed index orderId status _ stored closed quiet =>
      have final := consistent.closings _ (known _ rfl)
      have unpaid : status ≠ .paid := by
        rcases final with equal | equal <;> rw [equal] <;> decide
      left
      rcases closeUnpaid_ok closed with rfl | ⟨owner, -, -, -, rfl⟩
      · exact member
      · exact paid_markOrder unpaid member paid
  | cancelFailed recorded =>
      left
      rw [← insertPayment_orders recorded]
      exact member
  | cancelClosed closed =>
      left
      rcases closeCanceled_ok closed with ⟨rfl, -⟩ | ⟨-, refunded, inserted, rfl⟩
      · exact member
      · have same := insertPayment_orders inserted
        have listed : order ∈ refunded.orders := member
        rw [same] at listed
        exact paid_markOrder (by decide) listed paid
  | _ => exact Or.inl member

/-! ## Refunds of one order -/

section Ledgers

variable {books : Books}

/-- Two orders with the same approval number are one. -/
theorem Books.Balanced.approves_eq (balanced : books.Balanced)
    {left right : Nat} {pgTid : String}
    (leftApproved : books.approves left pgTid = true)
    (rightApproved : books.approves right pgTid = true) :
    left = right := by
  obtain ⟨first, firstMember, firstEqual⟩ := List.any_eq_true.mp leftApproved
  obtain ⟨second, secondMember, secondEqual⟩ :=
    List.any_eq_true.mp rightApproved
  simp only [Bool.and_eq_true, beq_iff_eq] at firstEqual secondEqual
  have numbers : (books.approvals.map (·.pgTid)).Nodup :=
    (List.nodup_append.mp balanced.issued).1
  have same : first = second :=
    List.inj_on_of_nodup_map numbers firstMember secondMember
      (firstEqual.2.trans secondEqual.2.symm)
  rw [← firstEqual.1, ← secondEqual.1, same]

/-- Executing an approval refunds nobody. -/
theorem Books.Balanced.refundsOf_approve (balanced : books.Balanced)
    {approval : Approval} (fresh : approval.pgTid ∉ books.issued)
    (orderId : Nat) :
    Books.refundsOf { books with approvals := books.approvals ++ [approval] }
        orderId =
      books.refundsOf orderId := by
  apply List.filter_congr
  intro refund member
  obtain ⟨old, oldMember, equal, -⟩ := balanced.refunded refund member
  have other : approval.pgTid ≠ refund.pgTid := by
    intro same
    apply fresh
    rw [same, ← equal]
    exact List.mem_append_left _ (List.mem_map_of_mem oldMember)
  simp [Books.approves, other]

/-- Executing a refund of one order refunds no other. -/
theorem Books.Balanced.refundsOf_refund (balanced : books.Balanced)
    (refund : Refund) {orderId : Nat}
    (approved : books.approves orderId refund.pgTid = true) (other : Nat) :
    Books.refundsOf { books with refunds := books.refunds ++ [refund] } other =
      books.refundsOf other ++ if other = orderId then [refund] else [] := by
  have found :
      books.approves other refund.pgTid = decide (other = orderId) := by
    rw [Bool.eq_iff_iff, decide_eq_true_iff]
    constructor
    · intro otherApproved
      exact balanced.approves_eq otherApproved approved
    · rintro rfl
      exact approved
  show List.filter _ (_ ++ _) = _
  rw [List.filter_append]
  congr 1
  by_cases same : other = orderId
  · have yes : books.approves other refund.pgTid = true := by
      rw [found, decide_eq_true same]
    rw [if_pos same]
    exact List.filter_cons_of_pos yes
  · have no : ¬ books.approves other refund.pgTid = true := by
      rw [found, decide_eq_true_iff]
      exact same
    rw [if_neg same]
    exact List.filter_cons_of_neg no

/-- An order is refunded when a refund of it is in the ledger. -/
theorem Books.refunded_iff {orderId : Nat} :
    books.refunded orderId = true ↔ books.refundsOf orderId ≠ [] := by
  simp [Books.refunded, Books.refundsOf, List.filter_eq_nil_iff]

end Ledgers

/-! ## A refunded order keeps no seats -/

/-- A refunded order is not paid, and no seat is booked through it. -/
def World.KeepsNothing (world : World) : Prop :=
  ∀ order ∈ world.db.orders, world.refunded order.id = true →
    order.status ≠ .paid ∧
      ∀ row ∈ world.db.scheduleSeats, row.status = .booked →
        ∀ item ∈ world.db.orderItems, item.scheduleSeatId = row.id →
          item.orderId ≠ order.id

/-- What holds throughout a run that leaves refunded orders alone. -/
structure World.Unrefunded (world : World) : Prop where
  honest : world.Honest
  noCancel : world.NeverCancels
  paid :
    ∀ order ∈ world.db.orders, order.status = .paid →
      world.refunded order.id = false ∧
        ∀ task ∈ world.tasks, task.compensates ≠ some order.id

namespace World

variable {world next : World} {action : Action}

theorem Unrefunded.keepsNothing (unrefunded : world.Unrefunded) :
    world.KeepsNothing := by
  have sound := unrefunded.honest.consistent.sound
  intro order member refunded
  have unpaid : order.status ≠ .paid := by
    intro paid
    have kept := (unrefunded.paid order member paid).1
    rw [refunded] at kept
    cases kept
  refine ⟨unpaid, ?_⟩
  intro row rowMember booked item itemMember seat owns
  obtain ⟨sold, soldMember, soldSeat, owner, ownerMember, ownerId, paid⟩ :=
    (sound.booked row rowMember).mp booked
  have same : sold = item :=
    sound.item_eq soldMember itemMember (soldSeat.trans seat.symm)
  have owner_eq : owner = order :=
    sound.order_eq ownerMember member (by rw [ownerId, same, owns])
  exact unpaid (owner_eq ▸ paid)

/-- The new task of a turn compensates no paid order. -/
theorem Unrefunded.compensates_after (unrefunded : world.Unrefunded)
    {before after : Option Task} {books : Books}
    (known : ∀ task ∈ before, task ∈ world.tasks)
    (turn : Turn world action before after books) :
    ∀ task ∈ after, ∀ order ∈ world.db.orders, order.status = .paid →
      task.compensates ≠ some order.id := by
  have sound := unrefunded.honest.consistent.sound
  have quietTask :
      Quiet after → ∀ task ∈ after, ∀ order ∈ world.db.orders,
        order.status = .paid → task.compensates ≠ some order.id := by
    intro quiet task member order _ _
    obtain ⟨orderId, rfl⟩ := quiet task member
    simp [Task.compensates]
  cases turn with
  | idle passing quiet => exact quietTask quiet
  | confirmed confirms source confirmed quiet => exact quietTask quiet
  | recorded recorded quiet => exact quietTask quiet
  | unrecorded failed quiet => exact quietTask quiet
  | closed closed quiet => exact quietTask quiet
  | expired confirms pending =>
      rintro _ ⟨⟩ order member paid equal
      obtain ⟨row, rowMember, rowId, rowPending⟩ := pending
      cases equal
      have same := sound.order_eq rowMember member rowId
      rw [same, paid] at rowPending
      cases rowPending
  | compensating member =>
      rintro _ ⟨⟩ order orderMember paid
      have kept :=
        (unrefunded.paid order orderMember paid).2 _ (known _ rfl)
      exact kept
  | refundExecuted =>
      rintro _ ⟨⟩ order orderMember paid
      have kept :=
        (unrefunded.paid order orderMember paid).2 _ (known _ rfl)
      exact kept
  | _ => simp [Task.compensates]

/-- No turn refunds an order that was paid before it. -/
theorem Unrefunded.refunded_after (unrefunded : world.Unrefunded)
    {before after : Option Task} {books : Books}
    (known : ∀ task ∈ before, task ∈ world.tasks)
    (turn : Turn world action before after books) :
    ∀ order ∈ world.db.orders, order.status = .paid →
      books.refunded order.id = false := by
  have honest := unrefunded.honest
  have kept :
      ∀ order ∈ world.db.orders, order.status = .paid →
        world.refunded order.id = false :=
    fun order member paid => (unrefunded.paid order member paid).1
  intro order member paid
  have unrefunded := kept order member paid
  cases turn with
  | approvalExecuted fresh first =>
      rw [Bool.eq_false_iff, ne_eq, Books.refunded_iff, not_not] at unrefunded ⊢
      exact (honest.balanced.refundsOf_approve fresh order.id).trans unrefunded
  | refundExecuted fresh =>
      have busy := known _ rfl
      have approved := (honest.numbered _ busy).1
      have other : order.id ≠ _ := fun equal =>
        (‹world.Unrefunded›.paid order member paid).2 _ busy
          (congrArg some equal.symm)
      rw [Bool.eq_false_iff, ne_eq, Books.refunded_iff, not_not] at unrefunded ⊢
      refine (honest.balanced.refundsOf_refund _ approved order.id).trans ?_
      rw [unrefunded, if_neg other]
      rfl
  | cancelExecuted => exact absurd (known _ rfl) (‹world.Unrefunded›.noCancel _ _)
  | _ => exact unrefunded

theorem Unrefunded.step (unrefunded : world.Unrefunded)
    (noCancel : action.cancels = false)
    (truthful : world.truthful action = true)
    (leaves : world.leavesRefunded action = true)
    (taken : world.step action = some next) :
    next.Unrefunded := by
  have honest := unrefunded.honest
  have sound := honest.consistent.sound
  obtain ⟨after, exchange, turn⟩ := step_turn taken
  generalize current : world.taskOf action = before at turn exchange
  have known := exchange.mem_before
  refine
    { honest := honest.step truthful taken
      noCancel := unrefunded.noCancel.step noCancel taken
      paid := ?_ }
  intro order member paid
  rcases turn.paid_before honest.consistent known order member paid with
    old | ⟨owner, pgTid, equal, confirms, confirmed, books, quiet⟩
  · refine ⟨unrefunded.refunded_after known turn order old paid, ?_⟩
    intro task taskMember
    rcases exchange.mem taskMember with oldTask | newTask
    · exact (unrefunded.paid order old paid).2 task oldTask
    · exact unrefunded.compensates_after known turn task newTask order old paid
  · -- The turn confirmed the order, so nobody was giving its money back.
    rw [← equal] at confirms ⊢
    have found := confirmed.findsConfirmable sound confirms
    simp only [leavesRefunded, found, confirms, Option.any_some, Bool.true_and,
      Bool.not_eq_true', Bool.or_eq_false_iff, List.any_eq_false,
      beq_iff_eq] at leaves
    refine ⟨by rw [books]; exact leaves.1, ?_⟩
    intro task taskMember
    rcases exchange.mem taskMember with oldTask | newTask
    · exact leaves.2 task oldTask
    · obtain ⟨orderId, rfl⟩ := quiet task newTask
      simp [Task.compensates]

theorem Unrefunded.initial
    (inventory : Inventory) (startsAt : Nat → Policy.Datetime) (clock : Time) :
    (World.initial inventory startsAt clock).Unrefunded :=
  { honest := .initial inventory startsAt clock
    noCancel := by simp [NeverCancels, World.initial, tasks]
    paid := by simp [World.initial] }

/-- Purchases in which no order that is given up is confirmed. -/
def decidedPurchases (world : World) (action : Action) : Prop :=
  world.purchases action ∧ world.leavesRefunded action = true

instance (world : World) (action : Action) :
    Decidable (world.decidedPurchases action) :=
  inferInstanceAs (Decidable (_ ∧ _))

/--
In every run of purchases in which no order that is given up is confirmed, a
refunded order keeps no seats.
-/
theorem refunded_keeps_nothing
    {inventory : Inventory} {startsAt : Nat → Policy.Datetime} {clock : Time}
    {world : World}
    (run :
      TransitionSystem.RunWhere World.step World.decidedPurchases
        (World.initial inventory startsAt clock) world) :
    world.KeepsNothing := by
  have unrefunded : world.Unrefunded :=
    run.invariant (.initial inventory startsAt clock)
      fun _ _ _ unrefunded allowed taken =>
        unrefunded.step allowed.1.1 allowed.1.2 allowed.2 taken
  exact unrefunded.keepsNothing

/--
The hold runs out while the approval is on its way, so that the order is
compensated.
-/
def compensation : List Action :=
  Action.order 7 "key" ++
    [.tick 420001,
     .execute 0 "tid-1",
     .answer 0 { result := .approved, pgTid := some "tid-1" },
     .advance 0,
     .advance 0,
     .execute 0 "refund-1",
     .answer 0 { result := .approved, pgTid := some "refund-1" },
     .advance 0]

/-- A compensated order is refunded and has failed. -/
theorem refunded_keeps_nothing_compensated :
    ∃ world : World,
      (world.refunded 1 && world.calls.isEmpty &&
          world.db.orders.map (·.status) == [.failed]) = true ∧
        world.KeepsNothing := by
  obtain ⟨world, run, seen⟩ :=
    TransitionSystem.RunWhere.exists_of_checkedRun World.step
      World.decidedPurchases World.oneSeat compensation
      (fun world : World =>
        world.refunded 1 && world.calls.isEmpty &&
          world.db.orders.map (·.status) == [.failed])
      (by decide)
  exact ⟨world, seen, refunded_keeps_nothing run⟩

/--
As before, but before the refund goes out the user takes the seat again, and a
webhook confirms the order.
-/
def confirmedCompensation : List Action :=
  Action.order 7 "key" ++
    [.tick 420001,
     .execute 0 "tid-1",
     .answer 0 { result := .approved, pgTid := some "tid-1" },
     .advance 0,
     .advance 0,
     .startAcquire { scheduleId := 1, userId := 7, seatIds := [1] },
     .gate 1 .answered,
     .advance 1,
     .webhook 1 "tid-1",
     .execute 0 "refund-1",
     .answer 0 { result := .approved, pgTid := some "refund-1" },
     .advance 0]

/-- Without the condition a refunded order can keep its seat. -/
theorem refunded_keeps_nothing_fails :
    ¬ ∀ world : World,
      TransitionSystem.RunWhere World.step World.purchases World.oneSeat
          world →
        world.calls = [] → world.KeepsNothing := by
  intro claim
  obtain ⟨world, run, seen⟩ :=
    TransitionSystem.RunWhere.exists_of_checkedRun World.step
      World.purchases World.oneSeat confirmedCompensation
      (fun world : World =>
        world.calls.isEmpty && world.db.orders.any fun order =>
          order.status == .paid && world.refunded order.id)
      (by decide)
  simp only [Bool.and_eq_true, List.isEmpty_iff, List.any_eq_true, beq_iff_eq]
    at seen
  obtain ⟨quiet, order, member, paid, refunded⟩ := seen
  exact (claim world run quiet order member refunded).1 paid

end World

end Curtain
