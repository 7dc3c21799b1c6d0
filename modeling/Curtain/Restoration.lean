import Curtain.Answers
import Curtain.OrderBooks

/-!
# Seats come back after the money

The only transaction that frees a booked seat closes a cancellation whose
refund was approved.  It closes the order and frees all of its seats, and those
seats belong to no other order.  A cancellation that raises has changed
nothing, apart from the payment that records its failed refund.
-/

namespace Curtain

open Queries Table HoldService OrderService

/-! ## Freed seats -/

/-- A booked row is free after the step. -/
def World.Frees (world next : World) (row : ScheduleSeat) : Prop :=
  row ∈ world.db.scheduleSeats ∧ row.status = .booked ∧
    ∃ freed ∈ next.db.scheduleSeats,
      freed.id = row.id ∧ freed.status = .available

/-- The step closes a cancellation: the order and its seats go together. -/
structure World.Restores (world next : World) (action : Action)
    (row : ScheduleSeat) (cancellation : Cancellation)
    (attempt : PayAttempt) : Prop where
  source :
    world.taskOf action = some (.canceling cancellation (.closing attempt))
  approved : attempt.approved = true
  answered :
    .refundAnswered cancellation.order.id cancellation.refundAmount attempt ∈
      world.log
  owned :
    ∃ item ∈ world.db.orderItems,
      item.scheduleSeatId = row.id ∧ item.orderId = cancellation.order.id
  paid : world.db.HasStatus cancellation.order.id .paid
  canceled : next.db.HasStatus cancellation.order.id .canceled
  seats :
    ∀ other ∈ world.db.scheduleSeats,
      if other.id ∈ itemSeats cancellation.order.id world.db then
        other.status = .booked ∧ restore other ∈ next.db.scheduleSeats
      else other ∈ next.db.scheduleSeats

section Closing

variable {db after : Db}

/-- What the closing transaction of a paid order makes of orders and seats. -/
theorem closeCanceled_paid
    {cancellation : Cancellation} {attempt : PayAttempt}
    (ok : closeCanceled cancellation attempt db = .ok after)
    (paid : db.HasStatus cancellation.order.id .paid) :
    after.orders =
        (markOrder cancellation.order.id .canceled .paid db).2.orders ∧
      after.scheduleSeats =
        updateWhere
          (fun row =>
            (itemSeats cancellation.order.id db).contains row.id &&
              row.status == .booked)
          restore db.scheduleSeats := by
  rcases closeCanceled_ok ok with ⟨-, unpaid⟩ | ⟨-, refunded, inserted, rfl⟩
  · obtain ⟨order, member, equal, isPaid⟩ := paid
    exact absurd isPaid (unpaid order member equal)
  · obtain ⟨-, rfl⟩ := insertPayment_ok.mp inserted
    exact ⟨rfl, rfl⟩

/-- The items of a paid order are booked. -/
theorem booked_of_itemSeats (sound : db.Sound) {orderId : Nat}
    (paid : db.HasStatus orderId .paid) {row : ScheduleSeat}
    (member : row ∈ db.scheduleSeats)
    (listed : row.id ∈ itemSeats orderId db) :
    row.status = .booked := by
  obtain ⟨order, orderMember, equal, isPaid⟩ := paid
  obtain ⟨item, itemMember, seat⟩ := List.mem_map.mp listed
  rw [List.mem_filter, beq_iff_eq] at itemMember
  exact
    (sound.booked row member).mpr
      ⟨item, itemMember.1, seat, order, orderMember,
        equal.trans itemMember.2.symm, isPaid⟩

end Closing

/-- A call that is about to close its cancellation closes it, or changes nothing. -/
theorem Turn.closing
    {world : World} {action : Action} {after : Option Task} {books : Books}
    {cancellation : Cancellation} {attempt : PayAttempt}
    (turn :
      Turn world action (some (.canceling cancellation (.closing attempt)))
        after books) :
    closeCanceled cancellation attempt world.db = .ok books.db ∨
      books.db = world.db := by
  cases turn with
  | cancelClosed closed => exact Or.inl closed
  | cancelUnclosed => exact Or.inr rfl
  | idle => exact Or.inr rfl
  | confirmed confirms source =>
      rcases source with ⟨amount, own⟩ | ⟨idle, -⟩
      · cases own
      · cases idle
  | approved | declined => exact Or.inr rfl

namespace World

variable {world next : World} {action : Action}

/-- A step that frees a booked row closes a cancellation. -/
theorem Hears.restores (hears : world.Hears)
    (taken : world.step action = some next) {row : ScheduleSeat}
    (frees : world.Frees next row) :
    ∃ cancellation attempt,
      world.Restores next action row cancellation attempt := by
  have sound := hears.consistent.sound
  obtain ⟨member, booked, freed, freedMember, freedId, available⟩ := frees
  obtain ⟨after, exchange, turn⟩ := step_turn taken
  obtain ⟨turned, equal, becomes⟩ := turn.seats hears.consistent
  have mapped := freedMember
  rw [equal] at mapped
  obtain ⟨old, oldMember, isFreed⟩ := List.mem_map.mp mapped
  have made := becomes old oldMember
  rw [isFreed] at made
  have sameId : freed.id = old.id := congrArg Stock.id made.stock
  have same : old = row :=
    sound.rowUnique.eq oldMember member (sameId.symm.trans freedId)
  subst same
  cases made with
  | same =>
      rw [booked] at available
      cases available
  | held => cases available
  | dropped idle held =>
      rw [booked] at held
      cases held
  | released order stage source closes own read held =>
      exact absurd booked (isHoldOf_unbooked held)
  | booked => cases available
  | restored cancellation attempt source paid listed =>
      refine ⟨cancellation, attempt, ?_⟩
      rw [source] at exchange turn
      obtain ⟨approved, answered⟩ := hears.heard _ (exchange.mem_before _ rfl)
      have closed : closeCanceled cancellation attempt world.db = .ok next.db := by
        rcases turn.closing with closed | unchanged
        · exact closed
        · -- A transaction that fails frees nothing.
          rw [unchanged] at freedMember
          have same := sound.rowUnique.eq freedMember member sameId
          rw [same, booked] at available
          cases available
      obtain ⟨orders, seats⟩ := closeCanceled_paid closed paid
      obtain ⟨item, itemMember, seat⟩ := List.mem_map.mp listed
      rw [List.mem_filter, beq_iff_eq] at itemMember
      refine
        { source
          approved
          answered
          owned := ⟨item, itemMember.1, seat, itemMember.2⟩
          paid
          canceled := ?_
          seats := ?_ }
      · obtain ⟨order, orderMember, own, isPaid⟩ := paid
        refine ⟨{ order with status := .canceled }, ?_, own, rfl⟩
        rw [orders]
        exact mem_updateWhere_of orderMember (by simp [own, isPaid])
      · intro other otherMember
        rw [seats]
        split
        · rename_i inOrder
          have isBooked := booked_of_itemSeats sound paid otherMember inOrder
          exact
            ⟨isBooked,
              mem_updateWhere_of otherMember (by simp [inOrder, isBooked])⟩
        · rename_i outside
          exact mem_updateWhere_of_not otherMember (by simp [outside])

end World

/-! ## A cancellation that raises -/

/-- The order of the cancellation that an action starts or continues. -/
def World.cancels? (world : World) (action : Action) : Option Nat :=
  match action, world.taskOf action with
  | .startCancel orderId _, _ => some orderId
  | _, some (.canceling cancellation _) => some cancellation.order.id
  | _, _ => none

/-- The action is the last one of a cancellation, which ends with the result. -/
structure World.EndsCancel (world next : World) (action : Action)
    (orderId : Nat) (result : Except Raised CanceledOrder) : Prop where
  log : next.log = world.log ++ [.cancelEnded orderId result]
  calls :
    ∃ index, action = .advance index ∧
      next.calls = world.calls.eraseIdx index

/--
A step of a cancellation changes no table, or it ends the call: with the error
of a failed refund and the payment that records it, or with a result.
-/
inductive World.CancelTurn (world next : World) (action : Action)
    (orderId : Nat) : Prop where
  | untouched (db : next.db = world.db)
  | refundFailed (payment : Payment) (message : String)
      (ends :
        world.EndsCancel next action orderId
          (.error (rejected .refundFailed message (some orderId))))
      (db :
        next.db =
          { world.db with payments := world.db.payments ++ [payment] })
      (own : payment.orderId = orderId)
      (failed : payment.status = .failed)
  | canceled (result : CanceledOrder)
      (ends : world.EndsCancel next action orderId (.ok result))

namespace World

variable {world next : World} {action : Action}

theorem advanceCancel_turn {index : Nat} {cancellation : Cancellation}
    {stage : CancelStage} {progress : Progress}
    (advances : advanceCancel world.db cancellation stage = some progress) :
    world.CancelTurn (world.progress index progress) (.advance index)
      cancellation.order.id := by
  cases stage with
  | refunding => cases advances
  | failing result =>
      simp only [advanceCancel] at advances
      split at advances
      · cases advances
        exact .untouched rfl
      · rename_i db recorded
        cases advances
        obtain ⟨-, rfl⟩ := insertPayment_ok.mp recorded
        exact .refundFailed _ _ ⟨rfl, index, rfl, rfl⟩ rfl rfl rfl
  | closing attempt =>
      simp only [advanceCancel] at advances
      split at advances
      · cases advances
        exact .untouched rfl
      · cases advances
        exact .canceled _ ⟨rfl, index, rfl, rfl⟩

theorem step_cancelTurn {orderId : Nat}
    (cancels : world.cancels? action = some orderId)
    (taken : world.step action = some next) :
    world.CancelTurn next action orderId := by
  cases action with
  | startCancel started now =>
      apply CancelTurn.untouched
      simp only [World.step] at taken
      split at taken <;> cases taken <;> rfl
  | advance index =>
      obtain ⟨call, found, callTaken⟩ := Option.bind_eq_some_iff.mp taken
      obtain ⟨progress, advances, final⟩ := Option.bind_eq_some_iff.mp callTaken
      cases final
      have current : world.taskOf (.advance index) = call.task? := by
        simp [taskOf, found]
      simp only [cancels?, current] at cancels
      cases call with
      | canceling cancellation stage =>
          cases cancels
          exact advanceCancel_turn advances
      | acquiring | releasing => cases cancels
      | placing request stage => cases stage <;> cases cancels
      | reconciling rest confirmed stage => cases stage <;> cases cancels
  | answer index attempt =>
      obtain ⟨call, -, callTaken⟩ := Option.bind_eq_some_iff.mp taken
      obtain ⟨progress, receives, final⟩ := Option.bind_eq_some_iff.mp callTaken
      cases final
      exact .untouched (receive_db receives)
  | execute index number =>
      obtain ⟨call, -, executes⟩ := Option.bind_eq_some_iff.mp taken
      apply CancelTurn.untouched
      cases executes_of_executeRequest executes <;> rfl
  | gate index io =>
      obtain ⟨call, -, callTaken⟩ := Option.bind_eq_some_iff.mp taken
      obtain ⟨trip, -, final⟩ := Option.bind_eq_some_iff.mp callTaken
      cases final
      exact .untouched rfl
  | _ => cases cancels

/-! ## Every run -/

/--
In every run a booked seat becomes free only with the closing of a cancellation
whose refund was approved, and a cancellation that does not succeed has changed
nothing but the record of its failed refund.
-/
theorem seats_come_back_after_the_money
    {inventory : Inventory} {startsAt : Nat → Policy.Datetime} {clock : Time}
    (reachable :
      TransitionSystem.Reachable World.step
        (World.initial inventory startsAt clock) world)
    (taken : world.step action = some next) :
    (∀ row, world.Frees next row →
      ∃ cancellation attempt,
        world.Restores next action row cancellation attempt) ∧
      ∀ orderId, world.cancels? action = some orderId →
        world.CancelTurn next action orderId :=
  ⟨fun _ frees => (hears_of_reachable reachable).restores taken frees,
    fun _ cancels => step_cancelTurn cancels taken⟩

/-- The refund is approved; the next step of the cancellation frees the seat. -/
def refundedCancellation : List Action :=
  Action.order 7 "key" ++ Action.pay "tid-1" ++
    [.startCancel 1 none,
     .execute 0 "refund-1",
     .answer 0 { result := .approved, pgTid := some "refund-1" }]

/-- The seat of a canceled order comes back. -/
theorem seats_come_back_after_the_money_canceled :
    ∃ (world next : World) (row : ScheduleSeat)
      (cancellation : Cancellation) (attempt : PayAttempt),
      world.Frees next row ∧
        world.Restores next (.advance 0) row cancellation attempt := by
  obtain ⟨world, run, seen⟩ :=
    TransitionSystem.RunWhere.exists_of_checkedRun World.step
      (fun _ _ => True) World.oneSeat refundedCancellation
      (fun world : World =>
        (world.step (.advance 0)).any fun next =>
          world.db.scheduleSeats.any fun row =>
            row.status == .booked &&
              next.db.scheduleSeats.any fun freed =>
                freed.id == row.id && freed.status == .available)
      (by decide)
  obtain ⟨next, taken, rows⟩ := (Option.any_eq_true _ _).mp seen
  obtain ⟨row, member, found⟩ := List.any_eq_true.mp rows
  rw [Bool.and_eq_true, beq_iff_eq] at found
  obtain ⟨freed, freedMember, isFreed⟩ := List.any_eq_true.mp found.2
  rw [Bool.and_eq_true, beq_iff_eq, beq_iff_eq] at isFreed
  have frees : world.Frees next row :=
    ⟨member, found.1, freed, freedMember, isFreed⟩
  obtain ⟨cancellation, attempt, restores⟩ :=
    (seats_come_back_after_the_money run taken).1 row frees
  exact ⟨world, next, row, cancellation, attempt, frees, restores⟩

end World

end Curtain
