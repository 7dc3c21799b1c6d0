import Curtain.Ledger

/-!
# No customer pays for nothing

An order whose approval was executed and not refunded must be paid, with its
seats, or still pending.  The saga keeps this up as long as an unapproved
order is only closed while it is unapproved: `_close_unpaid` acts on an answer
that may be out of date by then.
-/

namespace Curtain

open Queries Table HoldService OrderService

/-- A closed order is no longer looked at. -/
def Order.Closed (order : Order) : Prop :=
  order.status = .failed ∨ order.status = .canceled

/-- The money of the order is accounted for by its state. -/
def Db.Delivers (db : Db) (order : Order) : Prop :=
  order.status = .pending ∨
    (order.status = .paid ∧
      ∀ seatId ∈ order.seatIds, ∃ row ∈ db.scheduleSeats,
        row.scheduleId = order.scheduleId ∧ row.seatId = seatId ∧
          row.status = .booked)

/-- Whoever has paid and was not refunded gets the seats or is waited for. -/
def World.PaysForSomething (world : World) : Prop :=
  ∀ order ∈ world.db.orders,
    world.executed order.id = true → world.refunded order.id = false →
      world.db.Delivers order

/--
The approval of an order is not executed after the order was closed, and an
order is not closed as unapproved while its executed approval stands.
-/
def World.closesInTime (world : World) (action : Action) : Bool :=
  match action, world.taskOf action with
  | .execute _ _, some (.approving orderId _) =>
      statusOf orderId world.db != some .canceled &&
        statusOf orderId world.db != some .failed
  | .advance _, some (.settling (.closing orderId _)) =>
      !(statusOf orderId world.db == some .pending &&
        world.executed orderId && !world.refunded orderId)
  | _, _ => true

/-! ## Closed orders -/

section ClosedOrders

variable {db after : Db}

/-- The order is closed in the later table because it was, or by this write. -/
theorem markOrder_closed
    {orderId : Nat} {status expect : OrderStatus} {order : Order}
    (member : order ∈ (markOrder orderId status expect db).2.orders)
    (closed : order.Closed) :
    order ∈ db.orders ∨
      (order.id = orderId ∧
        ∃ row ∈ db.orders, row.id = orderId ∧ row.status = expect) := by
  obtain ⟨old, oldMember, ⟨touched, rfl⟩ | ⟨-, rfl⟩⟩ := mem_updateWhere.mp member
  · simp only [Bool.and_eq_true, beq_iff_eq] at touched
    exact Or.inr ⟨touched.1, old, oldMember, touched⟩
  · exact Or.inl oldMember

theorem closeUnpaid_closed
    {orderId : Nat} {status : OrderStatus}
    (ok : closeUnpaid orderId status db = .ok after) {order : Order}
    (member : order ∈ after.orders) (closed : order.Closed) :
    order ∈ db.orders ∨
      (order.id = orderId ∧
        ∃ row ∈ db.orders, row.id = orderId ∧ row.status = .pending) := by
  rcases closeUnpaid_ok ok with rfl | ⟨owner, -, -, -, rfl⟩
  · exact Or.inl member
  · exact markOrder_closed member closed

theorem recordRefund_closed
    {refunded : Order} {total : Int} {attempt : PayAttempt}
    (ok : recordRefund refunded total attempt db = .ok after) {order : Order}
    (member : order ∈ after.orders) (closed : order.Closed) :
    order ∈ db.orders ∨
      (order.id = refunded.id ∧ attempt.approved = true) := by
  obtain ⟨middle, inserted, rfl⟩ := recordRefund_ok ok
  have same := insertPayment_orders inserted
  split at member
  · rename_i approved
    rcases markOrder_closed member closed with old | ⟨own, -⟩
    · left
      rw [← same]
      exact old
    · exact Or.inr ⟨own, approved⟩
  · left
    rw [← same]
    exact member

end ClosedOrders

/-- No cancellation is under way. -/
def World.NeverCancels (world : World) : Prop :=
  ∀ cancellation stage, .canceling cancellation stage ∉ world.tasks

/-- What holds throughout a run that closes in time and never cancels. -/
structure World.Accounted (world : World) : Prop where
  honest : world.Honest
  noCancel : world.NeverCancels
  closed :
    ∀ order ∈ world.db.orders, order.Closed →
      world.executed order.id = true → world.refunded order.id = true

namespace World

variable {world next : World} {action : Action}

theorem Accounted.delivers (accounted : world.Accounted) :
    world.PaysForSomething := by
  intro order member executed unrefunded
  have sound := accounted.honest.consistent.sound
  cases status : order.status with
  | pending => exact Or.inl status
  | paid =>
      refine Or.inr ⟨status, ?_⟩
      intro seatId wanted
      obtain ⟨row, rowMember, rfl⟩ :=
        List.mem_map.mp ((sound.wanted_seats member).mem_iff.mpr wanted)
      obtain ⟨inStock, wants⟩ := List.mem_filter.mp rowMember
      have schedule := wants
      simp only [Order.wants, ScheduleSeat.stock, Bool.and_eq_true, beq_iff_eq]
        at schedule
      exact
        ⟨row, inStock, schedule.1, rfl,
          sound.booked_of_paid member status inStock wants⟩
  | failed =>
      have refunded := accounted.closed order member (Or.inl status) executed
      rw [unrefunded] at refunded
      cases refunded
  | canceled =>
      have refunded := accounted.closed order member (Or.inr status) executed
      rw [unrefunded] at refunded
      cases refunded

/-- Only a cancellation makes a canceling task. -/
theorem NeverCancels.step (never : world.NeverCancels)
    (noCancel : action.cancels = false)
    (taken : world.step action = some next) :
    next.NeverCancels := by
  obtain ⟨after, exchange, turn⟩ := step_turn taken
  generalize current : world.taskOf action = before at turn exchange
  have ongoing :
      ∀ cancellation stage, before ≠ some (.canceling cancellation stage) := by
    rintro cancellation stage rfl
    exact never cancellation stage (exchange.mem_before _ rfl)
  have quietTask :
      ∀ {task : Option Task}, Quiet task →
        ∀ cancellation stage, task ≠ some (.canceling cancellation stage) := by
    rintro task quiet cancellation stage rfl
    obtain ⟨orderId, equal⟩ := quiet _ rfl
    cases equal
  have fresh :
      ∀ cancellation stage, after ≠ some (.canceling cancellation stage) := by
    generalize next.toBooks = books at turn
    cases turn with
    | idle passing quiet => exact quietTask quiet
    | confirmed confirms source confirmed quiet => exact quietTask quiet
    | recorded recorded quiet => exact quietTask quiet
    | unrecorded failed quiet => exact quietTask quiet
    | closed closed quiet => exact quietTask quiet
    | cancelStarted => cases noCancel
    | cancelExecuted => exact absurd rfl (ongoing _ _)
    | cancelAnswered => exact absurd rfl (ongoing _ _)
    | _ => simp
  intro cancellation stage member
  rcases exchange.mem member with old | new
  · exact never cancellation stage old
  · exact fresh cancellation stage new

/-- A closed order with an executed approval is refunded after the turn, too. -/
theorem Accounted.closed_after (accounted : world.Accounted)
    {before after : Option Task} {books : Books}
    (inTime : world.closesInTime action = true)
    (current : world.taskOf action = before)
    (known : ∀ task ∈ before, task ∈ world.tasks)
    (turn : Turn world action before after books) :
    ∀ order ∈ books.db.orders, order.Closed →
      books.executed order.id = true → books.refunded order.id = true := by
  have honest := accounted.honest
  have sound := honest.consistent.sound
  have grows := turn.grows honest.consistent
  -- The cases that change neither the orders nor the approvals.
  have keeps :
      books.db.orders = world.db.orders → books.approvals = world.approvals →
        ∀ order ∈ books.db.orders, order.Closed →
          books.executed order.id = true → books.refunded order.id = true := by
    intro orders approvals order member closed executed
    rw [orders] at member
    rw [Books.executed, approvals] at executed
    exact grows.refunded (accounted.closed order member closed executed)
  cases turn with
  | idle => exact accounted.closed
  | acquired ok =>
      obtain ⟨-, rfl⟩ := acquireSeats_ok sound.rowUnique ok
      exact keeps rfl rfl
  | released => exact keeps rfl rfl
  | swept => exact keeps rfl rfl
  | opened opened =>
      intro order member closed executed
      rcases opened.mem_orders_iff.mp member with old | rfl
      · exact accounted.closed order old closed executed
      · rw [Order.Closed, opened.pending] at closed
        rcases closed with failed | canceled
        · cases failed
        · cases canceled
  | approvalExecuted =>
      rename_i index number orderId amount fresh first
      intro order member closed executed
      obtain ⟨approval, approvalMember, own⟩ := List.any_eq_true.mp executed
      rcases List.mem_append.mp approvalMember with old | new
      · have before : world.executed order.id = true :=
          List.any_eq_true.mpr ⟨approval, old, own⟩
        exact grows.refunded (accounted.closed order member closed before)
      · rw [List.mem_singleton.mp new, beq_iff_eq] at own
        have status := statusOf_eq sound member
        dsimp only at own
        simp only [World.closesInTime, current, own, status, Bool.and_eq_true,
          bne_iff_ne, ne_eq, Option.some.injEq] at inTime
        rcases closed with failed | canceled
        · exact absurd failed inTime.2
        · exact absurd canceled inTime.1
  | approved => exact accounted.closed
  | declined => exact accounted.closed
  | confirmed confirms source confirmed quiet =>
      intro order member closed executed
      rcases (confirmed.mem_orders sound).mp member with rfl | ⟨old, -⟩
      · rcases closed with failed | canceled
        · cases failed
        · cases canceled
      · exact accounted.closed order old closed executed
  | expired => exact accounted.closed
  | compensating => exact accounted.closed
  | refundExecuted => exact keeps rfl rfl
  | refundAnswered => exact accounted.closed
  | recorded recorded quiet =>
      intro order member closed executed
      rcases recordRefund_closed recorded member closed with old | ⟨own, approved⟩
      · exact accounted.closed order old closed executed
      · obtain ⟨number, -, refunded⟩ :=
          honest.numbered _ (known _ rfl) approved
        rw [own]
        exact refunded.refunded
  | unrecorded => exact accounted.closed
  | closed ok quiet =>
      intro order member closed executed
      rcases closeUnpaid_closed ok member closed with old | ⟨own, row, rowMember, rowId, pending⟩
      · exact accounted.closed order old closed executed
      · have status := statusOf_eq sound rowMember
        rw [rowId, pending] at status
        rw [own] at executed ⊢
        have stillExecuted : world.executed _ = true := executed
        simp only [World.closesInTime, current, status, stillExecuted,
          beq_self_eq_true, Bool.true_and, Bool.not_not] at inTime
        exact inTime
  | cancelStarted => exact accounted.closed
  | cancelExecuted => exact absurd (known _ rfl) (accounted.noCancel _ _)
  | cancelAnswered => exact absurd (known _ rfl) (accounted.noCancel _ _)
  | cancelFailed => exact absurd (known _ rfl) (accounted.noCancel _ _)
  | cancelUnfailed => exact absurd (known _ rfl) (accounted.noCancel _ _)
  | cancelClosed => exact absurd (known _ rfl) (accounted.noCancel _ _)
  | cancelUnclosed => exact absurd (known _ rfl) (accounted.noCancel _ _)

theorem Accounted.step (accounted : world.Accounted)
    (noCancel : action.cancels = false)
    (truthful : world.truthful action = true)
    (inTime : world.closesInTime action = true)
    (taken : world.step action = some next) :
    next.Accounted := by
  obtain ⟨after, exchange, turn⟩ := step_turn taken
  generalize current : world.taskOf action = before at turn exchange
  have known := exchange.mem_before
  exact
    { honest := accounted.honest.step truthful taken
      noCancel := accounted.noCancel.step noCancel taken
      closed := accounted.closed_after inTime current known turn }

theorem Accounted.initial
    (inventory : Inventory) (startsAt : Nat → Policy.Datetime) (clock : Time) :
    (World.initial inventory startsAt clock).Accounted :=
  { honest := .initial inventory startsAt clock
    noCancel := by simp [NeverCancels, World.initial, tasks]
    closed := by simp [World.initial] }

/-- The actions of the purchase paths, under a truthful gateway. -/
def purchases (world : World) (action : Action) : Prop :=
  action.cancels = false ∧ world.truthful action = true

/-- Purchases in which orders are closed in time. -/
def timelyPurchases (world : World) (action : Action) : Prop :=
  world.purchases action ∧ world.closesInTime action = true

instance (world : World) (action : Action) :
    Decidable (world.purchases action) :=
  inferInstanceAs (Decidable (_ ∧ _))

instance (world : World) (action : Action) :
    Decidable (world.timelyPurchases action) :=
  inferInstanceAs (Decidable (_ ∧ _))

/--
In every run of purchases in which orders are closed in time, whoever has paid
and was not refunded gets the seats or is waited for.
-/
theorem pays_for_something
    {inventory : Inventory} {startsAt : Nat → Policy.Datetime} {clock : Time}
    {world : World}
    (run :
      TransitionSystem.RunWhere World.step World.timelyPurchases
        (World.initial inventory startsAt clock) world) :
    world.PaysForSomething := by
  have accounted : world.Accounted :=
    run.invariant (.initial inventory startsAt clock)
      fun _ _ _ accounted allowed taken =>
        accounted.step allowed.1.1 allowed.1.2 allowed.2 taken
  exact accounted.delivers

/-- A purchase in which the order is paid in time. -/
theorem pays_for_something_paid :
    ∃ world : World,
      (world.executed 1 && world.calls.isEmpty &&
          world.db.orders.map (·.status) == [.paid]) = true ∧
        world.PaysForSomething := by
  obtain ⟨world, run, seen⟩ :=
    TransitionSystem.RunWhere.exists_of_checkedRun World.step
      World.timelyPurchases World.oneSeat
      (Action.order 7 "key" ++ Action.pay "tid-1")
      (fun world : World =>
        world.executed 1 && world.calls.isEmpty &&
          world.db.orders.map (·.status) == [.paid])
      (by decide)
  exact ⟨world, seen, pays_for_something run⟩

/--
The reconciler asks while the approval is in flight, closes the order on the
refusal, and the gateway approves afterwards.
-/
def lateApproval : List Action :=
  Action.order 7 "key" ++
    [.tick 300001,
     .startReconcile 300 100,
     .answer 1 { result := .declined },
     .advance 1] ++
    Action.pay "tid-1"

/-- Without the condition a customer can pay for nothing. -/
theorem pays_for_something_fails :
    ¬ ∀ world : World,
      TransitionSystem.RunWhere World.step World.purchases World.oneSeat
          world →
        world.calls = [] → world.PaysForSomething := by
  intro claim
  obtain ⟨world, run, seen⟩ :=
    TransitionSystem.RunWhere.exists_of_checkedRun World.step
      World.purchases World.oneSeat lateApproval
      (fun world : World =>
        world.calls.isEmpty && world.db.orders.any fun order =>
          order.status == .canceled && world.executed order.id &&
            !world.refunded order.id)
      (by decide)
  simp only [Bool.and_eq_true, List.isEmpty_iff, List.any_eq_true, beq_iff_eq,
    Bool.not_eq_true'] at seen
  obtain ⟨quiet, order, member, ⟨canceled, executed⟩, unrefunded⟩ := seen
  rcases claim world run quiet order member executed unrefunded with
    pending | ⟨paid, -⟩
  · rw [canceled] at pending
    cases pending
  · rw [canceled] at paid
    cases paid

end World

end Curtain
