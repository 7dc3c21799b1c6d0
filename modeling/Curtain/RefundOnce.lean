import Curtain.Records
import Curtain.Refunds

/-!
# Money goes back once

A compensation and a cancellation both ask for a refund between two
transactions.  As long as they do not overlap on one order, and the answer to
an executed refund arrives, the state of the order keeps a second refund from
being requested.
-/

namespace Curtain

open Queries Table HoldService OrderService

/-- The order of a refund that is not executed, or was refused. -/
def Task.unexecuted : Task → Option Nat
  | .settling (.compensating orderId _ _ _) => some orderId
  | .settling (.refunding order _ _ _ none) => some order.id
  | .settling (.recording order _ _ attempt) =>
      if attempt.approved then none else some order.id
  | .canceling cancellation (.refunding none) => some cancellation.order.id
  | .canceling cancellation (.failing _) => some cancellation.order.id
  | _ => none

theorem Task.refundOrder_of_unexecuted {task : Task} {orderId : Nat}
    (waiting : task.unexecuted = some orderId) :
    task.refundOrder = some orderId := by
  rcases task with
    _ | _ | ⟨_ | _ | _ | ⟨_, _, _, _, _ | _⟩ | _⟩ | ⟨_, ⟨_ | _⟩ | _ | _⟩
  case settling.recording =>
    simp only [Task.unexecuted] at waiting
    split at waiting
    · cases waiting
    · exact waiting
  all_goals first | exact waiting | cases waiting

/-- Some call is giving the money of the order back. -/
def World.refunding (world : World) (orderId : Nat) : Bool :=
  world.tasks.any fun task => task.refundOrder == some orderId

/--
While a refund of an order is under way, no other path cancels it, confirms it
or asks for a compensation; and an executed refund is answered.
-/
def World.refundsAlone (world : World) (action : Action) : Bool :=
  match action with
  | .startCancel orderId _ =>
      !(statusOf orderId world.db == some .paid && world.refunding orderId)
  | .webhook orderId _ =>
      !(world.findsConfirmable action && world.refunding orderId)
  | .advance _ =>
      (world.confirms action).all fun confirm =>
        !(statusOf confirm.1 world.db == some .pending &&
          world.refunding confirm.1)
  | .answer _ attempt =>
      match world.taskOf action with
      | some (.settling (.refunding _ _ _ _ (some _))) => attempt.approved
      | some (.canceling _ (.refunding (some _))) => attempt.approved
      | _ => true
  | _ => true

/-- The order can still be compensated or canceled. -/
def Order.Open (order : Order) : Prop :=
  order.status = .pending ∨ order.status = .paid

/-! ## How a turn changes the state of an order -/

/-- Where the state of an order row after a turn comes from. -/
inductive OrderTurn (world : World) (action : Action) (before : Option Task)
    (order : Order) : Prop where
  | opened
      (pending : order.status = .pending)
      (fresh : ∀ old ∈ world.db.orders, old.id ≠ order.id)
      (idle : before = none)
  | same (old : Order)
      (member : old ∈ world.db.orders)
      (equal : old.id = order.id)
      (status : order.status = old.status)
  | paid (old : Order) (pgTid : String)
      (member : old ∈ world.db.orders)
      (equal : old.id = order.id)
      (pending : old.status = .pending)
      (confirms : world.confirms action = some (order.id, pgTid))
      (found : world.findsConfirmable action = true)
  | closed (old : Order)
      (member : old ∈ world.db.orders)
      (equal : old.id = order.id)
      (pending : old.status = .pending)
      (closed : order.Closed)
  | canceled (old : Order) (cancellation : Cancellation) (attempt : PayAttempt)
      (member : old ∈ world.db.orders)
      (equal : old.id = order.id)
      (status : order.status = .canceled)
      (source : before = some (.canceling cancellation (.closing attempt)))
      (own : cancellation.order.id = order.id)

theorem Turn.order_turn
    {world : World} {action : Action} {before after : Option Task}
    {books : Books}
    (consistent : world.Consistent)
    (known : ∀ task ∈ before, task ∈ world.tasks)
    (turn : Turn world action before after books) :
    ∀ order ∈ books.db.orders, OrderTurn world action before order := by
  have sound := consistent.sound
  intro order member
  rcases turn.order_becomes consistent known order member with
    ⟨old, oldMember, becomes⟩ | ⟨idle, request, opened⟩
  · cases becomes with
    | same => exact .same order oldMember rfl rfl
    | paid snapshot pgTid pending confirms =>
        refine .paid old pgTid oldMember rfl pending confirms ?_
        rcases turn.paid_before consistent known _ member rfl with
          earlier | ⟨paid, number, own, found, confirmed, -, -⟩
        · have equal := sound.order_eq oldMember earlier rfl
          rw [equal] at pending
          cases pending
        · rw [← own] at found
          exact confirmed.findsConfirmable sound found
    | unpaid status pending final =>
        exact .closed old oldMember rfl pending final
    | refunded refunded total why attempt pending =>
        exact .closed old oldMember rfl pending (Or.inl rfl)
    | canceled cancellation attempt paid source own =>
        exact .canceled old _ _ oldMember rfl rfl source own
  · exact
      .opened opened.pending
        (fun old oldMember => (opened.older sound.orderIdBound oldMember).ne) idle

/-- The order whose compensation the task is concerned with. -/
def Task.givesBack : Task → Option Nat
  | .settling (.compensating orderId _ _ _) => some orderId
  | .settling (.refunding order _ _ _ _) => some order.id
  | .settling (.recording order _ _ _) => some order.id
  | _ => none

theorem Task.refundOrder_of_givesBack {task : Task} {orderId : Nat}
    (own : task.givesBack = some orderId) :
    task.refundOrder = some orderId := by
  rcases task with _ | _ | ⟨_ | _ | _ | _ | _⟩ | _
  all_goals first | exact own | cases own

/-! ## One refund at a time -/

/-- What holds throughout a run in which the refunds of an order do not overlap. -/
structure World.Once (world : World) : Prop where
  carries : world.Carries
  alone : (world.tasks.filterMap Task.refundOrder).Nodup
  single : ∀ orderId, (world.refundsOf orderId).length ≤ 1
  unexecuted :
    ∀ task ∈ world.tasks, ∀ orderId, task.unexecuted = some orderId →
      world.refundsOf orderId = []
  underway :
    ∀ order ∈ world.db.orders, order.Open → world.refundsOf order.id ≠ [] →
      order.id ∈ world.tasks.filterMap Task.refundOrder
  compensating :
    ∀ task ∈ world.tasks, ∀ order ∈ world.db.orders,
      task.givesBack = some order.id → order.status ≠ .paid
  canceling :
    ∀ cancellation stage, .canceling cancellation stage ∈ world.tasks →
      ∃ order ∈ world.db.orders, order.id = cancellation.order.id ∧
        order.status = .paid

/-- A refund of the order may be requested now. -/
structure World.Starts (world : World) (orderId : Nat) : Prop where
  alone : orderId ∉ world.tasks.filterMap Task.refundOrder
  openOrder : ∃ order ∈ world.db.orders, order.id = orderId ∧ order.Open

/-- How a turn goes on with the refund of its call. -/
inductive RefundTurn (world : World) (before after : Option Task) : Prop where
  | ends (ended : after.bind Task.refundOrder = none)
  | goesOn
      (same : after.bind Task.refundOrder = before.bind Task.refundOrder)
      (unexecuted :
        ∀ orderId, after.bind Task.unexecuted = some orderId →
          before.bind Task.unexecuted = some orderId)
  | starts (orderId : Nat)
      (idle : before.bind Task.refundOrder = none)
      (starts : world.Starts orderId)
      (begun : after.bind Task.refundOrder = some orderId)

namespace World

variable {world next : World} {action : Action} {before after : Option Task}
variable {books : Books}

theorem refunding_iff {orderId : Nat} :
    world.refunding orderId = true ↔
      orderId ∈ world.tasks.filterMap Task.refundOrder := by
  simp [refunding, List.mem_filterMap]

theorem Starts.unrefunded (starts : world.Starts orderId) (once : world.Once) :
    world.refundsOf orderId = [] := by
  obtain ⟨order, member, rfl, isOpen⟩ := starts.openOrder
  by_contra refunded
  exact starts.alone (once.underway order member isOpen refunded)

namespace Once

/-- A turn executes at most the refund that its task has requested. -/
theorem refunds_after (once : world.Once)
    (known : ∀ task ∈ before, task ∈ world.tasks)
    (turn : Turn world action before after books) (orderId : Nat) :
    books.refundsOf orderId = world.refundsOf orderId ∨
      (before.bind Task.unexecuted = some orderId ∧
        after.bind Task.unexecuted = none ∧
        after.bind Task.refundOrder = some orderId ∧
        (books.refundsOf orderId).length = 1) := by
  have honest := once.carries.honest
  cases turn with
  | approvalExecuted fresh first =>
      exact Or.inl (honest.balanced.refundsOf_approve fresh orderId)
  | refundExecuted fresh =>
      rename_i index number pgTid order total why
      have busy := known _ rfl
      have approved := (honest.numbered _ busy).1
      have executed :=
        honest.balanced.refundsOf_refund
          { pgTid, amount := total, refundTid := number } approved orderId
      by_cases own : orderId = order.id
      · have nothing := once.unexecuted _ busy order.id rfl
        rw [if_pos own, own, nothing] at executed
        refine Or.inr ⟨congrArg some own.symm, rfl, congrArg some own.symm, ?_⟩
        rw [own]
        exact congrArg List.length executed
      · rw [if_neg own, List.append_nil] at executed
        exact Or.inl executed
  | cancelExecuted fresh =>
      rename_i index number cancellation
      have busy := known _ rfl
      have approved := (honest.numbered _ busy).1
      have executed :=
        honest.balanced.refundsOf_refund
          { pgTid := cancellation.pgTid
            amount := cancellation.refundAmount
            refundTid := number } approved orderId
      by_cases own : orderId = cancellation.order.id
      · have nothing := once.unexecuted _ busy cancellation.order.id rfl
        rw [if_pos own, own, nothing] at executed
        refine Or.inr ⟨congrArg some own.symm, rfl, congrArg some own.symm, ?_⟩
        rw [own]
        exact congrArg List.length executed
      · rw [if_neg own, List.append_nil] at executed
        exact Or.inl executed
  | _ => exact Or.inl rfl

/-- A refund goes on for the order of its task, or starts for an open order. -/
theorem refund_turn (once : world.Once)
    (apart : world.refundsAlone action = true)
    (current : world.taskOf action = before)
    (turn : Turn world action before after books) :
    RefundTurn world before after := by
  have honest := once.carries.honest
  have sound := honest.consistent.sound
  have quietEnds : Quiet after → RefundTurn world before after := by
    intro quiet
    refine .ends ?_
    cases after with
    | none => rfl
    | some busy =>
        obtain ⟨orderId, rfl⟩ := quiet busy rfl
        rfl
  cases turn with
  | idle passing quiet => exact quietEnds quiet
  | confirmed confirms source confirmed quiet => exact quietEnds quiet
  | recorded recorded quiet => exact quietEnds quiet
  | unrecorded failed quiet => exact quietEnds quiet
  | closed closed quiet => exact quietEnds quiet
  | expired confirms pending =>
      rename_i index orderId pgTid amount why
      obtain ⟨row, member, rowId, status⟩ := pending
      have known := statusOf_eq sound member
      rw [rowId, status] at known
      have alone : ¬ world.refunding orderId = true := by
        simpa [refundsAlone, confirms, known] using apart
      exact
        .starts orderId rfl
          ⟨fun listed => alone (refunding_iff.mpr listed),
            row, member, rowId, Or.inl status⟩ rfl
  | compensating => exact .goesOn rfl (fun _ equal => equal)
  | refundExecuted => exact .goesOn rfl (fun _ equal => by cases equal)
  | refundAnswered =>
      rename_i index attempt order pgTid total why number
      refine .goesOn rfl fun orderId equal => ?_
      simp only [Option.bind_some, Task.unexecuted] at equal ⊢
      split at equal
      · cases equal
      · rename_i refused
        cases number with
        | none => exact equal
        | some given =>
            simp only [refundsAlone, current] at apart
            exact absurd apart refused
  | cancelStarted prepared =>
      obtain ⟨order, member, payment, idEq, paid, -, -, orderEq, -⟩ :=
        prepareCancel_ok prepared
      have known := statusOf_eq sound member
      rw [idEq, paid] at known
      have alone : ¬ world.refunding order.id = true := by
        rw [idEq]
        simpa [refundsAlone, known] using apart
      refine
        .starts order.id rfl
          ⟨fun listed => alone (refunding_iff.mpr listed),
            order, member, rfl, Or.inr paid⟩ ?_
      rw [← orderEq]
      rfl
  | cancelExecuted => exact .goesOn rfl (fun _ equal => by cases equal)
  | cancelAnswered =>
      rename_i index attempt cancellation number
      refine .goesOn (by split <;> rfl) fun orderId equal => ?_
      split at equal
      · cases equal
      · rename_i refused
        cases number with
        | none => exact equal
        | some given =>
            simp only [refundsAlone, current] at apart
            exact absurd apart refused
  | _ => exact .ends rfl

/-- When a refund is no longer pursued, nothing was executed or the order is settled. -/
theorem ends_after (once : world.Once)
    (known : ∀ task ∈ before, task ∈ world.tasks)
    (turn : Turn world action before after books)
    {orderId : Nat} (pursued : before.bind Task.refundOrder = some orderId) :
    after.bind Task.refundOrder = some orderId ∨
      world.refundsOf orderId = [] ∨
      ∀ order ∈ books.db.orders, order.id = orderId → ¬ order.Open := by
  have carries := once.carries
  have sound := carries.honest.consistent.sound
  have refused :
      before.bind Task.unexecuted = some orderId →
        world.refundsOf orderId = [] := by
    intro equal
    obtain ⟨task, member, unexecuted⟩ := Option.bind_eq_some_iff.mp equal
    exact once.unexecuted task (known task member) orderId unexecuted
  cases turn with
  | idle passing quiet =>
      right; left
      apply refused
      rcases before with _ | ⟨_ | _ | ⟨_ | _ | _ | _ | _⟩ | _⟩
      case some.settling.refunding => cases passing _ rfl
      case some.settling.recording => cases passing _ rfl
      case some.canceling => cases passing _ rfl
      case some.settling.compensating => exact pursued
      all_goals cases pursued
  | compensating => exact Or.inl pursued
  | refundExecuted => exact Or.inl pursued
  | refundAnswered => exact Or.inl pursued
  | recorded recorded quiet =>
      rename_i index attempt refunded total why db
      cases pursued
      right
      cases approved : attempt.approved with
      | false =>
          left
          apply refused
          simp [Task.unexecuted, approved]
      | true =>
          right
          obtain ⟨middle, inserted, equal⟩ := recordRefund_ok recorded
          have same := insertPayment_orders inserted
          rw [if_pos approved] at equal
          intro order member own isOpen
          dsimp only at member
          rw [equal] at member
          obtain ⟨old, oldMember, ⟨-, rfl⟩ | ⟨untouched, rfl⟩⟩ :=
            mem_updateWhere.mp member
          · rcases isOpen with pending | paid
            · cases pending
            · cases paid
          · have listed : order ∈ world.db.orders := by
              rw [← same]
              exact oldMember
            rcases isOpen with pending | paid
            · simp [own, pending] at untouched
            · exact
                once.compensating _ (known _ rfl) order listed
                  (congrArg some own.symm) paid
  | unrecorded failed quiet =>
      exact absurd failed (carries.recordRefund_ok (known _ rfl))
  | cancelExecuted => exact Or.inl pursued
  | cancelAnswered =>
      left
      cases pursued
      split <;> rfl
  | cancelFailed => exact Or.inr (Or.inl (refused pursued))
  | cancelUnfailed => exact Or.inr (Or.inl (refused pursued))
  | cancelClosed closed =>
      cases pursued
      right; right
      obtain ⟨row, rowMember, rowId, paid⟩ :=
        once.canceling _ _ (known _ rfl)
      rcases closeCanceled_ok closed with
        ⟨-, unpaid⟩ | ⟨-, refunded, inserted, rfl⟩
      · exact absurd paid (unpaid row rowMember rowId)
      · have same := insertPayment_orders inserted
        intro order member own isOpen
        have listed : order ∈ refunded.orders := member
        rw [same] at listed
        obtain ⟨old, oldMember, ⟨-, rfl⟩ | ⟨untouched, rfl⟩⟩ :=
          mem_updateWhere.mp listed
        · rcases isOpen with pending | paid
          · cases pending
          · cases paid
        · have equal : order = row :=
            sound.order_eq oldMember rowMember (own.trans rowId.symm)
          simp [equal, rowId, paid] at untouched
  | cancelUnclosed failed =>
      exact absurd failed (carries.closeCanceled_ok (known _ rfl))
  | confirmed confirms source confirmed quiet =>
      rcases source with ⟨amount, rfl⟩ | ⟨rfl, -⟩
      · cases pursued
      · cases pursued
  | approved asked =>
      rename_i asking asked pgTid amount result number sum
      cases asking with
      | approving | inquiring => cases pursued
      | settling | canceling => cases asked
  | declined asked =>
      rename_i asking asked status result final
      cases asking with
      | approving | inquiring => cases pursued
      | settling | canceling => cases asked
  | _ => cases pursued

/-- Whoever confirms an order finds no refund of it under way. -/
theorem confirms_alone (once : world.Once)
    (apart : world.refundsAlone action = true)
    {orderId : Nat} {pgTid : String} {order : Order}
    (member : order ∈ world.db.orders) (own : order.id = orderId)
    (pending : order.status = .pending)
    (confirms : world.confirms action = some (orderId, pgTid))
    (found : world.findsConfirmable action = true) :
    orderId ∉ world.tasks.filterMap Task.refundOrder := by
  intro listed
  have busy := refunding_iff.mpr listed
  have known := statusOf_eq once.carries.honest.consistent.sound member
  rw [own, pending] at known
  cases action with
  | advance index =>
      simp [refundsAlone, confirms, known, busy] at apart
  | webhook asked number =>
      cases confirms
      simp [refundsAlone, found, busy] at apart
  | _ => cases confirms

/-- The compensations after a turn are of orders that are not paid. -/
theorem compensating_after (once : world.Once)
    (known : ∀ task ∈ before, task ∈ world.tasks)
    (turn : Turn world action before after books) :
    ∀ task ∈ after, ∀ order ∈ books.db.orders,
      task.givesBack = some order.id → order.status ≠ .paid := by
  have sound := once.carries.honest.consistent.sound
  have quietTask :
      Quiet after → ∀ task ∈ after, ∀ order ∈ books.db.orders,
        task.givesBack = some order.id → order.status ≠ .paid := by
    intro quiet task member order _ equal
    obtain ⟨orderId, rfl⟩ := quiet task member
    cases equal
  cases turn with
  | idle passing quiet => exact quietTask quiet
  | confirmed confirms source confirmed quiet => exact quietTask quiet
  | recorded recorded quiet => exact quietTask quiet
  | unrecorded failed quiet => exact quietTask quiet
  | closed closed quiet => exact quietTask quiet
  | expired confirms pending =>
      rintro _ ⟨⟩ order member equal paid
      obtain ⟨row, rowMember, rowId, status⟩ := pending
      cases equal
      rw [sound.order_eq rowMember member rowId, paid] at status
      cases status
  | compensating =>
      rintro _ ⟨⟩ order member equal
      have kept := once.compensating _ (known _ rfl) order member equal
      exact kept
  | refundExecuted =>
      rintro _ ⟨⟩ order member equal
      have kept := once.compensating _ (known _ rfl) order member equal
      exact kept
  | refundAnswered =>
      rintro _ ⟨⟩ order member equal
      have kept := once.compensating _ (known _ rfl) order member equal
      exact kept
  | cancelAnswered =>
      rintro _ ⟨⟩ order member equal
      split at equal <;> cases equal
  | _ => simp [Task.givesBack]

/-- The cancellations after a turn are of paid orders. -/
theorem canceling_after (once : world.Once)
    (known : ∀ task ∈ before, task ∈ world.tasks)
    (turn : Turn world action before after books) :
    ∀ cancellation stage, after = some (.canceling cancellation stage) →
      ∃ order ∈ books.db.orders, order.id = cancellation.order.id ∧
        order.status = .paid := by
  have quietTask :
      Quiet after →
        ∀ cancellation stage, after = some (.canceling cancellation stage) →
          ∃ order ∈ books.db.orders, order.id = cancellation.order.id ∧
            order.status = .paid := by
    rintro quiet cancellation stage rfl
    obtain ⟨orderId, equal⟩ := quiet _ rfl
    cases equal
  cases turn with
  | idle passing quiet => exact quietTask quiet
  | confirmed confirms source confirmed quiet => exact quietTask quiet
  | recorded recorded quiet => exact quietTask quiet
  | unrecorded failed quiet => exact quietTask quiet
  | closed closed quiet => exact quietTask quiet
  | cancelStarted prepared =>
      rintro _ _ ⟨⟩
      obtain ⟨order, member, payment, -, paid, -, -, orderEq, -⟩ :=
        prepareCancel_ok prepared
      exact ⟨order, member, by rw [orderEq], paid⟩
  | cancelExecuted =>
      rintro _ _ ⟨⟩
      exact once.canceling _ _ (known _ rfl)
  | cancelAnswered =>
      intro cancellation stage equal
      have kept := once.canceling _ _ (known _ rfl)
      split at equal
      · cases equal
        exact kept
      · cases equal
        exact kept
  | _ => simp

/-- An order that is open after a turn and was refunded before is being refunded. -/
theorem underway_before (once : world.Once) {order : Order}
    (turn : OrderTurn world action before order)
    (isOpen : order.Open) (refunded : world.refundsOf order.id ≠ []) :
    order.id ∈ world.tasks.filterMap Task.refundOrder := by
  cases turn with
  | opened pending fresh idle =>
      obtain ⟨refund, listed⟩ := List.exists_mem_of_ne_nil _ refunded
      obtain ⟨approval, member, both⟩ :=
        List.any_eq_true.mp (List.mem_filter.mp listed).2
      simp only [Bool.and_eq_true, beq_iff_eq] at both
      obtain ⟨old, oldMember, oldId, -⟩ :=
        once.carries.honest.balanced.priced approval member
      exact absurd (oldId.trans both.1) (fresh old oldMember)
  | same old member equal status =>
      rw [← equal] at refunded ⊢
      refine once.underway old member ?_ refunded
      rw [Order.Open, ← status]
      exact isOpen
  | paid old pgTid member equal pending =>
      rw [← equal] at refunded ⊢
      exact once.underway old member (Or.inl pending) refunded
  | closed old member equal pending closed =>
      rcases isOpen with status | status <;>
        rcases closed with final | final <;> simp [status] at final
  | canceled old cancellation attempt member equal status =>
      rcases isOpen with other | other <;> simp [status] at other

/-- A compensation that goes on in another call is still of an order that is not paid. -/
theorem compensating_others (once : world.Once)
    (apart : world.refundsAlone action = true)
    {task : Task} (member : task ∈ world.tasks) {order : Order}
    (turn : OrderTurn world action before order)
    (own : task.givesBack = some order.id) :
    order.status ≠ .paid := by
  intro paid
  cases turn with
  | opened pending fresh idle =>
      rw [paid] at pending
      cases pending
  | same old oldMember equal status =>
      rw [← equal] at own
      exact once.compensating task member old oldMember own (status.symm.trans paid)
  | paid old pgTid oldMember equal pending confirms found =>
      have alone := once.confirms_alone apart oldMember equal pending confirms found
      exact
        alone
          (List.mem_filterMap.mpr
            ⟨task, member, Task.refundOrder_of_givesBack own⟩)
  | closed old oldMember equal pending closed =>
      rcases closed with final | final <;> simp [paid] at final
  | canceled old cancellation attempt oldMember equal status =>
      simp [paid] at status

/-- An order stays paid through the turns of the calls that do not cancel it. -/
theorem canceling_others (once : world.Once)
    (turn : Turn world action before after books)
    (orderTurn : ∀ order ∈ books.db.orders, OrderTurn world action before order)
    {cancellation : Cancellation} {stage : CancelStage}
    (member : .canceling cancellation stage ∈ world.tasks)
    (apart :
      before.bind Task.refundOrder ≠ some cancellation.order.id) :
    ∃ order ∈ books.db.orders, order.id = cancellation.order.id ∧
      order.status = .paid := by
  have consistent := once.carries.honest.consistent
  have sound := consistent.sound
  obtain ⟨row, rowMember, rowId, rowPaid⟩ := once.canceling _ _ member
  have kept :=
    (turn.grows consistent).orders.subset (List.mem_map_of_mem rowMember)
  obtain ⟨order, orderMember, headEqual⟩ := List.mem_map.mp kept
  have orderId : order.id = row.id := Order.id_of_head headEqual
  have found : ∀ old ∈ world.db.orders, old.id = order.id → old = row :=
    fun old oldMember equal =>
      sound.order_eq oldMember rowMember (equal.trans orderId)
  refine ⟨order, orderMember, orderId.trans rowId, ?_⟩
  cases orderTurn order orderMember with
  | opened pending fresh idle =>
      exact absurd orderId.symm (fresh row rowMember)
  | same old oldMember equal status =>
      rw [status, found old oldMember equal]
      exact rowPaid
  | paid old pgTid oldMember equal pending =>
      rw [found old oldMember equal, rowPaid] at pending
      cases pending
  | closed old oldMember equal pending =>
      rw [found old oldMember equal, rowPaid] at pending
      cases pending
  | canceled old other attempt oldMember equal status source own =>
      rw [source] at apart
      exact absurd (congrArg some (own.trans (orderId.trans rowId))) apart

theorem step (once : world.Once)
    (truthful : world.truthful action = true)
    (apart : world.refundsAlone action = true)
    (taken : world.step action = some next) :
    next.Once := by
  have honest := once.carries.honest
  have sound := honest.consistent.sound
  obtain ⟨after, exchange, turn⟩ := step_turn taken
  generalize current : world.taskOf action = before at turn exchange
  have known := exchange.mem_before
  obtain ⟨others, included, split, kept, oldPerm, newPerm⟩ :=
    exchange.filterMap Task.refundOrder
  have oldAlone := oldPerm.nodup_iff.mp once.alone
  -- The refunds of the other calls are of other orders.
  have apartFrom :
      ∀ task ∈ others, ∀ orderId, task.refundOrder = some orderId →
        before.bind Task.refundOrder ≠ some orderId := by
    intro task member orderId own equal
    rw [equal] at oldAlone
    have absent := (List.nodup_cons.mp oldAlone).1
    exact absent (List.mem_filterMap.mpr ⟨task, member, own⟩)
  have refundTurn := once.refund_turn apart current turn
  have refunds := once.refunds_after known turn
  have orderTurn := turn.order_turn honest.consistent known
  have mem_others :
      ∀ orderId, orderId ∈ world.tasks.filterMap Task.refundOrder →
        before.bind Task.refundOrder = some orderId ∨
          orderId ∈ others.filterMap Task.refundOrder := by
    intro orderId listed
    rcases List.mem_append.mp (oldPerm.mem_iff.mp listed) with own | other
    · exact Or.inl (Option.mem_toList.mp own)
    · exact Or.inr other
  refine
    { carries := once.carries.step truthful taken
      alone := ?_
      single := ?_
      unexecuted := ?_
      underway := ?_
      compensating := ?_
      canceling := ?_ }
  · refine newPerm.nodup_iff.mpr ?_
    cases refundTurn with
    | ends ended =>
        rw [ended]
        exact (List.nodup_append.mp oldAlone).2.1
    | goesOn same unexecuted =>
        rw [same]
        exact oldAlone
    | starts orderId idle starts begun =>
        rw [idle] at oldAlone
        rw [begun]
        refine List.nodup_cons.mpr ⟨fun listed => ?_, oldAlone⟩
        exact starts.alone (oldPerm.mem_iff.mpr (List.mem_append_right _ listed))
  · intro orderId
    rcases refunds orderId with same | ⟨-, -, -, one⟩
    · show (Books.refundsOf next.toBooks orderId).length ≤ 1
      rw [same]
      exact once.single orderId
    · exact one.le
  · intro task member orderId waiting
    have unrefunded : world.refundsOf orderId = [] := by
      rcases split task member with own | other
      · cases refundTurn with
        | ends ended =>
            rw [own, Option.bind_some, Task.refundOrder_of_unexecuted waiting] at ended
            cases ended
        | goesOn same unexecuted =>
            rw [own] at unexecuted
            obtain ⟨old, inBefore, oldWaiting⟩ :=
              Option.bind_eq_some_iff.mp (unexecuted orderId waiting)
            exact once.unexecuted old (known old inBefore) orderId oldWaiting
        | starts started idle starts begun =>
            rw [own, Option.bind_some, Task.refundOrder_of_unexecuted waiting] at begun
            cases begun
            exact starts.unrefunded once
      · exact once.unexecuted task (included other) orderId waiting
    rcases refunds orderId with same | ⟨requested, executed, -, -⟩
    · exact same.trans unrefunded
    · rcases split task member with own | other
      · rw [own, Option.bind_some, waiting] at executed
        cases executed
      · obtain ⟨old, inBefore, oldWaiting⟩ := Option.bind_eq_some_iff.mp requested
        refine absurd ?_ (apartFrom task other orderId (Task.refundOrder_of_unexecuted waiting))
        rw [inBefore]
        exact Task.refundOrder_of_unexecuted oldWaiting
  · intro order member isOpen refunded
    refine newPerm.mem_iff.mpr (List.mem_append.mpr ?_)
    rcases refunds order.id with same | ⟨-, -, own, -⟩
    · have earlier : world.refundsOf order.id ≠ [] := by
        rw [← same]
        exact refunded
      have pursued :
          order.id ∈ world.tasks.filterMap Task.refundOrder :=
        once.underway_before (orderTurn order member) isOpen earlier
      rcases mem_others order.id pursued with own | other
      · rcases once.ends_after known turn own with goesOn | nothing | settled
        · exact Or.inl (Option.mem_toList.mpr goesOn)
        · exact absurd nothing earlier
        · exact absurd isOpen (settled order member rfl)
      · exact Or.inr other
    · exact Or.inl (Option.mem_toList.mpr own)
  · intro task member order inNext own
    rcases split task member with mine | other
    · exact once.compensating_after known turn task mine order inNext own
    · exact
        once.compensating_others apart (included other) (orderTurn order inNext) own
  · intro cancellation stage member
    rcases split _ member with mine | other
    · exact once.canceling_after known turn cancellation stage mine
    · exact
        once.canceling_others turn orderTurn (included other)
          (apartFrom _ other _ rfl)

theorem initial
    (inventory : Inventory) (startsAt : Nat → Policy.Datetime) (clock : Time) :
    (World.initial inventory startsAt clock).Once :=
  { carries := .initial inventory startsAt clock
    alone := by simp [World.initial, tasks]
    single := by simp [World.initial, Books.refundsOf]
    unexecuted := by simp [World.initial, tasks]
    underway := by simp [World.initial]
    compensating := by simp [World.initial, tasks]
    canceling := by simp [World.initial, tasks] }

end Once

/-! ## Money goes back once -/

/-- Each approval has at most one refund, which is not more than what was paid. -/
def RefundsOnce (world : World) : Prop :=
  ∀ approval ∈ world.approvals,
    (world.refundsOf approval.orderId).length ≤ 1 ∧
      (0 ≤ approval.amount →
        ((world.refundsOf approval.orderId).map (·.amount)).sum ≤
          approval.amount)

theorem Once.refundsOnce (once : world.Once) : world.RefundsOnce := by
  have balanced := once.carries.honest.balanced
  intro approval member
  have single := once.single approval.orderId
  refine ⟨single, fun positive => ?_⟩
  match listed : world.refundsOf approval.orderId, single with
  | [], _ => exact positive
  | [refund], _ =>
      have both := List.mem_filter.mp (listed.symm ▸ List.mem_singleton_self refund)
      obtain ⟨paid, paidMember, number, bounded⟩ :=
        balanced.refunded refund both.1
      obtain ⟨own, ownMember, equal⟩ := List.any_eq_true.mp both.2
      simp only [Bool.and_eq_true, beq_iff_eq] at equal
      have numbers : (world.approvals.map (·.pgTid)).Nodup :=
        (List.nodup_append.mp balanced.issued).1
      have first : paid = own :=
        List.inj_on_of_nodup_map numbers paidMember ownMember
          (number.trans equal.2.symm)
      have second : own = approval :=
        Unique.eq balanced.once ownMember member equal.1
      rw [first, second] at bounded
      simpa using bounded positive

/-- A truthful gateway, and refunds of one order that do not overlap. -/
def separateRefunds (world : World) (action : Action) : Prop :=
  world.truthful action = true ∧ world.refundsAlone action = true

instance (world : World) (action : Action) :
    Decidable (world.separateRefunds action) :=
  inferInstanceAs (Decidable (_ ∧ _))

/--
In every run in which the refunds of an order neither overlap nor go
unanswered, the money of an order goes back at most once.
-/
theorem money_goes_back_once
    {inventory : Inventory} {startsAt : Nat → Policy.Datetime} {clock : Time}
    {world : World}
    (run :
      TransitionSystem.RunWhere World.step World.separateRefunds
        (World.initial inventory startsAt clock) world) :
    world.RefundsOnce := by
  have once : world.Once :=
    run.invariant (.initial inventory startsAt clock)
      fun _ _ _ once allowed taken => once.step allowed.1 allowed.2 taken
  exact once.refundsOnce

/-- An order that is paid and canceled is refunded once. -/
theorem money_goes_back_once_canceled :
    ∃ world : World,
      ((world.refundsOf 1).length == 1 && world.calls.isEmpty &&
          world.db.orders.map (·.status) == [.canceled]) = true ∧
        world.RefundsOnce := by
  obtain ⟨world, run, seen⟩ :=
    TransitionSystem.RunWhere.exists_of_checkedRun World.step
      World.separateRefunds World.oneSeat
      (Action.order 7 "key" ++ Action.pay "tid-1" ++
        [.startCancel 1 none,
         .execute 0 "refund-1",
         .answer 0 { result := .approved, pgTid := some "refund-1" },
         .advance 0])
      (fun world : World =>
        (world.refundsOf 1).length == 1 && world.calls.isEmpty &&
          world.db.orders.map (·.status) == [.canceled])
      (by decide)
  exact ⟨world, seen, money_goes_back_once run⟩

/-- Without the condition two cancellations refund the same order. -/
theorem money_goes_back_once_fails :
    ¬ ∀ world : World,
      TransitionSystem.RunWhere World.step
          (fun before action => before.truthful action = true) World.oneSeat
          world →
        world.RefundsOnce := by
  intro claim
  obtain ⟨world, run, seen⟩ :=
    TransitionSystem.RunWhere.exists_of_checkedRun World.step
      (fun before action => before.truthful action = true) World.oneSeat
      (Action.order 7 "key" ++ Action.pay "tid-1" ++
        [.startCancel 1 none,
         .startCancel 1 none,
         .execute 0 "refund-1",
         .execute 1 "refund-2"])
      (fun world : World =>
        world.approvals.any fun approval =>
          (world.refundsOf approval.orderId).length == 2)
      (by decide)
  obtain ⟨approval, member, twice⟩ := List.any_eq_true.mp seen
  have once := (claim world run approval member).1
  rw [beq_iff_eq] at twice
  omega

end World

end Curtain
