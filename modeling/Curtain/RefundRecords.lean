import Curtain.Answers
import Curtain.OrderBooks

/-!
# The record of a refund

A refund is made outside the database and recorded in a later transaction.
Between the two the call owes the record.  It pays the debt unless its
transaction finds another cancellation finished, or stores a number twice:
then the refund is in no table.
-/

namespace Curtain

open Queries Table HoldService OrderService

/-! ## Recorded, approved and owed refunds -/

/-- The sums of the refunds that are recorded for an order. -/
def Db.refundsRecorded (db : Db) (orderId : Nat) : List Int :=
  (db.paymentsOf orderId .refunded).map (·.amount)

/-- The sum of an approved refund of the order. -/
def Event.refundApproved (orderId : Nat) : Event → Option Int
  | .refundAnswered other amount attempt =>
      if other = orderId ∧ attempt.approved = true then some amount else none
  | _ => none

/-- The sums of the refunds of an order that the gateway has approved. -/
def World.refundsApproved (world : World) (orderId : Nat) : List Int :=
  world.log.filterMap (Event.refundApproved orderId)

/-- The sum of an approved refund that the call has still to record. -/
def Task.owes (orderId : Nat) : Task → Option Int
  | .settling (.recording order total _ attempt) =>
      if order.id = orderId ∧ attempt.approved = true then some total else none
  | .canceling cancellation (.closing attempt) =>
      if cancellation.order.id = orderId ∧ attempt.approved = true then
        some cancellation.refundAmount
      else none
  | _ => none

theorem Task.refundOrder_of_owes {task : Task} {orderId : Nat} {sum : Int}
    (owes : task.owes orderId = some sum) :
    task.refundOrder = some orderId := by
  rcases task with
    _ | _ | ⟨_ | _ | _ | _ | ⟨order, total, why, attempt⟩⟩ |
    ⟨cancellation, _ | _ | attempt⟩
  case settling.recording =>
      simp only [Task.owes, Option.ite_none_right_eq_some] at owes
      exact congrArg some owes.1.1
  case canceling.closing =>
      simp only [Task.owes, Option.ite_none_right_eq_some] at owes
      exact congrArg some owes.1.1
  all_goals cases owes

/-- An answered refund is approved for its order. -/
theorem filterMap_refundAnswered
    (orderId other : Nat) (amount : Int) (attempt : PayAttempt) :
    [Event.refundAnswered other amount attempt].filterMap
        (Event.refundApproved orderId) =
      (if other = orderId ∧ attempt.approved = true then some amount
        else none).toList := by
  rw [List.filterMap_cons, Event.refundApproved]
  split_ifs <;> rfl

/-- What the task owes for an order, if there is a task. -/
def owed (orderId : Nat) (task : Option Task) : List Int :=
  (task.bind (Task.owes orderId)).toList

theorem owed_quiet {orderId : Nat} {task : Option Task} (quiet : Quiet task) :
    owed orderId task = [] := by
  cases task with
  | none => rfl
  | some busy =>
      obtain ⟨asked, rfl⟩ := quiet busy rfl
      rfl

theorem owed_passing {orderId : Nat} {task : Option Task}
    (passing : Passing task) :
    owed orderId task = [] := by
  rcases task with _ | ⟨_ | _ | ⟨_ | _ | _ | _ | _⟩ | _⟩
  case some.settling.refunding => cases passing _ rfl
  case some.settling.recording => cases passing _ rfl
  case some.canceling => cases passing _ rfl
  all_goals rfl

/-! ## The condition -/

/-- The number of the attempt can be stored. -/
def Db.storable (db : Db) (attempt : PayAttempt) : Bool :=
  attempt.pgTid.all fun number => !db.stored.contains number

/--
The transaction that ends a refund records it: a cancellation finds its order
still paid, and the number of an approved refund is not stored already.
-/
def World.recordsRefund (world : World) (action : Action) : Bool :=
  match action, world.taskOf action with
  | .advance _, some (.canceling cancellation (.closing attempt)) =>
      statusOf cancellation.order.id world.db == some .paid &&
        world.db.storable attempt
  | .advance _, some (.settling (.recording _ _ _ attempt)) =>
      !attempt.approved || world.db.storable attempt
  | _, _ => true

theorem storable_nodup {db : Db} {attempt : PayAttempt}
    (storable : db.storable attempt = true) (unique : db.stored.Nodup) :
    (db.stored ++ attempt.pgTid.toList).Nodup := by
  rw [Db.storable] at storable
  cases number : attempt.pgTid with
  | none => simpa using unique
  | some given =>
      rw [number] at storable
      rw [Option.toList_some, List.nodup_append]
      refine ⟨unique, List.nodup_singleton _, ?_⟩
      rintro stored member _ single rfl
      rw [List.mem_singleton.mp single] at member
      simp [member] at storable

/-! ## Recorded refunds under the transactions -/

section Transactions

variable {db after : Db} {orderId : Nat}

theorem refundsRecorded_failPendingPayments (other : Nat) :
    (failPendingPayments other db).refundsRecorded orderId =
      db.refundsRecorded orderId := by
  rw [Db.refundsRecorded, paymentsOf_failPendingPayments (Or.inr (by simp))]
  rfl

/-- An inserted payment is recorded as a refund when it is one. -/
theorem refundsRecorded_insertPayment
    {other : Nat} {status : PayStatus} {amount : Int}
    {pgTid : Option String} {fees : Option FeeSnapshot}
    (ok : insertPayment other status amount pgTid fees db = .ok after) :
    after.refundsRecorded orderId =
      db.refundsRecorded orderId ++
        if other = orderId ∧ status = .refunded then [amount] else [] := by
  obtain ⟨-, rfl⟩ := insertPayment_ok.mp ok
  rw [Db.refundsRecorded, paymentsOf_append, List.map_append]
  dsimp only
  split <;> rfl

theorem refundsRecorded_closeUnpaid {other : Nat} {status : OrderStatus}
    (ok : closeUnpaid other status db = .ok after) :
    after.refundsRecorded orderId = db.refundsRecorded orderId := by
  rcases closeUnpaid_ok ok with rfl | ⟨owner, -, -, -, rfl⟩
  · rfl
  · exact refundsRecorded_failPendingPayments other

/-- A compensation records its refund when it was approved. -/
theorem refundsRecorded_recordRefund
    {order : Order} {total : Int} {attempt : PayAttempt}
    (ok : recordRefund order total attempt db = .ok after) :
    after.refundsRecorded orderId =
      db.refundsRecorded orderId ++
        if order.id = orderId ∧ attempt.approved = true then [total] else [] := by
  obtain ⟨middle, inserted, rfl⟩ := recordRefund_ok ok
  have recorded :
      middle.refundsRecorded orderId = _ :=
    refundsRecorded_insertPayment inserted
  have closed :
      (failPendingPayments order.id middle).refundsRecorded orderId =
        middle.refundsRecorded orderId :=
    refundsRecorded_failPendingPayments order.id
  have status :
      (if attempt.approved = true then PayStatus.refunded else .failed) =
          .refunded ↔
        attempt.approved = true := by
    split <;> simp_all
  simp only [status] at recorded
  rw [← recorded, ← closed]
  split <;> rfl

end Transactions

/-! ## What a turn records -/

section Turns

variable {world : World} {action : Action} {before after : Option Task}
variable {books : Books} {orderId : Nat}

/-- A closing transaction that meets the condition records its refund. -/
theorem refundsRecorded_closeCanceled
    {cancellation : Cancellation} {attempt : PayAttempt} {db : Db}
    (sound : world.db.Sound)
    (paid : statusOf cancellation.order.id world.db = some .paid)
    (approved : attempt.approved = true)
    (ok : closeCanceled cancellation attempt world.db = .ok db) :
    db.refundsRecorded orderId =
      world.db.refundsRecorded orderId ++
        owed orderId (some (.canceling cancellation (.closing attempt))) := by
  rcases closeCanceled_ok ok with ⟨-, unpaid⟩ | ⟨-, refunded, inserted, rfl⟩
  · simp only [statusOf, Option.map_eq_some_iff] at paid
    obtain ⟨order, found, status⟩ := paid
    obtain ⟨member, equal⟩ := (lookup_eq_some sound.orderIdUnique).mp found
    exact absurd status (unpaid order member equal)
  · have recorded :
        refunded.refundsRecorded orderId = _ :=
      refundsRecorded_insertPayment inserted
    have same :
        (restoreOrderSeats cancellation.order.id refunded).2.refundsRecorded
            orderId =
          refunded.refundsRecorded orderId := rfl
    change
      (restoreOrderSeats cancellation.order.id refunded).2.refundsRecorded
        orderId = _
    rw [same, recorded, owed, Option.bind_some, Task.owes]
    simp only [approved, and_true]
    split <;> rfl

/-- What is recorded and owed changes by the refund that is approved. -/
theorem Turn.owed_after
    (recorded : world.Recorded) (hears : world.Hears)
    (records : world.recordsRefund action = true)
    (current : world.taskOf action = before)
    (known : ∀ task ∈ before, task ∈ world.tasks)
    (turn : Turn world action before after books) :
    (books.db.refundsRecorded orderId ++ owed orderId after).Perm
      (world.db.refundsRecorded orderId ++ owed orderId before ++
        (heardBy action before).filterMap (Event.refundApproved orderId)) := by
  have sound := recorded.consistent.sound
  -- A turn without a refund in it.
  have aside
      (same : books.db.refundsRecorded orderId = world.db.refundsRecorded orderId)
      (owedAfter : owed orderId after = []) (owedBefore : owed orderId before = [])
      (unheard :
        (heardBy action before).filterMap (Event.refundApproved orderId) = []) :
      (books.db.refundsRecorded orderId ++ owed orderId after).Perm
        (world.db.refundsRecorded orderId ++ owed orderId before ++
          (heardBy action before).filterMap (Event.refundApproved orderId)) := by
    rw [same, owedAfter, owedBefore, unheard, List.append_nil, List.append_nil]
  have pays (paid : books.db.refundsRecorded orderId =
        world.db.refundsRecorded orderId ++ owed orderId before)
      (owedAfter : owed orderId after = [])
      (unheard :
        (heardBy action before).filterMap (Event.refundApproved orderId) = []) :
      (books.db.refundsRecorded orderId ++ owed orderId after).Perm
        (world.db.refundsRecorded orderId ++ owed orderId before ++
          (heardBy action before).filterMap (Event.refundApproved orderId)) := by
    rw [paid, owedAfter, unheard]
  cases turn with
  | idle passing quiet =>
      refine aside rfl (owed_quiet quiet) (owed_passing passing) ?_
      rcases before with
        _ | ⟨_ | _ | ⟨_ | _ | _ | _ | _⟩ | _⟩ <;> cases action <;>
        first
          | rfl
          | cases passing _ rfl
  | acquired ok =>
      obtain ⟨-, rfl⟩ := acquireSeats_ok sound.rowUnique ok
      exact aside rfl rfl rfl rfl
  | released => exact aside rfl rfl rfl rfl
  | swept => exact aside rfl rfl rfl rfl
  | opened opened =>
      refine aside ?_ rfl rfl rfl
      rw [opened.after_eq, Db.refundsRecorded]
      change List.map _ (Db.paymentsOf { world.db with payments := _ } _ _) = _
      rw [paymentsOf_append, if_neg (by simp), List.append_nil]
      rfl
  | approvalExecuted => exact aside rfl rfl rfl rfl
  | approved asked =>
      rename_i index attempt task asking pgTid amount result number sum
      cases task with
      | approving => exact aside rfl rfl rfl rfl
      | inquiring => exact aside rfl rfl rfl rfl
      | settling | canceling => cases asked
  | declined asked =>
      rename_i index attempt task asking status result final
      cases task with
      | approving => exact aside rfl rfl rfl rfl
      | inquiring => exact aside rfl rfl rfl rfl
      | settling | canceling => cases asked
  | confirmed confirms source confirmed quiet =>
      refine aside ?_ (owed_quiet quiet) ?_ ?_
      · dsimp only
        rw [Db.refundsRecorded, confirmed.paymentsOf (Or.inr (by simp))]
        rfl
      · rcases source with ⟨amount, rfl⟩ | ⟨rfl, -⟩ <;> rfl
      · rcases source with ⟨amount, rfl⟩ | ⟨rfl, -⟩ <;> cases action <;> rfl
  | expired => exact aside rfl rfl rfl rfl
  | compensating => exact aside rfl rfl rfl rfl
  | refundExecuted => exact aside rfl rfl rfl rfl
  | refundAnswered =>
      rename_i index attempt order pgTid total why number
      change List.Perm _ (_ ++ [] ++ List.filterMap _ [_])
      rw [List.append_nil, filterMap_refundAnswered]
      exact List.Perm.refl _
  | recorded ok quiet =>
      refine pays ?_ (owed_quiet quiet) rfl
      dsimp only
      rw [refundsRecorded_recordRefund ok, owed, Option.bind_some, Task.owes]
      split <;> rfl
  | unrecorded failed quiet =>
      rename_i index attempt order total why error
      refine aside rfl (owed_quiet quiet) ?_ rfl
      rw [owed, Option.bind_some, Task.owes, if_neg]
      · rfl
      · rintro ⟨-, approved⟩
        simp only [World.recordsRefund, current, approved, Bool.not_true,
          Bool.false_or] at records
        exact recordRefund_error failed (storable_nodup records recorded.unique)
  | closed closed quiet =>
      exact aside (refundsRecorded_closeUnpaid closed) (owed_quiet quiet) rfl rfl
  | cancelStarted => exact aside rfl rfl rfl rfl
  | cancelExecuted => exact aside rfl rfl rfl rfl
  | cancelAnswered =>
      rename_i index attempt cancellation number
      change List.Perm _ (_ ++ [] ++ List.filterMap _ [_])
      rw [List.append_nil, filterMap_refundAnswered]
      cases approved : attempt.approved with
      | true =>
          rw [if_pos rfl, owed, Option.bind_some, Task.owes, approved]
      | false =>
          rw [if_neg Bool.false_ne_true, if_neg (by simp)]
          exact List.Perm.refl _
  | cancelFailed ok =>
      refine aside ?_ rfl rfl rfl
      dsimp only
      rw [refundsRecorded_insertPayment ok, if_neg (by simp), List.append_nil]
  | cancelUnfailed => exact aside rfl rfl rfl rfl
  | cancelClosed ok =>
      rename_i index cancellation attempt db
      refine pays ?_ rfl rfl
      simp only [World.recordsRefund, current, Bool.and_eq_true, beq_iff_eq]
        at records
      exact
        refundsRecorded_closeCanceled sound records.1
          (hears.heard _ (known _ rfl)).1 ok
  | cancelUnclosed failed =>
      simp only [World.recordsRefund, current, Bool.and_eq_true] at records
      exact (closeCanceled_error failed (storable_nodup records.2 recorded.unique)).elim

end Turns

/-! ## Every run -/

/-- What is recorded, together with what is owed, is what was approved. -/
structure World.Trails (world : World) : Prop where
  recorded : world.Recorded
  hears : world.Hears
  balance :
    ∀ orderId,
      (world.db.refundsRecorded orderId ++
          world.tasks.filterMap (Task.owes orderId)).Perm
        (world.refundsApproved orderId)

/-- Only answers are approved refunds. -/
theorem filterMap_refundApproved (orderId : Nat) (log : List Event) :
    (log.filter Event.isAnswer).filterMap (Event.refundApproved orderId) =
      log.filterMap (Event.refundApproved orderId) := by
  rw [List.filterMap_filter]
  apply List.filterMap_congr
  intro event _
  cases event <;> rfl

namespace World

variable {world next : World} {action : Action}

theorem Trails.initial
    (inventory : Inventory) (startsAt : Nat → Policy.Datetime) (clock : Time) :
    (World.initial inventory startsAt clock).Trails where
  recorded := .initial inventory startsAt clock
  hears := .initial inventory startsAt clock
  balance := fun _ => List.Perm.refl _

theorem Trails.step (trails : world.Trails)
    (records : world.recordsRefund action = true)
    (taken : world.step action = some next) :
    next.Trails := by
  refine
    { recorded := trails.recorded.step taken
      hears := trails.hears.step taken
      balance := ?_ }
  intro orderId
  obtain ⟨after, exchange, turn⟩ := step_turn taken
  have known := exchange.mem_before
  have turned :
      (next.db.refundsRecorded orderId ++ owed orderId after).Perm _ :=
    turn.owed_after trails.recorded trails.hears records rfl known
  obtain ⟨others, -, -, -, oldOwed, newOwed⟩ :=
    exchange.filterMap (Task.owes orderId)
  have approved :
      next.refundsApproved orderId =
        world.refundsApproved orderId ++
          (heardBy action (world.taskOf action)).filterMap
            (Event.refundApproved orderId) := by
    rw [refundsApproved, ← filterMap_refundApproved, step_answers taken,
      List.filterMap_append, filterMap_refundApproved]
    rfl
  have before := trails.balance orderId
  rw [approved]
  simp only [owed, List.perm_iff_count, List.count_append] at turned oldOwed newOwed before ⊢
  intro sum
  have atSum := turned sum
  have oldAtSum := oldOwed sum
  have newAtSum := newOwed sum
  have beforeAtSum := before sum
  omega

/-- The steps in which every approved refund is recorded when its call ends. -/
def recordedRefunds (world : World) (action : Action) : Prop :=
  world.recordsRefund action = true

instance (world : World) (action : Action) :
    Decidable (world.recordedRefunds action) :=
  inferInstanceAs (Decidable (_ = true))

/--
In every run whose refunds are recorded when their calls end, the refunds in
the table are those that the gateway has approved, for every order that no
call is refunding any more.
-/
theorem refunds_leave_a_record
    {inventory : Inventory} {startsAt : Nat → Policy.Datetime} {clock : Time}
    (run :
      TransitionSystem.RunWhere World.step World.recordedRefunds
        (World.initial inventory startsAt clock) world) :
    ∀ orderId, (∀ task ∈ world.tasks, task.refundOrder ≠ some orderId) →
      (world.db.refundsRecorded orderId).Perm (world.refundsApproved orderId) := by
  have trails : world.Trails :=
    run.invariant (.initial inventory startsAt clock)
      fun _ _ _ trails records taken => trails.step records taken
  intro orderId ended
  have nothing : world.tasks.filterMap (Task.owes orderId) = [] := by
    rw [List.filterMap_eq_nil_iff]
    intro task member
    rw [Option.eq_none_iff_forall_ne_some]
    intro sum owes
    exact ended task member (Task.refundOrder_of_owes owes)
  have balance := trails.balance orderId
  rwa [nothing, List.append_nil] at balance

/-- A cancellation leaves its refund in the table. -/
theorem refunds_leave_a_record_canceled :
    ∃ world : World,
      (world.calls.isEmpty && world.refundsApproved 1 == [150000]) = true ∧
        ∀ orderId, (∀ task ∈ world.tasks, task.refundOrder ≠ some orderId) →
          (world.db.refundsRecorded orderId).Perm
            (world.refundsApproved orderId) := by
  obtain ⟨world, run, seen⟩ :=
    TransitionSystem.RunWhere.exists_of_checkedRun World.step
      World.recordedRefunds World.oneSeat
      (Action.order 7 "key" ++ Action.pay "tid-1" ++
        [.startCancel 1 none,
         .execute 0 "refund-1",
         .answer 0 { result := .approved, pgTid := some "refund-1" },
         .advance 0])
      (fun world : World =>
        world.calls.isEmpty && world.refundsApproved 1 == [150000])
      (by decide)
  exact ⟨world, seen, refunds_leave_a_record run⟩

/--
Two cancellations of one order read it paid, and the gateway refunds both.  The
one that closes the order last returns without a record.
-/
def crossingCancellations : List Action :=
  Action.order 7 "key" ++ Action.pay "tid-1" ++
    [.startCancel 1 none,
     .startCancel 1 none,
     .execute 0 "refund-1",
     .execute 1 "refund-2",
     .answer 0 { result := .approved, pgTid := some "refund-1" },
     .answer 1 { result := .approved, pgTid := some "refund-2" },
     .advance 0,
     .advance 0]

/-- Without the condition an approved refund is in no table. -/
theorem refunds_leave_a_record_fails :
    ¬ ∀ world : World,
      TransitionSystem.RunWhere World.step
          (fun world action => world.truthful action = true)
          World.oneSeat world →
        world.calls = [] →
          ∀ orderId,
            (world.db.refundsRecorded orderId).Perm
              (world.refundsApproved orderId) := by
  intro claim
  obtain ⟨world, run, seen⟩ :=
    TransitionSystem.RunWhere.exists_of_checkedRun World.step
      (fun world action => world.truthful action = true)
      World.oneSeat crossingCancellations
      (fun world : World =>
        world.calls.isEmpty && world.db.refundsRecorded 1 == [150000] &&
          world.refundsApproved 1 == [150000, 150000])
      (by decide)
  simp only [Bool.and_eq_true, List.isEmpty_iff, beq_iff_eq] at seen
  obtain ⟨⟨quiet, recorded⟩, approved⟩ := seen
  have equal := (claim world run quiet 1).length_eq
  rw [recorded, approved] at equal
  cases equal

end World

end Curtain
