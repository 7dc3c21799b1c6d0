import Curtain.Numbers
import Curtain.Payable
import Curtain.Resale
import Mathlib.Data.Fintype.EquivFin

/-!
# A lost answer

The gateway executes an approval and the answer to it is lost.  The order
stays pending until the reconciler finds it, at the first tick after the age
limit.  It can confirm the order then if the holds of the order outlast the
limit and one tick.  The statement that opens the order asks for a shorter
remainder.
-/

namespace Curtain

open Queries Table HoldService OrderService

/-! ## Where the stored numbers come from -/

/-- A payment of the order stores the number. -/
def Db.StoresFor (db : Db) (orderId : Nat) (number : String) : Prop :=
  ∃ payment ∈ db.payments,
    payment.orderId = orderId ∧ payment.pgTid = some number

/-- A stored number is of an approval of the same order, or of a refund. -/
def Books.Sourced (books : Books) : Prop :=
  ∀ orderId number, books.db.StoresFor orderId number →
    books.approves orderId number = true ∨
      number ∈ books.refunds.map (·.refundTid)

section Sources

variable {db after : Db} {other : Nat} {number : String}

theorem insertPayment_storesFor
    {orderId : Nat} {status : PayStatus} {amount : Int}
    {pgTid : Option String} {fees : Option FeeSnapshot}
    (ok : insertPayment orderId status amount pgTid fees db = .ok after)
    (stored : after.StoresFor other number) :
    db.StoresFor other number ∨ (other = orderId ∧ pgTid = some number) := by
  obtain ⟨-, rfl⟩ := insertPayment_ok.mp ok
  obtain ⟨payment, member, rfl, found⟩ := stored
  rcases List.mem_append.mp member with old | new
  · exact Or.inl ⟨payment, old, rfl, found⟩
  · rw [List.mem_singleton.mp new] at found ⊢
    exact Or.inr ⟨rfl, found⟩

theorem failPendingPayments_storesFor {orderId : Nat}
    (stored : (failPendingPayments orderId db).StoresFor other number) :
    db.StoresFor other number := by
  obtain ⟨payment, member, rfl, found⟩ := stored
  obtain ⟨old, oldMember, ⟨-, rfl⟩ | ⟨-, rfl⟩⟩ := mem_updateWhere.mp member
  · exact ⟨old, oldMember, rfl, found⟩
  · exact ⟨payment, oldMember, rfl, found⟩

theorem closeUnpaid_storesFor {orderId : Nat} {status : OrderStatus}
    (ok : closeUnpaid orderId status db = .ok after)
    (stored : after.StoresFor other number) :
    db.StoresFor other number := by
  rcases closeUnpaid_ok ok with rfl | ⟨order, -, -, -, rfl⟩
  · exact stored
  · have failed :
        (failPendingPayments orderId db).StoresFor other number := stored
    exact failPendingPayments_storesFor failed

theorem recordRefund_storesFor {order : Order} {total : Int}
    {attempt : PayAttempt}
    (ok : recordRefund order total attempt db = .ok after)
    (stored : after.StoresFor other number) :
    db.StoresFor other number ∨ attempt.pgTid = some number := by
  obtain ⟨middle, inserted, rfl⟩ := recordRefund_ok ok
  have failed : (failPendingPayments order.id middle).StoresFor other number := by
    split at stored <;> exact stored
  exact
    (insertPayment_storesFor inserted
      (failPendingPayments_storesFor failed)).imp_right And.right

theorem closeCanceled_storesFor
    {cancellation : Cancellation} {attempt : PayAttempt}
    (ok : closeCanceled cancellation attempt db = .ok after)
    (stored : after.StoresFor other number) :
    db.StoresFor other number ∨ attempt.pgTid = some number := by
  rcases closeCanceled_ok ok with ⟨rfl, -⟩ | ⟨-, refunded, inserted, rfl⟩
  · exact Or.inl stored
  · have recorded : refunded.StoresFor other number := stored
    exact (insertPayment_storesFor inserted recorded).imp_right And.right

theorem Confirmed.storesFor {order : Order} {pgTid : String} {now : Time}
    (confirmed : Confirmed order pgTid now db after)
    (stored : after.StoresFor other number) :
    db.StoresFor other number ∨ (other = order.id ∧ number = pgTid) := by
  obtain ⟨payment, member, rfl, found⟩ := stored
  rcases confirmed.promoted with ⟨-, equal⟩ | ⟨-, equal⟩
  · rw [equal] at member
    obtain ⟨old, oldMember, ⟨requested, rfl⟩ | ⟨-, rfl⟩⟩ :=
      mem_updateWhere.mp member
    · simp only [isRequested, Bool.and_eq_true, beq_iff_eq] at requested
      exact Or.inr ⟨requested.1, (Option.some_injective _ found).symm⟩
    · exact Or.inl ⟨payment, oldMember, rfl, found⟩
  · rw [equal] at member
    rcases List.mem_append.mp member with old | new
    · exact Or.inl ⟨payment, old, rfl, found⟩
    · rw [List.mem_singleton.mp new] at found ⊢
      exact Or.inr ⟨rfl, (Option.some_injective _ found).symm⟩

end Sources

namespace World.Carries

variable {world next : World} {action : Action} {before after : Option Task}
variable {books : Books}

theorem sourced_after (carries : world.Carries) (sourced : world.Sourced)
    (truthful : world.truthful action = true)
    (known : ∀ task ∈ before, task ∈ world.tasks)
    (turn : Turn world action before after books) :
    books.Sourced := by
  have grows := turn.grows carries.honest.consistent
  have old :
      ∀ {orderId : Nat} {number : String}, world.db.StoresFor orderId number →
        books.approves orderId number = true ∨
          number ∈ books.refunds.map (·.refundTid) := by
    intro orderId number stored
    refine (sourced orderId number stored).imp grows.approves fun listed => ?_
    obtain ⟨refund, member, rfl⟩ := List.mem_map.mp listed
    exact List.mem_map_of_mem (grows.refunds.subset member)
  -- A call that has carried a number out of a refund stores that number.
  have carried :
      ∀ {task : Task} {number : String}, before = some task →
        task.number = some number →
          number ∈ books.refunds.map (·.refundTid) := by
    intro task number isBefore found
    have listed :=
      carries.refunds number
        (List.mem_filterMap.mpr ⟨task, known task isBefore, found⟩)
    obtain ⟨refund, member, rfl⟩ := List.mem_map.mp listed
    exact List.mem_map_of_mem (grows.refunds.subset member)
  intro orderId number stored
  cases turn with
  | acquired taken =>
      obtain ⟨-, rfl⟩ :=
        acquireSeats_ok carries.honest.consistent.sound.rowUnique taken
      exact old stored
  | opened opened =>
      dsimp only at stored
      obtain ⟨payment, member, rfl, found⟩ := stored
      rw [opened.after_eq] at member
      rcases List.mem_append.mp member with earlier | new
      · exact old ⟨payment, earlier, rfl, found⟩
      · rw [List.mem_singleton.mp new] at found
        cases found
  | confirmed confirms source confirmed quiet =>
      rcases confirmed.storesFor stored with earlier | ⟨rfl, rfl⟩
      · exact old earlier
      · exact Or.inl (carries.honest.confirms_approves truthful known source)
  | recorded recorded quiet =>
      rcases recordRefund_storesFor recorded stored with earlier | given
      · exact old earlier
      · exact Or.inr (carried rfl given)
  | closed closed quiet => exact old (closeUnpaid_storesFor closed stored)
  | cancelFailed recorded =>
      rcases insertPayment_storesFor recorded stored with earlier | ⟨-, given⟩
      · exact old earlier
      · cases given
  | cancelClosed closed =>
      rcases closeCanceled_storesFor closed stored with earlier | given
      · exact old earlier
      · exact Or.inr (carried rfl given)
  | _ => exact old stored

/-- The number of an approval that its order does not store is not stored. -/
theorem unstored (carries : world.Carries) (sourced : world.Sourced)
    {orderId : Nat} {number : String}
    (approved : world.approves orderId number = true)
    (unstored : ¬ world.db.StoresFor orderId number) :
    number ∉ world.db.stored := by
  intro listed
  obtain ⟨payment, member, found⟩ := List.mem_filterMap.mp listed
  obtain ⟨approvals, -, disjoint⟩ :=
    List.nodup_append.mp carries.honest.balanced.issued
  have given := Books.approves_mem approved
  rcases sourced payment.orderId number ⟨payment, member, rfl, found⟩ with
    other | refund
  · obtain ⟨left, leftMember, leftFound⟩ := List.any_eq_true.mp approved
    obtain ⟨right, rightMember, rightFound⟩ := List.any_eq_true.mp other
    simp only [Bool.and_eq_true, beq_iff_eq] at leftFound rightFound
    have same : left = right :=
      List.inj_on_of_nodup_map approvals leftMember rightMember
        (leftFound.2.trans rightFound.2.symm)
    refine unstored ⟨payment, member, ?_, found⟩
    rw [← rightFound.1, ← same]
    exact leftFound.1
  · exact disjoint number given number refund rfl

end World.Carries

/-! ## The run after a lost answer -/

/-- Seconds between two ticks of the reconciler. -/
def OrderService.reconcileTickSec : Int := 30

/-- The rows of the order, of its seats and of their items are the same. -/
structure Db.Untouched (db after : Db) (order : Order) : Prop where
  rows : db.KeepsOrder after order.id
  seats :
    (after.scheduleSeats.filter fun row => order.wants row.stock) =
      db.scheduleSeats.filter fun row => order.wants row.stock
  items :
    ∀ row ∈ db.scheduleSeats, order.wants row.stock = true →
      (after.orderItems.filter (·.scheduleSeatId == row.id)) =
        db.orderItems.filter (·.scheduleSeatId == row.id)

section Untouched

variable {db middle after : Db} {order : Order}

theorem Db.Untouched.refl : db.Untouched db order :=
  ⟨.refl, rfl, fun _ _ _ => rfl⟩

theorem Db.Untouched.mem_seats (untouched : db.Untouched after order)
    {row : ScheduleSeat} (wanted : order.wants row.stock = true) :
    row ∈ after.scheduleSeats ↔ row ∈ db.scheduleSeats := by
  have same :
      (row ∈ after.scheduleSeats.filter fun row => order.wants row.stock) ↔
        row ∈ db.scheduleSeats.filter fun row => order.wants row.stock := by
    rw [untouched.seats]
  simpa [wanted] using same

theorem Db.Untouched.trans (first : db.Untouched middle order)
    (second : middle.Untouched after order) :
    db.Untouched after order where
  rows := first.rows.trans second.rows
  seats := second.seats.trans first.seats
  items := by
    intro row member wanted
    have kept := (first.mem_seats wanted).mpr member
    exact (second.items row kept wanted).trans (first.items row member wanted)

/-- The order itself is still there. -/
theorem Db.Untouched.mem_orders (untouched : db.Untouched after order)
    (member : order ∈ db.orders) :
    order ∈ after.orders := by
  have listed : order ∈ after.orders.filter (·.id == order.id) := by
    rw [untouched.rows.orders]
    exact List.mem_filter.mpr ⟨member, beq_self_eq_true _⟩
  exact (List.mem_filter.mp listed).1

end Untouched

/-- The next transaction of `place` opens the order; `place` has seats to buy. -/
structure World.Opens (world : World) (index : Nat) (request : PlaceRequest)
    (order : Order) (started : World) : Prop where
  nonempty : request.seatIds ≠ []
  placing : world.calls[index]? = some (.placing request .opening)
  opens :
    openPending request world.clock world.db = .ok (some order, started.db)
  taken : world.step (.advance index) = some started

/-- A truthful step that no other operation makes on the order or its seats. -/
def World.undisturbed (order : Order) (world : World) (action : Action) : Prop :=
  world.truthful action = true ∧
    ∀ next, world.step action = some next → world.db.Untouched next.db order

/-- The gateway has approved the order, and the answer said nothing. -/
def World.LostApproval (world : World) (order : Order) (pgTid : String) : Prop :=
  world.approves order.id pgTid = true ∧
    ∃ attempt, attempt.result = .unknown ∧
      .approveAnswered order.id attempt ∈ world.log

/-- The order is eligible, for one tick at most. -/
def World.FirstTick (world : World) (order : Order) : Prop :=
  order.createdAt + seconds Policy.paymentPendingLimitSec < world.clock ∧
    world.clock ≤
      order.createdAt +
        seconds (Policy.paymentPendingLimitSec + reconcileTickSec)

/-- The reconciler finds the order now, and confirms it on holds that are live. -/
structure World.Rescues (world : World) (order : Order) (pgTid : String) :
    Prop where
  selected :
    ∀ batch, world.db.orders.length ≤ batch →
      order.id ∈
        unresolvedOrders Policy.paymentPendingLimitSec batch world.clock world.db
  live :
    ∀ row ∈ world.db.scheduleSeats, order.wants row.stock = true →
      heldLive order.userId world.clock row = true
  confirms :
    ∃ after,
      confirmPaid order.id pgTid world.clock world.db = .ok (true, after) ∧
        statusOf order.id after = some .paid

/--
The holds of the seats outlast the age limit and one tick, and no seat was sold
before.
-/
def OrderService.PlaceRequest.Outlasts
    (request : PlaceRequest) (now : Time) (db : Db) : Prop :=
  ∀ row ∈ db.scheduleSeats,
    row.scheduleId = request.scheduleId → row.seatId ∈ request.seatIds →
      (∃ expiresAt, row.holdExpiresAt = some expiresAt ∧
        now + seconds (Policy.paymentPendingLimitSec + reconcileTickSec) <
          expiresAt) ∧
        ∀ item ∈ db.orderItems, item.scheduleSeatId ≠ row.id

/-! ## Confirming after the limit -/

/-- A scan that is large enough selects every old pending order. -/
theorem mem_unresolvedOrders {db : Db} {order : Order} {olderThanSec : Int}
    {batch : Nat} {now : Time}
    (member : order ∈ db.orders) (pending : order.status = .pending)
    (old : order.createdAt < now - seconds olderThanSec)
    (large : db.orders.length ≤ batch) :
    order.id ∈ unresolvedOrders olderThanSec batch now db := by
  refine List.mem_map_of_mem ?_
  rw [List.take_of_length_le]
  · refine (List.mem_insertionSort _).mpr (List.mem_filter.mpr ⟨member, ?_⟩)
    simp [pending, old]
  · rw [List.length_insertionSort]
    exact (List.length_filter_le _ _).trans large

namespace Opened

variable {request : PlaceRequest} {now clock : Time} {db after later : Db}
variable {order : Order} {pgTid : String}

theorem wants_iff (opened : Opened request now db order after)
    {row : ScheduleSeat} :
    order.wants row.stock = true ↔
      row.scheduleId = request.scheduleId ∧ row.seatId ∈ request.seatIds := by
  simp [Order.wants, ScheduleSeat.stock, opened.order_eq, mem_wanted]

/-- A hold that outlasts the limit and a tick is live until then. -/
theorem live (opened : Opened request now db order after) (sound : db.Sound)
    (outlasts : request.Outlasts now db)
    (soon :
      clock ≤
        now + seconds (Policy.paymentPendingLimitSec + reconcileTickSec))
    {row : ScheduleSeat} (member : row ∈ db.scheduleSeats)
    (wanted : order.wants row.stock = true) :
    heldLive order.userId clock row = true := by
  obtain ⟨schedule, seat⟩ := opened.wants_iff.mp wanted
  have payable := opened.payable sound
  obtain ⟨held, heldMember, heldSchedule, heldSeat, status, owner, -⟩ :=
    payable.held row.seatId ((payable.wanted row.seatId).mpr seat)
  obtain rfl : held = row :=
    sound.row_eq heldMember member (heldSchedule.trans schedule.symm) heldSeat
  obtain ⟨expiresAt, expires, lasts⟩ := (outlasts held member schedule seat).1
  rw [← payable.owner] at owner
  have lastsOn : clock < expiresAt := lt_of_le_of_lt soon lasts
  simp [heldLive, status, owner, expires, lastsOn]

/-- The claims of a reconciler are then all the seats of the order. -/
theorem claimed (opened : Opened request now db order after)
    (untouched : after.Untouched later order)
    (live :
      ∀ row ∈ db.scheduleSeats, order.wants row.stock = true →
        heldLive order.userId clock row = true) :
    (later.scheduleSeats.filter
        (isClaim order.scheduleId order.userId order.seatIds clock)) =
      db.scheduleSeats.filter fun row => order.wants row.stock := by
  rw [← opened.scheduleSeats, ← untouched.seats]
  apply List.filter_congr
  intro row member
  have split :
      isClaim order.scheduleId order.userId order.seatIds clock row =
        (order.wants row.stock && heldLive order.userId clock row) := rfl
  rw [split]
  cases wanted : order.wants row.stock with
  | false => rfl
  | true =>
      have old := (untouched.mem_seats wanted).mp member
      rw [opened.scheduleSeats] at old
      rw [live row old wanted]
      rfl

/-- The only payment of the order is still the request. -/
theorem request_kept (opened : Opened request now db order after)
    (sound : db.Sound)
    (referenced : ∀ payment ∈ db.payments, db.HasOrder payment.orderId)
    (untouched : after.Untouched later order) :
    ∃ payment : Payment, payment.orderId = order.id ∧
      payment.status = .requested ∧ payment.pgTid = none ∧
        (later.payments.filter (·.orderId == order.id)) = [payment] := by
  rw [untouched.rows.payments]
  exact opened.request_only sound referenced

/-- The order can be confirmed as long as its holds are live. -/
theorem confirms (opened : Opened request now db order after) (sound : db.Sound)
    (referenced : ∀ payment ∈ db.payments, db.HasOrder payment.orderId)
    (laterSound : later.Sound) (numbered : later.stored.Nodup)
    (untouched : after.Untouched later order)
    (nonempty : request.seatIds ≠ [])
    (live :
      ∀ row ∈ db.scheduleSeats, order.wants row.stock = true →
        heldLive order.userId clock row = true)
    (unsold :
      ∀ row ∈ db.scheduleSeats, order.wants row.stock = true →
        ∀ item ∈ db.orderItems, item.scheduleSeatId ≠ row.id)
    (fresh : pgTid ∉ later.stored) :
    ∃ final, confirmPaid order.id pgTid clock later = .ok (true, final) := by
  have payable := opened.payable sound
  have claimed := opened.claimed untouched live
  obtain ⟨payment, own, requested, -, only⟩ :=
    opened.request_kept sound referenced untouched
  apply confirmPaid_of_held laterSound (untouched.mem_orders opened.mem_orders)
  · exact payable.pending
  · intro empty
    obtain ⟨seatId, member⟩ := List.exists_mem_of_ne_nil _ nonempty
    have listed := (payable.wanted seatId).mpr member
    rw [empty] at listed
    cases listed
  · rw [Order.claims, claimedItems, List.length_map, List.length_insertionSort,
      claimed, ← payable.rows.length_eq, List.length_map]
  · intro item claim
    obtain ⟨row, member, claims, rfl⟩ := Confirmed.mem_claims.mp claim
    have listed :
        row ∈ db.scheduleSeats.filter fun row => order.wants row.stock := by
      rw [← claimed]
      exact List.mem_filter.mpr ⟨member, claims⟩
    obtain ⟨old, wanted⟩ := List.mem_filter.mp listed
    have same := untouched.items row (by rwa [opened.scheduleSeats]) wanted
    have none : (db.orderItems.filter (·.scheduleSeatId == row.id)) = [] := by
      rw [List.filter_eq_nil_iff]
      intro item itemMember
      simpa using unsold row old wanted item itemMember
    rw [opened.orderItems, none, List.filter_eq_nil_iff] at same
    rw [List.any_eq_false]
    exact same
  · exact filter_isRequested requested only
  · exact numbered
  · exact fresh

end Opened

/-! ## Every run -/

namespace World

variable {world next started : World} {action : Action} {index : Nat}
variable {request : PlaceRequest} {order : Order}

/-- The call that has opened the order waits for the approval. -/
theorem Opens.waits (opens : world.Opens index request order started) :
    started.clock = world.clock ∧ started.approvals = world.approvals ∧
      started.calls[index]? =
        some (.placing request (.approving order.id order.totalAmount)) := by
  obtain ⟨inside, -⟩ := List.getElem?_eq_some_iff.mp opens.placing
  obtain ⟨call, found, callTaken⟩ := Option.bind_eq_some_iff.mp opens.taken
  cases opens.placing.symm.trans found
  simp only [advance, advancePlace, opens.opens] at callTaken
  rw [← Option.some.inj callTaken]
  exact ⟨rfl, rfl, List.getElem?_set_self inside⟩

section Approving

variable {orderId : Nat} {amount : Int} {number : String}

/-- The gateway may execute the approval of an order it knows nothing of. -/
theorem approval_executes
    (found :
      world.calls[index]? = some (.placing request (.approving orderId amount)))
    (fresh : number ∉ world.issued)
    (first : ∀ approval ∈ world.approvals, approval.orderId ≠ orderId) :
    ∃ next, world.step (.execute index number) = some next ∧
      next.db = world.db ∧ next.clock = world.clock ∧
        next.calls = world.calls ∧ next.approves orderId number = true := by
  have unexecuted : ¬ (world.approvals.any (·.orderId == orderId)) = true := by
    simpa using first
  let executed : World :=
    { world with
      approvals := world.approvals ++ [{ orderId, pgTid := number, amount }] }
  have executes : world.step (.execute index number) = some executed := by
    refine Option.bind_eq_some_iff.mpr ⟨_, found, ?_⟩
    rw [executeRequest, if_neg fresh]
    simp only [Call.approval?]
    rw [if_neg unexecuted]
  have approved : executed.approves orderId number = true := by
    simp [executed, Books.approves]
  exact ⟨executed, executes, rfl, rfl, rfl, approved⟩

/-- The answer to it may get lost. -/
theorem answer_lost
    (found :
      world.calls[index]? = some (.placing request (.approving orderId amount))) :
    world.truthful (.answer index { result := .unknown }) = true ∧
      ∃ next, world.step (.answer index { result := .unknown }) = some next ∧
        next.db = world.db ∧ next.clock = world.clock ∧
          next.approvals = world.approvals ∧
            .approveAnswered orderId { result := .unknown } ∈ next.log := by
  have waiting :
      world.taskOf (.answer index { result := .unknown }) =
        some (.approving orderId amount) :=
    taskOf_call rfl found
  constructor
  · rw [truthful, waiting]
    rfl
  · refine
      ⟨_, Option.bind_eq_some_iff.mpr
        ⟨_, found, Option.bind_eq_some_iff.mpr ⟨_, rfl, rfl⟩⟩, rfl, rfl, rfl, ?_⟩
    exact List.mem_append_right _ List.mem_cons_self

end Approving

/-- A truthful step that writes nothing leaves every order undisturbed. -/
theorem undisturbed_of_db (truthful : world.truthful action = true)
    (taken : world.step action = some next) (same : next.db = world.db) :
    world.undisturbed order action := by
  refine ⟨truthful, fun other otherTaken => ?_⟩
  cases taken.symm.trans otherTaken
  rw [same]
  exact .refl

/-- The rows that count for the order are as the order was opened on them. -/
theorem untouched_of_run {later : World}
    (run : TransitionSystem.RunWhere World.step (World.undisturbed order)
      started later) :
    started.db.Untouched later.db order := by
  induction run with
  | refl => exact .refl
  | tail _ permitted taken induction =>
      exact induction.trans (permitted.2 _ taken)

/-- What a truthful run keeps. -/
theorem sourced_of_run
    {inventory : Inventory} {startsAt : Nat → Policy.Datetime} {clock : Time}
    (run :
      TransitionSystem.RunWhere World.step
        (fun world action => world.truthful action = true)
        (World.initial inventory startsAt clock) world) :
    world.Carries ∧ world.Sourced := by
  apply run.invariant
  · refine ⟨.initial inventory startsAt clock, ?_⟩
    rintro orderId number ⟨payment, member, -⟩
    cases member
  · rintro state action after ⟨carries, sourced⟩ truthful taken
    obtain ⟨task, exchange, turn⟩ := step_turn taken
    exact
      ⟨carries.step truthful taken,
        carries.sourced_after sourced truthful exchange.mem_before turn⟩

/-- The gateway knows nothing of an order before the order is opened. -/
theorem Honest.unapproved (honest : world.Honest)
    {after : Db} (opened : Opened request world.clock world.db order after) :
    ∀ approval ∈ world.approvals, approval.orderId ≠ order.id := by
  intro approval member equal
  obtain ⟨old, oldMember, oldId, -⟩ := honest.balanced.priced approval member
  have older := opened.older honest.consistent.sound.orderIdBound oldMember
  exact older.ne (oldId.trans equal)

/--
The approval is executed at once, its answer is lost, and nothing happens until
one tick after the age limit.
-/
theorem Opens.lost_run (opens : world.Opens index request order started)
    (honest : world.Honest) :
    ∃ later pgTid,
      TransitionSystem.RunWhere World.step (World.undisturbed order) started
          later ∧
        later.LostApproval order pgTid ∧ later.FirstTick order ∧
        later.db = started.db ∧
        later.clock =
          world.clock +
            seconds (Policy.paymentPendingLimitSec + reconcileTickSec) := by
  have opened := openPending_some opens.opens
  obtain ⟨clock, approvals, waits⟩ := opens.waits
  have first : ∀ approval ∈ started.approvals, approval.orderId ≠ order.id := by
    rw [approvals]
    exact honest.unapproved opened
  obtain ⟨number, fresh⟩ :=
    Infinite.exists_notMem_finset started.issued.toFinset
  rw [List.mem_toFinset] at fresh
  obtain ⟨executed, executes, executedDb, executedClock, calls, approved⟩ :=
    approval_executes waits fresh first
  rw [← calls] at waits
  obtain ⟨truthful, unheard, answers, unheardDb, unheardClock, kept, logged⟩ :=
    answer_lost waits
  let span := seconds (Policy.paymentPendingLimitSec + reconcileTickSec)
  let later : World := { unheard with clock := unheard.clock + span }
  have ticks : unheard.step (.tick span.toNat) = some later := rfl
  have laterClock : later.clock = world.clock + span := by
    rw [← clock, ← executedClock, ← unheardClock]
  refine ⟨later, number, ?_, ⟨?_, ?_⟩, ⟨?_, ?_⟩, ?_, laterClock⟩
  · exact
      ((TransitionSystem.RunWhere.refl.tail
        (undisturbed_of_db rfl executes executedDb) executes).tail
          (undisturbed_of_db truthful answers unheardDb) answers).tail
            (undisturbed_of_db rfl ticks rfl) ticks
  · show Books.approves later.toBooks order.id number = true
    rw [Books.approves, kept]
    exact approved
  · exact ⟨{ result := .unknown }, rfl, logged⟩
  · rw [laterClock, opened.order_eq]
    exact Int.add_lt_add_left (by decide) world.clock
  · rw [laterClock, opened.order_eq]
  · exact unheardDb.trans executedDb

theorem recorded_of_run
    {inventory : Inventory} {startsAt : Nat → Policy.Datetime} {clock : Time}
    (run :
      TransitionSystem.RunWhere World.step
        (fun world action => world.truthful action = true)
        (World.initial inventory startsAt clock) world) :
    world.Recorded :=
  run.invariant (.initial inventory startsAt clock)
    fun _ _ _ recorded _ taken => recorded.step taken

/-- The holds outlast the tick, so the reconciler confirms the order. -/
theorem Opens.rescues (opens : world.Opens index request order started)
    {inventory : Inventory} {startsAt : Nat → Policy.Datetime} {clock : Time}
    (reachable :
      TransitionSystem.RunWhere World.step
        (fun world action => world.truthful action = true)
        (World.initial inventory startsAt clock) world)
    (outlasts : request.Outlasts world.clock world.db)
    {later : World} {pgTid : String}
    (run : TransitionSystem.RunWhere World.step (World.undisturbed order)
      started later)
    (lost : later.LostApproval order pgTid) (tick : later.FirstTick order) :
    later.Rescues order pgTid := by
  have opened := openPending_some opens.opens
  have truthful :=
    (reachable.tail rfl opens.taken).trans (run.mono fun _ _ => And.left)
  obtain ⟨carries, sourced⟩ := sourced_of_run truthful
  have recorded := recorded_of_run reachable
  have laterRecorded := recorded_of_run truthful
  have sound := recorded.consistent.sound
  have laterSound := laterRecorded.consistent.sound
  have untouched := untouched_of_run run
  have createdAt : order.createdAt = world.clock := by rw [opened.order_eq]
  obtain ⟨eligible, soon⟩ := tick
  have live :
      ∀ row ∈ world.db.scheduleSeats, order.wants row.stock = true →
        heldLive order.userId later.clock row = true := by
    rw [createdAt] at soon
    exact fun _ => opened.live sound outlasts soon
  have unsold :
      ∀ row ∈ world.db.scheduleSeats, order.wants row.stock = true →
        ∀ item ∈ world.db.orderItems, item.scheduleSeatId ≠ row.id := by
    intro row member wanted
    obtain ⟨schedule, seat⟩ := opened.wants_iff.mp wanted
    exact (outlasts row member schedule seat).2
  have fresh : pgTid ∉ later.db.stored := by
    apply carries.unstored sourced lost.1
    rintro ⟨payment, member, own, found⟩
    obtain ⟨request, -, -, unnumbered, only⟩ :=
      opened.request_kept sound recorded.referenced untouched
    have listed : payment ∈ later.db.payments.filter (·.orderId == order.id) :=
      List.mem_filter.mpr ⟨member, by simp [own]⟩
    rw [only, List.mem_singleton] at listed
    rw [listed, unnumbered] at found
    cases found
  obtain ⟨final, confirms⟩ :=
    opened.confirms sound recorded.referenced laterSound laterRecorded.unique
      untouched opens.nonempty live unsold fresh
  have member := untouched.mem_orders opened.mem_orders
  have pending := opened.pending
  constructor
  case selected =>
    intro batch large
    exact
      mem_unresolvedOrders member pending
        (Int.lt_sub_right_of_add_lt eligible) large
  case live =>
    intro row rowMember wanted
    have old := (untouched.mem_seats wanted).mp rowMember
    rw [opened.scheduleSeats] at old
    exact live row old wanted
  case confirms =>
    obtain ⟨bought, equal, confirmed⟩ := confirmPaid_true confirms
    obtain rfl : bought = order :=
      laterSound.order_eq confirmed.member member equal
    exact
      ⟨final, confirms,
        statusOf_eq (confirmed.sound_after laterSound)
          ((confirmed.mem_orders laterSound).mpr (Or.inl rfl))⟩

/--
An approved order whose answer is lost is confirmed by the first tick after the
age limit, whatever else happens until then, if and only if its holds outlast
the limit and the tick, and none of its seats was sold before.
-/
theorem lostResponse_confirmed_iff
    {inventory : Inventory} {startsAt : Nat → Policy.Datetime} {clock : Time}
    (reachable :
      TransitionSystem.RunWhere World.step
        (fun world action => world.truthful action = true)
        (World.initial inventory startsAt clock) world)
    (opens : world.Opens index request order started) :
    (∀ later pgTid,
      TransitionSystem.RunWhere World.step (World.undisturbed order) started
          later →
        later.LostApproval order pgTid → later.FirstTick order →
          later.Rescues order pgTid) ↔
      request.Outlasts world.clock world.db := by
  constructor
  · intro rescued
    obtain ⟨carries, -⟩ := sourced_of_run reachable
    have opened := openPending_some opens.opens
    obtain ⟨later, pgTid, run, lost, tick, sameDb, laterClock⟩ :=
      opens.lost_run carries.honest
    obtain ⟨-, live, after, confirms, -⟩ := rescued later pgTid run lost tick
    rw [sameDb] at live confirms
    rw [laterClock] at live confirms
    intro row member schedule seat
    have wanted := opened.wants_iff.mpr ⟨schedule, seat⟩
    have inStock : row ∈ started.db.scheduleSeats := by rwa [opened.scheduleSeats]
    have held := live row inStock wanted
    constructor
    · simp only [heldLive, Bool.and_eq_true, Option.any_eq_true,
        decide_eq_true_eq] at held
      exact held.2
    · -- The confirmation inserts an item for the seat, so there was none.
      obtain ⟨bought, equal, confirmed⟩ := confirmPaid_true confirms
      have sound := carries.honest.consistent.sound.opened opened
      obtain rfl : bought = order :=
        sound.order_eq confirmed.member opened.mem_orders equal
      have claim : bought.item row.stock ∈ bought.claims _ started.db :=
        Confirmed.mem_claims.mpr
          ⟨row, inStock, Bool.and_eq_true_iff.mpr ⟨wanted, held⟩, rfl⟩
      have apart :=
        (unsold_iff sound.rowUnique sound.itemUnique).mp confirmed.unsold _ claim
      rw [opened.orderItems, List.any_eq_false] at apart
      intro item itemMember refers
      exact apart item itemMember (by simp [refers, Order.item, ScheduleSeat.stock])
  · intro outlasts later pgTid run lost tick
    exact opens.rescues reachable outlasts run lost tick

/-! ### An old hold and a new one -/

/-- A user buys the seat some time after taking it. -/
def buyingAfter (age : Nat) : List Action :=
  [.startAcquire { scheduleId := 1, userId := 7, seatIds := [1] },
   .gate 0 .answered,
   .advance 0,
   .tick age,
   placeOneSeat 7 "key"]

/--
The first call is about to open an order of the only seat, and the rest of its
hold meets a condition.
-/
def opensOn (rest : Time → Bool) (world : World) : Bool :=
  match (world.calls[0]? : Option Call) with
  | some (.placing request .opening) =>
      request.seatIds == [1] &&
        request.minHoldRemainingSec == Policy.minHoldRemainingForPaymentSec &&
          ((openPending request world.clock world.db).toOption.bind
            (·.1)).isSome &&
            world.db.orderItems.isEmpty &&
              world.db.scheduleSeats.any fun row =>
                row.scheduleId == request.scheduleId && row.seatId == 1 &&
                  row.holdExpiresAt.any fun expiresAt =>
                    rest (expiresAt - world.clock)
  | _ => false

/-- Such a call opens an order in its next step. -/
theorem opens_of_opensOn {rest : Time → Bool}
    (seen : world.opensOn rest = true) :
    ∃ request order started, world.Opens 0 request order started ∧
      request.minHoldRemainingSec = Policy.minHoldRemainingForPaymentSec ∧
        request.seatIds = [1] ∧ world.db.orderItems = [] ∧
          ∃ row ∈ world.db.scheduleSeats,
            row.scheduleId = request.scheduleId ∧ row.seatId = 1 ∧
              ∃ expiresAt, row.holdExpiresAt = some expiresAt ∧
                rest (expiresAt - world.clock) = true := by
  rw [opensOn] at seen
  split at seen
  · rename_i request placing
    simp only [Bool.and_eq_true, beq_iff_eq, List.isEmpty_iff, List.any_eq_true,
      Option.any_eq_true] at seen
    obtain ⟨⟨⟨⟨seats, margin⟩, opened⟩, unsold⟩, row, member, ⟨schedule, seat⟩,
      lasts⟩ := seen
    obtain ⟨order, returned⟩ := Option.isSome_iff_exists.mp opened
    cases result : openPending request world.clock world.db with
    | error raised =>
        rw [result] at returned
        cases returned
    | ok both =>
        obtain ⟨first, after⟩ := both
        rw [result] at returned
        obtain rfl : first = some order := returned
        let progress : Progress :=
          { db := after
            next :=
              some (.placing request (.approving order.id order.totalAmount))
            events := [.approveRequested order.id order.totalAmount] }
        have advances :
            advance world.clock world.db (.placing request .opening) =
              some progress := by
          simp only [advance, advancePlace, result, progress]
        have opens : world.Opens 0 request order (world.progress 0 progress) :=
          { nonempty := by simp [seats]
            placing
            opens := result
            taken :=
              Option.bind_eq_some_iff.mpr
                ⟨_, placing, Option.bind_eq_some_iff.mpr ⟨_, advances, rfl⟩⟩ }
        exact
          ⟨request, order, _, opens, margin, seats, unsold, row, member,
            schedule, seat, lasts⟩
  · cases seen

/-- An order on a hold that was just taken is rescued. -/
theorem lostResponse_confirmed_iff_early :
    ∃ (world started : World) (request : PlaceRequest) (order : Order),
      world.Opens 0 request order started ∧
        ∀ later pgTid,
          TransitionSystem.RunWhere World.step (World.undisturbed order) started
              later →
            later.LostApproval order pgTid → later.FirstTick order →
              later.Rescues order pgTid := by
  obtain ⟨world, run, seen⟩ :=
    TransitionSystem.RunWhere.exists_of_checkedRun World.step
      (fun world action => world.truthful action = true) World.oneSeat
      (buyingAfter 0) (opensOn fun rest => decide (seconds 330 < rest)) (by decide)
  obtain ⟨request, order, started, opens, -, seats, unsold, row, member,
    schedule, seat, expiresAt, expires, lasts⟩ := opens_of_opensOn seen
  refine
    ⟨world, started, request, order, opens,
      (lostResponse_confirmed_iff run opens).mpr ?_⟩
  intro other otherMember otherSchedule otherSeat
  rw [seats, List.mem_singleton] at otherSeat
  have sound := (recorded_of_run run).consistent.sound
  obtain rfl : other = row :=
    sound.row_eq otherMember member (otherSchedule.trans schedule.symm)
      (otherSeat.trans seat.symm)
  refine ⟨⟨expiresAt, expires, ?_⟩, by simp [unsold]⟩
  exact Int.add_lt_of_lt_sub_left (of_decide_eq_true lasts)

/-- An order on an older hold is opened all the same, and it is not rescued. -/
theorem lostResponse_confirmed_fails :
    ¬ ∀ (world started later : World) (index : Nat) (request : PlaceRequest)
        (order : Order) (pgTid : String),
      TransitionSystem.RunWhere World.step
          (fun world action => world.truthful action = true) World.oneSeat world →
        request.minHoldRemainingSec = Policy.minHoldRemainingForPaymentSec →
          world.Opens index request order started →
            TransitionSystem.RunWhere World.step (World.undisturbed order)
                started later →
              later.LostApproval order pgTid → later.FirstTick order →
                later.Rescues order pgTid := by
  intro claim
  obtain ⟨world, run, seen⟩ :=
    TransitionSystem.RunWhere.exists_of_checkedRun World.step
      (fun world action => world.truthful action = true) World.oneSeat
      (buyingAfter 300000) (opensOn fun rest => decide (rest ≤ seconds 330))
      (by decide)
  obtain ⟨request, order, started, opens, margin, seats, -, row, member,
    schedule, seat, expiresAt, expires, ends⟩ := opens_of_opensOn seen
  have opened := openPending_some opens.opens
  obtain ⟨later, pgTid, waiting, lost, tick, sameDb, laterClock⟩ :=
    opens.lost_run (sourced_of_run run).1.honest
  obtain ⟨-, live, -⟩ :=
    claim world started later 0 request order pgTid run margin opens waiting lost
      tick
  have wanted : order.wants row.stock = true :=
    opened.wants_iff.mpr ⟨schedule, by simp [seats, seat]⟩
  have held := live row (by rwa [sameDb, opened.scheduleSeats]) wanted
  simp only [heldLive, Bool.and_eq_true, Option.any_eq_true, decide_eq_true_eq]
    at held
  obtain ⟨-, other, otherExpires, lasts⟩ := held
  cases expires.symm.trans otherExpires
  rw [laterClock] at lasts
  exact
    absurd (Int.lt_sub_left_of_add_lt lasts) (not_lt.mpr (of_decide_eq_true ends))

end World

end Curtain
