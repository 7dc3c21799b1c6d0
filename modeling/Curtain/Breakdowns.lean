import Curtain.Refunds
import Curtain.Resale
import Curtain.Silence

/-!
# What the calls raise

The services assert what they take for impossible: a hold of a part of the
seats, an approval without a number.  The unique columns raise on their own
account, in the middle of a transaction.  With a truthful gateway none of this
happens.  Every call ends with its result or with an exception of its own kind,
and the reconciler, which has no exception of its own, always ends with its
result.
-/

namespace Curtain

open Queries Table HoldService OrderService TransitionSystem

/-! ## Exceptions of a kind -/

/-- What `acquire` raises for a request that it refuses. -/
def Raised.refusesHold : Raised → Bool
  | .valueError _ => true
  | .holdRejected _ => true
  | .quotaExceeded _ => true
  | _ => false

/-- `OrderRejected` and its subclasses. -/
def Raised.rejectsOrder : Raised → Bool
  | .orderRejected _ _ _ => true
  | _ => false

def Raised.closesCancel : Raised → Bool
  | .cancelClosed _ => true
  | _ => false

/--
A call that ends, ends with its result or with an exception of its kind.  Only
the prices of an order may add up to more than the column takes.
-/
def Event.declared : Event → Bool
  | .acquireEnded _ (.error error) => error.refusesHold
  | .placeEnded _ (.error error) =>
      error.rejectsOrder || error == .dataError "integer out of range"
  | .reconcileEnded (.error _) => false
  | .webhookEnded _ _ (.error error) => error.isHoldExpired
  | .cancelEnded _ (.error error) => error.rejectsOrder || error.closesCancel
  | _ => true

/-! ## What the transactions raise -/

theorem bind_eq_error {Failure First Second : Type}
    {first : Except Failure First} {next : First → Except Failure Second}
    {failure : Failure} :
    (first >>= next) = .error failure ↔
      first = .error failure ∨
        ∃ value, first = .ok value ∧ next value = .error failure := by
  cases first <;> simp [bind, Except.bind]

section Transactions

variable {db : Db} {now : Time} {orderId : Nat} {error : Raised}

theorem loadOrder_error (failed : loadOrder orderId db = .error error) :
    ¬ db.HasOrder orderId ∧ error.rejectsOrder = true := by
  rw [loadOrder] at failed
  split at failed
  · cases failed
  · rename_i missing
    cases failed
    refine ⟨?_, rfl⟩
    rintro ⟨order, member, known⟩
    exact lookup_eq_none.mp missing order member known

theorem checkAcquire_refuses {request : AcquireRequest}
    (failed : checkAcquire request = .error error) :
    error.refusesHold = true := by
  rw [checkAcquire] at failed
  split at failed
  · cases failed
    rfl
  split at failed
  · cases failed
    rfl
  split at failed <;> cases failed
  rfl

/-- A hold never takes a part of the seats. -/
theorem acquireSeats_refuses (unique : Unique ScheduleSeat.id db.scheduleSeats)
    {request : AcquireRequest}
    (failed : acquireSeats request now db = .error error) :
    error.refusesHold = true := by
  rw [acquireSeats, holdSeats_eq unique] at failed
  dsimp only at failed
  split at failed
  · split at failed <;> cases failed <;> rfl
  · rename_i rows first rest found
    split at failed
    · rename_i incomplete
      refine absurd ?_ incomplete
      cases passed :
          guard (target request.scheduleId request.seatIds now db).length
            (owned request.scheduleId request.userId now db)
            request.seatIds.length request.maxSeats with
      | false => simp [passed, updatedRows] at found
      | true =>
          -- The guard has counted the rows that are held now.
          simp only [Queries.guard, Bool.and_eq_true, beq_iff_eq] at passed
          rw [← passed.1]
          simp [updatedRows, target]
    · cases failed

theorem openOrder_error {scheduleId userId : Nat} {seatIds : List Nat}
    {key : String} {margin : Int}
    (failed :
      openOrder scheduleId userId seatIds key margin now db = .error error) :
    error = .dataError "integer out of range" := by
  rw [openOrder] at failed
  dsimp only at failed
  split at failed
  · cases failed
  split at failed
  · cases failed
    rfl
  split at failed <;> cases failed

theorem openOrder_stored {scheduleId userId : Nat} {seatIds : List Nat}
    {key : String} {margin : Int} {opened : Option Order} {after : Db}
    (ok :
      openOrder scheduleId userId seatIds key margin now db =
        .ok (opened, after)) :
    after.stored = db.stored := by
  rw [openOrder] at ok
  dsimp only at ok
  split at ok
  · cases ok
    rfl
  split at ok
  · cases ok
  split at ok <;> cases ok <;> rfl

/-- Only the sum of the prices may be more than the column takes. -/
theorem openPending_error {request : PlaceRequest} (numbered : db.stored.Nodup)
    (failed : openPending request now db = .error error) :
    error = .dataError "integer out of range" := by
  rcases bind_eq_error.mp failed with overflow | ⟨⟨opened, middle⟩, ok, rest⟩
  · exact openOrder_error overflow
  · cases opened with
    | none => cases rest
    | some order =>
        rcases bind_eq_error.mp rest with collision | ⟨after, -, final⟩
        · refine absurd ?_ (insertPayment_error collision)
          rwa [Option.toList_none, List.append_nil, openOrder_stored ok]
        · cases final

theorem claimOrExpire_error {order : Order}
    (failed : claimOrExpire order now db = .error error) :
    error.isHoldExpired = true := by
  rw [claimOrExpire] at failed
  split at failed <;> cases failed
  rfl

/-- The claim of the seats goes through when none of them is sold. -/
theorem claimOrExpire_ok {order : Order} {items : List OrderItem}
    {after : Db} (ok : claimOrExpire order now db = .ok (items, after)) :
    items = order.claims now db ∧
      Unique OrderItem.scheduleSeatId (db.orderItems ++ items) ∧
        after.payments = db.payments := by
  rw [claimOrExpire] at ok
  split at ok
  · rename_i inserted
    cases ok
    rw [claimOrderItems] at inserted
    split at inserted
    · rename_i unsold
      cases inserted
      exact ⟨rfl, unsold, rfl⟩
    · cases inserted
  · cases ok

/-- A confirmation raises `HoldExpired` unless only its record fails. -/
theorem confirmPaid_error {pgTid : String} (sound : db.Sound)
    (failed : confirmPaid orderId pgTid now db = .error error) :
    error.isHoldExpired = true ∨
      (¬ db.HasOrder orderId ∧ error.rejectsOrder = true) ∨
        ∃ order ∈ db.orders, order.id = orderId ∧ order.Grantable now db ∧
          ∃ (items : List OrderItem) (later : Db),
            later.payments = db.payments ∧
              recordApproval order items pgTid later = .error error := by
  rcases bind_eq_error.mp failed with missing | ⟨order, loaded, rest⟩
  · exact .inr (.inl (loadOrder_error missing))
  · obtain ⟨member, rfl⟩ := loadOrder_ok loaded
    dsimp only at rest
    split at rest
    · cases rest
    rename_i marked
    obtain ⟨row, rowMember, same, pending⟩ := markOrderPaid_ne_nil.mp marked
    rw [sound.order_eq rowMember member same] at pending
    split at rest
    · cases rest
      exact .inl rfl
    rename_i named
    rcases bind_eq_error.mp rest with
      expired | ⟨⟨items, claimed⟩, claims, booking⟩
    · exact .inl (claimOrExpire_error expired)
    obtain ⟨rfl, unsold, payments⟩ := claimOrExpire_ok claims
    dsimp only at booking
    split at booking
    · cases booking
      exact .inl rfl
    rename_i complete
    split at booking
    · cases booking
      exact .inl rfl
    rcases bind_eq_error.mp booking with collision | ⟨confirmed, -, final⟩
    · have grantable : order.Grantable now db :=
        ⟨pending, named, not_not.mp complete,
          (unsold_iff sound.rowUnique sound.itemUnique).mp unsold⟩
      exact
        .inr (.inr ⟨order, member, rfl, grantable, _,
          (bookOrderSeats order.id claimed).2, payments, collision⟩)
    · cases final

theorem closeUnpaid_error {status : OrderStatus}
    (failed : closeUnpaid orderId status db = .error error) :
    ¬ db.HasOrder orderId ∧ error.rejectsOrder = true := by
  rcases bind_eq_error.mp failed with missing | ⟨order, -, rest⟩
  · exact loadOrder_error missing
  · dsimp only at rest
    split at rest
    · cases rest
    split at rest <;> cases rest

theorem prepareCancel_error {moment : Policy.Datetime}
    (failed : prepareCancel orderId moment db = .error error) :
    (error.rejectsOrder || error.closesCancel) = true := by
  rcases bind_eq_error.mp failed with missing | ⟨order, -, rest⟩
  · rw [(loadOrder_error missing).2, Bool.true_or]
  · split at rest
    · cases rest
      rfl
    split at rest
    · cases rest
      rfl
    split at rest <;> cases rest
    rfl

/-- A refund that failed is recorded without a number. -/
theorem recordFailedCancel_ne_error {cancellation : Cancellation}
    (numbered : db.stored.Nodup) :
    recordFailedCancel cancellation db ≠ .error error := by
  intro failed
  refine insertPayment_error failed ?_
  rwa [Option.toList_none, List.append_nil]

theorem pollPlaced_error {replayed : Bool}
    (failed : pollPlaced orderId replayed db = .error error) :
    error.rejectsOrder = true := by
  rcases bind_eq_error.mp failed with missing | ⟨order, -, rest⟩
  · exact (loadOrder_error missing).2
  · split at rest
    · cases rest
    split at rest <;> cases rest
    rfl

/-- The scan of the reconciler lists orders of the table. -/
theorem hasOrder_of_unresolved {olderThanSec : Int} {batch : Nat}
    (listed : orderId ∈ unresolvedOrders olderThanSec batch now db) :
    db.HasOrder orderId := by
  obtain ⟨order, taken, known⟩ := List.mem_map.mp listed
  have sorted := List.mem_of_mem_take taken
  rw [List.mem_insertionSort] at sorted
  exact ⟨order, (List.mem_filter.mp sorted).1, known⟩

end Transactions

/-! ## Where the stored numbers come from -/

/-- A stored number is of an approved payment, or one of the given numbers. -/
def Db.Attributes (db : Db) (numbers : List String) : Prop :=
  ∀ payment ∈ db.payments, ∀ number, payment.pgTid = some number →
    payment.status = .approved ∨ number ∈ numbers

namespace Db.Attributes

variable {db after : Db} {numbers : List String}

theorem mono (attributes : db.Attributes numbers) {more : List String}
    (grows : numbers ⊆ more) :
    db.Attributes more := by
  intro payment member number stored
  exact (attributes payment member number stored).imp_right (grows ·)

theorem insertPayment (attributes : db.Attributes numbers)
    {orderId : Nat} {status : PayStatus} {amount : Int}
    {pgTid : Option String} {fees : Option FeeSnapshot}
    (given : ∀ number, pgTid = some number → number ∈ numbers)
    (ok : insertPayment orderId status amount pgTid fees db = .ok after) :
    after.Attributes numbers := by
  obtain ⟨-, rfl⟩ := insertPayment_ok.mp ok
  intro payment member number stored
  rcases List.mem_append.mp member with old | new
  · exact attributes payment old number stored
  · rw [List.mem_singleton.mp new] at stored
    exact .inr (given number stored)

/-- A request that is closed was not approved before. -/
theorem failPendingPayments (attributes : db.Attributes numbers)
    (orderId : Nat) :
    (failPendingPayments orderId db).Attributes numbers := by
  intro payment member number stored
  obtain ⟨old, oldMember, ⟨requested, rfl⟩ | ⟨-, rfl⟩⟩ :=
    mem_updateWhere.mp member
  · rcases attributes old oldMember number stored with approved | listed
    · simp [isRequested, approved] at requested
    · exact .inr listed
  · exact attributes payment oldMember number stored

theorem closeUnpaid (attributes : db.Attributes numbers)
    {orderId : Nat} {status : OrderStatus}
    (ok : closeUnpaid orderId status db = .ok after) :
    after.Attributes numbers := by
  rcases closeUnpaid_ok ok with rfl | ⟨order, -, -, -, rfl⟩
  · exact attributes
  · have failed := attributes.failPendingPayments orderId
    exact failed

theorem recordRefund (attributes : db.Attributes numbers)
    {order : Order} {total : Int} {attempt : PayAttempt}
    (given : ∀ number, attempt.pgTid = some number → number ∈ numbers)
    (ok : recordRefund order total attempt db = .ok after) :
    after.Attributes numbers := by
  obtain ⟨middle, inserted, rfl⟩ := recordRefund_ok ok
  have failed :=
    (attributes.insertPayment given inserted).failPendingPayments order.id
  split <;> exact failed

theorem closeCanceled (attributes : db.Attributes numbers)
    {cancellation : Cancellation} {attempt : PayAttempt}
    (given : ∀ number, attempt.pgTid = some number → number ∈ numbers)
    (ok : closeCanceled cancellation attempt db = .ok after) :
    after.Attributes numbers := by
  rcases closeCanceled_ok ok with ⟨rfl, -⟩ | ⟨-, refunded, inserted, rfl⟩
  · exact attributes
  · have marked :
        (markOrder cancellation.order.id .canceled .paid db).2.Attributes
          numbers :=
      attributes
    have recorded := marked.insertPayment given inserted
    exact recorded

theorem confirmed (attributes : db.Attributes numbers)
    {order : Order} {pgTid : String} {now : Time}
    (confirmed : Confirmed order pgTid now db after) :
    after.Attributes numbers := by
  intro payment member number stored
  rcases confirmed.promoted with ⟨-, equal⟩ | ⟨-, equal⟩
  · rw [equal] at member
    obtain ⟨old, oldMember, ⟨-, rfl⟩ | ⟨-, rfl⟩⟩ := mem_updateWhere.mp member
    · exact .inl rfl
    · exact attributes payment oldMember number stored
  · rw [equal] at member
    rcases List.mem_append.mp member with old | new
    · exact attributes payment old number stored
    · rw [List.mem_singleton.mp new]
      exact .inl rfl

theorem opened (attributes : db.Attributes numbers)
    {request : PlaceRequest} {now : Time} {order : Order}
    (opened : Opened request now db order after) :
    after.Attributes numbers := by
  intro payment member number stored
  rw [opened.after_eq] at member
  rcases List.mem_append.mp member with old | new
  · exact attributes payment old number stored
  · rw [List.mem_singleton.mp new] at stored
    cases stored

end Db.Attributes

/-! ## Calls that end by design -/

/-- The error that a refused `acquire` is about to raise is of its kind. -/
def Call.Refused : Call → Prop
  | .acquiring _ (.ungating error) => error.refusesHold = true
  | _ => True

/-- What holds of the calls and the log in a run with a truthful gateway. -/
structure World.Regular (world : World) : Prop where
  carries : world.Carries
  bookkept : world.Bookkept
  attributes : world.db.Attributes (world.refunds.map (·.refundTid))
  candidates :
    ∀ call ∈ world.calls, ∀ orders, call.candidates = some orders →
      ∀ orderId ∈ orders, world.db.HasOrder orderId
  refused : ∀ call ∈ world.calls, call.Refused
  declared : ∀ event ∈ world.log, event.declared = true

/-- The step of a call ends it by design, if it ends it. -/
structure Progress.Declared (progress : Progress) : Prop where
  events : ∀ event ∈ progress.events, event.declared = true
  refused : ∀ call ∈ progress.next, call.Refused

theorem Progress.Declared.ended {db : Db} {event : Event}
    (declared : event.declared = true) :
    Progress.Declared { db, next := none, events := [event] } where
  events := by simpa using declared
  refused := by simp

theorem Progress.Declared.goesOn {db : Db} {call : Call} {events : List Event}
    (declared : ∀ event ∈ events, event.declared = true)
    (refused : call.Refused) :
    Progress.Declared { db, next := some call, events } where
  events := declared
  refused := by
    rintro _ ⟨⟩
    exact refused

theorem nextCandidate_declared {db : Db} {events : List Event}
    {confirmed rest : List Nat}
    (declared : ∀ event ∈ events, event.declared = true) :
    (nextCandidate db events confirmed rest).Declared := by
  cases rest with
  | nil =>
      have reported : (Event.reconcileEnded (.ok confirmed)).declared = true :=
        rfl
      have logged :=
        List.forall_mem_append.mpr
          ⟨declared, List.forall_mem_singleton.mpr reported⟩
      exact ⟨logged, by simp [nextCandidate]⟩
  | cons orderId rest => exact .goesOn declared trivial

/-- The stages of a settlement ask for refunds and log nothing else. -/
theorem settle_declared {now : Time} {db after : Db} {stage : Settling}
    {events : List Event} {settled : Settled}
    (settles : settle now db stage = some (after, events, settled)) :
    ∀ event ∈ events, event.declared = true := by
  cases stage with
  | refunding => cases settles
  | confirming =>
      simp only [settle] at settles
      split at settles
      · cases settles
        simp
      · split at settles <;> cases settles <;> simp
  | closing | recording =>
      simp only [settle] at settles
      split at settles <;> cases settles <;> simp
  | compensating =>
      simp only [settle] at settles
      split at settles <;> cases settles <;> simp [Event.declared]

namespace World.Regular

variable {world next : World} {action : Action}

/-- The order of an approval is in the table. -/
theorem hasOrder_of_approves (regular : world.Regular)
    {orderId : Nat} {pgTid : String}
    (approved : world.approves orderId pgTid = true) :
    world.db.HasOrder orderId := by
  obtain ⟨approval, member, same⟩ := List.any_eq_true.mp approved
  simp only [Bool.and_eq_true, beq_iff_eq] at same
  obtain ⟨order, orderMember, known, -⟩ :=
    regular.carries.honest.balanced.priced approval member
  exact ⟨order, orderMember, known.trans same.1⟩

/-- The number of an approval is not stored while its order is pending. -/
theorem fresh_of_pending (regular : world.Regular)
    {order : Order} {pgTid : String} (member : order ∈ world.db.orders)
    (pending : order.status = .pending)
    (approved : world.approves order.id pgTid = true) :
    pgTid ∉ world.db.stored := by
  intro stored
  have honest := regular.carries.honest
  obtain ⟨payment, paymentMember, found⟩ := List.mem_filterMap.mp stored
  rcases regular.attributes payment paymentMember pgTid found with
    paid | refunded
  · obtain ⟨number, numbered, attested⟩ :=
      honest.attested payment paymentMember paid
    cases found.symm.trans numbered
    have own := honest.balanced.approves_eq attested approved
    have unconfirmed : order.confirmed = false := by
      have fillable := honest.consistent.sound.fillable order member
      rw [Order.confirmed, fillable.unanswered (.inl pending)]
      rfl
    -- An order without an answer has no approved payment.
    have none := (regular.bookkept.balanced order member).approved
    rw [unconfirmed, if_neg (by decide)] at none
    have listed :
        payment ∈ world.db.paymentsOf order.id .approved := by
      simp [Db.paymentsOf, paymentMember, own, paid]
    rw [List.map_eq_nil_iff.mp none] at listed
    cases listed
  · exact
      (List.nodup_append.mp honest.balanced.issued).2.2 pgTid
        (Books.approves_mem approved) pgTid refunded rfl

/-- The approval of a pending order can be recorded. -/
theorem recordable (regular : world.Regular) {orderId : Nat} {pgTid : String}
    (approved : world.approves orderId pgTid = true) :
    ∀ order ∈ world.db.orders, order.id = orderId → order.status = .pending →
      ∀ (items : List OrderItem) (later : Db),
        later.payments = world.db.payments →
          ∃ after, recordApproval order items pgTid later = .ok after := by
  rintro order member rfl pending items later same
  have stored : later.stored = world.db.stored := by
    rw [Db.stored, same, Db.stored]
  have numbered := regular.bookkept.recorded.unique
  have fresh := regular.fresh_of_pending member pending approved
  rw [← stored] at numbered fresh
  have few := regular.bookkept.balanced.requests_le member
  rw [← same] at few
  exact
    (recordApproval_iff few numbered).mpr fun listed =>
      fresh (later.storedBeside_subset order.id listed)

theorem confirmPaid_error (regular : world.Regular)
    {orderId : Nat} {pgTid : String} {error : Raised}
    (approved : world.approves orderId pgTid = true)
    (failed :
      confirmPaid orderId pgTid world.clock world.db = .error error) :
    error.isHoldExpired = true := by
  have sound := regular.carries.honest.consistent.sound
  rcases Curtain.confirmPaid_error sound failed with
    expired | ⟨missing, -⟩ | ⟨order, member, same, grantable, items, later,
      payments, collision⟩
  · exact expired
  · exact absurd (regular.hasOrder_of_approves approved) missing
  · obtain ⟨after, recorded⟩ :=
      regular.recordable approved order member same grantable.pending items
        later payments
    cases recorded.symm.trans collision

/-- A settlement raises only for want of its order. -/
theorem settle_raised (regular : world.Regular) {stage : Settling}
    {after : Db} {events : List Event} {error : Raised}
    (member : Task.settling stage ∈ world.tasks)
    (settles :
      settle world.clock world.db stage =
        some (after, events, .raised error)) :
    ¬ world.db.HasOrder stage.orderId ∧ error.rejectsOrder = true := by
  cases stage with
  | refunding => cases settles
  | confirming orderId pgTid amount =>
      have numbered := regular.carries.honest.numbered _ member
      simp only [settle] at settles
      split at settles
      · cases settles
      · rename_i failed
        have expired := regular.confirmPaid_error numbered.1 failed
        rw [if_pos expired] at settles
        cases settles
  | closing orderId status =>
      simp only [settle] at settles
      split at settles
      · cases settles
      · rename_i failed
        cases settles
        exact closeUnpaid_error failed
  | compensating orderId pgTid amount why =>
      simp only [settle] at settles
      split at settles
      · cases settles
      · rename_i failed
        cases settles
        exact loadOrder_error failed
  | recording order total why attempt =>
      simp only [settle] at settles
      split at settles
      · cases settles
      · rename_i failed
        exact absurd failed (regular.carries.recordRefund_ok member)

/-- A transaction of a call in progress ends it by design, if it ends it. -/
theorem advance_declared (regular : world.Regular)
    {call : Call} {progress : Progress} (member : call ∈ world.calls)
    (advances : advance world.clock world.db call = some progress) :
    progress.Declared := by
  have tasked {task : Task} (known : call.task? = some task) :
      task ∈ world.tasks :=
    List.mem_filterMap.mpr ⟨call, member, known⟩
  have numbered := regular.bookkept.recorded.unique
  cases call with
  | releasing => cases advances
  | acquiring request stage =>
      cases stage with
      | gating | ungating => cases advances
      | holding gated =>
          simp only [advance, advanceAcquire] at advances
          split at advances
          · cases advances
            exact .ended rfl
          · rename_i failed
            have refused :=
              acquireSeats_refuses
                regular.carries.honest.consistent.sound.rowUnique failed
            split at advances <;> cases advances
            · exact .goesOn (by simp) refused
            · exact .ended refused
  | placing request stage =>
      cases stage with
      | approving => cases advances
      | opening =>
          simp only [advance, advancePlace] at advances
          split at advances
          · rename_i failed
            cases advances
            cases openPending_error numbered failed
            exact .ended rfl
          · cases advances
            exact .goesOn (by simp [Event.declared]) trivial
          · cases advances
            exact .goesOn (by simp) trivial
      | lookingUp =>
          simp only [advance, advancePlace] at advances
          split at advances <;> cases advances
          · exact .goesOn (by simp) trivial
          · exact .ended rfl
      | settling stage =>
          simp only [advance, advancePlace, Option.map_eq_some_iff] at advances
          obtain ⟨⟨after, events, settled⟩, settles, rfl⟩ := advances
          have declared := settle_declared settles
          cases settled with
          | settling | confirmed => exact .goesOn declared trivial
          | closed | compensated => exact .ended rfl
          | raised error =>
              have rejected := (regular.settle_raised (tasked rfl) settles).2
              exact .ended (by rw [Event.declared, rejected, Bool.true_or])
      | polling =>
          simp only [advance, advancePlace] at advances
          split at advances
          · rename_i failed
            cases advances
            have rejected := pollPlaced_error failed
            exact .ended (by rw [Event.declared, rejected, Bool.true_or])
          · cases advances
            exact .ended rfl
          · split at advances <;> cases advances
            · exact .ended rfl
            · exact .goesOn (by simp) trivial
  | reconciling rest confirmed stage =>
      cases stage with
      | inquiring => cases advances
      | settling stage =>
          simp only [advance, advanceReconcile, Option.map_eq_some_iff]
            at advances
          obtain ⟨⟨after, events, settled⟩, settles, rfl⟩ := advances
          have declared := settle_declared settles
          cases settled with
          | settling => exact .goesOn declared trivial
          | confirmed | closed | compensated =>
              exact nextCandidate_declared declared
          | raised error =>
              have known :=
                regular.candidates _ member _ rfl _ List.mem_cons_self
              exact absurd known (regular.settle_raised (tasked rfl) settles).1
  | canceling cancellation stage =>
      cases stage with
      | refunding => cases advances
      | failing =>
          simp only [advance, advanceCancel] at advances
          split at advances
          · rename_i failed
            exact absurd failed (recordFailedCancel_ne_error numbered)
          · cases advances
            exact .ended rfl
      | closing =>
          simp only [advance, advanceCancel] at advances
          split at advances
          · rename_i failed
            exact absurd failed (regular.carries.closeCanceled_ok (tasked rfl))
          · cases advances
            exact .ended rfl

/-- A truthful answer to a question carries a number if it approves. -/
theorem number_of_answer {index : Nat} {attempt : PayAttempt} {call : Call}
    {task : Task} {orderId : Nat}
    (truthful : world.truthful (.answer index attempt) = true)
    (found : world.calls[index]? = some call)
    (asking : call.task? = some task) (asks : task.asks = some orderId)
    (approved : attempt.result = .approved) :
    attempt.pgTid ≠ none := by
  intro missing
  simp only [World.truthful, World.taskOf, found, Option.bind_some, asking,
    Option.all_some] at truthful
  cases task with
  | approving | inquiring =>
      simp [World.truthfulAnswer, approved, missing] at truthful
  | settling | canceling => cases asks

/-- An answer ends a call by design, if it ends it. -/
theorem receive_declared {index : Nat} {attempt : PayAttempt} {call : Call}
    {progress : Progress}
    (truthful : world.truthful (.answer index attempt) = true)
    (found : world.calls[index]? = some call)
    (receives : receive world.db attempt call = some progress) :
    progress.Declared := by
  cases call with
  | acquiring | releasing => cases receives
  | placing request stage =>
      cases stage with
      | opening | lookingUp | polling => cases receives
      | approving orderId amount =>
          simp only [receive] at receives
          split at receives
          · cases receives
            exact
              ⟨by simp [Event.declared, rejected, Raised.rejectsOrder],
                by simp⟩
          · cases receives
            exact .goesOn (by simp [Event.declared]) trivial
          · rename_i approved missing
            exact absurd missing (number_of_answer truthful found rfl rfl approved)
          · cases receives
            exact .goesOn (by simp [Event.declared]) trivial
      | settling stage =>
          cases stage with
          | refunding =>
              cases receives
              exact .goesOn (by simp [Event.declared]) trivial
          | confirming | closing | compensating | recording => cases receives
  | reconciling rest confirmed stage =>
      cases stage with
      | inquiring orderId =>
          simp only [receive] at receives
          split at receives
          · cases receives
            exact nextCandidate_declared (by simp [Event.declared])
          · rename_i approved missing
            exact absurd missing (number_of_answer truthful found rfl rfl approved)
          · cases receives
            exact .goesOn (by simp [Event.declared]) trivial
          · cases receives
            exact .goesOn (by simp [Event.declared]) trivial
      | settling stage =>
          cases stage with
          | refunding =>
              cases receives
              exact .goesOn (by simp [Event.declared]) trivial
          | confirming | closing | compensating | recording => cases receives
  | canceling cancellation stage =>
      cases stage with
      | refunding =>
          cases receives
          exact .goesOn (by simp [Event.declared]) trivial
      | failing | closing => cases receives

/-- A round trip to the gate ends a call by design, if it ends it. -/
theorem gateTrip_declared {now : Time}
    {gate : KeyStore.Store Gate.Key Gate.Token} {io : GateIo} {call : Call}
    {trip : GateProgress} (refused : call.Refused)
    (travels : gateTrip now gate io call = some trip) :
    (∀ event ∈ trip.events, event.declared = true) ∧
      ∀ next ∈ trip.next, next.Refused := by
  cases travels_of_gateTrip travels with
  | retried =>
      refine ⟨by simp, ?_⟩
      rintro _ ⟨⟩
      split <;> trivial
  | passed =>
      refine ⟨by simp, ?_⟩
      rintro _ ⟨⟩
      trivial
  | blocked | released =>
      exact ⟨by simp [Event.declared, Raised.refusesHold], by simp⟩
  | ungated =>
      refine ⟨fun event member => ?_, by simp⟩
      rw [List.mem_singleton.mp member]
      exact refused

/-- What a step adds to the log, and the calls that it leaves. -/
theorem step_declared (regular : world.Regular)
    (truthful : world.truthful action = true)
    (taken : world.step action = some next) :
    (∀ call ∈ next.calls, call.Refused) ∧
      ∀ event ∈ next.log, event.declared = true := by
  have refused := regular.refused
  have declared := regular.declared
  have noted {event : Event} (own : event.declared = true) :
      ∀ other ∈ world.log ++ [event], other.declared = true :=
    List.forall_mem_append.mpr ⟨declared, List.forall_mem_singleton.mpr own⟩
  have logged {events : List Event}
      (own : ∀ event ∈ events, event.declared = true) :
      ∀ event ∈ world.log ++ events, event.declared = true :=
    List.forall_mem_append.mpr ⟨declared, own⟩
  have added {call : Call} (own : call.Refused) :
      ∀ other ∈ world.calls ++ [call], other.Refused :=
    List.forall_mem_append.mpr ⟨refused, List.forall_mem_singleton.mpr own⟩
  have replaced {index : Nat} {after : Option Call}
      (own : ∀ call ∈ after, call.Refused) :
      ∀ call ∈ World.replaceCall world.calls index after, call.Refused := by
    intro call member
    exact (mem_replaceCall member).elim (refused call) (own call)
  cases action with
  | tick | flushall =>
      cases taken
      exact ⟨refused, declared⟩
  | sweep =>
      cases taken
      exact ⟨refused, noted rfl⟩
  | startAcquire request =>
      simp only [World.step] at taken
      split at taken
      · rename_i failed
        cases taken
        exact ⟨refused, noted (checkAcquire_refuses failed)⟩
      · cases taken
        exact ⟨added trivial, declared⟩
  | startRelease =>
      simp only [World.step] at taken
      split at taken
      · cases taken
        exact ⟨refused, noted rfl⟩
      · cases taken
        exact ⟨added trivial, declared⟩
  | startPlace =>
      simp only [World.step] at taken
      split at taken
      · cases taken
        exact ⟨refused, noted rfl⟩
      · cases taken
        exact ⟨added trivial, declared⟩
  | startReconcile olderThanSec batch =>
      cases taken
      have scanned :
          (nextCandidate world.db [] []
            (unresolvedOrders olderThanSec batch world.clock
              world.db)).Declared :=
        nextCandidate_declared (by simp)
      have begun :
          ∀ call ∈ (nextCandidate world.db [] []
            (unresolvedOrders olderThanSec batch world.clock
              world.db)).next.toList, call.Refused :=
        fun call new => scanned.refused call (Option.mem_toList.mp new)
      exact
        ⟨List.forall_mem_append.mpr ⟨refused, begun⟩, logged scanned.events⟩
  | startCancel =>
      simp only [World.step] at taken
      split at taken
      · rename_i failed
        cases taken
        exact ⟨refused, noted (prepareCancel_error failed)⟩
      · cases taken
        exact ⟨added trivial, noted rfl⟩
  | webhook orderId pgTid =>
      simp only [World.step] at taken
      split at taken
      · cases taken
        exact ⟨refused, noted rfl⟩
      · rename_i failed
        cases taken
        exact ⟨refused, noted (regular.confirmPaid_error truthful failed)⟩
  | advance index =>
      obtain ⟨call, found, callTaken⟩ := Option.bind_eq_some_iff.mp taken
      obtain ⟨progress, advances, final⟩ :=
        Option.bind_eq_some_iff.mp callTaken
      cases final
      have ends :=
        regular.advance_declared (List.mem_of_getElem? found) advances
      exact ⟨replaced ends.refused, logged ends.events⟩
  | answer index attempt =>
      obtain ⟨call, found, callTaken⟩ := Option.bind_eq_some_iff.mp taken
      obtain ⟨progress, receives, final⟩ :=
        Option.bind_eq_some_iff.mp callTaken
      cases final
      have ends := receive_declared truthful found receives
      exact ⟨replaced ends.refused, logged ends.events⟩
  | execute index number =>
      obtain ⟨call, found, callTaken⟩ := Option.bind_eq_some_iff.mp taken
      cases executes_of_executeRequest callTaken with
      | approval => exact ⟨refused, declared⟩
      | @refund _ _ _ executed fresh inFlight =>
          have own : ∀ call ∈ some (executed number), call.Refused := by
            rintro _ ⟨⟩
            cases refunds_of_refund inFlight <;> trivial
          exact ⟨replaced own, declared⟩
  | gate index io =>
      obtain ⟨call, found, callTaken⟩ := Option.bind_eq_some_iff.mp taken
      obtain ⟨trip, travels, final⟩ := Option.bind_eq_some_iff.mp callTaken
      cases final
      have ends :=
        gateTrip_declared (refused call (List.mem_of_getElem? found)) travels
      exact ⟨replaced ends.2, logged ends.1⟩

/-- The candidates of a started call are those that its scan has listed. -/
theorem candidates_of_starts {call : Call} {orders : List Nat}
    (taken : world.step action = some next) (starts : action.Starts call)
    (calls : next.calls = world.calls ++ [call])
    (listed : call.candidates = some orders) :
    ∃ olderThanSec batch,
      orders = unresolvedOrders olderThanSec batch world.clock world.db := by
  cases action with
  | startReconcile olderThanSec batch =>
      cases taken
      refine ⟨olderThanSec, batch, ?_⟩
      have listing := List.append_cancel_left calls
      cases scanned :
          unresolvedOrders olderThanSec batch world.clock world.db with
      | nil =>
          rw [scanned] at listing
          cases listing
      | cons first rest =>
          rw [scanned] at listing
          cases listing
          exact (Option.some.inj listed).symm
  | startAcquire | startPlace =>
      cases starts
      cases listed
  | startRelease =>
      obtain ⟨released, rfl⟩ := starts
      cases listed
  | startCancel =>
      obtain ⟨cancellation, rfl⟩ := starts
      cases listed
  | _ => cases starts

/-- The candidates of a reconciler stay in the table. -/
theorem candidates_after (regular : world.Regular)
    (taken : world.step action = some next) :
    ∀ call ∈ next.calls, ∀ orders, call.candidates = some orders →
      ∀ orderId ∈ orders, next.db.HasOrder orderId := by
  obtain ⟨after, -, turn⟩ := step_turn taken
  have grows := turn.grows regular.carries.honest.consistent
  have known := regular.candidates
  intro call member orders listed orderId candidate
  apply grows.hasOrder
  cases step_calls taken with
  | stay calls =>
      rw [calls] at member
      exact known call member orders listed orderId candidate
  | replace index replaced later own found narrows calls =>
      rw [calls] at member
      rcases mem_replaceCall member with old | new
      · exact known call old orders listed orderId candidate
      · cases narrows call new with
        | aside before aside => cases aside.symm.trans listed
        | shorter before shorter suffix =>
            cases Option.some.inj (shorter.symm.trans listed)
            exact
              known replaced (List.mem_of_getElem? found) _ before orderId
                (suffix.subset candidate)
  | start started starts own calls =>
      have there := member
      rw [calls] at there
      rcases List.mem_append.mp there with old | new
      · exact known call old orders listed orderId candidate
      · rw [List.mem_singleton.mp new] at listed
        obtain ⟨olderThanSec, batch, rfl⟩ :=
          candidates_of_starts taken starts calls listed
        exact hasOrder_of_unresolved candidate

theorem attributes_after (regular : world.Regular)
    {before after : Option Task} {books : Books}
    (known : ∀ task ∈ before, task ∈ world.tasks)
    (turn : Turn world action before after books) :
    books.db.Attributes (books.refunds.map (·.refundTid)) := by
  have attributes := regular.attributes
  -- A call that has carried a number out of a refund stores that number.
  have carried {task : Task} {number : String} (isBefore : before = some task)
      (found : task.number = some number) :
      number ∈ world.refunds.map (·.refundTid) :=
    regular.carries.refunds number
      (List.mem_filterMap.mpr ⟨task, known task isBefore, found⟩)
  cases turn with
  | acquired taken =>
      obtain ⟨-, rfl⟩ :=
        acquireSeats_ok regular.carries.honest.consistent.sound.rowUnique taken
      exact attributes
  | opened opened => exact attributes.opened opened
  | confirmed confirms source confirmed quiet => exact attributes.confirmed confirmed
  | refundExecuted | cancelExecuted =>
      exact attributes.mono (by simp)
  | recorded recorded quiet =>
      exact attributes.recordRefund (fun _ => carried rfl) recorded
  | closed closed quiet => exact attributes.closeUnpaid closed
  | cancelFailed recorded => exact attributes.insertPayment (by simp) recorded
  | cancelClosed closed =>
      exact attributes.closeCanceled (fun _ => carried rfl) closed
  | _ => exact attributes

theorem initial
    (inventory : Inventory) (startsAt : Nat → Policy.Datetime) (clock : Time) :
    (World.initial inventory startsAt clock).Regular where
  carries := .initial inventory startsAt clock
  bookkept := .initial inventory startsAt clock
  attributes := by simp [World.initial, Db.Attributes]
  candidates := by simp [World.initial]
  refused := by simp [World.initial]
  declared := by simp [World.initial]

theorem step (regular : world.Regular)
    (truthful : world.truthful action = true)
    (taken : world.step action = some next) :
    next.Regular := by
  obtain ⟨after, exchange, turn⟩ := step_turn taken
  obtain ⟨refused, declared⟩ := regular.step_declared truthful taken
  exact
    { carries := regular.carries.step truthful taken
      bookkept := regular.bookkept.step taken
      attributes := regular.attributes_after exchange.mem_before turn
      candidates := regular.candidates_after taken
      refused
      declared }

end World.Regular

/--
With a truthful gateway nothing breaks down: in every run, every call that has
ended has ended with its result or with an exception of its kind, and no
reconciler has raised anything.
-/
theorem World.raises_by_design
    {inventory : Inventory} {startsAt : Nat → Policy.Datetime} {clock : Time}
    {world : World}
    (run :
      RunWhere World.step (fun world action => world.truthful action = true)
        (World.initial inventory startsAt clock) world) :
    ∀ event ∈ world.log, event.declared = true := by
  have regular : world.Regular :=
    run.invariant (.initial inventory startsAt clock)
      fun _ _ _ regular truthful taken => regular.step truthful taken
  exact regular.declared

/-- The hold runs out, and the customer is told so after the refund. -/
theorem World.raises_by_design_expired :
    ∃ world : World,
      (world.db.orders.map (·.status) == [.failed] && world.calls.isEmpty) =
          true ∧
        world.log.all Event.declared = true := by
  obtain ⟨world, run, seen⟩ :=
    RunWhere.exists_of_checkedRun World.step
      (fun world action => world.truthful action = true) World.oneSeat
      compensation
      (fun world =>
        world.db.orders.map (·.status) == [.failed] && world.calls.isEmpty)
      (by decide)
  exact ⟨world, seen, List.all_eq_true.mpr (raises_by_design run)⟩

end Curtain
