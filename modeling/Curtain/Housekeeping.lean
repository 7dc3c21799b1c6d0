import Curtain.FailOpen
import Curtain.Quota

/-!
# The sweep decides nothing

Whoever decides about a hold compares its expiry with the clock: `hold_seats`,
which also counts the seats of its user, `find_unavailable_seats`,
`held_seats_for_order`, `open_order` and `claim_order_items`.  To them an
expired hold is no hold, whether it was swept or not, and what happens with a
sweep happens without it.  `release_hold` and the query of the seat map read
the status alone, and the text that explains a refused hold reads the clock of
the beginning of its transaction: only the answers of releases, that text and
the seat map can tell a hold that was not swept.
Two databases are alike when a sweep of all the expired holds would leave the
same tables, and no other call can tell databases that are alike.
-/

namespace Curtain

open Table Queries HoldService OrderService TransitionSystem

/-! ## What everybody sees of the stock -/

/-- The row as a sweep of all the expired holds would leave it. -/
def lapse (now : Time) (row : ScheduleSeat) : ScheduleSeat :=
  if isExpiredHold now row then free row else row

section Rows

variable {now later : Time} {row : ScheduleSeat}

theorem isExpiredHold_iff :
    isExpiredHold now row = true ↔
      row.status = .held ∧ ∃ expiry, row.holdExpiresAt = some expiry ∧ expiry < now := by
  simp only [isExpiredHold, Bool.and_eq_true, beq_iff_eq, Option.any_eq_true,
    decide_eq_true_eq]

theorem lapse_of_expired (expired : isExpiredHold now row = true) :
    lapse now row = free row :=
  if_pos expired

theorem lapse_of_not (live : isExpiredHold now row = false) :
    lapse now row = row := by
  simp [lapse, live]

theorem lapse_free : lapse now (free row) = free row := by
  simp [lapse, isExpiredHold, free]

/-- What has expired stays expired. -/
theorem lapse_lapse (passes : now ≤ later) :
    lapse later (lapse now row) = lapse later row := by
  cases expired : isExpiredHold now row with
  | false => rw [lapse_of_not expired]
  | true =>
      obtain ⟨held, expiry, stored, past⟩ := isExpiredHold_iff.mp expired
      have still : isExpiredHold later row = true :=
        isExpiredHold_iff.mpr ⟨held, expiry, stored, past.trans_le passes⟩
      rw [lapse_of_expired expired, lapse_of_expired still, lapse_free]

/-- It is enough to look at expired holds. -/
theorem blind_of_expired {Value : Type*} {read : ScheduleSeat → Value}
    (agrees :
      ∀ row, isExpiredHold now row = true → read (free row) = read row) :
    Blind (lapse now) read := by
  intro row
  cases expired : isExpiredHold now row with
  | false => rw [lapse_of_not expired]
  | true => rw [lapse_of_expired expired, agrees row expired]

theorem free_of_blind {Value : Type*} {read : ScheduleSeat → Value}
    (blind : Blind (lapse now) read) (expired : isExpiredHold now row = true) :
    read (free row) = read row := by
  rw [← blind row, lapse_of_expired expired]

theorem blind_isTarget (scheduleId : Nat) (wanted : List Nat) :
    Blind (lapse now) (isTarget scheduleId wanted now) := by
  refine blind_of_expired fun row expired => ?_
  obtain ⟨held, expiry, stored, past⟩ := isExpiredHold_iff.mp expired
  simp [isTarget, claimable, free, held, stored, past]

theorem blind_unavailable (scheduleId : Nat) (seatIds : List Nat) :
    Blind (lapse now) fun row =>
      row.scheduleId == scheduleId && seatIds.contains row.seatId &&
        (claimable now row).not.holds := by
  refine blind_of_expired fun row expired => ?_
  obtain ⟨held, expiry, stored, past⟩ := isExpiredHold_iff.mp expired
  simp [claimable, free, whenPresent, held, stored, past, Truth.or, Truth.and,
    Truth.not, Truth.holds]

theorem blind_heldLive (userId : Nat) (passes : now ≤ later) :
    Blind (lapse now) (heldLive userId later) := by
  refine blind_of_expired fun row expired => ?_
  obtain ⟨held, expiry, stored, past⟩ := isExpiredHold_iff.mp expired
  simp [heldLive, free, stored, (past.trans_le passes).le]

theorem blind_isClaim (scheduleId userId : Nat) (seatIds : List Nat) :
    Blind (lapse now) (isClaim scheduleId userId seatIds now) := by
  intro row
  rw [isClaim, isClaim, blind_heldLive userId le_rfl row, lapse]
  split <;> rfl

theorem blind_hold (userId : Nat) (expiresAt : Time) :
    Blind (lapse now) (hold userId expiresAt) :=
  blind_of_expired fun _ _ => rfl

theorem blind_seatId : Blind (lapse now) ScheduleSeat.seatId :=
  blind_of_expired fun _ _ => rfl

/-- An update looks alike if it does to an expired hold what it does to a free seat. -/
theorem lapse_update {condition : ScheduleSeat → Bool}
    {change : ScheduleSeat → ScheduleSeat}
    (agrees :
      ∀ row, isExpiredHold now row = true →
        lapse now (if condition row then change row else row) =
          lapse now
            (if condition (free row) then change (free row) else free row))
    (row : ScheduleSeat) :
    lapse now (if condition row then change row else row) =
      lapse now
        (if condition (lapse now row) then change (lapse now row)
          else lapse now row) := by
  cases expired : isExpiredHold now row with
  | false => rw [lapse_of_not expired]
  | true => rw [lapse_of_expired expired, agrees row expired]

/-- So does one that selects expired holds and free seats for the same change. -/
theorem agrees_of_blind {condition : ScheduleSeat → Bool}
    {change : ScheduleSeat → ScheduleSeat}
    (test : Blind (lapse now) condition)
    (changes :
      ∀ row, isExpiredHold now row = true → condition row = true →
        change (free row) = change row)
    (row : ScheduleSeat) (expired : isExpiredHold now row = true) :
    lapse now (if condition row then change row else row) =
      lapse now (if condition (free row) then change (free row) else free row) := by
  rw [free_of_blind test expired]
  cases selected : condition row with
  | false => simp [lapse_of_expired expired, lapse_free]
  | true => simp [changes row expired selected]

end Rows

/-! ## Databases that nobody can tell -/

/-- The tables as a sweep of all the expired holds would leave them. -/
def Db.lapsed (now : Time) (db : Db) : Db :=
  db.updateSeats (isExpiredHold now) free

/-- The databases differ in holds that have expired and nothing else. -/
def Db.Alike (now : Time) (db other : Db) : Prop :=
  ∃ rows, rows.map (lapse now) = db.scheduleSeats.map (lapse now) ∧
    other = { db with scheduleSeats := rows }

/-- The same result, and databases that are alike. -/
def AlikeAfter {Result : Type} (now : Time) (left right : Result × Db) : Prop :=
  left.1 = right.1 ∧ left.2.Alike now right.2

/-- The items of a pending order book its live holds, and no expired one. -/
theorem Db.Sound.bookOrderSeats_eq {db : Db} {now : Time} (sound : db.Sound)
    {order : Order} (member : order ∈ db.orders)
    (unconfirmed : order.confirmed = false) (orders : List Order) :
    bookOrderSeats order.id
        { db with orders, orderItems := db.orderItems ++ order.claims now db } =
      (updatedRows (isClaim order.scheduleId order.userId order.seatIds now) book
          db.scheduleSeats,
        { db with
          scheduleSeats :=
            updateWhere
              (isClaim order.scheduleId order.userId order.seatIds now) book
              db.scheduleSeats
          orders
          orderItems := db.orderItems ++ order.claims now db }) := by
  have held := @Db.Sound.claimed_held db sound order now member unconfirmed
  have seats :
      updateWhere _ book db.scheduleSeats =
        updateWhere (isClaim order.scheduleId order.userId order.seatIds now)
          book db.scheduleSeats :=
    updateWhere_congr held
  exact
    Prod.ext (updatedRows_congr held)
      (congrArg
        (fun rows =>
          { db with
            scheduleSeats := rows
            orders
            orderItems := db.orderItems ++ order.claims now db })
        seats)

namespace Db.Alike

variable {db other : Db} {now later : Time}

theorem refl (now : Time) (db : Db) : db.Alike now db :=
  ⟨db.scheduleSeats, rfl, rfl⟩

theorem lapsed (alike : db.Alike now other) :
    other.lapsed now = db.lapsed now := by
  obtain ⟨rows, same, rfl⟩ := alike
  exact congrArg (fun rows => { db with scheduleSeats := rows }) same

theorem mono (alike : db.Alike now other) (passes : now ≤ later) :
    db.Alike later other := by
  obtain ⟨rows, same, rfl⟩ := alike
  refine ⟨rows, ?_, rfl⟩
  have again := congrArg (List.map (lapse later)) same
  simpa only [List.map_map, Function.comp_def, lapse_lapse passes] using again

/-- A conditional update of the stock that looks alike. -/
theorem updateSeats (alike : db.Alike now other)
    {condition : ScheduleSeat → Bool} {change : ScheduleSeat → ScheduleSeat}
    (agrees :
      ∀ row, isExpiredHold now row = true →
        lapse now (if condition row then change row else row) =
          lapse now
            (if condition (free row) then change (free row) else free row)) :
    (db.updateSeats condition change).Alike now
      (other.updateSeats condition change) := by
  obtain ⟨rows, same, rfl⟩ := alike
  exact ⟨_, map_view_updateWhere same (lapse_update agrees), rfl⟩

/-- The sweep changes nothing that anybody sees. -/
theorem sweep (alike : db.Alike now other)
    (unique : Unique ScheduleSeat.id db.scheduleSeats)
    (batch : Nat) (locked : Nat → Bool) :
    (sweepExpired batch locked now db).2.Alike now other := by
  obtain ⟨condition, expired, swept⟩ := sweepExpired_snd unique now batch locked
  obtain ⟨rows, same, rfl⟩ := alike
  rw [swept]
  refine ⟨rows, same.trans ?_, rfl⟩
  rw [Db.updateSeats_scheduleSeats, updateWhere, List.map_map]
  apply List.map_congr_left
  intro row member
  cases taken : condition row with
  | false => simp [taken]
  | true =>
      simp only [Function.comp_apply, taken, if_true]
      rw [lapse_free, lapse_of_expired (expired row member taken)]

theorem owned_eq (alike : db.Alike now other) (sound : db.Sound)
    (otherSound : other.Sound) (scheduleId userId : Nat) :
    owned scheduleId userId now other = owned scheduleId userId now db := by
  obtain ⟨rows, same, rfl⟩ := alike
  have blind : Blind (lapse now) (db.counts scheduleId userId now) := by
    refine blind_of_expired fun row expired => ?_
    have live := free_of_blind (blind_heldLive userId (le_refl now)) expired
    rw [Db.counts, Db.counts, live, (isExpiredHold_iff.mp expired).1]
    rfl
  rw [Curtain.owned_eq sound.itemUnique sound.orderIdUnique,
    Curtain.owned_eq otherSound.itemUnique otherSound.orderIdUnique,
    Db.holding_eq, Db.holding_eq]
  exact blind.countP same

theorem target_length (alike : db.Alike now other) (scheduleId : Nat)
    (wanted : List Nat) :
    (target scheduleId wanted now other).length =
      (target scheduleId wanted now db).length := by
  obtain ⟨rows, same, rfl⟩ := alike
  rw [target, target, List.length_insertionSort, List.length_insertionSort,
    ← List.countP_eq_length_filter, ← List.countP_eq_length_filter]
  exact (blind_isTarget scheduleId wanted).countP same

theorem unavailable_eq (alike : db.Alike now other) (scheduleId : Nat)
    (seatIds : List Nat) :
    findUnavailableSeats scheduleId seatIds now other =
      findUnavailableSeats scheduleId seatIds now db := by
  obtain ⟨rows, same, rfl⟩ := alike
  exact (blind_unavailable scheduleId seatIds).select same blind_seatId

/-- A seat can be held as well after its hold expired as after the sweep. -/
theorem acquireSeats (alike : db.Alike now other) (sound : db.Sound)
    (otherSound : other.Sound) (request : AcquireRequest) :
    Agree (AlikeAfter now) (HoldService.acquireSeats request now db)
      (HoldService.acquireSeats request now other) := by
  rw [HoldService.acquireSeats, HoldService.acquireSeats,
    holdSeats_eq sound.rowUnique, holdSeats_eq otherSound.rowUnique,
    alike.owned_eq sound otherSound, alike.target_length]
  dsimp only
  generalize
    guard (target request.scheduleId request.seatIds now db).length
      (owned request.scheduleId request.userId now db) request.seatIds.length
      request.maxSeats = passed
  have test :
      Blind (lapse now) fun row =>
        isTarget request.scheduleId request.seatIds now row && passed :=
    fun row => by dsimp only; rw [blind_isTarget _ _ row]
  have changes :
      Blind (lapse now)
        (hold request.userId (now + seconds request.ttlSec)) :=
    blind_hold _ _
  have after :=
    alike.updateSeats
      (agrees_of_blind test fun row expired _ => free_of_blind changes expired)
  have returned :
      updatedRows
          (fun row =>
            isTarget request.scheduleId request.seatIds now row && passed)
          (hold request.userId (now + seconds request.ttlSec))
          other.scheduleSeats =
        updatedRows
          (fun row =>
            isTarget request.scheduleId request.seatIds now row && passed)
          (hold request.userId (now + seconds request.ttlSec))
          db.scheduleSeats := by
    obtain ⟨rows, same, rfl⟩ := alike
    exact test.select same changes
  rw [returned, after.unavailable_eq]
  cases updatedRows _ _ db.scheduleSeats with
  | nil =>
      dsimp only
      split <;> exact .failed _
  | cons first rest =>
      dsimp only
      split
      · exact .failed _
      · exact .returned ⟨rfl, after⟩

/-- Among expired holds and swept ones alike a release leaves free seats. -/
theorem releaseHold (alike : db.Alike now other) (scheduleId userId : Nat)
    (seatIds : List Nat) :
    (Queries.releaseHold scheduleId userId seatIds db).2.Alike now
      (Queries.releaseHold scheduleId userId seatIds other).2 := by
  refine alike.updateSeats fun row expired => ?_
  have freed : isHoldOf scheduleId userId seatIds (free row) = false := by
    simp [isHoldOf, free]
  rw [freed, if_neg Bool.false_ne_true, lapse_free]
  split
  · exact lapse_free
  · exact lapse_of_expired expired

theorem markOrder (alike : db.Alike now other) (orderId : Nat)
    (status expect : OrderStatus) :
    AlikeAfter now (Queries.markOrder orderId status expect db)
      (Queries.markOrder orderId status expect other) := by
  obtain ⟨rows, same, rfl⟩ := alike
  exact ⟨rfl, rows, same, rfl⟩

theorem failPendingPayments (alike : db.Alike now other) (orderId : Nat) :
    (Queries.failPendingPayments orderId db).Alike now
      (Queries.failPendingPayments orderId other) := by
  obtain ⟨rows, same, rfl⟩ := alike
  exact ⟨rows, same, rfl⟩

theorem insertOutbox (alike : db.Alike now other) (topic : String)
    (payload : Payload) :
    (Queries.insertOutbox topic payload db).Alike now
      (Queries.insertOutbox topic payload other) := by
  obtain ⟨rows, same, rfl⟩ := alike
  exact ⟨rows, same, rfl⟩

theorem setOrderSnapshot (alike : db.Alike now other) (orderId : Nat)
    (snapshot : Snapshot) :
    (Queries.setOrderSnapshot orderId snapshot db).2.Alike now
      (Queries.setOrderSnapshot orderId snapshot other).2 := by
  obtain ⟨rows, same, rfl⟩ := alike
  exact ⟨rows, same, rfl⟩

theorem insertPayment (alike : db.Alike now other) {orderId : Nat}
    {status : PayStatus} {amount : Int} {pgTid : Option String}
    {fees : Option FeeSnapshot} :
    Agree (Db.Alike now) (Queries.insertPayment orderId status amount pgTid fees db)
      (Queries.insertPayment orderId status amount pgTid fees other) := by
  obtain ⟨rows, same, rfl⟩ := alike
  simp only [Queries.insertPayment, storePayments]
  split
  · exact .returned ⟨rows, same, rfl⟩
  · exact .failed _

/-- An order asks for holds that are still live when its margin is over. -/
theorem openOrder (alike : db.Alike now other) {scheduleId userId : Nat}
    {seatIds : List Nat} {key : String} {margin : Int} (waits : 0 ≤ margin) :
    Agree (AlikeAfter now)
      (Queries.openOrder scheduleId userId seatIds key margin now db)
      (Queries.openOrder scheduleId userId seatIds key margin now other) := by
  obtain ⟨rows, same, rfl⟩ := alike
  have passes : now ≤ now + seconds margin :=
    Int.le_add_of_nonneg_right (Int.mul_nonneg waits (by decide))
  have test :
      Blind (lapse now) (isOrderable scheduleId userId seatIds margin now) := by
    intro row
    rw [isOrderable, isOrderable, blind_heldLive userId passes row, lapse]
    split <;> rfl
  have price : Blind (lapse now) ScheduleSeat.price :=
    blind_of_expired fun _ _ => rfl
  have prices := test.select same price
  have count := congrArg List.length prices
  rw [List.length_map, List.length_map] at count
  rw [Queries.openOrder, Queries.openOrder]
  dsimp only
  rw [prices, count]
  split
  · exact .returned ⟨rfl, rows, same, rfl⟩
  split
  · exact .failed _
  split <;> exact .returned ⟨rfl, rows, same, rfl⟩

theorem openPending (alike : db.Alike now other) {request : PlaceRequest}
    (waits : 0 ≤ request.minHoldRemainingSec) :
    Agree (AlikeAfter now) (OrderService.openPending request now db)
      (OrderService.openPending request now other) := by
  refine (alike.openOrder waits).bind ?_
  rintro ⟨opened, middle⟩ ⟨_, otherMiddle⟩ ⟨rfl, middles⟩
  cases opened with
  | none => exact .returned ⟨rfl, middles⟩
  | some order =>
      exact middles.insertPayment.bind fun _ _ after => .returned ⟨rfl, after⟩

theorem loadOrder_eq (alike : db.Alike now other) (orderId : Nat) :
    OrderService.loadOrder orderId other = OrderService.loadOrder orderId db := by
  obtain ⟨rows, -, rfl⟩ := alike
  rfl

theorem loadOrder (alike : db.Alike now other) (orderId : Nat) :
    Agree
      (fun left right =>
        left = right ∧ OrderService.loadOrder orderId db = .ok left)
      (OrderService.loadOrder orderId db)
      (OrderService.loadOrder orderId other) := by
  rw [alike.loadOrder_eq]
  cases OrderService.loadOrder orderId db with
  | error error => exact .failed error
  | ok order => exact .returned ⟨rfl, rfl⟩

theorem recordApproval (alike : db.Alike now other) {order : Order}
    {items : List OrderItem} {pgTid : String} :
    Agree (Db.Alike now) (OrderService.recordApproval order items pgTid db)
      (OrderService.recordApproval order items pgTid other) := by
  have promoted :
      Agree (AlikeAfter now) (promotePaymentToApproved order.id pgTid db)
        (promotePaymentToApproved order.id pgTid other) := by
    obtain ⟨rows, same, rfl⟩ := alike
    simp only [promotePaymentToApproved, storePayments]
    split
    · exact .returned ⟨rfl, rows, same, rfl⟩
    · exact .failed _
  refine promoted.bind ?_
  rintro ⟨payments, middle⟩ ⟨_, otherMiddle⟩ ⟨rfl, middles⟩
  dsimp only
  split
  · refine middles.insertPayment.bind fun _ _ afters => ?_
    exact .returned ((afters.insertOutbox "order.paid" _).setOrderSnapshot _ _)
  · exact .returned ((middles.insertOutbox "order.paid" _).setOrderSnapshot _ _)

theorem claims_eq (alike : db.Alike now other) (order : Order) :
    order.claims now other = order.claims now db := by
  obtain ⟨rows, same, rfl⟩ := alike
  rw [Order.claims, Order.claims, claimedItems, claimedItems]
  refine
    (blind_isClaim order.scheduleId order.userId order.seatIds).selectSorted
      same (fun left right => ?_) (blind_of_expired fun _ _ => rfl)
  rw [blind_seatId left, blind_seatId right]

theorem bookOrderSeats (alike : db.Alike now other) (sound : db.Sound)
    (otherSound : other.Sound) {order : Order} (member : order ∈ db.orders)
    (unconfirmed : order.confirmed = false) (orders : List Order) :
    AlikeAfter now
      (Queries.bookOrderSeats order.id
        { db with orders, orderItems := db.orderItems ++ order.claims now db })
      (Queries.bookOrderSeats order.id
        { other with
          orders
          orderItems := other.orderItems ++ order.claims now other }) := by
  have claims := alike.claims_eq order
  obtain ⟨rows, same, rfl⟩ := alike
  have test :
      Blind (lapse now)
        (isClaim order.scheduleId order.userId order.seatIds now) :=
    blind_isClaim _ _ _
  have changes : Blind (lapse now) book := blind_of_expired fun _ _ => rfl
  have agrees :=
    agrees_of_blind test fun row expired _ => free_of_blind changes expired
  rw [sound.bookOrderSeats_eq member unconfirmed,
    otherSound.bookOrderSeats_eq member unconfirmed, claims]
  exact
    ⟨(test.select same changes).symm, _,
      map_view_updateWhere same (lapse_update agrees), rfl⟩

/-- Both confirmations claim the same items, and fail or go on alike. -/
theorem claimOrExpire (alike : db.Alike now other) (order : Order)
    (orders : List Order) :
    Agree
      (fun left right =>
        left =
            (order.claims now db,
              { db with
                orders, orderItems := db.orderItems ++ order.claims now db }) ∧
          right =
            (order.claims now db,
              { other with
                orders
                orderItems := other.orderItems ++ order.claims now other }))
      (OrderService.claimOrExpire order now { db with orders })
      (OrderService.claimOrExpire order now { other with orders }) := by
  have items (tables : Db) :
      claimedItems order.id order.scheduleId order.userId order.seatIds now
          { tables with orders } =
        order.claims now tables := rfl
  rw [OrderService.claimOrExpire, OrderService.claimOrExpire, claimOrderItems,
    claimOrderItems, items, items, alike.claims_eq order]
  obtain ⟨rows, same, rfl⟩ := alike
  dsimp only
  by_cases unsold :
      Unique OrderItem.scheduleSeatId (db.orderItems ++ order.claims now db)
  · rw [if_pos unsold, if_pos unsold]
    exact .returned ⟨rfl, rfl⟩
  · rw [if_neg unsold, if_neg unsold]
    exact .failed _

theorem confirmPaid (alike : db.Alike now other) (sound : db.Sound)
    (otherSound : other.Sound) (orderId : Nat) (pgTid : String) :
    Agree (AlikeAfter now) (OrderService.confirmPaid orderId pgTid now db)
      (OrderService.confirmPaid orderId pgTid now other) := by
  refine (alike.loadOrder orderId).bind ?_
  rintro order _ ⟨rfl, loaded⟩
  obtain ⟨member, rfl⟩ := loadOrder_ok loaded
  have marks :
      markOrderPaid order.id other =
        ((markOrderPaid order.id db).1,
          { other with orders := (markOrderPaid order.id db).2.orders }) := by
    obtain ⟨rows, same, rfl⟩ := alike
    rfl
  rw [marks]
  dsimp only
  split
  · exact .returned ⟨rfl, alike⟩
  rename_i marked
  split
  · exact .failed _
  refine (alike.claimOrExpire order (markOrderPaid order.id db).2.orders).bind ?_
  rintro _ _ ⟨rfl, rfl⟩
  dsimp only
  split
  · exact .failed _
  have unconfirmed : order.confirmed = false := by
    obtain ⟨row, rowMember, same, pending⟩ := markOrderPaid_ne_nil.mp marked
    rw [sound.orderIdUnique.eq rowMember member same] at pending
    rw [Order.confirmed, (sound.fillable order member).unanswered (.inl pending)]
    rfl
  obtain ⟨booked, after⟩ :=
    alike.bookOrderSeats sound otherSound member unconfirmed
      (markOrderPaid order.id db).2.orders
  rw [← booked]
  split
  · exact .failed _
  exact after.recordApproval.bind fun _ _ afters => .returned ⟨rfl, afters⟩

theorem closeUnpaid (alike : db.Alike now other) (orderId : Nat)
    (status : OrderStatus) :
    Agree (Db.Alike now) (OrderService.closeUnpaid orderId status db)
      (OrderService.closeUnpaid orderId status other) := by
  refine (alike.loadOrder orderId).bind ?_
  rintro order _ ⟨rfl, -⟩
  obtain ⟨closed, marked⟩ := alike.markOrder orderId status .pending
  have failed := marked.failPendingPayments orderId
  dsimp only
  rw [← closed]
  split
  · exact .returned alike
  split
  · exact .returned failed
  · exact .returned (failed.releaseHold _ _ _)

theorem recordRefund (alike : db.Alike now other) (order : Order) (total : Int)
    (attempt : PayAttempt) :
    Agree (Db.Alike now) (OrderService.recordRefund order total attempt db)
      (OrderService.recordRefund order total attempt other) := by
  refine alike.insertPayment.bind fun middle otherMiddle middles => ?_
  have failed := middles.failPendingPayments order.id
  obtain ⟨-, marked⟩ := failed.markOrder order.id .failed .pending
  dsimp only
  split
  · split
    · exact .returned marked
    · exact .returned (marked.releaseHold _ _ _)
  · exact .returned failed

theorem startsAt_eq (alike : db.Alike now other) :
    other.startsAt = db.startsAt := by
  obtain ⟨rows, -, rfl⟩ := alike
  rfl

theorem recordFailedCancel (alike : db.Alike now other)
    (cancellation : Cancellation) :
    Agree (Db.Alike now) (OrderService.recordFailedCancel cancellation db)
      (OrderService.recordFailedCancel cancellation other) := by
  rw [OrderService.recordFailedCancel, OrderService.recordFailedCancel,
    alike.startsAt_eq]
  exact alike.insertPayment

/-- No hold is in the way of a seat that comes back. -/
theorem restoreOrderSeats (alike : db.Alike now other) (orderId : Nat) :
    (Queries.restoreOrderSeats orderId db).2.Alike now
      (Queries.restoreOrderSeats orderId other).2 := by
  have test :
      Blind (lapse now) fun row =>
        (itemSeats orderId db).contains row.id && row.status == .booked := by
    refine blind_of_expired fun row expired => ?_
    rw [(isExpiredHold_iff.mp expired).1]
    exact (Bool.and_false _).trans (Bool.and_false _).symm
  have agrees :=
    @agrees_of_blind now _ restore test fun row expired selected => by
      simp [(isExpiredHold_iff.mp expired).1] at selected
  obtain ⟨rows, same, rfl⟩ := alike
  exact ⟨_, map_view_updateWhere same (lapse_update agrees), rfl⟩

theorem closeCanceled (alike : db.Alike now other) (cancellation : Cancellation)
    (attempt : PayAttempt) :
    Agree (Db.Alike now) (OrderService.closeCanceled cancellation attempt db)
      (OrderService.closeCanceled cancellation attempt other) := by
  obtain ⟨closed, marked⟩ :=
    alike.markOrder cancellation.order.id .canceled .paid
  rw [OrderService.closeCanceled, OrderService.closeCanceled]
  dsimp only
  rw [← closed, alike.startsAt_eq]
  split
  · exact .returned alike
  · refine marked.insertPayment.bind fun _ _ refunded => ?_
    exact
      .returned ((refunded.restoreOrderSeats _).insertOutbox "order.canceled" _)

/-! ### What reads no seats -/

theorem pollPlaced_eq (alike : db.Alike now other) (orderId : Nat)
    (replayed : Bool) :
    pollPlaced orderId replayed other = pollPlaced orderId replayed db := by
  obtain ⟨rows, -, rfl⟩ := alike
  rfl

theorem existingOrderId_eq (alike : db.Alike now other) (key : String) :
    existingOrderId key other = existingOrderId key db := by
  obtain ⟨rows, -, rfl⟩ := alike
  rfl

theorem prepareCancel_eq (alike : db.Alike now other) (orderId : Nat)
    (moment : Policy.Datetime) :
    prepareCancel orderId moment other = prepareCancel orderId moment db := by
  obtain ⟨rows, -, rfl⟩ := alike
  rfl

theorem unresolvedOrders_eq (alike : db.Alike now other) (olderThanSec : Int)
    (batch : Nat) (clock : Time) :
    unresolvedOrders olderThanSec batch clock other =
      unresolvedOrders olderThanSec batch clock db := by
  obtain ⟨rows, -, rfl⟩ := alike
  rfl

end Db.Alike

/-! ## What is told -/

/-- What sweeps and releases report of their work, and refused holds. -/
def Event.untold : Event → Bool
  | .swept _ => true
  | .releaseEnded _ _ _ => true
  | event => event.refuses

/-- The event without the text that explains a refused order. -/
def Event.unexplained : Event → Event
  | .placeEnded request (.error (.orderRejected .holdExpired _ none)) =>
      .placeEnded request (.error (.orderRejected .holdExpired "" none))
  | event => event

/-- What a log tells of the customers and the gateway. -/
def told (log : List Event) : List Event :=
  (log.filter (!·.untold)).map Event.unexplained

@[simp]
theorem told_append (before events : List Event) :
    told (before ++ events) = told before ++ told events := by
  simp [told]

theorem told_refuses (log : List Event) :
    told (log.filter (!·.refuses)) = told log := by
  rw [told, told, List.filter_filter]
  congr 1
  apply List.filter_congr
  intro event _
  cases refused : event.refuses with
  | false => simp
  | true =>
      have untold : event.untold = true := by
        cases event <;> first | exact refused | rfl
      simp [untold]

/-- Two steps of a call leave it alike, with alike databases. -/
structure Progress.Alike (now : Time) (progress other : Progress) : Prop where
  db : progress.db.Alike now other.db
  next : other.next = progress.next
  events : told other.events = told progress.events

namespace Db.Alike

variable {db other : Db} {now : Time}

theorem settle (alike : db.Alike now other) (sound : db.Sound)
    (otherSound : other.Sound) (stage : Settling) :
    Option.Rel (fun left right => left.1.Alike now right.1 ∧ right.2 = left.2)
      (Curtain.settle now db stage) (Curtain.settle now other stage) := by
  cases stage with
  | refunding => exact .none
  | confirming orderId pgTid amount =>
      rcases (alike.confirmPaid sound otherSound orderId pgTid).both with
        ⟨error, left, right⟩ | ⟨⟨_, after⟩, ⟨_, otherAfter⟩, left, right, rfl, afters⟩
      · simp only [Curtain.settle, left, right]
        split <;> exact .some ⟨alike, rfl⟩
      · simp only [Curtain.settle, left, right]
        exact .some ⟨afters, rfl⟩
  | closing orderId status =>
      rcases (alike.closeUnpaid orderId status).both with
        ⟨error, left, right⟩ | ⟨after, otherAfter, left, right, afters⟩
      · simp only [Curtain.settle, left, right]
        exact .some ⟨alike, rfl⟩
      · simp only [Curtain.settle, left, right]
        exact .some ⟨afters, rfl⟩
  | compensating =>
      simp only [Curtain.settle, alike.loadOrder_eq]
      split <;> exact .some ⟨alike, rfl⟩
  | recording order total why attempt =>
      rcases (alike.recordRefund order total attempt).both with
        ⟨error, left, right⟩ | ⟨after, otherAfter, left, right, afters⟩
      · simp only [Curtain.settle, left, right]
        exact .some ⟨alike, rfl⟩
      · simp only [Curtain.settle, left, right]
        exact .some ⟨afters, rfl⟩

theorem advancePlace (alike : db.Alike now other) (sound : db.Sound)
    (otherSound : other.Sound) {request : PlaceRequest}
    (waits : 0 ≤ request.minHoldRemainingSec) (stage : PlaceStage) :
    Option.Rel (Progress.Alike now) (Curtain.advancePlace now db request stage)
      (Curtain.advancePlace now other request stage) := by
  cases stage with
  | approving => exact .none
  | opening =>
      rcases (alike.openPending waits).both with
        ⟨error, left, right⟩ |
          ⟨⟨opened, after⟩, ⟨_, otherAfter⟩, left, right, rfl, afters⟩
      · simp only [Curtain.advancePlace, left, right]
        exact .some ⟨alike, rfl, rfl⟩
      · cases opened <;>
          simp only [Curtain.advancePlace, left, right] <;>
          exact .some ⟨afters, rfl, rfl⟩
  | lookingUp startedAt =>
      simp only [Curtain.advancePlace, alike.existingOrderId_eq]
      split <;> exact .some ⟨alike, rfl, rfl⟩
  | settling stage =>
      have settles := alike.settle sound otherSound stage
      simp only [Curtain.advancePlace]
      generalize Curtain.settle now db stage = left at settles ⊢
      generalize Curtain.settle now other stage = right at settles ⊢
      cases settles with
      | none => exact .none
      | @some first second settles =>
          obtain ⟨after, events, settled⟩ := first
          obtain ⟨otherAfter, _⟩ := second
          obtain ⟨afters, rfl⟩ := settles
          cases settled <;> exact .some ⟨afters, rfl, rfl⟩
  | polling orderId attempts replayed =>
      simp only [Curtain.advancePlace, alike.pollPlaced_eq]
      split
      · exact .some ⟨alike, rfl, rfl⟩
      · exact .some ⟨alike, rfl, rfl⟩
      · split <;> exact .some ⟨alike, rfl, rfl⟩

theorem nextCandidate (alike : db.Alike now other) (events : List Event)
    (confirmed rest : List Nat) :
    (Curtain.nextCandidate db events confirmed rest).Alike now
      (Curtain.nextCandidate other events confirmed rest) := by
  cases rest <;> exact ⟨alike, rfl, rfl⟩

theorem advanceReconcile (alike : db.Alike now other) (sound : db.Sound)
    (otherSound : other.Sound) (rest confirmed : List Nat)
    (stage : ReconcileStage) :
    Option.Rel (Progress.Alike now)
      (Curtain.advanceReconcile now db rest confirmed stage)
      (Curtain.advanceReconcile now other rest confirmed stage) := by
  cases stage with
  | inquiring => exact .none
  | settling stage =>
      have settles := alike.settle sound otherSound stage
      simp only [Curtain.advanceReconcile]
      generalize Curtain.settle now db stage = left at settles ⊢
      generalize Curtain.settle now other stage = right at settles ⊢
      cases settles with
      | none => exact .none
      | @some first second settles =>
          obtain ⟨after, events, settled⟩ := first
          obtain ⟨otherAfter, _⟩ := second
          obtain ⟨afters, rfl⟩ := settles
          cases settled with
          | settling | raised => exact .some ⟨afters, rfl, rfl⟩
          | confirmed | closed | compensated =>
              exact .some (afters.nextCandidate _ _ _)

theorem advanceCancel (alike : db.Alike now other) (cancellation : Cancellation)
    (stage : CancelStage) :
    Option.Rel (Progress.Alike now) (Curtain.advanceCancel db cancellation stage)
      (Curtain.advanceCancel other cancellation stage) := by
  cases stage with
  | refunding => exact .none
  | failing result =>
      rcases (alike.recordFailedCancel cancellation).both with
        ⟨error, left, right⟩ | ⟨after, otherAfter, left, right, afters⟩
      · simp only [Curtain.advanceCancel, left, right]
        exact .some ⟨alike, rfl, rfl⟩
      · simp only [Curtain.advanceCancel, left, right]
        exact .some ⟨afters, rfl, rfl⟩
  | closing attempt =>
      rcases (alike.closeCanceled cancellation attempt).both with
        ⟨error, left, right⟩ | ⟨after, otherAfter, left, right, afters⟩
      · simp only [Curtain.advanceCancel, left, right]
        exact .some ⟨alike, rfl, rfl⟩
      · simp only [Curtain.advanceCancel, left, right]
        exact .some ⟨afters, rfl, rfl⟩

theorem advanceAcquire (alike : db.Alike now other) (sound : db.Sound)
    (otherSound : other.Sound) (request : AcquireRequest) (stage : AcquireStage) :
    Option.Rel (Progress.Alike now) (Curtain.advanceAcquire now db request stage)
      (Curtain.advanceAcquire now other request stage) := by
  cases stage with
  | gating | ungating => exact .none
  | holding gated =>
      rcases (alike.acquireSeats sound otherSound request).both with
        ⟨error, left, right⟩ |
          ⟨⟨held, after⟩, ⟨_, otherAfter⟩, left, right, rfl, afters⟩
      · simp only [Curtain.advanceAcquire, left, right]
        split <;> exact .some ⟨alike, rfl, rfl⟩
      · simp only [Curtain.advanceAcquire, left, right]
        exact .some ⟨afters, rfl, rfl⟩

end Db.Alike

/-- The order asks for no less than a live hold. -/
def OrderService.PlaceRequest.Waits (request : PlaceRequest) : Prop :=
  0 ≤ request.minHoldRemainingSec

instance (request : PlaceRequest) : Decidable request.Waits :=
  inferInstanceAs (Decidable (0 ≤ request.minHoldRemainingSec))

def Call.Waits : Call → Prop
  | .placing request _ => request.Waits
  | _ => True

namespace Db.Alike

variable {db other : Db} {now : Time}

/-- A transaction of a call cannot tell the databases. -/
theorem advance (alike : db.Alike now other) (sound : db.Sound)
    (otherSound : other.Sound) {call : Call} (waits : call.Waits) :
    Option.Rel (Progress.Alike now) (Curtain.advance now db call)
      (Curtain.advance now other call) := by
  cases call with
  | releasing => exact .none
  | acquiring request stage =>
      exact alike.advanceAcquire sound otherSound request stage
  | placing request stage => exact alike.advancePlace sound otherSound waits stage
  | reconciling rest confirmed stage =>
      exact alike.advanceReconcile sound otherSound rest confirmed stage
  | canceling cancellation stage => exact alike.advanceCancel cancellation stage

/-- Nor does an answer depend on them. -/
theorem receive (alike : db.Alike now other) (attempt : PayAttempt)
    (call : Call) :
    Option.Rel (Progress.Alike now) (Curtain.receive db attempt call)
      (Curtain.receive other attempt call) := by
  cases call with
  | acquiring | releasing => exact .none
  | placing request stage =>
      cases stage with
      | opening | lookingUp | polling => exact .none
      | approving =>
          simp only [Curtain.receive]
          split <;> exact .some ⟨alike, rfl, rfl⟩
      | settling stage =>
          cases stage with
          | refunding => exact .some ⟨alike, rfl, rfl⟩
          | confirming | closing | compensating | recording => exact .none
  | reconciling rest confirmed stage =>
      cases stage with
      | inquiring =>
          simp only [Curtain.receive]
          split
          · exact .some (alike.nextCandidate _ _ _)
          · exact .some ⟨alike, rfl, rfl⟩
          · exact .some ⟨alike, rfl, rfl⟩
          · exact .some ⟨alike, rfl, rfl⟩
      | settling stage =>
          cases stage with
          | refunding => exact .some ⟨alike, rfl, rfl⟩
          | confirming | closing | compensating | recording => exact .none
  | canceling cancellation stage =>
      cases stage with
      | refunding => exact .some ⟨alike, rfl, rfl⟩
      | failing | closing => exact .none

end Db.Alike

/-! ## Worlds that nobody can tell -/

/-- What is done neither by the sweep nor at the gate, nor gives back a hold. -/
def Action.steady : Action → Bool
  | .sweep _ => false
  | .startRelease _ _ _ => false
  | action => action.gateless

/-- The call does more than give back keys of the gate. -/
def Call.lasting : Call → Bool
  | .releasing _ _ _ => false
  | _ => true

namespace World

variable {world other next : World} {action : Action}

/-- The worlds differ in expired holds, the gate and what is not told. -/
def Alike (world other : World) : Prop :=
  ∃ db gate log, world.db.Alike world.clock db ∧ told log = told world.log ∧
    other = { world with db, gate, log }

/-- A script that does not reach the store does not depend on it. -/
theorem gateTrip_unreachable {now : Time} {call : Call}
    (gate other : KeyStore.Store Gate.Key Gate.Token) :
    gateTrip now other .unreachable call =
      (gateTrip now gate .unreachable call).map
        fun trip => { trip with gate := other } := by
  cases call with
  | acquiring request stage => cases stage <;> rfl
  | releasing | placing | reconciling | canceling => rfl

theorem Alike.progress (alike : world.Alike other) {progress later : Progress}
    (progresses : progress.Alike world.clock later) (index : Nat) :
    (world.progress index progress).Alike (other.progress index later) := by
  obtain ⟨db, gate, log, -, same, rfl⟩ := alike
  refine ⟨later.db, gate, log ++ later.events, progresses.db, ?_, ?_⟩
  · rw [told_append, same, progresses.events]
    exact (told_append _ _).symm
  · rw [World.progress, progresses.next]
    rfl

theorem Alike.note (alike : world.Alike other) (event : Event) :
    (world.note event).Alike (other.note event) := by
  obtain ⟨db, gate, log, alike, same, rfl⟩ := alike
  refine ⟨db, gate, log ++ [event], alike, ?_, rfl⟩
  rw [told_append, same]
  exact (told_append _ _).symm

theorem Alike.addCall (alike : world.Alike other) (call : Call) :
    (world.addCall call).Alike (other.addCall call) := by
  obtain ⟨db, gate, log, alike, same, rfl⟩ := alike
  exact ⟨db, gate, log, alike, same, rfl⟩

/-- The gateway executes what is in flight, whatever the tables say. -/
theorem Alike.executeRequest (alike : world.Alike other) {index : Nat}
    {number : String} {call : Call}
    (taken : world.executeRequest index number call = some next) :
    ∃ after, other.executeRequest index number call = some after ∧
      next.Alike after := by
  obtain ⟨db, gate, log, tables, same, rfl⟩ := alike
  simp only [World.executeRequest] at taken ⊢
  split at taken
  · cases taken
  rename_i fresh
  have unused : ¬ number ∈ Books.issued { world.toBooks with db } := fresh
  rw [if_neg unused]
  split at taken
  · split at taken
    · cases taken
    · rename_i first
      cases taken
      exact ⟨_, if_neg first, db, gate, log, tables, same, rfl⟩
  · cases taken
    exact ⟨_, rfl, db, gate, log, tables, same, rfl⟩
  · cases taken

/-- A step that does not sweep, release or reach the gate is taken alike. -/
theorem Alike.step (alike : world.Alike other) (sound : world.db.Sound)
    (otherSound : other.db.Sound) (steady : action.steady = true)
    (waits : ∀ call ∈ world.calls, call.Waits)
    (taken : world.step action = some next) :
    ∃ after, other.step action = some after ∧ next.Alike after := by
  have whole := alike
  obtain ⟨db, gate, log, tables, same, rfl⟩ := alike
  cases action with
  | sweep | startRelease | flushall => cases steady
  | tick elapsed =>
      cases taken
      have passes : world.clock ≤ world.clock + elapsed :=
        Int.le_add_of_nonneg_right (Int.natCast_nonneg elapsed)
      exact ⟨_, rfl, db, gate, log, tables.mono passes, same, rfl⟩
  | startAcquire request =>
      simp only [World.step] at taken ⊢
      split at taken <;> cases taken
      · exact ⟨_, rfl, whole.note _⟩
      · exact ⟨_, rfl, whole.addCall _⟩
  | startPlace request =>
      simp only [World.step] at taken ⊢
      split at taken <;> cases taken
      · rename_i none
        exact ⟨_, if_pos none, whole.note _⟩
      · rename_i some
        exact ⟨_, if_neg some, whole.addCall _⟩
  | startReconcile olderThanSec batch =>
      cases taken
      have scanned :=
        tables.nextCandidate [] []
          (unresolvedOrders olderThanSec batch world.clock world.db)
      refine
        ⟨_, rfl, db, gate,
          log ++
            (Curtain.nextCandidate db [] []
              (unresolvedOrders olderThanSec batch world.clock db)).events,
          tables, ?_, ?_⟩
      · rw [told_append, same, tables.unresolvedOrders_eq, scanned.events]
        exact (told_append _ _).symm
      · simp only [tables.unresolvedOrders_eq, scanned.next]
  | startCancel orderId now =>
      simp only [World.step, tables.prepareCancel_eq] at taken ⊢
      split at taken <;> cases taken
      · exact ⟨_, rfl, whole.note _⟩
      · exact ⟨_, rfl, (whole.note _).addCall _⟩
  | webhook orderId pgTid =>
      simp only [World.step] at taken ⊢
      rcases (tables.confirmPaid sound otherSound orderId pgTid).both with
        ⟨error, left, right⟩ |
          ⟨⟨_, after⟩, ⟨_, otherAfter⟩, left, right, rfl, afters⟩
      · rw [left] at taken
        cases taken
        rw [right]
        exact ⟨_, rfl, whole.note _⟩
      · rw [left] at taken
        cases taken
        rw [right]
        have confirmed :
            World.Alike { world with db := after }
              { world with db := otherAfter, gate, log } :=
          ⟨otherAfter, gate, log, afters, same, rfl⟩
        exact ⟨_, rfl, confirmed.note _⟩
  | advance index =>
      obtain ⟨call, found, callTaken⟩ := Option.bind_eq_some_iff.mp taken
      obtain ⟨progress, advances, final⟩ :=
        Option.bind_eq_some_iff.mp callTaken
      cases final
      have advanced :=
        tables.advance sound otherSound (waits call (List.mem_of_getElem? found))
      rw [advances] at advanced
      obtain ⟨later, goes, progresses⟩ := exists_of_rel advanced
      refine ⟨_, ?_, whole.progress progresses index⟩
      simp [World.step, found, goes]
  | answer index attempt =>
      obtain ⟨call, found, callTaken⟩ := Option.bind_eq_some_iff.mp taken
      obtain ⟨progress, receives, final⟩ :=
        Option.bind_eq_some_iff.mp callTaken
      cases final
      have received := tables.receive attempt call
      rw [receives] at received
      obtain ⟨later, goes, progresses⟩ := exists_of_rel received
      refine ⟨_, ?_, whole.progress progresses index⟩
      simp [World.step, found, goes]
  | execute index number =>
      obtain ⟨call, found, callTaken⟩ := Option.bind_eq_some_iff.mp taken
      obtain ⟨after, executes, afters⟩ := whole.executeRequest callTaken
      refine ⟨after, ?_, afters⟩
      rw [← executes]
      simp [World.step, found]
  | gate index io =>
      obtain ⟨call, found, callTaken⟩ := Option.bind_eq_some_iff.mp taken
      obtain ⟨trip, travels, final⟩ := Option.bind_eq_some_iff.mp callTaken
      cases final
      cases beq_iff_eq.mp steady
      refine ⟨_, ?_, db, gate, log ++ trip.events, tables, ?_, rfl⟩
      · simp only [World.step, found, Option.bind_eq_bind, Option.bind_some]
        rw [gateTrip_unreachable world.gate gate, travels]
        rfl
      · rw [told_append, same]
        exact (told_append _ _).symm

/-! ## Orders that ask for live holds -/

theorem advance_waits {now : Time} {db : Db} {call later : Call}
    {progress : Progress} (waits : call.Waits)
    (advances : Curtain.advance now db call = some progress)
    (goesOn : progress.next = some later) :
    later.Waits := by
  cases call with
  | releasing => cases advances
  | acquiring request stage =>
      cases stage with
      | gating | ungating => cases advances
      | holding gated =>
          simp only [Curtain.advance, Curtain.advanceAcquire] at advances
          split at advances
          · cases advances
            cases goesOn
          · split at advances <;> cases advances <;> cases goesOn
            trivial
  | placing request stage =>
      cases stage with
      | approving => cases advances
      | opening | lookingUp =>
          simp only [Curtain.advance, Curtain.advancePlace] at advances
          split at advances <;> cases advances <;> cases goesOn <;> exact waits
      | polling =>
          simp only [Curtain.advance, Curtain.advancePlace] at advances
          split at advances
          · cases advances
            cases goesOn
          · cases advances
            cases goesOn
          · split at advances <;> cases advances <;> cases goesOn
            exact waits
      | settling stage =>
          simp only [Curtain.advance, Curtain.advancePlace,
            Option.map_eq_some_iff] at advances
          obtain ⟨⟨after, events, settled⟩, settles, rfl⟩ := advances
          cases settled <;> cases goesOn <;> exact waits
  | reconciling rest confirmed stage =>
      cases stage with
      | inquiring => cases advances
      | settling stage =>
          simp only [Curtain.advance, Curtain.advanceReconcile,
            Option.map_eq_some_iff] at advances
          obtain ⟨⟨after, events, settled⟩, settles, rfl⟩ := advances
          cases settled <;>
            first
            | (cases goesOn; trivial)
            | (cases rest <;> cases goesOn <;> trivial)
  | canceling cancellation stage =>
      cases stage with
      | refunding => cases advances
      | failing | closing =>
          simp only [Curtain.advance, Curtain.advanceCancel] at advances
          split at advances <;> cases advances <;> cases goesOn

theorem receive_waits {db : Db} {attempt : PayAttempt} {call later : Call}
    {progress : Progress} (waits : call.Waits)
    (receives : Curtain.receive db attempt call = some progress)
    (goesOn : progress.next = some later) :
    later.Waits := by
  cases receives_of_receive receives with
  | placeUnanswered | inquiryBroken => cases goesOn
  | placeDeclined | placeApproved | placeRefunded =>
      cases goesOn
      exact waits
  | @inquiryUnknown rest =>
      cases rest <;> cases goesOn
      trivial
  | inquiryApproved | inquiryDeclined | reconcileRefunded | cancelRefunded =>
      cases goesOn
      trivial

/-- The requests of the calls stay what they were. -/
theorem waits_step (waits : ∀ call ∈ world.calls, call.Waits)
    (asked : action.Asks PlaceRequest.Waits)
    (taken : world.step action = some next) :
    ∀ call ∈ next.calls, call.Waits := by
  have replaced {index : Nat} {after : Option Call}
      (goesOn : ∀ later, after = some later → later.Waits) :
      ∀ call ∈ replaceCall world.calls index after, call.Waits := by
    intro call member
    exact (mem_replaceCall member).elim (waits call) (goesOn call)
  cases step_moves taken with
  | stays calls => rwa [calls]
  | starts starts calls =>
      rw [calls]
      refine List.forall_mem_append.mpr ⟨waits, List.forall_mem_singleton.mpr ?_⟩
      cases action with
      | advance | execute | answer | gate => cases starts
      | tick | sweep | webhook | flushall => cases starts
      | startAcquire =>
          cases starts
          trivial
      | startPlace =>
          cases starts
          exact asked
      | startRelease =>
          obtain ⟨released, rfl⟩ := starts
          trivial
      | startReconcile =>
          obtain ⟨rest, orderId, rfl⟩ := starts
          trivial
      | startCancel =>
          obtain ⟨cancellation, rfl⟩ := starts
          trivial
  | advances found advances =>
      refine replaced fun later goesOn => ?_
      exact advance_waits (waits _ (List.mem_of_getElem? found)) advances goesOn
  | answers found receives =>
      refine replaced fun later goesOn => ?_
      exact receive_waits (waits _ (List.mem_of_getElem? found)) receives goesOn
  | executes found inFlight calls =>
      rw [calls]
      refine replaced ?_
      rintro _ ⟨⟩
      have own := waits _ (List.mem_of_getElem? found)
      cases refunds_of_refund inFlight with
      | placing => exact own
      | reconciling | canceling => trivial
  | travels found travels calls =>
      rw [calls]
      refine replaced fun later goesOn => ?_
      cases travels_of_gateTrip travels with
      | retried =>
          cases goesOn
          split <;> trivial
      | passed =>
          cases goesOn
          trivial
      | blocked | ungated | released => cases goesOn

/-! ## Without the sweep -/

/--
The second world is alike but for its calls, of which those that release may be
others.
-/
structure Unswept (world plain : World) : Prop where
  alike : world.Alike (plain.withCalls world.calls)
  calls : (world.calls.filter Call.lasting).Perm (plain.calls.filter Call.lasting)
  consistent : world.Consistent
  plain : plain.Consistent
  waits : ∀ call ∈ world.calls, call.Waits

section Unswept

variable {plain : World} {trusted : Bool} {index : Nat} {call : Call}

/-- Nobody sweeps, and no script reaches the gate. -/
def SweeplessContract (trusted : Bool) (world : World) (action : Action) : Prop :=
  GatelessContract trusted world action ∧ ∀ batch, action ≠ .sweep batch

theorem Alike.withCalls (alike : world.Alike other) (calls : List Call) :
    (world.withCalls calls).Alike (other.withCalls calls) := by
  obtain ⟨db, gate, log, tables, same, rfl⟩ := alike
  exact ⟨db, gate, log, tables, same, rfl⟩

theorem Alike.calls (alike : world.Alike other) : other.calls = world.calls := by
  obtain ⟨db, gate, log, tables, same, rfl⟩ := alike
  rfl

theorem Alike.truthful (alike : world.Alike other) (action : Action) :
    other.truthful action = world.truthful action := by
  obtain ⟨db, gate, log, tables, same, rfl⟩ := alike
  cases action <;> rfl

/-- What is left of the lasting calls when one of them goes on. -/
theorem exists_lasting {calls : List Call} (found : calls[index]? = some call)
    (lasts : call.lasting = true) :
    ∃ rest, (calls.filter Call.lasting).Perm (call :: rest) ∧
      ∀ next,
        ((replaceCall calls index next).filter Call.lasting).Perm
          (next.toList.filter Call.lasting ++ rest) := by
  obtain ⟨others, split, replaced⟩ := exists_others found
  have left := split.filter Call.lasting
  rw [List.filter_cons_of_pos lasts] at left
  refine ⟨_, left, fun next => ?_⟩
  rw [← List.filter_append]
  exact (replaced next).filter _

/-- The same call goes on in the other world. -/
theorem exists_twin {calls others : List Call}
    (perm : (calls.filter Call.lasting).Perm (others.filter Call.lasting))
    (found : calls[index]? = some call) (lasts : call.lasting = true) :
    ∃ place, others[place]? = some call ∧
      ∀ next,
        ((replaceCall calls index next).filter Call.lasting).Perm
          ((replaceCall others place next).filter Call.lasting) := by
  obtain ⟨rest, split, replaced⟩ := exists_lasting found lasts
  have member : call ∈ others.filter Call.lasting :=
    (split.symm.trans perm).mem_iff.mp List.mem_cons_self
  obtain ⟨place, there⟩ :=
    List.mem_iff_getElem?.mp (List.mem_filter.mp member).1
  obtain ⟨left, otherSplit, relocated⟩ := exists_lasting there lasts
  have same : rest.Perm left :=
    (split.symm.trans (perm.trans otherSplit)).cons_inv
  refine ⟨place, there, fun next => ?_⟩
  exact (replaced next).trans ((same.append_left _).trans (relocated next).symm)

theorem steady_at (action : Action) (index : Nat) :
    (action.at index).steady = action.steady := by
  cases action <;> rfl

theorem sweepless_of_steady (steady : action.steady = true)
    (truthful : Contract trusted world action) :
    SweeplessContract trusted world action := by
  refine ⟨⟨truthful, ?_⟩, ?_⟩
  · cases action <;> first | exact steady | rfl
  · rintro batch rfl
    cases steady

theorem Unswept.ofCall (related : Unswept world plain)
    (own : action.call? = some index)
    (found : world.calls[index]? = some call) (lasts : call.lasting = true)
    (steady : action.steady = true)
    (permitted : AskingGateless trusted PlaceRequest.Waits world action)
    (taken : world.step action = some next) :
    ∃ after, RunWhere World.step (SweeplessContract trusted) plain after ∧
      Unswept next after := by
  have consistent := related.consistent.step taken
  have waits := waits_step related.waits permitted.2 taken
  obtain ⟨place, there, replaced⟩ := exists_twin related.calls found lasts
  rw [step_of_call own, found, Option.bind_some] at taken
  obtain ⟨alone, ran, rfl⟩ := Option.map_eq_some_iff.mp taken
  obtain ⟨other, goes, after⟩ :=
    (related.alike.withCalls [call]).step related.consistent.sound
      related.plain.sound ((steady_at action 0).trans steady)
      (List.forall_mem_singleton.mpr
        (related.waits call (List.mem_of_getElem? found)))
      ran
  have stepped :
      plain.step (action.at place) =
        some
          (other.withCalls (replaceCall plain.calls place alone.calls.head?)) := by
    rw [step_of_call (call?_at own), at_at, there, Option.bind_some,
      ← after.calls]
    exact congrArg (Option.map _) goes
  have truthful : Contract trusted plain (action.at place) := by
    intro trust
    have same :=
      @truthful_at world action plain.calls index place own
        (there.trans found.symm)
    have twin := (related.alike.withCalls plain.calls).truthful (action.at place)
    exact twin.trans (same.trans (permitted.1.1 trust))
  exact
    ⟨_, .single (sweepless_of_steady ((steady_at action place).trans steady)
        truthful) stepped,
      { alike := after.withCalls _
        calls := replaced _
        consistent
        plain := related.plain.step stepped
        waits }⟩

/-- A step that starts a call or none. -/
theorem Unswept.ofStart (related : Unswept world plain)
    (own : action.call? = none) (steady : action.steady = true)
    (permitted : AskingGateless trusted PlaceRequest.Waits world action)
    (taken : world.step action = some next) :
    ∃ after, RunWhere World.step (SweeplessContract trusted) plain after ∧
      Unswept next after := by
  have consistent := related.consistent.step taken
  have waits := waits_step related.waits permitted.2 taken
  rw [step_of_none own] at taken
  obtain ⟨alone, ran, rfl⟩ := Option.map_eq_some_iff.mp taken
  obtain ⟨other, goes, after⟩ :=
    (related.alike.withCalls []).step related.consistent.sound
      related.plain.sound steady (by simp) ran
  have stepped :
      plain.step action =
        some (other.withCalls (plain.calls ++ alone.calls)) := by
    rw [step_of_none own, ← after.calls]
    exact congrArg (Option.map _) goes
  have truthful : Contract trusted plain action := by
    intro trust
    have same : plain.truthful action = world.truthful action := by
      have twin := (related.alike.withCalls []).truthful action
      cases action <;> cases own <;> exact twin
    exact same.trans (permitted.1.1 trust)
  refine
    ⟨_, .single (sweepless_of_steady steady truthful) stepped,
      { alike := after.withCalls _
        calls := ?_
        consistent
        plain := related.plain.step stepped
        waits }⟩
  show ((world.calls ++ alone.calls).filter _).Perm
    ((plain.calls ++ alone.calls).filter _)
  rw [List.filter_append, List.filter_append]
  exact related.calls.append_right _

/-- The sweep changes nothing that the other world would have to follow. -/
theorem Unswept.ofSweep (related : Unswept world plain) {batch : Nat}
    (taken : world.step (.sweep batch) = some next) :
    Unswept next plain := by
  have consistent := related.consistent.step taken
  cases taken
  obtain ⟨db, gate, log, tables, same, equal⟩ := related.alike
  refine { related with consistent, alike := ⟨db, gate, log, ?_, ?_, equal⟩ }
  · exact tables.sweep related.consistent.sound.rowUnique batch _
  · rw [same]
    exact ((told_append _ _).trans (List.append_nil _)).symm

/-- A release is made in both worlds, and either may have expired holds to free. -/
theorem startRelease_taken (world : World) (scheduleId userId : Nat)
    (seatIds : List Nat) :
    ∃ calls events,
      world.step (.startRelease scheduleId userId seatIds) =
          some
            { world with
              db := (releaseSeats scheduleId userId seatIds world.db).2
              calls
              log := world.log ++ events } ∧
        calls.filter Call.lasting = world.calls.filter Call.lasting ∧
          told events = [] := by
  by_cases none : (releaseSeats scheduleId userId seatIds world.db).1 = []
  · exact
      ⟨world.calls, [.releaseEnded scheduleId userId []], if_pos none, rfl, rfl⟩
  · refine
      ⟨world.calls ++
          [.releasing scheduleId userId
            (releaseSeats scheduleId userId seatIds world.db).1],
        [], (if_neg none).trans ?_, ?_, rfl⟩
    · rw [List.append_nil]
      rfl
    · rw [List.filter_append]
      exact List.append_nil _

theorem Unswept.ofRelease (related : Unswept world plain)
    {scheduleId userId : Nat} {seatIds : List Nat}
    (taken :
      world.step (.startRelease scheduleId userId seatIds) = some next) :
    ∃ after, RunWhere World.step (SweeplessContract trusted) plain after ∧
      Unswept next after := by
  have consistent := related.consistent.step taken
  have waits := waits_step related.waits (by trivial) taken
  obtain ⟨calls, events, equal, same, silent⟩ :=
    startRelease_taken world scheduleId userId seatIds
  obtain ⟨others, otherEvents, stepped, otherSame, otherSilent⟩ :=
    startRelease_taken plain scheduleId userId seatIds
  cases equal.symm.trans taken
  obtain ⟨db, gate, log, tables, past, twin⟩ := related.alike
  refine
    ⟨_, .single ⟨⟨fun _ => rfl, rfl⟩, by simp⟩ stepped,
      { alike := ⟨_, gate, log ++ otherEvents, tables.releaseHold _ _ _, ?_, ?_⟩
        calls := ?_
        consistent
        plain := related.plain.step stepped
        waits }⟩
  · rw [told_append, told_append, past, silent, otherSilent]
  · exact
      congrArg
        (fun other : World =>
          { other with
            db := (releaseSeats scheduleId userId seatIds other.db).2
            calls
            log := other.log ++ otherEvents })
        twin
  · exact same ▸ otherSame ▸ related.calls

/-- A release that comes to its end tells nothing. -/
theorem Unswept.ofReleased (related : Unswept world plain)
    {scheduleId userId : Nat} {released : List Nat}
    (found :
      world.calls[index]? = some (.releasing scheduleId userId released))
    (taken : world.step (.gate index .unreachable) = some next) :
    Unswept next plain := by
  have consistent := related.consistent.step taken
  have waits := waits_step related.waits (by trivial) taken
  obtain ⟨call, same, callTaken⟩ := Option.bind_eq_some_iff.mp taken
  cases found.symm.trans same
  cases callTaken
  obtain ⟨db, gate, log, tables, past, equal⟩ := related.alike
  refine
    { related with
      consistent, waits
      alike := ⟨db, gate, log, tables, ?_, ?_⟩
      calls := ?_ }
  · rw [past]
    exact ((told_append _ _).trans (List.append_nil _)).symm
  · exact congrArg (World.withCalls · _) equal
  · obtain ⟨others, split, replaced⟩ := exists_others found
    have before := split.filter Call.lasting
    have after := (replaced none).filter Call.lasting
    exact after.trans (before.symm.trans related.calls)

/-- A world without sweeps answers every step of one without a gate. -/
theorem unswept_simulates (trusted : Bool) :
    Simulates World.step (AskingGateless trusted PlaceRequest.Waits) World.step
      (SweeplessContract trusted) Unswept := by
  intro world action next plain related permitted taken
  cases own : action.call? with
  | none =>
      cases action with
      | advance | execute | answer | gate => cases own
      | flushall => cases permitted.1.2
      | sweep => exact ⟨plain, .refl, related.ofSweep taken⟩
      | startRelease => exact related.ofRelease taken
      | tick | startAcquire | startPlace | startReconcile | startCancel
        | webhook => exact related.ofStart rfl rfl permitted taken
  | some index =>
      obtain ⟨call, found, -⟩ :=
        Option.bind_eq_some_iff.mp ((step_of_call own).symm.trans taken)
      cases lasts : call.lasting with
      | true =>
          have steady : action.steady = true := by
            cases action with
            | advance | execute | answer => rfl
            | gate => exact permitted.1.2
            | _ => cases own
          exact related.ofCall own found lasts steady permitted taken
      | false =>
          cases call with
          | acquiring | placing | reconciling | canceling => cases lasts
          | releasing =>
              cases action with
              | advance =>
                  cases own
                  simp [World.step, found, Curtain.advance] at taken
              | execute =>
                  cases own
                  simp [World.step, found, World.executeRequest,
                    Call.approval?, Call.refund?] at taken
              | answer =>
                  cases own
                  simp [World.step, found, Curtain.receive] at taken
              | gate =>
                  cases own
                  cases beq_iff_eq.mp permitted.1.2
                  exact ⟨plain, .refl, related.ofReleased found taken⟩
              | _ => cases own

/--
The gate and the sweep decide nothing.  Whatever happens in a run happens at the
same time in one in which nobody sweeps and no script reaches the gate: the same
orders, items, payments and outbox, the same ledgers, the same stock but for
holds that have expired, and the same answers but to those who release and to
those who are turned away.
-/
theorem housekeeping_decides_nothing
    {inventory : Inventory} {startsAt : Nat → Policy.Datetime} {clock : Time}
    (run :
      RunWhere World.step (AskingContract trusted PlaceRequest.Waits)
        (initial inventory startsAt clock) world) :
    ∃ plain,
      RunWhere World.step (SweeplessContract trusted)
          (initial inventory startsAt clock) plain ∧
        plain.clock = world.clock ∧
        plain.db.lapsed world.clock = world.db.lapsed world.clock ∧
        plain.approvals = world.approvals ∧ plain.refunds = world.refunds ∧
        told plain.log = told world.log ∧
        ((world.calls.filterMap Call.ungated).filter Call.lasting).Perm
          (plain.calls.filter Call.lasting) := by
  let start := initial inventory startsAt clock
  have unguarded : Unguarded start.gate start start :=
    ⟨[], [], rfl, .refl _, rfl, by simp [start, initial]⟩
  obtain ⟨_, gatelessRun, calls, heard, rfl, perm, past, -⟩ :=
    (unguarded_simulates trusted PlaceRequest.Waits start.gate).run unguarded run
  have consistent : start.Consistent :=
    initial_consistent inventory startsAt clock
  have unswept : Unswept start start :=
    { alike := ⟨start.db, start.gate, start.log, .refl _ _, rfl, rfl⟩
      calls := .refl _
      consistent
      plain := consistent
      waits := by simp [start, initial] }
  obtain ⟨plain, plainRun, related⟩ :=
    (unswept_simulates trusted).run unswept gatelessRun
  obtain ⟨db, gate, log, tables, same, equal⟩ := related.alike
  have logged : plain.log = log := congrArg World.log equal
  have stored : plain.db = db := congrArg (·.db) equal
  have toldAlike : told heard = told world.log := by
    rw [← told_refuses heard, past, told_refuses]
  exact
    ⟨plain, plainRun, (congrArg World.clock equal :), stored ▸ tables.lapsed,
      (congrArg (·.approvals) equal :), (congrArg (·.refunds) equal :),
      logged ▸ same.trans toldAlike, (perm.filter _).trans related.calls⟩

/-- The hold of the first customer runs out and is swept, and another one buys. -/
def sweptHold : List Action :=
  [.startAcquire { scheduleId := 1, userId := 7, seatIds := [1] },
    .gate 0 .answered, .advance 0, .tick 600001, .sweep 500] ++
    Action.order 8 "key"

theorem housekeeping_decides_nothing_swept :
    ∃ world plain,
      RunWhere World.step (AskingContract true PlaceRequest.Waits) oneSeat world ∧
        (world.log.any (fun event => event matches .swept [(1, 1)]) &&
            world.db.orders.map (·.userId) == [8]) = true ∧
          RunWhere World.step (SweeplessContract true) oneSeat plain ∧
            plain.db.lapsed world.clock = world.db.lapsed world.clock := by
  obtain ⟨world, run, seen⟩ :=
    RunWhere.exists_of_checkedRun World.step
      (AskingContract true PlaceRequest.Waits) oneSeat sweptHold
      (fun world =>
        world.log.any (fun event => event matches .swept [(1, 1)]) &&
          world.db.orders.map (·.userId) == [8])
      (by decide)
  obtain ⟨plain, plainRun, -, same, -⟩ := housekeeping_decides_nothing run
  exact ⟨world, plain, run, seen, plainRun, same⟩

end Unswept

end World

end Curtain
