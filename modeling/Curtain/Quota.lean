import Curtain.Allocation
import Curtain.Locked

/-!
# The purchase limit

A user's seats of one schedule are the live holds and the seats that paid
orders have bought.  Of all transactions only a claim adds to their number.
Claims of one user for one schedule follow each other, since each begins with
the same advisory lock and keeps it to its end.  So the number that `hold_seats`
counts, from the start of its transaction, cannot be exceeded before the commit.
-/

namespace Curtain

open Queries Table HoldService OrderService

/-! ## The seats of a user -/

namespace Db

/-- A paid order of the user has an item for the row. -/
def boughtBy (db : Db) (userId : Nat) (row : ScheduleSeat) : Bool :=
  db.orderItems.any fun item =>
    item.scheduleSeatId == row.id &&
      db.orders.any fun order =>
        order.id == item.orderId && order.status == .paid &&
          order.userId == userId

/--
The seats of the schedule that the user holds at the instant, and the booked
ones that paid orders of the user have bought.
-/
def holding (scheduleId userId : Nat) (now : Time) (db : Db) : Nat :=
  (db.scheduleSeats.countP fun row =>
      row.scheduleId == scheduleId && heldLive userId now row) +
    db.scheduleSeats.countP fun row =>
      row.scheduleId == scheduleId &&
        (row.status == .booked && db.boughtBy userId row)

/-- The row is one of the user's seats. -/
def counts (db : Db) (scheduleId userId : Nat) (now : Time)
    (row : ScheduleSeat) : Bool :=
  row.scheduleId == scheduleId && heldLive userId now row ||
    row.scheduleId == scheduleId &&
      (row.status == .booked && db.boughtBy userId row)

variable {db after : Db} {scheduleId userId : Nat} {now : Time}
variable {row : ScheduleSeat}

theorem boughtBy_iff :
    db.boughtBy userId row = true ↔
      ∃ item ∈ db.orderItems, item.scheduleSeatId = row.id ∧
        ∃ order ∈ db.orders, order.id = item.orderId ∧
          order.status = .paid ∧ order.userId = userId := by
  simp [boughtBy, and_assoc]

theorem counts_iff :
    db.counts scheduleId userId now row = true ↔
      row.scheduleId = scheduleId ∧
        (heldLive userId now row = true ∨
          row.status = .booked ∧ db.boughtBy userId row = true) := by
  simp [counts, and_or_left]

/-- A seat is held or booked, not both. -/
theorem holding_eq (scheduleId userId : Nat) (now : Time) (db : Db) :
    db.holding scheduleId userId now =
      db.scheduleSeats.countP (db.counts scheduleId userId now) := by
  apply countP_add_countP
  intro row _ held
  have status : row.status = .held := by
    simp only [heldLive, Bool.and_eq_true, beq_iff_eq] at held
    exact held.2.1.1
  simp [status]

/-- The number only depends on the seats, the items and the paid orders. -/
theorem holding_le
    {condition : ScheduleSeat → Bool} {change : ScheduleSeat → ScheduleSeat}
    (seats : after.scheduleSeats = updateWhere condition change db.scheduleSeats)
    (kept :
      ∀ row ∈ db.scheduleSeats,
        after.counts scheduleId userId now
            (if condition row then change row else row) = true →
          db.counts scheduleId userId now row = true) :
    after.holding scheduleId userId now ≤
      db.holding scheduleId userId now := by
  rw [holding_eq, holding_eq, seats]
  exact countP_updateWhere_le kept

/-- Time only ends holds. -/
theorem holding_antitone {later : Time} (passes : now ≤ later) :
    db.holding scheduleId userId later ≤ db.holding scheduleId userId now := by
  rw [holding_eq, holding_eq]
  apply List.countP_mono_left
  intro row _ counted
  obtain ⟨schedule, held | bought⟩ := counts_iff.mp counted
  · refine counts_iff.mpr ⟨schedule, Or.inl ?_⟩
    simp only [heldLive, Bool.and_eq_true, Option.any_eq_true,
      decide_eq_true_eq] at held ⊢
    obtain ⟨own, expiresAt, expiry, live⟩ := held
    exact ⟨own, expiresAt, expiry, lt_of_le_of_lt passes live⟩
  · exact counts_iff.mpr ⟨schedule, Or.inr bought⟩

/-- The user has no more seats after the transaction than before. -/
def NoMore (now : Time) (db after : Db) : Prop :=
  ∀ scheduleId userId,
    after.holding scheduleId userId now ≤ db.holding scheduleId userId now

/-- Making seats available, without a new paid order. -/
theorem noMore_of_available
    {condition : ScheduleSeat → Bool} {change : ScheduleSeat → ScheduleSeat}
    (seats : after.scheduleSeats = updateWhere condition change db.scheduleSeats)
    (available : ∀ row, (change row).status = .available)
    (items : after.orderItems = db.orderItems)
    (paid : ∀ order ∈ after.orders, order.status = .paid → order ∈ db.orders) :
    NoMore now db after := by
  intro scheduleId userId
  refine holding_le seats ?_
  intro row _ counted
  obtain ⟨schedule, held⟩ := counts_iff.mp counted
  cases touched : condition row with
  | true =>
      rw [touched, if_pos rfl] at held
      simp [heldLive, available] at held
  | false =>
      rw [touched, if_neg Bool.false_ne_true] at schedule held
      refine counts_iff.mpr ⟨schedule, ?_⟩
      rcases held with held | ⟨booked, bought⟩
      · exact Or.inl held
      · obtain ⟨item, itemMember, seat, order, orderMember, owns, settled,
          user⟩ := boughtBy_iff.mp bought
        rw [items] at itemMember
        exact
          Or.inr
            ⟨booked,
              boughtBy_iff.mpr
                ⟨item, itemMember, seat, order, paid order orderMember settled,
                  owns, settled, user⟩⟩

end Db

/-! ## Whole transactions -/

section Whole

variable {db after : Db} {now : Time}

/-- Leaving the seats as they are, without a new paid order. -/
theorem Db.noMore_of_same
    (seats : after.scheduleSeats = db.scheduleSeats)
    (items : after.orderItems = db.orderItems)
    (paid : ∀ order ∈ after.orders, order.status = .paid → order ∈ db.orders) :
    Db.NoMore now db after := by
  have updated :
      after.scheduleSeats =
        updateWhere (fun _ => false) free db.scheduleSeats := by
    rw [seats, updateWhere_false]
  exact Db.noMore_of_available updated (fun _ => rfl) items paid

theorem Db.noMore_refl : Db.NoMore now db db :=
  fun _ _ => le_rfl

theorem Db.noMore_updateSeats_free (condition : ScheduleSeat → Bool) :
    Db.NoMore now db (db.updateSeats condition free) :=
  Db.noMore_of_available rfl (fun _ => rfl) rfl fun _ member _ => member

theorem noMore_sweepExpired (unique : Unique ScheduleSeat.id db.scheduleSeats)
    (batch : Nat) (locked : Nat → Bool) :
    Db.NoMore now db (HoldService.sweepExpired batch locked now db).2 := by
  obtain ⟨condition, -, equal⟩ := sweepExpired_snd unique now batch locked
  rw [equal]
  exact Db.noMore_updateSeats_free condition

theorem noMore_closeUnpaid {orderId : Nat} {status : OrderStatus}
    (final : status = .failed ∨ status = .canceled)
    (ok : OrderService.closeUnpaid orderId status db = .ok after) :
    Db.NoMore now db after := by
  have unpaid : status ≠ .paid := by
    rcases final with rfl | rfl <;> decide
  rcases closeUnpaid_ok ok with rfl | ⟨order, -, -, -, rfl⟩
  · exact Db.noMore_refl
  · exact
      Db.noMore_of_available rfl (fun _ => rfl) rfl fun _ member paid =>
        paid_markOrder unpaid member paid

theorem noMore_recordRefund {order : Order} {total : Int} {attempt : PayAttempt}
    (ok : OrderService.recordRefund order total attempt db = .ok after) :
    Db.NoMore now db after := by
  obtain ⟨middle, inserted, rfl⟩ := recordRefund_ok ok
  obtain ⟨-, rfl⟩ := insertPayment_ok.mp inserted
  split
  · exact
      Db.noMore_of_available rfl (fun _ => rfl) rfl fun row member paid =>
        paid_markOrder (by decide) member paid
  · exact Db.noMore_of_same rfl rfl fun _ member _ => member

theorem noMore_closeCanceled {cancellation : Cancellation} {attempt : PayAttempt}
    (ok : OrderService.closeCanceled cancellation attempt db = .ok after) :
    Db.NoMore now db after := by
  rcases closeCanceled_ok ok with ⟨rfl, -⟩ | ⟨-, refunded, inserted, rfl⟩
  · exact Db.noMore_refl
  · obtain ⟨-, rfl⟩ := insertPayment_ok.mp inserted
    exact
      Db.noMore_of_available rfl (fun _ => rfl) rfl fun row member paid =>
        paid_markOrder (by decide) member paid

/-- A confirmation turns live holds of the buyer into bought seats. -/
theorem Confirmed.noMore {order : Order} {pgTid : String}
    (confirmed : Confirmed order pgTid now db after) (sound : db.Sound) :
    Db.NoMore now db after := by
  intro scheduleId userId
  have noItems :=
    sound.item_of_unconfirmed confirmed.member (confirmed.unanswered sound)
  refine Db.holding_le (confirmed.scheduleSeats sound) ?_
  intro row member counted
  obtain ⟨schedule, held⟩ := Db.counts_iff.mp counted
  cases claim : isClaim order.scheduleId order.userId order.seatIds now row with
  | true =>
      rw [claim, if_pos rfl] at schedule held
      rcases held with held | ⟨-, bought⟩
      · simp [heldLive, book] at held
      · obtain ⟨item, itemMember, seat, owner, ownerMember, owns, paid, user⟩ :=
          Db.boughtBy_iff.mp bought
        -- The item of a claimed row is the one that the confirmation inserts.
        have inserted : order.item row.stock ∈ after.orderItems := by
          rw [confirmed.orderItems]
          exact
            List.mem_append_right _
              (Confirmed.mem_claims.mpr ⟨row, member, claim, rfl⟩)
        have same : item = order.item row.stock :=
          (confirmed.sound_after sound).item_eq itemMember inserted seat
        have ownerId : owner.id = order.id := by rw [owns, same]; rfl
        have buyer : order.userId = userId := by
          rcases (confirmed.mem_orders sound).mp ownerMember with
            rfl | ⟨-, different⟩
          · exact user
          · exact absurd ownerId different
        simp only [isClaim, Bool.and_eq_true] at claim
        exact Db.counts_iff.mpr ⟨schedule, Or.inl (buyer ▸ claim.2)⟩
  | false =>
      rw [claim, if_neg Bool.false_ne_true] at schedule held
      refine Db.counts_iff.mpr ⟨schedule, ?_⟩
      rcases held with held | ⟨booked, bought⟩
      · exact Or.inl held
      · refine Or.inr ⟨booked, Db.boughtBy_iff.mpr ?_⟩
        obtain ⟨item, itemMember, seat, owner, ownerMember, owns, paid, user⟩ :=
          Db.boughtBy_iff.mp bought
        rw [confirmed.orderItems] at itemMember
        rcases List.mem_append.mp itemMember with old | new
        · rcases (confirmed.mem_orders sound).mp ownerMember with
            rfl | ⟨oldOwner, -⟩
          · exact absurd owns.symm (noItems item old)
          · exact ⟨item, old, seat, owner, oldOwner, owns, paid, user⟩
        · obtain ⟨claimed, claimedMember, claims, rfl⟩ :=
            Confirmed.mem_claims.mp new
          have same : claimed = row :=
            sound.rowUnique.eq claimedMember member seat
          rw [same, claim] at claims
          cases claims

/-- Of the transactions that run as a whole, none adds to anybody's seats. -/
theorem Work.noMore {work : Work} {locked : Nat → Bool} (sound : db.Sound)
    (admissible : work.admissible = true)
    (claimsNothing : ∀ request, work ≠ .acquire request)
    (ok : work.run locked now db = .ok after) :
    Db.NoMore now db after := by
  cases work with
  | acquire request => exact absurd rfl (claimsNothing request)
  | release scheduleId userId seatIds =>
      cases ok
      exact Db.noMore_updateSeats_free _
  | sweepExpired batch =>
      cases ok
      exact noMore_sweepExpired sound.rowUnique batch locked
  | confirmPaid orderId pgTid =>
      cases confirmed : OrderService.confirmPaid orderId pgTid now db with
      | error error => rw [Work.run, confirmed] at ok; cases ok
      | ok result =>
          obtain ⟨byThisCall, written⟩ := result
          rw [Work.run, confirmed] at ok
          cases ok
          cases byThisCall with
          | true =>
              obtain ⟨order, -, confirmed⟩ := confirmPaid_true confirmed
              exact confirmed.noMore sound
          | false =>
              rw [confirmPaid_false confirmed]
              exact Db.noMore_refl
  | closeUnpaid orderId status =>
      have final : status = .failed ∨ status = .canceled := by
        simpa [Work.admissible] using admissible
      exact noMore_closeUnpaid final ok
  | recordRefund orderId total attempt =>
      obtain ⟨order, -, recorded⟩ := bind_eq_ok.mp ok
      exact noMore_recordRefund recorded
  | closeCanceled cancellation attempt => exact noMore_closeCanceled ok

theorem Work.sound_after {work : Work} {locked : Nat → Bool} (sound : db.Sound)
    (admissible : work.admissible = true)
    (ok : work.run locked now db = .ok after) :
    after.Sound := by
  cases work with
  | acquire request =>
      cases acquired : acquireSeats request now db with
      | error error => rw [Work.run, acquired] at ok; cases ok
      | ok result =>
          rw [Work.run, acquired] at ok
          cases ok
          exact sound.acquireSeats acquired
  | release scheduleId userId seatIds =>
      cases ok
      exact sound.freeHolds _ _ _
  | sweepExpired batch =>
      cases ok
      exact sound.sweepExpired batch locked
  | confirmPaid orderId pgTid =>
      cases confirmed : OrderService.confirmPaid orderId pgTid now db with
      | error error => rw [Work.run, confirmed] at ok; cases ok
      | ok result =>
          obtain ⟨byThisCall, written⟩ := result
          rw [Work.run, confirmed] at ok
          cases ok
          cases byThisCall with
          | true =>
              obtain ⟨order, -, confirmed⟩ := confirmPaid_true confirmed
              exact confirmed.sound_after sound
          | false =>
              rw [confirmPaid_false confirmed]
              exact sound
  | closeUnpaid orderId status =>
      have final : status = .failed ∨ status = .canceled := by
        simpa [Work.admissible] using admissible
      exact sound.closeUnpaid final ok
  | recordRefund orderId total attempt =>
      obtain ⟨order, -, recorded⟩ := bind_eq_ok.mp ok
      exact sound.recordRefund recorded
  | closeCanceled cancellation attempt => exact sound.closeCanceled ok

end Whole

/-! ## Claims -/

section Claims

variable {db : Db} {scheduleId userId : Nat} {now clock : Time}

/-- The outer joins of `owned` have one line for each row. -/
theorem owned_lines_eq
    (itemUnique : Unique OrderItem.scheduleSeatId db.orderItems)
    (orderUnique : Unique Order.id db.orders) :
    owned scheduleId userId now db =
      db.scheduleSeats.countP fun row =>
        row.scheduleId == scheduleId &&
          (heldLive userId now row ||
            (row.status == .booked &&
              (db.orders.find? fun order =>
                (db.orderItems.find? fun item =>
                  item.scheduleSeatId == row.id).any
                    (fun item => order.id == item.orderId) &&
                  order.status == .paid).any (·.userId == userId))) := by
  have oneItem :
      ∀ row ∈ db.scheduleSeats,
        (db.orderItems.filter fun item =>
          item.scheduleSeatId == row.id).length ≤ 1 :=
    fun row _ => itemUnique.filter_length_le row.id
  have oneOrder :
      ∀ line : ScheduleSeat × Option OrderItem,
        (db.orders.filter fun order =>
          line.2.any (fun item => order.id == item.orderId) &&
            order.status == .paid).length ≤ 1 := by
    rintro ⟨row, _ | item⟩
    · simp
    · refine le_trans ?_ (orderUnique.filter_length_le item.orderId)
      apply List.Sublist.length_le
      apply List.monotone_filter_right
      intro order both
      simp only [Option.any_some, Bool.and_eq_true, beq_iff_eq] at both
      simpa using both.1
  rw [owned, ownedLines, leftJoin_of_functional _ _ _ oneItem,
    leftJoin_of_functional _ _ _ fun line _ => oneOrder line,
    ← List.countP_eq_length_filter, List.countP_map, List.countP_map]
  rfl

/-- The order that the joins find for a row is a paid order that has an item for it. -/
theorem find_buyer
    (itemUnique : Unique OrderItem.scheduleSeatId db.orderItems)
    (orderUnique : Unique Order.id db.orders) (row : ScheduleSeat) :
    ((db.orders.find? fun order =>
        (db.orderItems.find? fun item => item.scheduleSeatId == row.id).any
            (fun item => order.id == item.orderId) &&
          order.status == .paid).any (·.userId == userId)) =
      db.boughtBy userId row := by
  rw [Bool.eq_iff_iff, Db.boughtBy_iff]
  constructor
  · intro found
    obtain ⟨order, search, user⟩ := (Option.any_eq_true _ _).mp found
    have meets := List.find?_some search
    simp only [Bool.and_eq_true, beq_iff_eq] at meets user
    obtain ⟨item, itemSearch, owns⟩ := (Option.any_eq_true _ _).mp meets.1
    have seat := List.find?_some itemSearch
    exact
      ⟨item, List.mem_of_find?_eq_some itemSearch, by simpa using seat,
        order, List.mem_of_find?_eq_some search, by simpa using owns,
        meets.2, user⟩
  · rintro ⟨item, itemMember, seat, order, orderMember, owns, paid, user⟩
    have foundItem :
        (db.orderItems.find? fun item => item.scheduleSeatId == row.id) =
          some item :=
      (lookup_eq_some itemUnique).mpr ⟨itemMember, seat⟩
    have foundOrder :
        (db.orders.find? fun other =>
          other.id == item.orderId && other.status == .paid) = some order := by
      cases found : db.orders.find? fun other =>
          other.id == item.orderId && other.status == .paid with
      | none =>
          have absent := List.find?_eq_none.mp found order orderMember
          simp [owns, paid] at absent
      | some other =>
          have matching := List.find?_some found
          simp only [Bool.and_eq_true, beq_iff_eq] at matching
          rw [orderUnique.eq (List.mem_of_find?_eq_some found) orderMember
            (matching.1.trans owns.symm)]
    simp [foundItem, foundOrder, user]

/-- `owned` counts every seat of the user once, and no other seat. -/
theorem owned_eq
    (itemUnique : Unique OrderItem.scheduleSeatId db.orderItems)
    (orderUnique : Unique Order.id db.orders) :
    owned scheduleId userId now db = db.holding scheduleId userId now := by
  rw [owned_lines_eq itemUnique orderUnique, Db.holding_eq]
  apply List.countP_congr
  intro row _
  rw [find_buyer itemUnique orderUnique, Db.counts, Bool.and_or_distrib_left]

/-- What `hold_seats` counts at its transaction's start covers what the user has later. -/
theorem holding_le_owned (sound : db.Sound) (passes : now ≤ clock) :
    db.holding scheduleId userId clock ≤ owned scheduleId userId now db := by
  rw [owned_eq sound.itemUnique sound.orderIdUnique]
  exact Db.holding_antitone passes

end Claims

/-! ## Claims among whole transactions -/

/--
A claim goes statement by statement; the other transactions that write seats
run as a whole.
-/
inductive MixedAction where
  | session (action : Server.Action)
  | whole (work : Work)
deriving DecidableEq, Repr

/-- The limit under which a claim begins. -/
def MixedAction.limit : MixedAction → Option Nat
  | .session (.begin _ (.acquire request)) => some request.maxSeats
  | _ => none

/-- No session begins but for a claim. -/
def Server.Action.claims : Server.Action → Bool
  | .begin _ (.acquire _) => true
  | .begin _ _ => false
  | _ => true

namespace Server

/-- A transaction in progress has locked the row. -/
def seatLocked (server : Server) (id : Nat) : Bool :=
  server.locks.any fun lock => lock.resource == .seat id

/-- No locked row changes; a transaction that writes one waits for its lock. -/
def undisturbed (server : Server) (after : Db) : Bool :=
  server.db.scheduleSeats.all fun row =>
    after.scheduleSeats.contains row || !server.seatLocked row.id

/-- A transaction from its start to its end, at one instant. -/
def whole (server : Server) (work : Work) : Option Server :=
  match work.run server.seatLocked server.clock server.db with
  | .ok after =>
      if server.undisturbed after then some { server with db := after } else none
  | .error _ => some server

def mixed (hashtext : String → Int) (server : Server) :
    MixedAction → Option Server
  | .session action =>
      if action.claims then server.step hashtext action else none
  | .whole (.acquire _) => none
  | .whole work => if work.admissible then server.whole work else none

/-- Every claim is made under the same limit. -/
def limited (maxSeats : Nat) (_ : Server) (action : MixedAction) : Prop :=
  ∀ limit ∈ action.limit, limit = maxSeats

instance (maxSeats : Nat) (server : Server) (action : MixedAction) :
    Decidable (server.limited maxSeats action) :=
  inferInstanceAs (Decidable (∀ limit ∈ action.limit, limit = maxSeats))

end Server

/-! ## What a claim in progress relies on -/

section Metered

variable (hashtext : String → Int) (maxSeats : Nat) (db : Db)
variable (locks : LockTable) (clock : Time) (session : Nat) (now : Time)

/-- The advisory lock of the user and the schedule. -/
def quotaLock (request : AcquireRequest) : Locks.Lock Nat Resource LockMode where
  session := session
  resource :=
    .quota (hashtext (quotaKey request.scheduleId request.userId))
  mode := .forUpdate

/-- The seats of the claim's user. -/
def seatsFor (request : AcquireRequest) : Nat :=
  db.holding request.scheduleId request.userId clock

/-- What holds of a claim at each of its stages; there is no other session. -/
def Stage.Metered : Stage → Prop
  | .quota request => request.maxSeats = maxSeats
  | .selecting (.holdSeats request) =>
      request.maxSeats = maxSeats ∧ quotaLock hashtext session request ∈ locks
  | .locking (.holdSeats request) scan =>
      request.maxSeats = maxSeats ∧ quotaLock hashtext session request ∈ locks ∧
        seatsFor db clock request ≤ scan.owned ∧
        ∀ id ∈ scan.taken, Taken db locks session now (.holdSeats request) id
  | .writing (.holdSeats request) rows =>
      quotaLock hashtext session request ∈ locks ∧
        seatsFor db clock request + rows.length ≤ maxSeats ∧
        ∀ id ∈ rows, Taken db locks session now (.holdSeats request) id
  | _ => False

def Next.Metered : Next → Prop
  | .stage later =>
      later.Metered hashtext maxSeats db locks clock session now
  | .grant resource mode later =>
      later.Metered hashtext maxSeats db
        ({ session, resource, mode } :: locks) clock session now
  | .ended => True

end Metered

section Metered

variable {hashtext : String → Int} {maxSeats : Nat} {db after : Db}
variable {locks left : LockTable} {clock later : Time} {session : Nat}
variable {now : Time}

/-- What the others do leaves a claim alone. -/
theorem Stage.Metered.mono {stage : Stage}
    (metered : stage.Metered hashtext maxSeats db locks clock session now)
    (keeps : ∀ lock ∈ locks, lock.session = session → lock ∈ left)
    (rows :
      ∀ row ∈ db.scheduleSeats,
        { session, resource := .seat row.id, mode := .forUpdate } ∈ locks →
          row ∈ after.scheduleSeats)
    (noMore :
      ∀ request, quotaLock hashtext session request ∈ locks →
        seatsFor after later request ≤ seatsFor db clock request) :
    stage.Metered hashtext maxSeats after left later session now := by
  cases stage with
  | quota request => exact metered
  | selecting statement =>
      cases statement with
      | holdSeats request => exact ⟨metered.1, keeps _ metered.2 rfl⟩
      | releaseHold | sweepExpiredHolds | bookOrderSeats | restoreOrderSeats =>
          exact metered
  | locking statement scan =>
      cases statement with
      | holdSeats request =>
          obtain ⟨limit, locked, counted, taken⟩ := metered
          exact
            ⟨limit, keeps _ locked rfl, (noMore request locked).trans counted,
              fun id member => (taken id member).mono keeps rows⟩
      | releaseHold | sweepExpiredHolds | bookOrderSeats | restoreOrderSeats =>
          exact metered
  | writing statement ids =>
      cases statement with
      | holdSeats request =>
          obtain ⟨locked, counted, taken⟩ := metered
          exact
            ⟨keeps _ locked rfl,
              (Nat.add_le_add_right (noMore request locked) _).trans counted,
              fun id member => (taken id member).mono keeps rows⟩
      | releaseHold | sweepExpiredHolds | bookOrderSeats | restoreOrderSeats =>
          exact metered
  | confirming | claiming | inserting | referencing | closing | refunding
  | canceling =>
      exact metered

/-- `hold_seats` writes all that it has locked, within the limit. -/
theorem rows_holdSeats {request : AcquireRequest} {scan : Scan} {rows : List Nat}
    (found : (SeatStatement.holdSeats request).rows scan = some rows) :
    rows = scan.taken ∧ scan.owned + rows.length ≤ request.maxSeats := by
  dsimp only [SeatStatement.rows] at found
  split at found
  · rename_i passed
    split at found
    · cases found
    · cases found
      simp only [Queries.guard, Bool.and_eq_true, beq_iff_eq, decide_eq_true_eq]
        at passed
      exact ⟨rfl, by rw [passed.1]; exact passed.2⟩
  · simp at found

theorem Stage.concluded_metered {request : AcquireRequest} {scan : Scan}
    (metered :
      (Stage.locking (.holdSeats request) scan).Metered hashtext maxSeats db
        locks clock session now) :
    (Stage.concluded (.holdSeats request) scan).Metered hashtext maxSeats db
      locks clock session now := by
  obtain ⟨limit, locked, counted, taken⟩ := metered
  rw [Stage.concluded]
  cases found : (SeatStatement.holdSeats request).rows scan with
  | none => trivial
  | some rows =>
      obtain ⟨rfl, within⟩ := rows_holdSeats found
      rw [limit] at within
      exact
        ⟨locked, (Nat.add_le_add_right counted _).trans within, taken⟩

/-- The next stage of a claim. -/
theorem Stage.next_metered {available : Resource → LockMode → Bool}
    {stage : Stage} {next : Next} (sound : db.Sound) (started : now ≤ clock)
    (metered : stage.Metered hashtext maxSeats db locks clock session now)
    (taken : stage.next hashtext available now db = some next) :
    next.Metered hashtext maxSeats db locks clock session now := by
  have granted :
      ∀ {stage : Stage} (lock : Locks.Lock Nat Resource LockMode),
        stage.Metered hashtext maxSeats db locks clock session now →
          stage.Metered hashtext maxSeats db (lock :: locks) clock session now :=
    fun lock metered =>
      metered.mono (fun _ held _ => List.mem_cons_of_mem lock held)
        (fun _ member _ => member) fun _ _ => le_rfl
  cases Stage.moves_of_next taken with
  | ended => trivial
  | claims => exact ⟨metered, List.mem_cons_self⟩
  | @selects statement =>
      cases statement with
      | holdSeats request =>
          exact
            ⟨metered.1, metered.2, holding_le_owned sound started,
              by simp [SeatStatement.scan]⟩
      | releaseHold | sweepExpiredHolds | bookOrderSeats | restoreOrderSeats =>
          exact metered.elim
  | @locks statement scan next locks =>
      cases statement with
      | holdSeats request =>
          cases locks with
          | concluded => exact Stage.concluded_metered metered
          | skipped listed skips => exact metered
          | dropped listed => exact granted _ metered
          | @taken row rest listed member meets =>
              obtain ⟨limit, locked, counted, old⟩ := granted _ metered
              refine ⟨limit, locked, counted, ?_⟩
              intro other otherMember
              rcases List.mem_append.mp otherMember with before | new
              · exact old other before
              · rw [List.mem_singleton.mp new]
                exact ⟨List.mem_cons_self, row, member, rfl, meets⟩
      | releaseHold | sweepExpiredHolds | bookOrderSeats | restoreOrderSeats =>
          exact metered.elim
  | confirms | claimed | inserts | inserted | refers | referred | closes
  | refunds | refundsSettled | refundFails | cancels =>
      exact metered.elim

/-- A claim adds the rows it writes to the seats of its user, and to nobody else's. -/
theorem holding_claimed {request : AcquireRequest} {rows : List Nat}
    (sound : db.Sound)
    (taken :
      ∀ id ∈ rows, Taken db locks session now (.holdSeats request) id)
    (clock : Time) (scheduleId userId : Nat) :
    ((SeatStatement.holdSeats request).write now rows db).holding scheduleId
        userId clock ≤
      if scheduleId = request.scheduleId ∧ userId = request.userId then
        seatsFor db clock request + rows.length
      else db.holding scheduleId userId clock := by
  split
  · rename_i own
    obtain ⟨rfl, rfl⟩ := own
    rw [seatsFor, Db.holding_eq, Db.holding_eq]
    refine
      le_trans (countP_updateWhere_le_add fun row _ _ counted => counted)
        (Nat.add_le_add_left (sound.rowUnique.countP_contains_le rows) _)
  · rename_i others
    refine Db.holding_le rfl ?_
    intro row member counted
    split at counted
    · rename_i written
      obtain ⟨-, suited, suitedMember, equal, target⟩ :=
        taken row.id (List.contains_iff_mem.mp written)
      have same : suited = row :=
        sound.rowUnique.eq suitedMember member equal
      simp only [SeatStatement.Suits, isTarget, Bool.and_eq_true,
        beq_iff_eq] at target
      obtain ⟨schedule, held | ⟨booked, -⟩⟩ := Db.counts_iff.mp counted
      · simp only [SeatStatement.change, hold, heldLive, Bool.and_eq_true,
          beq_iff_eq, Option.some.injEq] at schedule held
        refine absurd ⟨?_, held.1.2.symm⟩ others
        rw [← schedule, ← same]
        exact target.1.1
      · simp [SeatStatement.change, hold] at booked
    · exact counted

end Metered

namespace Server

/-- Everybody is within the limit, and no claim in progress can change that. -/
structure Metered (hashtext : String → Int) (maxSeats : Nat)
    (server : Server) : Prop where
  compatible : Locks.Compatible LockMode.conflicts server.locks
  started :
    ∀ session current, server.sessions session = some current →
      current.startedAt ≤ server.clock
  sound : server.db.Sound
  within :
    ∀ scheduleId userId,
      server.db.holding scheduleId userId server.clock ≤ maxSeats
  paced :
    ∀ session current, server.sessions session = some current →
      current.stage.Metered hashtext maxSeats server.db server.locks
        server.clock session current.startedAt

namespace Metered

variable {hashtext : String → Int} {maxSeats : Nat} {server next : Server}
variable {session : Nat} {current : Session}

theorem initial
    (inventory : Inventory) (startsAt : Nat → Policy.Datetime) (clock : Time) :
    (Server.initial inventory startsAt clock).Metered hashtext maxSeats where
  compatible := .nil
  started := by simp [Server.initial]
  sound := World.initial_sound inventory startsAt clock
  within := by
    intro scheduleId userId
    rw [Db.holding_eq, List.countP_eq_zero.mpr]
    · exact Nat.zero_le _
    · intro row member
      have available := (inventory.available row member).1
      simp [Db.counts, heldLive, available]
  paced := by simp [Server.initial]

/-- The end of a claim that has written nothing. -/
theorem finish (metered : server.Metered hashtext maxSeats) (session : Nat) :
    (server.finish session).Metered hashtext maxSeats where
  compatible := metered.compatible.release session
  started := each_finish metered.started fun _ _ _ started => started
  sound := metered.sound
  within := metered.within
  paced :=
    each_finish metered.paced fun _ _ different paced =>
      paced.mono (mem_release_of_ne different) (fun _ member _ => member)
        fun _ _ => le_rfl

theorem put (metered : server.Metered hashtext maxSeats)
    (session : Nat) (current : Session)
    (started : current.startedAt ≤ server.clock) {locks : LockTable}
    (compatible : Locks.Compatible LockMode.conflicts locks)
    (kept : ∀ lock ∈ server.locks, lock ∈ locks)
    (paced :
      current.stage.Metered hashtext maxSeats server.db locks server.clock
        session current.startedAt) :
    ({ server.put session current with locks } : Server).Metered hashtext
      maxSeats where
  compatible := compatible
  started := each_put metered.started started fun _ _ started => started
  sound := metered.sound
  within := metered.within
  paced :=
    each_put metered.paced paced fun _ _ paced =>
      paced.mono (fun lock held _ => kept lock held) (fun _ member _ => member)
        fun _ _ => le_rfl

/-- A step outside the claims that adds to nobody's seats and spares locked rows. -/
theorem written (metered : server.Metered hashtext maxSeats) {after : Db}
    (sound : after.Sound) (noMore : Db.NoMore server.clock server.db after)
    (spares :
      ∀ row ∈ server.db.scheduleSeats, server.seatLocked row.id = true →
        row ∈ after.scheduleSeats) :
    ({ server with db := after } : Server).Metered hashtext maxSeats where
  compatible := metered.compatible
  started := metered.started
  sound := sound
  within := fun scheduleId userId =>
    (noMore scheduleId userId).trans (metered.within scheduleId userId)
  paced := by
    intro session current found
    refine
      (metered.paced session current found).mono (fun _ held _ => held) ?_
        fun request _ => noMore request.scheduleId request.userId
    intro row member locked
    refine spares row member (List.any_eq_true.mpr ⟨_, locked, ?_⟩)
    simp

theorem whole (metered : server.Metered hashtext maxSeats) {work : Work}
    (admissible : work.admissible = true)
    (claimsNothing : ∀ request, work ≠ .acquire request)
    (taken : server.whole work = some next) :
    next.Metered hashtext maxSeats := by
  simp only [Server.whole] at taken
  split at taken
  · rename_i after ok
    split at taken
    · rename_i undisturbed
      cases taken
      refine
        metered.written (Work.sound_after metered.sound admissible ok)
          (Work.noMore metered.sound admissible claimsNothing ok) ?_
      intro row member locked
      have kept := List.all_eq_true.mp undisturbed row member
      simpa [locked] using kept
    · cases taken
  · cases taken
    exact metered

/-- The commit of a claim. -/
theorem commit (metered : server.Metered hashtext maxSeats)
    (found : server.sessions session = some current)
    {request : AcquireRequest} {rows : List Nat}
    (writing : current.stage = .writing (.holdSeats request) rows) :
    ({ server.finish session with
        db :=
          (SeatStatement.holdSeats request).write current.startedAt rows
            server.db } : Server).Metered hashtext maxSeats := by
  have finished := metered.finish session
  have paced := metered.paced session current found
  rw [writing] at paced
  obtain ⟨locked, counted, taken⟩ := paced
  have claimed := holding_claimed metered.sound taken server.clock
  refine
    { compatible := finished.compatible
      started := finished.started
      sound := ?_
      within := ?_
      paced := ?_ }
  · refine
      metered.sound.updateSeats (hold_stock _ _) ?_ fun row => by
        simp [SeatStatement.change, hold]
    intro row member written
    obtain ⟨-, suited, suitedMember, equal, target⟩ :=
      taken row.id (List.contains_iff_mem.mp written)
    have same : suited = row :=
      metered.sound.rowUnique.eq suitedMember member equal
    rw [← same]
    exact isTarget_unbooked target
  · intro scheduleId userId
    refine (claimed scheduleId userId).trans ?_
    split
    · exact counted
    · exact metered.within scheduleId userId
  · refine each_finish metered.paced fun other running different others => ?_
    refine others.mono (mem_release_of_ne different) ?_ ?_
    · intro row member otherLocked
      refine mem_updateWhere_of_not member ?_
      by_contra written
      rw [Bool.not_eq_false, List.contains_iff_mem] at written
      exact
        different
          (metered.compatible _ otherLocked _ (taken row.id written).1 rfl rfl)
    · intro rival rivalLocked
      refine (claimed rival.scheduleId rival.userId).trans ?_
      rw [if_neg]
      · exact le_rfl
      · rintro ⟨schedule, user⟩
        -- Both sessions would hold the advisory lock of one user.
        refine different (metered.compatible _ rivalLocked _ locked ?_ rfl)
        simp [quotaLock, schedule, user]

theorem step (metered : server.Metered hashtext maxSeats)
    {action : MixedAction} (limited : server.limited maxSeats action)
    (taken : server.mixed hashtext action = some next) :
    next.Metered hashtext maxSeats := by
  cases action with
  | whole work =>
      cases work with
      | acquire request => cases taken
      | release | sweepExpired | confirmPaid | closeUnpaid | recordRefund
      | closeCanceled =>
          simp only [Server.mixed] at taken
          split at taken
          · rename_i admissible
            exact metered.whole admissible (by simp) taken
          · cases taken
  | session action =>
      simp only [Server.mixed] at taken
      split at taken
      case isFalse => cases taken
      rename_i claims
      have paced {session : Nat} {current : Session} {later : Next}
          (found : server.sessions session = some current)
          (next :
            current.stage.next hashtext (server.available session)
              current.startedAt server.db = some later) :
          later.Metered hashtext maxSeats server.db server.locks server.clock
            session current.startedAt :=
        Stage.next_metered metered.sound
          (metered.started session current found)
          (metered.paced session current found) next
      cases steps_of_step taken with
      | tick elapsed =>
          have passes :
              server.clock ≤ server.clock + (elapsed : Time) :=
            Int.le_add_of_nonneg_right (Int.natCast_nonneg elapsed)
          exact
            { compatible := metered.compatible
              started := fun session current found =>
                (metered.started session current found).trans passes
              sound := metered.sound
              within := fun scheduleId userId =>
                (Db.holding_antitone passes).trans
                  (metered.within scheduleId userId)
              paced := fun session current found =>
                (metered.paced session current found).mono
                  (fun _ held _ => held) (fun _ member _ => member)
                  fun _ _ => Db.holding_antitone passes }
      | @opened request order after opened =>
          have equal := opened.after_eq
          refine metered.written (metered.sound.opened opened) ?_ ?_
          · refine Db.noMore_of_same (by rw [equal]) (by rw [equal]) ?_
            intro row member paid
            rcases opened.mem_orders_iff.mp member with old | rfl
            · exact old
            · rw [opened.pending] at paid
              cases paid
          · intro row member _
            rw [equal]
            exact member
      | @begun session work idle admissible =>
          cases work with
          | acquire request =>
              exact
                metered.put session
                  { startedAt := server.clock, stage := .quota request }
                  le_rfl metered.compatible (fun _ held => held)
                  (limited _ rfl)
          | release | sweepExpired | confirmPaid | closeUnpaid | recordRefund
          | closeCanceled =>
              cases claims
      | @passed session current stage found next =>
          exact
            metered.put session { current with stage }
              (metered.started session current found) metered.compatible
              (fun _ held => held) (paced found next)
      | @granted session current resource mode stage found next free =>
          exact
            metered.put session { current with stage }
              (metered.started session current found)
              (metered.compatible.grant LockMode.conflicts_comm free)
              (fun lock held => List.mem_cons_of_mem _ held)
              (paced found next)
      | @committed session current statement rows after found writing ok =>
          have paced := metered.paced session current found
          rw [writing] at paced
          cases statement with
          | holdSeats request =>
              cases ok
              exact metered.commit found writing
          | releaseHold | sweepExpiredHolds | bookOrderSeats
          | restoreOrderSeats =>
              exact paced.elim
      | ended | failed | rolledBack => exact metered.finish _

end Metered

/--
However many claims run side by side, and whatever other transactions commit
between their statements, nobody ever has more seats of a schedule than the
limit.
-/
theorem purchase_limit
    {hashtext : String → Int} {maxSeats : Nat} {inventory : Inventory}
    {startsAt : Nat → Policy.Datetime} {clock : Time} {server : Server}
    (run :
      TransitionSystem.RunWhere (Server.mixed hashtext)
        (Server.limited maxSeats) (Server.initial inventory startsAt clock)
        server)
    (scheduleId userId : Nat) :
    server.db.holding scheduleId userId server.clock ≤ maxSeats := by
  have metered : server.Metered hashtext maxSeats :=
    run.invariant (.initial inventory startsAt clock)
      fun _ _ _ metered limited taken => metered.step limited taken
  exact metered.within scheduleId userId

/-- One user asks for either seat in a session of its own, under a limit of one. -/
def Action.rivals : List Action :=
  [.begin 0
    (.acquire { scheduleId := 1, userId := 7, seatIds := [1], maxSeats := 1 }),
   .begin 1
    (.acquire { scheduleId := 1, userId := 7, seatIds := [2], maxSeats := 1 })] ++
    Action.advances 0 4 ++ [.commit 0, .tick 1000]

/-- Two claims of one user side by side, with a sweep in between. -/
theorem purchase_limit_reached :
    ∃ server : Server,
      (server.db.scheduleSeats.map (·.status) == [.held, .available] &&
          server.locks.isEmpty) = true ∧
        server.db.holding 1 7 server.clock ≤ 1 := by
  obtain ⟨server, run, seen⟩ :=
    TransitionSystem.RunWhere.exists_of_checkedRun
      (Server.mixed fun _ => 0) (Server.limited 1)
      (Server.initial .twoSeats (fun _ => { instant := 0, offset := 0 }) 0)
      (Action.rivals.map .session ++
        .whole (.sweepExpired 10) :: (Action.advances 1 4).map .session)
      (fun server : Server =>
        server.db.scheduleSeats.map (·.status) == [.held, .available] &&
          server.locks.isEmpty)
      (by decide)
  exact ⟨server, seen, purchase_limit run 1 7⟩

end Server

end Curtain
