import Curtain.Lib.BoxOffice
import Curtain.Lib.Simulation
import Curtain.Answers
import Curtain.ConfirmOnce
import Curtain.StateMachines

/-!
# The box office that the tables keep

Seats, items and orders are three tables, and no statement writes all of them.
Read together they are a box office: a seat is on offer, on hold for a customer
until a time, or sold to an order, and an order has its seats altogether or not
at all.  Each step of the world is a few steps of this office.
-/

namespace Curtain

open Queries Table HoldService OrderService BoxOffice

/-! ## Reading the office off the tables -/

/-- A seat of a schedule. -/
abbrev SeatPlace := Nat × Nat

def ScheduleSeat.place (row : ScheduleSeat) : SeatPlace :=
  (row.scheduleId, row.seatId)

/-- What the row and its item promise; a hold has an owner and an end. -/
def ScheduleSeat.promise (items : List OrderItem) (row : ScheduleSeat) :
    Option (Promise Nat Nat Time) :=
  match row.status with
  | .available => some .free
  | .held =>
      row.heldBy.bind fun userId =>
        row.holdExpiresAt.map fun expiresAt => .held userId expiresAt
  | .booked =>
      (lookup OrderItem.scheduleSeatId row.id items).map fun item =>
        .sold item.orderId

/-- A canceled order with a stored answer was paid before. -/
def Order.standing (order : Order) : Standing :=
  match order.status with
  | .pending => .opened
  | .paid => .sold
  | .failed => .void
  | .canceled => if order.confirmed then .returned else .void

/-- The named seats of a schedule. -/
def placesOf (scheduleId : Nat) (seatIds : List Nat) : Set SeatPlace :=
  {place | place.1 = scheduleId ∧ place.2 ∈ seatIds}

def Order.sale (order : Order) : Sale SeatPlace Nat where
  buyer := order.userId
  places := placesOf order.scheduleId order.seatIds
  standing := order.standing

namespace Db

/-- The stock row of a seat. -/
def seat (db : Db) (place : SeatPlace) : Option ScheduleSeat :=
  lookup ScheduleSeat.place place db.scheduleSeats

/-- The office at a time. -/
def office (db : Db) (now : Time) : Office SeatPlace Nat Nat Time where
  now
  promise place := (db.seat place).bind (ScheduleSeat.promise db.orderItems)
  sale number := (orderForSaga number db).map Order.sale

end Db

/-! ## How the office follows the tables -/

section Rows

variable {Row Column : Type} [DecidableEq Column] {column : Row → Column}
variable {condition : Row → Bool} {change : Row → Row}

/-- A row is found under its key after an update, too. -/
theorem lookup_updateWhere (kept : ∀ row, column (change row) = column row)
    (key : Column) (rows : List Row) :
    lookup column key (updateWhere condition change rows) =
      (lookup column key rows).map fun row =>
        if condition row then change row else row := by
  have same (row : Row) :
      column (if condition row then change row else row) = column row := by
    split
    · exact kept row
    · rfl
  rw [lookup, lookup, updateWhere, List.find?_map]
  congr 2
  funext row
  simp only [Function.comp, same]

end Rows

namespace Db

variable {db after : Db} {now : Time} {place : SeatPlace}

/-- The seats of the schedule are told apart by their places. -/
theorem Sound.placeUnique (sound : db.Sound) :
    Unique ScheduleSeat.place db.scheduleSeats := by
  have unique := sound.seatUnique
  rwa [Table.Unique, Db.stock, List.map_map] at unique

theorem Sound.seat_eq_some (sound : db.Sound) {row : ScheduleSeat} :
    db.seat place = some row ↔ row ∈ db.scheduleSeats ∧ row.place = place :=
  lookup_eq_some sound.placeUnique

/-- The seats whose rows meet the condition. -/
def places (db : Db) (condition : ScheduleSeat → Bool) : Set SeatPlace :=
  {place | ∃ row, db.seat place = some row ∧ condition row = true}

/-- An update of seats is a promise about them. -/
theorem office_updateSeats {condition : ScheduleSeat → Bool}
    {change : ScheduleSeat → ScheduleSeat} {made : Promise Nat Nat Time}
    (kept : ∀ row, (change row).place = row.place)
    (becomes :
      ∀ row, condition row = true →
        (change row).promise db.orderItems = some made) :
    (db.updateSeats condition change).office now =
      (db.office now).promises (db.places condition) made := by
  ext1
  · rfl
  · funext place
    have found :
        (db.updateSeats condition change).seat place =
          (db.seat place).map fun row =>
            if condition row then change row else row :=
      lookup_updateWhere kept place db.scheduleSeats
    show ((db.updateSeats condition change).seat place).bind _ = _
    rw [found]
    by_cases member : place ∈ db.places condition
    · rw [Office.promises_of_mem member]
      obtain ⟨row, there, touched⟩ := member
      simp [there, touched, becomes row touched]
    · rw [Office.promises_of_not_mem member]
      show _ = (db.seat place).bind _
      cases there : db.seat place with
      | none => rfl
      | some row =>
          have untouched : condition row = false := by
            by_contra touched
            exact member ⟨row, there, Bool.not_eq_false _ ▸ touched⟩
          simp [untouched]
  · rfl

/-! ### Holds -/

theorem heldBy_iff {userId : Nat}
    (shaped : ∀ row ∈ db.scheduleSeats, row.holdShape = true) :
    (db.office now).HeldBy userId place ↔
      ∃ row, db.seat place = some row ∧ row.status = .held ∧
        row.heldBy = some userId := by
  constructor
  · rintro ⟨expiry, promised⟩
    obtain ⟨row, there, made⟩ := Option.bind_eq_some_iff.mp promised
    refine ⟨row, there, ?_⟩
    rw [ScheduleSeat.promise] at made
    split at made
    · cases made
    · rename_i held
      obtain ⟨owner, owned, ends⟩ := Option.bind_eq_some_iff.mp made
      obtain ⟨expiresAt, -, equal⟩ := Option.map_eq_some_iff.mp ends
      cases equal
      exact ⟨held, owned⟩
    · obtain ⟨item, -, equal⟩ := Option.map_eq_some_iff.mp made
      cases equal
  · rintro ⟨row, there, held, owned⟩
    have shape := shaped row (lookup_mem there).1
    simp only [ScheduleSeat.holdShape, held, owned] at shape
    obtain ⟨expiresAt, ends⟩ : ∃ expiresAt, row.holdExpiresAt = some expiresAt := by
      cases ends : row.holdExpiresAt with
      | none => simp [ends] at shape
      | some expiresAt => exact ⟨expiresAt, rfl⟩
    refine ⟨expiresAt, ?_⟩
    show (db.seat place).bind _ = _
    simp [there, ScheduleSeat.promise, held, owned, ends]

/-- A hold with an end is a promise until then. -/
theorem promise_of_held {row : ScheduleSeat} {userId : Nat} {expiresAt : Time}
    (there : db.seat place = some row) (held : row.status = .held)
    (owned : row.heldBy = some userId) (ends : row.holdExpiresAt = some expiresAt) :
    (db.office now).promise place = some (.held userId expiresAt) := by
  show (db.seat place).bind _ = _
  simp [there, ScheduleSeat.promise, held, owned, ends]

/-- A live hold of the tables is one of the office. -/
theorem liveFor_of_heldLive {row : ScheduleSeat} {userId : Nat}
    (there : db.seat place = some row)
    (live : heldLive userId now row = true) :
    (db.office now).LiveFor userId place := by
  simp only [heldLive, Bool.and_eq_true, beq_iff_eq] at live
  obtain ⟨⟨held, owned⟩, unexpired⟩ := live
  obtain ⟨expiresAt, ends, later⟩ := (Option.any_eq_true _ _).mp unexpired
  exact
    ⟨expiresAt, of_decide_eq_true later, promise_of_held there held owned ends⟩

/-- An expired hold of the tables is one of the office. -/
theorem expired_of_isExpiredHold {row : ScheduleSeat}
    (there : db.seat place = some row) (shape : row.holdShape = true)
    (expired : isExpiredHold now row = true) :
    (db.office now).Expired place := by
  simp only [isExpiredHold, Bool.and_eq_true, beq_iff_eq] at expired
  obtain ⟨held, past⟩ := expired
  obtain ⟨expiresAt, ends, earlier⟩ := (Option.any_eq_true _ _).mp past
  obtain ⟨userId, owned⟩ : ∃ userId, row.heldBy = some userId := by
    cases owned : row.heldBy with
    | none => simp [ScheduleSeat.holdShape, held, owned] at shape
    | some userId => exact ⟨userId, rfl⟩
  exact
    ⟨userId, expiresAt, of_decide_eq_true earlier,
      promise_of_held there held owned ends⟩

theorem claimable_of_claimable {row : ScheduleSeat}
    (there : db.seat place = some row) (shape : row.holdShape = true)
    (claims : (claimable now row).holds = true) :
    (db.office now).Claimable place := by
  simp only [claimable, Truth.holds_or, Truth.holds_and, Truth.holds_some,
    holds_whenPresent, Bool.or_eq_true, Bool.and_eq_true, beq_iff_eq] at claims
  rcases claims with available | expired
  · left
    show (db.seat place).bind _ = _
    simp [there, ScheduleSeat.promise, available]
  · right
    refine expired_of_isExpiredHold there shape ?_
    simp [isExpiredHold, expired.1, expired.2]

/-- As many claimed rows as named seats are rows of exactly these seats. -/
theorem places_eq {scheduleId : Nat} {seatIds : List Nat}
    {condition : ScheduleSeat → Bool} (sound : db.Sound)
    (narrower :
      ∀ row, condition row = true →
        row.scheduleId = scheduleId ∧ row.seatId ∈ seatIds)
    (complete :
      seatIds.length ≤ (db.scheduleSeats.filter condition).length) :
    db.places condition = placesOf scheduleId seatIds := by
  have all := Db.filter_seats sound.seatUnique narrower complete
  ext place
  constructor
  · rintro ⟨row, there, touched⟩
    obtain ⟨-, rfl⟩ := lookup_mem there
    exact narrower row touched
  · rintro ⟨schedule, named⟩
    obtain ⟨row, member, seat⟩ := List.mem_map.mp (all.mem_iff.mpr named)
    obtain ⟨inTable, touched⟩ := List.mem_filter.mp member
    refine ⟨row, sound.seat_eq_some.mpr ⟨inTable, ?_⟩, touched⟩
    exact Prod.ext ((narrower row touched).1.trans schedule.symm) seat

/-! ### Orders -/

theorem office_sale (sound : db.Sound) {order : Order}
    (member : order ∈ db.orders) :
    (db.office now).sale order.id = some order.sale := by
  show (orderForSaga order.id db).map _ = _
  rw [sound.found member, Option.map_some]

/-- Writing one order is a record of its sale. -/
theorem office_updateOrder {condition : Order → Bool} {change : Order → Order}
    {order : Order} (sound : db.Sound) (member : order ∈ db.orders)
    (kept : ∀ row, (change row).id = row.id)
    (only : ∀ row ∈ db.orders, condition row = true ↔ row = order) :
    (updateOrder condition change db).2.office now =
      (db.office now).records order.id (change order).sale := by
  ext1
  · rfl
  · rfl
  · funext number
    have found :
        orderForSaga number (updateOrder condition change db).2 =
          (orderForSaga number db).map fun row =>
            if condition row then change row else row :=
      lookup_updateWhere kept number db.orders
    show (orderForSaga number _).map _ = _
    rw [found]
    by_cases own : number = order.id
    · subst own
      rw [Office.records_self, sound.found member]
      simp [(only order member).mpr rfl]
    · rw [Office.records_of_ne own]
      show _ = (orderForSaga number db).map _
      cases there : orderForSaga number db with
      | none => rfl
      | some row =>
          obtain ⟨rowMember, rfl⟩ := lookup_mem there
          have untouched : condition row = false := by
            by_contra touched
            have same :=
              (only row rowMember).mp ((Bool.not_eq_false _).mp touched)
            exact own (congrArg Order.id same)
          simp [untouched]

/-- A conditional transition of an order that it applies to. -/
theorem office_markOrder {order : Order} {status expect : OrderStatus}
    (sound : db.Sound) (member : order ∈ db.orders)
    (applies : order.status = expect) :
    (markOrder order.id status expect db).2.office now =
      (db.office now).records order.id { order with status }.sale := by
  refine
    @office_updateOrder db now _ (fun row => { row with status }) order sound
      member (fun _ => rfl) ?_
  intro row rowMember
  simp only [Bool.and_eq_true, beq_iff_eq]
  constructor
  · rintro ⟨own, -⟩
    exact sound.order_eq rowMember member own
  · rintro rfl
    exact ⟨rfl, applies⟩

/-- The holds that are freed for an order are those of its buyer. -/
theorem places_isHoldOf (now : Time) (order : Order)
    (shaped : ∀ row ∈ db.scheduleSeats, row.holdShape = true) :
    db.places (isHoldOf order.scheduleId order.userId order.seatIds) =
      {place | place ∈ order.sale.places ∧
        (db.office now).HeldBy order.sale.buyer place} := by
  ext place
  show _ ↔ _ ∧ (db.office now).HeldBy order.userId place
  rw [heldBy_iff shaped]
  constructor
  · rintro ⟨row, there, held⟩
    simp only [isHoldOf, Bool.and_eq_true, beq_iff_eq, List.contains_iff_mem]
      at held
    obtain ⟨-, rfl⟩ := lookup_mem there
    exact ⟨held.1.1, row, there, held.1.2, held.2⟩
  · rintro ⟨⟨schedule, named⟩, row, there, held, owned⟩
    obtain ⟨-, rfl⟩ := lookup_mem there
    refine ⟨row, there, ?_⟩
    simp only [isHoldOf, Bool.and_eq_true, beq_iff_eq, List.contains_iff_mem]
    exact ⟨⟨⟨schedule, named⟩, held⟩, owned⟩

theorem office_hold (condition : ScheduleSeat → Bool) (userId : Nat)
    (expiresAt : Time) :
    (db.updateSeats condition (hold userId expiresAt)).office now =
      (db.office now).promises (db.places condition) (.held userId expiresAt) :=
  office_updateSeats (fun _ => rfl) fun _ _ => rfl

theorem office_free (condition : ScheduleSeat → Bool) :
    (db.updateSeats condition free).office now =
      (db.office now).promises (db.places condition) .free :=
  office_updateSeats (fun _ => rfl) fun _ _ => rfl

theorem office_restore (condition : ScheduleSeat → Bool) :
    (db.updateSeats condition restore).office now =
      (db.office now).promises (db.places condition) .free :=
  office_updateSeats (fun _ => rfl) fun _ _ => rfl

/-- `acquire` takes seats that are free or whose hold has expired. -/
theorem hold_step {request : AcquireRequest} {held : Hold} (sound : db.Sound)
    (shaped : ∀ row ∈ db.scheduleSeats, row.holdShape = true)
    (ok : acquireSeats request now db = .ok (held, after)) :
    Office.Step (db.office now) (after.office now) := by
  obtain ⟨-, rfl⟩ := acquireSeats_ok sound.rowUnique ok
  rw [office_hold]
  refine .hold ?_
  rintro place ⟨row, there, target⟩
  simp only [isTarget, Bool.and_eq_true] at target
  exact
    claimable_of_claimable there (shaped row (lookup_mem there).1) target.2

theorem giveUp_step (scheduleId userId : Nat) (seatIds : List Nat)
    (shaped : ∀ row ∈ db.scheduleSeats, row.holdShape = true) :
    Office.Step (db.office now)
      ((db.updateSeats (isHoldOf scheduleId userId seatIds) free).office
        now) := by
  rw [office_free]
  refine @Office.Step.giveUp _ _ _ _ _ _ _ userId _ ?_
  rintro place ⟨row, there, held⟩
  simp only [isHoldOf, Bool.and_eq_true, beq_iff_eq] at held
  exact (heldBy_iff shaped).mpr ⟨row, there, held.1.2, held.2⟩

/-- An order that ends unpaid gives up the holds of its buyer. -/
theorem void_step {order : Order} {status : OrderStatus} (sound : db.Sound)
    (shaped : ∀ row ∈ db.scheduleSeats, row.holdShape = true)
    (member : order ∈ db.orders) (pending : order.status = .pending)
    (final : status = .failed ∨ status = .canceled) :
    Office.Step (db.office now)
      (((markOrder order.id status .pending db).2.updateSeats
        (isHoldOf order.scheduleId order.userId order.seatIds) free).office
        now) := by
  have unanswered := (sound.fillable order member).unanswered (Or.inl pending)
  have standing : { order with status }.standing = .void := by
    rcases final with rfl | rfl <;>
      simp [Order.standing, Order.confirmed, unanswered]
  have ended : { order with status }.sale = { order.sale with standing := .void } := by
    rw [Order.sale, standing]
    rfl
  have freed :
      (markOrder order.id status .pending db).2.places
          (isHoldOf order.scheduleId order.userId order.seatIds) =
        {place | place ∈ order.sale.places ∧
          (db.office now).HeldBy order.sale.buyer place} :=
    places_isHoldOf now order shaped
  rw [office_free, office_markOrder sound member pending, freed, ended]
  exact .void (office_sale sound member) (by simp [Order.sale, Order.standing, pending])

/-- The sweep frees expired holds only. -/
theorem lapse_step (sound : db.Sound) (batch : Nat) (locked : Nat → Bool)
    (shaped : ∀ row ∈ db.scheduleSeats, row.holdShape = true) :
    Office.Step (db.office now)
      ((sweepExpired batch locked now db).2.office now) := by
  obtain ⟨condition, expired, equal⟩ :=
    sweepExpired_snd sound.rowUnique now batch locked
  rw [equal, office_free]
  refine .lapse ?_
  rintro place ⟨row, there, taken⟩
  have member := (lookup_mem there).1
  exact
    expired_of_isExpiredHold there (shaped row member)
      (expired row member taken)

/-- A new order asks for seats that its buyer holds. -/
theorem ask_step {request : PlaceRequest} {order : Order} (sound : db.Sound)
    (opened : Opened request now db order after) :
    Office.Step (db.office now) (after.office now) := by
  have fresh : orderForSaga order.id db = none := by
    refine lookup_eq_none.mpr fun old member => ?_
    exact (opened.older sound.orderIdBound member).ne
  have asked :
      after.office now = (db.office now).records order.id order.sale := by
    ext1
    · rfl
    · simp only [office, seat, opened.after_eq]
      rfl
    · funext number
      show (orderForSaga number after).map _ = _
      rw [orderForSaga, opened.after_eq, lookup, List.find?_append]
      by_cases own : number = order.id
      · subst own
        rw [Office.records_self]
        rw [orderForSaga, lookup] at fresh
        simp [fresh]
      · rw [Office.records_of_ne own]
        have apart : order.id ≠ number := fun equal => own equal.symm
        simp [apart, office, orderForSaga, lookup]
  have asks :
      ∀ row,
        isOrderable request.scheduleId request.userId request.wanted
            request.minHoldRemainingSec now row = true →
          row.scheduleId = order.scheduleId ∧ row.seatId ∈ order.seatIds := by
    intro row orderable
    simp only [isOrderable, Bool.and_eq_true, beq_iff_eq,
      List.contains_iff_mem] at orderable
    rw [opened.order_eq]
    exact orderable.1
  have complete := opened.held
  have places := places_eq sound asks (by rw [complete, opened.order_eq])
  rw [asked]
  refine .ask ?_ ?_ ?_
  · show (orderForSaga order.id db).map _ = none
    rw [fresh, Option.map_none]
  · simp [Order.sale, Order.standing, opened.pending]
  · show ∀ place ∈ placesOf order.scheduleId order.seatIds, _
    rw [← places]
    rintro place ⟨row, there, orderable⟩
    simp only [isOrderable, heldLive, Bool.and_eq_true, beq_iff_eq]
      at orderable
    obtain ⟨-, ⟨held, owned⟩, unexpired⟩ := orderable
    obtain ⟨expiresAt, ends, -⟩ := (Option.any_eq_true _ _).mp unexpired
    refine ⟨expiresAt, promise_of_held there held ?_ ends⟩
    rw [owned, Order.sale, opened.order_eq]

/-- A recorded refund ends its order if that is still open. -/
theorem recordRefund_steps {row order : Order} {total : Int}
    {attempt : PayAttempt} (sound : db.Sound)
    (shaped : ∀ row ∈ db.scheduleSeats, row.holdShape = true)
    (member : row ∈ db.orders) (same : row.head = order.head)
    (recorded : recordRefund order total attempt db = .ok after) :
    Relation.ReflTransGen Office.Step (db.office now) (after.office now) := by
  obtain ⟨status, snapshot, rfl⟩ := Order.exists_of_head same
  obtain ⟨middle, inserted, rfl⟩ := recordRefund_ok recorded
  have noted := (sound.insertPayment inserted).failPendingPayments row.id
  have written :
      ∃ payments, failPendingPayments row.id middle = { db with payments } := by
    obtain ⟨-, rfl⟩ := insertPayment_ok.mp inserted
    exact ⟨_, rfl⟩
  obtain ⟨payments, equal⟩ := written
  dsimp only at inserted ⊢
  rw [equal] at noted ⊢
  have unread : db.office now = { db with payments }.office now := rfl
  rw [unread]
  split
  · by_cases pending : row.status = .pending
    · exact .single (void_step noted shaped member pending (Or.inl rfl))
    · have settled :
          ∀ other ∈ db.orders,
            (other.id == row.id && other.status == .pending) = false := by
        intro other otherMember
        rw [Bool.and_eq_false_imp]
        intro own
        rw [sound.order_eq otherMember member (beq_iff_eq.mp own)]
        exact beq_eq_false_iff_ne.mpr pending
      have kept :
          (markOrder row.id .failed .pending { db with payments }).2 =
            { db with payments } :=
        congrArg (fun orders => { db with payments, orders })
          (updateWhere_eq_self settled)
      rw [kept]
      exact .single (giveUp_step _ _ _ shaped)
  · exact .refl

/-- A booked row keeps its promise when items are added. -/
theorem promise_later {row : ScheduleSeat} (sound : db.Sound)
    (afterSound : after.Sound) (kept : db.orderItems ⊆ after.orderItems)
    (member : row ∈ db.scheduleSeats) :
    row.promise after.orderItems = row.promise db.orderItems := by
  rw [ScheduleSeat.promise, ScheduleSeat.promise]
  split
  · rfl
  · rfl
  · rename_i booked
    obtain ⟨item, listed, equal, -⟩ := (sound.booked row member).mp booked
    rw [(lookup_eq_some sound.itemUnique).mpr ⟨listed, equal⟩,
      (lookup_eq_some afterSound.itemUnique).mpr ⟨kept listed, equal⟩]

/-- The claimed rows of a confirmation are those of all its seats. -/
theorem places_isClaim {order : Order} {pgTid : String} (sound : db.Sound)
    (confirmed : Confirmed order pgTid now db after) :
    db.places (isClaim order.scheduleId order.userId order.seatIds now) =
      order.sale.places := by
  have narrower :
      ∀ row, isClaim order.scheduleId order.userId order.seatIds now row = true →
        row.scheduleId = order.scheduleId ∧ row.seatId ∈ order.seatIds := by
    intro row claim
    simp only [isClaim, Bool.and_eq_true, beq_iff_eq, List.contains_iff_mem]
      at claim
    exact claim.1
  refine places_eq sound narrower ?_
  have complete := confirmed.complete
  rw [Order.claims, claimedItems, List.length_map,
    List.length_insertionSort] at complete
  exact complete.ge

/-- A confirmation promises its seats to its order, and changes no other promise. -/
theorem promise_confirmed {order : Order} {pgTid : String} (sound : db.Sound)
    (confirmed : Confirmed order pgTid now db after) :
    (after.office now).promise =
      ((db.office now).promises order.sale.places (.sold order.id)).promise := by
  have afterSound := confirmed.sound_after sound
  have claimed := places_isClaim sound confirmed
  funext place
  have found :
      after.seat place =
        (db.seat place).map fun row =>
          if isClaim order.scheduleId order.userId order.seatIds now row then
            book row
          else row := by
    rw [seat, confirmed.scheduleSeats sound]
    exact
      @lookup_updateWhere _ _ _ ScheduleSeat.place _ book (fun _ => rfl) place
        db.scheduleSeats
  show (after.seat place).bind _ = _
  rw [found]
  by_cases member : place ∈ order.sale.places
  · rw [Office.promises_of_mem member]
    rw [← claimed] at member
    obtain ⟨row, there, claim⟩ := member
    have inserted : order.item row.stock ∈ after.orderItems := by
      rw [confirmed.orderItems]
      refine List.mem_append_right _ (Confirmed.mem_claims.mpr ?_)
      exact ⟨row, (lookup_mem there).1, claim, rfl⟩
    have item :
        lookup OrderItem.scheduleSeatId row.id after.orderItems =
          some (order.item row.stock) :=
      (lookup_eq_some afterSound.itemUnique).mpr ⟨inserted, rfl⟩
    simp only [there, Option.map_some, claim, if_true, Option.bind_some,
      ScheduleSeat.promise, book, item]
    rfl
  · rw [Office.promises_of_not_mem member]
    show _ = (db.seat place).bind _
    cases there : db.seat place with
    | none => rfl
    | some row =>
        have unclaimed :
            isClaim order.scheduleId order.userId order.seatIds now row =
              false := by
          by_contra claim
          rw [← claimed] at member
          exact member ⟨row, there, (Bool.not_eq_false _).mp claim⟩
        have kept : db.orderItems ⊆ after.orderItems := by
          rw [confirmed.orderItems]
          exact List.subset_append_left _ _
        simp only [Option.map_some, unclaimed, Bool.false_eq_true, if_false,
          Option.bind_some]
        exact promise_later sound afterSound kept (lookup_mem there).1

/-- A confirmation records its sale as sold. -/
theorem sale_confirmed {order : Order} {pgTid : String} (sound : db.Sound)
    (confirmed : Confirmed order pgTid now db after) :
    (after.office now).sale =
      ((db.office now).records order.id
        { order.sale with standing := .sold }).sale := by
  let paid := fun row : Order =>
    { row with
      status := .paid
      responseSnapshot :=
        some (OrderService.snapshot order.id .paid (order.claims now db)) }
  have written :
      (updateOrder (fun row => row.id == order.id) paid db).2.office now =
        (db.office now).records order.id (paid order).sale := by
    refine office_updateOrder sound confirmed.member (fun _ => rfl) ?_
    intro row rowMember
    rw [beq_iff_eq]
    exact
      ⟨sound.order_eq rowMember confirmed.member, fun own => by rw [own]⟩
  have same :
      (after.office now).sale =
        ((updateOrder (fun row => row.id == order.id) paid db).2.office
          now).sale := by
    simp only [office, orderForSaga, updateOrder,
      confirmed.orders sound.orderIdUnique, paid]
  exact same.trans (congrArg Office.sale written)

/-- A confirmation sells its seats, all of them. -/
theorem sell_step {order : Order} {pgTid : String} (sound : db.Sound)
    (confirmed : Confirmed order pgTid now db after) :
    Office.Step (db.office now) (after.office now) := by
  have sold :
      after.office now =
        ((db.office now).promises order.sale.places (.sold order.id)).records
          order.id { order.sale with standing := .sold } := by
    ext1
    · rfl
    · exact promise_confirmed sound confirmed
    · exact sale_confirmed sound confirmed
  rw [sold]
  refine .sell (office_sale sound confirmed.member) ?_ ?_
  · have pending := confirmed.row_pending sound.orderIdUnique
    simp [Order.sale, Order.standing, pending]
  · rw [← places_isClaim sound confirmed]
    rintro place ⟨row, there, claim⟩
    simp only [isClaim, Bool.and_eq_true] at claim
    exact liveFor_of_heldLive there claim.2

/-- The booked rows of the items of a paid order are the rows it wants. -/
theorem booked_items {order : Order} (sound : db.Sound)
    (member : order ∈ db.orders) (paid : order.status = .paid)
    {row : ScheduleSeat} (rowMember : row ∈ db.scheduleSeats) :
    ((itemSeats order.id db).contains row.id && row.status == .booked) =
      order.wants row.stock := by
  have confirmed := (sound.fillable order member).answered paid
  rw [Bool.eq_iff_iff, Bool.and_eq_true, List.contains_iff_mem, beq_iff_eq]
  constructor
  · rintro ⟨listed, -⟩
    obtain ⟨item, itemMember, equal⟩ := List.mem_map.mp listed
    obtain ⟨other, otherMember, rfl⟩ :=
      List.mem_map.mp
        ((sound.itemsOf_perm member confirmed).mem_iff.mp itemMember)
    obtain ⟨inTable, wanted⟩ := List.mem_filter.mp otherMember
    rwa [← sound.rowUnique.eq inTable rowMember equal]
  · intro wanted
    refine ⟨?_, sound.booked_of_paid member paid rowMember wanted⟩
    have item : order.item row.stock ∈ db.itemsOf order.id :=
      (sound.itemsOf_perm member confirmed).mem_iff.mpr
        (List.mem_map.mpr ⟨row, List.mem_filter.mpr ⟨rowMember, wanted⟩, rfl⟩)
    exact List.mem_map.mpr ⟨_, item, rfl⟩

/-- A cancellation gives its seats back, all of them. -/
theorem giveBack_step {order : Order} (sound : db.Sound)
    (member : order ∈ db.orders) (paid : order.status = .paid) :
    Office.Step (db.office now) ((db.cancelOrder order.id).office now) := by
  have confirmed := (sound.fillable order member).answered paid
  have restored :
      db.cancelOrder order.id =
        (markOrder order.id .canceled .paid db).2.updateSeats
          (fun row => order.wants row.stock) restore := by
    exact
      congrArg
        (fun rows =>
          { (markOrder order.id .canceled .paid db).2 with
            scheduleSeats := rows })
        (updateWhere_congr fun _ => booked_items sound member paid)
  have all :
      db.places (fun row => order.wants row.stock) = order.sale.places := by
    refine places_eq sound Order.wants_narrower ?_
    rw [← List.length_map (f := fun row : ScheduleSeat => row.seatId)]
    exact (sound.wanted_seats member).length_eq.ge
  have standing : { order with status := .canceled }.standing = .returned := by
    have answered : order.responseSnapshot.isSome = true := confirmed
    simp [Order.standing, Order.confirmed, answered]
  have ended :
      { order with status := .canceled }.sale =
        { order.sale with standing := .returned } := by
    rw [Order.sale, standing]
    rfl
  have freed :
      (markOrder order.id .canceled .paid db).2.places
          (fun row => order.wants row.stock) = order.sale.places :=
    all
  rw [restored, office_restore, freed, office_markOrder sound member paid, ended]
  exact
    .giveBack (office_sale sound member) (by simp [Order.sale, Order.standing, paid])

end Db

/-! ## Every step of the world -/

/-- A turn is a few steps of the office. -/
theorem Turn.office {world : World} {action : Action}
    {before after : Option Task} {books : Books}
    (hears : world.Hears) (shaped : world.Shaped)
    (known : ∀ task ∈ before, task ∈ world.tasks)
    (turn : Turn world action before after books) :
    Relation.ReflTransGen Office.Step (world.db.office world.clock)
      (books.db.office world.clock) := by
  have sound := hears.consistent.sound
  cases turn with
  | acquired ok => exact .single (Db.hold_step sound shaped ok)
  | released => exact .single (Db.giveUp_step _ _ _ shaped)
  | swept => exact .single (Db.lapse_step sound _ _ shaped)
  | opened opened => exact .single (Db.ask_step sound opened)
  | confirmed confirms source confirmed =>
      exact .single (Db.sell_step sound confirmed)
  | recorded recorded =>
      obtain ⟨⟨row, member, same⟩, -⟩ := hears.heard _ (known _ rfl)
      exact Db.recordRefund_steps sound shaped member same recorded
  | closed closed =>
      have final := hears.consistent.closings _ (known _ rfl)
      rcases closeUnpaid_ok closed with
        rfl | ⟨order, member, rfl, ⟨row, rowMember, own, pending⟩, rfl⟩
      · exact .refl
      · rw [sound.order_eq rowMember member own] at pending
        exact .single (Db.void_step sound shaped member pending final)
  | cancelFailed recorded =>
      obtain ⟨-, rfl⟩ := insertPayment_ok.mp recorded
      exact .refl
  | cancelClosed closed =>
      rcases closeCanceled_ok closed with
        ⟨rfl, -⟩ | ⟨⟨row, member, own, paid⟩, refunded, inserted, rfl⟩
      · exact .refl
      · obtain ⟨-, rfl⟩ := insertPayment_ok.mp inserted
        rw [← own]
        exact .single (Db.giveBack_step sound member paid)
  | _ => exact .refl

namespace World

variable {world next : World} {action : Action}

/-- The office that the tables keep at the present time. -/
def office (world : World) : Office SeatPlace Nat Nat Time :=
  world.db.office world.clock

theorem clock_le (taken : world.step action = some next) :
    world.clock ≤ next.clock := by
  cases action with
  | tick elapsed =>
      cases taken
      exact Int.le_add_of_nonneg_right (Int.natCast_nonneg elapsed)
  | sweep | flushall | startReconcile =>
      cases taken
      exact le_rfl
  | startAcquire | startRelease | startPlace | startCancel | webhook =>
      simp only [step] at taken
      split at taken <;> cases taken <;> exact le_rfl
  | advance | answer | gate =>
      obtain ⟨call, -, callTaken⟩ := Option.bind_eq_some_iff.mp taken
      obtain ⟨made, -, final⟩ := Option.bind_eq_some_iff.mp callTaken
      cases final
      exact le_rfl
  | execute =>
      obtain ⟨call, -, callTaken⟩ := Option.bind_eq_some_iff.mp taken
      cases executes_of_executeRequest callTaken <;> exact le_rfl

end World

end Curtain
