import Curtain.Records

/-!
# Inventory that came back

A user who owns nothing takes claimable seats and buys them, with nobody else
about.  Whatever earlier holds, orders and cancellations have left behind, the
purchase goes through, except that an item of an order is never deleted: a
seat that was sold once can be held again but not be sold again.
-/

namespace Curtain

open Queries Table HoldService OrderService

/-! ## Transactions that go through -/

section Succeeds

variable {db : Db} {now : Time}

/-- `acquire` holds the seats when the guard of its statement is met. -/
theorem acquireSeats_of_guard
    (unique : Unique ScheduleSeat.id db.scheduleSeats)
    {request : AcquireRequest}
    (nonempty : request.seatIds ≠ [])
    (passed :
      Queries.guard (target request.scheduleId request.seatIds now db).length
        (owned request.scheduleId request.userId now db)
        request.seatIds.length request.maxSeats = true) :
    ∃ held,
      acquireSeats request now db =
        .ok
          (held,
            db.updateSeats (isTarget request.scheduleId request.seatIds now)
              (hold request.userId (now + seconds request.ttlSec))) := by
  rw [acquireSeats, holdSeats_eq unique]
  simp only [passed, Bool.and_true]
  have complete :
      (updatedRows (isTarget request.scheduleId request.seatIds now)
        (hold request.userId (now + seconds request.ttlSec))
        db.scheduleSeats).length = request.seatIds.length := by
    simp only [Queries.guard, Bool.and_eq_true, beq_iff_eq, target,
      List.length_insertionSort] at passed
    rw [updatedRows, List.length_map]
    exact passed.1
  split
  · rename_i none
    rw [none] at complete
    exact absurd (List.length_eq_zero_iff.mp complete.symm) nonempty
  · rename_i first rest some
    rw [some] at complete
    exact ⟨_, by rw [some, if_neg (not_not.mpr complete)]⟩

/-- `place` opens an order on valid holds under an unused key. -/
theorem openPending_of_held
    {request : PlaceRequest}
    (held :
      (db.scheduleSeats.filter
        (isOrderable request.scheduleId request.userId request.wanted
          request.minHoldRemainingSec now)).length = request.wanted.length)
    (payable :
      fitsInteger
        ((db.scheduleSeats.filter
          (isOrderable request.scheduleId request.userId request.wanted
            request.minHoldRemainingSec now)).map (·.price)).sum = true)
    (fresh : ∀ old ∈ db.orders, old.idempotencyKey ≠ request.idempotencyKey)
    (numbered : db.stored.Nodup) :
    ∃ order after, openPending request now db = .ok (some order, after) := by
  have unused :
      ¬ (db.orders.any (·.idempotencyKey == request.idempotencyKey)) = true := by
    simpa using fresh
  have stays :
      ∀ payment : Payment, payment.pgTid = none →
        UniqueNullable Payment.pgTid (db.payments ++ [payment]) := by
    intro payment absent
    rw [UniqueNullable, List.filterMap_append]
    simpa [absent, Db.stored] using numbered
  have opened :
      ∃ order middle,
        openOrder request.scheduleId request.userId request.wanted
            request.idempotencyKey request.minHoldRemainingSec now db =
          .ok (some order, middle) ∧ middle.payments = db.payments := by
    rw [openOrder, if_neg (not_not.mpr held), if_neg (by simpa using payable),
      if_neg unused]
    exact ⟨_, _, rfl, rfl⟩
  obtain ⟨order, middle, opened, same⟩ := opened
  have inserts :
      ∃ after,
        insertPayment order.id .requested order.totalAmount none none middle =
          .ok after := by
    refine ⟨_, insertPayment_ok.mpr ⟨?_, rfl⟩⟩
    rw [same]
    exact stays _ rfl
  obtain ⟨after, inserted⟩ := inserts
  exact
    ⟨order, after, bind_eq_ok.mpr ⟨(some order, middle), opened,
      bind_eq_ok.mpr ⟨after, inserted, rfl⟩⟩⟩

/-- An order whose only payment is a request has one payment to promote. -/
theorem filter_isRequested {orderId : Nat} {payment : Payment}
    (requested : payment.status = .requested)
    (only : (db.payments.filter (·.orderId == orderId)) = [payment]) :
    db.payments.filter (isRequested orderId) = [payment] := by
  have narrowed :
      db.payments.filter (isRequested orderId) =
        (db.payments.filter (·.orderId == orderId)).filter
          (·.status == .requested) := by
    rw [List.filter_filter]
    exact List.filter_congr fun row _ => Bool.and_comm _ _
  rw [narrowed, only, List.filter_cons_of_pos (by simp [requested])]
  rfl

/-- The numbers in the payments other than the requests of an order. -/
def Db.storedBeside (db : Db) (orderId : Nat) : List String :=
  (db.payments.filter fun payment => !isRequested orderId payment).filterMap
    (·.pgTid)

theorem Db.storedBeside_subset (db : Db) (orderId : Nat) :
    db.storedBeside orderId ⊆ db.stored :=
  (List.filter_sublist.filterMap _).subset

/-- An approval is recorded unless another payment has its number. -/
theorem recordApproval_iff
    {order : Order} {items : List OrderItem} {pgTid : String}
    (few : (db.payments.filter (isRequested order.id)).length ≤ 1)
    (numbered : db.stored.Nodup) :
    (∃ after, recordApproval order items pgTid db = .ok after) ↔
      pgTid ∉ db.storedBeside order.id := by
  cases requests : db.payments.filter (isRequested order.id) with
  | nil =>
      -- Without a request the approval is a payment of its own.
      have unrequested :
          ∀ payment ∈ db.payments, isRequested order.id payment = false := by
        intro payment member
        have unmet := List.filter_eq_nil_iff.mp requests payment member
        exact Bool.eq_false_iff.mpr unmet
      have beside : db.storedBeside order.id = db.stored := by
        rw [Db.storedBeside, List.filter_eq_self.mpr fun payment member => by
          simp [unrequested payment member]]
        rfl
      have promoted :
          promotePaymentToApproved order.id pgTid db = .ok ([], db) := by
        refine promotePaymentToApproved_ok.mpr ⟨?_, ?_, ?_⟩
        · rwa [updateWhere_eq_self unrequested]
        · exact (updatedRows_eq_nil.mpr unrequested).symm
        · rw [updateWhere_eq_self unrequested]
      rw [beside, recordApproval, promoted]
      simp only [bind, Except.bind]
      rw [if_pos trivial]
      cases inserted :
          insertPayment order.id .approved order.totalAmount (some pgTid) none
            db with
      | error error =>
          have stored : pgTid ∈ db.stored := by
            by_contra fresh
            refine insertPayment_error inserted ?_
            exact
              List.nodup_append_comm.mp (List.nodup_cons.mpr ⟨fresh, numbered⟩)
          exact ⟨fun ⟨_, ok⟩ => (by cases ok), absurd stored⟩
      | ok after =>
          obtain ⟨unique, -⟩ := insertPayment_ok.mp inserted
          refine ⟨fun _ => ?_, fun _ => ⟨_, rfl⟩⟩
          exact (UniqueNullable.append_iff numbered).mp unique pgTid rfl
  | cons payment others =>
      have member : payment ∈ db.payments.filter (isRequested order.id) := by
        rw [requests]
        exact List.mem_cons_self
      have only := eq_singleton_of_length_le few member
      let change := fun payment : Payment =>
        { payment with status := .approved, pgTid := some pgTid }
      have given : (change payment).pgTid = some pgTid := rfl
      rw [Db.storedBeside,
        ← UniqueNullable.updateWhere_iff numbered only given]
      constructor
      · rintro ⟨after, ok⟩
        obtain ⟨⟨promoted, middle⟩, stored, -⟩ := bind_eq_ok.mp ok
        exact (promotePaymentToApproved_ok.mp stored).1
      · intro unique
        have promoted :
            updatedRows (isRequested order.id) change db.payments ≠ [] := by
          rw [updatedRows, only]
          exact List.cons_ne_nil _ _
        rw [recordApproval, promotePaymentToApproved_ok.mpr ⟨unique, rfl, rfl⟩]
        simp only [bind, Except.bind]
        rw [if_neg promoted]
        exact ⟨_, rfl⟩

/-- The order is pending, and its seats are held by its user and unsold. -/
structure Order.Grantable (order : Order) (now : Time) (db : Db) : Prop where
  pending : order.status = .pending
  named : order.seatIds ≠ []
  complete : (order.claims now db).length = order.seatIds.length
  unsold :
    ∀ item ∈ order.claims now db,
      db.orderItems.any (·.scheduleSeatId == item.scheduleSeatId) = false

instance (order : Order) (now : Time) (db : Db) :
    Decidable (order.Grantable now db) :=
  decidable_of_iff
    (order.status = .pending ∧ order.seatIds ≠ [] ∧
      (order.claims now db).length = order.seatIds.length ∧
        ∀ item ∈ order.claims now db,
          db.orderItems.any (·.scheduleSeatId == item.scheduleSeatId) = false)
    ⟨fun ⟨pending, named, complete, unsold⟩ =>
        ⟨pending, named, complete, unsold⟩,
      fun grantable =>
        ⟨grantable.pending, grantable.named, grantable.complete,
          grantable.unsold⟩⟩

/-- For such an order `confirm_paid` comes down to recording the approval. -/
theorem confirmPaid_of_grantable
    (sound : db.Sound) {order : Order} (pgTid : String)
    (member : order ∈ db.orders) (grantable : order.Grantable now db) :
    ∃ booked : Db, booked.payments = db.payments ∧
      confirmPaid order.id pgTid now db =
        (recordApproval order (order.claims now db) pgTid booked).map
          (Prod.mk true) := by
  obtain ⟨pending, named, complete, unsold⟩ := grantable
  have loaded : loadOrder order.id db = .ok order := by
    rw [loadOrder, sound.found member]
  have marked : (markOrderPaid order.id db).1 ≠ [] :=
    markOrderPaid_ne_nil.mpr ⟨order, member, rfl, pending⟩
  have unconfirmed : order.confirmed = false := by
    have none := (sound.fillable order member).unanswered (Or.inl pending)
    simp [Order.confirmed, none]
  let claimed : Db :=
    { (markOrderPaid order.id db).2 with
      orderItems := db.orderItems ++ order.claims now db }
  have claims :
      claimOrExpire order now (markOrderPaid order.id db).2 =
        .ok (order.claims now db, claimed) := by
    have inserted :
        claimOrderItems order.id order.scheduleId order.userId order.seatIds now
            (markOrderPaid order.id db).2 =
          .ok (order.claims now db, claimed) :=
      if_pos ((unsold_iff sound.rowUnique sound.itemUnique).mpr unsold)
    rw [claimOrExpire, inserted]
  have booked :
      (bookOrderSeats order.id claimed).1.length = order.seatIds.length := by
    rw [← complete, Order.claims, claimedItems, List.length_map,
      List.length_insertionSort, bookOrderSeats, updatedRows, List.length_map]
    exact
      congrArg List.length
        (List.filter_congr (sound.claimed_held member unconfirmed))
  refine ⟨(bookOrderSeats order.id claimed).2, rfl, ?_⟩
  simp only [confirmPaid, loaded, claims, marked, named, complete, booked, bind,
    Except.bind, if_false, ne_eq, not_true_eq_false]
  cases recordApproval order (order.claims now db) pgTid
      (bookOrderSeats order.id claimed).2 with
  | error error => rfl
  | ok confirmed => rfl

/-- `confirm_paid` confirms a pending order whose seats are held and unsold. -/
theorem confirmPaid_of_held
    (sound : db.Sound) {order : Order} {pgTid : String} {payment : Payment}
    (member : order ∈ db.orders) (pending : order.status = .pending)
    (nonempty : order.seatIds ≠ [])
    (complete : (order.claims now db).length = order.seatIds.length)
    (unsold :
      ∀ item ∈ order.claims now db,
        db.orderItems.any (·.scheduleSeatId == item.scheduleSeatId) = false)
    (requests : db.payments.filter (isRequested order.id) = [payment])
    (numbered : db.stored.Nodup) (fresh : pgTid ∉ db.stored) :
    ∃ after, confirmPaid order.id pgTid now db = .ok (true, after) := by
  obtain ⟨booked, payments, comesDown⟩ :=
    confirmPaid_of_grantable sound pgTid member
      ⟨pending, nonempty, complete, unsold⟩
  have few : (booked.payments.filter (isRequested order.id)).length ≤ 1 := by
    rw [payments, requests, List.length_singleton]
  have stored : booked.stored = db.stored := by
    rw [Db.stored, payments, Db.stored]
  obtain ⟨after, recorded⟩ :=
    (recordApproval_iff few (by rwa [stored])).mpr fun listed =>
      fresh (stored ▸ booked.storedBeside_subset order.id listed)
  exact ⟨after, by rw [comesDown, recorded]; rfl⟩

/-- The only payment of a new order is its request. -/
theorem Opened.request_only
    {request : PlaceRequest} {order : Order} {after : Db}
    (opened : Opened request now db order after) (sound : db.Sound)
    (referenced : ∀ payment ∈ db.payments, db.HasOrder payment.orderId) :
    ∃ payment : Payment, payment.orderId = order.id ∧
      payment.status = .requested ∧ payment.pgTid = none ∧
        (after.payments.filter (·.orderId == order.id)) = [payment] := by
  have others : (db.payments.filter (·.orderId == order.id)) = [] := by
    rw [List.filter_eq_nil_iff]
    intro payment member
    obtain ⟨old, oldMember, oldId⟩ := referenced payment member
    have older := opened.older sound.orderIdBound oldMember
    rw [oldId] at older
    simpa using older.ne
  refine
    ⟨{ id := db.payments.length + 1
       orderId := order.id
       pgTid := none
       status := .requested
       amount := order.totalAmount
       feeSnapshot := none }, rfl, rfl, rfl, ?_⟩
  rw [opened.after_eq, List.filter_append, others, List.nil_append]
  exact List.filter_eq_self.mpr (by simp)

end Succeeds

/-! ## The purchase -/

/-- The seats a user asks for. -/
structure Wish where
  scheduleId : Nat
  userId : Nat
  seatIds : List Nat

namespace Wish

variable (wish : Wish)

/-- The row is one of the seats asked for. -/
def asks (row : ScheduleSeat) : Bool :=
  row.scheduleId == wish.scheduleId && wish.seatIds.contains row.seatId

def acquire : AcquireRequest :=
  { scheduleId := wish.scheduleId
    userId := wish.userId
    seatIds := wish.seatIds }

def place (idempotencyKey : String) : PlaceRequest :=
  { scheduleId := wish.scheduleId
    userId := wish.userId
    seatIds := wish.seatIds
    idempotencyKey }

/-- One to four different seats that can be claimed, and a user who owns none. -/
structure Granted (now : Time) (db : Db) : Prop where
  distinct : wish.seatIds.Nodup
  nonempty : wish.seatIds ≠ []
  few : wish.seatIds.length ≤ Policy.maxSeatsPerOrder
  free :
    ∀ seatId ∈ wish.seatIds, ∃ row ∈ db.scheduleSeats,
      row.scheduleId = wish.scheduleId ∧ row.seatId = seatId ∧
        (claimable now row).holds = true
  unowned : owned wish.scheduleId wish.userId now db = 0

/-- No seat was ever sold before, and the price fits its column. -/
structure Unsold (db : Db) : Prop where
  items :
    ∀ row ∈ db.scheduleSeats, wish.asks row = true →
      ∀ item ∈ db.orderItems, item.scheduleSeatId ≠ row.id
  payable :
    fitsInteger ((db.scheduleSeats.filter wish.asks).map (·.price)).sum = true

/-- The seats after `acquire`. -/
def held (now : Time) (db : Db) : Db :=
  db.updateSeats wish.asks
    (hold wish.userId (now + seconds Policy.holdTtlSec))

variable {wish} {now : Time} {db : Db}

@[simp]
theorem mem_wanted (key : String) (seatId : Nat) :
    seatId ∈ (wish.place key).wanted ↔ seatId ∈ wish.seatIds := by
  simp [PlaceRequest.wanted, place]

theorem wanted_length (distinct : wish.seatIds.Nodup) (key : String) :
    (wish.place key).wanted.length = wish.seatIds.length := by
  rw [PlaceRequest.wanted, List.length_insertionSort]
  exact congrArg List.length distinct.dedup

/-- The rows asked for are exactly those that can be claimed. -/
theorem Granted.target (granted : wish.Granted now db) (sound : db.Sound) :
    ∀ row ∈ db.scheduleSeats,
      isTarget wish.scheduleId wish.seatIds now row = wish.asks row := by
  intro row member
  rw [isTarget, asks]
  cases asked :
      row.scheduleId == wish.scheduleId && wish.seatIds.contains row.seatId with
  | false => rfl
  | true =>
      simp only [Bool.and_eq_true, beq_iff_eq, List.contains_iff_mem] at asked
      obtain ⟨other, otherMember, schedule, seat, free⟩ :=
        granted.free row.seatId asked.2
      have same : other = row :=
        sound.row_eq otherMember member (schedule.trans asked.1.symm) seat
      rw [← same, free]
      rfl

/-- There is one row for each seat asked for. -/
theorem Granted.count (granted : wish.Granted now db) (sound : db.Sound) :
    (db.scheduleSeats.filter wish.asks).length = wish.seatIds.length := by
  have narrower :
      ∀ row, wish.asks row = true →
        row.scheduleId = wish.scheduleId ∧ row.seatId ∈ wish.seatIds := by
    intro row asked
    simpa [asks] using asked
  have distinct :=
    Db.filter_distinct sound.seatUnique fun row asked => (narrower row asked).1
  have listed :
      ∀ seatId,
        seatId ∈ (db.scheduleSeats.filter wish.asks).map (·.seatId) ↔
          seatId ∈ wish.seatIds := by
    intro seatId
    constructor
    · intro member
      obtain ⟨row, rowMember, rfl⟩ := List.mem_map.mp member
      exact (narrower row (List.mem_filter.mp rowMember).2).2
    · intro member
      obtain ⟨row, rowMember, schedule, rfl, -⟩ := granted.free seatId member
      refine List.mem_map_of_mem (List.mem_filter.mpr ⟨rowMember, ?_⟩)
      simp [asks, schedule, member]
  have both :=
    ((List.perm_ext_iff_of_nodup distinct granted.distinct).mpr listed).length_eq
  rwa [List.length_map] at both

/-- The seats are taken. -/
theorem Granted.acquires (granted : wish.Granted now db) (sound : db.Sound) :
    ∃ held, acquireSeats wish.acquire now db = .ok (held, wish.held now db) := by
  have targets :
      db.scheduleSeats.filter
          (isTarget wish.scheduleId wish.seatIds now) =
        db.scheduleSeats.filter wish.asks :=
    List.filter_congr (granted.target sound)
  have passed :
      Queries.guard
        (Queries.target wish.scheduleId wish.seatIds now db).length
        (owned wish.scheduleId wish.userId now db) wish.seatIds.length
        Policy.maxSeatsPerOrder = true := by
    rw [Queries.target, List.length_insertionSort, targets,
      granted.count sound, granted.unowned]
    simp [Queries.guard, granted.few]
  have same :
      db.updateSeats (isTarget wish.scheduleId wish.seatIds now)
          (hold wish.userId (now + seconds Policy.holdTtlSec)) =
        wish.held now db := by
    rw [Wish.held, Db.updateSeats, Db.updateSeats,
      updateWhere_congr (granted.target sound)]
  have taken :
      ∃ held,
        acquireSeats wish.acquire now db =
          .ok
            (held,
              db.updateSeats (isTarget wish.scheduleId wish.seatIds now)
                (hold wish.userId (now + seconds Policy.holdTtlSec))) :=
    acquireSeats_of_guard sound.rowUnique granted.nonempty passed
  rwa [same] at taken

/-- Whoever looks for the user's valid holds finds the seats asked for. -/
theorem filter_held (margin : Time)
    (lasting : margin < seconds Policy.holdTtlSec)
    (condition : ScheduleSeat → Bool)
    (finds :
      ∀ row, condition row =
        (wish.asks row && heldLive wish.userId (now + margin) row)) :
    (wish.held now db).scheduleSeats.filter condition =
      updatedRows wish.asks
        (hold wish.userId (now + seconds Policy.holdTtlSec))
        db.scheduleSeats := by
  apply filter_updateWhere
  · intro row member asked
    have later : now + margin < now + seconds Policy.holdTtlSec :=
      Int.add_lt_add_left lasting now
    have same :
        wish.asks (hold wish.userId (now + seconds Policy.holdTtlSec) row) =
          true :=
      asked
    rw [finds, same]
    simp [heldLive, hold, later]
  · intro row member unasked
    rw [finds, unasked]
    rfl

theorem asks_of_wanted (key : String) (row : ScheduleSeat) :
    (row.scheduleId == wish.scheduleId &&
        (wish.place key).wanted.contains row.seatId) =
      wish.asks row := by
  have same :
      (wish.place key).wanted.contains row.seatId =
        wish.seatIds.contains row.seatId := by
    rw [Bool.eq_iff_iff, List.contains_iff_mem, List.contains_iff_mem,
      mem_wanted]
  rw [same, asks]

/-- The prices of the held rows are the prices the rows had. -/
theorem held_prices :
    (updatedRows wish.asks
        (hold wish.userId (now + seconds Policy.holdTtlSec))
        db.scheduleSeats).map (·.price) =
      (db.scheduleSeats.filter wish.asks).map (·.price) := by
  rw [updatedRows, List.map_map]
  rfl

/-- The order is opened on the holds. -/
theorem Granted.opens (granted : wish.Granted now db) (sound : db.Sound)
    {key : String}
    (payable :
      fitsInteger ((db.scheduleSeats.filter wish.asks).map (·.price)).sum = true)
    (fresh : ∀ order ∈ db.orders, order.idempotencyKey ≠ key)
    (numbered : db.stored.Nodup) :
    ∃ order after,
      openPending (wish.place key) now (wish.held now db) =
          .ok (some order, after) ∧
        Opened (wish.place key) now (wish.held now db) order after := by
  have orderable :
      (wish.held now db).scheduleSeats.filter
          (isOrderable wish.scheduleId wish.userId (wish.place key).wanted
            Policy.minHoldRemainingForPaymentSec now) =
        updatedRows wish.asks
          (hold wish.userId (now + seconds Policy.holdTtlSec))
          db.scheduleSeats := by
    refine
      filter_held (seconds Policy.minHoldRemainingForPaymentSec) (by decide) _ ?_
    intro row
    rw [isOrderable, asks_of_wanted]
  have opened :
      ∃ order after,
        openPending (wish.place key) now (wish.held now db) =
          .ok (some order, after) := by
    apply openPending_of_held
    · refine (congrArg List.length orderable).trans ?_
      rw [updatedRows, List.length_map, granted.count sound,
        wanted_length granted.distinct]
    · refine
        (congrArg (fun rows : List ScheduleSeat =>
          fitsInteger (rows.map (·.price)).sum) orderable).trans ?_
      rw [held_prices]
      exact payable
    · exact fresh
    · exact numbered
  obtain ⟨order, after, ok⟩ := opened
  exact ⟨order, after, ok, openPending_some ok⟩

section Confirms

variable {key pgTid : String} {order : Order} {after : Db}

/-- The claims of the new order are the seats asked for. -/
theorem claimed_rows
    (opened : Opened (wish.place key) now (wish.held now db) order after) :
    after.scheduleSeats.filter
        (isClaim order.scheduleId order.userId order.seatIds now) =
      updatedRows wish.asks
        (hold wish.userId (now + seconds Policy.holdTtlSec))
        db.scheduleSeats := by
  rw [opened.after_eq, opened.order_eq]
  refine filter_held 0 (by decide) _ ?_
  intro row
  rw [isClaim, Int.add_zero]
  exact congrArg (· && heldLive wish.userId now row) (asks_of_wanted key row)

/-- The items of the new order refer to the seats asked for. -/
theorem claims_perm
    (opened : Opened (wish.place key) now (wish.held now db) order after) :
    ((order.claims now after).map (·.scheduleSeatId)).Perm
      ((db.scheduleSeats.filter wish.asks).map (·.id)) := by
  have same :
      (updatedRows wish.asks
          (hold wish.userId (now + seconds Policy.holdTtlSec))
          db.scheduleSeats).map (·.id) =
        (db.scheduleSeats.filter wish.asks).map (·.id) := by
    rw [updatedRows, List.map_map]
    rfl
  rw [← same, ← claimed_rows opened, Order.claims, claimedItems, List.map_map]
  exact (List.perm_insertionSort _ _).map _

/-- The order is confirmed. -/
theorem Granted.confirms (granted : wish.Granted now db) (sound : db.Sound)
    (unsold : wish.Unsold db)
    (referenced : ∀ payment ∈ db.payments, db.HasOrder payment.orderId)
    (numbered : db.stored.Nodup) (freshTid : pgTid ∉ db.stored)
    (opened : Opened (wish.place key) now (wish.held now db) order after) :
    after.Sound ∧
      ∃ final, confirmPaid order.id pgTid now after = .ok (true, final) := by
  obtain ⟨held, taken⟩ := granted.acquires sound
  have soundAfter : after.Sound := (sound.acquireSeats taken).opened opened
  refine ⟨soundAfter, ?_⟩
  have count : (order.claims now after).length = wish.seatIds.length := by
    have both := (claims_perm opened).length_eq
    rwa [List.length_map, List.length_map, granted.count sound] at both
  have wanted : order.seatIds = (wish.place key).wanted := by
    rw [opened.order_eq]
  obtain ⟨payment, -, requested, -, only⟩ :=
    opened.request_only (sound.acquireSeats taken) referenced
  apply confirmPaid_of_held soundAfter opened.mem_orders
  · rw [opened.order_eq]
  · rw [wanted]
    intro empty
    have length := wanted_length granted.distinct key
    rw [empty] at length
    exact granted.nonempty (List.length_eq_zero_iff.mp length.symm)
  · rw [count, wanted, wanted_length granted.distinct]
  · intro item claim
    obtain ⟨row, rowMember, equal⟩ :=
      List.mem_map.mp
        ((claims_perm opened).mem_iff.mp (List.mem_map_of_mem claim))
    obtain ⟨inStock, asked⟩ := List.mem_filter.mp rowMember
    rw [opened.orderItems, List.any_eq_false]
    intro sold itemMember same
    have apart := unsold.items row inStock asked sold itemMember
    exact apart ((beq_iff_eq.mp same).trans equal.symm)
  · exact filter_isRequested requested only
  · rw [opened.stored]
    exact numbered
  · rw [opened.stored]
    exact freshTid

end Confirms

/-- The order is paid, and exactly the seats asked for are booked in addition. -/
structure Bought (wish : Wish) (key : String) (before after : Db) : Prop where
  paid :
    ∃ order ∈ after.orders, order.idempotencyKey = key ∧
      order.userId = wish.userId ∧ order.scheduleId = wish.scheduleId ∧
      order.seatIds = (wish.place key).wanted ∧ order.status = .paid
  booked :
    ∀ row ∈ after.scheduleSeats, row.status = .booked ↔
      wish.asks row = true ∨
        ∃ old ∈ before.scheduleSeats, old.id = row.id ∧ old.status = .booked

/-- A confirmed order has its answer. -/
theorem answered_of_confirmed
    {order : Order} {pgTid : String} {middle after : Db}
    (sound : middle.Sound) (confirmed : Confirmed order pgTid now middle after) :
    ∃ placed, pollPlaced order.id false after = .ok (some placed) := by
  have found :=
    (confirmed.sound_after sound).found
      ((confirmed.mem_orders sound).mpr (Or.inl rfl))
  dsimp only at found
  rw [pollPlaced, loadOrder, found]
  exact ⟨_, rfl⟩

/-- A confirmation of the new order buys the seats. -/
theorem bought_of_confirmed
    {key pgTid : String} {order : Order} {middle after : Db}
    (sound : db.Sound) (middleSound : middle.Sound)
    (opened : Opened (wish.place key) now (wish.held now db) order middle)
    (confirmed : Confirmed order pgTid now middle after) :
    wish.Bought key db after where
  paid := by
    exact
      ⟨_, (confirmed.mem_orders middleSound).mpr (Or.inl rfl),
        congrArg Order.idempotencyKey opened.order_eq,
        congrArg Order.userId opened.order_eq,
        congrArg Order.scheduleId opened.order_eq,
        congrArg Order.seatIds opened.order_eq, rfl⟩
  booked := by
    intro row member
    rw [confirmed.scheduleSeats middleSound] at member
    have rows := opened.scheduleSeats
    have claim :
        ∀ held : ScheduleSeat,
          isClaim order.scheduleId order.userId order.seatIds now held =
            (wish.asks held && heldLive wish.userId now held) := by
      intro held
      rw [opened.order_eq, isClaim]
      exact congrArg (· && heldLive wish.userId now held) (asks_of_wanted key held)
    obtain ⟨taken, takenMember, ⟨touched, rfl⟩ | ⟨untouched, rfl⟩⟩ :=
      mem_updateWhere.mp member
    · rw [claim, Bool.and_eq_true] at touched
      exact iff_of_true rfl (Or.inl touched.1)
    · rw [claim] at untouched
      rw [rows] at takenMember
      obtain ⟨old, oldMember, ⟨asked, rfl⟩ | ⟨unasked, rfl⟩⟩ :=
        mem_updateWhere.mp takenMember
      · have same :
            wish.asks (hold wish.userId (now + seconds Policy.holdTtlSec) old) =
              true :=
          asked
        have lasts : now < now + seconds Policy.holdTtlSec :=
          Int.lt_add_of_pos_right now (by decide)
        rw [same] at untouched
        simp [heldLive, hold, lasts] at untouched
      · constructor
        · intro booked
          exact Or.inr ⟨row, oldMember, rfl, booked⟩
        · rintro (asked | ⟨other, otherMember, equal, booked⟩)
          · rw [unasked] at asked
            cases asked
          · rw [← sound.rowUnique.eq otherMember oldMember equal]
            exact booked

end Wish

/-! ## Carrying the purchase out -/

/-- The clock, the database and the calls of a world. -/
structure World.At (world : World) (now : Time) (db : Db) (calls : List Call) :
    Prop where
  clock : world.clock = now
  database : world.db = db
  calls : world.calls = calls

/--
The user takes the seats with the gate out of reach, and places the order; the
approval is executed and answered at once.  The last three actions complete the
compensation of an order that could not be confirmed.
-/
def Wish.purchase (wish : Wish) (key pgTid refundTid : String) : List Action :=
  [.startAcquire wish.acquire,
   .gate 0 .unreachable,
   .gate 0 .unreachable,
   .advance 0,
   .startPlace (wish.place key),
   .advance 0,
   .execute 0 pgTid,
   .answer 0 { result := .approved, pgTid := some pgTid },
   .advance 0,
   .advance 0,
   .execute 0 refundTid,
   .answer 0 { result := .approved, pgTid := some refundTid },
   .advance 0]

/-- The world after an action of a script. -/
def World.after (world : World) (action : Action) : World :=
  (world.step action).getD world

theorem attempt_cons (world : World) (action : Action) (rest : List Action) :
    TransitionSystem.attempt World.step world (action :: rest) =
      TransitionSystem.attempt World.step (world.after action) rest := rfl

namespace World.At

variable {world : World} {now : Time} {db : Db} {call : Call}

theorem starts_acquire (here : world.At now db [])
    {request : AcquireRequest} (checked : checkAcquire request = .ok ()) :
    (world.after (.startAcquire request)).At now db
      [.acquiring request (.gating Gate.attempts)] := by
  obtain ⟨rfl, rfl, empty⟩ := here
  simp only [World.after, World.step, checked, Option.getD_some]
  exact ⟨rfl, rfl, by rw [addCall, empty]; rfl⟩

theorem starts_place (here : world.At now db [])
    {request : PlaceRequest} (nonempty : request.seatIds ≠ []) :
    (world.after (.startPlace request)).At now db
      [.placing request .opening] := by
  obtain ⟨rfl, rfl, empty⟩ := here
  simp only [World.after, World.step, if_neg nonempty, Option.getD_some]
  exact ⟨rfl, rfl, by rw [addCall, empty]; rfl⟩

/-- The gate is out of reach, once more or for the last time. -/
theorem unreachable {request : AcquireRequest} {attempts : Nat}
    (here : world.At now db [.acquiring request (.gating attempts)]) :
    (world.after (.gate 0 .unreachable)).At now db
      [.acquiring request
        (if attempts ≤ 1 then .holding false else .gating (attempts - 1))] := by
  obtain ⟨rfl, rfl, only⟩ := here
  simp only [World.after, World.step, only]
  exact ⟨rfl, rfl, rfl⟩

/-- The only call in progress has made progress. -/
theorem progress (here : world.At now db [call]) (progress : Progress) :
    (world.progress 0 progress).At now progress.db progress.next.toList := by
  refine ⟨here.clock, rfl, ?_⟩
  show replaceCall world.calls 0 progress.next = _
  rw [here.calls]
  cases progress.next <;> rfl

theorem advances (here : world.At now db [call])
    {progress : Progress} (advances : advance now db call = some progress) :
    (world.after (.advance 0)).At now progress.db progress.next.toList := by
  have found : world.calls[0]? = some call := by
    rw [here.calls]
    rfl
  rw [← here.clock, ← here.database] at advances
  have taken :
      world.step (.advance 0) = some (world.progress 0 progress) :=
    Option.bind_eq_some_iff.mpr
      ⟨call, found, Option.bind_eq_some_iff.mpr ⟨progress, advances, rfl⟩⟩
  rw [World.after, taken]
  exact here.progress progress

theorem answers (here : world.At now db [call])
    {attempt : PayAttempt} {progress : Progress}
    (receives : receive db attempt call = some progress) :
    (world.after (.answer 0 attempt)).At now progress.db progress.next.toList := by
  have found : world.calls[0]? = some call := by
    rw [here.calls]
    rfl
  rw [← here.database] at receives
  have taken :
      world.step (.answer 0 attempt) = some (world.progress 0 progress) :=
    Option.bind_eq_some_iff.mpr
      ⟨call, found, Option.bind_eq_some_iff.mpr ⟨progress, receives, rfl⟩⟩
  rw [World.after, taken]
  exact here.progress progress

/-- The gateway executes the approval, or has no part in it. -/
theorem executes {request : PlaceRequest} {orderId : Nat} {amount : Int}
    (here : world.At now db [.placing request (.approving orderId amount)])
    (number : String) :
    (world.after (.execute 0 number)).At now db
      [.placing request (.approving orderId amount)] := by
  have found :
      world.calls[0]? = some (.placing request (.approving orderId amount)) := by
    rw [here.calls]
    rfl
  have taken :
      world.step (.execute 0 number) =
        world.executeRequest 0 number
          (.placing request (.approving orderId amount)) := by
    simp [World.step, found]
  rw [World.after, taken, executeRequest]
  split
  · exact here
  · simp only [Call.approval?]
    split
    · exact here
    · exact ⟨here.clock, here.database, here.calls⟩

theorem holds {request : AcquireRequest} {held : Hold} {after : Db}
    (here : world.At now db [.acquiring request (.holding false)])
    (taken : acquireSeats request now db = .ok (held, after)) :
    (world.after (.advance 0)).At now after [] := by
  have advances :
      advance now db (.acquiring request (.holding false)) =
        some
          { db := after
            next := none
            events := [.acquireEnded request (.ok held)] } := by
    simp only [advance, advanceAcquire, taken]
  exact here.advances advances

theorem opens {request : PlaceRequest} {order : Order} {after : Db}
    (here : world.At now db [.placing request .opening])
    (opened : openPending request now db = .ok (some order, after)) :
    (world.after (.advance 0)).At now after
      [.placing request (.approving order.id order.totalAmount)] := by
  have advances :
      advance now db (.placing request .opening) =
        some
          { db := after
            next :=
              some (.placing request (.approving order.id order.totalAmount))
            events := [.approveRequested order.id order.totalAmount] } := by
    simp only [advance, advancePlace, opened]
  exact here.advances advances

theorem approves {request : PlaceRequest} {orderId : Nat} {amount : Int}
    (here : world.At now db [.placing request (.approving orderId amount)])
    (pgTid : String) :
    (world.after
        (.answer 0 { result := .approved, pgTid := some pgTid })).At now db
      [.placing request
        (.settling (.confirming orderId pgTid (some amount)))] := by
  have receives :
      receive db { result := .approved, pgTid := some pgTid }
          (.placing request (.approving orderId amount)) =
        some
          { db
            next :=
              some (.placing request
                (.settling (.confirming orderId pgTid (some amount))))
            events :=
              [.approveAnswered orderId
                { result := .approved, pgTid := some pgTid }] } := rfl
  exact here.answers receives

theorem confirms {request : PlaceRequest} {orderId : Nat} {pgTid : String}
    {amount : Option Int} {after : Db}
    (here :
      world.At now db
        [.placing request (.settling (.confirming orderId pgTid amount))])
    (confirmed : confirmPaid orderId pgTid now db = .ok (true, after)) :
    (world.after (.advance 0)).At now after
      [.placing request (.polling orderId replayAttempts false)] := by
  have advances :
      advance now db
          (.placing request (.settling (.confirming orderId pgTid amount))) =
        some
          { db := after
            next :=
              some (.placing request (.polling orderId replayAttempts false))
            events := [] } := by
    simp only [advance, advancePlace, settle, confirmed, Option.map_some]
  exact here.advances advances

theorem polls {request : PlaceRequest} {orderId attempts : Nat}
    {replayed : Bool} {placed : PlacedOrder}
    (here : world.At now db [.placing request (.polling orderId attempts replayed)])
    (polled : pollPlaced orderId replayed db = .ok (some placed)) :
    (world.after (.advance 0)).At now db [] := by
  have advances :
      advance now db (.placing request (.polling orderId attempts replayed)) =
        some (placeEnds db request (.ok placed)) := by
    simp only [advance, advancePlace, polled]
  exact here.advances advances

/-- Without a call in progress there is nothing to go on with. -/
theorem idle (here : world.At now db []) (attempt : PayAttempt) (number : String) :
    world.after (.advance 0) = world ∧ world.after (.answer 0 attempt) = world ∧
      world.after (.execute 0 number) = world := by
  simp [World.after, World.step, here.calls]

end World.At

namespace Wish

variable {wish : Wish} {world : World} {key pgTid refundTid : String}

/-- The purchase goes through when the seats were never sold. -/
theorem purchase_bought (recorded : world.Recorded) (quiet : world.calls = [])
    (granted : wish.Granted world.clock world.db)
    (fresh : ∀ order ∈ world.db.orders, order.idempotencyKey ≠ key)
    (freshTid : pgTid ∉ world.db.stored)
    (unsold : wish.Unsold world.db) :
    wish.Bought key world.db
      (TransitionSystem.attempt World.step world
        (wish.purchase key pgTid refundTid)).db := by
  have sound := recorded.consistent.sound
  obtain ⟨held, taken⟩ := granted.acquires sound
  obtain ⟨order, middle, opens, opened⟩ :=
    granted.opens sound unsold.payable fresh recorded.unique
  obtain ⟨middleSound, final, confirms⟩ :=
    granted.confirms sound unsold recorded.referenced recorded.unique freshTid
      opened
  obtain ⟨bought, sameId, confirmed⟩ := confirmPaid_true confirms
  have checked : checkAcquire wish.acquire = .ok () := by
    refine (if_neg granted.nonempty).trans ?_
    refine (if_neg (not_not.mpr granted.distinct)).trans ?_
    exact if_neg (not_lt.mpr granted.few)
  have member := opened.mem_orders
  obtain rfl : bought = order :=
    middleSound.order_eq confirmed.member member sameId
  obtain ⟨placed, polled⟩ := answered_of_confirmed middleSound confirmed
  have start : world.At world.clock world.db [] := ⟨rfl, rfl, quiet⟩
  have holding := ((start.starts_acquire checked).unreachable).unreachable
  have opening :
      World.At _ world.clock (wish.held world.clock world.db)
        [.placing (wish.place key) .opening] :=
    (holding.holds taken).starts_place granted.nonempty
  have approving := (opening.opens opens).executes pgTid
  have polling := (approving.approves pgTid).confirms confirms
  have ended := polling.polls polled
  obtain ⟨advances, answers, executes⟩ :=
    ended.idle { result := .approved, pgTid := some refundTid } refundTid
  have final_eq :
      (TransitionSystem.attempt World.step world
        (wish.purchase key pgTid refundTid)).db = final := by
    simp only [purchase, attempt_cons, executes, answers, advances]
    exact ended.database
  rw [final_eq]
  exact bought_of_confirmed sound middleSound opened confirmed

/-- Seats that are bought were never sold before. -/
theorem unsold_of_bought {later : World} (recorded : world.Recorded)
    (laterRecorded : later.Recorded) (continues : world.Continues later)
    (fresh : ∀ order ∈ world.db.orders, order.idempotencyKey ≠ key)
    (bought : wish.Bought key world.db later.db) :
    wish.Unsold world.db := by
  have sound := recorded.consistent.sound
  have laterSound := laterRecorded.consistent.sound
  obtain ⟨order, member, hasKey, -, schedule, seats, paid⟩ := bought.paid
  have wants :
      ∀ row : ScheduleSeat, order.wants row.stock = wish.asks row := by
    intro row
    rw [← asks_of_wanted key, Order.wants, schedule, seats]
    rfl
  have confirmed := (laterSound.fillable order member).answered paid
  have filled := laterSound.filled order member
  rw [if_pos confirmed, continues.stock] at filled
  constructor
  · intro row inStock asked item itemMember refers
    have line : order.item row.stock ∈ order.lines world.db.stock := by
      refine List.mem_map_of_mem (List.mem_filter.mpr ⟨?_, ?_⟩)
      · exact List.mem_map_of_mem inStock
      · rw [wants]
        exact asked
    have own : order.item row.stock ∈ later.db.orderItems :=
      (List.mem_filter.mp (filled.mem_iff.mpr line)).1
    have same : item = order.item row.stock :=
      laterSound.item_eq (continues.orderItems.subset itemMember) own refers
    obtain ⟨old, oldMember, oldId⟩ := sound.owned item itemMember
    obtain ⟨kept, keptMember, head⟩ := continues.order oldMember
    have equal : kept = order := by
      apply laterSound.order_eq keptMember member
      rw [Order.id_of_head head, oldId, same]
      rfl
    rw [equal] at head
    exact fresh old oldMember ((Order.key_of_head head).symm.trans hasKey)
  · have fits := laterRecorded.fits order member
    rw [(laterSound.fillable order member).total, continues.stock,
      order.lines_stock, List.map_map] at fits
    have rows :
        (world.db.scheduleSeats.filter fun row => order.wants row.stock) =
          world.db.scheduleSeats.filter wish.asks :=
      List.filter_congr fun row _ => wants row
    rw [rows] at fits
    exact fits

/--
In every reachable world between calls, the purchase of claimable seats by a
user who owns none goes through if and only if the seats were never sold and
their price fits its column.
-/
theorem purchase_bought_iff
    {inventory : Inventory} {startsAt : Nat → Policy.Datetime} {clock : Time}
    (reachable :
      TransitionSystem.Reachable World.step
        (World.initial inventory startsAt clock) world)
    (quiet : world.calls = [])
    (granted : wish.Granted world.clock world.db)
    (fresh : ∀ order ∈ world.db.orders, order.idempotencyKey ≠ key)
    (freshTid : pgTid ∉ world.db.stored) :
    wish.Bought key world.db
        (TransitionSystem.attempt World.step world
          (wish.purchase key pgTid refundTid)).db ↔
      wish.Unsold world.db := by
  have recorded : world.Recorded :=
    reachable.invariant (.initial inventory startsAt clock)
      fun _ _ _ recorded _ taken => recorded.step taken
  have later :
      TransitionSystem.Reachable World.step world
        (TransitionSystem.attempt World.step world
          (wish.purchase key pgTid refundTid)) :=
    .attempt .refl _
  constructor
  · intro bought
    have laterRecorded :=
      later.invariant recorded
        fun _ _ _ recorded _ taken => World.Recorded.step recorded taken
    have continues := World.Continues.of_reachable recorded.consistent later
    exact unsold_of_bought recorded laterRecorded continues fresh bought
  · exact purchase_bought recorded quiet granted fresh freshTid

instance (wish : Wish) (now : Time) (db : Db) :
    Decidable (wish.Granted now db) :=
  decidable_of_iff
    (wish.seatIds.Nodup ∧ wish.seatIds ≠ [] ∧
      wish.seatIds.length ≤ Policy.maxSeatsPerOrder ∧
        (∀ seatId ∈ wish.seatIds, ∃ row ∈ db.scheduleSeats,
          row.scheduleId = wish.scheduleId ∧ row.seatId = seatId ∧
            (claimable now row).holds = true) ∧
          owned wish.scheduleId wish.userId now db = 0)
    ⟨fun ⟨distinct, nonempty, few, free, unowned⟩ =>
        ⟨distinct, nonempty, few, free, unowned⟩,
      fun granted =>
        ⟨granted.distinct, granted.nonempty, granted.few, granted.free,
          granted.unowned⟩⟩

instance (wish : Wish) (db : Db) : Decidable (wish.Unsold db) :=
  decidable_of_iff
    ((∀ row ∈ db.scheduleSeats, wish.asks row = true →
        ∀ item ∈ db.orderItems, item.scheduleSeatId ≠ row.id) ∧
      fitsInteger ((db.scheduleSeats.filter wish.asks).map (·.price)).sum = true)
    ⟨fun ⟨items, payable⟩ => ⟨items, payable⟩,
      fun unsold => ⟨unsold.items, unsold.payable⟩⟩

/-- A user asks for the only seat. -/
def oneSeat (userId : Nat) : Wish :=
  { scheduleId := 1, userId, seatIds := [1] }

/-- A user asks for both seats. -/
def bothSeats (userId : Nat) : Wish :=
  { scheduleId := 1, userId, seatIds := [2, 1] }

/--
The payment of one user for both seats is declined, and the hold of another
one on the second seat expires.
-/
def failedAttempts : List Action :=
  [.startAcquire { scheduleId := 1, userId := 8, seatIds := [1, 2] },
   .gate 0 .answered,
   .advance 0,
   .startPlace
     { scheduleId := 1, userId := 8, seatIds := [1, 2],
       idempotencyKey := "declined" },
   .advance 0,
   .answer 0 { result := .declined },
   .advance 0,
   .tick 500000,
   .startAcquire { scheduleId := 1, userId := 9, seatIds := [2] },
   .gate 0 .answered,
   .advance 0,
   .tick 420001]

/-- After a failed order and an expired hold, both seats are bought. -/
theorem purchase_bought_later :
    ∃ world : World,
      world.db.orders.map (·.status) = [.failed] ∧
        world.db.scheduleSeats.map (·.status) = [.available, .held] ∧
          (bothSeats 7).Bought "key" world.db
            (TransitionSystem.attempt World.step world
              ((bothSeats 7).purchase "key" "tid-1" "refund-1")).db := by
  obtain ⟨world, run, seen⟩ :=
    TransitionSystem.RunWhere.exists_of_checkedRun World.step
      (fun _ _ => True)
      (World.initial .twoSeats
        (fun _ => { instant := seconds 8640000, offset := 0 }) 0)
      failedAttempts
      (fun world : World =>
        decide
          (world.calls.isEmpty = true ∧
            (bothSeats 7).Granted world.clock world.db ∧
              (bothSeats 7).Unsold world.db ∧
                (∀ order ∈ world.db.orders, order.idempotencyKey ≠ "key") ∧
                  "tid-1" ∉ world.db.stored ∧
                    world.db.orders.map (·.status) = [.failed] ∧
                      world.db.scheduleSeats.map (·.status) =
                        [.available, .held]))
      (by decide)
  obtain ⟨quiet, granted, unsold, fresh, freshTid, failed, held⟩ :=
    of_decide_eq_true seen
  exact
    ⟨world, failed, held,
      (purchase_bought_iff run (List.isEmpty_iff.mp quiet) granted fresh
        freshTid).mpr unsold⟩

/-- A seat that a cancellation restored is held again and not sold again. -/
theorem purchase_bought_fails :
    ¬ ∀ (world : World) (wish : Wish) (key pgTid refundTid : String),
      TransitionSystem.Reachable World.step World.oneSeat world →
        world.calls = [] →
          wish.Granted world.clock world.db →
            (∀ order ∈ world.db.orders, order.idempotencyKey ≠ key) →
              pgTid ∉ world.db.stored →
                wish.Bought key world.db
                  (TransitionSystem.attempt World.step world
                    (wish.purchase key pgTid refundTid)).db := by
  intro claim
  obtain ⟨world, run, seen⟩ :=
    TransitionSystem.RunWhere.exists_of_checkedRun World.step
      (fun _ _ => True) World.oneSeat
      (Action.order 7 "key" ++ Action.pay "tid-1" ++
        [.startCancel 1 none,
         .execute 0 "refund-1",
         .answer 0 { result := .approved, pgTid := some "refund-1" },
         .advance 0])
      (fun world : World =>
        world.calls.isEmpty &&
          (world.db.scheduleSeats.any fun row =>
            row.scheduleId == 1 && row.seatId == 1 &&
              (claimable world.clock row).holds) &&
          owned 1 8 world.clock world.db == 0 &&
          (world.db.orders.all fun order => order.idempotencyKey != "second") &&
          !world.db.stored.contains "tid-2" &&
          (TransitionSystem.attempt World.step world
            ((oneSeat 8).purchase "second" "tid-2" "refund-2")).db.orders.all
              fun order => order.status != .paid)
      (by decide)
  simp only [Bool.and_eq_true, List.isEmpty_iff, List.any_eq_true, beq_iff_eq,
    List.all_eq_true, bne_iff_ne, Bool.not_eq_true'] at seen
  obtain ⟨⟨⟨⟨⟨quiet, row, member, ⟨schedule, seat⟩, free⟩, unowned⟩, fresh⟩,
    freshTid⟩, unpaid⟩ := seen
  have granted : (oneSeat 8).Granted world.clock world.db :=
    { distinct := by decide
      nonempty := by decide
      few := by decide
      free := by
        intro seatId asked
        rw [List.mem_singleton.mp asked]
        exact ⟨row, member, schedule, seat, free⟩
      unowned }
  have absent : "tid-2" ∉ world.db.stored := by
    intro stored
    rw [List.contains_iff_mem.mpr stored] at freshTid
    cases freshTid
  obtain ⟨order, bought, -, -, -, -, paid⟩ :=
    (claim world (oneSeat 8) "second" "tid-2" "refund-2" run quiet granted fresh
      absent).paid
  exact unpaid order bought paid

end Wish

end Curtain
