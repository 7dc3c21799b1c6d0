import Curtain.Lib.Totals
import Curtain.OrderBooks
import Mathlib.Algebra.BigOperators.Group.List.Lemmas

/-!
# Counting the stock

The query that the tests append to every scenario counts the seats of a
schedule by their status.  In every run the counts add up to the stock that was
laid out, the booked seats are those of the paid orders, and their prices are
what these orders have paid.
-/

namespace Curtain

open Queries Table HoldService OrderService

/-! ## The query -/

/-- `SELECT status, count(*) … WHERE schedule_id = … GROUP BY status`. -/
def Queries.seatStatusCounts (scheduleId : Nat) (db : Db) : List (String × Nat) :=
  let statuses :=
    (db.scheduleSeats.filter (·.scheduleId == scheduleId)).map (·.status)
  statuses.dedup.map fun status => (status.text, statuses.count status)

/-- The count under a status, which is missing for no seats. -/
def countOf (status : SeatStatus) (counts : List (String × Nat)) : Nat :=
  (counts.lookup status.text).getD 0

theorem SeatStatus.text_injective : Function.Injective SeatStatus.text := by
  intro left right
  cases left <;> cases right <;> decide

section Counts

variable {scheduleId : Nat} {db : Db}

theorem countOf_seatStatusCounts (status : SeatStatus) :
    countOf status (seatStatusCounts scheduleId db) =
      (db.scheduleSeats.filter fun row =>
        row.scheduleId == scheduleId && row.status == status).length := by
  have counted :
      (db.scheduleSeats.filter fun row =>
          row.scheduleId == scheduleId && row.status == status).length =
        ((db.scheduleSeats.filter (·.scheduleId == scheduleId)).map
          (·.status)).count status := by
    rw [List.count, List.countP_map, List.countP_eq_length_filter,
      List.filter_filter]
    congr 1
    refine List.filter_congr fun row _ => ?_
    exact Bool.and_comm _ _
  rw [counted, countOf, seatStatusCounts, lookup_map SeatStatus.text_injective]
  split
  · rfl
  · rename_i absent
    rw [List.mem_dedup] at absent
    exact (List.count_eq_zero_of_not_mem absent).symm

theorem sum_seatStatusCounts :
    ((seatStatusCounts scheduleId db).map (·.2)).sum =
      (db.scheduleSeats.filter (·.scheduleId == scheduleId)).length := by
  rw [seatStatusCounts, List.map_map]
  refine (List.sum_map_count_dedup_eq_length _).trans ?_
  exact List.length_map _

theorem nodup_seatStatusCounts :
    ((seatStatusCounts scheduleId db).map (·.1)).Nodup := by
  rw [seatStatusCounts, List.map_map]
  exact (List.nodup_dedup _).map SeatStatus.text_injective

end Counts

/-! ## Booked seats and paid orders -/

namespace Db

/-- The paid orders of some schedules. -/
def paidOrders (db : Db) (schedules : Nat → Bool) : List Order :=
  db.orders.filter fun order =>
    order.status == .paid && schedules order.scheduleId

/-- The booked seats of some schedules. -/
def bookedSeats (db : Db) (schedules : Nat → Bool) : List ScheduleSeat :=
  db.scheduleSeats.filter fun row =>
    schedules row.scheduleId && row.status == .booked

namespace Sound

variable {db : Db}

/-- A booked seat is wanted by some paid order. -/
theorem owner_of_booked (sound : db.Sound) {row : ScheduleSeat}
    (member : row ∈ db.scheduleSeats) (booked : row.status = .booked) :
    ∃ order ∈ db.orders, order.status = .paid ∧ order.wants row.stock = true := by
  obtain ⟨item, itemMember, same, order, orderMember, owns, paid⟩ :=
    (sound.booked row member).mp booked
  have confirmed := (sound.fillable order orderMember).answered paid
  have listed : item ∈ db.itemsOf order.id :=
    List.mem_filter.mpr ⟨itemMember, by simp [owns]⟩
  obtain ⟨bought, wanted, rfl⟩ :=
    List.mem_map.mp ((sound.itemsOf_perm orderMember confirmed).mem_iff.mp listed)
  obtain ⟨boughtMember, wants⟩ := List.mem_filter.mp wanted
  have equal : bought = row := sound.rowUnique.eq boughtMember member same
  exact ⟨order, orderMember, paid, equal ▸ wants⟩

/-- A booked seat has one paid order, and any other seat has none. -/
theorem owners_length (sound : db.Sound) (schedules : Nat → Bool)
    {row : ScheduleSeat} (member : row ∈ db.scheduleSeats) :
    ((db.paidOrders schedules).filter fun order => order.wants row.stock).length =
      if schedules row.scheduleId && row.status == .booked then 1 else 0 := by
  have paidOf {order : Order}
      (listed :
        order ∈
          (db.paidOrders schedules).filter fun order => order.wants row.stock) :
      order ∈ db.orders ∧ order.status = .paid ∧
        schedules order.scheduleId = true ∧ order.wants row.stock = true := by
    obtain ⟨paid, wants⟩ := List.mem_filter.mp listed
    obtain ⟨own, meets⟩ := List.mem_filter.mp paid
    rw [Bool.and_eq_true, beq_iff_eq] at meets
    exact ⟨own, meets.1, meets.2, wants⟩
  have placed {order : Order} (wants : order.wants row.stock = true) :
      row.scheduleId = order.scheduleId ∧ row.seatId ∈ order.seatIds := by
    rw [Order.wants, Bool.and_eq_true, beq_iff_eq] at wants
    exact ⟨wants.1, List.contains_iff_mem.mp wants.2⟩
  split
  · rename_i counted
    rw [Bool.and_eq_true, beq_iff_eq] at counted
    obtain ⟨order, orderMember, paid, wants⟩ :=
      sound.owner_of_booked member counted.2
    have here := placed wants
    have listed :
        order ∈
          (db.paidOrders schedules).filter fun order =>
            order.wants row.stock := by
      refine List.mem_filter.mpr ⟨List.mem_filter.mpr ⟨orderMember, ?_⟩, wants⟩
      simp [paid, ← here.1, counted.1]
    have only :
        ((db.paidOrders schedules).filter fun order =>
            order.wants row.stock) ⊆ [order] := by
      intro other otherListed
      obtain ⟨otherMember, otherPaid, -, otherWants⟩ := paidOf otherListed
      have there := placed otherWants
      rw [List.mem_singleton]
      exact
        sound.soldOnce.disjoint other otherMember order orderMember otherPaid paid
          (there.1.symm.trans here.1) row.seatId there.2 here.2
    have distinct := (List.Nodup.of_map _ sound.orderIdUnique).filter
      fun order => order.status == .paid && schedules order.scheduleId
    have bound := (distinct.filter _).length_le_of_subset only
    have nonempty := List.length_pos_of_mem listed
    exact Nat.le_antisymm bound nonempty
  · rename_i uncounted
    rw [List.length_eq_zero_iff, List.eq_nil_iff_forall_not_mem]
    intro order listed
    obtain ⟨orderMember, paid, same, wants⟩ := paidOf listed
    apply uncounted
    rw [sound.booked_of_paid orderMember paid member wants, (placed wants).1, same]
    rfl

/-- What the booked seats add up to, over the paid orders. -/
theorem sum_bookedSeats (sound : db.Sound) (schedules : Nat → Bool)
    {Value : Type} [AddCommMonoid Value] (amount : ScheduleSeat → Value) :
    ((db.bookedSeats schedules).map amount).sum =
      ((db.paidOrders schedules).map fun order =>
        ((db.scheduleSeats.filter fun row => order.wants row.stock).map
          amount).sum).sum :=
  sum_filter_eq_sum_owned amount fun _ member =>
    sound.owners_length schedules member

/-- The booked seats are as many as the seats of the paid orders. -/
theorem length_bookedSeats (sound : db.Sound) (schedules : Nat → Bool) :
    (db.bookedSeats schedules).length =
      ((db.paidOrders schedules).map fun order => order.seatIds.length).sum := by
  have ones := sound.sum_bookedSeats schedules fun _ => 1
  simp only [List.map_const', List.sum_replicate_nat, mul_one] at ones
  rw [ones]
  refine congrArg List.sum (List.map_congr_left fun order listed => ?_)
  have seats := sound.wanted_seats (List.mem_of_mem_filter listed)
  rw [← seats.length_eq, List.length_map]

/-- The prices of the booked seats are what the paid orders have paid. -/
theorem prices_bookedSeats (sound : db.Sound) (schedules : Nat → Bool) :
    ((db.bookedSeats schedules).map (·.price)).sum =
      ((db.paidOrders schedules).map (·.totalAmount)).sum := by
  rw [sound.sum_bookedSeats]
  refine congrArg List.sum (List.map_congr_left fun order listed => ?_)
  have total := (sound.fillable order (List.mem_of_mem_filter listed)).total
  rw [total, order.lines_stock, List.map_map]
  rfl

end Sound

/-- What the counts say about the stock and the orders of a schedule. -/
structure Census (db : Db) (rows : List ScheduleSeat) (scheduleId : Nat) :
    Prop where
  distinct : ((seatStatusCounts scheduleId db).map (·.1)).Nodup
  whole :
    ((seatStatusCounts scheduleId db).map (·.2)).sum =
      (rows.filter (·.scheduleId == scheduleId)).length
  booked :
    countOf .booked (seatStatusCounts scheduleId db) =
      ((db.paidOrders (· == scheduleId)).map fun order =>
        order.seatIds.length).sum
  takings :
    ((db.bookedSeats (· == scheduleId)).map (·.price)).sum =
      ((db.paidOrders (· == scheduleId)).map (·.totalAmount)).sum

end Db

/--
In every run the counts by status add up to the stock that was laid out, the
booked seats are those of the paid orders, and so are their prices.
-/
theorem World.census
    {inventory : Inventory} {startsAt : Nat → Policy.Datetime} {clock : Time}
    {world : World}
    (run :
      TransitionSystem.Reachable World.step
        (World.initial inventory startsAt clock) world)
    (scheduleId : Nat) :
    world.db.Census inventory.rows scheduleId := by
  have kept :
      world.Consistent ∧
        world.db.stock = inventory.rows.map ScheduleSeat.stock := by
    apply run.invariant
    · exact ⟨initial_consistent inventory startsAt clock, rfl⟩
    · rintro before action after ⟨consistent, stock⟩ _ taken
      exact ⟨consistent.step taken, (World.step_stock taken).trans stock⟩
  obtain ⟨consistent, stock⟩ := kept
  have sound := consistent.sound
  have rows (seats : List ScheduleSeat) :
      (seats.filter (·.scheduleId == scheduleId)).length =
        ((seats.map ScheduleSeat.stock).filter
          (·.scheduleId == scheduleId)).length := by
    rw [List.filter_map, List.length_map]
    rfl
  refine
    { distinct := nodup_seatStatusCounts
      whole := ?_
      booked := ?_
      takings := sound.prices_bookedSeats _ }
  · rw [sum_seatStatusCounts, rows, rows, ← stock]
    rfl
  · rw [countOf_seatStatusCounts]
    exact sound.length_bookedSeats (· == scheduleId)

/-- The only seat is sold. -/
theorem World.census_paid :
    ∃ world : World,
      (seatStatusCounts 1 world.db == [("BOOKED", 1)]) = true ∧
        world.db.Census Inventory.oneSeat.rows 1 := by
  obtain ⟨world, run, seen⟩ :=
    TransitionSystem.RunWhere.exists_of_checkedRun World.step
      (fun _ _ => True) World.oneSeat
      (Action.order 7 "key" ++ Action.pay "tid-1")
      (fun world => seatStatusCounts 1 world.db == [("BOOKED", 1)])
      (by decide)
  exact ⟨world, seen, census run 1⟩

end Curtain
