import Curtain.Records
import Mathlib.Data.List.Forall2

/-!
# The declared state machines

The domain declares which states of seats and orders follow each other, and
the schema constrains the shape of a hold.  No statement consults either.
Every statement that writes a seat or an order stays within both.
-/

namespace Curtain

open Queries Table

/-! ## The statements -/

/-- Who runs `mark_order`. -/
inductive MarkOrderCaller where
  | placeDeclined
  | reconcileDeclined
  | refundAndFail
  | cancel

def MarkOrderCaller.status : MarkOrderCaller → OrderStatus
  | .placeDeclined => .failed
  | .reconcileDeclined => .canceled
  | .refundAndFail => .failed
  | .cancel => .canceled

def MarkOrderCaller.expect : MarkOrderCaller → OrderStatus
  | .placeDeclined => .pending
  | .reconcileDeclined => .pending
  | .refundAndFail => .pending
  | .cancel => .paid

/-- The statements that write seats or orders, with their arguments. -/
inductive Statement where
  | holdSeats (scheduleId userId : Nat) (seatIds : List Nat) (maxSeats : Nat)
      (holdTtlSec : Int)
  | releaseHold (scheduleId userId : Nat) (seatIds : List Nat)
  | sweepExpiredHolds (batch : Nat) (locked : Nat → Bool)
  | openOrder (scheduleId userId : Nat) (seatIds : List Nat)
      (idempotencyKey : String) (minHoldRemainingSec : Int)
  | markOrderPaid (orderId : Nat)
  | markOrder (orderId : Nat) (caller : MarkOrderCaller)
  | bookOrderSeats (orderId : Nat)
  | restoreOrderSeats (orderId : Nat)

/-- The database after a statement. -/
def Statement.run (now : Time) (db : Db) : Statement → Except Raised Db
  | .holdSeats scheduleId userId seatIds maxSeats holdTtlSec =>
      .ok (Queries.holdSeats scheduleId userId seatIds maxSeats holdTtlSec now db).2
  | .releaseHold scheduleId userId seatIds =>
      .ok (Queries.releaseHold scheduleId userId seatIds db).2
  | .sweepExpiredHolds batch locked =>
      .ok (Queries.sweepExpiredHolds batch locked now db).2
  | .openOrder scheduleId userId seatIds idempotencyKey minHoldRemainingSec =>
      (Queries.openOrder scheduleId userId seatIds idempotencyKey
        minHoldRemainingSec now db).map (·.2)
  | .markOrderPaid orderId => .ok (Queries.markOrderPaid orderId db).2
  | .markOrder orderId caller =>
      .ok (Queries.markOrder orderId caller.status caller.expect db).2
  | .bookOrderSeats orderId => .ok (Queries.bookOrderSeats orderId db).2
  | .restoreOrderSeats orderId => .ok (Queries.restoreOrderSeats orderId db).2

/-! ## Following the tables -/

/-- Every row is a row of the schema: its id is its own, and its hold has the shape. -/
structure Db.Shaped (db : Db) : Prop where
  rowUnique : Unique ScheduleSeat.id db.scheduleSeats
  shaped : ∀ row ∈ db.scheduleSeats, row.holdShape = true

/--
A seat goes along an edge of its table, and a hold passes on only once it has
expired.
-/
structure ScheduleSeat.Follows (now : Time) (row later : ScheduleSeat) : Prop where
  stock : later.stock = row.stock
  edge :
    later.status ≠ row.status →
      SeatStatus.canTransition row.status later.status = true
  expired :
    row.status = .held → later.status = .held →
      (later.heldBy ≠ row.heldBy ∨ later.holdExpiresAt ≠ row.holdExpiresAt) →
        ∃ expiresAt, row.holdExpiresAt = some expiresAt ∧ expiresAt < now

/-- An order goes along an edge of its table, which leaves canceled and failed alone. -/
structure Order.Follows (order later : Order) : Prop where
  id : later.id = order.id
  edge :
    later.status ≠ order.status →
      OrderStatus.canTransition order.status later.status = true
  terminal :
    order.status = .canceled ∨ order.status = .failed →
      later.status = order.status

/-- Seats and orders go along the edges, row by row; a new order is pending. -/
structure Db.Follows (now : Time) (db after : Db) : Prop where
  seats :
    List.Forall₂ (ScheduleSeat.Follows now) db.scheduleSeats after.scheduleSeats
  orders :
    ∃ kept added, after.orders = kept ++ added ∧
      List.Forall₂ Order.Follows db.orders kept ∧
      ∀ order ∈ added, order.status = .pending

section Statements

variable {db after : Db} {now : Time}

theorem ScheduleSeat.Follows.refl (row : ScheduleSeat) : row.Follows now row where
  stock := rfl
  edge := fun changed => absurd rfl changed
  expired := fun _ _ changed => by simp at changed

theorem Order.Follows.refl (order : Order) : order.Follows order where
  id := rfl
  edge := fun changed => absurd rfl changed
  terminal := fun _ => rfl

/-- The condition of `hold_seats` is the claimability that the domain declares. -/
theorem claimable_holds (row : ScheduleSeat) :
    (claimable now row).holds =
      SeatStatus.isClaimable row.status (row.holdExpiresAt.any (· < now)) := by
  simp only [claimable, Truth.holds_or, Truth.holds_and, Truth.holds_some,
    holds_whenPresent, SeatStatus.isClaimable]
  cases row.status <;> simp

theorem ScheduleSeat.Follows.of_edge {row later : ScheduleSeat}
    (stock : later.stock = row.stock)
    (edge : SeatStatus.canTransition row.status later.status = true) :
    row.Follows now later where
  stock := stock
  edge := fun _ => edge
  expired := by
    intro held stillHeld
    rw [held, stillHeld] at edge
    cases edge

theorem follows_hold {userId : Nat} {expiresAt : Time} {row : ScheduleSeat}
    (claims : (claimable now row).holds = true) :
    row.Follows now (hold userId expiresAt row) := by
  rw [claimable_holds, SeatStatus.isClaimable] at claims
  split at claims
  · rename_i available
    refine .of_edge rfl ?_
    rw [available]
    rfl
  · simp only [Bool.and_eq_true, beq_iff_eq, Option.any_eq_true,
      decide_eq_true_eq] at claims
    exact
      { stock := rfl
        edge := fun changed => absurd claims.1.symm changed
        expired := fun _ _ _ => claims.2 }

theorem follows_free {row : ScheduleSeat} (held : row.status = .held) :
    row.Follows now (free row) := by
  refine .of_edge rfl ?_
  rw [held]
  rfl

theorem follows_book {row : ScheduleSeat} (held : row.status = .held) :
    row.Follows now (book row) := by
  refine .of_edge rfl ?_
  rw [held]
  rfl

theorem follows_restore {row : ScheduleSeat} (booked : row.status = .booked) :
    row.Follows now (restore row) := by
  refine .of_edge rfl ?_
  rw [booked]
  rfl

/-- A terminal state is one that the table lets nothing leave. -/
theorem isTerminal_iff {status : OrderStatus} :
    OrderStatus.isTerminal status = true ↔
      status = .canceled ∨ status = .failed := by
  cases status <;> simp [OrderStatus.isTerminal, OrderStatus.allowed]

theorem canTransition_of_terminal {status later : OrderStatus}
    (terminal : OrderStatus.isTerminal status = true) :
    OrderStatus.canTransition status later = false := by
  rw [OrderStatus.isTerminal, List.isEmpty_iff] at terminal
  rw [OrderStatus.canTransition, terminal]
  rfl

theorem Order.Follows.of_edge {order later : Order} (id : later.id = order.id)
    (edge : OrderStatus.canTransition order.status later.status = true) :
    order.Follows later where
  id := id
  edge := fun _ => edge
  terminal := by
    intro final
    rw [canTransition_of_terminal (isTerminal_iff.mpr final)] at edge
    cases edge

/-! ## The shape of a hold -/

theorem holdShape_hold (userId : Nat) (expiresAt : Time) (row : ScheduleSeat) :
    (hold userId expiresAt row).holdShape = true := rfl

theorem holdShape_free (row : ScheduleSeat) : (free row).holdShape = true := rfl

theorem holdShape_book (row : ScheduleSeat) : (book row).holdShape = true := rfl

/-- A booked seat has no hold that a restoration could leave behind. -/
theorem holdShape_restore {row : ScheduleSeat}
    (shaped : row.holdShape = true) (booked : row.status = .booked) :
    (restore row).holdShape = true := by
  simpa [ScheduleSeat.holdShape, restore, booked] using shaped

/-! ## Every statement -/

/-- An update of seats follows the table when every touched row does. -/
theorem follows_updateSeats {condition : ScheduleSeat → Bool}
    {change : ScheduleSeat → ScheduleSeat}
    (follows :
      ∀ row ∈ db.scheduleSeats, condition row = true →
        row.Follows now (change row)) :
    db.Follows now (db.updateSeats condition change) where
  seats := forall₂_updateWhere ScheduleSeat.Follows.refl follows
  orders :=
    ⟨db.orders, [], (List.append_nil _).symm,
      List.forall₂_same.mpr fun order _ => .refl order, by simp⟩

theorem Db.Shaped.updateSeats (shaped : db.Shaped)
    {condition : ScheduleSeat → Bool} {change : ScheduleSeat → ScheduleSeat}
    (kept : ∀ row, (change row).id = row.id)
    (changed :
      ∀ row ∈ db.scheduleSeats, condition row = true →
        (change row).holdShape = true) :
    (db.updateSeats condition change).Shaped where
  rowUnique := shaped.rowUnique.updateWhere kept
  shaped := by
    intro row member
    obtain ⟨old, oldMember, ⟨touched, rfl⟩ | ⟨-, rfl⟩⟩ := mem_updateWhere.mp member
    · exact changed old oldMember touched
    · exact shaped.shaped row oldMember

/-- An update of orders follows the table when it goes along one edge. -/
theorem follows_updateOrder {condition : Order → Bool}
    {change : Order → Order}
    (follows :
      ∀ order ∈ db.orders, condition order = true →
        order.Follows (change order)) :
    db.Follows now (updateOrder condition change db).2 where
  seats := List.forall₂_same.mpr fun row _ => .refl row
  orders :=
    ⟨_, [], (List.append_nil _).symm,
      forall₂_updateWhere Order.Follows.refl follows, by simp⟩

/-- The arguments of every caller are an edge. -/
theorem MarkOrderCaller.edge (caller : MarkOrderCaller) :
    OrderStatus.canTransition caller.expect caller.status = true := by
  cases caller <;> rfl

theorem follows_markOrder {orderId : Nat} {status expect : OrderStatus}
    (edge : OrderStatus.canTransition expect status = true) :
    db.Follows now (markOrder orderId status expect db).2 := by
  refine follows_updateOrder fun order _ touched => .of_edge rfl ?_
  simp only [Bool.and_eq_true, beq_iff_eq] at touched
  rw [touched.2]
  exact edge

/-- An insertion of an order moves no other row. -/
theorem follows_openOrder {scheduleId userId : Nat} {seatIds : List Nat}
    {idempotencyKey : String} {minHoldRemainingSec : Int}
    {opened : Option Order}
    (ok :
      openOrder scheduleId userId seatIds idempotencyKey minHoldRemainingSec now
        db = .ok (opened, after)) :
    db.Follows now after ∧ after.scheduleSeats = db.scheduleSeats := by
  have unmoved : db.Follows now db :=
    { seats := List.forall₂_same.mpr fun row _ => .refl row
      orders :=
        ⟨db.orders, [], (List.append_nil _).symm,
          List.forall₂_same.mpr fun order _ => .refl order, by simp⟩ }
  rw [openOrder] at ok
  split at ok
  · cases ok
    exact ⟨unmoved, rfl⟩
  · split at ok
    · cases ok
    · split at ok
      · cases ok
        exact ⟨unmoved, rfl⟩
      · cases ok
        exact
          ⟨{ seats := unmoved.seats
             orders :=
               ⟨db.orders, _, rfl,
                 List.forall₂_same.mpr fun order _ => .refl order, by simp⟩ },
            rfl⟩

/-- Whatever its arguments, a statement follows the tables and keeps the shape. -/
theorem Statement.follows (shaped : db.Shaped) {statement : Statement}
    (ok : statement.run now db = .ok after) :
    db.Follows now after ∧ after.Shaped := by
  have sameSeats :
      after.scheduleSeats = db.scheduleSeats → after.Shaped := by
    intro same
    exact
      { rowUnique := by rw [same]; exact shaped.rowUnique
        shaped := by rw [same]; exact shaped.shaped }
  cases statement with
  | holdSeats scheduleId userId seatIds maxSeats holdTtlSec =>
      cases ok
      rw [holdSeats_eq shaped.rowUnique]
      constructor
      · refine follows_updateSeats fun row _ touched => follows_hold ?_
        simp only [isTarget, Bool.and_eq_true] at touched
        exact touched.1.2
      · exact
          shaped.updateSeats (fun _ => rfl) fun row _ _ => holdShape_hold _ _ row
  | releaseHold scheduleId userId seatIds =>
      cases ok
      constructor
      · refine follows_updateSeats fun row _ touched => follows_free ?_
        simp only [isHoldOf, Bool.and_eq_true, beq_iff_eq] at touched
        exact touched.1.2
      · exact shaped.updateSeats (fun _ => rfl) fun row _ _ => holdShape_free row
  | sweepExpiredHolds batch locked =>
      cases ok
      obtain ⟨condition, expired, equal⟩ :=
        sweepExpired_snd shaped.rowUnique now batch locked
      have swept :
          (Queries.sweepExpiredHolds batch locked now db).2 =
            db.updateSeats condition free := equal
      rw [swept]
      constructor
      · refine follows_updateSeats fun row member touched => follows_free ?_
        have held := expired row member touched
        simp only [isExpiredHold, Bool.and_eq_true, beq_iff_eq] at held
        exact held.1
      · exact shaped.updateSeats (fun _ => rfl) fun row _ _ => holdShape_free row
  | openOrder scheduleId userId seatIds idempotencyKey minHoldRemainingSec =>
      simp only [Statement.run] at ok
      cases opens :
          Queries.openOrder scheduleId userId seatIds idempotencyKey
            minHoldRemainingSec now db with
      | error error =>
          rw [opens] at ok
          cases ok
      | ok result =>
          rw [opens] at ok
          cases ok
          obtain ⟨follows, same⟩ := follows_openOrder opens
          exact ⟨follows, sameSeats same⟩
  | markOrderPaid orderId =>
      cases ok
      refine ⟨follows_updateOrder fun order _ touched => .of_edge rfl ?_, sameSeats rfl⟩
      simp only [Bool.and_eq_true, beq_iff_eq] at touched
      rw [touched.2]
      rfl
  | markOrder orderId caller =>
      cases ok
      exact ⟨follows_markOrder caller.edge, sameSeats rfl⟩
  | bookOrderSeats orderId =>
      cases ok
      constructor
      · refine follows_updateSeats fun row _ touched => follows_book ?_
        simp only [Bool.and_eq_true, beq_iff_eq] at touched
        exact touched.2
      · exact shaped.updateSeats (fun _ => rfl) fun row _ _ => holdShape_book row
  | restoreOrderSeats orderId =>
      cases ok
      constructor
      · refine follows_updateSeats fun row _ touched => follows_restore ?_
        simp only [Bool.and_eq_true, beq_iff_eq] at touched
        exact touched.2
      · refine shaped.updateSeats (fun _ => rfl) fun row member touched => ?_
        simp only [Bool.and_eq_true, beq_iff_eq] at touched
        exact holdShape_restore (shaped.shaped row member) touched.2

end Statements

/-! ## Every run -/

namespace World

variable {world next : World} {action : Action}

/-- Every row of a world has the shape of a hold. -/
def Shaped (world : World) : Prop :=
  ∀ row ∈ world.db.scheduleSeats, row.holdShape = true

theorem holdShape_becomes {before : Option Task} {old row : ScheduleSeat}
    (shaped : old.holdShape = true)
    (becomes : old.Becomes world action before row) :
    row.holdShape = true := by
  cases becomes with
  | same => exact shaped
  | held => exact holdShape_hold _ _ old
  | dropped => exact holdShape_free old
  | released => exact holdShape_free old
  | booked => exact holdShape_book old
  | restored cancellation attempt source paid listed booked =>
      exact holdShape_restore shaped booked

theorem Shaped.step (shaped : world.Shaped) (consistent : world.Consistent)
    (taken : world.step action = some next) :
    next.Shaped := by
  obtain ⟨after, exchange, turn⟩ := step_turn taken
  obtain ⟨turned, equal, becomes⟩ := turn.seats consistent
  intro row member
  rw [equal] at member
  obtain ⟨old, oldMember, rfl⟩ := List.mem_map.mp member
  exact holdShape_becomes (shaped old oldMember) (becomes old oldMember)

theorem Shaped.initial
    (inventory : Inventory) (startsAt : Nat → Policy.Datetime) (clock : Time) :
    (World.initial inventory startsAt clock).Shaped := by
  intro row member
  obtain ⟨available, unowned, endless⟩ := inventory.available row member
  simp [ScheduleSeat.holdShape, available, unowned, endless]

/-- A step leaves every canceled and every failed order as it is. -/
theorem terminal_step (consistent : world.Consistent)
    (taken : world.step action = some next) {order : Order}
    (member : order ∈ world.db.orders)
    (terminal : OrderStatus.isTerminal order.status = true) :
    order ∈ next.db.orders := by
  have sound := consistent.sound
  obtain ⟨after, exchange, turn⟩ := step_turn taken
  generalize current : world.taskOf action = before at turn exchange
  have known := exchange.mem_before
  have grows := turn.grows consistent
  obtain ⟨kept, keptMember, head⟩ :=
    List.mem_map.mp (grows.orders.subset (List.mem_map_of_mem member))
  have keptId := Order.id_of_head head
  rcases turn.order_becomes consistent known kept keptMember with
    ⟨old, oldMember, becomes⟩ | ⟨-, request, opened⟩
  · have oldId := Order.id_of_head becomes.head
    have same := sound.order_eq oldMember member (oldId.symm.trans keptId)
    subst same
    cases becomes with
    | same => exact keptMember
    | paid snapshot pgTid pending | unpaid status pending
    | refunded refunded total why attempt pending =>
        rw [pending] at terminal
        cases terminal
    | canceled cancellation attempt paid =>
        rw [paid] at terminal
        cases terminal
  · exact absurd keptId.symm (opened.older sound.orderIdBound member).ne

/--
In every run each statement, with any arguments, moves seats and orders along
the edges of the declared tables and keeps the shape of every hold.  It does so
on the tables of any reachable world and on whatever the statements before it
in its transaction have made of them.
-/
theorem statements_follow_the_tables
    {inventory : Inventory} {startsAt : Nat → Policy.Datetime} {clock : Time}
    (reachable :
      TransitionSystem.Reachable World.step
        (World.initial inventory startsAt clock) world) :
    world.db.Shaped ∧
    (∀ db : Db, db.Shaped → ∀ now (statement : Statement) after,
      statement.run now db = .ok after → db.Follows now after ∧ after.Shaped) ∧
    (∀ orderId status, .settling (.closing orderId status) ∈ world.tasks →
      ∃ caller : MarkOrderCaller,
        caller.status = status ∧ caller.expect = .pending) ∧
    ∀ order ∈ world.db.orders,
      order.status = .canceled ∨ order.status = .failed →
        ∀ later, TransitionSystem.Reachable World.step world later →
          order ∈ later.db.orders := by
  have consistent := consistent_of_reachable reachable
  refine ⟨?_, fun db shaped now statement after ok => statement.follows shaped ok,
    ?_, ?_⟩
  · have both : world.Consistent ∧ world.Shaped := by
      apply reachable.invariant
      · exact
          ⟨initial_consistent inventory startsAt clock,
            Shaped.initial inventory startsAt clock⟩
      · intro state action after both _ taken
        exact ⟨both.1.step taken, both.2.step both.1 taken⟩
    exact { rowUnique := consistent.sound.rowUnique, shaped := both.2 }
  · intro orderId status member
    have final : status = .failed ∨ status = .canceled :=
      consistent.closings _ member
    rcases final with rfl | rfl
    · exact ⟨.placeDeclined, rfl, rfl⟩
    · exact ⟨.reconcileDeclined, rfl, rfl⟩
  · intro order member terminal later run
    have both : later.Consistent ∧ order ∈ later.db.orders := by
      apply run.invariant
      · exact ⟨consistent, member⟩
      · intro state action after both _ taken
        exact
          ⟨both.1.step taken,
            terminal_step both.1 taken both.2 (isTerminal_iff.mpr terminal)⟩
    exact both.2

/-- A seat that was held, booked and restored, and its canceled order. -/
theorem statements_follow_the_tables_canceled :
    ∃ world : World, world.db.Shaped ∧ ∃ order ∈ world.db.orders,
      order.status = .canceled ∧
        ∀ later, TransitionSystem.Reachable World.step world later →
          order ∈ later.db.orders := by
  obtain ⟨world, run, seen⟩ :=
    TransitionSystem.RunWhere.exists_of_checkedRun World.step
      (fun _ _ => True) World.oneSeat
      (Action.order 7 "key" ++ Action.pay "tid-1" ++
        [.startCancel 1 none,
         .execute 0 "refund-1",
         .answer 0 { result := .approved, pgTid := some "refund-1" },
         .advance 0])
      (fun world : World =>
        world.db.orders.any fun order => order.status == .canceled)
      (by decide)
  obtain ⟨shaped, -, -, terminal⟩ := statements_follow_the_tables run
  obtain ⟨order, member, canceled⟩ := List.any_eq_true.mp seen
  rw [beq_iff_eq] at canceled
  exact
    ⟨world, shaped, order, member, canceled,
      terminal order member (Or.inl canceled)⟩

end World

end Curtain
