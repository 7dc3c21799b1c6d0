import Curtain.Records
import Curtain.Keys

/-!
# Orders that share a hold

A hold belongs to a user, not to an order, so two orders of one user may name
the same held seat.  Closing one of them releases the holds of the user on all
the seats it names.  It takes a seat from the other order exactly when it
releases anything and both name a seat that is held.
-/

namespace Curtain

open Queries Table HoldService OrderService

/-- The order names the row, and its user holds it with time left. -/
def Order.holds (order : Order) (now : Time) (row : ScheduleSeat) : Bool :=
  order.wants row.stock && heldLive order.userId now row

/-- What the user holds for the order is held as before. -/
def Db.KeepsHolds (db after : Db) (order : Order) (now : Time) : Prop :=
  ∀ row ∈ db.scheduleSeats, order.holds now row = true →
    ∃ later ∈ after.scheduleSeats, later.id = row.id ∧
      later.status = .held ∧ later.heldBy = some order.userId ∧
        later.holdExpiresAt = row.holdExpiresAt

/-- Both orders name a seat that is held for the second one. -/
def Db.SharesHold (db : Db) (first second : Order) (now : Time) : Prop :=
  ∃ row ∈ db.scheduleSeats,
    first.wants row.stock = true ∧ second.holds now row = true

section Release

variable {db after : Db} {now : Time} {first second : Order}

theorem heldLive_iff {userId : Nat} {row : ScheduleSeat} :
    heldLive userId now row = true ↔
      row.status = .held ∧ row.heldBy = some userId ∧
        ∃ expiresAt, row.holdExpiresAt = some expiresAt ∧ now < expiresAt := by
  simp [heldLive, Option.any_eq_true, and_assoc]

/-- A transaction that leaves the stock alone keeps every hold. -/
theorem keepsHolds_of_same (same : after.scheduleSeats = db.scheduleSeats) :
    db.KeepsHolds after second now := by
  intro row member holds
  rw [Order.holds, Bool.and_eq_true, heldLive_iff] at holds
  exact ⟨row, same ▸ member, rfl, holds.2.1, holds.2.2.1, rfl⟩

/-- The release of one order takes the holds it shares with the other. -/
theorem keepsHolds_release (sound : db.Sound)
    (sameUser : first.userId = second.userId)
    (released :
      after.scheduleSeats =
        updateWhere (isHoldOf first.scheduleId first.userId first.seatIds) free
          db.scheduleSeats) :
    db.KeepsHolds after second now ↔ ¬ db.SharesHold first second now := by
  constructor
  · rintro keeps ⟨row, member, wanted, holds⟩
    obtain ⟨later, laterMember, laterId, held, -⟩ := keeps row member holds
    rw [Order.holds, Bool.and_eq_true, heldLive_iff] at holds
    rw [released] at laterMember
    obtain ⟨old, oldMember, ⟨-, rfl⟩ | ⟨untouched, rfl⟩⟩ :=
      mem_updateWhere.mp laterMember
    · cases held
    · have same := sound.rowUnique.eq oldMember member laterId
      have ownHold :
          isHoldOf first.scheduleId first.userId first.seatIds row = true := by
        simp only [isHoldOf, Bool.and_eq_true, beq_iff_eq, List.contains_iff_mem]
        obtain ⟨inSchedule, named⟩ := Order.wants_narrower row wanted
        exact ⟨⟨⟨inSchedule, named⟩, holds.2.1⟩, sameUser ▸ holds.2.2.1⟩
      rw [same, ownHold] at untouched
      cases untouched
  · intro apart row member holds
    have unnamed : first.wants row.stock = false := by
      rw [Bool.eq_false_iff]
      intro wanted
      exact apart ⟨row, member, wanted, holds⟩
    have untouched :
        isHoldOf first.scheduleId first.userId first.seatIds row = false := by
      rw [Bool.eq_false_iff]
      intro held
      simp only [isHoldOf, Bool.and_eq_true] at held
      rw [Order.wants, Bool.and_eq_false_iff] at unnamed
      rcases unnamed with otherSchedule | otherSeat
      · exact Bool.eq_false_iff.mp otherSchedule held.1.1.1
      · exact Bool.eq_false_iff.mp otherSeat held.1.1.2
    rw [Order.holds, Bool.and_eq_true, heldLive_iff] at holds
    refine ⟨row, ?_, rfl, holds.2.1, holds.2.2.1, rfl⟩
    rw [released]
    exact mem_updateWhere_of_not member untouched

/-- `_close_unpaid` releases the holds of a pending order. -/
theorem closeUnpaid_scheduleSeats (sound : db.Sound)
    (member : first ∈ db.orders) (pending : first.status = .pending)
    {status : OrderStatus}
    (ok : closeUnpaid first.id status db = .ok after) :
    after.scheduleSeats =
      updateWhere (isHoldOf first.scheduleId first.userId first.seatIds) free
        db.scheduleSeats := by
  obtain ⟨order, loaded, rest⟩ := bind_eq_ok.mp ok
  obtain ⟨orderMember, equal⟩ := loadOrder_ok loaded
  have same := sound.order_eq orderMember member equal
  subst same
  dsimp only at rest
  split at rest
  · rename_i settled
    exact absurd settled (markOrder_ne_nil.mpr ⟨order, member, rfl, pending⟩)
  · split at rest
    · rename_i empty
      cases rest
      have untouched :
          ∀ row ∈ db.scheduleSeats,
            isHoldOf order.scheduleId order.userId order.seatIds row = false := by
        intro row _
        simp [isHoldOf, empty]
      exact (updateWhere_eq_self untouched).symm
    · cases rest
      rfl

/-- `_close_unpaid` leaves the stock alone when the order is settled already. -/
theorem closeUnpaid_settled (sound : db.Sound)
    (member : first ∈ db.orders) (settled : first.status ≠ .pending)
    {status : OrderStatus}
    (ok : closeUnpaid first.id status db = .ok after) :
    after = db := by
  rcases closeUnpaid_ok ok with rfl | ⟨-, -, -, ⟨row, rowMember, equal, pending⟩, -⟩
  · rfl
  · rw [sound.order_eq rowMember member equal] at pending
    exact absurd pending settled

end Release

/-! ## Every run -/

namespace World

variable {world : World}

/--
In every reachable world, closing one order of a user leaves what the user
holds for another one exactly when it releases nothing, or no seat that both
name is held.
-/
theorem closing_keeps_the_holds_of_others
    {inventory : Inventory} {startsAt : Nat → Policy.Datetime} {clock : Time}
    (reachable :
      TransitionSystem.Reachable World.step
        (World.initial inventory startsAt clock) world) :
    ∀ first ∈ world.db.orders, ∀ second ∈ world.db.orders,
      first.id ≠ second.id → first.userId = second.userId →
        (∀ status after, closeUnpaid first.id status world.db = .ok after →
          (world.db.KeepsHolds after second world.clock ↔
            first.status ≠ .pending ∨
              ¬ world.db.SharesHold first second world.clock)) ∧
        ∀ read total attempt after, read.head = first.head →
          recordRefund read total attempt world.db = .ok after →
            (world.db.KeepsHolds after second world.clock ↔
              attempt.approved = false ∨
                ¬ world.db.SharesHold first second world.clock) := by
  have sound := (consistent_of_reachable reachable).sound
  intro first firstMember second _ _ sameUser
  constructor
  · intro status after ok
    by_cases pending : first.status = .pending
    · rw [or_iff_right (not_not.mpr pending)]
      exact
        keepsHolds_release sound sameUser
          (closeUnpaid_scheduleSeats sound firstMember pending ok)
    · rw [closeUnpaid_settled sound firstMember pending ok]
      exact iff_of_true (keepsHolds_of_same rfl) (Or.inl pending)
  · intro read total attempt after head ok
    have scheduleId : read.scheduleId = first.scheduleId := by
      show read.head.scheduleId = first.head.scheduleId
      rw [head]
    have seatIds : read.seatIds = first.seatIds := by
      show read.head.seatIds = first.head.seatIds
      rw [head]
    have userId := Order.userId_of_head head
    obtain ⟨middle, inserted, equal⟩ := recordRefund_ok ok
    have same := insertPayment_scheduleSeats inserted
    cases approved : attempt.approved with
    | false =>
        rw [approved, if_neg Bool.false_ne_true] at equal
        refine iff_of_true (keepsHolds_of_same ?_) (Or.inl rfl)
        rw [equal]
        exact same
    | true =>
        rw [approved, if_pos rfl, scheduleId, seatIds, userId] at equal
        rw [or_iff_right (by simp)]
        apply keepsHolds_release sound sameUser
        rw [equal, Db.updateSeats_scheduleSeats, ← same]
        rfl

/-! ### Two orders for one hold -/

/-- A user orders the held seat under one key, and then under another one. -/
def secondAttempt : List Action :=
  Action.order 7 "first" ++ [placeOneSeat 7 "second", .advance 1]

/-- Two pending orders of a user share a hold, and the first one can be closed. -/
def sharesHold (world : World) (first second : Order) : Bool :=
  first.id != second.id && first.userId == second.userId &&
    first.status == .pending && second.status == .pending &&
    (closeUnpaid first.id .failed world.db).toBool &&
    world.db.scheduleSeats.any fun row =>
      first.wants row.stock && second.holds world.clock row

/-- After the second attempt the two orders share a hold. -/
theorem secondAttempt_sharesHold :
    ∃ world : World, TransitionSystem.Reachable World.step World.oneSeat world ∧
      ∃ first ∈ world.db.orders, ∃ second ∈ world.db.orders,
        world.sharesHold first second = true := by
  obtain ⟨world, run, seen⟩ :=
    TransitionSystem.RunWhere.exists_of_checkedRun World.step
      (fun _ _ => True) World.oneSeat secondAttempt
      (fun world : World =>
        world.db.orders.any fun first =>
          world.db.orders.any fun second => world.sharesHold first second)
      (by decide)
  obtain ⟨first, firstMember, rest⟩ := List.any_eq_true.mp seen
  obtain ⟨second, secondMember, shares⟩ := List.any_eq_true.mp rest
  exact ⟨world, run, first, firstMember, second, secondMember, shares⟩

/-- What two orders that share a hold satisfy. -/
theorem sharesHold_iff {first second : Order} :
    world.sharesHold first second = true ↔
      first.id ≠ second.id ∧ first.userId = second.userId ∧
        first.status = .pending ∧ second.status = .pending ∧
        (∃ after, closeUnpaid first.id .failed world.db = .ok after) ∧
        world.db.SharesHold first second world.clock := by
  have closes :
      (closeUnpaid first.id .failed world.db).toBool = true ↔
        ∃ after, closeUnpaid first.id .failed world.db = .ok after := by
    cases closeUnpaid first.id .failed world.db <;> simp [Except.toBool]
  simp only [sharesHold, Bool.and_eq_true, bne_iff_ne, beq_iff_eq, closes,
    List.any_eq_true, Db.SharesHold, and_assoc, ne_eq]

/-- Closing the first order takes the held seat from the second one. -/
theorem closing_keeps_the_holds_of_others_fails :
    ¬ ∀ world : World,
      TransitionSystem.Reachable World.step World.oneSeat world →
        ∀ first ∈ world.db.orders, ∀ second ∈ world.db.orders,
          first.id ≠ second.id → first.userId = second.userId →
            first.status = .pending → second.status = .pending →
              ∀ status after, closeUnpaid first.id status world.db = .ok after →
                world.db.KeepsHolds after second world.clock := by
  intro claim
  obtain ⟨world, run, first, firstMember, second, secondMember, both⟩ :=
    secondAttempt_sharesHold
  obtain ⟨different, sameUser, pending, secondPending, ⟨after, ok⟩, shares⟩ :=
    sharesHold_iff.mp both
  have sound := (consistent_of_reachable run).sound
  have keeps :=
    claim world run first firstMember second secondMember different sameUser
      pending secondPending .failed after ok
  exact
    (keepsHolds_release sound sameUser
      (closeUnpaid_scheduleSeats sound firstMember pending ok)).mp keeps shares

/-- The same two orders, with the exact condition. -/
theorem closing_keeps_the_holds_of_others_shared :
    ∃ world : World, ∃ first second : Order, ∃ after : Db,
      world.sharesHold first second = true ∧
        closeUnpaid first.id .failed world.db = .ok after ∧
        (world.db.KeepsHolds after second world.clock ↔
          first.status ≠ .pending ∨
            ¬ world.db.SharesHold first second world.clock) := by
  obtain ⟨world, run, first, firstMember, second, secondMember, both⟩ :=
    secondAttempt_sharesHold
  obtain ⟨different, sameUser, -, -, ⟨after, ok⟩, -⟩ := sharesHold_iff.mp both
  obtain ⟨closing, -⟩ :=
    closing_keeps_the_holds_of_others run first firstMember second secondMember
      different sameUser
  exact ⟨world, first, second, after, both, ok, closing .failed after ok⟩

end World

end Curtain
