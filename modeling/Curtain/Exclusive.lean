import Curtain.Locked

/-!
# Live holds

While a hold has not run out, its row stays as it is until its user gives the
seat back or an order of the user books it.  A confirmation may break this: it
judges the hold by the start of its own transaction, and its foreign-key check
lets it pass when the row has been claimed by somebody else in the meantime.
-/

namespace Curtain

open Queries Table HoldService OrderService

/-- The row is held by the user until the instant. -/
structure ScheduleSeat.HeldBy (row : ScheduleSeat) (userId : Nat)
    (expiresAt : Time) : Prop where
  held : row.status = .held
  owner : row.heldBy = some userId
  expiry : row.holdExpiresAt = some expiresAt

/-- It is the user's own release, or it closes an order of the user. -/
def Releasing.OwnedBy (db : Db) (userId : Nat) : Releasing → Prop
  | .release => True
  | .closeUnpaid orderId _ =>
      ∃ order ∈ db.orders, order.id = orderId ∧ order.userId = userId
  | .recordRefund refunded _ _ =>
      ∃ order ∈ db.orders, order.id = refunded.id ∧ order.userId = userId

namespace Server

/-- The statement that the step commits. -/
def commits (server : Server) : Action → Option SeatStatement
  | .commit session =>
      (server.sessions session).bind fun current =>
        match current.stage with
        | .writing statement _ => some statement
        | _ => none
  | _ => none

/-- The two ways in which a hold of the user may end. -/
inductive EndsHold (row : ScheduleSeat) (userId : Nat)
    (server : Server) (action : Action) (next : Server) : Prop where
  | released {scheduleId : Nat} {seatIds : List Nat} {within : Releasing}
      (commits :
        server.commits action =
          some (.releaseHold scheduleId userId seatIds within))
      (own : within.OwnedBy server.db userId)
      (freed : free row ∈ next.db.scheduleSeats)
  | booked {order paid : Order} {pgTid : String} {items : List OrderItem}
      {item : OrderItem}
      (commits : server.commits action = some (.bookOrderSeats order pgTid items))
      (member : paid ∈ next.db.orders)
      (own : paid.userId = userId)
      (settled : paid.status = .paid)
      (sold : item ∈ next.db.orderItems)
      (line : item.orderId = paid.id ∧ item.scheduleSeatId = row.id)
      (booked : book row ∈ next.db.scheduleSeats)

/-- The row is in the database as long as its hold has not run out. -/
def Keeps (row : ScheduleSeat) (expiresAt : Time) (server : Server) : Prop :=
  server.clock < expiresAt → row ∈ server.db.scheduleSeats

instance (db : Db) (stage : Stage) : Decidable (stage.RefersToOwn db) :=
  match stage with
  | .referencing order _ _ (item :: _) =>
      inferInstanceAs
        (Decidable
          (∀ row ∈ db.scheduleSeats, row.id = item.scheduleSeatId →
            row.status = .held → row.heldBy = some order.userId))
  | .referencing _ _ _ [] => isTrue trivial
  | .quota _ => isTrue trivial
  | .confirming _ _ => isTrue trivial
  | .claiming _ _ => isTrue trivial
  | .inserting _ _ _ _ => isTrue trivial
  | .closing _ _ => isTrue trivial
  | .refunding _ _ _ => isTrue trivial
  | .canceling _ _ => isTrue trivial
  | .selecting _ => isTrue trivial
  | .locking _ _ => isTrue trivial
  | .writing _ _ => isTrue trivial

instance (server : Server) (action : Action) :
    Decidable (server.RefersToOwn action) :=
  match action with
  | .advance session =>
      inferInstanceAs
        (Decidable
          (∀ current ∈ server.sessions session,
            current.stage.RefersToOwn server.db))
  | .tick _ => isTrue trivial
  | .openOrder _ => isTrue trivial
  | .begin _ _ => isTrue trivial
  | .commit _ => isTrue trivial
  | .rollback _ => isTrue trivial

namespace Isolated

variable {hashtext : String → Int} {server next : Server} {session : Nat}
variable {current : Session} {row : ScheduleSeat} {userId : Nat}
variable {expiresAt : Time}

/-- A commit leaves a live hold alone, or it is one that may end it. -/
theorem hold_commit (isolated : server.Isolated)
    (found : server.sessions session = some current)
    {statement : SeatStatement} {rows : List Nat}
    (writing : current.stage = .writing statement rows)
    {change : Order → Order} {after : Db}
    (commits :
      statement.Commits current.startedAt rows change server.db after)
    (held : row.HeldBy userId expiresAt)
    (live : server.clock < expiresAt)
    (member : row ∈ server.db.scheduleSeats) :
    EndsHold row userId server (.commit session)
        { server.finish session with db := after } ∨
      row ∈ after.scheduleSeats := by
  have sane := isolated.sane session current found
  have started := isolated.started session current found
  rw [writing] at sane
  have performs : server.commits (.commit session) = some statement := by
    simp [Server.commits, found, writing]
  rw [commits.scheduleSeats]
  cases written : rows.contains row.id with
  | false => exact Or.inr (mem_updateWhere_of_not member written)
  | true =>
      left
      have changed : statement.change current.startedAt row ∈ after.scheduleSeats := by
        rw [commits.scheduleSeats]
        exact mem_updateWhere_of member written
      obtain ⟨-, suited, suitedMember, equal, suits⟩ :=
        sane.2 row.id (List.contains_iff_mem.mp written)
      have same : suited = row :=
        isolated.keyed.rowUnique.eq suitedMember member equal
      subst same
      -- Neither a claim nor a sweep takes the hold for expired.
      have unexpired : ¬ expiresAt < current.startedAt :=
        not_lt.mpr (started.trans live.le)
      cases statement with
      | holdSeats request =>
          simp [SeatStatement.Suits, isTarget, claimable, held.held,
            held.expiry, unexpired] at suits
      | sweepExpiredHolds batch =>
          simp [SeatStatement.Suits, isExpiredHold, held.expiry, unexpired]
            at suits
      | restoreOrderSeats cancellation attempt =>
          have booked : suited.status = .booked := suits
          rw [held.held] at booked
          cases booked
      | releaseHold scheduleId owner seatIds within =>
          simp only [SeatStatement.Suits, isHoldOf, Bool.and_eq_true,
            beq_iff_eq, held.owner, Option.some.injEq] at suits
          obtain ⟨-, rfl⟩ := suits
          refine .released performs ?_ changed
          cases within with
          | release => trivial
          | closeUnpaid orderId status =>
              obtain ⟨order, orderMember, equal, owner, -⟩ := sane.1
              exact ⟨order, orderMember, equal, owner⟩
          | recordRefund refunded total attempt =>
              obtain ⟨order, orderMember, equal, owner, -⟩ := sane.1
              exact ⟨order, orderMember, equal, owner⟩
      | bookOrderSeats order pgTid items =>
          obtain ⟨-, item, listed, seat⟩ := suits
          obtain ⟨⟨old, oldMember, head, pending, -⟩, refers⟩ := sane.1
          obtain ⟨orderId, -, unclaimed⟩ := refers item listed
          have owner := unclaimed suited member seat.symm held.held
          rw [held.owner, Option.some.injEq] at owner
          have sameId := Order.id_of_head head
          have paidHead := commits.head old
          have paidMember : change old ∈ after.orders := by
            rw [commits.orders]
            exact
              mem_updateWhere_of oldMember
                (by simp [SeatStatement.settles, sameId])
          have sameUser := Order.userId_of_head (paidHead.trans head)
          have sold : item ∈ after.orderItems := by
            rw [commits.orderItems]
            exact List.mem_append_right _ listed
          refine
            .booked performs paidMember (sameUser.trans owner.symm)
              (commits.paid order pgTid items rfl old pending) sold
              ⟨?_, seat⟩ changed
          rw [orderId, Order.id_of_head paidHead, sameId]

/-- Every step keeps a live hold or ends it for its user. -/
theorem hold_step (isolated : server.Isolated)
    (held : row.HeldBy userId expiresAt)
    {action : Action} (keeps : server.Keeps row expiresAt)
    (taken : server.step hashtext action = some next) :
    EndsHold row userId server action next ∨ next.Keeps row expiresAt := by
  cases steps_of_step taken with
  | tick elapsed =>
      right
      intro live
      refine keeps (lt_of_le_of_lt ?_ live)
      exact Int.le_add_of_nonneg_right (Int.natCast_nonneg elapsed)
  | opened opened =>
      rw [opened.after_eq]
      exact Or.inr keeps
  | committed found writing ok =>
      obtain ⟨change, commits⟩ := SeatStatement.commits_of_commit ok
      by_cases live : server.clock < expiresAt
      · exact
          (isolated.hold_commit found writing commits held live
            (keeps live)).imp_right fun member _ => member
      · exact Or.inr fun still => absurd still live
  | begun | passed | granted | ended | failed | rolledBack =>
      exact Or.inr keeps

end Isolated

/--
In every run in which no foreign-key check meets another user's hold, a live
hold stays as it is until its user releases it, an order of the user is closed,
or an order of the user books the seat.
-/
theorem live_hold_exclusive
    {hashtext : String → Int} {inventory : Inventory}
    {startsAt : Nat → Policy.Datetime} {clock : Time} {server after : Server}
    (run :
      TransitionSystem.RunWhere (Server.step hashtext) Server.RefersToOwn
        (Server.initial inventory startsAt clock) server)
    {row : ScheduleSeat} {userId : Nat} {expiresAt : Time}
    (member : row ∈ server.db.scheduleSeats)
    (held : row.HeldBy userId expiresAt)
    {actions : List Action}
    (performed :
      TransitionSystem.checkedRun (Server.step hashtext) Server.RefersToOwn
        server actions = some after) :
    TransitionSystem.Until (Server.step hashtext)
      (fun server => server.Keeps row expiresAt)
      (EndsHold row userId) server actions := by
  have isolated : server.Isolated :=
    run.invariant (.initial inventory startsAt clock)
      fun _ _ _ isolated own taken => isolated.step own taken
  exact
    TransitionSystem.until_of_checkedRun
      (fun _ _ _ isolated own taken => isolated.step own taken)
      (fun _ _ _ isolated keeps taken => isolated.hold_step held keeps taken)
      isolated (fun _ => member) actions performed

/-- The confirmation of the order, in the middle of which another user is turned away. -/
def Action.confirm : List Action :=
  .begin 1 (.confirmPaid 1 "tid") :: Action.advances 1 5 ++
    .begin 2 (.acquire { scheduleId := 1, userId := 8, seatIds := [1] }) ::
      Action.advances 2 3 ++ Action.advances 1 4 ++ [.commit 1]

/-- A hold that is confirmed while somebody else asks for the seat. -/
theorem live_hold_exclusive_booked :
    ∃ server : Server, ∃ row ∈ server.db.scheduleSeats,
      row.HeldBy 7 420000 ∧
        (TransitionSystem.checkedRun (Server.step fun _ => 0)
            Server.RefersToOwn server Action.confirm).any
          (fun after => after.db.scheduleSeats.any (·.status == .booked)) =
            true ∧
        TransitionSystem.Until (Server.step fun _ => 0)
          (fun server => server.Keeps row 420000) (EndsHold row 7) server
          Action.confirm := by
  obtain ⟨server, run, seen⟩ :=
    TransitionSystem.RunWhere.exists_of_checkedRun (Server.step fun _ => 0)
      Server.RefersToOwn Server.oneSeat (Action.order 0 7)
      (fun server : Server =>
        (server.db.scheduleSeats.any fun row =>
          row.status == .held && row.heldBy == some 7 &&
            row.holdExpiresAt == some 420000) &&
        (TransitionSystem.checkedRun (Server.step fun _ => 0)
            Server.RefersToOwn server Action.confirm).any
          fun after => after.db.scheduleSeats.any (·.status == .booked))
      (by decide)
  simp only [Bool.and_eq_true, List.any_eq_true, beq_iff_eq] at seen
  obtain ⟨⟨row, member, ⟨status, owner⟩, expiry⟩, ends⟩ := seen
  obtain ⟨after, performed, -⟩ := (Option.any_eq_true _ _).mp ends
  have held : row.HeldBy 7 420000 := ⟨status, owner, expiry⟩
  exact
    ⟨server, row, member, held, ends,
      live_hold_exclusive run member held performed⟩

/--
A confirmation that begins just before the hold runs out, and a claim of
another user that begins just after.
-/
def Action.lateConfirm : List Action :=
  .tick 419999 :: .begin 1 (.confirmPaid 1 "tid") :: .tick 2 ::
    Action.claim 2 8 ++ Action.advances 1 4 ++ .commit 2 ::
      Action.advances 1 5

/-- Without the condition the order of one user books the live hold of another. -/
theorem live_hold_exclusive_fails :
    ¬ ∀ (server : Server) (row : ScheduleSeat) (userId : Nat)
        (expiresAt : Time) (actions : List Action),
      TransitionSystem.Reachable (Server.step fun _ => 0) Server.oneSeat
          server →
        row ∈ server.db.scheduleSeats → row.HeldBy userId expiresAt →
          TransitionSystem.Until (Server.step fun _ => 0)
            (fun server => server.Keeps row expiresAt) (EndsHold row userId)
            server actions := by
  intro claim
  obtain ⟨server, run, seen⟩ :=
    TransitionSystem.RunWhere.exists_of_checkedRun (Server.step fun _ => 0)
      (fun _ _ => True) Server.oneSeat (Action.order 0 7 ++ Action.lateConfirm)
      (fun server : Server =>
        server.db.scheduleSeats.any fun row =>
          (row.status == .held && row.heldBy == some 8 &&
            row.holdExpiresAt == some 840001) &&
          ((server.commits (.commit 1)).any fun statement : SeatStatement =>
            statement.mode == .forNoKeyUpdate && !statement.items.isEmpty) &&
          (server.step (fun _ => 0) (.commit 1)).any fun next : Server =>
            decide (next.clock < 840001) &&
              !(next.db.scheduleSeats.contains row) &&
              next.db.orders.all (·.userId != 8))
      (by decide)
  simp only [Bool.and_eq_true, List.any_eq_true, beq_iff_eq,
    Option.any_eq_true, decide_eq_true_eq, Bool.not_eq_true',
    List.all_eq_true, bne_iff_ne] at seen
  obtain ⟨row, member, ⟨⟨⟨status, owner⟩, expiry⟩, statement, commits, -, items⟩,
    next, taken, ⟨live, gone⟩, others⟩ := seen
  have along :=
    claim server row 8 840001 [.commit 1] run member ⟨status, owner, expiry⟩
  rcases along.2 next taken with ends | keeps
  · cases ends with
    | released released =>
        rw [commits] at released
        cases released
        cases items
    | booked _ paidMember own => exact others _ paidMember own
  · have kept : row ∈ next.db.scheduleSeats := keeps live
    rw [List.contains_eq_mem, decide_eq_false_iff_not] at gone
    exact gone kept

end Server

end Curtain
