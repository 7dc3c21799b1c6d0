import Curtain.Sessions

/-!
# What each step of a session does

One constructor for every way in which a statement, a transaction or the whole
server goes on, with what it has found on its way.  Later modules take a step
apart into these cases.
-/

namespace Curtain

open Queries HoldService OrderService

/-! ## Statements and transactions -/

/-- The ways in which a statement that is locking its rows goes on. -/
inductive SeatStatement.Locks (now : Time) (db : Db)
    (statement : SeatStatement) (scan : Scan) : Next → Prop where
  | concluded : Locks now db statement scan (Stage.concluded statement scan)
  | skipped {id : Nat} {rest : List Nat} (listed : scan.rest = id :: rest)
      (skips : statement.skipsLocked = true) :
      Locks now db statement scan (.stage (.locking statement { scan with rest }))
  | dropped {id : Nat} {rest : List Nat} (listed : scan.rest = id :: rest) :
      Locks now db statement scan
        (.grant (.seat id) statement.mode (.locking statement { scan with rest }))
  | taken {row : ScheduleSeat} {rest : List Nat}
      (listed : scan.rest = row.id :: rest)
      (member : row ∈ db.scheduleSeats)
      (meets : statement.condition now scan.mine row = true) :
      Locks now db statement scan
        (.grant (.seat row.id) statement.mode
          (.locking statement { scan with rest, taken := scan.taken ++ [row.id] }))

theorem SeatStatement.locks_of_next
    {hashtext : String → Int} {available : Resource → LockMode → Bool}
    {now : Time} {db : Db} {statement : SeatStatement} {scan : Scan}
    {next : Next}
    (taken :
      (Stage.locking statement scan).next hashtext available now db =
        some next) :
    statement.Locks now db scan next := by
  simp only [Stage.next] at taken
  split at taken
  · cases taken
    exact .concluded
  · rename_i id rest listed
    split at taken
    · cases taken
      exact .concluded
    · split at taken
      · rename_i skips
        cases taken
        rw [Bool.and_eq_true] at skips
        exact .skipped listed skips.1
      · cases taken
        split
        · rename_i rechecked
          obtain ⟨row, member, meets⟩ := List.any_eq_true.mp rechecked
          rw [Bool.and_eq_true, beq_iff_eq] at meets
          obtain ⟨rfl, meets⟩ := meets
          exact .taken listed member meets
        · exact .dropped listed

/-- The ways in which a transaction goes on, and what each has found. -/
inductive Stage.Moves (hashtext : String → Int) (now : Time) (db : Db) :
    Stage → Next → Prop where
  | ended {stage : Stage} : Moves hashtext now db stage .ended
  | claims {request : AcquireRequest} :
      Moves hashtext now db (.quota request)
        (.grant
          (.quota (hashtext (quotaKey request.scheduleId request.userId)))
          .forUpdate (.selecting (.holdSeats request)))
  | confirms {order : Order} {pgTid : String} (member : order ∈ db.orders)
      (pending : order.status = .pending) :
      Moves hashtext now db (.confirming order.id pgTid)
        (.grant (.order order.id) .forNoKeyUpdate (.claiming order pgTid))
  | claimed {order : Order} {pgTid : String} :
      Moves hashtext now db (.claiming order pgTid)
        (.stage
          (.inserting order pgTid (order.claims now db) (order.claims now db)))
  | inserts {order : Order} {pgTid : String} {items rest : List OrderItem}
      {item : OrderItem} :
      Moves hashtext now db (.inserting order pgTid items (item :: rest))
        (.grant (.item item.scheduleSeatId) .forUpdate
          (.inserting order pgTid items rest))
  | inserted {order : Order} {pgTid : String} {items : List OrderItem} :
      Moves hashtext now db (.inserting order pgTid items [])
        (.stage (.referencing order pgTid items items))
  | refers {order : Order} {pgTid : String} {items rest : List OrderItem}
      {item : OrderItem} :
      Moves hashtext now db (.referencing order pgTid items (item :: rest))
        (.grant (.seat item.scheduleSeatId) .forKeyShare
          (.referencing order pgTid items rest))
  | referred {order : Order} {pgTid : String} {items : List OrderItem}
      (complete : items.length = order.seatIds.length) :
      Moves hashtext now db (.referencing order pgTid items [])
        (.stage (.selecting (.bookOrderSeats order pgTid items)))
  | closes {order : Order} {status : OrderStatus} (member : order ∈ db.orders)
      (pending : order.status = .pending) :
      Moves hashtext now db (.closing order.id status)
        (.grant (.order order.id) .forNoKeyUpdate
          (Stage.releasing order (.closeUnpaid order.id status)))
  | refunds {order : Order} {total : Int} {attempt : PayAttempt}
      (member : order ∈ db.orders) (pending : order.status = .pending) :
      Moves hashtext now db (.refunding order.id total attempt)
        (.grant (.order order.id) .forNoKeyUpdate
          (Stage.releasing order (.recordRefund order total attempt)))
  | refundsSettled {order : Order} {total : Int} {attempt : PayAttempt}
      (member : order ∈ db.orders) (settled : order.status ≠ .pending) :
      Moves hashtext now db (.refunding order.id total attempt)
        (.stage (Stage.releasing order (.recordRefund order total attempt)))
  | refundFails {order : Order} {total : Int} {attempt : PayAttempt}
      (member : order ∈ db.orders) (refused : attempt.approved ≠ true) :
      Moves hashtext now db (.refunding order.id total attempt)
        (.stage
          (.writing
            (.releaseHold order.scheduleId order.userId order.seatIds
              (.recordRefund order total attempt)) []))
  | cancels {cancellation : Cancellation} {attempt : PayAttempt} :
      Moves hashtext now db (.canceling cancellation attempt)
        (.grant (.order cancellation.order.id) .forNoKeyUpdate
          (.selecting (.restoreOrderSeats cancellation attempt)))
  | selects {statement : SeatStatement} :
      Moves hashtext now db (.selecting statement)
        (.stage (.locking statement (statement.scan now db)))
  | locks {statement : SeatStatement} {scan : Scan} {next : Next}
      (locks : statement.Locks now db scan next) :
      Moves hashtext now db (.locking statement scan) next

theorem Stage.moves_of_next
    {hashtext : String → Int} {available : Resource → LockMode → Bool}
    {now : Time} {db : Db} {stage : Stage} {next : Next}
    (taken : stage.next hashtext available now db = some next) :
    stage.Moves hashtext now db next := by
  cases stage with
  | quota request =>
      cases taken
      exact .claims
  | confirming orderId pgTid =>
      simp only [Stage.next] at taken
      split at taken
      · cases taken
        exact .ended
      · rename_i order loaded
        obtain ⟨member, rfl⟩ := loadOrder_ok loaded
        split at taken
        · cases taken
          exact .ended
        · rename_i pending
          cases taken
          rw [not_or, not_not] at pending
          exact .confirms member pending.1
  | claiming order pgTid =>
      cases taken
      exact .claimed
  | inserting order pgTid items rest =>
      cases rest with
      | nil =>
          cases taken
          exact .inserted
      | cons item rest =>
          simp only [Stage.next] at taken
          split at taken
          · cases taken
            exact .ended
          · cases taken
            exact .inserts
  | referencing order pgTid items rest =>
      cases rest with
      | nil =>
          simp only [Stage.next] at taken
          split at taken
          · cases taken
            exact .ended
          · rename_i complete
            cases taken
            exact .referred (not_not.mp complete)
      | cons item rest =>
          simp only [Stage.next] at taken
          split at taken
          · cases taken
            exact .refers
          · cases taken
            exact .ended
  | closing orderId status =>
      simp only [Stage.next] at taken
      split at taken
      · cases taken
        exact .ended
      · rename_i order loaded
        obtain ⟨member, rfl⟩ := loadOrder_ok loaded
        split at taken
        · cases taken
          exact .ended
        · rename_i pending
          cases taken
          exact .closes member (not_not.mp pending)
  | refunding orderId total attempt =>
      simp only [Stage.next] at taken
      split at taken
      · cases taken
        exact .ended
      · rename_i order loaded
        obtain ⟨member, rfl⟩ := loadOrder_ok loaded
        split at taken
        · split at taken
          · rename_i pending
            cases taken
            exact .refunds member pending
          · rename_i settled
            cases taken
            exact .refundsSettled member settled
        · rename_i refused
          cases taken
          exact .refundFails member refused
  | canceling cancellation attempt =>
      simp only [Stage.next] at taken
      split at taken
      · cases taken
        exact .cancels
      · cases taken
        exact .ended
  | selecting statement =>
      cases taken
      exact .selects
  | locking statement scan => exact .locks (SeatStatement.locks_of_next taken)
  | writing statement rows => cases taken

/-! ## The server -/

/-- The ways in which a step of the server ends, and what each has found. -/
inductive Server.Steps (hashtext : String → Int) (server : Server) :
    Server.Action → Server → Prop where
  | tick (elapsed : Nat) :
      Steps hashtext server (.tick elapsed)
        { server with clock := server.clock + elapsed }
  | opened {request : PlaceRequest} {order : Order} {after : Db}
      (opened : Opened request server.clock server.db order after) :
      Steps hashtext server (.openOrder request) { server with db := after }
  | begun {session : Nat} {work : Work}
      (idle : server.sessions session = none)
      (admissible : work.admissible = true) :
      Steps hashtext server (.begin session work)
        (server.put session { startedAt := server.clock, stage := work.first })
  | passed {session : Nat} {current : Session} {stage : Stage}
      (found : server.sessions session = some current)
      (next :
        current.stage.next hashtext (server.available session)
          current.startedAt server.db = some (.stage stage)) :
      Steps hashtext server (.advance session)
        (server.put session { current with stage })
  | granted {session : Nat} {current : Session} {resource : Resource}
      {mode : LockMode} {stage : Stage}
      (found : server.sessions session = some current)
      (next :
        current.stage.next hashtext (server.available session)
          current.startedAt server.db = some (.grant resource mode stage))
      (free : server.available session resource mode = true) :
      Steps hashtext server (.advance session)
        { server.put session { current with stage } with
          locks := { session, resource, mode } :: server.locks }
  | ended {session : Nat} {current : Session}
      (found : server.sessions session = some current)
      (next :
        current.stage.next hashtext (server.available session)
          current.startedAt server.db = some .ended) :
      Steps hashtext server (.advance session) (server.finish session)
  | committed {session : Nat} {current : Session} {statement : SeatStatement}
      {rows : List Nat} {after : Db}
      (found : server.sessions session = some current)
      (writing : current.stage = .writing statement rows)
      (ok : statement.commit current.startedAt rows server.db = .ok after) :
      Steps hashtext server (.commit session)
        { server.finish session with db := after }
  | failed {session : Nat} {current : Session} {statement : SeatStatement}
      {rows : List Nat} {error : Raised}
      (found : server.sessions session = some current)
      (writing : current.stage = .writing statement rows)
      (raised :
        statement.commit current.startedAt rows server.db = .error error) :
      Steps hashtext server (.commit session) (server.finish session)
  | rolledBack {session : Nat} {current : Session}
      (found : server.sessions session = some current) :
      Steps hashtext server (.rollback session) (server.finish session)

theorem Server.steps_of_step {hashtext : String → Int} {server next : Server}
    {action : Server.Action}
    (taken : server.step hashtext action = some next) :
    server.Steps hashtext action next := by
  cases action with
  | tick elapsed =>
      cases taken
      exact .tick elapsed
  | openOrder request =>
      simp only [Server.step] at taken
      split at taken
      · rename_i order after opened
        cases taken
        exact .opened (openPending_some opened)
      · cases taken
  | begin session work =>
      simp only [Server.step] at taken
      split at taken
      · rename_i fresh
        cases taken
        rw [Bool.and_eq_true, Option.isNone_iff_eq_none] at fresh
        exact .begun fresh.1 fresh.2
      · cases taken
  | advance session =>
      obtain ⟨current, found, restOk⟩ := Option.bind_eq_some_iff.mp taken
      obtain ⟨later, next, proceeded⟩ := Option.bind_eq_some_iff.mp restOk
      cases later with
      | stage stage =>
          cases proceeded
          exact .passed found next
      | grant resource mode stage =>
          simp only [Server.proceed] at proceeded
          split at proceeded
          · rename_i free
            cases proceeded
            exact .granted found next free
          · cases proceeded
      | ended =>
          cases proceeded
          exact .ended found next
  | commit session =>
      obtain ⟨current, found, committed⟩ := Option.bind_eq_some_iff.mp taken
      simp only [Server.committed] at committed
      split at committed
      · rename_i statement rows writing
        split at committed
        · rename_i after ok
          cases committed
          exact .committed found writing ok
        · rename_i error raised
          cases committed
          exact .failed found writing raised
      · cases committed
  | rollback session =>
      simp only [Server.step] at taken
      split at taken
      · rename_i running
        cases taken
        obtain ⟨current, found⟩ := Option.isSome_iff_exists.mp running
        exact .rolledBack found
      · cases taken

end Curtain
