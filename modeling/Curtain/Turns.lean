import Curtain.Calls
import Curtain.Transactions
import Mathlib.Data.List.Perm.Basic

/-!
# What one step does to orders and money

`Turn` lists, once, everything a step of the world may do to the database, to
the gateway's ledgers and to the task of the call it continues.  The invariants
of the later modules are proved by cases on it.
-/

namespace Curtain

open HoldService OrderService

/-- The order a task is asking the gateway about. -/
def Task.asks : Task → Option Nat
  | .approving orderId _ => some orderId
  | .inquiring orderId => some orderId
  | _ => none

/-- The order whose refund the task is concerned with. -/
def Task.refundOrder : Task → Option Nat
  | .settling (.compensating orderId _ _ _) => some orderId
  | .settling (.refunding order _ _ _ _) => some order.id
  | .settling (.recording order _ _ _) => some order.id
  | .canceling cancellation _ => some cancellation.order.id
  | _ => none

/-- The order and the number with which an action runs `confirm_paid`. -/
def World.confirms (world : World) (action : Action) : Option (Nat × String) :=
  match action with
  | .webhook orderId pgTid => some (orderId, pgTid)
  | .advance _ =>
      match world.taskOf action with
      | some (.settling (.confirming orderId pgTid _)) => some (orderId, pgTid)
      | _ => none
  | _ => none

/-- A refund has been requested, or its outcome is about to be recorded. -/
def Task.refunding : Task → Bool
  | .settling (.refunding _ _ _ _ _) => true
  | .settling (.recording _ _ _ _) => true
  | .canceling _ _ => true
  | _ => false

/-- The call is not in the middle of a refund. -/
def Passing (task : Option Task) : Prop :=
  ∀ busy ∈ task, busy.refunding = false

theorem passing_none : Passing none := by
  simp [Passing]

theorem passing_some {task : Task} (passes : task.refunding = false) :
    Passing (some task) := by
  simp [Passing, passes]

/-- No settlement, approval or cancellation is under way in the call. -/
def Quiet (task : Option Task) : Prop :=
  ∀ busy ∈ task, ∃ orderId, busy = .inquiring orderId

@[simp]
theorem quiet_none : Quiet none := by
  simp [Quiet]

@[simp]
theorem quiet_inquiring (orderId : Nat) :
    Quiet (some (.inquiring orderId)) := by
  simp [Quiet]

/--
The effect of a step: the task of its call before and after it, and the books
after it.
-/
inductive Turn (world : World) :
    Action → Option Task → Option Task → Books → Prop where
  | idle {action : Action} {before after : Option Task}
      (passing : Passing before)
      (quiet : Quiet after) :
      Turn world action before after world.toBooks
  | acquired {index : Nat} {request : AcquireRequest} {held : Hold} {db : Db}
      (taken : acquireSeats request world.clock world.db = .ok (held, db)) :
      Turn world (.advance index) none none { world.toBooks with db }
  | released {scheduleId userId : Nat} {seatIds : List Nat} :
      Turn world (.startRelease scheduleId userId seatIds) none none
        { world.toBooks with
          db := (releaseSeats scheduleId userId seatIds world.db).2 }
  | swept {batch : Nat} :
      Turn world (.sweep batch) none none
        { world.toBooks with
          db :=
            (sweepExpired batch (fun _ => false) world.clock world.db).2 }
  | opened {index : Nat} {request : PlaceRequest} {order : Order} {db : Db}
      (opened : Opened request world.clock world.db order db) :
      Turn world (.advance index) none
        (some (.approving order.id order.totalAmount))
        { world.toBooks with db }
  | approvalExecuted {index : Nat} {number : String} {orderId : Nat}
      {amount : Int}
      (fresh : number ∉ world.issued)
      (first : world.executed orderId = false) :
      Turn world (.execute index number)
        (some (.approving orderId amount)) (some (.approving orderId amount))
        { world.toBooks with
          approvals :=
            world.approvals ++ [{ orderId, pgTid := number, amount }] }
  | approved {index : Nat} {attempt : PayAttempt} {before : Task}
      {orderId : Nat} {pgTid : String} {amount : Option Int}
      (asked : before.asks = some orderId)
      (result : attempt.result = .approved)
      (number : attempt.pgTid = some pgTid)
      (sum : ∀ requested ∈ amount, before = .approving orderId requested) :
      Turn world (.answer index attempt) (some before)
        (some (.settling (.confirming orderId pgTid amount))) world.toBooks
  | declined {index : Nat} {attempt : PayAttempt} {before : Task}
      {orderId : Nat} {status : OrderStatus}
      (asked : before.asks = some orderId)
      (result : attempt.result = .declined)
      (final : status = .failed ∨ status = .canceled) :
      Turn world (.answer index attempt) (some before)
        (some (.settling (.closing orderId status))) world.toBooks
  | confirmed {action : Action} {before after : Option Task} {order : Order}
      {pgTid : String} {db : Db}
      (confirms : world.confirms action = some (order.id, pgTid))
      (source :
        (∃ amount,
          before = some (.settling (.confirming order.id pgTid amount))) ∨
        (before = none ∧ action = .webhook order.id pgTid))
      (confirmed : Confirmed order pgTid world.clock world.db db)
      (quiet : Quiet after) :
      Turn world action before after { world.toBooks with db }
  | expired {index : Nat} {orderId : Nat} {pgTid : String}
      {amount : Option Int} {why : Raised}
      (confirms : world.confirms (.advance index) = some (orderId, pgTid))
      (pending :
        ∃ row ∈ world.db.orders, row.id = orderId ∧ row.status = .pending) :
      Turn world (.advance index)
        (some (.settling (.confirming orderId pgTid amount)))
        (some (.settling (.compensating orderId pgTid amount why))) world.toBooks
  | compensating {index : Nat} {order : Order} {pgTid : String}
      {amount : Option Int} {why : Raised}
      (member : order ∈ world.db.orders) :
      Turn world (.advance index)
        (some (.settling (.compensating order.id pgTid amount why)))
        (some (.settling
          (.refunding order pgTid (amount.getD order.totalAmount) why none)))
        world.toBooks
  | refundExecuted {index : Nat} {number pgTid : String} {order : Order}
      {total : Int} {why : Raised}
      (fresh : number ∉ world.issued) :
      Turn world (.execute index number)
        (some (.settling (.refunding order pgTid total why none)))
        (some (.settling (.refunding order pgTid total why (some number))))
        { world.toBooks with
          refunds :=
            world.refunds ++ [{ pgTid, amount := total, refundTid := number }] }
  | refundAnswered {index : Nat} {attempt : PayAttempt} {order : Order}
      {pgTid : String} {total : Int} {why : Raised} {number : Option String} :
      Turn world (.answer index attempt)
        (some (.settling (.refunding order pgTid total why number)))
        (some (.settling (.recording order total why attempt))) world.toBooks
  | recorded {index : Nat} {attempt : PayAttempt} {order : Order}
      {total : Int} {why : Raised} {after : Option Task} {db : Db}
      (recorded : recordRefund order total attempt world.db = .ok db)
      (quiet : Quiet after) :
      Turn world (.advance index)
        (some (.settling (.recording order total why attempt))) after
        { world.toBooks with db }
  | unrecorded {index : Nat} {attempt : PayAttempt} {order : Order}
      {total : Int} {why error : Raised} {after : Option Task}
      (failed : recordRefund order total attempt world.db = .error error)
      (quiet : Quiet after) :
      Turn world (.advance index)
        (some (.settling (.recording order total why attempt))) after
        world.toBooks
  | closed {index : Nat} {orderId : Nat} {status : OrderStatus}
      {after : Option Task} {db : Db}
      (closed : closeUnpaid orderId status world.db = .ok db)
      (quiet : Quiet after) :
      Turn world (.advance index)
        (some (.settling (.closing orderId status))) after
        { world.toBooks with db }
  | cancelStarted {orderId : Nat} {now : Option Policy.Datetime}
      {cancellation : Cancellation} {moment : Policy.Datetime}
      (prepared : prepareCancel orderId moment world.db = .ok cancellation) :
      Turn world (.startCancel orderId now) none
        (some (.canceling cancellation (.refunding none))) world.toBooks
  | cancelExecuted {index : Nat} {number : String}
      {cancellation : Cancellation}
      (fresh : number ∉ world.issued) :
      Turn world (.execute index number)
        (some (.canceling cancellation (.refunding none)))
        (some (.canceling cancellation (.refunding (some number))))
        { world.toBooks with
          refunds :=
            world.refunds ++
              [{ pgTid := cancellation.pgTid
                 amount := cancellation.refundAmount
                 refundTid := number }] }
  | cancelAnswered {index : Nat} {attempt : PayAttempt}
      {cancellation : Cancellation} {number : Option String} :
      Turn world (.answer index attempt)
        (some (.canceling cancellation (.refunding number)))
        (some (.canceling cancellation
          (if attempt.approved then .closing attempt
            else .failing attempt.result))) world.toBooks
  | cancelFailed {index : Nat} {cancellation : Cancellation}
      {result : PayResult} {db : Db}
      (recorded : recordFailedCancel cancellation world.db = .ok db) :
      Turn world (.advance index)
        (some (.canceling cancellation (.failing result))) none
        { world.toBooks with db }
  | cancelUnfailed {index : Nat} {cancellation : Cancellation}
      {result : PayResult} {error : Raised}
      (failed : recordFailedCancel cancellation world.db = .error error) :
      Turn world (.advance index)
        (some (.canceling cancellation (.failing result))) none world.toBooks
  | cancelClosed {index : Nat} {cancellation : Cancellation}
      {attempt : PayAttempt} {db : Db}
      (closed : closeCanceled cancellation attempt world.db = .ok db) :
      Turn world (.advance index)
        (some (.canceling cancellation (.closing attempt))) none
        { world.toBooks with db }
  | cancelUnclosed {index : Nat} {cancellation : Cancellation}
      {attempt : PayAttempt} {error : Raised}
      (failed : closeCanceled cancellation attempt world.db = .error error) :
      Turn world (.advance index)
        (some (.canceling cancellation (.closing attempt))) none world.toBooks

/-- Two lists of tasks that differ in the task of one call. -/
def Exchange (before after : Option Task) (old new : List Task) : Prop :=
  ∃ others, old.Perm (before.toList ++ others) ∧
    new.Perm (after.toList ++ others)

/-- A new call adds its task. -/
theorem exchange_append (tasks : List Task) (after : Option Task) :
    Exchange none after tasks (tasks ++ after.toList) :=
  ⟨tasks, List.Perm.refl _, List.perm_append_comm⟩

/-- Replacing a call replaces its task. -/
theorem exchange_replaceCall
    {calls : List Call} {index : Nat} {call : Call}
    (found : calls[index]? = some call) (next : Option Call) :
    Exchange call.task? (next.bind Call.task?)
      (calls.filterMap Call.task?)
      ((World.replaceCall calls index next).filterMap Call.task?) := by
  obtain ⟨inside, rfl⟩ := List.getElem?_eq_some_iff.mp found
  refine ⟨(calls.eraseIdx index).filterMap Call.task?, ?_, ?_⟩
  · have split :=
      (List.getElem_cons_eraseIdx_perm inside).symm.filterMap Call.task?
    cases task : calls[index].task? with
    | none => simpa [task] using split
    | some busy => simpa [task] using split
  · cases next with
    | none => exact List.Perm.refl _
    | some call =>
        have split :=
          (List.set_perm_cons_eraseIdx inside call).filterMap Call.task?
        cases task : call.task? with
        | none => simpa [World.replaceCall, task] using split
        | some busy => simpa [World.replaceCall, task] using split

theorem mem_replaceCall
    {calls : List Call} {index : Nat} {next : Option Call} {call : Call}
    (member : call ∈ World.replaceCall calls index next) :
    call ∈ calls ∨ next = some call := by
  cases next with
  | none => exact Or.inl (List.mem_of_mem_eraseIdx member)
  | some replaced =>
      rcases List.mem_or_eq_of_mem_set member with old | rfl
      · exact Or.inl old
      · exact Or.inr rfl

/-- The other calls stay when one is replaced. -/
theorem mem_replaceCall_of_ne
    {calls : List Call} {index : Nat} {next : Option Call} {call other : Call}
    (found : calls[index]? = some other) (member : call ∈ calls)
    (different : call ≠ other) :
    call ∈ World.replaceCall calls index next := by
  obtain ⟨place, equal⟩ := List.mem_iff_getElem?.mp member
  have apart : index ≠ place := by
    rintro rfl
    exact different (Option.some_injective _ (equal.symm.trans found))
  cases next with
  | none =>
      exact List.mem_eraseIdx_iff_getElem?.mpr ⟨place, apart.symm, equal⟩
  | some replaced =>
      refine List.mem_iff_getElem?.mpr ⟨place, ?_⟩
      rw [World.replaceCall, List.getElem?_set_ne apart]
      exact equal

/-- A task after an exchange was there before it, or is the new one. -/
theorem Exchange.mem
    {before after : Option Task} {old new : List Task} {task : Task}
    (exchange : Exchange before after old new) (member : task ∈ new) :
    task ∈ old ∨ after = some task := by
  obtain ⟨others, oldPerm, newPerm⟩ := exchange
  rcases List.mem_append.mp (newPerm.mem_iff.mp member) with own | other
  · exact Or.inr (Option.mem_toList.mp own)
  · exact Or.inl (oldPerm.mem_iff.mpr (List.mem_append_right _ other))

theorem Exchange.mem_before
    {before after : Option Task} {old new : List Task}
    (exchange : Exchange before after old new) :
    ∀ task ∈ before, task ∈ old := by
  obtain ⟨others, oldPerm, -⟩ := exchange
  intro task member
  exact oldPerm.mem_iff.mpr (List.mem_append_left _ (by simpa using member))

/-- What is read off the tasks is exchanged with them. -/
theorem Exchange.filterMap {Value : Type} (read : Task → Option Value)
    {before after : Option Task} {old new : List Task}
    (exchange : Exchange before after old new) :
    ∃ others : List Task, others ⊆ old ∧
      (∀ task ∈ new, after = some task ∨ task ∈ others) ∧
      (∀ task ∈ others, task ∈ new) ∧
      (old.filterMap read).Perm
        ((before.bind read).toList ++ others.filterMap read) ∧
      (new.filterMap read).Perm
        ((after.bind read).toList ++ others.filterMap read) := by
  obtain ⟨others, oldPerm, newPerm⟩ := exchange
  have own :
      ∀ task : Option Task,
        (task.toList ++ others).filterMap read =
          (task.bind read).toList ++ others.filterMap read := by
    intro task
    rw [List.filterMap_append]
    cases task with
    | none => rfl
    | some busy => cases value : read busy <;> simp [value]
  refine ⟨others, ?_, ?_, ?_, ?_, ?_⟩
  · intro task member
    exact oldPerm.mem_iff.mpr (List.mem_append_right _ member)
  · intro task member
    rcases List.mem_append.mp (newPerm.mem_iff.mp member) with own | other
    · exact Or.inl (Option.mem_toList.mp own)
    · exact Or.inr other
  · intro task member
    exact newPerm.mem_iff.mpr (List.mem_append_right _ member)
  · rw [← own]
    exact oldPerm.filterMap _
  · rw [← own]
    exact newPerm.filterMap _

/-- A call that goes on with the same task. -/
theorem exchange_self
    {calls : List Call} {index : Nat} {call : Call}
    (found : calls[index]? = some call) :
    Exchange call.task? call.task?
      (calls.filterMap Call.task?) (calls.filterMap Call.task?) := by
  have replaced := exchange_replaceCall found (some call)
  obtain ⟨inside, rfl⟩ := List.getElem?_eq_some_iff.mp found
  rwa [World.replaceCall, List.set_getElem_self] at replaced

/-! ## Every step moves at most one call -/

/-- The event neither asks for an approval nor answers a placing call. -/
def Event.aside : Event → Bool
  | .approveRequested _ _ => false
  | .placeEnded _ (.ok _) => false
  | _ => true

/-- The call as the action starts it. -/
def Action.Starts : Action → Call → Prop
  | .startAcquire request, call =>
      call = .acquiring request (.gating Gate.attempts)
  | .startRelease scheduleId userId _, call =>
      ∃ released, call = .releasing scheduleId userId released
  | .startPlace request, call => call = .placing request .opening
  | .startReconcile _ _, call =>
      ∃ rest orderId, call = .reconciling rest [] (.inquiring orderId)
  | .startCancel _ _, call =>
      ∃ cancellation, call = .canceling cancellation (.refunding none)
  | _, _ => False

/-- The effect of a step on the calls in progress. -/
inductive Moves (world : World) : Action → World → Prop where
  | stays {action : Action} {next : World} {events : List Event}
      (calls : next.calls = world.calls)
      (log : next.log = world.log ++ events)
      (aside : ∀ event ∈ events, event.aside = true) :
      Moves world action next
  | starts {action : Action} {next : World} {call : Call} {events : List Event}
      (starts : action.Starts call)
      (calls : next.calls = world.calls ++ [call])
      (log : next.log = world.log ++ events)
      (aside : ∀ event ∈ events, event.aside = true) :
      Moves world action next
  | advances {index : Nat} {call : Call} {progress : Progress}
      (found : world.calls[index]? = some call)
      (advances : advance world.clock world.db call = some progress) :
      Moves world (.advance index) (world.progress index progress)
  | answers {index : Nat} {attempt : PayAttempt} {call : Call}
      {progress : Progress}
      (found : world.calls[index]? = some call)
      (receives : receive world.db attempt call = some progress) :
      Moves world (.answer index attempt) (world.progress index progress)
  | executes {index : Nat} {number pgTid : String} {amount : Int}
      {executed : String → Call} {call : Call} {next : World}
      (found : world.calls[index]? = some call)
      (refunds : call.refund? = some (pgTid, amount, executed))
      (calls :
        next.calls =
          World.replaceCall world.calls index (some (executed number)))
      (log : next.log = world.log) :
      Moves world (.execute index number) next
  | travels {index : Nat} {io : GateIo} {call : Call} {trip : GateProgress}
      {next : World}
      (found : world.calls[index]? = some call)
      (travels : gateTrip world.clock world.gate io call = some trip)
      (calls : next.calls = World.replaceCall world.calls index trip.next)
      (log : next.log = world.log ++ trip.events) :
      Moves world (.gate index io) next

theorem step_moves {world next : World} {action : Action}
    (taken : world.step action = some next) :
    Moves world action next := by
  have silent : ∀ event ∈ ([] : List Event), event.aside = true := by simp
  have unlogged : world.log = world.log ++ [] := (List.append_nil _).symm
  cases action with
  | tick | flushall =>
      cases taken
      exact .stays rfl unlogged silent
  | sweep batch =>
      cases taken
      exact .stays rfl rfl (by simp [Event.aside])
  | startAcquire request =>
      simp only [World.step] at taken
      split at taken
      · cases taken
        exact .stays rfl rfl (by simp [Event.aside])
      · cases taken
        exact .starts rfl rfl unlogged silent
  | startRelease scheduleId userId seatIds =>
      simp only [World.step] at taken
      split at taken
      · cases taken
        exact .stays rfl rfl (by simp [Event.aside])
      · cases taken
        exact .starts ⟨_, rfl⟩ rfl unlogged silent
  | startPlace request =>
      simp only [World.step] at taken
      split at taken
      · cases taken
        exact .stays rfl rfl (by simp [Event.aside])
      · cases taken
        exact .starts rfl rfl unlogged silent
  | startReconcile olderThanSec batch =>
      cases taken
      cases Queries.unresolvedOrders olderThanSec batch world.clock world.db with
      | nil =>
          exact
            .stays (List.append_nil _) rfl (by simp [nextCandidate, Event.aside])
      | cons orderId rest =>
          exact .starts ⟨rest, orderId, rfl⟩ rfl rfl (by simp [nextCandidate])
  | startCancel orderId now =>
      simp only [World.step] at taken
      split at taken
      · cases taken
        exact .stays rfl rfl (by simp [Event.aside])
      · cases taken
        exact .starts ⟨_, rfl⟩ rfl rfl (by simp [Event.aside])
  | webhook orderId pgTid =>
      simp only [World.step] at taken
      split at taken <;> cases taken <;>
        exact .stays rfl rfl (by simp [Event.aside])
  | advance index =>
      obtain ⟨call, found, callTaken⟩ := Option.bind_eq_some_iff.mp taken
      obtain ⟨progress, advances, final⟩ :=
        Option.bind_eq_some_iff.mp callTaken
      cases final
      exact .advances found advances
  | answer index attempt =>
      obtain ⟨call, found, callTaken⟩ := Option.bind_eq_some_iff.mp taken
      obtain ⟨progress, receives, final⟩ :=
        Option.bind_eq_some_iff.mp callTaken
      cases final
      exact .answers found receives
  | execute index number =>
      obtain ⟨call, found, callTaken⟩ := Option.bind_eq_some_iff.mp taken
      cases executes_of_executeRequest callTaken with
      | approval => exact .stays rfl unlogged silent
      | refund _ inFlight => exact .executes found inFlight rfl rfl
  | gate index io =>
      obtain ⟨call, found, callTaken⟩ := Option.bind_eq_some_iff.mp taken
      obtain ⟨trip, travels, final⟩ := Option.bind_eq_some_iff.mp callTaken
      cases final
      exact .travels found travels rfl rfl

/-! ## Every step is a turn -/

/-- The task of a call after the settling step of its order. -/
def Settled.Leaves (settled : Settled) (after : Option Task) : Prop :=
  match settled with
  | .settling next => after = some (.settling next)
  | _ => Quiet after

section Steps

variable {world next : World} {index : Nat}

theorem settle_turn
    {stage : Settling} {db : Db} {events : List Event} {settled : Settled}
    {after : Option Task}
    (current : world.taskOf (.advance index) = some (.settling stage))
    (settles : settle world.clock world.db stage = some (db, events, settled))
    (leaves : settled.Leaves after) :
    Turn world (.advance index) (some (.settling stage)) after
      { world.toBooks with db } := by
  cases stage with
  | confirming orderId pgTid amount =>
      have confirms :
          world.confirms (.advance index) = some (orderId, pgTid) := by
        simp [World.confirms, current]
      simp only [settle] at settles
      split at settles
      · rename_i byThisCall confirmedDb ok
        cases settles
        cases byThisCall with
        | false =>
            rw [confirmPaid_false ok]
            exact .idle (passing_some rfl) leaves
        | true =>
            obtain ⟨order, rfl, confirmed⟩ := confirmPaid_true ok
            exact .confirmed confirms (Or.inl ⟨amount, rfl⟩) confirmed leaves
      · rename_i error failed
        split at settles
        · rename_i lost
          cases settles
          cases leaves
          exact .expired confirms (confirmPaid_expired failed lost)
        · cases settles
          exact .idle (passing_some rfl) leaves
  | closing orderId status =>
      simp only [settle] at settles
      split at settles
      · rename_i closed ok
        cases settles
        exact .closed ok leaves
      · cases settles
        exact .idle (passing_some rfl) leaves
  | compensating orderId pgTid amount why =>
      simp only [settle] at settles
      split at settles
      · rename_i order loaded
        obtain ⟨member, rfl⟩ := loadOrder_ok loaded
        cases settles
        cases leaves
        exact .compensating member
      · cases settles
        exact .idle (passing_some rfl) leaves
  | refunding order pgTid total why number =>
      simp [settle] at settles
  | recording order total why attempt =>
      simp only [settle] at settles
      split at settles
      · rename_i recorded ok
        cases settles
        exact .recorded ok leaves
      · rename_i error failed
        cases settles
        exact .unrecorded failed leaves

@[simp]
theorem nextCandidate_db
    (db : Db) (events : List Event) (confirmed rest : List Nat) :
    (nextCandidate db events confirmed rest).db = db := by
  cases rest <;> rfl

theorem quiet_nextCandidate
    (db : Db) (events : List Event) (confirmed rest : List Nat) :
    Quiet ((nextCandidate db events confirmed rest).next.bind Call.task?) := by
  cases rest with
  | nil => exact quiet_none
  | cons orderId rest => exact quiet_inquiring orderId

/-- A transaction of a call in progress. -/
theorem advance_turn
    {call : Call} {progress : Progress}
    (current : world.taskOf (.advance index) = call.task?)
    (advances : advance world.clock world.db call = some progress) :
    Turn world (.advance index) call.task? (progress.next.bind Call.task?)
      { world.toBooks with db := progress.db } := by
  cases call with
  | acquiring request stage =>
      cases stage with
      | gating attempts => simp [advance, advanceAcquire] at advances
      | ungating error => simp [advance, advanceAcquire] at advances
      | holding gated =>
          simp only [advance, advanceAcquire] at advances
          split at advances
          · rename_i held db taken
            cases advances
            exact .acquired taken
          · split at advances
            · cases advances
              exact .idle passing_none quiet_none
            · cases advances
              exact .idle passing_none quiet_none
  | releasing scheduleId userId released => simp [advance] at advances
  | placing request stage =>
      cases stage with
      | opening =>
          simp only [advance, advancePlace] at advances
          split at advances
          · cases advances
            exact .idle passing_none quiet_none
          · rename_i order db ok
            cases advances
            exact .opened (openPending_some ok)
          · rename_i db ok
            cases advances
            rw [openPending_none ok]
            exact .idle passing_none quiet_none
      | lookingUp startedAt =>
          simp only [advance, advancePlace] at advances
          split at advances
          · cases advances
            exact .idle passing_none quiet_none
          · cases advances
            exact .idle passing_none quiet_none
      | approving orderId amount => simp [advance, advancePlace] at advances
      | settling stage =>
          simp only [advance, advancePlace, Option.map_eq_some_iff] at advances
          obtain ⟨⟨db, events, settled⟩, settles, rfl⟩ := advances
          have turn : ∀ {after : Option Task}, settled.Leaves after →
              Turn world (.advance index) (some (.settling stage)) after
                { world.toBooks with db } :=
            settle_turn current settles
          cases settled with
          | settling next => exact turn rfl
          | confirmed orderId byThisCall => exact turn quiet_none
          | closed orderId => exact turn quiet_none
          | compensated orderId why => exact turn quiet_none
          | raised error => exact turn quiet_none
      | polling orderId attempts replayed =>
          simp only [advance, advancePlace] at advances
          split at advances
          · cases advances
            exact .idle passing_none quiet_none
          · cases advances
            exact .idle passing_none quiet_none
          · split at advances
            · cases advances
              exact .idle passing_none quiet_none
            · cases advances
              exact .idle passing_none quiet_none
  | reconciling rest confirmed stage =>
      cases stage with
      | inquiring orderId => simp [advance, advanceReconcile] at advances
      | settling stage =>
          simp only [advance, advanceReconcile, Option.map_eq_some_iff]
            at advances
          obtain ⟨⟨db, events, settled⟩, settles, rfl⟩ := advances
          have turn : ∀ {after : Option Task}, settled.Leaves after →
              Turn world (.advance index) (some (.settling stage)) after
                { world.toBooks with db } :=
            settle_turn current settles
          cases settled with
          | settling next => exact turn rfl
          | confirmed orderId byThisCall =>
              rw [nextCandidate_db]
              exact turn (quiet_nextCandidate _ _ _ _)
          | closed orderId =>
              rw [nextCandidate_db]
              exact turn (quiet_nextCandidate _ _ _ _)
          | compensated orderId why =>
              rw [nextCandidate_db]
              exact turn (quiet_nextCandidate _ _ _ _)
          | raised error => exact turn quiet_none
  | canceling cancellation stage =>
      cases stage with
      | refunding number => simp [advance, advanceCancel] at advances
      | failing result =>
          simp only [advance, advanceCancel] at advances
          split at advances
          · rename_i error failed
            cases advances
            exact .cancelUnfailed failed
          · rename_i db recorded
            cases advances
            exact .cancelFailed recorded
      | closing attempt =>
          simp only [advance, advanceCancel] at advances
          split at advances
          · rename_i error failed
            cases advances
            exact .cancelUnclosed failed
          · rename_i db closed
            cases advances
            exact .cancelClosed closed

/-- An answer of the gateway. -/
theorem receive_turn
    {call : Call} {attempt : PayAttempt} {progress : Progress}
    (receives : receive world.db attempt call = some progress) :
    Turn world (.answer index attempt) call.task?
      (progress.next.bind Call.task?) { world.toBooks with db := progress.db } := by
  cases receives_of_receive receives with
  | placeUnanswered => exact .idle (passing_some rfl) quiet_none
  | placeDeclined declined => exact .declined rfl declined (Or.inl rfl)
  | placeApproved approved number =>
      refine .approved rfl approved number ?_
      intro requested equal
      cases equal
      rfl
  | placeRefunded | reconcileRefunded => exact .refundAnswered
  | inquiryUnknown =>
      rw [nextCandidate_db]
      exact .idle (passing_some rfl) (quiet_nextCandidate _ _ _ _)
  | inquiryBroken => exact .idle (passing_some rfl) quiet_none
  | inquiryApproved approved number =>
      exact .approved rfl approved number (by simp)
  | inquiryDeclined declined => exact .declined rfl declined (Or.inr rfl)
  | cancelRefunded => exact .cancelAnswered

/-- The gateway executes a request in flight. -/
theorem executeRequest_turn
    {call : Call} {number : String}
    (found : world.calls[index]? = some call)
    (executes : world.executeRequest index number call = some next) :
    ∃ after : Option Task,
      Exchange call.task? after world.tasks next.tasks ∧
        Turn world (.execute index number) call.task? after next.toBooks := by
  cases executes_of_executeRequest executes with
  | approval fresh first =>
      exact ⟨_, exchange_self found, .approvalExecuted fresh first⟩
  | @refund _ _ _ executed fresh inFlight =>
      have moved := exchange_replaceCall found (some (executed number))
      cases refunds_of_refund inFlight with
      | placing | reconciling => exact ⟨_, moved, .refundExecuted fresh⟩
      | canceling => exact ⟨_, moved, .cancelExecuted fresh⟩

/-- A gate script changes no books and no task. -/
theorem gateTrip_task
    {now : Time} {gate : KeyStore.Store Gate.Key Gate.Token} {io : GateIo}
    {call : Call} {trip : GateProgress}
    (made : gateTrip now gate io call = some trip) :
    call.task? = none ∧ trip.next.bind Call.task? = none := by
  cases travels_of_gateTrip made <;> exact ⟨rfl, rfl⟩

theorem tasks_addCall (world : World) (call : Call) :
    Exchange none call.task? world.tasks (world.addCall call).tasks := by
  have appended := exchange_append world.tasks call.task?
  rw [World.tasks, World.tasks, World.addCall, List.filterMap_append]
  cases task : call.task? <;> simpa [World.tasks, task] using appended

/-- What one step does, for every action. -/
theorem step_turn {action : Action}
    (taken : world.step action = some next) :
    ∃ after : Option Task,
      Exchange (world.taskOf action) after world.tasks next.tasks ∧
        Turn world action (world.taskOf action) after next.toBooks := by
  have nothing : Exchange none none world.tasks world.tasks := by
    simpa using exchange_append world.tasks none
  cases action with
  | tick elapsed =>
      cases taken
      exact ⟨none, nothing, .idle passing_none quiet_none⟩
  | flushall =>
      cases taken
      exact ⟨none, nothing, .idle passing_none quiet_none⟩
  | startAcquire request =>
      simp only [World.step] at taken
      split at taken
      · cases taken
        exact ⟨none, nothing, .idle passing_none quiet_none⟩
      · cases taken
        exact ⟨none, tasks_addCall world _, .idle passing_none quiet_none⟩
  | startRelease scheduleId userId seatIds =>
      simp only [World.step] at taken
      split at taken
      · cases taken
        exact ⟨none, nothing, .released⟩
      · cases taken
        exact ⟨none, tasks_addCall { world with db := _ } _, .released⟩
  | sweep batch =>
      cases taken
      exact ⟨none, nothing, .swept⟩
  | startPlace request =>
      simp only [World.step] at taken
      split at taken
      · cases taken
        exact ⟨none, nothing, .idle passing_none quiet_none⟩
      · cases taken
        exact ⟨none, tasks_addCall world _, .idle passing_none quiet_none⟩
  | startReconcile olderThanSec batch =>
      simp only [World.step] at taken
      cases scanned :
          Queries.unresolvedOrders olderThanSec batch world.clock world.db with
      | nil =>
          rw [scanned] at taken
          cases taken
          refine ⟨none, ?_, .idle passing_none quiet_none⟩
          simpa [World.tasks, World.taskOf, nextCandidate] using nothing
      | cons orderId rest =>
          rw [scanned] at taken
          cases taken
          refine ⟨some (.inquiring orderId), ?_, .idle passing_none (quiet_inquiring _)⟩
          exact tasks_addCall world (.reconciling rest [] (.inquiring orderId))
  | startCancel orderId now =>
      simp only [World.step] at taken
      split at taken
      · cases taken
        exact ⟨none, nothing, .idle passing_none quiet_none⟩
      · rename_i cancellation prepared
        cases taken
        exact
          ⟨some (.canceling cancellation (.refunding none)),
            tasks_addCall { world with log := _ } _, .cancelStarted prepared⟩
  | webhook orderId pgTid =>
      simp only [World.step] at taken
      split at taken
      · rename_i byThisCall db ok
        cases taken
        refine ⟨none, nothing, ?_⟩
        cases byThisCall with
        | false =>
            rw [confirmPaid_false ok]
            exact .idle passing_none quiet_none
        | true =>
            obtain ⟨order, rfl, confirmed⟩ := confirmPaid_true ok
            exact .confirmed rfl (Or.inr ⟨rfl, rfl⟩) confirmed quiet_none
      · cases taken
        exact ⟨none, nothing, .idle passing_none quiet_none⟩
  | advance index =>
      obtain ⟨call, found, callTaken⟩ := Option.bind_eq_some_iff.mp taken
      obtain ⟨progress, advances, final⟩ :=
        Option.bind_eq_some_iff.mp callTaken
      cases final
      have current : world.taskOf (.advance index) = call.task? := by
        simp [World.taskOf, found]
      rw [current]
      exact
        ⟨progress.next.bind Call.task?,
          exchange_replaceCall found progress.next,
          advance_turn current advances⟩
  | execute index number =>
      obtain ⟨call, found, callTaken⟩ := Option.bind_eq_some_iff.mp taken
      have current : world.taskOf (.execute index number) = call.task? := by
        simp [World.taskOf, found]
      rw [current]
      exact executeRequest_turn found callTaken
  | answer index attempt =>
      obtain ⟨call, found, callTaken⟩ := Option.bind_eq_some_iff.mp taken
      obtain ⟨progress, receives, final⟩ :=
        Option.bind_eq_some_iff.mp callTaken
      cases final
      have current : world.taskOf (.answer index attempt) = call.task? := by
        simp [World.taskOf, found]
      rw [current]
      exact
        ⟨progress.next.bind Call.task?,
          exchange_replaceCall found progress.next, receive_turn receives⟩
  | gate index io =>
      obtain ⟨call, found, callTaken⟩ := Option.bind_eq_some_iff.mp taken
      obtain ⟨trip, travels, final⟩ := Option.bind_eq_some_iff.mp callTaken
      cases final
      have current : world.taskOf (.gate index io) = call.task? := by
        simp [World.taskOf, found]
      obtain ⟨before, after⟩ := gateTrip_task travels
      have exchange := exchange_replaceCall found trip.next
      rw [after] at exchange
      rw [current, before]
      rw [before] at exchange
      exact ⟨none, exchange, .idle passing_none quiet_none⟩

end Steps

end Curtain
