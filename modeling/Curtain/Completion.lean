import Curtain.Crashes

/-!
# Every call returns

No call waits for another one: between two of its steps a call has only the
database, the gate or the gateway to wait for, and the silence of the gateway
and of the gate is an answer too.  The retries and the polls are bounded, so
each step leaves a call less to do, whatever the other calls do meanwhile.
-/

namespace Curtain

open HoldService OrderService TransitionSystem

/-! ## What is left to do -/

/-- The steps that are left when `afterwards` follow a confirmation. -/
def Settling.work (afterwards : Nat) : Settling → Nat
  | .confirming .. => max 4 (afterwards + 1)
  | .closing .. => 1
  | .compensating .. => 3
  | .refunding .. => 2
  | .recording .. => 1

def Settled.work (afterwards : Nat) : Settled → Nat
  | .settling next => next.work afterwards
  | .confirmed .. => afterwards
  | _ => 0

def PlaceStage.work : PlaceStage → Nat
  | .opening => replayAttempts + 3
  | .lookingUp _ => replayAttempts + 1
  | .approving .. => replayAttempts + 2
  | .settling stage => stage.work replayAttempts
  | .polling _ attempts _ => max 1 attempts

/-- The most that one candidate of the reconciler takes. -/
def candidateWork : Nat := 5

def ReconcileStage.work : ReconcileStage → Nat
  | .inquiring _ => candidateWork
  | .settling stage => stage.work 0

def CancelStage.work : CancelStage → Nat
  | .refunding _ => 2
  | .failing _ => 1
  | .closing _ => 1

def AcquireStage.work : AcquireStage → Nat
  | .gating attempts => max 1 attempts + 2
  | .holding gated => if gated then 2 else 1
  | .ungating _ => 1

/-- A bound on the steps that a call still takes. -/
def Call.work : Call → Nat
  | .acquiring _ stage => stage.work
  | .releasing .. => 1
  | .placing _ stage => stage.work
  | .reconciling rest _ stage => candidateWork * rest.length + stage.work
  | .canceling _ stage => stage.work

/-- An ended call has nothing left to do. -/
def workLeft (call : Option Call) : Nat :=
  call.elim 0 Call.work

/-- A step of the service for one of its calls. -/
def Action.serves : Action → Bool
  | .advance _ => true
  | .answer _ _ => true
  | .gate _ _ => true
  | _ => false

/-- A bound on the steps of the call that the action starts. -/
def Action.charge : Action → Nat
  | .startAcquire _ => Gate.attempts + 2
  | .startRelease .. => 1
  | .startPlace _ => replayAttempts + 3
  | .startReconcile _ batch => candidateWork * batch
  | .startCancel .. => 2
  | _ => 0

theorem Action.charge_of_serves {action : Action}
    (serves : action.serves = true) :
    action.charge = 0 := by
  cases action <;> first | rfl | cases serves

/-! ## Each step does a part of it -/

theorem Settling.work_pos (afterwards : Nat) (stage : Settling) :
    0 < stage.work afterwards := by
  cases stage <;> simp [work]

theorem ReconcileStage.work_pos (stage : ReconcileStage) : 0 < stage.work := by
  cases stage with
  | inquiring => exact Nat.succ_pos 4
  | settling stage => exact stage.work_pos 0

theorem Call.work_pos (call : Call) : 0 < call.work := by
  cases call with
  | releasing => exact Nat.one_pos
  | acquiring request stage =>
      cases stage with
      | gating | ungating => simp [work, AcquireStage.work]
      | holding gated => cases gated <;> simp [work, AcquireStage.work]
  | placing request stage =>
      cases stage with
      | settling stage => exact stage.work_pos _
      | opening | lookingUp | approving | polling =>
          simp [work, PlaceStage.work]
  | reconciling rest confirmed stage => exact Nat.lt_add_left _ stage.work_pos
  | canceling cancellation stage =>
      cases stage <;> simp [work, CancelStage.work]

section Work

variable {now : Time} {db : Db} {request : PlaceRequest}

theorem settle_work {stage : Settling} {after : Db} {events : List Event}
    {settled : Settled} (afterwards : Nat)
    (settles : settle now db stage = some (after, events, settled)) :
    settled.work afterwards < stage.work afterwards := by
  cases stage with
  | refunding => cases settles
  | confirming orderId pgTid amount =>
      simp only [settle] at settles
      split at settles
      · cases settles
        exact lt_max_of_lt_right (Nat.lt_succ_self _)
      · split at settles <;> cases settles <;> simp [Settled.work, Settling.work]
  | closing | compensating | recording =>
      simp only [settle] at settles
      split at settles <;> cases settles <;> simp [Settled.work, Settling.work]

theorem nextCandidate_work (events : List Event) (confirmed rest : List Nat) :
    workLeft (nextCandidate db events confirmed rest).next =
      candidateWork * rest.length := by
  cases rest with
  | nil => rfl
  | cons orderId rest =>
      exact (Nat.mul_succ _ _).symm

theorem advancePlace_work {stage : PlaceStage} {progress : Progress}
    (advances : advancePlace now db request stage = some progress) :
    workLeft progress.next < stage.work := by
  have ends : 0 < stage.work := (Call.placing request stage).work_pos
  cases stage with
  | approving => cases advances
  | opening =>
      simp only [advancePlace] at advances
      split at advances <;> cases advances
      · exact ends
      · exact Nat.lt_succ_self _
      · show replayAttempts + 1 < replayAttempts + 3
        omega
  | lookingUp startedAt =>
      simp only [advancePlace] at advances
      split at advances <;> cases advances
      · exact Nat.lt_succ_self replayAttempts
      · exact ends
  | settling stage =>
      simp only [advancePlace, Option.map_eq_some_iff] at advances
      obtain ⟨⟨after, events, settled⟩, settles, rfl⟩ := advances
      have less := settle_work replayAttempts settles
      cases settled with
      | settling | confirmed => exact less
      | closed | compensated | raised => exact ends
  | polling orderId attempts replayed =>
      simp only [advancePlace] at advances
      split at advances
      · cases advances
        exact ends
      · cases advances
        exact ends
      · split at advances <;> cases advances
        · exact ends
        · show max 1 (attempts - 1) < max 1 attempts
          omega

/-- A transaction leaves its call less to do. -/
theorem advance_work {call : Call} {progress : Progress}
    (advances : advance now db call = some progress) :
    workLeft progress.next < call.work := by
  cases call with
  | releasing => cases advances
  | acquiring request stage =>
      cases stage with
      | gating | ungating => cases advances
      | holding gated =>
          have ends := (Call.acquiring request (.holding gated)).work_pos
          simp only [advance, advanceAcquire] at advances
          split at advances
          · cases advances
            exact ends
          · cases gated <;> cases advances
            · exact ends
            · exact Nat.one_lt_two
  | placing request stage => exact advancePlace_work advances
  | reconciling rest confirmed stage =>
      cases stage with
      | inquiring => cases advances
      | settling stage =>
          have ends :=
            (Call.reconciling rest confirmed (.settling stage)).work_pos
          simp only [advance, advanceReconcile, Option.map_eq_some_iff]
            at advances
          obtain ⟨⟨after, events, settled⟩, settles, rfl⟩ := advances
          have less := settle_work 0 settles
          have onward := Nat.lt_add_of_pos_right (n := candidateWork * rest.length)
            (stage.work_pos 0)
          cases settled with
          | settling next => exact Nat.add_lt_add_left less _
          | raised => exact ends
          | confirmed | closed | compensated =>
              rw [nextCandidate_work]
              exact onward
  | canceling cancellation stage =>
      have ends := (Call.canceling cancellation stage).work_pos
      cases stage with
      | refunding => cases advances
      | failing | closing =>
          simp only [advance, advanceCancel] at advances
          split at advances <;> cases advances <;> exact ends

/-- An answer of the gateway leaves its call less to do. -/
theorem receive_work {attempt : PayAttempt} {call : Call} {progress : Progress}
    (receives : receive db attempt call = some progress) :
    workLeft progress.next < call.work := by
  have ends : 0 < call.work := call.work_pos
  cases receives_of_receive receives with
  | placeUnanswered | inquiryBroken => exact ends
  | placeDeclined | placeApproved | placeRefunded =>
      simp [workLeft, Call.work, PlaceStage.work, Settling.work, replayAttempts]
  | inquiryUnknown =>
      rw [nextCandidate_work]
      exact Nat.lt_add_of_pos_right (ReconcileStage.inquiring _).work_pos
  | inquiryApproved | inquiryDeclined | reconcileRefunded =>
      simp [workLeft, Call.work, ReconcileStage.work, Settling.work,
        candidateWork]
  | cancelRefunded =>
      cases attempt.approved <;>
        simp [workLeft, Call.work, CancelStage.work]

/-- A round trip to the gate leaves its call less to do. -/
theorem gateTrip_work {gate : KeyStore.Store Gate.Key Gate.Token} {io : GateIo}
    {call : Call} {trip : GateProgress}
    (made : gateTrip now gate io call = some trip) :
    workLeft trip.next < call.work := by
  have ends : 0 < call.work := call.work_pos
  cases travels_of_gateTrip made with
  | blocked | ungated | released => exact ends
  | @retried _ request attempts =>
      show
        AcquireStage.work
            (if attempts ≤ 1 then .holding false else .gating (attempts - 1)) <
          AcquireStage.work (.gating attempts)
      split <;> simp only [AcquireStage.work] <;> grind
  | passed =>
      simp only [workLeft, Call.work, AcquireStage.work, Option.elim_some]
      grind

/-- The execution of a refund leaves its call where it is. -/
theorem refund_work {call : Call} {pgTid number : String} {amount : Int}
    {executed : String → Call}
    (inFlight : call.refund? = some (pgTid, amount, executed)) :
    (executed number).work = call.work := by
  cases refunds_of_refund inFlight <;> rfl

end Work

/-! ## A call is never stuck -/

/-- How the call goes on when neither the gate nor the gateway answers. -/
def Call.proceed (index : Nat) : Call → Action
  | .acquiring _ (.holding _) => .advance index
  | .acquiring .. | .releasing .. => .gate index .unreachable
  | .placing _ (.approving ..) | .placing _ (.settling (.refunding ..))
  | .reconciling _ _ (.inquiring _)
  | .reconciling _ _ (.settling (.refunding ..))
  | .canceling _ (.refunding _) =>
      .answer index { result := .unknown, pgTid := none }
  | _ => .advance index

theorem settle_isSome {now : Time} {db : Db} {stage : Settling}
    (ready :
      ∀ order pgTid total why executed,
        stage ≠ .refunding order pgTid total why executed) :
    (settle now db stage).isSome = true := by
  cases stage with
  | refunding => exact absurd rfl (ready _ _ _ _ _)
  | confirming =>
      simp only [settle]
      split
      · rfl
      · split <;> rfl
  | closing | compensating | recording =>
      simp only [settle]
      split <;> rfl

/-- With silence for an answer, a call always goes on. -/
theorem step_proceed {world : World} {index : Nat} {call : Call}
    (found : world.calls[index]? = some call) :
    (call.proceed index).call? = some index ∧
      (call.proceed index).serves = true ∧
        world.truthful (call.proceed index) = true ∧
          (world.step (call.proceed index)).isSome = true := by
  have advancing
      (isSome : (advance world.clock world.db call).isSome = true)
      (proceeds : call.proceed index = .advance index) :
      (call.proceed index).call? = some index ∧
        (call.proceed index).serves = true ∧
          world.truthful (call.proceed index) = true ∧
            (world.step (call.proceed index)).isSome = true := by
    obtain ⟨progress, advances⟩ := Option.isSome_iff_exists.mp isSome
    rw [proceeds]
    exact ⟨rfl, rfl, rfl, by simp [World.step, found, advances]⟩
  cases call with
  | releasing => exact ⟨rfl, rfl, rfl, by simp [World.step, found, gateTrip, Call.proceed]⟩
  | acquiring request stage =>
      cases stage with
      | gating | ungating =>
          exact ⟨rfl, rfl, rfl, by simp [World.step, found, gateTrip, Call.proceed]⟩
      | holding gated =>
          refine advancing ?_ rfl
          simp only [advance, advanceAcquire]
          split
          · rfl
          · split <;> rfl
  | placing request stage =>
      cases stage with
      | approving =>
          refine ⟨rfl, rfl, ?_, ?_⟩ <;>
            simp [World.step, World.truthful, World.taskOf, World.truthfulAnswer,
              Call.task?, Call.proceed, found, receive]
      | opening | lookingUp =>
          refine advancing ?_ rfl
          simp only [advance, advancePlace]
          split <;> rfl
      | polling orderId attempts replayed =>
          refine advancing ?_ rfl
          simp only [advance, advancePlace]
          split
          · rfl
          · rfl
          · split <;> rfl
      | settling stage =>
          cases stage with
          | refunding =>
              refine ⟨rfl, rfl, ?_, ?_⟩ <;>
                simp [World.step, World.truthful, World.taskOf,
                  World.truthfulAnswer, World.truthfulRefund, Call.task?,
                  Call.proceed, found, receive]
          | confirming | closing | compensating | recording =>
              refine advancing ?_ rfl
              simp only [advance, advancePlace, Option.isSome_map]
              exact settle_isSome (by simp)
  | reconciling rest confirmed stage =>
      cases stage with
      | inquiring =>
          refine ⟨rfl, rfl, ?_, ?_⟩ <;>
            simp [World.step, World.truthful, World.taskOf, World.truthfulAnswer,
              Call.task?, Call.proceed, found, receive]
      | settling stage =>
          cases stage with
          | refunding =>
              refine ⟨rfl, rfl, ?_, ?_⟩ <;>
                simp [World.step, World.truthful, World.taskOf,
                  World.truthfulAnswer, World.truthfulRefund, Call.task?,
                  Call.proceed, found, receive]
          | confirming | closing | compensating | recording =>
              refine advancing ?_ rfl
              simp only [advance, advanceReconcile, Option.isSome_map]
              exact settle_isSome (by simp)
  | canceling cancellation stage =>
      cases stage with
      | refunding =>
          refine ⟨rfl, rfl, ?_, ?_⟩ <;>
            simp [World.step, World.truthful, World.taskOf, World.truthfulAnswer,
              World.truthfulRefund, Call.task?, Call.proceed, found, receive]
      | failing | closing =>
          refine advancing ?_ rfl
          simp only [advance, advanceCancel]
          split <;> rfl

/-! ## What a step leaves to do -/

/-- A step spares the calls, starts one, or does a part of the work of one. -/
inductive Works (world : World) (action : Action) (next : World) : Prop where
  | spares (idle : action.serves = false) (calls : next.calls = world.calls)
  | starts (call : Call) (idle : action.serves = false)
      (own : action.call? = none) (bounded : call.work ≤ action.charge)
      (calls : next.calls = world.calls ++ [call])
  | works (index : Nat) (call : Call) (after : Option Call)
      (own : action.call? = some index)
      (found : world.calls[index]? = some call)
      (less :
        (if action.serves = true then 1 else 0) + workLeft after ≤ call.work)
      (calls : next.calls = World.replaceCall world.calls index after)

theorem scan_work (olderThanSec : Int) (batch : Nat) (now : Time) (db : Db) :
    workLeft
        (nextCandidate db [] []
          (Queries.unresolvedOrders olderThanSec batch now db)).next ≤
      candidateWork * batch := by
  rw [nextCandidate_work]
  refine Nat.mul_le_mul_left _ ?_
  rw [Queries.unresolvedOrders, List.length_map]
  exact List.length_take_le _ _

theorem step_works {world next : World} {action : Action}
    (taken : world.step action = some next) :
    Works world action next := by
  cases action with
  | tick | flushall | sweep =>
      cases taken
      exact .spares rfl rfl
  | startAcquire request =>
      simp only [World.step] at taken
      split at taken <;> cases taken
      · exact .spares rfl rfl
      · exact .starts _ rfl rfl (Nat.le_refl _) rfl
  | startRelease =>
      simp only [World.step] at taken
      split at taken <;> cases taken
      · exact .spares rfl rfl
      · exact .starts _ rfl rfl (Nat.le_refl _) rfl
  | startPlace =>
      simp only [World.step] at taken
      split at taken <;> cases taken
      · exact .spares rfl rfl
      · exact .starts _ rfl rfl (Nat.le_refl _) rfl
  | startCancel =>
      simp only [World.step] at taken
      split at taken <;> cases taken
      · exact .spares rfl rfl
      · exact .starts _ rfl rfl (Nat.le_refl _) rfl
  | webhook =>
      simp only [World.step] at taken
      split at taken <;> cases taken <;> exact .spares rfl rfl
  | startReconcile olderThanSec batch =>
      have bounded := scan_work olderThanSec batch world.clock world.db
      cases taken
      cases scan :
          (nextCandidate world.db [] []
            (Queries.unresolvedOrders olderThanSec batch world.clock
              world.db)).next with
      | none => exact .spares rfl (by simp)
      | some call =>
          rw [scan] at bounded
          exact .starts call rfl rfl bounded (by simp)
  | advance index =>
      obtain ⟨call, found, callTaken⟩ := Option.bind_eq_some_iff.mp taken
      obtain ⟨progress, advances, final⟩ :=
        Option.bind_eq_some_iff.mp callTaken
      cases final
      have less := advance_work advances
      exact .works _ _ _ rfl found (Nat.one_add_le_iff.mpr less) rfl
  | answer index attempt =>
      obtain ⟨call, found, callTaken⟩ := Option.bind_eq_some_iff.mp taken
      obtain ⟨progress, receives, final⟩ :=
        Option.bind_eq_some_iff.mp callTaken
      cases final
      have less := receive_work receives
      exact .works _ _ _ rfl found (Nat.one_add_le_iff.mpr less) rfl
  | gate index io =>
      obtain ⟨call, found, callTaken⟩ := Option.bind_eq_some_iff.mp taken
      obtain ⟨trip, travels, final⟩ := Option.bind_eq_some_iff.mp callTaken
      cases final
      have less := gateTrip_work travels
      exact .works _ _ _ rfl found (Nat.one_add_le_iff.mpr less) rfl
  | execute index number =>
      cases step_moves taken with
      | stays calls => exact .spares rfl calls
      | starts starts => cases starts
      | executes found refunds calls =>
          refine .works _ _ _ rfl found ?_ calls
          exact (Nat.zero_add _).trans_le (refund_work refunds).le

/-! ## One call -/

namespace World

/-- The action is a step of the followed call. -/
def ownStep (followed : World × Nat) (action : Action) : Bool :=
  action.serves && action.call? == some followed.2

/-- What the followed call has left to do. -/
def workAt (followed : World × Nat) : Nat :=
  workLeft followed.1.calls[followed.2]?

/-- A call that is still there after a step is what the step made of it. -/
theorem replaceCall_ongoing {calls : List Call} {index : Nat} {call : Call}
    {next : Option Call} (found : calls[index]? = some call)
    (ongoing : (replaceCall calls index next).length = calls.length) :
    (replaceCall calls index next)[index]? = next := by
  obtain ⟨inside, -⟩ := List.getElem?_eq_some_iff.mp found
  cases next with
  | none =>
      have length := replaceCall_length_none inside
      omega
  | some later => rw [replaceCall, List.getElem?_set_self inside]

/-- There is a call at the followed place. -/
def Followed (followed : World × Nat) : Prop :=
  ∃ call, followed.1.calls[followed.2]? = some call

section Follow

variable {followed later : World × Nat} {action : Action}

/-- A followed call is followed as long as it goes on. -/
theorem Followed.step (before : Followed followed)
    (taken : follow followed action = some later) :
    Followed later := by
  obtain ⟨call, found⟩ := before
  obtain ⟨next, stepped, goesOn⟩ := Option.bind_eq_some_iff.mp taken
  split at goesOn
  · rename_i own
    split at goesOn <;> cases goesOn
    rename_i ongoing
    obtain ⟨after, there, -⟩ := own_call stepped own ongoing found
    exact ⟨after, there⟩
  · rename_i other
    cases goesOn
    exact ⟨call, moved_call stepped other found⟩

/-- The followed call pays for its own steps, and only for these. -/
theorem follow_work (before : Followed followed)
    (taken : follow followed action = some later) :
    (if ownStep followed action = true then 1 else 0) + workAt later ≤
      workAt followed := by
  obtain ⟨call, found⟩ := before
  obtain ⟨next, stepped, goesOn⟩ := Option.bind_eq_some_iff.mp taken
  split at goesOn
  · rename_i own
    split at goesOn <;> cases goesOn
    rename_i ongoing
    simp only [ownStep, own, beq_self_eq_true, Bool.and_true, workAt]
    cases step_works stepped with
    | spares idle calls => simp [idle, calls]
    | starts call idle none => cases none.symm.trans own
    | works index same after own' known less calls =>
        cases own'.symm.trans own
        cases known.symm.trans found
        rw [calls] at ongoing ⊢
        rw [replaceCall_ongoing found ongoing, found]
        exact less
  · rename_i other
    cases goesOn
    have same := moved_call stepped other found
    have idle : ownStep followed action = false := by
      rw [ownStep, beq_eq_false_iff_ne.mpr other, Bool.and_false]
    rw [idle, workAt, same, workAt, found]
    simp

end Follow

/--
A call returns within as many of its own steps as its kind allows, whatever
the other calls, the gate and the gateway do, and until then it has a next step
that needs no answer from anybody.
-/
theorem calls_return {world next after : World} {start : Action} {call : Call}
    {place : Nat} {actions : List Action}
    (started : world.step start = some next)
    (calls : next.calls = world.calls ++ [call])
    (followed :
      checkedRun follow (fun _ _ => True) (next, world.calls.length) actions =
        some (after, place)) :
    spent follow ownStep (next, world.calls.length) actions < start.charge ∧
      ∃ action, action.call? = some place ∧ action.serves = true ∧
        after.truthful action = true ∧ (after.step action).isSome = true := by
  have found : next.calls[world.calls.length]? = some call := by
    rw [calls, List.getElem?_concat_length]
  have bounded : call.work ≤ start.charge := by
    cases step_works started with
    | spares idle same =>
        rw [same] at calls
        simp at calls
    | starts other idle own bounded same =>
        rw [same] at calls
        rwa [← List.singleton_inj.mp (List.append_cancel_left calls)]
    | works index other left own known less same =>
        have length := congrArg List.length (same.symm.trans calls)
        obtain ⟨inside, -⟩ := List.getElem?_eq_some_iff.mp known
        cases left with
        | none =>
            have shorter := replaceCall_length_none inside
            simp at length
            omega
        | some later =>
            rw [replaceCall_length_some] at length
            simp at length
  have ongoing : Followed (after, place) :=
    (RunWhere.of_checkedRun actions followed).invariant ⟨call, found⟩
      fun _ _ _ before _ taken => before.step taken
  obtain ⟨last, there⟩ := ongoing
  have pays :
      ∀ state action later, Followed state → follow state action = some later →
        (if ownStep state action = true then 1 else 0) + workAt later ≤
          workAt state + 0 :=
    fun _ _ _ before taken => follow_work before taken
  have paid :
      spent follow ownStep (next, world.calls.length) actions +
          workAt (after, place) ≤
        workAt (next, world.calls.length) + (actions.map fun _ => 0).sum :=
    spent_add_le (fun _ _ _ before taken => Followed.step before taken) pays
      ⟨call, found⟩ actions followed
  have unfinished := last.work_pos
  refine ⟨?_, last.proceed place, step_proceed there⟩
  simp only [workAt, there, found, workLeft, Option.elim_some, List.map_const',
    List.sum_replicate, nsmul_zero] at paid
  omega

/-- A customer orders, the sweeper and another customer come between. -/
theorem calls_return_place :
    let order : PlaceRequest :=
      { scheduleId := 1, userId := 7, seatIds := [1], idempotencyKey := "key" }
    let actions :=
      [.advance 0, .sweep 10, .execute 0 "tid-1",
        .startPlace { order with userId := 8, idempotencyKey := "other" },
        .answer 0 { result := .approved, pgTid := some "tid-1" }]
    ∃ world next after : World, ∃ place : Nat,
      checkedRun step (fun _ _ => True) oneSeat ((Action.order 7 "key").take 3) =
          some world ∧
        world.step (.startPlace order) = some next ∧
          checkedRun follow (fun _ _ => True) (next, world.calls.length)
              actions = some (after, place) ∧
            spent follow ownStep (next, world.calls.length) actions <
              replayAttempts + 3 := by
  refine
    ⟨_, _, _, _, (Option.some_get (by decide)).symm,
      (Option.some_get (by decide)).symm, (Option.some_get (by decide)).symm, ?_⟩
  exact
    (calls_return (Option.some_get (by decide)).symm rfl
      (Option.some_get (by decide)).symm).1

/-! ## All calls -/

/-- What the calls in progress have left to do. -/
def work (world : World) : Nat :=
  (world.calls.map Call.work).sum

section Drain

variable {world next after : World} {action : Action}

/-- The calls pay for the steps of the service. -/
theorem step_work (taken : world.step action = some next) :
    (if action.serves = true then 1 else 0) + next.work ≤
      world.work + action.charge := by
  cases step_works taken with
  | spares idle calls =>
      rw [idle, work, calls, work]
      simp
  | starts call idle own bounded calls =>
      rw [idle, work, calls, work, List.map_append, List.sum_append]
      simpa using bounded
  | works index call after own found less calls =>
      obtain ⟨others, split, replaced⟩ := exists_others found
      have old := (split.map Call.work).sum_eq
      have new := ((replaced after).map Call.work).sum_eq
      have own : (after.toList.map Call.work).sum = workLeft after := by
        cases after <;> rfl
      rw [List.map_cons, List.sum_cons] at old
      rw [List.map_append, List.sum_append, own] at new
      rw [work, calls, work]
      omega

/-- With silence for an answer, all calls come to an end. -/
theorem exists_finished (world : World) :
    ∃ rest finished,
      rest.all Action.serves = true ∧ rest.length ≤ world.work ∧
        checkedRun step (Contract true) world rest = some finished ∧
          finished.calls = [] := by
  induction budget : world.work using Nat.strong_induction_on generalizing world with
  | _ budget induction =>
      subst budget
      cases calls : world.calls with
      | nil => exact ⟨[], world, rfl, Nat.zero_le _, rfl, calls⟩
      | cons call others =>
          have found : world.calls[0]? = some call := by rw [calls]; rfl
          obtain ⟨own, serves, truthful, enabled⟩ := step_proceed found
          obtain ⟨next, taken⟩ := Option.isSome_iff_exists.mp enabled
          have less := step_work taken
          rw [if_pos serves, Action.charge_of_serves serves] at less
          obtain ⟨rest, finished, all, short, performed, ended⟩ :=
            induction next.work (by omega) next rfl
          refine ⟨call.proceed 0 :: rest, finished, ?_, ?_, ?_, ended⟩
          · simp [serves, all]
          · rw [List.length_cons]
            omega
          · have permitted : Contract true world (call.proceed 0) :=
              fun _ => truthful
            rw [checkedRun, if_pos permitted, taken]
            exact performed

/--
The service takes no more steps than the calls that were started allow, and
from every world it comes to one without calls in progress.
-/
theorem calls_drain (actions : List Action)
    (performed : checkedRun step (fun _ _ => True) world actions = some after) :
    actions.countP Action.serves + after.work ≤
        world.work + (actions.map Action.charge).sum ∧
      ∃ rest finished,
        rest.all Action.serves = true ∧ rest.length ≤ after.work ∧
          checkedRun step (Contract true) after rest = some finished ∧
            finished.calls = [] := by
  refine ⟨?_, exists_finished after⟩
  have pays :
      ∀ (state : World) action later, True → state.step action = some later →
        (if action.serves = true then 1 else 0) + later.work ≤
          state.work + action.charge :=
    fun _ _ _ _ taken => step_work taken
  rw [← spent_eq_countP actions performed]
  exact
    spent_add_le (fun _ _ _ _ _ => trivial) pays trivial actions performed

/-- With an approval in flight, the order is given up after one more step. -/
theorem calls_drain_order :
    ∃ world : World,
      checkedRun step (fun _ _ => True) oneSeat (Action.order 7 "key") =
          some world ∧
        (Action.order 7 "key").countP Action.serves + world.work ≤ 47 ∧
          ∃ rest finished,
            rest.length ≤ world.work ∧
              checkedRun step (Contract true) world rest = some finished ∧
                finished.calls = [] := by
  have enabled :
      (checkedRun step (fun _ _ => True) oneSeat (Action.order 7 "key")).isSome =
        true := by
    decide
  obtain ⟨paid, rest, finished, -, short, performed, ended⟩ :=
    calls_drain (Action.order 7 "key") (Option.some_get enabled).symm
  exact
    ⟨_, (Option.some_get enabled).symm, paid, rest, finished, short, performed,
      ended⟩

end Drain

end World

end Curtain
