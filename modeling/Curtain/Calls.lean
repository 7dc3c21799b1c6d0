import Curtain.World

/-!
# What the environment does to a call

An answer of the gateway, the execution of a request in flight and a round trip
to the gate each continue a call in a few ways only.  These ways are listed
once, with what each of them writes, and later proofs are by cases on them.
-/

namespace Curtain

open HoldService OrderService

/-! ## Answers of the gateway -/

/-- What an answer of the gateway makes of the call that waits for it. -/
inductive Receives (db : Db) (attempt : PayAttempt) : Call → Progress → Prop where
  | placeUnanswered {request : PlaceRequest} {orderId : Nat} {amount : Int}
      (error : Raised) :
      Receives db attempt (.placing request (.approving orderId amount))
        { db
          next := none
          events :=
            [.approveAnswered orderId attempt,
              .placeEnded request (.error error)] }
  | placeDeclined {request : PlaceRequest} {orderId : Nat} {amount : Int}
      (declined : attempt.result = .declined) :
      Receives db attempt (.placing request (.approving orderId amount))
        { db
          next := some (.placing request (.settling (.closing orderId .failed)))
          events := [.approveAnswered orderId attempt] }
  | placeApproved {request : PlaceRequest} {orderId : Nat} {amount : Int}
      {pgTid : String}
      (approved : attempt.result = .approved)
      (number : attempt.pgTid = some pgTid) :
      Receives db attempt (.placing request (.approving orderId amount))
        { db
          next :=
            some (.placing request
              (.settling (.confirming orderId pgTid (some amount))))
          events := [.approveAnswered orderId attempt] }
  | placeRefunded {request : PlaceRequest} {order : Order} {pgTid : String}
      {total : Int} {why : Raised} {executed : Option String} :
      Receives db attempt
        (.placing request
          (.settling (.refunding order pgTid total why executed)))
        { db
          next :=
            some (.placing request
              (.settling (.recording order total why attempt)))
          events := [.refundAnswered order.id total attempt] }
  | inquiryUnknown {rest confirmed : List Nat} {orderId : Nat} :
      Receives db attempt (.reconciling rest confirmed (.inquiring orderId))
        (nextCandidate db [.inquireAnswered orderId attempt] confirmed rest)
  | inquiryBroken {rest confirmed : List Nat} {orderId : Nat} :
      Receives db attempt (.reconciling rest confirmed (.inquiring orderId))
        { db
          next := none
          events :=
            [.inquireAnswered orderId attempt,
              .reconcileEnded (.error (.assertionError ""))] }
  | inquiryApproved {rest confirmed : List Nat} {orderId : Nat} {pgTid : String}
      (approved : attempt.result = .approved)
      (number : attempt.pgTid = some pgTid) :
      Receives db attempt (.reconciling rest confirmed (.inquiring orderId))
        { db
          next :=
            some (.reconciling rest confirmed
              (.settling (.confirming orderId pgTid none)))
          events := [.inquireAnswered orderId attempt] }
  | inquiryDeclined {rest confirmed : List Nat} {orderId : Nat}
      (declined : attempt.result = .declined) :
      Receives db attempt (.reconciling rest confirmed (.inquiring orderId))
        { db
          next :=
            some (.reconciling rest confirmed
              (.settling (.closing orderId .canceled)))
          events := [.inquireAnswered orderId attempt] }
  | reconcileRefunded {rest confirmed : List Nat} {order : Order}
      {pgTid : String} {total : Int} {why : Raised} {executed : Option String} :
      Receives db attempt
        (.reconciling rest confirmed
          (.settling (.refunding order pgTid total why executed)))
        { db
          next :=
            some (.reconciling rest confirmed
              (.settling (.recording order total why attempt)))
          events := [.refundAnswered order.id total attempt] }
  | cancelRefunded {cancellation : Cancellation} {executed : Option String} :
      Receives db attempt (.canceling cancellation (.refunding executed))
        { db
          next :=
            some (.canceling cancellation
              (if attempt.approved then .closing attempt
                else .failing attempt.result))
          events :=
            [.refundAnswered cancellation.order.id cancellation.refundAmount
              attempt] }

theorem receives_of_receive
    {db : Db} {attempt : PayAttempt} {call : Call} {progress : Progress}
    (received : receive db attempt call = some progress) :
    Receives db attempt call progress := by
  cases call with
  | acquiring | releasing => cases received
  | placing request stage =>
      cases stage with
      | opening | lookingUp | polling => cases received
      | approving orderId amount =>
          simp only [receive] at received
          split at received <;> cases received
          · exact .placeUnanswered _
          · rename_i declined
            exact .placeDeclined declined
          · exact .placeUnanswered _
          · rename_i pgTid approved number
            exact .placeApproved approved number
      | settling stage =>
          cases stage with
          | confirming | closing | compensating | recording => cases received
          | refunding =>
              cases received
              exact .placeRefunded
  | reconciling rest confirmed stage =>
      cases stage with
      | inquiring orderId =>
          simp only [receive] at received
          split at received <;> cases received
          · exact .inquiryUnknown
          · exact .inquiryBroken
          · rename_i pgTid approved number
            exact .inquiryApproved approved number
          · rename_i declined
            exact .inquiryDeclined declined
      | settling stage =>
          cases stage with
          | confirming | closing | compensating | recording => cases received
          | refunding =>
              cases received
              exact .reconcileRefunded
  | canceling cancellation stage =>
      cases stage with
      | failing | closing => cases received
      | refunding =>
          cases received
          exact .cancelRefunded

/-! ## Executions by the gateway -/

/-- The calls that have a refund in flight, before and after its execution. -/
inductive Refunds : Call → String → Int → (String → Call) → Prop where
  | placing {request : PlaceRequest} {order : Order} {pgTid : String}
      {total : Int} {why : Raised} :
      Refunds
        (.placing request (.settling (.refunding order pgTid total why none)))
        pgTid total fun number =>
          .placing request
            (.settling (.refunding order pgTid total why (some number)))
  | reconciling {rest confirmed : List Nat} {order : Order} {pgTid : String}
      {total : Int} {why : Raised} :
      Refunds
        (.reconciling rest confirmed
          (.settling (.refunding order pgTid total why none)))
        pgTid total fun number =>
          .reconciling rest confirmed
            (.settling (.refunding order pgTid total why (some number)))
  | canceling {cancellation : Cancellation} :
      Refunds (.canceling cancellation (.refunding none)) cancellation.pgTid
        cancellation.refundAmount fun number =>
          .canceling cancellation (.refunding (some number))

theorem refunds_of_refund
    {call : Call} {pgTid : String} {amount : Int} {executed : String → Call}
    (inFlight : call.refund? = some (pgTid, amount, executed)) :
    Refunds call pgTid amount executed := by
  cases call with
  | acquiring | releasing => cases inFlight
  | placing request stage =>
      cases stage with
      | opening | lookingUp | approving | polling => cases inFlight
      | settling stage =>
          rcases stage with _ | _ | _ | ⟨order, tid, total, why, _ | _⟩ | _
          case refunding.none =>
            cases inFlight
            exact .placing
          all_goals cases inFlight
  | reconciling rest confirmed stage =>
      cases stage with
      | inquiring => cases inFlight
      | settling stage =>
          rcases stage with _ | _ | _ | ⟨order, tid, total, why, _ | _⟩ | _
          case refunding.none =>
            cases inFlight
            exact .reconciling
          all_goals cases inFlight
  | canceling cancellation stage =>
      rcases stage with ⟨_ | _⟩ | _ | _
      case refunding.none =>
        cases inFlight
        exact .canceling
      all_goals cases inFlight

/-- What the gateway's execution of a request in flight changes. -/
inductive Executes (world : World) (index : Nat) (number : String) :
    Call → World → Prop where
  | approval {request : PlaceRequest} {orderId : Nat} {amount : Int}
      (fresh : number ∉ world.issued)
      (first : world.approvals.any (·.orderId == orderId) = false) :
      Executes world index number
        (.placing request (.approving orderId amount))
        { world with
          approvals :=
            world.approvals ++ [{ orderId, pgTid := number, amount }] }
  | refund {call : Call} {pgTid : String} {amount : Int}
      {executed : String → Call}
      (fresh : number ∉ world.issued)
      (inFlight : call.refund? = some (pgTid, amount, executed)) :
      Executes world index number call
        { world with
          refunds :=
            world.refunds ++ [{ pgTid, amount, refundTid := number }]
          calls := world.calls.set index (executed number) }

theorem executes_of_executeRequest
    {world next : World} {index : Nat} {number : String} {call : Call}
    (executed : world.executeRequest index number call = some next) :
    Executes world index number call next := by
  rw [World.executeRequest] at executed
  split at executed
  · cases executed
  · rename_i fresh
    split at executed
    · rename_i orderId amount approval
      split at executed
      · cases executed
      · rename_i first
        cases executed
        cases call with
        | placing request stage =>
            cases stage with
            | approving =>
                cases approval
                exact .approval fresh (Bool.eq_false_iff.mpr first)
            | opening | lookingUp | settling | polling => cases approval
        | acquiring | releasing | reconciling | canceling => cases approval
    · rename_i inFlight
      cases executed
      exact .refund fresh inFlight
    · cases executed

/-! ## Round trips to the gate -/

/-- What a round trip to the gate makes of the call that makes it. -/
inductive Travels (now : Time) (gate : KeyStore.Store Gate.Key Gate.Token) :
    GateIo → Call → GateProgress → Prop where
  | retried {io : GateIo} {request : AcquireRequest} {attempts : Nat}
      (unanswered : io ≠ .answered) :
      Travels now gate io (.acquiring request (.gating attempts))
        { gate :=
            if io = .unreachable then gate
            else
              (Gate.seatGate now (Gate.ttlMs request.ttlSec)
                (Gate.token request.userId)
                (Gate.keys request.scheduleId (Gate.ordered request.seatIds))
                gate).2
          next :=
            some (.acquiring request
              (if attempts ≤ 1 then .holding false
                else .gating (attempts - 1)))
          events := [] }
  | passed {request : AcquireRequest} {attempts : Nat}
      (passed :
        (Gate.seatGate now (Gate.ttlMs request.ttlSec)
          (Gate.token request.userId)
          (Gate.keys request.scheduleId (Gate.ordered request.seatIds))
          gate).1 = 0) :
      Travels now gate .answered (.acquiring request (.gating attempts))
        { gate :=
            (Gate.seatGate now (Gate.ttlMs request.ttlSec)
              (Gate.token request.userId)
              (Gate.keys request.scheduleId (Gate.ordered request.seatIds))
              gate).2
          next := some (.acquiring request (.holding true))
          events := [] }
  | blocked {request : AcquireRequest} {attempts : Nat}
      (blocks :
        (Gate.seatGate now (Gate.ttlMs request.ttlSec)
          (Gate.token request.userId)
          (Gate.keys request.scheduleId (Gate.ordered request.seatIds))
          gate).1 ≠ 0) :
      Travels now gate .answered (.acquiring request (.gating attempts))
        { gate :=
            (Gate.seatGate now (Gate.ttlMs request.ttlSec)
              (Gate.token request.userId)
              (Gate.keys request.scheduleId (Gate.ordered request.seatIds))
              gate).2
          next := none
          events :=
            [.acquireEnded request
              (.error (.holdRejected
                ((Gate.ordered request.seatIds)[
                  (Gate.seatGate now (Gate.ttlMs request.ttlSec)
                    (Gate.token request.userId)
                    (Gate.keys request.scheduleId
                      (Gate.ordered request.seatIds))
                    gate).1 - 1]?).toList))] }
  | ungated {io : GateIo} {request : AcquireRequest} {error : Raised} :
      Travels now gate io (.acquiring request (.ungating error))
        { gate :=
            if io = .unreachable then gate
            else
              (Gate.seatGateRelease now (Gate.token request.userId)
                (Gate.keys request.scheduleId (Gate.ordered request.seatIds))
                gate).2
          next := none
          events := [.acquireEnded request (.error error)] }
  | released {io : GateIo} {scheduleId userId : Nat} {seatIds : List Nat} :
      Travels now gate io (.releasing scheduleId userId seatIds)
        { gate :=
            if io = .unreachable then gate
            else
              (Gate.seatGateRelease now (Gate.token userId)
                (Gate.keys scheduleId (Gate.ordered seatIds)) gate).2
          next := none
          events := [.releaseEnded scheduleId userId seatIds] }

theorem travels_of_gateTrip
    {now : Time} {gate : KeyStore.Store Gate.Key Gate.Token} {io : GateIo}
    {call : Call} {trip : GateProgress}
    (made : gateTrip now gate io call = some trip) :
    Travels now gate io call trip := by
  cases call with
  | placing | reconciling | canceling => cases made
  | releasing =>
      cases made
      exact .released
  | acquiring request stage =>
      cases stage with
      | holding => cases made
      | ungating =>
          cases made
          exact .ungated
      | gating attempts =>
          simp only [gateTrip] at made
          cases io with
          | lost | unreachable =>
              cases made
              exact .retried (by decide)
          | answered =>
              dsimp only at made
              split at made
              · rename_i passed
                cases made
                exact .passed passed
              · rename_i blocks
                cases made
                exact .blocked blocks

end Curtain
