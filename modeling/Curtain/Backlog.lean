import Curtain.Reconciler

/-!
# The reconciler works off its queue

A call of `reconcile` that returns has settled every order it has scanned,
except for those that the gateway has left open: it could not tell what became
of the payment, or did not give it back.  As long as it leaves none open, call
after call settles a batch, oldest orders first, and the others move up.
-/

namespace Curtain

open Queries Table HoldService OrderService

/-! ## What keeps an order open -/

/-- An answer of the gateway that lets the reconciler settle an order. -/
def Event.conclusive : Event → Bool
  | .inquireAnswered _ attempt => attempt.result.isConclusive
  | .refundAnswered _ _ attempt => attempt.approved
  | _ => true

/-- The gateway cannot tell what became of the payment, or does not give it back. -/
def Event.leavesOpen (orderId : Nat) : Event → Bool
  | .inquireAnswered asked attempt =>
      asked == orderId && !attempt.result.isConclusive
  | .refundAnswered refunded _ attempt =>
      refunded == orderId && !attempt.approved
  | _ => false

/-- A call of the reconciler ends with an error. -/
def Event.breaksOff : Event → Bool
  | .reconcileEnded (.error _) => true
  | _ => false

/-- The stage ends with a conclusion about its order, if it does not raise. -/
def Settling.concludes : Settling → Bool
  | .closing _ status => status != .pending
  | .recording _ _ _ attempt => attempt.approved
  | _ => true

/-- What has become of an order about which a call has asked. -/
inductive Outcome (db : Db) (call : Option Call) (events : List Event)
    (orderId : Nat) : Prop where
  | settled (settled : db.isPending orderId = false)
  | leftOpen (seen : events.any (Event.leavesOpen orderId) = true)
  | underWay {rest confirmed : List Nat} {stage : Settling}
      (busy : call = some (.reconciling rest confirmed (.settling stage)))
      (own : stage.orderId = orderId) (concludes : stage.concludes = true)

/-! ## One transaction -/

section Transactions

variable {db after : Db} {now : Time} {orderId : Nat}

theorem isPending_markOrder {status : OrderStatus} (final : status ≠ .pending) :
    (markOrder orderId status .pending db).2.isPending orderId = false := by
  rw [Bool.eq_false_iff, ne_eq, Db.isPending_iff]
  rintro ⟨order, member, own, pending⟩
  obtain ⟨old, -, ⟨-, rfl⟩ | ⟨untouched, rfl⟩⟩ := mem_updateWhere.mp member
  · exact final pending
  · simp [own, pending] at untouched

/-- Whatever a confirmation that does not raise returns, the order is settled. -/
theorem isPending_confirmPaid {pgTid : String} {byThisCall : Bool}
    (ok : confirmPaid orderId pgTid now db = .ok (byThisCall, after)) :
    after.isPending orderId = false := by
  cases byThisCall with
  | true =>
      obtain ⟨order, rfl, confirmed⟩ := confirmPaid_true ok
      rw [Bool.eq_false_iff, ne_eq, Db.isPending_iff, confirmed.after_eq]
      rintro ⟨row, member, own, pending⟩
      obtain ⟨old, oldMember, ⟨-, rfl⟩ | ⟨-, rfl⟩⟩ := mem_updateWhere.mp member
      all_goals
        exact
          Bool.eq_false_iff.mp (@isPending_markOrder db order.id .paid (by simp))
            (Db.isPending_iff.mpr ⟨_, oldMember, own, pending⟩)
  | false =>
      obtain ⟨order, -, restOk⟩ := bind_eq_ok.mp ok
      dsimp only at restOk
      split at restOk
      · rename_i unclaimed
        cases restOk
        rw [Bool.eq_false_iff, ne_eq, Db.isPending_iff, ← markOrderPaid_ne_nil]
        exact not_not.mpr unclaimed
      · split at restOk
        · cases restOk
        · obtain ⟨claimed, -, bookOk⟩ := bind_eq_ok.mp restOk
          split at bookOk
          · cases bookOk
          · split at bookOk
            · cases bookOk
            · obtain ⟨confirmed, -, final⟩ := bind_eq_ok.mp bookOk
              cases final

theorem isPending_closeUnpaid {status : OrderStatus} (final : status ≠ .pending)
    (ok : closeUnpaid orderId status db = .ok after) :
    after.isPending orderId = false := by
  obtain ⟨order, loaded, restOk⟩ := bind_eq_ok.mp ok
  dsimp only at restOk
  split at restOk
  · rename_i unclosed
    cases restOk
    rw [Bool.eq_false_iff, ne_eq, Db.isPending_iff, ← markOrder_ne_nil]
    exact not_not.mpr unclosed
  · split at restOk <;> cases restOk <;> exact isPending_markOrder final

theorem isPending_recordRefund {order : Order} {total : Int}
    {attempt : PayAttempt} (approved : attempt.approved = true)
    (ok : recordRefund order total attempt db = .ok after) :
    after.isPending order.id = false := by
  obtain ⟨middle, -, rfl⟩ := recordRefund_ok ok
  rw [if_pos approved]
  exact isPending_markOrder (by simp)

/-- A stage that concludes goes on as one, raises, or settles its order. -/
theorem settle_concludes {stage : Settling} {events : List Event}
    {settled : Settled} (concludes : stage.concludes = true)
    (settles : settle now db stage = some (after, events, settled)) :
    match settled with
    | .settling next => next.concludes = true
    | .raised _ => True
    | _ => after.isPending stage.orderId = false := by
  cases stage with
  | refunding => cases settles
  | confirming orderId pgTid amount =>
      simp only [settle] at settles
      split at settles
      · rename_i ok
        cases settles
        exact isPending_confirmPaid ok
      · split at settles <;> cases settles
        · rfl
        · trivial
  | closing orderId status =>
      simp only [settle] at settles
      split at settles
      · rename_i ok
        cases settles
        exact isPending_closeUnpaid (bne_iff_ne.mp concludes) ok
      · cases settles
        trivial
  | compensating orderId pgTid amount why =>
      simp only [settle] at settles
      split at settles <;> cases settles
      · rfl
      · trivial
  | recording order total why attempt =>
      simp only [settle] at settles
      split at settles
      · rename_i ok
        cases settles
        exact isPending_recordRefund concludes ok
      · cases settles
        trivial

end Transactions

/-! ## One call -/

/--
What has become of the orders about which a call has asked; a call that has
returned has asked about all.
-/
structure Working (scan asked : List Nat) (db : Db) (call : Option Call)
    (events : List Event) : Prop where
  whole : call = none → asked = scan
  outcome : ∀ orderId ∈ asked, Outcome db call events orderId

/-- The order needs no more work of the call. -/
def Dealt (db : Db) (events : List Event) (orderId : Nat) : Prop :=
  db.isPending orderId = false ∨ events.any (Event.leavesOpen orderId) = true

theorem Dealt.outcome {db : Db} {events : List Event} {orderId : Nat}
    (dealt : Dealt db events orderId) (call : Option Call) :
    Outcome db call events orderId :=
  dealt.elim .settled .leftOpen

section Calls

variable {db after : Db} {now : Time} {scan asked rest confirmed : List Nat}
variable {events sent : List Event} {progress : Progress} {orderId : Nat}

theorem Dealt.later (dealt : Dealt db events orderId)
    (closed :
      ∀ orderId, after.isPending orderId = true → db.isPending orderId = true) :
    Dealt after (events ++ sent) orderId := by
  rcases dealt with settled | seen
  · left
    cases pending : after.isPending orderId with
    | false => rfl
    | true => exact (closed orderId pending).symm.trans settled
  · right
    rw [List.any_append, seen]
    rfl

theorem nextCandidate_working (through : asked ++ rest = scan)
    (dealt : ∀ orderId ∈ asked, Dealt db events orderId) :
    Working scan asked db (nextCandidate db sent confirmed rest).next events := by
  refine ⟨?_, fun orderId member => (dealt orderId member).outcome _⟩
  cases rest with
  | nil => exact fun _ => (List.append_nil asked).symm.trans through
  | cons => simp [nextCandidate]

theorem advance_working {stage : Settling}
    (has : (Call.reconciling rest confirmed (.settling stage)).Has scan asked)
    (works :
      Working scan asked db (some (.reconciling rest confirmed (.settling stage)))
        events)
    (advances :
      advance now db (.reconciling rest confirmed (.settling stage)) =
        some progress)
    (closed :
      ∀ orderId, progress.db.isPending orderId = true →
        db.isPending orderId = true)
    (unbroken : progress.events.any Event.breaksOff = false) :
    Working scan asked progress.db progress.next (events ++ progress.events) := by
  simp only [advance, advanceReconcile, Option.map_eq_some_iff] at advances
  obtain ⟨⟨after, sent, settled⟩, settles, rfl⟩ := advances
  -- The order under way is the only one whose outcome this transaction decides.
  have decided {sent : List Event}
      (closed :
        ∀ orderId, after.isPending orderId = true →
          db.isPending orderId = true)
      (settled :
        stage.concludes = true → after.isPending stage.orderId = false) :
      ∀ orderId ∈ asked, Dealt after (events ++ sent) orderId := by
    intro orderId member
    cases works.outcome orderId member with
    | settled settled => exact Dealt.later (Or.inl settled) closed
    | leftOpen seen => exact Dealt.later (Or.inr seen) closed
    | underWay busy own concludes =>
        cases busy
        exact own ▸ Or.inl (settled concludes)
  have concludes := fun concludes => settle_concludes concludes settles
  cases settled with
  | settling next =>
      refine ⟨by simp, fun orderId member => ?_⟩
      cases works.outcome orderId member with
      | settled settled => exact (Dealt.later (Or.inl settled) closed).outcome _
      | leftOpen seen => exact (Dealt.later (Or.inr seen) closed).outcome _
      | underWay busy own going =>
          cases busy
          have same := (settle_order settles).1 next rfl
          exact .underWay rfl (same.trans own) (concludes going)
  | confirmed | closed | compensated =>
      dsimp only at closed ⊢
      rw [nextCandidate_db] at closed ⊢
      exact nextCandidate_working has.2 (decided closed concludes)
  | raised error => simp [Event.breaksOff] at unbroken

theorem receive_working {stage : ReconcileStage} {attempt : PayAttempt}
    (index : Nat)
    (has : (Call.reconciling rest confirmed stage).Has scan asked)
    (works :
      Working scan asked db (some (.reconciling rest confirmed stage)) events)
    (receives :
      receive db attempt (.reconciling rest confirmed stage) = some progress)
    (unbroken : progress.events.any Event.breaksOff = false) :
    Working scan
      (asked ++
        inquiredBy (.answer index attempt)
          (Call.reconciling rest confirmed stage).task?)
      progress.db progress.next (events ++ progress.events) := by
  have same : progress.db = db := receive_db receives
  rw [same]
  cases stage with
  | inquiring orderId =>
      have through : (asked ++ [orderId]) ++ rest = scan := by
        rw [List.append_assoc]
        exact has
      have before {sent : List Event} :
          ∀ other ∈ asked, Dealt db (events ++ sent) other := by
        intro other member
        cases works.outcome other member with
        | settled settled => exact Dealt.later (Or.inl settled) fun _ => id
        | leftOpen seen => exact Dealt.later (Or.inr seen) fun _ => id
        | underWay busy => cases busy
      have goesOn {stage : Settling} {sent : List Event}
          (own : stage.orderId = orderId) (concludes : stage.concludes = true) :
          Working scan (asked ++ [orderId]) db
            (some (.reconciling rest confirmed (.settling stage)))
            (events ++ sent) := by
        refine ⟨by simp, List.forall_mem_append.mpr ⟨?_, ?_⟩⟩
        · exact fun other member => (before other member).outcome _
        · exact List.forall_mem_singleton.mpr (.underWay rfl own concludes)
      simp only [receive] at receives
      split at receives
      · rename_i unknown
        cases receives
        refine
          nextCandidate_working through (List.forall_mem_append.mpr ⟨before, ?_⟩)
        refine List.forall_mem_singleton.mpr (Or.inr ?_)
        have seen :
            Event.leavesOpen orderId (.inquireAnswered orderId attempt) = true := by
          simp [Event.leavesOpen, PayResult.isConclusive, unknown]
        cases rest <;> simp [nextCandidate, seen]
      · cases receives
        simp [Event.breaksOff] at unbroken
      · cases receives
        exact goesOn rfl rfl
      · cases receives
        exact goesOn rfl rfl
  | settling stage =>
      cases stage with
      | confirming | closing | compensating | recording => cases receives
      | refunding order pgTid total why executed =>
          cases receives
          show Working scan (asked ++ []) _ _ _
          rw [List.append_nil]
          refine ⟨by simp, fun other member => ?_⟩
          cases works.outcome other member with
          | settled settled => exact .settled settled
          | leftOpen seen =>
              exact .leftOpen (by rw [List.any_append, seen, Bool.true_or])
          | underWay busy own =>
              cases busy
              cases approved : attempt.approved with
              | true => exact .underWay rfl own approved
              | false =>
                  refine .leftOpen ?_
                  have refused :
                      Event.leavesOpen other
                        (.refundAnswered order.id total attempt) = true := by
                    simpa [Event.leavesOpen, approved, Settling.orderId] using own
                  simp [refused]

theorem execute_working {call : Call} {pgTid number : String} {amount : Int}
    {executed : String → Call} (works : Working scan asked db (some call) events)
    (inFlight : call.refund? = some (pgTid, amount, executed)) :
    Working scan asked db (some (executed number)) events := by
  refine ⟨by simp, fun orderId member => ?_⟩
  cases works.outcome orderId member with
  | settled settled => exact .settled settled
  | leftOpen seen => exact .leftOpen seen
  | underWay busy own =>
      cases busy
      cases refunds_of_refund inFlight with
      | reconciling => exact .underWay rfl own rfl

end Calls

/-- A call at work, and what has become of the orders about which it has asked. -/
structure World.Clearing (start : World) (scan asked : List Nat)
    (events : List Event) (world : World) : Prop where
  serving : World.Serving start scan asked world
  logged : world.log = start.log ++ events
  works :
    events.any Event.breaksOff = false →
      Working scan asked world.db world.calls.head? events

namespace World.Clearing

variable {start world next : World} {scan asked : List Nat}
variable {events : List Event} {action : Action}

theorem advance (clearing : World.Clearing start scan asked events world)
    {index : Nat} (taken : world.step (.advance index) = some next) :
    ∃ sent, World.Clearing start scan asked (events ++ sent) next := by
  have serving := clearing.serving.advance taken
  obtain ⟨after, exchange, turn⟩ := step_turn taken
  obtain ⟨call, found, callTaken⟩ := Option.bind_eq_some_iff.mp taken
  obtain ⟨progress, advances, final⟩ := Option.bind_eq_some_iff.mp callTaken
  obtain ⟨rfl, calls, has⟩ := clearing.serving.call_at found
  cases call with
  | acquiring | releasing | placing | canceling => cases has
  | reconciling rest confirmed stage =>
      cases stage with
      | inquiring => cases advances
      | settling stage =>
          have current : world.taskOf (.advance 0) = some (.settling stage) :=
            taskOf_call rfl found
          rw [current] at exchange turn
          have closed :=
            (turn.keeps_orders clearing.serving.consistent exchange.mem_before).2.2
          cases final
          refine ⟨progress.events, serving, ?_, ?_⟩
          · rw [← List.append_assoc, ← clearing.logged]
            rfl
          · intro unbroken
            rw [List.any_append, Bool.or_eq_false_iff] at unbroken
            have works := clearing.works unbroken.1
            rw [calls] at works
            rw [World.head?_progress calls]
            exact advance_working has works advances closed unbroken.2

theorem answer (clearing : World.Clearing start scan asked events world)
    {index : Nat} {attempt : PayAttempt}
    (taken : world.step (.answer index attempt) = some next) :
    ∃ sent,
      World.Clearing start scan
        (asked ++
          inquiredBy (.answer index attempt)
            (world.taskOf (.answer index attempt)))
        (events ++ sent) next := by
  have serving := clearing.serving.answer taken
  obtain ⟨call, found, callTaken⟩ := Option.bind_eq_some_iff.mp taken
  obtain ⟨progress, receives, final⟩ := Option.bind_eq_some_iff.mp callTaken
  obtain ⟨rfl, calls, has⟩ := clearing.serving.call_at found
  have current : world.taskOf (.answer 0 attempt) = call.task? :=
    taskOf_call rfl found
  rw [current] at serving ⊢
  cases call with
  | acquiring | releasing | placing | canceling => cases has
  | reconciling rest confirmed stage =>
      cases final
      refine ⟨progress.events, serving, ?_, ?_⟩
      · rw [← List.append_assoc, ← clearing.logged]
        rfl
      · intro unbroken
        rw [List.any_append, Bool.or_eq_false_iff] at unbroken
        have works := clearing.works unbroken.1
        rw [calls] at works
        rw [World.head?_progress calls]
        exact receive_working 0 has works receives unbroken.2

theorem execute (clearing : World.Clearing start scan asked events world)
    {index : Nat} {number : String}
    (taken : world.step (.execute index number) = some next) :
    World.Clearing start scan asked events next := by
  have serving := clearing.serving.execute taken
  obtain ⟨call, found, callTaken⟩ := Option.bind_eq_some_iff.mp taken
  obtain ⟨rfl, calls, has⟩ := clearing.serving.call_at found
  cases executes_of_executeRequest callTaken with
  | approval => cases has
  | @refund _ _ _ executed _ inFlight =>
      refine ⟨serving, clearing.logged, fun unbroken => ?_⟩
      have works := clearing.works unbroken
      rw [calls] at works
      simp only [calls]
      exact execute_working works inFlight

theorem step (clearing : World.Clearing start scan asked events world)
    (goesOn : action.goesOn = true) (taken : world.step action = some next) :
    ∃ more sent,
      World.Clearing start scan (asked ++ more) (events ++ sent) next := by
  cases action with
  | tick =>
      have serving := clearing.serving.tick taken
      cases taken
      refine ⟨[], [], ?_⟩
      rw [List.append_nil, List.append_nil]
      exact ⟨serving, clearing.logged, clearing.works⟩
  | advance =>
      obtain ⟨sent, later⟩ := clearing.advance taken
      refine ⟨[], sent, ?_⟩
      rw [List.append_nil]
      exact later
  | execute =>
      refine ⟨[], [], ?_⟩
      rw [List.append_nil, List.append_nil]
      exact clearing.execute taken
  | answer =>
      obtain ⟨sent, later⟩ := clearing.answer taken
      exact ⟨_, sent, later⟩
  | _ => cases goesOn

theorem of_start {olderThanSec : Int} {batch : Nat}
    (consistent : start.Consistent) (quiet : start.calls = [])
    (taken : start.step (.startReconcile olderThanSec batch) = some world) :
    ∃ sent,
      World.Clearing start
        (unresolvedOrders olderThanSec batch start.clock start.db) [] sent
        world := by
  have serving := World.Serving.of_start consistent quiet taken
  cases taken
  refine ⟨_, serving, rfl, fun _ => ?_⟩
  dsimp only
  rw [quiet, List.nil_append, Option.head?_toList]
  exact nextCandidate_working (List.nil_append _) (by simp)

/-- A call of the reconciler, however the gateway answers. -/
theorem of_run {olderThanSec : Int} {batch : Nat} {started : World}
    (consistent : start.Consistent) (quiet : start.calls = [])
    (taken : start.step (.startReconcile olderThanSec batch) = some started)
    (run :
      TransitionSystem.RunWhere World.step
        (fun _ action => action.goesOn = true) started world) :
    ∃ asked events,
      World.Clearing start
        (unresolvedOrders olderThanSec batch start.clock start.db) asked events
        world := by
  induction run with
  | refl =>
      obtain ⟨sent, clearing⟩ := of_start consistent quiet taken
      exact ⟨[], sent, clearing⟩
  | tail _ goesOn taken induction =>
      obtain ⟨asked, events, clearing⟩ := induction
      obtain ⟨more, sent, later⟩ := clearing.step goesOn taken
      exact ⟨_, _, later⟩

end World.Clearing

/-! ## Call after call -/

namespace World

variable {world later : World} {rounds : List (Rounds.Round Nat)}
variable {olderThanSec : Int} {batch : Nat}

/-- What successive calls leave behind, in which the events were logged. -/
structure Cleared (olderThanSec : Int) (batch : Nat) (world : World)
    (rounds : List (Rounds.Round Nat)) (events : List Event) (later : World) :
    Prop where
  logged : later.log = world.log ++ events
  closed :
    ∀ orderId, later.db.isPending orderId = true →
      world.db.isPending orderId = true
  dealt :
    events.any Event.breaksOff = false →
      ∀ orderId ∈ Rounds.served rounds, Dealt later.db events orderId
  moves :
    events.any Event.breaksOff = false →
      events.all Event.conclusive = true →
        (∀ orderId ∈
            (world.db.unresolved olderThanSec world.clock).take
              (rounds.length * batch),
          later.db.isPending orderId = false) ∧
          (world.db.unresolved olderThanSec world.clock).drop
              (rounds.length * batch) <+:
            later.db.unresolved olderThanSec later.clock

theorem Cleared.refl : Cleared olderThanSec batch world [] [] world :=
  { logged := (List.append_nil _).symm
    closed := fun _ => id
    dealt := by simp [Rounds.served]
    moves := by simp }

/-- The calls after some calls take up the queue where those left it. -/
theorem Cleared.trans {middle : World} {more : List (Rounds.Round Nat)}
    {events sent : List Event}
    (first : Cleared olderThanSec batch world rounds events middle)
    (second : Cleared olderThanSec batch middle more sent later) :
    Cleared olderThanSec batch world (rounds ++ more) (events ++ sent) later where
  logged := by rw [second.logged, first.logged, List.append_assoc]
  closed orderId pending := first.closed orderId (second.closed orderId pending)
  dealt unbroken orderId member := by
    rw [List.any_append, Bool.or_eq_false_iff] at unbroken
    rw [Rounds.served, List.flatMap_append, List.mem_append] at member
    rcases member with early | late
    · exact (first.dealt unbroken.1 orderId early).later second.closed
    · refine (second.dealt unbroken.2 orderId late).imp_right fun seen => ?_
      rw [List.any_append, seen, Bool.or_true]
  moves unbroken conclusive := by
    rw [List.any_append, Bool.or_eq_false_iff] at unbroken
    rw [List.all_append, Bool.and_eq_true] at conclusive
    obtain ⟨settled, moved⟩ := first.moves unbroken.1 conclusive.1
    obtain ⟨settledLater, movedLater⟩ := second.moves unbroken.2 conclusive.2
    rw [List.length_append, Nat.add_mul]
    constructor
    · intro orderId member
      rw [List.take_add, List.mem_append] at member
      rcases member with early | late
      · cases pending : later.db.isPending orderId with
        | false => rfl
        | true =>
            exact
              (second.closed orderId pending).symm.trans (settled orderId early)
      · exact settledLater orderId ((moved.take _).subset late)
    · rw [← List.drop_drop]
      exact (moved.drop _).trans movedLater

end World

end Curtain
