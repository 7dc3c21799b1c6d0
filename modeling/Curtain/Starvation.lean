import Curtain.Backlog
import Curtain.Breakdowns

/-!
# How far the reconciler comes

An order that a call of `reconcile` leaves pending takes a place of the next
scan again, in front of the younger ones.  At each place of a scan the answers
of the gateway decide, together with what the tables say about the order,
whether the order leaves the queue, stays in it, or makes the call raise.  As
many calls as the queue has batches ask about every order of the queue exactly
when these places leave room for all of them.
-/

namespace Curtain

open Queries Table HoldService OrderService
open Rounds (Verdict)

/-! ## What the answers of the gateway decide -/

/-- What the answer to an inquiry decides by itself. -/
def OrderService.PayAttempt.decides (attempt : PayAttempt) : Option Verdict :=
  match attempt.result, attempt.pgTid with
  | .unknown, _ => some .stays
  | .declined, _ => some .leaves
  | .approved, none => some .breaks
  | .approved, some _ => none

/--
What is decided when a stage is about to write.  An approved order leaves the
queue if its seats can be given to it, unless the number of the approval is
that of another payment.  Otherwise it is the answer to its refund that counts.
-/
def Settling.decides (now : Time) (db : Db) : Settling → Option Verdict
  | .confirming orderId pgTid _ =>
      if ∃ order ∈ orderForSaga orderId db, order.Grantable now db then
        some (if pgTid ∈ db.storedBeside orderId then .breaks else .leaves)
      else none
  | .recording _ _ _ attempt =>
      if ∃ number ∈ attempt.pgTid, number ∈ db.stored then some .breaks
      else some (if attempt.approved then .leaves else .stays)
  | _ => none

/-- The order about which an action of the reconciler decides, and what. -/
def World.decides (world : World) (action : Action) : Option (Nat × Verdict) :=
  match action, world.taskOf action with
  | .answer _ attempt, some (.inquiring orderId) =>
      attempt.decides.map (orderId, ·)
  | .advance _, some (.settling stage) =>
      (stage.decides world.clock world.db).map (stage.orderId, ·)
  | _, _ => none

/-- The action decides what is said about the place of its order in a scan. -/
def World.Obeys (scan : List Nat) (verdict : List Verdict) (world : World)
    (action : Action) : Prop :=
  ∀ decided ∈ world.decides action,
    verdict[scan.idxOf decided.1]? = some decided.2

instance (scan : List Nat) (verdict : List Verdict) (world : World)
    (action : Action) : Decidable (world.Obeys scan verdict action) := by
  unfold World.Obeys
  infer_instance

/--
Successive calls of `reconcile`, with nothing else in between, under answers of
the gateway that decide what is said about each place of each scan.
-/
inductive World.ReconcilesUnder (olderThanSec : Int) (batch : Nat) :
    World → List (List Verdict) → World → Prop where
  | nil (world : World) : ReconcilesUnder olderThanSec batch world [] world
  | cons {world waited started ended later : World} {elapsed : Nat}
      {verdict : List Verdict} {verdicts : List (List Verdict)}
      (waits : world.step (.tick elapsed) = some waited)
      (starts : waited.step (.startReconcile olderThanSec batch) = some started)
      (goesOn :
        TransitionSystem.RunWhere World.step
          (fun state action =>
            action.goesOn = true ∧
              state.Obeys
                (unresolvedOrders olderThanSec batch waited.clock waited.db)
                verdict action)
          started ended)
      (ends : ended.calls = [])
      (full : verdict.length = batch)
      (rest : ReconcilesUnder olderThanSec batch ended verdicts later) :
      ReconcilesUnder olderThanSec batch world (verdict :: verdicts) later

/-! ## One transaction -/

section Transactions

variable {db after : Db} {now : Time} {order : Order}

/-- The record of an approval fails with an `IntegrityError` only. -/
theorem recordApproval_error {items : List OrderItem} {pgTid : String}
    {error : Raised}
    (failed : recordApproval order items pgTid db = .error error) :
    error.isHoldExpired = false := by
  have storing {payments : List Payment} {before : Db} {error : Raised}
      (failed : storePayments payments before = .error error) :
      error.isHoldExpired = false := by
    rw [storePayments] at failed
    split at failed <;> cases failed
    rfl
  rcases bind_eq_error.mp failed with promoting | ⟨⟨promoted, middle⟩, -, rest⟩
  · rcases bind_eq_error.mp promoting with stored | ⟨_, -, final⟩
    · exact storing stored
    · cases final
  · dsimp only at rest
    split at rest
    · rcases bind_eq_error.mp rest with inserting | ⟨_, -, final⟩
      · exact storing inserting
      · cases final
    · cases rest

/-- A pending order whose seats cannot be given to it is not confirmed. -/
theorem confirmPaid_of_not_grantable (sound : db.Sound) (pgTid : String)
    (member : order ∈ db.orders) (pending : order.status = .pending)
    (refused : ¬ order.Grantable now db) :
    ∃ error : Raised, error.isHoldExpired = true ∧
      confirmPaid order.id pgTid now db = .error error := by
  cases ended : confirmPaid order.id pgTid now db with
  | ok result =>
      obtain ⟨byThisCall, later⟩ := result
      cases byThisCall with
      | true =>
          obtain ⟨other, same, confirmed⟩ := confirmPaid_true ended
          obtain rfl := sound.order_eq confirmed.member member same
          have unsold :=
            (unsold_iff sound.rowUnique sound.itemUnique).mp confirmed.unsold
          exact
            absurd ⟨pending, confirmed.nonempty, confirmed.complete, unsold⟩
              refused
      | false =>
          have settled := isPending_confirmPaid ended
          rw [confirmPaid_false ended, Db.isPending_eq sound member, pending]
            at settled
          cases settled
  | error error =>
      refine ⟨error, ?_, rfl⟩
      rcases confirmPaid_error sound ended with
        expired | ⟨missing, -⟩ | ⟨other, otherMember, same, grantable, -⟩
      · exact expired
      · exact absurd ⟨order, member, rfl⟩ missing
      · obtain rfl := sound.order_eq otherMember member same
        exact absurd grantable refused

/-- An order that can be given its seats is confirmed under a fresh number. -/
theorem confirmPaid_grantable (sound : db.Sound) (balanced : db.Balanced)
    (numbered : db.stored.Nodup) {pgTid : String} (member : order ∈ db.orders)
    (grantable : order.Grantable now db) :
    if pgTid ∈ db.storedBeside order.id then
      ∃ error : Raised, error.isHoldExpired = false ∧
        confirmPaid order.id pgTid now db = .error error
    else ∃ after, confirmPaid order.id pgTid now db = .ok (true, after) := by
  obtain ⟨booked, payments, comesDown⟩ :=
    confirmPaid_of_grantable sound pgTid member grantable
  have few := balanced.requests_le member
  have recordable :
      (∃ final,
          recordApproval order (order.claims now db) pgTid booked = .ok final) ↔
        pgTid ∉ db.storedBeside order.id := by
    rw [recordApproval_iff (by rwa [payments]) (by rwa [Db.stored, payments]),
      Db.storedBeside, payments, Db.storedBeside]
  rw [comesDown]
  cases recorded :
      recordApproval order (order.claims now db) pgTid booked with
  | error error =>
      have stored : pgTid ∈ db.storedBeside order.id := by
        by_contra fresh
        obtain ⟨final, ok⟩ := recordable.mpr fresh
        cases recorded.symm.trans ok
      rw [if_pos stored]
      exact ⟨error, recordApproval_error recorded, rfl⟩
  | ok final =>
      rw [if_neg (recordable.mp ⟨final, recorded⟩)]
      exact ⟨final, rfl⟩

/-- A refund is recorded unless its number is stored already. -/
theorem recordRefund_iff {total : Int} {attempt : PayAttempt}
    (numbered : db.stored.Nodup) :
    (∃ after, recordRefund order total attempt db = .ok after) ↔
      ∀ number ∈ attempt.pgTid, number ∉ db.stored := by
  constructor
  · rintro ⟨after, ok⟩
    obtain ⟨middle, inserted, -⟩ := recordRefund_ok ok
    obtain ⟨unique, -⟩ := insertPayment_ok.mp inserted
    exact (UniqueNullable.append_iff numbered).mp unique
  · intro fresh
    cases recorded : recordRefund order total attempt db with
    | ok after => exact ⟨after, rfl⟩
    | error error =>
        refine absurd ?_ (recordRefund_error recorded)
        refine List.nodup_append.mpr ⟨numbered, ?_, ?_⟩
        · cases attempt.pgTid <;> simp
        · rintro number stored _ given rfl
          exact fresh number (Option.mem_toList.mp given) stored

/-- A refund that was not approved leaves its order as it was. -/
theorem isPending_recordRefund_refused {total : Int} {attempt : PayAttempt}
    (refused : attempt.approved = false)
    (ok : recordRefund order total attempt db = .ok after) (orderId : Nat) :
    after.isPending orderId = db.isPending orderId := by
  obtain ⟨middle, inserted, rfl⟩ := recordRefund_ok ok
  have same := insertPayment_orders inserted
  rw [refused, Db.isPending, Db.isPending, ← same]
  rfl

/-- A stage that has yet to decide about its order. -/
def Settling.undecided : Settling → Bool
  | .closing _ _ => false
  | _ => true

/-- The settlement is over, and the call goes on. -/
def Settled.returns : Settled → Bool
  | .settling _ | .raised _ => false
  | _ => true

/-- What a transaction makes of an order, according to what is decided. -/
inductive Decided (after : Db) (orderId : Nat) :
    Option Verdict → Settled → Prop where
  | goesOn {next : Settling} (own : next.orderId = orderId)
      (undecided : next.undecided = true)
      (pending : after.isPending orderId = true) :
      Decided after orderId none (.settling next)
  | left {result : Settled} (returns : result.returns = true)
      (settled : after.isPending orderId = false) :
      Decided after orderId (some .leaves) result
  | stayed {result : Settled} (returns : result.returns = true)
      (pending : after.isPending orderId = true) :
      Decided after orderId (some .stays) result
  | broken {error : Raised} (pending : after.isPending orderId = true) :
      Decided after orderId (some .breaks) (.raised error)

/-- An undecided stage does what is decided, or goes on undecided. -/
theorem settle_decides {stage : Settling} {events : List Event}
    {settled : Settled} (sound : db.Sound) (balanced : db.Balanced)
    (numbered : db.stored.Nodup) (undecided : stage.undecided = true)
    (pending : db.isPending stage.orderId = true)
    (settles : settle now db stage = some (after, events, settled)) :
    Decided after stage.orderId (stage.decides now db) settled := by
  cases stage with
  | closing => cases undecided
  | refunding => cases settles
  | confirming orderId pgTid amount =>
      obtain ⟨order, member, rfl, waits⟩ := Db.isPending_iff.mp pending
      have found := sound.found member
      simp only [settle] at settles
      by_cases grantable : order.Grantable now db
      · rw [Settling.decides, if_pos ⟨order, found, grantable⟩]
        have confirmed :=
          @confirmPaid_grantable _ now _ sound balanced numbered pgTid member
            grantable
        split at confirmed
        · rename_i stored
          obtain ⟨error, unexpired, failed⟩ := confirmed
          rw [if_pos stored]
          simp only [failed, unexpired, Bool.false_eq_true, if_false] at settles
          cases settles
          exact .broken pending
        · rename_i fresh
          obtain ⟨final, ok⟩ := confirmed
          rw [if_neg fresh]
          simp only [ok] at settles
          cases settles
          exact .left rfl (isPending_confirmPaid ok)
      · have refused :
            ¬ ∃ other ∈ orderForSaga order.id db, other.Grantable now db := by
          rintro ⟨other, same, granted⟩
          cases found.symm.trans same
          exact grantable granted
        obtain ⟨error, expired, failed⟩ :=
          confirmPaid_of_not_grantable sound pgTid member waits grantable
        rw [Settling.decides, if_neg refused]
        simp only [failed, expired, if_true] at settles
        cases settles
        exact .goesOn rfl rfl pending
  | compensating orderId pgTid amount why =>
      simp only [settle] at settles
      split at settles
      · rename_i order loaded
        cases settles
        exact .goesOn (loadOrder_ok loaded).2 rfl pending
      · rename_i error missing
        obtain ⟨order, member, own, -⟩ := Db.isPending_iff.mp pending
        exact absurd ⟨order, member, own⟩ (loadOrder_error missing).1
  | recording order total why attempt =>
      simp only [settle] at settles
      cases recorded : recordRefund order total attempt db with
      | error error =>
          rw [recorded] at settles
          cases settles
          have stored : ∃ number ∈ attempt.pgTid, number ∈ db.stored := by
            by_contra fresh
            obtain ⟨final, ok⟩ :=
              (@recordRefund_iff _ order total attempt numbered).mpr
                fun number given stored => fresh ⟨number, given, stored⟩
            cases recorded.symm.trans ok
          rw [Settling.decides, if_pos stored]
          exact .broken pending
      | ok final =>
          rw [recorded] at settles
          cases settles
          have fresh : ¬ ∃ number ∈ attempt.pgTid, number ∈ db.stored := by
            rintro ⟨number, given, stored⟩
            exact
              (recordRefund_iff numbered).mp ⟨_, recorded⟩ number given stored
          rw [Settling.decides, if_neg fresh]
          cases approved : attempt.approved with
          | true => exact .left rfl (isPending_recordRefund approved recorded)
          | false =>
              refine .stayed rfl ?_
              rw [isPending_recordRefund_refused approved recorded]
              exact pending

end Transactions

/-! ## One call -/

/-- What a call has decided about an order, told from the tables. -/
def Db.verdict (db : Db) : Nat → Verdict :=
  Rounds.judge db.isPending

theorem Db.verdict_of_pending {db : Db} {orderId : Nat}
    (pending : db.isPending orderId = true) : db.verdict orderId = .stays :=
  if_pos pending

theorem Db.verdict_of_settled {db : Db} {orderId : Nat}
    (settled : db.isPending orderId = false) : db.verdict orderId = .leaves :=
  if_neg (Bool.eq_false_iff.mp settled)

/--
How far a call has come with its scan: the orders it has asked about, what is
decided about them, and the call itself, if it goes on.
-/
inductive Phase (db : Db) (scan : List Nat) :
    List Nat → List Verdict → Option Call → Prop where
  | through : Phase db scan scan (scan.map db.verdict) none
  | broken {done : List Nat} {orderId : Nat}
      (pending : db.isPending orderId = true) :
      Phase db scan (done ++ [orderId]) (done.map db.verdict ++ [.breaks]) none
  | inquiring {done rest confirmed : List Nat} {orderId : Nat} :
      Phase db scan done (done.map db.verdict)
        (some (.reconciling rest confirmed (.inquiring orderId)))
  | undecided {done rest confirmed : List Nat} {orderId : Nat}
      {stage : Settling} (own : stage.orderId = orderId)
      (undecided : stage.undecided = true)
      (pending : db.isPending orderId = true) :
      Phase db scan (done ++ [orderId]) (done.map db.verdict)
        (some (.reconciling rest confirmed (.settling stage)))
  | closing {done rest confirmed : List Nat} {orderId : Nat}
      (pending : db.isPending orderId = true) :
      Phase db scan (done ++ [orderId]) (done.map db.verdict ++ [.leaves])
        (some (.reconciling rest confirmed
          (.settling (.closing orderId .canceled))))

section Phases

variable {db after : Db} {now : Time} {progress : Progress}
variable {scan asked done rest confirmed : List Nat} {orderId : Nat}
variable {past : List Verdict}

/-- The call goes on to the next order, or is through. -/
theorem nextCandidate_phase {events : List Event} (all : done ++ rest = scan) :
    Phase db scan done (done.map db.verdict)
      (nextCandidate db events confirmed rest).next := by
  cases rest with
  | nil =>
      rw [List.append_nil] at all
      subst all
      exact .through
  | cons => exact .inquiring

/-- A settlement that is over leaves the call to go on to the next order. -/
theorem advance_returns {stage : Settling} {events : List Event}
    {settled : Settled}
    (settles : settle now db stage = some (after, events, settled))
    (returns : settled.returns = true)
    (advances :
      advance now db (.reconciling rest confirmed (.settling stage)) =
        some progress) :
    ∃ events confirmed,
      progress = nextCandidate after events confirmed rest := by
  simp only [advance, advanceReconcile, settles, Option.map_some,
    Option.some.injEq] at advances
  cases settled with
  | settling | raised => cases returns
  | confirmed | closed | compensated => exact ⟨_, _, advances.symm⟩

/-- The order asked about last stands behind the others in its scan. -/
theorem idxOf_last (distinct : scan.Nodup)
    (all : done ++ [orderId] ++ rest = scan) :
    scan.idxOf orderId = done.length := by
  subst all
  rw [List.append_assoc] at distinct ⊢
  have apart : orderId ∉ done := fun inDone =>
    List.disjoint_of_nodup_append distinct inDone List.mem_cons_self
  rw [List.idxOf_append_of_notMem apart, List.singleton_append,
    List.idxOf_cons_self, Nat.add_zero]

/-- What happens to the order asked about last does not concern the others. -/
theorem map_verdict (distinct : scan.Nodup)
    (all : done ++ [orderId] ++ rest = scan)
    (others :
      ∀ other, other ≠ orderId →
        after.isPending other = db.isPending other) :
    done.map after.verdict = done.map db.verdict := by
  subst all
  rw [List.append_assoc] at distinct
  apply List.map_congr_left
  intro other member
  have apart : other ≠ orderId := by
    rintro rfl
    exact List.disjoint_of_nodup_append distinct member List.mem_cons_self
  rw [Db.verdict, Rounds.judge, others other apart]
  rfl

/-- A transaction of the call does to the phase what is decided. -/
theorem advance_phase {stage : Settling} (sound : db.Sound)
    (balanced : db.Balanced) (numbered : db.stored.Nodup)
    (distinct : scan.Nodup)
    (has : (Call.reconciling rest confirmed (.settling stage)).Has scan asked)
    (phase :
      Phase db scan asked past
        (some (.reconciling rest confirmed (.settling stage))))
    (advances :
      advance now db (.reconciling rest confirmed (.settling stage)) =
        some progress)
    (others :
      ∀ orderId, orderId ≠ stage.orderId →
        progress.db.isPending orderId = db.isPending orderId) :
    Phase progress.db scan asked (past ++ (stage.decides now db).toList)
        progress.next ∧
      ∀ decided ∈ stage.decides now db,
        scan.idxOf stage.orderId = past.length := by
  obtain ⟨⟨after, events, settled⟩, settles, made⟩ :
      ∃ result, settle now db stage = some result ∧ _ :=
    Option.map_eq_some_iff.mp advances
  -- A settlement that is over leaves the order with a verdict.
  have concluded {verdict : Verdict} {done : List Nat}
      (returns : settled.returns = true)
      (all : done ++ [stage.orderId] ++ rest = scan)
      (decided : after.verdict stage.orderId = verdict) :
      Phase progress.db scan (done ++ [stage.orderId])
        (done.map db.verdict ++ [verdict]) progress.next := by
    obtain ⟨sent, later, rfl⟩ := advance_returns settles returns advances
    rw [nextCandidate_db] at others ⊢
    have next := @nextCandidate_phase after _ _ _ later sent all
    rwa [List.map_append, map_verdict distinct all others, List.map_singleton,
      decided] at next
  cases phase with
  | @undecided done _ _ _ _ own undecided pending =>
      subst own
      have all := has.2
      have place := idxOf_last distinct all
      rw [List.length_map]
      refine ⟨?_, fun _ _ => place⟩
      have decided :=
        settle_decides sound balanced numbered undecided pending settles
      generalize stage.decides now db = verdict at decided ⊢
      cases decided with
      | goesOn own undecided pending =>
          subst made
          rw [Option.toList_none, List.append_nil,
            ← map_verdict distinct all others]
          exact .undecided own undecided pending
      | left returns settled =>
          exact concluded returns all (Db.verdict_of_settled settled)
      | stayed returns pending =>
          exact concluded returns all (Db.verdict_of_pending pending)
      | broken pending =>
          subst made
          rw [← map_verdict distinct all others]
          exact .broken pending
  | @closing done _ _ orderId pending =>
      have nothing :
          (Settling.closing orderId .canceled).decides now db = none := rfl
      rw [nothing, Option.toList_none, List.append_nil]
      refine ⟨?_, fun _ decided => by cases decided⟩
      simp only [settle] at settles
      split at settles
      · rename_i ok
        cases settles
        have settled := isPending_closeUnpaid (by simp) ok
        exact concluded rfl has.2 (Db.verdict_of_settled settled)
      · rename_i failed
        obtain ⟨order, member, own, -⟩ := Db.isPending_iff.mp pending
        exact absurd ⟨order, member, own⟩ (closeUnpaid_error failed).1

/-- The answer to an inquiry does to the phase what is decided. -/
theorem inquiry_phase {attempt : PayAttempt} (distinct : scan.Nodup)
    (has :
      (Call.reconciling rest confirmed (.inquiring orderId)).Has scan asked)
    (pending : db.isPending orderId = true)
    (phase :
      Phase db scan asked past
        (some (.reconciling rest confirmed (.inquiring orderId))))
    (receives :
      receive db attempt (.reconciling rest confirmed (.inquiring orderId)) =
        some progress) :
    Phase db scan (asked ++ [orderId]) (past ++ attempt.decides.toList)
        progress.next ∧
      scan.idxOf orderId = past.length := by
  have all : asked ++ [orderId] ++ rest = scan := by
    rw [List.append_assoc]
    exact has
  cases phase with
  | inquiring =>
      rw [List.length_map]
      refine ⟨?_, idxOf_last distinct all⟩
      simp only [receive] at receives
      split at receives
      · rename_i unknown
        cases receives
        have next :=
          @nextCandidate_phase db _ _ _ confirmed
            [.inquireAnswered orderId attempt] all
        rw [List.map_append, List.map_singleton, Db.verdict_of_pending pending]
          at next
        simpa [PayAttempt.decides, unknown] using next
      · rename_i approved unnumbered
        cases receives
        rw [PayAttempt.decides, approved, unnumbered]
        exact .broken pending
      · rename_i approved numbered
        cases receives
        rw [PayAttempt.decides, approved, numbered, Option.toList_none,
          List.append_nil]
        exact .undecided rfl rfl pending
      · rename_i declined
        cases receives
        rw [PayAttempt.decides, declined]
        exact .closing pending

/-- The answer to a refund decides nothing before it is recorded. -/
theorem refund_phase {stage : Settling} {attempt : PayAttempt}
    (phase :
      Phase db scan asked past
        (some (.reconciling rest confirmed (.settling stage))))
    (receives :
      receive db attempt (.reconciling rest confirmed (.settling stage)) =
        some progress) :
    Phase db scan asked past progress.next := by
  cases phase with
  | closing => cases receives
  | undecided own undecided pending =>
      cases receives_of_receive receives with
      | reconcileRefunded => exact .undecided own rfl pending

theorem execute_phase {call : Call} {pgTid number : String} {amount : Int}
    {executed : String → Call} (phase : Phase db scan asked past (some call))
    (inFlight : call.refund? = some (pgTid, amount, executed)) :
    Phase db scan asked past (some (executed number)) := by
  cases phase with
  | inquiring | closing => cases inFlight
  | undecided own undecided pending =>
      cases refunds_of_refund inFlight with
      | reconciling => exact .undecided own rfl pending

end Phases

/-- A call at work on its scan, and what it has decided so far. -/
structure World.Judging (start : World) (scan asked : List Nat)
    (past : List Verdict) (world : World) : Prop where
  serving : World.Serving start scan asked world
  bookkept : world.Bookkept
  distinct : scan.Nodup
  waits : ∀ orderId ∈ scan, start.db.isPending orderId = true
  phase : Phase world.db scan asked past world.calls.head?

/-- What an action decides, it decides about the next place. -/
def World.Proceeds (world : World) (scan : List Nat) (past : List Verdict)
    (action : Action) : Prop :=
  ∀ decided ∈ world.decides action, scan.idxOf decided.1 = past.length

/-- The verdicts after an action. -/
def World.extend (world : World) (past : List Verdict) (action : Action) :
    List Verdict :=
  past ++ ((world.decides action).map Prod.snd).toList

theorem World.extend_of_none {world : World} {past : List Verdict}
    {action : Action} (nothing : world.decides action = none) :
    world.extend past action = past := by
  rw [World.extend, nothing]
  exact List.append_nil past

theorem World.extend_of_map {world : World} {past : List Verdict}
    {action : Action} {orderId : Nat} {verdict : Option Verdict}
    (decides : world.decides action = verdict.map (orderId, ·)) :
    world.extend past action = past ++ verdict.toList := by
  rw [World.extend, decides, Option.map_map]
  cases verdict <;> rfl

theorem World.Proceeds.of_map {world : World} {scan : List Nat}
    {past : List Verdict} {action : Action} {orderId : Nat}
    {verdict : Option Verdict}
    (decides : world.decides action = verdict.map (orderId, ·))
    (place : ∀ decided ∈ verdict, scan.idxOf orderId = past.length) :
    world.Proceeds scan past action := by
  intro decided told
  rw [decides] at told
  obtain ⟨known, given, rfl⟩ := Option.map_eq_some_iff.mp told
  exact place known given

namespace World.Judging

variable {start world next : World} {scan asked : List Nat} {action : Action}
variable {past verdict : List Verdict}

theorem advance (judging : World.Judging start scan asked past world)
    {index : Nat} (taken : world.step (.advance index) = some next) :
    World.Judging start scan asked (world.extend past (.advance index)) next ∧
      world.Proceeds scan past (.advance index) := by
  have serving := judging.serving.advance taken
  have bookkept := judging.bookkept.step taken
  obtain ⟨after, exchange, turn⟩ := step_turn taken
  obtain ⟨call, found, callTaken⟩ := Option.bind_eq_some_iff.mp taken
  obtain ⟨progress, advances, final⟩ := Option.bind_eq_some_iff.mp callTaken
  obtain ⟨rfl, calls, has⟩ := judging.serving.call_at found
  cases call with
  | acquiring | releasing | placing | canceling => cases has
  | reconciling rest confirmed stage =>
      cases stage with
      | inquiring => cases advances
      | settling stage =>
          have current : world.taskOf (.advance 0) = some (.settling stage) :=
            taskOf_call rfl found
          have decides :
              world.decides (.advance 0) =
                (stage.decides world.clock world.db).map
                  (stage.orderId, ·) := by
            simp only [World.decides, current]
          rw [current] at exchange turn
          have consistent := judging.serving.consistent
          have others := (turn.keeps_orders consistent exchange.mem_before).2.1
          have phase := judging.phase
          rw [calls] at phase
          cases final
          obtain ⟨later, place⟩ :=
            advance_phase consistent.sound judging.bookkept.balanced
              judging.bookkept.recorded.unique judging.distinct has phase
              advances others
          refine ⟨?_, .of_map decides place⟩
          rw [World.extend_of_map decides]
          refine ⟨serving, bookkept, judging.distinct, judging.waits, ?_⟩
          rw [World.head?_progress calls]
          exact later

theorem answer (judging : World.Judging start scan asked past world)
    {index : Nat} {attempt : PayAttempt}
    (taken : world.step (.answer index attempt) = some next) :
    ∃ more,
      World.Judging start scan (asked ++ more)
          (world.extend past (.answer index attempt)) next ∧
        world.Proceeds scan past (.answer index attempt) := by
  have serving := judging.serving.answer taken
  have bookkept := judging.bookkept.step taken
  obtain ⟨call, found, callTaken⟩ := Option.bind_eq_some_iff.mp taken
  obtain ⟨progress, receives, final⟩ := Option.bind_eq_some_iff.mp callTaken
  obtain ⟨rfl, calls, has⟩ := judging.serving.call_at found
  have current : world.taskOf (.answer 0 attempt) = call.task? :=
    taskOf_call rfl found
  have same : progress.db = world.db := receive_db receives
  have phase := judging.phase
  rw [calls] at phase
  rw [current] at serving
  cases final
  cases call with
  | acquiring | releasing | placing | canceling => cases has
  | reconciling rest confirmed stage =>
      cases stage with
      | inquiring orderId =>
          have all : asked ++ orderId :: rest = scan := has
          have unasked : orderId ∉ asked := by
            have distinct := judging.distinct
            rw [← all] at distinct
            exact fun inAsked =>
              List.disjoint_of_nodup_append distinct inAsked List.mem_cons_self
          have pending : world.db.isPending orderId = true := by
            rw [judging.serving.others orderId unasked]
            exact judging.waits orderId (by rw [← all]; simp)
          have decides :
              world.decides (.answer 0 attempt) =
                attempt.decides.map (orderId, ·) := by
            simp only [World.decides, current]
            rfl
          obtain ⟨later, place⟩ :=
            inquiry_phase judging.distinct has pending phase receives
          refine ⟨[orderId], ?_, .of_map decides fun _ _ => place⟩
          rw [World.extend_of_map decides]
          refine ⟨serving, bookkept, judging.distinct, judging.waits, ?_⟩
          rw [World.head?_progress calls]
          show Phase progress.db _ _ _ _
          rw [same]
          exact later
      | settling stage =>
          have nothing : world.decides (.answer 0 attempt) = none := by
            simp only [World.decides, current]
            rfl
          refine ⟨[], ?_, fun decided told => by simp [nothing] at told⟩
          rw [World.extend_of_none nothing]
          refine ⟨serving, bookkept, judging.distinct, judging.waits, ?_⟩
          rw [World.head?_progress calls]
          show Phase progress.db _ (asked ++ []) _ _
          rw [same, List.append_nil]
          exact refund_phase phase receives

theorem execute (judging : World.Judging start scan asked past world)
    {index : Nat} {number : String}
    (taken : world.step (.execute index number) = some next) :
    World.Judging start scan asked past next := by
  have serving := judging.serving.execute taken
  have bookkept := judging.bookkept.step taken
  obtain ⟨call, found, callTaken⟩ := Option.bind_eq_some_iff.mp taken
  obtain ⟨rfl, calls, has⟩ := judging.serving.call_at found
  cases executes_of_executeRequest callTaken with
  | approval => cases has
  | @refund _ _ _ executed _ inFlight =>
      refine ⟨serving, bookkept, judging.distinct, judging.waits, ?_⟩
      have phase := judging.phase
      rw [calls] at phase
      simp only [calls]
      exact execute_phase phase inFlight

/-- A step of the call extends the verdicts by what it decides. -/
theorem step (judging : World.Judging start scan asked past world)
    (goesOn : action.goesOn = true) (taken : world.step action = some next) :
    ∃ more,
      World.Judging start scan (asked ++ more) (world.extend past action) next ∧
        world.Proceeds scan past action := by
  cases action with
  | tick =>
      refine ⟨[], ?_, fun decided told => by cases told⟩
      rw [List.append_nil, World.extend_of_none rfl]
      have serving := judging.serving.tick taken
      have bookkept := judging.bookkept.step taken
      cases taken
      exact
        ⟨serving, bookkept, judging.distinct, judging.waits, judging.phase⟩
  | advance =>
      refine ⟨[], ?_⟩
      rw [List.append_nil]
      exact judging.advance taken
  | execute =>
      refine ⟨[], ?_, fun decided told => by cases told⟩
      rw [List.append_nil, World.extend_of_none rfl]
      exact judging.execute taken
  | answer => exact judging.answer taken
  | _ => cases goesOn

/-- The call starts with its scan, and nothing is decided. -/
theorem of_start {olderThanSec : Int} {batch : Nat} (bookkept : start.Bookkept)
    (quiet : start.calls = [])
    (taken : start.step (.startReconcile olderThanSec batch) = some world) :
    World.Judging start
      (unresolvedOrders olderThanSec batch start.clock start.db) [] []
      world := by
  have consistent := bookkept.recorded.consistent
  have sound := consistent.sound
  have serving := World.Serving.of_start consistent quiet taken
  have later := bookkept.step taken
  have head := unresolvedOrders_eq_take olderThanSec batch start.clock start.db
  refine ⟨serving, later, unresolvedOrders_nodup sound.orderIdUnique, ?_, ?_⟩
  · intro orderId listed
    rw [head] at listed
    exact Db.isPending_of_unresolved sound (List.mem_of_mem_take listed)
  · cases taken
    dsimp only
    rw [quiet, List.nil_append, Option.head?_toList]
    exact nextCandidate_phase (List.nil_append _)

/-- A run whose steps decide what is said has come so far with what is said. -/
theorem of_run {olderThanSec : Int} {batch : Nat} {started : World}
    (bookkept : start.Bookkept) (quiet : start.calls = [])
    (taken : start.step (.startReconcile olderThanSec batch) = some started)
    (run :
      TransitionSystem.RunWhere World.step
        (fun state action =>
          action.goesOn = true ∧
            state.Obeys
              (unresolvedOrders olderThanSec batch start.clock start.db)
              verdict action)
        started world) :
    ∃ asked past,
      World.Judging start
          (unresolvedOrders olderThanSec batch start.clock start.db) asked past
          world ∧
        past <+: verdict := by
  induction run with
  | refl => exact ⟨[], [], .of_start bookkept quiet taken, List.nil_prefix⟩
  | @tail state _ action _ permitted taken induction =>
      obtain ⟨goesOn, obeys⟩ := permitted
      obtain ⟨asked, past, judging, said⟩ := induction
      obtain ⟨more, later, place⟩ := judging.step goesOn taken
      refine ⟨_, _, later, ?_⟩
      cases decides : state.decides action with
      | none => rwa [World.extend_of_none decides]
      | some decided =>
          have found := obeys decided decides
          rw [place decided decides] at found
          obtain ⟨rest, rfl⟩ := said
          rw [List.getElem?_append_right le_rfl, Nat.sub_self] at found
          cases rest with
          | nil => cases found
          | cons first rest =>
              cases found
              rw [World.extend, decides]
              exact ⟨rest, List.append_assoc _ _ _⟩

/-- Whatever the gateway answers, something can be said that the run decides. -/
theorem exists_of_run {olderThanSec : Int} {batch : Nat} {started : World}
    (bookkept : start.Bookkept) (quiet : start.calls = [])
    (taken : start.step (.startReconcile olderThanSec batch) = some started)
    (run :
      TransitionSystem.RunWhere World.step
        (fun _ action => action.goesOn = true) started world) :
    ∃ asked past,
      World.Judging start
          (unresolvedOrders olderThanSec batch start.clock start.db) asked past
          world ∧
        ∀ verdict, past <+: verdict →
          TransitionSystem.RunWhere World.step
            (fun state action =>
              action.goesOn = true ∧
                state.Obeys
                  (unresolvedOrders olderThanSec batch start.clock start.db)
                  verdict action)
            started world := by
  induction run with
  | refl => exact ⟨[], [], .of_start bookkept quiet taken, fun _ _ => .refl⟩
  | @tail state _ action _ goesOn taken induction =>
      obtain ⟨asked, past, judging, run⟩ := induction
      obtain ⟨more, later, place⟩ := judging.step goesOn taken
      refine ⟨_, _, later, fun verdict said => ?_⟩
      have before : past <+: verdict := (List.prefix_append past _).trans said
      refine
        .tail (run verdict before) ⟨goesOn, fun decided decides => ?_⟩ taken
      obtain ⟨rest, rfl⟩ := said
      rw [place decided decides, World.extend, decides, List.append_assoc,
        List.getElem?_append_right le_rfl, Nat.sub_self]
      rfl

/-- When the call is over, it has asked and left what is said. -/
theorem ended (judging : World.Judging start scan asked past world)
    (returned : world.calls = []) (said : past <+: verdict)
    {waiting : List Nat} (head : scan = waiting.take verdict.length)
    (pending : ∀ orderId ∈ waiting, start.db.isPending orderId = true)
    (distinct : waiting.Nodup) :
    asked = waiting.take (Rounds.reach verdict) ∧
      Rounds.remaining verdict waiting = waiting.filter world.db.isPending := by
  have inOrder : asked <+: waiting :=
    judging.serving.inOrder.trans (head ▸ List.take_prefix _ _)
  obtain ⟨rest, split⟩ := inOrder
  have behind : rest.filter world.db.isPending = rest := by
    rw [← split] at pending distinct
    exact Db.filter_isPending_rest distinct judging.serving.others pending
  obtain ⟨future, rfl⟩ := said
  have phase := judging.phase
  rw [returned, List.head?_nil] at phase
  cases phase with
  | through =>
      -- Either all places were used, or nobody waits behind the scan.
      have none : future = [] ∨ rest = [] := by
        have lengths := congrArg List.length head
        rw [← split] at lengths
        simp only [List.length_take, List.length_append, List.length_map]
          at lengths
        rw [← List.length_eq_zero_iff, ← List.length_eq_zero_iff]
        omega
      have unreached : rest.take (Rounds.reach future) = [] := by
        rcases none with rfl | rfl
        · exact List.take_zero
        · exact List.take_nil
      have left : Rounds.remaining future rest = rest := by
        rcases none with rfl | rfl
        · rfl
        · cases future with
          | nil => rfl
          | cons first => cases first <;> rfl
      rw [← split, Db.verdict, Rounds.reach_judged, Rounds.remaining_judged,
        left, List.take_length_add_append, unreached, List.append_nil,
        List.filter_append, behind]
      exact ⟨rfl, rfl⟩
  | @broken done orderId waits =>
      rw [List.append_assoc] at split
      rw [← split, Db.verdict, List.append_assoc, Rounds.reach_judged,
        Rounds.remaining_judged, List.take_length_add_append,
        List.filter_append]
      refine ⟨rfl, congrArg _ ?_⟩
      show orderId :: rest = (orderId :: rest).filter world.db.isPending
      rw [List.filter_cons_of_pos waits, behind]

end World.Judging

/-! ## Call after call -/

namespace World.ReconcilesUnder

variable {world later : World} {verdicts : List (List Verdict)}
variable {olderThanSec : Int} {batch : Nat}

/-- The calls are rounds over the queue. -/
theorem run (calls : world.ReconcilesUnder olderThanSec batch verdicts later)
    (bookkept : world.Bookkept) (quiet : world.calls = []) :
    ∃ served,
      later.inquired = world.inquired ++ served ∧
        Rounds.Run batch (world.db.unresolved olderThanSec world.clock) verdicts
          served := by
  induction calls with
  | nil => exact ⟨[], (List.append_nil _).symm, .nil _⟩
  | @cons world waited started ended later elapsed verdict verdicts waits starts
      goesOn ends full _ induction =>
      have waitedBookkept := bookkept.step waits
      have sound := waitedBookkept.recorded.consistent.sound
      have waitedQuiet : waited.calls = [] := by
        cases waits
        exact quiet
      have unasked : waited.inquired = world.inquired := by
        rw [step_inquired waits]
        exact List.append_nil _
      obtain ⟨asked, past, judging, said⟩ :=
        World.Judging.of_run waitedBookkept waitedQuiet starts goesOn
      have distinct : (waited.db.unresolved olderThanSec waited.clock).Nodup :=
        Db.unresolved_nodup sound
      have head :
          unresolvedOrders olderThanSec batch waited.clock waited.db =
            (waited.db.unresolved olderThanSec waited.clock).take
              verdict.length := by
        rw [full, unresolvedOrders_eq_take]
      obtain ⟨reached, left⟩ :=
        judging.ended ends said head
          (fun orderId => Db.isPending_of_unresolved sound) distinct
      have serving := judging.serving
      have moves :=
        @Db.filter_unresolved_prefix _ _ _ _ olderThanSec sound
          serving.consistent.sound serving.heads serving.passes serving.closed
      rw [← left] at moves
      obtain ⟨served, inquired, rest⟩ := induction judging.bookkept ends
      refine ⟨asked ++ served, ?_, ?_⟩
      · rw [inquired, serving.inquired, unasked, List.append_assoc]
      · rw [reached]
        exact
          .cons
            (Db.unresolved_joined bookkept.recorded.consistent.sound waits)
            distinct full moves rest

end World.ReconcilesUnder

theorem Phase.length_le {db : Db} {scan asked : List Nat} {past : List Verdict}
    {call : Option Call} (phase : Phase db scan asked past call) :
    past.length ≤ asked.length := by
  cases phase <;> simp

namespace World

variable {world later : World} {verdicts : List (List Verdict)}
variable {olderThanSec : Int} {batch : Nat}

/-- However the gateway answers the calls, it decides about each place. -/
theorem Reconciles.under {rounds : List (Rounds.Round Nat)}
    (reconciles : world.Reconciles olderThanSec batch rounds later)
    (bookkept : world.Bookkept) (quiet : world.calls = []) :
    ∃ verdicts : List (List Verdict), verdicts.length = rounds.length ∧
      world.ReconcilesUnder olderThanSec batch verdicts later := by
  induction reconciles with
  | nil => exact ⟨[], rfl, .nil _⟩
  | @cons world waited started ended later elapsed through rounds waits starts
      goesOn ends _ _ induction =>
      have waitedQuiet : waited.calls = [] := by
        cases waits
        exact quiet
      obtain ⟨asked, past, judging, run⟩ :=
        World.Judging.exists_of_run (bookkept.step waits) waitedQuiet starts
          goesOn
      obtain ⟨verdicts, many, rest⟩ := induction judging.bookkept ends
      have few : past.length ≤ batch := by
        have scanned := judging.serving.inOrder.length_le
        have listed := judging.phase.length_le
        rw [unresolvedOrders_eq_take, List.length_take] at scanned
        omega
      refine
        ⟨(past ++ List.replicate (batch - past.length) .leaves) :: verdicts,
          congrArg (· + 1) many,
          .cons waits starts (run _ (List.prefix_append _ _)) ends ?_ rest⟩
      rw [List.length_append, List.length_replicate]
      omega

/--
As many calls as the queue has batches ask about every order of the queue if
and only if there is room for the places that are missed: in the calls before
the last one those at which an order is left pending, and all from the one on
at which the answers make the call raise; in the last one those behind it.
-/
theorem reconcile_reaches_all_iff
    {inventory : Inventory} {startsAt : Nat → Policy.Datetime} {clock : Time}
    (reachable :
      TransitionSystem.Reachable World.step
        (World.initial inventory startsAt clock) world)
    (quiet : world.calls = [])
    (calls : world.ReconcilesUnder olderThanSec batch verdicts later)
    (many :
      verdicts.length =
        ((world.db.unresolved olderThanSec world.clock).length + batch - 1) /
          batch) :
    (∀ orderId ∈ world.db.unresolved olderThanSec world.clock,
        orderId ∈ later.inquiredSince world) ↔
      Rounds.missed verdicts +
          (world.db.unresolved olderThanSec world.clock).length ≤
        verdicts.length * batch := by
  have bookkept : world.Bookkept :=
    reachable.invariant (.initial inventory startsAt clock)
      fun _ _ _ bookkept _ taken => bookkept.step taken
  obtain ⟨served, inquired, run⟩ := calls.run bookkept quiet
  rw [inquiredSince, inquired, List.drop_left]
  apply run.serves_all_iff
  intro some
  rw [many]
  exact Rounds.fewer_lt (many ▸ List.length_pos_of_ne_nil some)

/-! ### Calls in order -/

/-- Perform calls in order, each under what is said about its scan. -/
def performCalls (olderThanSec : Int) (batch : Nat) :
    World → List (Nat × List Action × List Verdict) → Option World
  | world, [] => some world
  | world, (elapsed, actions, verdict) :: rest =>
      (world.step (.tick elapsed)).bind fun waited =>
        (waited.step (.startReconcile olderThanSec batch)).bind fun started =>
          (TransitionSystem.checkedRun World.step
              (fun state action =>
                action.goesOn = true ∧
                  state.Obeys
                    (unresolvedOrders olderThanSec batch waited.clock waited.db)
                    verdict action)
              started actions).bind
            fun ended =>
              if ended.calls = [] ∧ verdict.length = batch then
                performCalls olderThanSec batch ended rest
              else none

theorem ReconcilesUnder.of_performCalls
    (calls : List (Nat × List Action × List Verdict))
    (performed : performCalls olderThanSec batch world calls = some later) :
    world.ReconcilesUnder olderThanSec batch (calls.map (·.2.2)) later := by
  induction calls generalizing world with
  | nil =>
      cases performed
      exact .nil _
  | cons call rest induction =>
      obtain ⟨elapsed, actions, verdict⟩ := call
      obtain ⟨waited, waits, started⟩ := Option.bind_eq_some_iff.mp performed
      obtain ⟨started, starts, ended⟩ := Option.bind_eq_some_iff.mp started
      obtain ⟨ended, goesOn, final⟩ := Option.bind_eq_some_iff.mp ended
      split at final
      · rename_i returned
        exact
          .cons waits starts (.of_checkedRun actions goesOn) returned.1
            returned.2 (induction final)
      · cases final

/-- The approval of an order is lost, and so is that of a later order. -/
def lostOrders : List Action :=
  Action.order 7 "first" ++
    [.answer 0 { result := .unknown },
     .tick 1,
     placeOneSeat 7 "second",
     .advance 0,
     .answer 0 { result := .unknown },
     .tick 300001]

/-- So is that of a third one, before the hold of the seat expires. -/
def moreLostOrders : List Action :=
  lostOrders ++
    [placeOneSeat 7 "third",
     .advance 0,
     .answer 0 { result := .unknown },
     .tick 300001]

/--
The first order is approved too late, and its refund is declined; the second
one was never approved.  Then nothing is heard about the first order, and the
third one is paid back.
-/
def settlements : List (Nat × List Action × List Verdict) :=
  [(0,
    [.answer 0 { result := .approved, pgTid := some "tid-1" },
     .advance 0,
     .advance 0,
     .answer 0 { result := .declined },
     .advance 0,
     .answer 0 { result := .declined },
     .advance 0],
    [.stays, .leaves]),
   (30000,
    [.answer 0 { result := .unknown },
     .answer 0 { result := .approved, pgTid := some "tid-3" },
     .advance 0,
     .advance 0,
     .execute 0 "refund-3",
     .answer 0 { result := .approved, pgTid := some "refund-3" },
     .advance 0],
    [.stays, .leaves])]

/-- Two calls with two places each have room for an order that stays pending. -/
theorem reconcile_reaches_all_iff_slack :
    ∃ world later : World,
      world.db.unresolved 300 world.clock = [1, 2, 3] ∧
        later.db.orders.map (·.status) = [.pending, .canceled, .failed] ∧
          ∀ orderId ∈ world.db.unresolved 300 world.clock,
            orderId ∈ later.inquiredSince world := by
  obtain ⟨world, run, seen⟩ :=
    TransitionSystem.RunWhere.exists_of_checkedRun World.step
      (fun _ _ => True) World.oneSeat moreLostOrders
      (fun world : World =>
        world.calls.isEmpty &&
          world.db.unresolved 300 world.clock == [1, 2, 3] &&
          (performCalls 300 2 world settlements).any fun later =>
            later.db.orders.map (·.status) == [.pending, .canceled, .failed])
      (by decide)
  simp only [Bool.and_eq_true, List.isEmpty_iff, beq_iff_eq] at seen
  obtain ⟨⟨quiet, queue⟩, called⟩ := seen
  obtain ⟨later, performed, final⟩ := (Option.any_eq_true _ _).mp called
  refine ⟨world, later, queue, beq_iff_eq.mp final, ?_⟩
  refine
    (reconcile_reaches_all_iff run quiet
      (.of_performCalls settlements performed) ?_).mpr ?_
  · rw [queue]
    rfl
  · rw [queue]
    decide

/-- Nothing is heard about the first order, again and again. -/
def silences : List (Nat × List Action × List Verdict) :=
  [(0, [.answer 0 { result := .unknown }], [.stays]),
   (30000, [.answer 0 { result := .unknown }], [.stays])]

/-- The later order is never asked about while the first one stays pending. -/
theorem reconcile_reaches_all_fails :
    ¬ ∀ (world later : World) (batch : Nat) (verdicts : List (List Verdict)),
      TransitionSystem.Reachable World.step World.oneSeat world →
        world.calls = [] → 0 < batch →
          world.ReconcilesUnder Policy.paymentPendingLimitSec batch verdicts
              later →
            verdicts.length =
                ((world.db.unresolved Policy.paymentPendingLimitSec
                  world.clock).length + batch - 1) / batch →
              ∀ orderId ∈
                  world.db.unresolved Policy.paymentPendingLimitSec world.clock,
                orderId ∈ later.inquiredSince world := by
  intro claim
  obtain ⟨world, run, seen⟩ :=
    TransitionSystem.RunWhere.exists_of_checkedRun World.step
      (fun _ _ => True) World.oneSeat lostOrders
      (fun world : World =>
        world.calls.isEmpty &&
          world.db.unresolved Policy.paymentPendingLimitSec world.clock ==
              [1, 2] &&
            (performCalls Policy.paymentPendingLimitSec 1 world silences).any
              fun later => !(later.inquiredSince world).contains 2)
      (by decide)
  simp only [Bool.and_eq_true, List.isEmpty_iff, beq_iff_eq] at seen
  obtain ⟨⟨quiet, queue⟩, called⟩ := seen
  obtain ⟨later, performed, unasked⟩ := (Option.any_eq_true _ _).mp called
  have reached :=
    claim world later 1 _ run quiet Nat.one_pos
      (.of_performCalls silences performed) (by rw [queue]; rfl) 2
      (by rw [queue]; decide)
  simp [reached] at unasked

end World

end Curtain
