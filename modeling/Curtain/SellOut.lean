import Curtain.Ledger

/-!
# Phantom sell-outs

A live gate key on a seat is backed by a row that is held or booked for at
least as long, or by a call that has yet to come to terms with the key.  A
closing of an order frees rows without the gate, so that the keys on them have
to have run out by then.
-/

namespace Curtain

open Queries Table HoldService OrderService

/-- The gate key of a stock row. -/
def ScheduleSeat.key (row : ScheduleSeat) : Gate.Key :=
  { scheduleId := row.scheduleId, seatId := row.seatId }

/-! ## Conditions -/

/-- Every gate round trip is answered. -/
def Action.reachesGate : Action → Bool
  | .gate _ io => io == .answered
  | _ => true

/-- No live key stands on the row. -/
def World.keyless (world : World) (row : ScheduleSeat) : Bool :=
  (KeyStore.get world.clock world.gate row.key).isNone

/-- The rows that the next transaction of the task frees without the gate. -/
def Db.givesBack (db : Db) : Task → List ScheduleSeat
  | .settling (.closing orderId _) =>
      match orderForSaga orderId db with
      | some order =>
          if order.status = .pending then
            db.scheduleSeats.filter
              (isHoldOf order.scheduleId order.userId order.seatIds)
          else []
      | none => []
  | .settling (.recording order _ _ attempt) =>
      if attempt.approved then
        db.scheduleSeats.filter
          (isHoldOf order.scheduleId order.userId order.seatIds)
      else []
  | .canceling cancellation (.closing _) =>
      if statusOf cancellation.order.id db = some .paid then
        db.scheduleSeats.filter fun row =>
          (itemSeats cancellation.order.id db).contains row.id &&
            row.status == .booked
      else []
  | _ => []

/--
A hold has a positive time to live, and an order is closed only when no live
key stands on the seats it gives back.
-/
def World.freesKeyless (world : World) (action : Action) : Bool :=
  match action with
  | .startAcquire request => decide (0 < request.ttlSec)
  | .advance _ =>
      (world.taskOf action).all fun task =>
        (world.db.givesBack task).all world.keyless
  | _ => true

/-! ## What backs a key -/

/-- The call has taken the key, or is about to give it back. -/
def Call.Guards (now : Time) (key : Gate.Key)
    (entry : KeyStore.Entry Gate.Token) : Call → Prop
  | .acquiring request (.holding true) =>
      key ∈ Gate.keys request.scheduleId (Gate.ordered request.seatIds) ∧
        entry.value = Gate.token request.userId ∧
        entry.expiresAt ≤ now + Gate.ttlMs request.ttlSec
  | .acquiring request (.ungating _) =>
      key ∈ Gate.keys request.scheduleId (Gate.ordered request.seatIds) ∧
        entry.value = Gate.token request.userId
  | .releasing scheduleId userId released =>
      key ∈ Gate.keys scheduleId (Gate.ordered released) ∧
        entry.value = Gate.token userId
  | _ => False

/-- The row is booked, or held by the owner of the key for as long as the key lives. -/
def ScheduleSeat.Outlasts (row : ScheduleSeat)
    (entry : KeyStore.Entry Gate.Token) : Prop :=
  row.status = .booked ∨
    (row.status = .held ∧ row.heldBy = some entry.value.userId ∧
      ∃ expiresAt, row.holdExpiresAt = some expiresAt ∧
        entry.expiresAt ≤ expiresAt)

/-- A row of the key outlasts it. -/
def Db.Backs (db : Db) (key : Gate.Key)
    (entry : KeyStore.Entry Gate.Token) : Prop :=
  ∃ row ∈ db.scheduleSeats, row.key = key ∧ row.Outlasts entry

/-- Every live key is backed by a call or by a row. -/
structure World.Guarded (world : World) : Prop where
  consistent : world.Consistent
  lasting :
    ∀ request stage, .acquiring request stage ∈ world.calls → 0 < request.ttlSec
  backed :
    ∀ key entry, world.gate key = some entry → world.clock ≤ entry.expiresAt →
      (∃ call ∈ world.calls, call.Guards world.clock key entry) ∨
        world.db.Backs key entry

/-! ## Rows -/

section Rows

variable {db : Db} {key : Gate.Key} {entry : KeyStore.Entry Gate.Token}
variable {row : ScheduleSeat} {now : Time}

/-- A row that outlasts a live key cannot be claimed. -/
theorem ScheduleSeat.Outlasts.unclaimable
    (outlasts : row.Outlasts entry) (live : now ≤ entry.expiresAt) :
    (claimable now row).holds = false := by
  rcases outlasts with booked | ⟨held, -, expiresAt, present, lasts⟩
  · simp [claimable, booked]
  · have unexpired : ¬ expiresAt < now := not_lt.mpr (live.trans lasts)
    simp [claimable, held, present, unexpired]

theorem ScheduleSeat.Outlasts.unexpired
    (outlasts : row.Outlasts entry) (live : now ≤ entry.expiresAt) :
    isExpiredHold now row = false := by
  rcases outlasts with booked | ⟨held, -, expiresAt, present, lasts⟩
  · simp [isExpiredHold, booked]
  · have unexpired : ¬ expiresAt < now := not_lt.mpr (live.trans lasts)
    simp [isExpiredHold, held, present, unexpired]

/-- An update that passes over the rows of a key goes on backing it. -/
theorem Db.Backs.updateSeats
    (backs : db.Backs key entry)
    {condition : ScheduleSeat → Bool} {change : ScheduleSeat → ScheduleSeat}
    (spares :
      ∀ row ∈ db.scheduleSeats, row.key = key → row.Outlasts entry →
        condition row = false) :
    (db.updateSeats condition change).Backs key entry := by
  obtain ⟨row, member, own, outlasts⟩ := backs
  exact
    ⟨row, mem_updateWhere_of_not member (spares row member own outlasts), own,
      outlasts⟩

end Rows

section Turns

variable {world : World} {action : Action} {before after : Option Task}
variable {books : Books}
variable {key : Gate.Key} {entry : KeyStore.Entry Gate.Token}

theorem not_keyless
    (found : world.gate key = some entry) (live : world.clock ≤ entry.expiresAt)
    {row : ScheduleSeat} (own : row.key = key) :
    world.keyless row = false := by
  have present : KeyStore.get world.clock world.gate key = some entry.value :=
    KeyStore.get_eq_some.mpr ⟨entry, found, live, rfl⟩
  rw [World.keyless, own, present]
  rfl

/-- Except for a release, every turn leaves a live key its row. -/
theorem Turn.backs
    (consistent : world.Consistent)
    (keyless : world.freesKeyless action = true)
    (current : world.taskOf action = before)
    (turn : Turn world action before after books)
    (found : world.gate key = some entry)
    (live : world.clock ≤ entry.expiresAt)
    (backs : world.db.Backs key entry)
    (other : ∀ scheduleId userId seatIds,
      action ≠ .startRelease scheduleId userId seatIds) :
    books.db.Backs key entry := by
  have sound := consistent.sound
  -- What a closing frees carries no live key.
  have spared :
      ∀ {index : Nat} {task : Task}, action = .advance index →
        before = some task →
          ∀ row ∈ world.db.givesBack task, row.key = key → False := by
    rintro index task rfl rfl row member own
    have free : (world.db.givesBack task).all world.keyless = true := by
      simpa [World.freesKeyless, current] using keyless
    have absent := List.all_eq_true.mp free row member
    rw [not_keyless found live own] at absent
    cases absent
  cases turn with
  | acquired ok =>
      obtain ⟨-, rfl⟩ := acquireSeats_ok sound.rowUnique ok
      apply backs.updateSeats
      intro row member own outlasts
      simp [isTarget, outlasts.unclaimable live]
  | released => exact absurd rfl (other _ _ _)
  | swept =>
      rename_i batch
      obtain ⟨condition, expired, equal⟩ :=
        sweepExpired_snd sound.rowUnique world.clock batch (fun _ => false)
      dsimp only
      rw [equal]
      apply backs.updateSeats
      intro row member own outlasts
      by_contra touched
      have gone := expired row member (by simpa using touched)
      rw [outlasts.unexpired live] at gone
      cases gone
  | opened opened =>
      rw [opened.after_eq]
      exact backs
  | confirmed confirms source confirmed quiet =>
      rename_i order pgTid db
      obtain ⟨row, member, own, outlasts⟩ := backs
      rw [Db.Backs, confirmed.scheduleSeats sound]
      by_cases claim :
          isClaim order.scheduleId order.userId order.seatIds world.clock row =
            true
      · exact ⟨_, mem_updateWhere_of member claim, own, Or.inl rfl⟩
      · exact
          ⟨row, mem_updateWhere_of_not member (by simpa using claim), own,
            outlasts⟩
  | recorded recorded =>
      obtain ⟨middle, inserted, equal⟩ := recordRefund_ok recorded
      obtain ⟨-, rfl⟩ := insertPayment_ok.mp inserted
      dsimp only
      rw [equal]
      split
      · rename_i approved
        apply Db.Backs.updateSeats backs
        intro row member own outlasts
        by_contra hit
        refine spared rfl rfl row ?_ own
        rw [Db.givesBack, if_pos approved]
        exact List.mem_filter.mpr ⟨member, eq_true_of_ne_false hit⟩
      · exact backs
  | closed closed =>
      rcases closeUnpaid_ok closed with rfl | ⟨order, orderMember, orderId, pending, rfl⟩
      · exact backs
      · apply Db.Backs.updateSeats backs
        intro row member own outlasts
        by_contra hit
        refine spared rfl rfl row ?_ own
        obtain ⟨other, otherMember, otherId, status⟩ := pending
        have same := sound.order_eq otherMember orderMember (otherId.trans orderId.symm)
        rw [same] at status
        have looked := sound.found orderMember
        rw [orderId] at looked
        simp only [Db.givesBack, looked, status, if_true]
        exact List.mem_filter.mpr ⟨member, eq_true_of_ne_false hit⟩
  | cancelFailed recorded =>
      obtain ⟨-, rfl⟩ := insertPayment_ok.mp recorded
      exact backs
  | cancelClosed closed =>
      rcases closeCanceled_ok closed with ⟨rfl, -⟩ | ⟨paid, refunded, inserted, rfl⟩
      · exact backs
      · obtain ⟨-, rfl⟩ := insertPayment_ok.mp inserted
        obtain ⟨order, orderMember, orderId, status⟩ := paid
        have known := statusOf_eq sound orderMember
        rw [orderId, status] at known
        apply Db.Backs.updateSeats backs
        intro row member own outlasts
        by_contra hit
        refine spared rfl rfl row ?_ own
        simp only [Db.givesBack, known, if_true]
        exact List.mem_filter.mpr ⟨member, eq_true_of_ne_false hit⟩
  | _ => exact backs

end Turns

/-! ## Calls -/

section Calls

variable {world next : World} {action : Action} {call : Call}
variable {key : Gate.Key} {entry : KeyStore.Entry Gate.Token}

theorem Call.Guards.later {now later : Time}
    (guards : call.Guards now key entry) (passed : now ≤ later) :
    call.Guards later key entry := by
  rcases call with ⟨request, _ | (_ | _) | _⟩ | _ | _ | _ | _
  case acquiring.holding.true =>
    exact ⟨guards.1, guards.2.1, guards.2.2.trans (Int.add_le_add_right passed _)⟩
  all_goals exact guards

/-- Only its own transaction or gate script ends a call that guards a key. -/
theorem guards_kept {now : Time}
    (taken : world.step action = some next)
    (member : call ∈ world.calls) (guards : call.Guards now key entry) :
    call ∈ next.calls ∨
      ∃ index, (action = .advance index ∨ ∃ io, action = .gate index io) ∧
        world.calls[index]? = some call := by
  cases step_moves taken with
  | stays calls =>
      rw [calls]
      exact Or.inl member
  | starts starts calls =>
      rw [calls]
      exact Or.inl (List.mem_append_left _ member)
  | @advances index other progress found advances =>
      by_cases same : call = other
      · rw [same]
        exact Or.inr ⟨index, Or.inl rfl, found⟩
      · exact Or.inl (mem_replaceCall_of_ne found member same)
  | @travels index io other trip _ found travels calls =>
      by_cases same : call = other
      · rw [same]
        exact Or.inr ⟨index, Or.inr ⟨io, rfl⟩, found⟩
      · rw [calls]
        exact Or.inl (mem_replaceCall_of_ne found member same)
  | answers found receives =>
      left
      refine mem_replaceCall_of_ne found member ?_
      rintro rfl
      cases call with
      | acquiring | releasing => cases receives
      | placing | reconciling | canceling => exact guards
  | executes found refunds calls =>
      left
      rw [calls]
      refine mem_replaceCall_of_ne found member ?_
      rintro rfl
      cases call with
      | acquiring | releasing => cases refunds
      | placing | reconciling | canceling => exact guards

/-- A successful `acquire` backs the keys it has taken. -/
theorem acquireSeats_backs
    {request : AcquireRequest} {now : Time} {db after : Db} {held : Hold}
    (sound : db.Sound)
    (ok : acquireSeats request now db = .ok (held, after))
    (lasting : 0 < request.ttlSec)
    (guards : (Call.acquiring request (.holding true)).Guards now key entry) :
    after.Backs key entry := by
  obtain ⟨passed, rfl⟩ := acquireSeats_ok sound.rowUnique ok
  obtain ⟨listed, owner, lasts⟩ := guards
  obtain ⟨schedule, seat⟩ := Gate.mem_keys.mp listed
  rw [Gate.mem_ordered] at seat
  have complete :
      request.seatIds.length ≤
        (db.scheduleSeats.filter
          (isTarget request.scheduleId request.seatIds now)).length := by
    simp only [Queries.guard, Bool.and_eq_true, beq_iff_eq, target,
      List.length_insertionSort] at passed
    exact passed.1.ge
  have seats :=
    Db.filter_seats sound.seatUnique
      (fun row meets => by
        simp only [isTarget, Bool.and_eq_true, beq_iff_eq,
          List.contains_iff_mem] at meets
        exact meets.1)
      complete
  obtain ⟨row, targeted, equal⟩ := List.mem_map.mp (seats.mem_iff.mpr seat)
  obtain ⟨member, meets⟩ := List.mem_filter.mp targeted
  refine ⟨_, mem_updateWhere_of member meets, ?_, Or.inr ⟨rfl, ?_, _, rfl, ?_⟩⟩
  · simp only [isTarget, Bool.and_eq_true, beq_iff_eq] at meets
    cases key
    simp_all [ScheduleSeat.key, hold]
  · rw [owner]
    rfl
  · exact lasts.trans (Int.add_le_add_left (Gate.ttlMs_le lasting) now)

/-- The request of an acquiring call. -/
def Call.acquires : Call → Option AcquireRequest
  | .acquiring request _ => some request
  | _ => none

theorem advance_acquires
    {now : Time} {db : Db} {progress : Progress} {later : Call}
    (advances : advance now db call = some progress)
    (equal : progress.next = some later) :
    later.acquires = call.acquires := by
  cases call with
  | releasing => cases advances
  | acquiring request stage =>
      cases stage with
      | gating | ungating => cases advances
      | holding gated =>
          simp only [advance, advanceAcquire] at advances
          split at advances
          · cases advances
            cases equal
          · split at advances <;> cases advances <;> cases equal
            rfl
  | placing request stage =>
      cases stage with
      | approving => cases advances
      | opening | lookingUp =>
          simp only [advance, advancePlace] at advances
          split at advances <;> cases advances <;> cases equal <;> rfl
      | settling stage =>
          simp only [advance, advancePlace, Option.map_eq_some_iff] at advances
          obtain ⟨⟨after, events, settled⟩, settles, rfl⟩ := advances
          cases settled <;> cases equal <;> rfl
      | polling orderId attempts replayed =>
          simp only [advance, advancePlace] at advances
          split at advances
          · cases advances
            cases equal
          · cases advances
            cases equal
          · split at advances <;> cases advances <;> cases equal
            rfl
  | reconciling rest confirmed stage =>
      cases stage with
      | inquiring => cases advances
      | settling stage =>
          simp only [advance, advanceReconcile, Option.map_eq_some_iff]
            at advances
          obtain ⟨⟨after, events, settled⟩, settles, rfl⟩ := advances
          cases rest <;> cases settled <;> cases equal <;> rfl
  | canceling cancellation stage =>
      cases stage with
      | refunding => cases advances
      | failing | closing =>
          simp only [advance, advanceCancel] at advances
          split at advances <;> cases advances <;> cases equal

theorem receive_acquires
    {db : Db} {attempt : PayAttempt} {progress : Progress} {later : Call}
    (receives : receive db attempt call = some progress)
    (equal : progress.next = some later) :
    later.acquires = call.acquires := by
  cases receives_of_receive receives with
  | @inquiryUnknown rest =>
      cases rest <;> cases equal
      rfl
  | placeUnanswered | inquiryBroken => cases equal
  | _ =>
      cases equal
      rfl

theorem gateTrip_acquires
    {now : Time} {gate : KeyStore.Store Gate.Key Gate.Token} {io : GateIo}
    {trip : GateProgress} {later : Call}
    (made : gateTrip now gate io call = some trip)
    (equal : trip.next = some later) :
    later.acquires = call.acquires := by
  cases travels_of_gateTrip made <;> cases equal <;> rfl

theorem refund_acquires
    {pgTid : String} {amount : Int} {executed : String → Call}
    (inFlight : call.refund? = some (pgTid, amount, executed))
    (number : String) :
    (executed number).acquires = none := by
  cases refunds_of_refund inFlight <;> rfl

/-- An acquiring call has been started with its request. -/
theorem acquiring_started {request : AcquireRequest} {stage : AcquireStage}
    (taken : world.step action = some next)
    (member : .acquiring request stage ∈ next.calls) :
    (∃ earlier, .acquiring request earlier ∈ world.calls) ∨
      action = .startAcquire request := by
  have earlier :
      ∀ {index : Nat} {other : Call}, world.calls[index]? = some other →
        (Call.acquiring request stage).acquires = other.acquires →
          ∃ earlier, .acquiring request earlier ∈ world.calls := by
    intro index other found same
    cases other with
    | acquiring asked before =>
        cases same
        exact ⟨before, List.mem_of_getElem? found⟩
    | _ => cases same
  cases step_moves taken with
  | stays calls =>
      rw [calls] at member
      exact Or.inl ⟨stage, member⟩
  | starts starts calls =>
      rw [calls] at member
      rcases List.mem_append.mp member with old | new
      · exact Or.inl ⟨stage, old⟩
      · rw [← List.mem_singleton.mp new] at starts
        cases action with
        | startAcquire asked =>
            cases starts
            exact Or.inr rfl
        | startPlace => cases starts
        | startRelease => obtain ⟨_, ⟨⟩⟩ := starts
        | startReconcile => obtain ⟨_, _, ⟨⟩⟩ := starts
        | startCancel => obtain ⟨_, ⟨⟩⟩ := starts
        | _ => cases starts
  | advances found advances =>
      rcases mem_replaceCall member with old | new
      · exact Or.inl ⟨stage, old⟩
      · exact Or.inl (earlier found (advance_acquires advances new))
  | answers found receives =>
      rcases mem_replaceCall member with old | new
      · exact Or.inl ⟨stage, old⟩
      · exact Or.inl (earlier found (receive_acquires receives new))
  | travels found travels calls =>
      rw [calls] at member
      rcases mem_replaceCall member with old | new
      · exact Or.inl ⟨stage, old⟩
      · exact Or.inl (earlier found (gateTrip_acquires travels new))
  | executes found refunds calls =>
      rw [calls] at member
      rcases mem_replaceCall member with old | new
      · exact Or.inl ⟨stage, old⟩
      · have none := congrArg Call.acquires (Option.some_injective _ new)
        rw [refund_acquires refunds] at none
        cases none

end Calls

namespace World

variable {world next : World} {action : Action}
variable {key : Gate.Key} {entry : KeyStore.Entry Gate.Token}

/-- The key is backed by a call or by a row. -/
def Backed (world : World) (key : Gate.Key)
    (entry : KeyStore.Entry Gate.Token) : Prop :=
  (∃ call ∈ world.calls, call.Guards world.clock key entry) ∨
    world.db.Backs key entry

/-- Besides the gate's own scripts no step writes an entry, and time only passes. -/
theorem step_entry
    (taken : world.step action = some next)
    (other : ∀ index io, action ≠ .gate index io) :
    world.clock ≤ next.clock ∧
      ∀ key entry, next.gate key = some entry → world.gate key = some entry := by
  have same :
      world.clock ≤ world.clock ∧
        ∀ key entry, world.gate key = some entry →
          world.gate key = some entry :=
    ⟨le_rfl, fun _ _ found => found⟩
  cases action with
  | gate index io => exact absurd rfl (other index io)
  | tick elapsed =>
      cases taken
      exact ⟨Int.le_add_of_nonneg_right (Int.natCast_nonneg elapsed), same.2⟩
  | flushall =>
      cases taken
      exact ⟨le_rfl, fun _ _ found => by cases found⟩
  | sweep | startReconcile =>
      cases taken
      exact same
  | startAcquire | startRelease | startPlace | startCancel | webhook =>
      simp only [World.step] at taken
      split at taken <;> cases taken <;> exact same
  | advance | answer =>
      obtain ⟨call, found, callTaken⟩ := Option.bind_eq_some_iff.mp taken
      obtain ⟨progress, advances, final⟩ :=
        Option.bind_eq_some_iff.mp callTaken
      cases final
      exact same
  | execute index number =>
      obtain ⟨call, found, callTaken⟩ := Option.bind_eq_some_iff.mp taken
      cases executes_of_executeRequest callTaken <;> exact same

namespace Guarded

/-- A release leaves the key its row, or is going to give the key back. -/
theorem release_backed
    {scheduleId userId : Nat} {seatIds : List Nat}
    (taken : world.step (.startRelease scheduleId userId seatIds) = some next)
    (backs : world.db.Backs key entry) :
    next.Backed key entry := by
  obtain ⟨row, member, own, outlasts⟩ := backs
  by_cases released : isHoldOf scheduleId userId seatIds row = true
  · have listed :
        row.seatId ∈ (releaseSeats scheduleId userId seatIds world.db).1 := by
      refine List.mem_map.mpr ⟨free row, ?_, rfl⟩
      exact List.mem_map.mpr ⟨row, List.mem_filter.mpr ⟨member, released⟩, rfl⟩
    simp only [World.step] at taken
    split at taken
    · rename_i nothing
      rw [nothing] at listed
      cases listed
    · cases taken
      refine Or.inl ⟨_, List.mem_append_right _ (List.mem_singleton_self _), ?_, ?_⟩
      · rw [← own, Gate.mem_keys, Gate.mem_ordered]
        simp only [isHoldOf, Bool.and_eq_true, beq_iff_eq] at released
        exact ⟨released.1.1.1, listed⟩
      · simp only [isHoldOf, Bool.and_eq_true, beq_iff_eq] at released
        rcases outlasts with booked | ⟨-, owner, -⟩
        · rw [booked] at released
          cases released.1.2
        · rw [released.2] at owner
          cases entry
          cases owner
          rfl
  · have kept :
        row ∈ (world.db.updateSeats
          (isHoldOf scheduleId userId seatIds) free).scheduleSeats :=
      mem_updateWhere_of_not member (by simpa using released)
    simp only [World.step] at taken
    split at taken <;> cases taken <;>
      exact Or.inr ⟨row, kept, own, outlasts⟩

/-- An acquiring call that goes on has its rows, or goes on guarding the key. -/
theorem advance_backed (guarded : world.Guarded)
    {index : Nat} {call : Call}
    (taken : world.step (.advance index) = some next)
    (found : world.calls[index]? = some call)
    (guards : call.Guards world.clock key entry) :
    next.Backed key entry := by
  obtain ⟨other, same, callTaken⟩ := Option.bind_eq_some_iff.mp taken
  cases found.symm.trans same
  obtain ⟨progress, advances, final⟩ := Option.bind_eq_some_iff.mp callTaken
  cases final
  obtain ⟨inside, equal⟩ := List.getElem?_eq_some_iff.mp found
  rcases call with ⟨request, _ | (_ | _) | _⟩ | _ | _ | _ | _
  case acquiring.holding.true =>
    simp only [advance, advanceAcquire] at advances
    split at advances
    · rename_i held after ok
      cases advances
      right
      refine
        acquireSeats_backs guarded.consistent.sound ok
          (guarded.lasting request _ (List.mem_of_getElem? found)) guards
    · rename_i error failed
      cases advances
      refine Or.inl ⟨.acquiring request (.ungating error), ?_, guards.1, guards.2.1⟩
      exact List.mem_set inside _
  case acquiring.ungating => cases advances
  case releasing => cases advances
  all_goals exact guards.elim

/-- A gate script that is answered leaves every live key backed. -/
theorem gate_backed (guarded : world.Guarded)
    {index : Nat}
    (taken : world.step (.gate index .answered) = some next)
    (found : next.gate key = some entry)
    (live : next.clock ≤ entry.expiresAt) :
    next.Backed key entry := by
  obtain ⟨call, callFound, callTaken⟩ := Option.bind_eq_some_iff.mp taken
  obtain ⟨trip, travels, final⟩ := Option.bind_eq_some_iff.mp callTaken
  cases final
  have place := List.mem_of_getElem? callFound
  -- An entry that was there is backed as before, but perhaps by this call.
  have before :
      world.gate key = some entry →
        call.Guards world.clock key entry ∨
          Backed
            { world with
              gate := trip.gate
              calls := replaceCall world.calls index trip.next
              log := world.log ++ trip.events } key entry := by
    intro old
    rcases guarded.backed key entry old live with ⟨other, member, guards⟩ | backs
    · by_cases same : other = call
      · rw [same] at guards
        exact Or.inl guards
      · exact
          Or.inr (Or.inl
            ⟨other, mem_replaceCall_of_ne callFound member same, guards⟩)
    · exact Or.inr (Or.inr backs)
  -- A released key does not hold the token of the call any more.
  have releases :
      ∀ {userId : Nat} {keys : List Gate.Key},
        trip.gate =
            (Gate.seatGateRelease world.clock (Gate.token userId) keys
              world.gate).2 →
          world.gate key = some entry ∧
            ¬ (key ∈ keys ∧ entry.value = Gate.token userId) := by
    intro userId keys equal
    dsimp only at found
    rw [equal] at found
    exact Gate.seatGateRelease_left found live
  cases travels_of_gateTrip travels with
  | retried unanswered => exact absurd rfl unanswered
  | released | ungated =>
      obtain ⟨old, unlisted⟩ := releases rfl
      rcases before old with guards | backed
      · exact absurd guards unlisted
      · exact backed
  | passed passed =>
      dsimp only at found
      rw [Gate.seatGate_passed (Gate.ttlMs_pos _).le passed, Gate.taken] at found
      split at found
      · rename_i listed
        cases found
        obtain ⟨inside, -⟩ := List.getElem?_eq_some_iff.mp callFound
        exact Or.inl ⟨_, List.mem_set inside _, listed, rfl, le_refl _⟩
      · rcases before found with guards | backed
        · exact guards.elim
        · exact backed
  | blocked blocks =>
      obtain ⟨_, _, _, _, _, gives⟩ :=
        Gate.seatGate_blocked (Gate.ttlMs_pos _).le blocks
      dsimp only at found
      rw [gives, Gate.withdrawn] at found
      split at found
      · cases found
      · rcases before found with guards | backed
        · exact guards.elim
        · exact backed

theorem step (guarded : world.Guarded)
    (reaches : action.reachesGate = true)
    (keyless : world.freesKeyless action = true)
    (taken : world.step action = some next) :
    next.Guarded where
  consistent := guarded.consistent.step taken
  lasting := by
    intro request stage member
    rcases acquiring_started taken member with ⟨earlier, old⟩ | rfl
    · exact guarded.lasting request earlier old
    · simpa [freesKeyless] using keyless
  backed := by
    intro key entry found live
    by_cases scripted : ∃ index io, action = .gate index io
    · obtain ⟨index, io, rfl⟩ := scripted
      obtain rfl : io = .answered := by simpa [Action.reachesGate] using reaches
      exact guarded.gate_backed taken found live
    · have other : ∀ index io, action ≠ .gate index io := by
        intro index io equal
        exact scripted ⟨index, io, equal⟩
      obtain ⟨passed, entries⟩ := step_entry taken other
      have old := entries key entry found
      have oldLive : world.clock ≤ entry.expiresAt := passed.trans live
      rcases guarded.backed key entry old oldLive with
        ⟨call, member, guards⟩ | backs
      · rcases guards_kept taken member guards with
          kept | ⟨index, rfl | ⟨io, rfl⟩, at_index⟩
        · exact Or.inl ⟨call, kept, guards.later passed⟩
        · exact guarded.advance_backed taken at_index guards
        · exact absurd rfl (other index io)
      · by_cases releases :
            ∃ scheduleId userId seatIds,
              action = .startRelease scheduleId userId seatIds
        · obtain ⟨scheduleId, userId, seatIds, rfl⟩ := releases
          exact release_backed taken backs
        · obtain ⟨after, -, turn⟩ := step_turn taken
          exact
            Or.inr
              (turn.backs guarded.consistent keyless rfl old oldLive backs
                fun scheduleId userId seatIds equal =>
                  releases ⟨scheduleId, userId, seatIds, equal⟩)

theorem initial
    (inventory : Inventory) (startsAt : Nat → Policy.Datetime) (clock : Time) :
    (World.initial inventory startsAt clock).Guarded where
  consistent := initial_consistent inventory startsAt clock
  lasting := by simp [World.initial]
  backed := by simp [World.initial]

/-- Between calls no live key stands on a row that can be claimed. -/
theorem claimable_free (guarded : world.Guarded) (quiet : world.calls = [])
    {row : ScheduleSeat} (member : row ∈ world.db.scheduleSeats)
    (free : (claimable world.clock row).holds = true) :
    KeyStore.get world.clock world.gate row.key = none := by
  by_contra present
  obtain ⟨token, taken⟩ := Option.ne_none_iff_exists'.mp present
  obtain ⟨entry, found, live, -⟩ := KeyStore.get_eq_some.mp taken
  rcases guarded.backed row.key entry found live with
    ⟨call, inCalls, -⟩ | ⟨other, otherMember, own, outlasts⟩
  · rw [quiet] at inCalls
    cases inCalls
  · have same : other = row :=
      guarded.consistent.sound.row_eq otherMember member
        (congrArg Gate.Key.scheduleId own) (congrArg Gate.Key.seatId own)
    rw [← same, outlasts.unclaimable live] at free
    cases free

end Guarded

/-! ## No phantom sell-out -/

/--
No live key stands on a seat that can be claimed, so that the gate lets
everybody through to such seats.
-/
structure NoPhantom (world : World) : Prop where
  free :
    ∀ row ∈ world.db.scheduleSeats,
      (claimable world.clock row).holds = true → world.keyless row = true
  passes :
    ∀ request : AcquireRequest,
      (∀ seatId ∈ request.seatIds, ∃ row ∈ world.db.scheduleSeats,
        row.scheduleId = request.scheduleId ∧ row.seatId = seatId ∧
          (claimable world.clock row).holds = true) →
        (Gate.seatGate world.clock (Gate.ttlMs request.ttlSec)
          (Gate.token request.userId)
          (Gate.keys request.scheduleId (Gate.ordered request.seatIds))
          world.gate).1 = 0

theorem Guarded.noPhantom (guarded : world.Guarded) (quiet : world.calls = []) :
    world.NoPhantom where
  free := by
    intro row member free
    rw [keyless, guarded.claimable_free quiet member free]
    rfl
  passes := by
    intro request seats
    refine (Gate.seatGate_eq_zero (Gate.ttlMs_pos _).le).mpr ?_
    intro key listed
    refine Gate.foreign_eq_false.mpr (Or.inl ?_)
    obtain ⟨schedule, seat⟩ := Gate.mem_keys.mp listed
    obtain ⟨row, member, rowSchedule, rowSeat, free⟩ :=
      seats key.seatId (Gate.mem_ordered.mp seat)
    have own : row.key = key := by
      cases key
      simp_all [ScheduleSeat.key]
    rw [← own]
    exact guarded.claimable_free quiet member free

/-- Every gate round trip is answered, and closings leave no live key behind. -/
def gateKept (world : World) (action : Action) : Prop :=
  action.reachesGate = true ∧ world.freesKeyless action = true

instance (world : World) (action : Action) :
    Decidable (world.gateKept action) :=
  inferInstanceAs (Decidable (_ ∧ _))

/--
In every run with the gate reachable in which orders are closed only when no
live key stands on their seats, nobody is turned away between calls from a
seat that can be claimed.
-/
theorem no_phantom_sell_out
    {inventory : Inventory} {startsAt : Nat → Policy.Datetime} {clock : Time}
    {world : World}
    (run :
      TransitionSystem.RunWhere World.step World.gateKept
        (World.initial inventory startsAt clock) world)
    (quiet : world.calls = []) :
    world.NoPhantom := by
  have guarded : world.Guarded :=
    run.invariant (.initial inventory startsAt clock)
      fun _ _ _ guarded allowed taken =>
        guarded.step allowed.1 allowed.2 taken
  exact guarded.noPhantom quiet

/-- A hold that is released, and an order that is canceled after its key has run out. -/
theorem no_phantom_sell_out_canceled :
    ∃ world : World,
      (world.calls.isEmpty && world.db.orders.map (·.status) == [.canceled] &&
          world.db.scheduleSeats.map (·.status) == [.available]) = true ∧
        world.NoPhantom := by
  obtain ⟨world, run, seen⟩ :=
    TransitionSystem.RunWhere.exists_of_checkedRun World.step World.gateKept
      World.oneSeat
      ([.startAcquire { scheduleId := 1, userId := 8, seatIds := [1] },
        .gate 0 .answered,
        .advance 0,
        .startRelease 1 8 [1],
        .gate 0 .answered] ++
        Action.order 7 "key" ++ Action.pay "tid-1" ++
        [.tick 420001,
         .startCancel 1 none,
         .execute 0 "refund-1",
         .answer 0 { result := .approved, pgTid := some "refund-1" },
         .advance 0])
      (fun world : World =>
        world.calls.isEmpty && world.db.orders.map (·.status) == [.canceled] &&
          world.db.scheduleSeats.map (·.status) == [.available])
      (by decide)
  simp only [Bool.and_eq_true] at seen
  exact
    ⟨world, by simp only [Bool.and_eq_true]; exact seen,
      no_phantom_sell_out run (List.isEmpty_iff.mp seen.1.1)⟩

/-- Without the condition a declined order leaves its key on the free seat. -/
theorem no_phantom_sell_out_fails :
    ¬ ∀ world : World,
      TransitionSystem.RunWhere World.step
          (fun _ action => action.reachesGate = true) World.oneSeat world →
        world.calls = [] → world.NoPhantom := by
  intro claim
  obtain ⟨world, run, seen⟩ :=
    TransitionSystem.RunWhere.exists_of_checkedRun World.step
      (fun _ action => action.reachesGate = true) World.oneSeat
      (Action.order 7 "key" ++ [.answer 0 { result := .declined }, .advance 0])
      (fun world : World =>
        world.calls.isEmpty && world.db.scheduleSeats.any fun row =>
          (claimable world.clock row).holds && !world.keyless row)
      (by decide)
  simp only [Bool.and_eq_true, List.isEmpty_iff, List.any_eq_true,
    Bool.not_eq_true'] at seen
  obtain ⟨quiet, row, member, free, stands⟩ := seen
  rw [(claim world run quiet).free row member free] at stands
  cases stands

end World

end Curtain
