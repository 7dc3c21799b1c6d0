import Curtain.Alone
import Curtain.Confirmation
import Curtain.Ownership
import Mathlib.Data.List.TakeWhile

/-!
# One call of `acquire`

`acquire` from its first check to the return of the gate keys, as a function
of the keys and of the database it finds, with the instants at which its
scripts and its transaction run.  A world in which nothing else happens takes
the same steps.  The laws of the call need the constraints of the tables and
nothing about how the database came to be.
-/

namespace Curtain

open Queries Table HoldService TransitionSystem

/-! ## The call -/

namespace HoldService

/-- When the gate script, the transaction and the release script of a call run. -/
structure Instants where
  gated : Time
  began : Time
  ended : Time
deriving DecidableEq, Repr

/--
What a call of `acquire` answers, what its statements have made of the
database, and the gate keys it leaves.
-/
structure Acquired where
  result : Except Raised Hold
  db : Db
  gate : KeyStore.Store Gate.Key Gate.Token

/-- The keys a request asks for, in the order of the gate script. -/
def AcquireRequest.keys (request : AcquireRequest) : List Gate.Key :=
  Gate.keys request.scheduleId (Gate.ordered request.seatIds)

/-- The gate script of a request; without Redis the request passes. -/
def AcquireRequest.gate (request : AcquireRequest) (reachable : Bool)
    (now : Time) (gate : KeyStore.Store Gate.Key Gate.Token) :
    Nat × KeyStore.Store Gate.Key Gate.Token :=
  if reachable then
    Gate.seatGate now (Gate.ttlMs request.ttlSec) (Gate.token request.userId)
      request.keys gate
  else (0, gate)

/-- The release script of a request. -/
def AcquireRequest.ungate (request : AcquireRequest) (reachable : Bool)
    (now : Time) (gate : KeyStore.Store Gate.Key Gate.Token) :
    KeyStore.Store Gate.Key Gate.Token :=
  if reachable then
    (Gate.seatGateRelease now (Gate.token request.userId) request.keys gate).2
  else gate

/-- The statement of `acquire` that writes. -/
def AcquireRequest.holdSeats (request : AcquireRequest) (now : Time) (db : Db) :
    List ScheduleSeat × Db :=
  Queries.holdSeats request.scheduleId request.userId request.seatIds
    request.maxSeats request.ttlSec now db

/--
`acquire`, with Redis reachable or not during the whole of the call.  The
database is the one that the transaction has written, also where an error is
about to roll it back.
-/
def acquire (request : AcquireRequest) (reachable : Bool) (instants : Instants)
    (gate : KeyStore.Store Gate.Key Gate.Token) (db : Db) : Acquired :=
  match checkAcquire request with
  | .error error => { result := .error error, db, gate }
  | .ok () =>
      let (blocked, taken) := request.gate reachable instants.gated gate
      if blocked ≠ 0 then
        { result :=
            .error (.holdRejected
              ((Gate.ordered request.seatIds)[blocked - 1]?).toList)
          db
          gate := taken }
      else
        let written := (request.holdSeats instants.began db).2
        match acquireSeats request instants.began db with
        | .ok (hold, _) => { result := .ok hold, db := written, gate := taken }
        | .error error =>
            { result := .error error
              db := written
              gate := request.ungate reachable instants.ended taken }

end HoldService

/-- The steps of one call of `acquire` at an index, with time between them. -/
def Action.acquire (request : AcquireRequest) (reachable : Bool)
    (index waits settles : Nat) : List Action :=
  .startAcquire request ::
    (if reachable then [.gate index .answered]
      else [.gate index .unreachable, .gate index .unreachable]) ++
      [.tick waits, .advance index, .tick settles, .gate index .answered]

/-- What `acquire` commits is what its `hold_seats` wrote. -/
theorem acquireSeats_written {request : AcquireRequest} {now : Time}
    {db after : Db} {hold : Hold}
    (ok : acquireSeats request now db = .ok (hold, after)) :
    after = (request.holdSeats now db).2 := by
  rw [acquireSeats] at ok
  dsimp only at ok
  split at ok
  · split at ok <;> cases ok
  · split at ok
    · cases ok
    · simp only [Except.ok.injEq, Prod.mk.injEq] at ok
      exact ok.2.symm

section Alone

@[simp]
theorem World.getElem?_addCall (world : World) (call : Call) :
    (world.addCall call).calls[world.calls.length]? = some call := by
  simp [World.addCall]

/-- The last call goes on. -/
@[simp]
theorem World.replaceCall_last_some (calls : List Call) (call next : Call) :
    World.replaceCall (calls ++ [call]) calls.length (some next) =
      calls ++ [next] := by
  simp [World.replaceCall]

/-- The last call ends. -/
@[simp]
theorem World.replaceCall_last_none (calls : List Call) (call : Call) :
    World.replaceCall (calls ++ [call]) calls.length none = calls := by
  simp [World.replaceCall, List.eraseIdx_append_of_length_le]

/-- The trips of a request that the gate lets through. -/
theorem attempt_gating (world : World) (request : AcquireRequest)
    (reachable : Bool)
    (passes : (request.gate reachable world.clock world.gate).1 = 0) :
    attempt World.step
        (world.addCall (.acquiring request (.gating Gate.attempts)))
        (if reachable then [.gate world.calls.length .answered]
          else
            [.gate world.calls.length .unreachable,
             .gate world.calls.length .unreachable]) =
      World.addCall
        { world with
          gate := (request.gate reachable world.clock world.gate).2 }
        (.acquiring request (.holding reachable)) := by
  cases reachable with
  | false =>
      simp [attempt, World.step, World.addCall, gateTrip,
        Gate.attempts, AcquireRequest.gate]
  | true =>
      simp only [AcquireRequest.gate, AcquireRequest.keys, if_true] at passes
      simp [attempt, World.step, World.addCall, gateTrip,
        passes, AcquireRequest.gate, AcquireRequest.keys]

/-- Behind the gate the request writes, or it gives its keys back. -/
theorem attempt_holding (world : World) (request : AcquireRequest)
    (gated : Bool) (waits settles : Nat) :
    attempt World.step (world.addCall (.acquiring request (.holding gated)))
        [.tick waits, .advance world.calls.length, .tick settles,
         .gate world.calls.length .answered] =
      match acquireSeats request (world.clock + waits) world.db with
      | .ok (hold, after) =>
          { world with
            clock := world.clock + waits + settles
            db := after
            log := world.log ++ [.acquireEnded request (.ok hold)] }
      | .error error =>
          { world with
            clock := world.clock + waits + settles
            gate :=
              request.ungate gated (world.clock + waits + settles) world.gate
            log := world.log ++ [.acquireEnded request (.error error)] } := by
  cases result : acquireSeats request (world.clock + waits) world.db with
  | error error =>
      cases gated <;>
        simp [attempt, World.step, World.addCall, gateTrip, advance,
          advanceAcquire, result, World.progress, AcquireRequest.ungate,
          AcquireRequest.keys]
  | ok held =>
      simp [attempt, World.step, World.addCall, advance, advanceAcquire, result,
        World.progress]

/-- A world in which nothing else happens goes through `acquire`. -/
theorem attempt_acquire (world : World) (request : AcquireRequest)
    (reachable : Bool) (waits settles : Nat) :
    let outcome :=
      acquire request reachable
        { gated := world.clock
          began := world.clock + waits
          ended := world.clock + waits + settles }
        world.gate world.db
    attempt World.step world
        (Action.acquire request reachable world.calls.length waits settles) =
      { world with
        clock := world.clock + waits + settles
        db := world.db.settled (outcome.result.map fun _ => outcome.db)
        gate := outcome.gate
        log := world.log ++ [.acquireEnded request outcome.result] } := by
  intro outcome
  cases checked : checkAcquire request with
  | error error =>
      cases reachable <;>
        simp [outcome, acquire, attempt, Action.acquire, World.step, checked,
          World.note, Except.map, Db.settled, Except.toOption]
  | ok _ =>
      by_cases passes : (request.gate reachable world.clock world.gate).1 = 0
      · have behind :
            attempt World.step world
                (Action.acquire request reachable world.calls.length waits
                  settles) =
              attempt World.step
                (World.addCall
                  { world with
                    gate := (request.gate reachable world.clock world.gate).2 }
                  (.acquiring request (.holding reachable)))
                [.tick waits, .advance world.calls.length, .tick settles,
                 .gate world.calls.length .answered] := by
          rw [← attempt_gating world request reachable passes]
          simp only [attempt, Action.acquire, World.step, checked,
            List.foldl_cons, List.foldl_append, Option.getD_some]
        rw [behind]
        refine (attempt_holding _ request reachable waits settles).trans ?_
        simp only [outcome, acquire, checked, passes]
        cases result : acquireSeats request (world.clock + waits) world.db with
        | error error => simp [Except.map, Db.settled, Except.toOption]
        | ok held =>
            simp [Except.map, Db.settled, Except.toOption,
              acquireSeats_written result]
      · cases reachable with
        | false => exact absurd rfl passes
        | true =>
            simp only [outcome, acquire, checked]
            simp only [AcquireRequest.gate, AcquireRequest.keys, if_true]
              at passes
            simp [attempt, Action.acquire, World.step, checked, World.addCall,
              gateTrip, passes, AcquireRequest.gate, AcquireRequest.keys,
              Except.map, Db.settled, Except.toOption]

end Alone

/-! ## The seats a request can have -/

/-- What the constraints of the tables promise of every database. -/
structure Db.Schema (db : Db) : Prop extends db.Constrained where
  itemUnique : Unique OrderItem.scheduleSeatId db.orderItems
  holdShape : ∀ row ∈ db.scheduleSeats, row.holdShape = true

/-- A seat that nobody has, or that somebody has held for too long. -/
def ScheduleSeat.Holdable (row : ScheduleSeat) (now : Time) : Prop :=
  row.status = .available ∨
    row.status = .held ∧
      ∃ expiresAt, row.holdExpiresAt = some expiresAt ∧ expiresAt < now

theorem claimable_iff {row : ScheduleSeat} {now : Time} :
    (claimable now row).holds = true ↔ row.Holdable now := by
  simp [claimable, ScheduleSeat.Holdable, Option.any_eq_true]

/-- A row of the constrained shape is claimable or not, never `NULL`. -/
theorem claimable_known {row : ScheduleSeat} {now : Time}
    (shape : row.holdShape = true) : (claimable now row).isSome = true := by
  obtain ⟨id, scheduleId, seatId, grade, price, status, heldBy, expiresAt⟩ := row
  cases status with
  | available => rfl
  | booked => cases expiresAt <;> rfl
  | held =>
      cases expiresAt with
      | some instant => simp [claimable, whenPresent]
      | none => simp [ScheduleSeat.holdShape] at shape

theorem not_claimable_iff {row : ScheduleSeat} {now : Time}
    (shape : row.holdShape = true) :
    (claimable now row).not.holds = true ↔ ¬row.Holdable now := by
  rw [Truth.holds_not (claimable_known shape), ← claimable_iff]
  simp

namespace Db

variable {db : Db} {scheduleId userId : Nat} {seatIds : List Nat} {now : Time}

/-- The schedule has a row of the seat. -/
def Lists (db : Db) (scheduleId seatId : Nat) : Prop :=
  ∃ row ∈ db.scheduleSeats, row.scheduleId = scheduleId ∧ row.seatId = seatId

/-- The schedule has a row of the seat, and one may take it now. -/
def Offers (db : Db) (scheduleId seatId : Nat) (now : Time) : Prop :=
  ∃ row ∈ db.scheduleSeats, row.scheduleId = scheduleId ∧
    row.seatId = seatId ∧ row.Holdable now

/-- A row of one of the seats. -/
def requested (scheduleId : Nat) (seatIds : List Nat) (row : ScheduleSeat) :
    Bool :=
  row.scheduleId == scheduleId && seatIds.contains row.seatId

theorem requested_iff {row : ScheduleSeat} :
    requested scheduleId seatIds row = true ↔
      row.scheduleId = scheduleId ∧ row.seatId ∈ seatIds := by
  simp [requested]

theorem isTarget_iff {row : ScheduleSeat} :
    isTarget scheduleId seatIds now row = true ↔
      (row.scheduleId = scheduleId ∧ row.seatId ∈ seatIds) ∧
        row.Holdable now := by
  rw [isTarget, Bool.and_eq_true, claimable_iff, ← requested_iff, requested]

/-- The targets are rows of different seats of the request. -/
theorem target_seats (constrained : db.Constrained) :
    (((target scheduleId seatIds now db).map (·.seatId)).Nodup) ∧
      ∀ seatId,
        seatId ∈ (target scheduleId seatIds now db).map (·.seatId) ↔
          seatId ∈ seatIds ∧ db.Offers scheduleId seatId now := by
  have sorted :
      ((target scheduleId seatIds now db).map (·.seatId)).Perm
        ((db.scheduleSeats.filter (isTarget scheduleId seatIds now)).map
          (·.seatId)) :=
    (List.perm_insertionSort _ _).map _
  constructor
  · have narrower :
        ∀ row, isTarget scheduleId seatIds now row = true →
          row.scheduleId = scheduleId :=
      fun row targeted => (isTarget_iff.mp targeted).1.1
    exact
      sorted.nodup_iff.mpr (Db.filter_distinct constrained.seatUnique narrower)
  · intro seatId
    rw [sorted.mem_iff, List.mem_map]
    constructor
    · rintro ⟨row, member, rfl⟩
      obtain ⟨listed, targeted⟩ := List.mem_filter.mp member
      obtain ⟨⟨schedule, wanted⟩, holdable⟩ := isTarget_iff.mp targeted
      exact ⟨wanted, row, listed, schedule, rfl, holdable⟩
    · rintro ⟨wanted, row, listed, schedule, rfl, holdable⟩
      refine ⟨row, List.mem_filter.mpr ⟨listed, ?_⟩, rfl⟩
      exact isTarget_iff.mpr ⟨⟨schedule, wanted⟩, holdable⟩

/-- There are as many targets as seats exactly when every seat is one. -/
theorem target_length_eq (constrained : db.Constrained)
    (distinct : seatIds.Nodup) :
    (target scheduleId seatIds now db).length = seatIds.length ↔
      ∀ seatId ∈ seatIds, db.Offers scheduleId seatId now := by
  obtain ⟨apart, members⟩ :=
    @target_seats db scheduleId seatIds now constrained
  have included :
      ((target scheduleId seatIds now db).map (·.seatId)).Subperm seatIds :=
    List.subperm_of_subset apart fun seatId member =>
      ((members seatId).mp member).1
  constructor
  · intro complete seatId wanted
    have all := included.perm_of_length_le (by rw [List.length_map, complete])
    exact ((members seatId).mp (all.mem_iff.mpr wanted)).2
  · intro offered
    have covers :
        seatIds.Subperm ((target scheduleId seatIds now db).map (·.seatId)) :=
      List.subperm_of_subset distinct fun seatId wanted =>
        (members seatId).mpr ⟨wanted, offered seatId wanted⟩
    have same := (included.antisymm covers).length_eq
    rwa [List.length_map] at same

/-- The guard of `hold_seats`, in terms of the seats and of the user. -/
theorem guard_iff (schema : db.Schema) (distinct : seatIds.Nodup)
    (maxSeats : Nat) :
    Queries.guard (target scheduleId seatIds now db).length
        (owned scheduleId userId now db) seatIds.length maxSeats = true ↔
      seatIds.length + db.holding scheduleId userId now ≤ maxSeats ∧
        ∀ seatId ∈ seatIds, db.Offers scheduleId seatId now := by
  rw [Queries.guard, Bool.and_eq_true, beq_iff_eq, decide_eq_true_eq,
    target_length_eq schema.toConstrained distinct,
    owned_eq schema.itemUnique schema.orderUnique, and_comm,
    Nat.add_comm seatIds.length]

end Db

/-! ## What the statements do -/

/-- The line of a hold for a row. -/
def ScheduleSeat.heldSeat (row : ScheduleSeat) : HeldSeat :=
  { seatId := row.seatId, grade := row.grade, price := row.price }

/-- The hold that a request gets. -/
def HoldService.AcquireRequest.hold (request : AcquireRequest) (now : Time)
    (db : Db) : Hold :=
  { scheduleId := request.scheduleId
    userId := request.userId
    seats :=
      (db.scheduleSeats.filter
        (Db.requested request.scheduleId request.seatIds)).map
          (·.heldSeat)
    expiresAt := some (now + seconds request.ttlSec) }

/-- What a refused request is told. -/
def HoldService.AcquireRequest.refusal (request : AcquireRequest) (now : Time)
    (db : Db) : Raised :=
  let unavailable :=
    findUnavailableSeats request.scheduleId request.seatIds now db
  if unavailable ≠ [] then .holdRejected unavailable else .quotaExceeded []

section Statements

variable {db : Db} {request : AcquireRequest} {now : Time}

/-- Every seat of the request can be held, and the user may have them all. -/
def HoldService.AcquireRequest.Fits (request : AcquireRequest) (now : Time)
    (db : Db) : Prop :=
  request.seatIds.length +
        db.holding request.scheduleId request.userId now ≤
      request.maxSeats ∧
    ∀ seatId ∈ request.seatIds, db.Offers request.scheduleId seatId now

theorem Db.row_eq (constrained : db.Constrained) {row other : ScheduleSeat}
    (member : row ∈ db.scheduleSeats) (otherMember : other ∈ db.scheduleSeats)
    (schedule : row.scheduleId = other.scheduleId)
    (seat : row.seatId = other.seatId) :
    row = other := by
  have same : row.stock = other.stock := by
    refine Table.Unique.eq constrained.seatUnique (List.mem_map_of_mem member)
      (List.mem_map_of_mem otherMember) ?_
    simp [ScheduleSeat.stock, schedule, seat]
  exact
    (Db.rowUnique constrained.idUnique).eq member otherMember
      (congrArg Stock.id same)

/-- The targets of a request that fits are the rows of its seats. -/
theorem isTarget_of_fits (constrained : db.Constrained)
    (fits : request.Fits now db) {row : ScheduleSeat}
    (member : row ∈ db.scheduleSeats) :
    isTarget request.scheduleId request.seatIds now row =
      Db.requested request.scheduleId request.seatIds row := by
  rw [Bool.eq_iff_iff, Db.isTarget_iff, Db.requested_iff, and_iff_left_iff_imp]
  rintro ⟨schedule, wanted⟩
  obtain ⟨offered, offeredMember, sameSchedule, sameSeat, holdable⟩ :=
    fits.2 row.seatId wanted
  have equal : offered = row :=
    Db.row_eq constrained offeredMember member (sameSchedule.trans schedule.symm)
      sameSeat
  rwa [← equal]

/-- The one statement that writes writes all of the request or nothing. -/
theorem holdSeats_written (schema : db.Schema)
    (distinct : request.seatIds.Nodup) :
    (request.Fits now db →
        request.holdSeats now db =
          (updatedRows (Db.requested request.scheduleId request.seatIds)
              (Queries.hold request.userId (now + seconds request.ttlSec))
              db.scheduleSeats,
            db.updateSeats (Db.requested request.scheduleId request.seatIds)
              (Queries.hold request.userId
                (now + seconds request.ttlSec)))) ∧
      (¬request.Fits now db → request.holdSeats now db = ([], db)) := by
  have passes :=
    @Db.guard_iff db request.scheduleId request.userId request.seatIds now
      schema distinct request.maxSeats
  have rowUnique := Db.rowUnique schema.idUnique
  rw [AcquireRequest.holdSeats, holdSeats_eq rowUnique]
  constructor
  · intro fits
    have same :
        ∀ row ∈ db.scheduleSeats,
          isTarget request.scheduleId request.seatIds now row =
            Db.requested request.scheduleId request.seatIds row :=
      fun row member => isTarget_of_fits schema.toConstrained fits member
    simp only [passes.mpr fits, Bool.and_true]
    rw [updatedRows_congr same, Db.updateSeats, updateWhere_congr same]
    rfl
  · intro unfit
    have refused := Bool.eq_false_iff.mpr fun passed => unfit (passes.mp passed)
    simp [refused, updatedRows, Db.updateSeats]

/-- There is a row for each seat of a request that fits. -/
theorem requested_seats (constrained : db.Constrained)
    (distinct : request.seatIds.Nodup) (fits : request.Fits now db) :
    ((db.scheduleSeats.filter
      (Db.requested request.scheduleId request.seatIds)).map
        (·.seatId)).Perm request.seatIds := by
  refine (List.perm_ext_iff_of_nodup ?_ distinct).mpr ?_
  · have narrower :
        ∀ row, Db.requested request.scheduleId request.seatIds row = true →
          row.scheduleId = request.scheduleId :=
      fun row wanted => (Db.requested_iff.mp wanted).1
    exact Db.filter_distinct constrained.seatUnique narrower
  · intro seatId
    rw [List.mem_map]
    constructor
    · rintro ⟨row, member, rfl⟩
      exact (Db.requested_iff.mp (List.mem_filter.mp member).2).2
    · intro wanted
      obtain ⟨row, member, schedule, rfl, -⟩ := fits.2 seatId wanted
      exact
        ⟨row,
          List.mem_filter.mpr
            ⟨member, Db.requested_iff.mpr ⟨schedule, wanted⟩⟩,
          rfl⟩

/-- `acquire` behind the gate: the hold of all the seats, or a refusal. -/
theorem acquireSeats_eq (schema : db.Schema)
    (nonempty : request.seatIds ≠ []) (distinct : request.seatIds.Nodup) :
    (request.Fits now db →
        acquireSeats request now db =
          .ok (request.hold now db, (request.holdSeats now db).2)) ∧
      (¬request.Fits now db →
        acquireSeats request now db = .error (request.refusal now db)) := by
  obtain ⟨writes, leaves⟩ := @holdSeats_written db request now schema distinct
  constructor
  · intro fits
    have written := writes fits
    have complete :
        (updatedRows (Db.requested request.scheduleId request.seatIds)
            (Queries.hold request.userId (now + seconds request.ttlSec))
            db.scheduleSeats).length =
          request.seatIds.length := by
      have size :=
        (requested_seats schema.toConstrained distinct fits).length_eq
      rw [List.length_map] at size
      rw [updatedRows, List.length_map, size]
    rw [AcquireRequest.holdSeats] at written ⊢
    rw [acquireSeats, written]
    cases rows :
        updatedRows (Db.requested request.scheduleId request.seatIds)
          (Queries.hold request.userId (now + seconds request.ttlSec))
          db.scheduleSeats with
    | nil =>
        rw [rows, List.length_nil] at complete
        exact absurd (List.length_eq_zero_iff.mp complete.symm) nonempty
    | cons first rest =>
        have expiry :
            first.holdExpiresAt = some (now + seconds request.ttlSec) := by
          have member :
              first ∈
                updatedRows (Db.requested request.scheduleId request.seatIds)
                  (Queries.hold request.userId (now + seconds request.ttlSec))
                  db.scheduleSeats := by
            rw [rows]
            exact List.mem_cons_self
          obtain ⟨old, -, rfl⟩ := List.mem_map.mp member
          rfl
        have lines :
            ((first :: rest).map fun row : ScheduleSeat =>
                ({ seatId := row.seatId
                   grade := row.grade
                   price := row.price } : HeldSeat)) =
              (db.scheduleSeats.filter
                (Db.requested request.scheduleId request.seatIds)).map
                  (·.heldSeat) := by
          rw [← rows, updatedRows, List.map_map]
          rfl
        rw [rows] at complete
        dsimp only
        rw [if_neg (not_not.mpr complete), lines, expiry]
        rfl
  · intro unfit
    have nothing := leaves unfit
    rw [AcquireRequest.holdSeats] at nothing
    rw [acquireSeats, nothing, AcquireRequest.refusal]
    dsimp only
    split <;> rfl

end Statements

/-! ## A hall with two seats -/

/-- The first seat is free; the second user holds the second one for a minute. -/
def Db.twoSeats : Db where
  scheduleSeats :=
    [{ id := 1
       scheduleId := 1
       seatId := 1
       grade := "VIP"
       price := 150000
       status := .available
       heldBy := none
       holdExpiresAt := none },
     { id := 2
       scheduleId := 1
       seatId := 2
       grade := "R"
       price := 120000
       status := .held
       heldBy := some 2
       holdExpiresAt := some 60000 }]
  orders := []
  orderItems := []
  payments := []
  outbox := []
  startsAt := fun _ => { instant := seconds 8640000, offset := 0 }

theorem Db.schema_twoSeats : Db.twoSeats.Schema where
  idUnique := by decide
  seatUnique := by decide
  orderUnique := by decide
  itemUnique := by decide
  holdShape := by decide

/-- The first user asks for seats of the hall. -/
def HoldService.AcquireRequest.ofSeats (seatIds : List Nat) : AcquireRequest :=
  { scheduleId := 1, userId := 1, seatIds }

/-- All of a call at one instant. -/
def HoldService.Instants.atOnce (now : Time) : Instants :=
  { gated := now, began := now, ended := now }

/-! ## All or nothing -/

section Outcome

variable {db : Db} {request : AcquireRequest} {reachable : Bool}
variable {instants : Instants} {gate : KeyStore.Store Gate.Key Gate.Token}

theorem checkAcquire_ok :
    checkAcquire request = .ok () ↔
      request.seatIds ≠ [] ∧ request.seatIds.Nodup ∧
        request.seatIds.length ≤ request.maxSeats := by
  rw [checkAcquire]
  split
  · simp_all
  · split
    · simp_all
    · split
      · simp_all
      · simp_all

/-- A request that fits passes the checks in front of the gate. -/
theorem HoldService.AcquireRequest.Fits.checked {now : Time}
    (fits : request.Fits now db) (nonempty : request.seatIds ≠ [])
    (distinct : request.seatIds.Nodup) :
    checkAcquire request = .ok () := by
  have bound := fits.1
  exact checkAcquire_ok.mpr ⟨nonempty, distinct, by omega⟩

/-- Behind the gate a request that fits gets its hold. -/
theorem acquire_of_fits (schema : db.Schema)
    (nonempty : request.seatIds ≠ []) (distinct : request.seatIds.Nodup)
    (passes : (request.gate reachable instants.gated gate).1 = 0)
    (fits : request.Fits instants.began db) :
    acquire request reachable instants gate db =
      { result := .ok (request.hold instants.began db)
        db := (request.holdSeats instants.began db).2
        gate := (request.gate reachable instants.gated gate).2 } := by
  simp only [acquire, fits.checked nonempty distinct, passes,
    (acquireSeats_eq schema nonempty distinct).1 fits, ne_eq, not_true_eq_false,
    if_false]

/-- Behind the gate a request that does not fit is refused and gives its keys back. -/
theorem acquire_of_unfit (schema : db.Schema)
    (checked : checkAcquire request = .ok ())
    (passes : (request.gate reachable instants.gated gate).1 = 0)
    (unfit : ¬request.Fits instants.began db) :
    acquire request reachable instants gate db =
      { result := .error (request.refusal instants.began db)
        db := db
        gate :=
          request.ungate reachable instants.ended
            (request.gate reachable instants.gated gate).2 } := by
  obtain ⟨nonempty, distinct, -⟩ := checkAcquire_ok.mp checked
  simp only [acquire, checked, passes,
    (acquireSeats_eq schema nonempty distinct).2 unfit,
    (holdSeats_written schema distinct).2 unfit, ne_eq, not_true_eq_false,
    if_false]

/-- No check in front of the gate speaks of a partial hold. -/
theorem checkAcquire_error {error : Raised}
    (refused : checkAcquire request = .error error) (message : String) :
    error ≠ .assertionError message := by
  rw [checkAcquire] at refused
  split at refused
  · cases refused
    simp
  · split at refused
    · cases refused
      simp
    · split at refused
      · cases refused
        simp
      · cases refused

theorem refusal_ne (request : AcquireRequest) (now : Time) (db : Db)
    (message : String) :
    request.refusal now db ≠ .assertionError message := by
  rw [AcquireRequest.refusal]
  split <;> simp

/-- A request that does not fit raises, and its statements write nothing. -/
theorem acquire_raises (schema : db.Schema)
    (passes : (request.gate reachable instants.gated gate).1 = 0)
    (unfit : ¬request.Fits instants.began db) :
    ∃ error,
      (acquire request reachable instants gate db).result = .error error ∧
        (acquire request reachable instants gate db).db = db ∧
        ∀ message, error ≠ .assertionError message := by
  cases checked : checkAcquire request with
  | error error =>
      have refused :
          acquire request reachable instants gate db =
            { result := .error error, db, gate } := by
        rw [acquire, checked]
      rw [refused]
      exact ⟨error, rfl, rfl, checkAcquire_error checked⟩
  | ok passed =>
      rw [acquire_of_unfit schema checked passes unfit]
      exact ⟨_, rfl, rfl, refusal_ne request instants.began db⟩

/--
Behind the gate the call succeeds exactly when the request fits; then the rows
of its seats, and no others, are held, and the answer lists them.  Otherwise
it raises, without having written a row and never because of a partial hold.
-/
theorem acquire_all_or_nothing (schema : db.Schema)
    (nonempty : request.seatIds ≠ []) (distinct : request.seatIds.Nodup)
    (passes : (request.gate reachable instants.gated gate).1 = 0) :
    ((∃ hold,
        (acquire request reachable instants gate db).result = .ok hold) ↔
      request.seatIds.length +
            db.holding request.scheduleId request.userId instants.began ≤
          request.maxSeats ∧
        ∀ seatId ∈ request.seatIds,
          ∃ row ∈ db.scheduleSeats, row.scheduleId = request.scheduleId ∧
            row.seatId = seatId ∧
              (row.status = .available ∨
                row.status = .held ∧
                  ∃ expiresAt, row.holdExpiresAt = some expiresAt ∧
                    expiresAt < instants.began)) ∧
      (∀ hold,
        (acquire request reachable instants gate db).result = .ok hold →
          (acquire request reachable instants gate db).db =
              { db with
                scheduleSeats :=
                  db.scheduleSeats.map fun row =>
                    if row.scheduleId = request.scheduleId ∧
                        row.seatId ∈ request.seatIds then
                      { row with
                        status := .held
                        heldBy := some request.userId
                        holdExpiresAt :=
                          some (instants.began + seconds request.ttlSec) }
                    else row } ∧
            hold.scheduleId = request.scheduleId ∧
            hold.userId = request.userId ∧
            (hold.seats.map (·.seatId)).Perm request.seatIds ∧
            (∀ seat ∈ hold.seats,
              ∃ row ∈ db.scheduleSeats, row.scheduleId = request.scheduleId ∧
                row.seatId = seat.seatId ∧ row.grade = seat.grade ∧
                  row.price = seat.price) ∧
            hold.expiresAt =
              some (instants.began + seconds request.ttlSec)) ∧
      (∀ error,
        (acquire request reachable instants gate db).result = .error error →
          (acquire request reachable instants gate db).db = db) ∧
      ∀ message,
        (acquire request reachable instants gate db).result ≠
          .error (.assertionError message) := by
  by_cases fits : request.Fits instants.began db
  · rw [acquire_of_fits schema nonempty distinct passes fits]
    refine ⟨⟨fun _ => fits, fun _ => ⟨_, rfl⟩⟩, ?_, by simp, by simp⟩
    rintro hold got
    cases Except.ok.inj got
    refine ⟨?_, rfl, rfl, ?_, ?_, rfl⟩
    · dsimp only
      rw [((holdSeats_written schema distinct).1 fits), Db.updateSeats,
        updateWhere]
      simp only [Db.requested_iff]
      rfl
    · have lines :
          ((request.hold instants.began db).seats.map (·.seatId)) =
            (db.scheduleSeats.filter
              (Db.requested request.scheduleId request.seatIds)).map
                (·.seatId) := by
        rw [AcquireRequest.hold, List.map_map]
        rfl
      rw [lines]
      exact requested_seats schema.toConstrained distinct fits
    · intro seat listed
      obtain ⟨row, member, rfl⟩ := List.mem_map.mp listed
      obtain ⟨inTable, wanted⟩ := List.mem_filter.mp member
      exact
        ⟨row, inTable, (Db.requested_iff.mp wanted).1, rfl, rfl, rfl⟩
  · obtain ⟨error, refused, unchanged, early⟩ :=
      acquire_raises schema passes fits
    rw [refused, unchanged]
    refine ⟨⟨by simp, fun fitting => absurd fitting fits⟩, by simp, by simp, ?_⟩
    intro message raised
    exact early message (Except.error.inj raised)

/-- When the other hold has run out, the first user gets both seats. -/
theorem acquire_all_or_nothing_twoSeats :
    ∃ hold,
      (acquire (.ofSeats [2, 1]) true (.atOnce 60001) (fun _ => none)
        Db.twoSeats).result = .ok hold :=
  (acquire_all_or_nothing Db.schema_twoSeats (by decide) (by decide)
      (by decide)).1.mpr
    ⟨by decide, by
      intro seatId wanted
      rcases List.mem_cons.mp wanted with rfl | second
      · exact ⟨_, List.mem_cons_of_mem _ List.mem_cons_self, rfl, rfl,
          Or.inr ⟨rfl, _, rfl, by decide⟩⟩
      · rw [List.mem_singleton.mp second]
        exact ⟨_, List.mem_cons_self, rfl, rfl, Or.inl rfl⟩⟩

/-! ## The reason of a refusal -/

/-- No row comes back exactly when the request does not fit. -/
theorem holdSeats_eq_nil (schema : db.Schema)
    (nonempty : request.seatIds ≠ []) (distinct : request.seatIds.Nodup)
    {now : Time} :
    (request.holdSeats now db).1 = [] ↔ ¬request.Fits now db := by
  constructor
  · intro none fits
    rw [(holdSeats_written schema distinct).1 fits] at none
    have size := (requested_seats schema.toConstrained distinct fits).length_eq
    rw [updatedRows, List.map_eq_nil_iff] at none
    rw [none, List.map_nil, List.length_nil] at size
    exact nonempty (List.length_eq_zero_iff.mp size.symm)
  · intro unfit
    rw [(holdSeats_written schema distinct).2 unfit]

/-- The second look lists the seats whose row cannot be held. -/
theorem mem_findUnavailableSeats (schema : db.Schema) {scheduleId : Nat}
    {seatIds : List Nat} {now : Time} {seatId : Nat} :
    seatId ∈ findUnavailableSeats scheduleId seatIds now db ↔
      seatId ∈ seatIds ∧ db.Lists scheduleId seatId ∧
        ¬db.Offers scheduleId seatId now := by
  rw [findUnavailableSeats, List.mem_map]
  constructor
  · rintro ⟨row, member, rfl⟩
    obtain ⟨inTable, condition⟩ := List.mem_filter.mp member
    rw [Bool.and_eq_true, not_claimable_iff (schema.holdShape row inTable)]
      at condition
    obtain ⟨schedule, wanted⟩ := Db.requested_iff.mp condition.1
    refine ⟨wanted, ⟨row, inTable, schedule, rfl⟩, ?_⟩
    rintro ⟨other, otherMember, otherSchedule, sameSeat, holdable⟩
    have same :=
      Db.row_eq schema.toConstrained otherMember inTable
        (otherSchedule.trans schedule.symm) sameSeat
    exact condition.2 (same ▸ holdable)
  · rintro ⟨wanted, ⟨row, inTable, schedule, rfl⟩, unoffered⟩
    refine ⟨row, List.mem_filter.mpr ⟨inTable, ?_⟩, rfl⟩
    rw [Bool.and_eq_true, not_claimable_iff (schema.holdShape row inTable)]
    exact
      ⟨Db.requested_iff.mpr ⟨schedule, wanted⟩,
        fun holdable => unoffered ⟨row, inTable, schedule, rfl, holdable⟩⟩

theorem findUnavailableSeats_nodup (constrained : db.Constrained)
    (scheduleId : Nat) (seatIds : List Nat) (now : Time) :
    (findUnavailableSeats scheduleId seatIds now db).Nodup := by
  refine @Db.filter_distinct db constrained.seatUnique scheduleId _ ?_
  intro row condition
  rw [Bool.and_eq_true] at condition
  exact (Db.requested_iff.mp condition.1).1

/-- The error names what stands in the way of the request. -/
def HoldService.AcquireRequest.Explains (request : AcquireRequest) (now : Time)
    (db : Db) (error : Raised) : Prop :=
  (∃ seatIds, error = .quotaExceeded seatIds ∧
      request.maxSeats <
        request.seatIds.length +
          db.holding request.scheduleId request.userId now) ∨
    ∃ seatIds, error = .holdRejected seatIds ∧ seatIds.Nodup ∧
      ∀ seatId, seatId ∈ seatIds ↔
        seatId ∈ request.seatIds ∧ ¬db.Offers request.scheduleId seatId now

/--
The schedule has a row of every seat that is asked for, or the limit is
exceeded and none of the rows is taken.
-/
def HoldService.AcquireRequest.Explicable (request : AcquireRequest)
    (now : Time) (db : Db) : Prop :=
  (∀ seatId ∈ request.seatIds, db.Lists request.scheduleId seatId) ∨
    (∀ seatId ∈ request.seatIds,
        db.Lists request.scheduleId seatId →
          db.Offers request.scheduleId seatId now) ∧
      request.maxSeats <
        request.seatIds.length +
          db.holding request.scheduleId request.userId now

/-- Where no row is taken, the limit is what is left to blame. -/
theorem explains_of_free {now : Time} (schema : db.Schema)
    (unfit : ¬request.Fits now db)
    (free :
      findUnavailableSeats request.scheduleId request.seatIds now db = []) :
    request.Explains now db (request.refusal now db) ↔
      request.Explicable now db := by
  have told : request.refusal now db = .quotaExceeded [] := by
    rw [AcquireRequest.refusal]
    simp [free]
  have offered :
      ∀ seatId ∈ request.seatIds, db.Lists request.scheduleId seatId →
        db.Offers request.scheduleId seatId now := by
    intro seatId wanted listed
    by_contra unoffered
    have member :=
      (mem_findUnavailableSeats schema).mpr ⟨wanted, listed, unoffered⟩
    rw [free] at member
    cases member
  rw [told]
  constructor
  · rintro (⟨_, -, exceeded⟩ | ⟨_, impossible, -⟩)
    · exact Or.inr ⟨offered, exceeded⟩
    · cases impossible
  · intro condition
    refine Or.inl ⟨[], rfl, ?_⟩
    rcases condition with listed | ⟨-, exceeded⟩
    · by_contra within
      refine unfit ⟨by omega, fun seatId wanted => ?_⟩
      exact offered seatId wanted (listed seatId wanted)
    · exact exceeded

/-- Where a row is taken, the list is complete unless a seat has no row. -/
theorem explains_of_taken {now : Time} (schema : db.Schema)
    (taken :
      findUnavailableSeats request.scheduleId request.seatIds now db ≠ []) :
    request.Explains now db (request.refusal now db) ↔
      request.Explicable now db := by
  have told :
      request.refusal now db =
        .holdRejected
          (findUnavailableSeats request.scheduleId request.seatIds now db) := by
    rw [AcquireRequest.refusal]
    simp [taken]
  rw [told]
  constructor
  · rintro (⟨_, impossible, -⟩ | ⟨seatIds, same, -, complete⟩)
    · cases impossible
    · left
      intro seatId wanted
      by_contra unlisted
      have unoffered : ¬db.Offers request.scheduleId seatId now := by
        rintro ⟨row, member, schedule, seat, -⟩
        exact unlisted ⟨row, member, schedule, seat⟩
      have named := (complete seatId).mpr ⟨wanted, unoffered⟩
      rw [← Raised.holdRejected.inj same] at named
      exact unlisted ((mem_findUnavailableSeats schema).mp named).2.1
  · intro condition
    refine Or.inr
      ⟨_, rfl, findUnavailableSeats_nodup schema.toConstrained _ _ _, ?_⟩
    intro seatId
    rw [mem_findUnavailableSeats schema]
    refine ⟨fun named => ⟨named.1, named.2.2⟩, fun missing => ?_⟩
    refine ⟨missing.1, ?_, missing.2⟩
    rcases condition with listed | ⟨offered, -⟩
    · exact listed seatId missing.1
    · obtain ⟨other, named⟩ := List.exists_mem_of_ne_nil _ taken
      obtain ⟨wanted, listed, unoffered⟩ :=
        (mem_findUnavailableSeats schema).mp named
      exact absurd (offered other wanted listed) unoffered

/--
A request that the database turns down is told the true reason if the schedule
has a row of every seat it names, and otherwise only if the named seats with a
row are all to be had and the limit is exceeded as well.
-/
theorem acquire_explains (schema : db.Schema)
    (checked : checkAcquire request = .ok ())
    (passes : (request.gate reachable instants.gated gate).1 = 0)
    (none : (request.holdSeats instants.began db).1 = []) :
    (∃ error,
        (acquire request reachable instants gate db).result = .error error ∧
          request.Explains instants.began db error) ↔
      (∀ seatId ∈ request.seatIds, db.Lists request.scheduleId seatId) ∨
        (∀ seatId ∈ request.seatIds,
            db.Lists request.scheduleId seatId →
              db.Offers request.scheduleId seatId instants.began) ∧
          request.maxSeats <
            request.seatIds.length +
              db.holding request.scheduleId request.userId
                instants.began := by
  obtain ⟨nonempty, distinct, -⟩ := checkAcquire_ok.mp checked
  have unfit := (holdSeats_eq_nil schema nonempty distinct).mp none
  rw [acquire_of_unfit schema checked passes unfit]
  have raised :
      (∃ error,
          (Except.error (request.refusal instants.began db) :
              Except Raised Hold) = .error error ∧
            request.Explains instants.began db error) ↔
        request.Explains instants.began db
          (request.refusal instants.began db) := by
    constructor
    · rintro ⟨error, same, explains⟩
      rwa [Except.error.inj same]
    · intro explains
      exact ⟨_, rfl, explains⟩
  rw [raised]
  by_cases free :
      findUnavailableSeats request.scheduleId request.seatIds instants.began
        db = []
  · exact explains_of_free schema unfit free
  · exact explains_of_taken schema free

/-- A seat that another user holds is named. -/
theorem acquire_explains_heldSeat :
    ∃ error,
      (acquire (.ofSeats [1, 2]) true (.atOnce 0) (fun _ => none)
          Db.twoSeats).result = .error error ∧
        AcquireRequest.Explains (.ofSeats [1, 2]) 0 Db.twoSeats error :=
  (acquire_explains Db.schema_twoSeats rfl (by decide) (by decide)).mpr
    (Or.inl (by
      intro seatId wanted
      rcases List.mem_cons.mp wanted with rfl | second
      · exact ⟨_, List.mem_cons_self, rfl, rfl⟩
      · rw [List.mem_singleton.mp second]
        exact ⟨_, List.mem_cons_of_mem _ List.mem_cons_self, rfl, rfl⟩))

/--
A user without seats asks for a free seat and one that the schedule does not
have, and is told that the limit is exceeded.
-/
theorem acquire_blames_quota :
    Db.twoSeats.Schema ∧ checkAcquire (.ofSeats [1, 9]) = .ok () ∧
      (AcquireRequest.gate (.ofSeats [1, 9]) true 0 fun _ => none).1 = 0 ∧
      (AcquireRequest.holdSeats (.ofSeats [1, 9]) 0 Db.twoSeats).1 = [] ∧
      (acquire (.ofSeats [1, 9]) true (.atOnce 0) (fun _ => none)
          Db.twoSeats).result = .error (.quotaExceeded []) ∧
      ¬∃ error,
        (acquire (.ofSeats [1, 9]) true (.atOnce 0) (fun _ => none)
            Db.twoSeats).result = .error error ∧
          AcquireRequest.Explains (.ofSeats [1, 9]) 0 Db.twoSeats error := by
  refine ⟨Db.schema_twoSeats, rfl, by decide, by decide, rfl, ?_⟩
  rintro ⟨error, raised, explains⟩
  have told : error = .quotaExceeded [] := (Except.error.inj raised).symm
  subst told
  rcases explains with ⟨_, -, exceeded⟩ | ⟨_, impossible, -⟩
  · exact absurd exceeded (by decide)
  · cases impossible

/-! ## The gate after a failed call -/

/--
The keys in front of the first one that guards a seat for another user, or all
of them: the keys that the gate script takes.
-/
def HoldService.AcquireRequest.reached (request : AcquireRequest) (now : Time)
    (gate : KeyStore.Store Gate.Key Gate.Token) : List Gate.Key :=
  request.keys.takeWhile fun key =>
    !Gate.foreign now (Gate.token request.userId) gate key

/-- A failed call withdraws from the keys it has reached. -/
theorem get_failed {error : Raised}
    (checked : checkAcquire request = .ok ())
    (failed :
      (acquire request true instants gate db).result = .error error)
    (key : Gate.Key) :
    KeyStore.get instants.ended (acquire request true instants gate db).gate
        key =
      if key ∈ request.reached instants.gated gate then none
      else KeyStore.get instants.ended gate key := by
  have lasting : 0 ≤ Gate.ttlMs request.ttlSec :=
    (Gate.ttlMs_pos request.ttlSec).le
  by_cases passes : (request.gate true instants.gated gate).1 = 0
  · have free := (Gate.seatGate_eq_zero lasting).mp passes
    have all : request.reached instants.gated gate = request.keys := by
      rw [AcquireRequest.reached, List.takeWhile_eq_self_iff]
      intro other member
      simp [free other member]
    have left :
        (acquire request true instants gate db).gate =
          request.ungate true instants.ended
            (request.gate true instants.gated gate).2 := by
      simp only [acquire, checked, passes, ne_eq, not_true_eq_false,
        if_false] at failed ⊢
      split at failed
      · cases failed
      · rfl
    have taken :
        (request.gate true instants.gated gate).2 =
          Gate.taken instants.gated (Gate.ttlMs request.ttlSec)
            (Gate.token request.userId) request.keys gate :=
      Gate.seatGate_passed lasting passes
    rw [left, all, taken]
    simp only [AcquireRequest.ungate, if_true, Gate.seatGateRelease_store]
    by_cases member : key ∈ request.keys
    · rw [if_pos member]
      by_cases live :
          instants.ended ≤ instants.gated + Gate.ttlMs request.ttlSec
      · simp [KeyStore.get, Gate.taken, member, live]
      · simp [KeyStore.get, Gate.taken, member, live]
    · rw [if_neg member]
      simp [KeyStore.get, Gate.taken, member]
  · obtain ⟨position, inside, -, blocks, first, rolledBack⟩ :=
      Gate.seatGate_blocked lasting passes
    have front :
        request.reached instants.gated gate = request.keys.take position := by
      rw [AcquireRequest.reached, List.takeWhile_eq_take_findIdx_not]
      refine congrArg request.keys.take ((List.findIdx_eq inside).mpr ⟨?_, ?_⟩)
      · simpa using blocks
      · intro earlier before
        have free :=
          first _ (List.mem_take_iff_getElem.mpr ⟨earlier, by omega, rfl⟩)
        simpa using free
    have left :
        (acquire request true instants gate db).gate =
          (request.gate true instants.gated gate).2 := by
      simp only [acquire, checked, passes, ne_eq, not_false_eq_true, if_true]
    have withdrawn :
        (request.gate true instants.gated gate).2 =
          Gate.withdrawn (request.keys.take position) gate := rolledBack
    rw [left, withdrawn, front]
    by_cases member : key ∈ request.keys.take position <;>
      simp [KeyStore.get, Gate.withdrawn, member]

/--
A failed call leaves every key with the owner it would have without the call,
provided that none of the keys it has reached is the caller's own from before.
-/
theorem acquire_gate_kept {error : Raised}
    (passes : instants.gated ≤ instants.ended)
    (failed :
      (acquire request true instants gate db).result = .error error) :
    (∀ key,
        KeyStore.get instants.ended
            (acquire request true instants gate db).gate key =
          KeyStore.get instants.ended gate key) ↔
      checkAcquire request ≠ .ok () ∨
        ∀ key ∈ request.reached instants.gated gate,
          KeyStore.get instants.ended gate key ≠
            some (Gate.token request.userId) := by
  cases checked : checkAcquire request with
  | error early =>
      have unchanged : (acquire request true instants gate db).gate = gate := by
        simp only [acquire, checked]
      simp [unchanged]
  | ok passed =>
      have after := get_failed checked failed
      constructor
      · intro kept
        refine Or.inr fun key member own => ?_
        have gone := after key
        rw [if_pos member, kept key, own] at gone
        cases gone
      · rintro (impossible | unowned) key
        · exact absurd rfl impossible
        · rw [after key]
          split
          · rename_i member
            have reachedFree :
                Gate.foreign instants.gated (Gate.token request.userId) gate
                  key = false := by
              simpa using List.mem_takeWhile_imp member
            rcases @KeyStore.get_later _ _ _ _ gate key passes with
              expired | same
            · exact expired.symm
            · rcases Gate.foreign_eq_false.mp reachedFree with absent | own
              · rw [same, absent]
              · exact absurd (same.trans own) (unowned key member)
          · rfl

end Outcome

/--
The gate takes the first seat, is blocked at the second one, and gives the
first one back.  With a gate that knows of no key both are taken, and given
back when the database refuses the second one.
-/
theorem acquire_gate_kept_secondSeat :
    (∀ key,
      KeyStore.get 0
          (acquire (.ofSeats [1, 2]) true (.atOnce 0) Gate.secondSeat
            Db.twoSeats).gate key =
        KeyStore.get 0 Gate.secondSeat key) ∧
      ∀ key,
        KeyStore.get 0
            (acquire (.ofSeats [1, 2]) true (.atOnce 0) (fun _ => none)
              Db.twoSeats).gate key =
          KeyStore.get 0 (fun _ => none) key :=
  ⟨(@acquire_gate_kept Db.twoSeats (.ofSeats [1, 2]) (.atOnce 0)
        Gate.secondSeat (.holdRejected [2]) (by decide) rfl).mpr
      (Or.inr (by decide)),
    (@acquire_gate_kept Db.twoSeats (.ofSeats [1, 2]) (.atOnce 0)
        (fun _ => none) (.holdRejected [2]) (by decide) rfl).mpr
      (Or.inr (by decide))⟩

/-- The first seat is guarded for the first user, and the second for another. -/
def Gate.twoKeys : KeyStore.Store Gate.Key Gate.Token :=
  fun key =>
    if key = { scheduleId := 1, seatId := 1 } then
      some { value := token 1, expiresAt := 60000 }
    else if key = { scheduleId := 1, seatId := 2 } then
      some { value := token 2, expiresAt := 60000 }
    else none

/--
The request also names the seat that the first user has the key of.  The
gate turns it away at the second seat and takes that key out of the store.
-/
theorem acquire_drops_ownKey :
    (acquire (.ofSeats [1, 2]) true (.atOnce 0) Gate.twoKeys
          Db.twoSeats).result = .error (.holdRejected [2]) ∧
      KeyStore.get 0 Gate.twoKeys { scheduleId := 1, seatId := 1 } =
        some (Gate.token 1) ∧
      KeyStore.get 0
          (acquire (.ofSeats [1, 2]) true (.atOnce 0) Gate.twoKeys
            Db.twoSeats).gate
          { scheduleId := 1, seatId := 1 } = none := by
  exact ⟨rfl, by decide, by decide⟩

end Curtain
