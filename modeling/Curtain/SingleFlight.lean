import Curtain.Lib.Spacing
import Curtain.Staleness

/-!
# One flight at a time

The seat map is read from the database under a lock, and only after a second
look into the cache.  With a cache that answers, the calls of one event loop
therefore read the database for a schedule once in each time to live, however
many of them there are.
-/

namespace Curtain.SeatmapService

open Spacing

/-! ## The readings of the database -/

/-- A reading of the database by a call of `get`. -/
structure Reading where
  time : Time
  loop : Nat
  scheduleId : Nat
deriving DecidableEq, Repr

/-- The processes, with the readings that their calls have made. -/
structure Meter where
  fleet : Fleet
  readings : List Reading

/-- The reading of the database that an action makes. -/
def Fleet.reading? (fleet : Fleet) : Action → Option Reading
  | .advance index _ =>
      (fleet.calls[index]?).bind fun call =>
        if call.stage = .querying then
          some
            { time := fleet.clock
              loop := call.loop
              scheduleId := call.scheduleId }
        else none
  | _ => none

namespace Meter

def step (etagOf : Nat → List SeatmapRow → String) (meter : Meter)
    (action : Action) : Option Meter :=
  (meter.fleet.step etagOf action).map fun fleet =>
    { fleet
      readings := meter.readings ++ (meter.fleet.reading? action).toList }

/-- Nothing is read before the first call. -/
def initial (db : Db) (seats : List Seat) (clock : Time) : Meter where
  fleet := .initial db seats clock
  readings := []

end Meter

/-- The call has read the database and is about to write into the cache. -/
def Stage.writes : Stage → Bool
  | .writing _ _ => true
  | _ => false

/--
The cache answers and keeps what it has, and a call that has read the database
gets to its write.
-/
def Fleet.reliable (fleet : Fleet) : Action → Bool
  | .advance _ io => io == .answered
  | .fail index => (fleet.calls[index]?).all fun call => !call.stage.writes
  | .garble _ _ => false
  | .flushall => false
  | _ => true

/-! ## The lock -/

/-- The loop and the schedule of a call. -/
def Get.key (call : Get) : Nat × Nat :=
  (call.loop, call.scheduleId)

def Reading.key (reading : Reading) : Nat × Nat :=
  (reading.loop, reading.scheduleId)

/-- The lock that a call has. -/
def Get.lock? (call : Get) : Option (Nat × Nat) :=
  if call.stage.locked then some call.key else none

/-- The other calls stay when one goes on or ends. -/
theorem exists_others {calls : List Get} {index : Nat} {call : Get}
    (found : calls[index]? = some call) :
    calls.Perm (call :: calls.eraseIdx index) ∧
      ∀ next, (calls.set index next).Perm (next :: calls.eraseIdx index) := by
  obtain ⟨inside, rfl⟩ := List.getElem?_eq_some_iff.mp found
  exact
    ⟨(List.getElem_cons_eraseIdx_perm inside).symm,
      List.set_perm_cons_eraseIdx inside⟩

namespace Fleet

variable {fleet : Fleet}

/-- The locks that the calls have. -/
def locks (fleet : Fleet) : List (Nat × Nat) :=
  fleet.calls.filterMap Get.lock?

/-- A call that goes on without a new lock, or with one that is free. -/
theorem locks_goOn {index : Nat} {call : Get} {stage : Stage}
    (exclusive : fleet.locks.Nodup)
    (found : fleet.calls[index]? = some call)
    (free : stage.locked = true → call.stage.locked = true ∨
      call.key ∉ fleet.locks) :
    (fleet.goOn index call stage).locks.Nodup := by
  obtain ⟨before, after⟩ := exists_others found
  have old := before.filterMap Get.lock?
  have new := (after { call with stage }).filterMap Get.lock?
  have keys := old.nodup_iff.mp exclusive
  refine new.nodup_iff.mpr ?_
  rw [List.filterMap_cons] at keys ⊢
  cases locked : stage.locked with
  | false =>
      have none : ({ call with stage } : Get).lock? = none := by
        simp [Get.lock?, locked]
      rw [none]
      cases held : call.lock? with
      | none => rwa [held] at keys
      | some key =>
          rw [held] at keys
          exact (List.nodup_cons.mp keys).2
  | true =>
      have own : ({ call with stage } : Get).lock? = some call.key := by
        simp [Get.lock?, locked, Get.key]
      rw [own]
      rcases free locked with had | fresh
      · have held : call.lock? = some call.key := by simp [Get.lock?, had]
        rwa [held] at keys
      · refine List.nodup_cons.mpr ⟨fun listed => fresh ?_, ?_⟩
        · refine old.mem_iff.mpr ?_
          rw [List.filterMap_cons]
          cases call.lock? with
          | none => exact listed
          | some key => exact List.mem_cons_of_mem key listed
        · cases held : call.lock? with
          | none => rwa [held] at keys
          | some key =>
              rw [held] at keys
              exact (List.nodup_cons.mp keys).2

theorem locks_eraseIdx (exclusive : fleet.locks.Nodup) (index : Nat) :
    ((fleet.calls.eraseIdx index).filterMap Get.lock?).Nodup :=
  exclusive.sublist ((List.eraseIdx_sublist _ _).filterMap _)

/-- Two calls in the database for one schedule are one call. -/
theorem eq_of_locked {index : Nat} {call other : Get}
    (exclusive : fleet.locks.Nodup)
    (found : fleet.calls[index]? = some call)
    (member : other ∈ fleet.calls.eraseIdx index)
    (locked : call.stage.locked = true) (same : other.key = call.key) :
    other.stage.locked = false := by
  obtain ⟨before, -⟩ := exists_others found
  have keys := (before.filterMap Get.lock?).nodup_iff.mp exclusive
  have held : call.lock? = some call.key := by simp [Get.lock?, locked]
  rw [List.filterMap_cons, held] at keys
  refine Bool.eq_false_iff.mpr fun otherLocked => ?_
  refine (List.nodup_cons.mp keys).1 (List.mem_filterMap.mpr ⟨other, member, ?_⟩)
  simp [Get.lock?, otherLocked, same]

/-- A lock that nobody has is free. -/
theorem key_not_mem_locks {call : Get} (free : fleet.busy call = false) :
    call.key ∉ fleet.locks := by
  intro listed
  obtain ⟨other, member, has⟩ := List.mem_filterMap.mp listed
  rw [Get.lock?] at has
  split at has
  · rename_i locked
    obtain ⟨loop, schedule⟩ := Prod.mk.inj (Option.some.inj has)
    simp only [busy, List.any_eq_false] at free
    exact free other member (by simp [loop, schedule, locked])
  · cases has

end Fleet

/-! ## What holds in every run -/

/--
A reading is still being written, or it is covered by what the cache holds: an
entry that was written after it.
-/
def Fleet.Covers (fleet : Fleet) (reading : Reading) : Prop :=
  (∃ call ∈ fleet.calls, call.key = reading.key ∧ call.stage.writes = true) ∨
    ∃ entry, fleet.cache (cacheKey reading.scheduleId) = some entry ∧
      reading.time + staleness ≤ entry.expiresAt

/-- What holds while the cache is reliable. -/
structure Meter.Single (meter : Meter) : Prop where
  exclusive : meter.fleet.locks.Nodup
  documents :
    ∀ key entry, meter.fleet.cache key = some entry → entry.value ≠ .malformed
  past : ∀ reading ∈ meter.readings, reading.time ≤ meter.fleet.clock
  covered : ∀ reading ∈ meter.readings, meter.fleet.Covers reading
  elapsed :
    ∀ call ∈ meter.fleet.calls, call.stage = .querying →
      ∀ reading ∈ meter.readings, reading.key = call.key →
        reading.time + staleness ≤ meter.fleet.clock
  spaced :
    Spaced Reading.time (fun left right => left.key = right.key) staleness
      meter.readings

namespace Meter.Single

variable {etagOf : Nat → List SeatmapRow → String} {meter next : Meter}
variable {fleet : Fleet} {action : Action}

theorem initial (db : Db) (seats : List Seat) (clock : Time) :
    (Meter.initial db seats clock).Single where
  exclusive := List.nodup_nil
  documents := by simp [Meter.initial, Fleet.initial]
  past := by simp [Meter.initial]
  covered := by simp [Meter.initial]
  elapsed := by simp [Meter.initial]
  spaced := .nil

/-- A step after which the calls that are in the database or write are the same. -/
theorem of_quiet (single : meter.Single)
    (exclusive : fleet.locks.Nodup)
    (clock : meter.fleet.clock ≤ fleet.clock)
    (cache : fleet.cache = meter.fleet.cache)
    (writes :
      ∀ call ∈ meter.fleet.calls, call.stage.writes = true → call ∈ fleet.calls)
    (queries :
      ∀ call ∈ fleet.calls, call.stage = .querying →
        call ∈ meter.fleet.calls ∨
          ∀ reading ∈ meter.readings, reading.key = call.key →
            reading.time + staleness ≤ meter.fleet.clock) :
    Single { meter with fleet } where
  exclusive := exclusive
  documents := by
    rw [cache]
    exact single.documents
  past reading member := (single.past reading member).trans clock
  covered := by
    intro reading member
    rcases single.covered reading member with
      ⟨call, own, same, writing⟩ | ⟨entry, found, expiry⟩
    · exact Or.inl ⟨call, writes call own writing, same, writing⟩
    · refine Or.inr ⟨entry, ?_, expiry⟩
      rw [cache]
      exact found
  elapsed := by
    intro call member querying reading listed same
    rcases queries call member querying with old | new
    · exact (single.elapsed call old querying reading listed same).trans clock
    · exact (new reading listed same).trans clock
  spaced := single.spaced

/-- A call that finds nothing in the cache finds the earlier readings expired. -/
theorem elapsed_of_miss (single : meter.Single) {index : Nat} {call : Get}
    (found : meter.fleet.calls[index]? = some call)
    (locked : call.stage.locked = true) (writes : call.stage.writes = false)
    (missed :
      cacheRead meter.fleet.clock call.scheduleId .answered meter.fleet.cache =
        none) :
    ∀ reading ∈ meter.readings, reading.key = call.key →
      reading.time + staleness ≤ meter.fleet.clock := by
  intro reading member same
  obtain ⟨loop, schedule⟩ := Prod.mk.inj same
  rcases single.covered reading member with
    ⟨other, own, otherSame, writing⟩ | ⟨entry, stored, expiry⟩
  · obtain ⟨before, -⟩ := exists_others found
    rcases List.mem_cons.mp (before.mem_iff.mp own) with rfl | apart
    · rw [writes] at writing
      cases writing
    · have unlocked :=
        Fleet.eq_of_locked single.exclusive found apart locked
          (otherSame.trans same)
      cases stage : other.stage <;> simp_all [Stage.writes, Stage.locked]
  · rw [schedule] at stored
    have expired : entry.expiresAt < meter.fleet.clock := by
      by_contra live
      have unexpired := not_lt.mp live
      cases value : entry.value with
      | malformed => exact single.documents _ entry stored value
      | document etag rows =>
          have hit :
              KeyStore.get meter.fleet.clock meter.fleet.cache
                  (cacheKey call.scheduleId) =
                some (.document etag rows) :=
            KeyStore.get_eq_some.mpr ⟨entry, stored, unexpired, value⟩
          simp [cacheRead, hit] at missed
    exact expiry.trans expired.le

/-- A call that has nothing to write ends. -/
theorem of_end (single : meter.Single) {index : Nat}
    (idle :
      ∀ call, meter.fleet.calls[index]? = some call →
        call.stage.writes = false)
    (calls : fleet.calls = meter.fleet.calls.eraseIdx index)
    (clock : fleet.clock = meter.fleet.clock)
    (cache : fleet.cache = meter.fleet.cache) :
    Single { meter with fleet } := by
  refine single.of_quiet ?_ clock.ge cache ?_ ?_
  · rw [Fleet.locks, calls]
    exact Fleet.locks_eraseIdx single.exclusive index
  · intro call member writing
    rw [calls]
    cases found : meter.fleet.calls[index]? with
    | none => rwa [List.eraseIdx_of_length_le (List.getElem?_eq_none_iff.mp found)]
    | some ended =>
        obtain ⟨before, -⟩ := exists_others found
        rcases List.mem_cons.mp (before.mem_iff.mp member) with rfl | other
        · rw [idle call found] at writing
          cases writing
        · exact other
  · intro call member _
    rw [calls] at member
    exact Or.inl (List.mem_of_mem_eraseIdx member)

/-- A call that has nothing to write goes on. -/
theorem of_goOn (single : meter.Single) {index : Nat} {call : Get}
    {stage : Stage}
    (found : meter.fleet.calls[index]? = some call)
    (idle : call.stage.writes = false)
    (free :
      stage.locked = true → call.stage.locked = true ∨
        call.key ∉ meter.fleet.locks)
    (queries :
      stage = .querying →
        ∀ reading ∈ meter.readings, reading.key = call.key →
          reading.time + staleness ≤ meter.fleet.clock) :
    Single { meter with fleet := meter.fleet.goOn index call stage } := by
  obtain ⟨before, after⟩ := exists_others found
  refine
    single.of_quiet (Fleet.locks_goOn single.exclusive found free) le_rfl rfl ?_ ?_
  · intro other member writing
    rcases List.mem_cons.mp (before.mem_iff.mp member) with rfl | kept
    · rw [idle] at writing
      cases writing
    · exact (after _).mem_iff.mpr (List.mem_cons_of_mem _ kept)
  · intro other member querying
    rcases List.mem_cons.mp ((after _).mem_iff.mp member) with rfl | kept
    · exact Or.inr (queries querying)
    · exact Or.inl (List.mem_of_mem_eraseIdx kept)

/-- A call looks into the cache. -/
theorem of_consult (single : meter.Single) {index : Nat} {call : Get}
    {stage : Stage}
    (found : meter.fleet.calls[index]? = some call)
    (idle : call.stage.writes = false)
    (free :
      stage.locked = true → call.stage.locked = true)
    (queries : stage = .querying → call.stage.locked = true) :
    Single
      { meter with fleet := meter.fleet.consult index call .answered stage } := by
  rw [Fleet.consult]
  cases read :
      cacheRead meter.fleet.clock call.scheduleId .answered meter.fleet.cache with
  | some seatmap =>
      refine single.of_end (fun ended same => ?_) rfl rfl rfl
      rw [found] at same
      cases same
      exact idle
  | none =>
      exact
        single.of_goOn found idle (fun locked => Or.inl (free locked))
          fun querying => single.elapsed_of_miss found (queries querying) idle read

/-- A call reads the database. -/
theorem of_reading (single : meter.Single) {index : Nat} {call : Get}
    {etag : String} {rows : List SeatmapRow}
    (found : meter.fleet.calls[index]? = some call)
    (querying : call.stage = .querying) :
    Single
      { fleet := meter.fleet.goOn index call (.writing etag rows)
        readings :=
          meter.readings ++
            [{ time := meter.fleet.clock
               loop := call.loop
               scheduleId := call.scheduleId }] } := by
  have locked : call.stage.locked = true := by rw [querying]; rfl
  have member := List.mem_of_getElem? found
  obtain ⟨before, after⟩ := exists_others found
  have elapsed := single.elapsed call member querying
  have own := after { call with stage := .writing etag rows }
  constructor
  case exclusive =>
    exact Fleet.locks_goOn single.exclusive found fun _ => Or.inl locked
  case documents => exact single.documents
  case past =>
    intro reading listed
    rcases List.mem_append.mp listed with old | new
    · exact single.past reading old
    · rw [List.mem_singleton.mp new]
      exact le_rfl
  case covered =>
    intro reading listed
    rcases List.mem_append.mp listed with old | new
    · rcases single.covered reading old with
        ⟨other, otherMember, same, writing⟩ | stored
      · rcases List.mem_cons.mp (before.mem_iff.mp otherMember) with rfl | kept
        · rw [querying] at writing
          cases writing
        · exact
            Or.inl
              ⟨other, own.mem_iff.mpr (List.mem_cons_of_mem _ kept), same, writing⟩
      · exact Or.inr stored
    · rw [List.mem_singleton.mp new]
      exact Or.inl ⟨_, own.mem_iff.mpr List.mem_cons_self, rfl, rfl⟩
  case elapsed =>
    intro other otherMember otherQuerying reading listed same
    rcases List.mem_cons.mp (own.mem_iff.mp otherMember) with rfl | kept
    · cases otherQuerying
    · rcases List.mem_append.mp listed with old | new
      · exact
          single.elapsed other (List.mem_of_mem_eraseIdx kept) otherQuerying
            reading old same
      · rw [List.mem_singleton.mp new] at same
        have unlocked :=
          Fleet.eq_of_locked single.exclusive found kept locked same.symm
        rw [otherQuerying] at unlocked
        cases unlocked
  case spaced =>
    exact single.spaced.snoc fun earlier listed same => elapsed earlier listed same

/-- A call writes into the cache and ends. -/
theorem of_writing (single : meter.Single) {index : Nat} {call : Get}
    {etag : String} {rows : List SeatmapRow} {seatmap : Seatmap}
    (found : meter.fleet.calls[index]? = some call) :
    Single
      { meter with
        fleet :=
          { meter.fleet with
            cache :=
              cacheWrite meter.fleet.clock call.scheduleId etag rows .answered
                meter.fleet.cache }.serve index seatmap } := by
  obtain ⟨before, -⟩ := exists_others found
  have written :
      cacheWrite meter.fleet.clock call.scheduleId etag rows .answered
          meter.fleet.cache =
        KeyStore.set meter.fleet.clock staleness (cacheKey call.scheduleId)
          (.document etag rows) meter.fleet.cache :=
    rfl
  rw [written]
  constructor
  case exclusive => exact Fleet.locks_eraseIdx single.exclusive index
  case documents =>
    intro key entry stored
    rcases KeyStore.set_eq_some stored with ⟨-, rfl⟩ | old
    · exact Payload.noConfusion
    · exact single.documents key entry old
  case past => exact single.past
  case covered =>
    intro reading member
    have renewed (same : reading.scheduleId = call.scheduleId) :
        ∃ entry,
          KeyStore.set meter.fleet.clock staleness (cacheKey call.scheduleId)
              (.document etag rows) meter.fleet.cache
              (cacheKey reading.scheduleId) = some entry ∧
            reading.time + staleness ≤ entry.expiresAt := by
      have before := single.past reading member
      rw [same, KeyStore.set, Function.update_self]
      exact ⟨_, rfl, Int.add_le_add_right before _⟩
    by_cases same : reading.scheduleId = call.scheduleId
    · exact Or.inr (renewed same)
    · rcases single.covered reading member with
        ⟨other, own, otherSame, writing⟩ | ⟨entry, stored, expiry⟩
      · rcases List.mem_cons.mp (before.mem_iff.mp own) with rfl | kept
        · exact absurd (Prod.mk.inj otherSame).2.symm same
        · exact Or.inl ⟨other, kept, otherSame, writing⟩
      · refine Or.inr ⟨entry, ?_, expiry⟩
        have different : cacheKey reading.scheduleId ≠ cacheKey call.scheduleId :=
          fun equal => same (congrArg CacheKey.scheduleId equal)
        show KeyStore.set _ _ _ _ _ _ = some entry
        rw [KeyStore.set, Function.update_of_ne different]
        exact stored
  case elapsed =>
    intro other otherMember
    exact single.elapsed other (List.mem_of_mem_eraseIdx otherMember)
  case spaced => exact single.spaced

/-- A call goes on, with a cache that answers. -/
theorem advance (single : meter.Single) {index : Nat} {call : Get}
    (found : meter.fleet.calls[index]? = some call)
    (advances : meter.fleet.advance etagOf index .answered call = some fleet) :
    Single
      { fleet
        readings :=
          meter.readings ++
            (meter.fleet.reading? (.advance index .answered)).toList } := by
  have unread (idle : call.stage ≠ .querying) :
      meter.readings ++
          (meter.fleet.reading? (.advance index .answered)).toList =
        meter.readings := by
    simp [Fleet.reading?, found, idle]
  rw [Fleet.advance] at advances
  split at advances
  · rename_i stage
    cases advances
    rw [unread (by simp [stage])]
    exact
      single.of_consult found (by rw [stage]; rfl) (fun locked => by cases locked)
        fun querying => by cases querying
  · rename_i stage
    split at advances
    · cases advances
    · rename_i free
      cases advances
      rw [unread (by simp [stage])]
      exact
        single.of_goOn found (by rw [stage]; rfl)
          (fun _ => Or.inr (Fleet.key_not_mem_locks (Bool.eq_false_iff.mpr free)))
          fun querying => by cases querying
  · rename_i stage
    cases advances
    rw [unread (by simp [stage])]
    exact
      single.of_consult found (by rw [stage]; rfl) (fun _ => by rw [stage]; rfl)
        fun _ => by rw [stage]; rfl
  · rename_i stage
    cases advances
    have read :
        meter.fleet.reading? (.advance index .answered) =
          some
            { time := meter.fleet.clock
              loop := call.loop
              scheduleId := call.scheduleId } := by
      simp [Fleet.reading?, found, stage]
    rw [read]
    exact single.of_reading found stage
  · rename_i etag rows stage
    cases advances
    rw [unread (by simp [stage])]
    exact single.of_writing found

theorem step (single : meter.Single)
    (reliable : meter.fleet.reliable action = true)
    (taken : meter.step etagOf action = some next) :
    next.Single := by
  obtain ⟨fleet, stepped, rfl⟩ := Option.map_eq_some_iff.mp taken
  cases action with
  | garble | flushall => cases reliable
  | advance index io =>
      obtain rfl : io = .answered := beq_iff_eq.mp reliable
      obtain ⟨call, found, advances⟩ := Option.bind_eq_some_iff.mp stepped
      exact single.advance found advances
  | fail index =>
      cases stepped
      simp only [Fleet.reading?, Option.toList_none, List.append_nil]
      refine single.of_end (fun call found => ?_) rfl rfl rfl
      simpa [Fleet.reliable, found] using reliable
  | tick elapsed =>
      cases stepped
      simp only [Fleet.reading?, Option.toList_none, List.append_nil]
      exact
        single.of_quiet single.exclusive
          (Int.le_add_of_nonneg_right (Int.natCast_nonneg elapsed)) rfl
          (fun _ member _ => member) fun _ member _ => Or.inl member
  | change after =>
      cases stepped
      simp only [Fleet.reading?, Option.toList_none, List.append_nil]
      exact
        single.of_quiet single.exclusive le_rfl rfl (fun _ member _ => member)
          fun _ member _ => Or.inl member
  | start loop scheduleId =>
      cases stepped
      simp only [Fleet.reading?, Option.toList_none, List.append_nil]
      refine
        single.of_quiet ?_ le_rfl rfl
          (fun _ member _ => List.mem_append_left _ member) ?_
      · simpa [Fleet.locks, Get.lock?, Stage.locked] using single.exclusive
      · intro call member querying
        rcases List.mem_append.mp member with old | new
        · exact Or.inl old
        · rw [List.mem_singleton.mp new] at querying
          cases querying

end Meter.Single

/-- The calls of a loop that are in the database, or about to be, for a schedule. -/
def Fleet.inFlight (fleet : Fleet) (key : Nat × Nat) : List Get :=
  fleet.calls.filter fun call => call.stage.locked && call.key == key

/--
With a reliable cache, at most one call of a loop has the lock of a schedule,
and in any period of so many times to live the calls of the loop read the
database for the schedule at most so many times, whatever calls there are and
however the seats change.
-/
theorem Meter.single_flight
    {etagOf : Nat → List SeatmapRow → String} {db : Db} {seats : List Seat}
    {clock : Time} {meter : Meter}
    (run :
      TransitionSystem.RunWhere (Meter.step etagOf)
        (fun before action => before.fleet.reliable action = true)
        (Meter.initial db seats clock) meter)
    (key : Nat × Nat) (start : Time) (periods : Nat) :
    (meter.fleet.inFlight key).length ≤ 1 ∧
      (meter.readings.filter fun reading =>
          reading.key == key && decide (start ≤ reading.time) &&
            decide (reading.time < start + periods * staleness)).length ≤
        periods := by
  have single : meter.Single :=
    run.invariant (.initial db seats clock)
      fun _ _ _ single reliable taken => single.step reliable taken
  constructor
  · have counted :
        (meter.fleet.inFlight key).length = meter.fleet.locks.count key := by
      rw [Fleet.inFlight, Fleet.locks, List.count, List.countP_filterMap,
        ← List.countP_eq_length_filter]
      refine List.countP_congr fun call _ => ?_
      cases locked : call.stage.locked <;> simp [Get.lock?, locked]
    rw [counted]
    exact List.nodup_iff_count_le_one.mp single.exclusive key
  · refine single.spaced.length_filter_le start ?_ ?_
    · intro left _ right _ leftCounts rightCounts
      simp only [Bool.and_eq_true, beq_iff_eq] at leftCounts rightCounts
      exact leftCounts.1.1.trans rightCounts.1.1.symm
    · intro reading _ counts
      simp only [Bool.and_eq_true, decide_eq_true_eq] at counts
      exact ⟨counts.1.2, counts.2⟩

/--
Three calls of one loop miss together, and one of them reads the database.
A fourth one reads it again once the time to live is over.
-/
theorem Meter.single_flight_rush :
    ∃ meter : Meter,
      (meter.fleet.log.length == 4 &&
          meter.readings.map Reading.time == [0, 3001]) = true ∧
        (meter.readings.filter fun reading =>
            reading.key == (0, 1) && decide (0 ≤ reading.time) &&
              decide (reading.time < 0 + 2 * staleness)).length ≤ 2 := by
  obtain ⟨meter, run, seen⟩ :=
    TransitionSystem.RunWhere.exists_of_checkedRun (Meter.step fun _ _ => "")
      (fun before action => before.fleet.reliable action = true)
      (Meter.initial World.oneSeat.db
        [{ id := 1, zone := "1층", rowLabel := "A", colNo := 1 }] 0)
      (List.replicate 3 (.start 0 1) ++
        [.advance 0 .answered, .advance 1 .answered, .advance 2 .answered,
         .advance 1 .answered, .advance 1 .answered, .advance 1 .answered,
         .advance 1 .answered] ++
        List.replicate 4 (.advance 0 .answered) ++
        [.tick 3001, .start 0 1] ++ List.replicate 5 (.advance 0 .answered))
      (fun meter =>
        meter.fleet.log.length == 4 &&
          meter.readings.map Reading.time == [0, 3001])
      (by decide)
  exact ⟨meter, seen, (Meter.single_flight run (0, 1) 0 2).2⟩

end Curtain.SeatmapService
