import Curtain.Seatmap

/-!
# How old a seat map can be

The time to live of a cached seat map runs from the write into the cache, not
from the read of the database.  As long as no call writes a seat map that the
database no longer shows, what the cache returns was committed within the time
to live.  A call that is slow between its read and its write breaks this.
-/

namespace Curtain.SeatmapService

open Table

/-- How long the cache keeps a seat map, in milliseconds. -/
def staleness : Int :=
  ttlMs Policy.seatmapCacheTtlSec

/-! ## What a step does -/

/-- What a step does to the cache and to what the calls returned. -/
inductive Effect (fleet : Fleet) (action : Action) (next : Fleet) : Prop where
  | quiet
      (clock : fleet.clock ≤ next.clock)
      (cache :
        ∀ key entry, next.cache key = some entry →
          fleet.cache key = some entry ∨ entry.value = .malformed)
      (log : next.log = fleet.log)
  | hit (scheduleId : Nat) (io : GateIo) (seatmap : Seatmap)
      (read : cacheRead fleet.clock scheduleId io fleet.cache = some seatmap)
      (clock : next.clock = fleet.clock)
      (cache : next.cache = fleet.cache)
      (log : next.log = fleet.log ++ [{ time := fleet.clock, seatmap }])
  | wrote (index : Nat) (io : GateIo) (call : Get) (etag : String)
      (rows : List SeatmapRow)
      (own : action = .advance index io)
      (found : fleet.calls[index]? = some call)
      (writing : call.stage = .writing etag rows)
      (clock : next.clock = fleet.clock)
      (cache :
        next.cache =
          cacheWrite fleet.clock call.scheduleId etag rows io fleet.cache)
      (log :
        ∃ seatmap : Seatmap, seatmap.fromCache = false ∧
          next.log = fleet.log ++ [{ time := fleet.clock, seatmap }])

section Effects

variable {etagOf : Nat → List SeatmapRow → String} {fleet next : Fleet}
variable {action : Action}

theorem Effect.of_same (clock : next.clock = fleet.clock)
    (cache : next.cache = fleet.cache) (log : next.log = fleet.log) :
    Effect fleet action next :=
  .quiet clock.ge (fun _ _ found => Or.inl (by rwa [cache] at found)) log

theorem consult_effect (index : Nat) (call : Get) (io : GateIo)
    (otherwise : Stage) :
    Effect fleet action (fleet.consult index call io otherwise) := by
  rw [Fleet.consult]
  cases read : cacheRead fleet.clock call.scheduleId io fleet.cache with
  | some seatmap => exact .hit call.scheduleId io seatmap read rfl rfl rfl
  | none => exact .of_same rfl rfl rfl

theorem step_effect (taken : fleet.step etagOf action = some next) :
    Effect fleet action next := by
  cases action with
  | tick elapsed =>
      cases taken
      exact
        .quiet (Int.le_add_of_nonneg_right (Int.natCast_nonneg elapsed))
          (fun _ _ found => Or.inl found) rfl
  | change | start | fail =>
      cases taken
      exact .of_same rfl rfl rfl
  | garble scheduleId ttl =>
      cases taken
      refine .quiet le_rfl ?_ rfl
      intro key entry found
      rcases KeyStore.set_eq_some found with ⟨-, rfl⟩ | old
      · exact Or.inr rfl
      · exact Or.inl old
  | flushall =>
      cases taken
      exact .quiet le_rfl (fun _ _ found => by cases found) rfl
  | advance index io =>
      obtain ⟨call, found, advances⟩ := Option.bind_eq_some_iff.mp taken
      rw [Fleet.advance] at advances
      split at advances
      · cases advances
        exact consult_effect index call io .waiting
      · split at advances <;> cases advances
        exact .of_same rfl rfl rfl
      · cases advances
        exact consult_effect index call io .querying
      · cases advances
        exact .of_same rfl rfl rfl
      · rename_i etag rows writing
        cases advances
        exact
          .wrote index io call etag rows rfl found writing rfl rfl
            ⟨_, rfl, rfl⟩

/-- What the cache returns is a document that it holds and that is live. -/
theorem cacheRead_eq_some {now : Time} {scheduleId : Nat} {io : GateIo}
    {cache : Cache} {seatmap : Seatmap}
    (read : cacheRead now scheduleId io cache = some seatmap) :
    seatmap.scheduleId = scheduleId ∧
      ∃ etag rows expiresAt,
        cache (cacheKey scheduleId) =
            some { value := .document etag rows, expiresAt } ∧
          now ≤ expiresAt ∧ seatmap.seats = toSeats rows := by
  rw [cacheRead] at read
  split at read
  · split at read
    · rename_i etag rows live
      cases read
      obtain ⟨entry, found, unexpired, equal⟩ := KeyStore.get_eq_some.mp live
      refine ⟨rfl, etag, rows, entry.expiresAt, ?_, unexpired, rfl⟩
      rw [found, ← equal]
    · cases read
  · cases read

end Effects

/-! ## What is true of the past -/

/--
What was returned at that time was committed at some instant not longer ago
than the time to live.
-/
def Served.Recent (history : List Fleet) (served : Served) : Prop :=
  ∃ earlier ∈ history,
    served.time - staleness ≤ earlier.clock ∧ earlier.clock ≤ served.time ∧
      served.seatmap.seats = toSeats (earlier.rows served.seatmap.scheduleId)

theorem Served.Recent.mono {history : List Fleet} {served : Served}
    (recent : served.Recent history) (later : Fleet) :
    served.Recent (later :: history) := by
  obtain ⟨earlier, member, window⟩ := recent
  exact ⟨earlier, List.mem_cons_of_mem later member, window⟩

/-- A call that writes into the cache writes what the database still shows. -/
def Fleet.writesCurrent (fleet : Fleet) (action : Action) : Bool :=
  match action with
  | .advance index io =>
      io == .unreachable || (fleet.calls[index]?).all fun call =>
        match call.stage with
        | .writing _ rows => rows == fleet.rows call.scheduleId
        | _ => true
  | _ => true

/--
Every document in the cache was committed when it was written, which is one
time to live before it expires, and so was all that the cache returned.
-/
structure Fleet.Fresh (past : List Fleet) (fleet : Fleet) : Prop where
  documents :
    ∀ scheduleId etag rows expiresAt,
      fleet.cache (cacheKey scheduleId) =
          some { value := .document etag rows, expiresAt } →
        ∃ earlier ∈ fleet :: past, expiresAt = earlier.clock + staleness ∧
          earlier.clock ≤ fleet.clock ∧ rows = earlier.rows scheduleId
  served :
    ∀ served ∈ fleet.log, served.seatmap.fromCache = true →
      served.Recent (fleet :: past)

namespace Fleet.Fresh

variable {etagOf : Nat → List SeatmapRow → String} {past : List Fleet}
variable {fleet next : Fleet} {action : Action}

theorem initial (db : Db) (seats : List Seat) (clock : Time) :
    (Fleet.initial db seats clock).Fresh [] where
  documents := by simp [Fleet.initial]
  served := by simp [Fleet.initial]

/-- A document that the cache returns is of the last time to live. -/
theorem recent_of_read (fresh : fleet.Fresh past) {scheduleId : Nat}
    {io : GateIo} {seatmap : Seatmap}
    (read : cacheRead fleet.clock scheduleId io fleet.cache = some seatmap) :
    Served.Recent (fleet :: past) { time := fleet.clock, seatmap } := by
  obtain ⟨same, etag, rows, expiresAt, found, live, seats⟩ :=
    cacheRead_eq_some read
  obtain ⟨earlier, member, expiry, before, committed⟩ :=
    fresh.documents scheduleId etag rows expiresAt found
  refine ⟨earlier, member, ?_, before, ?_⟩
  · rw [expiry] at live
    exact Int.sub_right_le_of_le_add live
  · dsimp only
    rw [seats, committed, same]

/-- A step whose write is current keeps the cache fresh. -/
theorem step (fresh : fleet.Fresh past)
    (current : fleet.writesCurrent action = true)
    (taken : fleet.step etagOf action = some next) :
    next.Fresh (fleet :: past) := by
  have keepsServed :
      ∀ served ∈ fleet.log, served.seatmap.fromCache = true →
        served.Recent (next :: fleet :: past) :=
    fun served member cached => (fresh.served served member cached).mono next
  have keepsDocument :
      fleet.clock ≤ next.clock → ∀ scheduleId etag rows expiresAt,
        fleet.cache (cacheKey scheduleId) =
            some { value := .document etag rows, expiresAt } →
          ∃ earlier ∈ next :: fleet :: past,
            expiresAt = earlier.clock + staleness ∧
              earlier.clock ≤ next.clock ∧ rows = earlier.rows scheduleId := by
    intro passes scheduleId etag rows expiresAt found
    obtain ⟨earlier, member, expiry, before, committed⟩ :=
      fresh.documents scheduleId etag rows expiresAt found
    exact
      ⟨earlier, List.mem_cons_of_mem next member, expiry, before.trans passes,
        committed⟩
  cases step_effect taken with
  | quiet clock cache log =>
      refine { documents := ?_, served := by rw [log]; exact keepsServed }
      intro scheduleId etag rows expiresAt found
      rcases cache _ _ found with old | malformed
      · exact keepsDocument clock scheduleId etag rows expiresAt old
      · cases malformed
  | hit scheduleId io seatmap read clock cache log =>
      refine { documents := ?_, served := ?_ }
      · rw [cache]
        exact keepsDocument clock.ge
      · intro served member cached
        rw [log] at member
        rcases List.mem_append.mp member with old | new
        · exact keepsServed served old cached
        · rw [List.mem_singleton.mp new]
          exact (fresh.recent_of_read read).mono next
  | wrote index io call etag rows own found writing clock cache log =>
      obtain ⟨seatmap, uncached, log⟩ := log
      refine { documents := ?_, served := ?_ }
      · intro scheduleId tag stored expiresAt written
        rw [cache, cacheWrite] at written
        split at written
        · exact keepsDocument clock.ge scheduleId tag stored expiresAt written
        · rename_i reached
          rcases KeyStore.set_eq_some written with ⟨sameKey, equal⟩ | old
          · have sameSchedule : scheduleId = call.scheduleId := by
              rw [cacheKey, cacheKey] at sameKey
              exact congrArg CacheKey.scheduleId sameKey
            have committed : rows = fleet.rows call.scheduleId := by
              simpa [Fleet.writesCurrent, own, found, writing, reached]
                using current
            cases equal
            refine ⟨fleet, by simp, rfl, clock.ge, ?_⟩
            rw [committed, sameSchedule]
          · exact keepsDocument clock.ge scheduleId tag stored expiresAt old
      · intro served member cached
        rw [log] at member
        rcases List.mem_append.mp member with old | new
        · exact keepsServed served old cached
        · rw [List.mem_singleton.mp new] at cached
          rw [uncached] at cached
          cases cached

end Fleet.Fresh

instance (history : List Fleet) (served : Served) :
    Decidable (served.Recent history) :=
  inferInstanceAs (Decidable (∃ earlier ∈ history, _ ∧ _ ∧ _))

/--
In every run in which no call writes a seat map that the database no longer
shows, what the cache returns was committed within the time to live.
-/
theorem cached_seatmaps_are_recent
    {etagOf : Nat → List SeatmapRow → String} {db : Db} {seats : List Seat}
    {clock : Time} {past : List Fleet} {fleet : Fleet}
    (run :
      TransitionSystem.Trace (Fleet.step etagOf)
        (fun before action => before.writesCurrent action = true)
        (Fleet.initial db seats clock) past fleet) :
    ∀ served ∈ fleet.log, served.seatmap.fromCache = true →
      served.Recent (fleet :: past) := by
  have fresh : fleet.Fresh past :=
    run.invariant (.initial db seats clock)
      fun _ _ _ _ fresh current taken => fresh.step current taken
  exact fresh.served

/-! ### One seat -/

/-- The processes in front of the hall with one seat. -/
def Fleet.oneSeat : Fleet :=
  .initial World.oneSeat.db
    [{ id := 1, zone := "1층", rowLabel := "A", colNo := 1 }] 0

/-- Somebody holds the seat. -/
def Action.hold : Action :=
  .change (Queries.holdSeats 1 7 [1] 4 420 0 World.oneSeat.db).2

/-- A call finds nothing in the cache and reads the database. -/
def Action.miss : List Action :=
  .start 0 1 :: List.replicate 4 (.advance 0 .answered)

/-- The call writes into the cache, and a call of another process finds it there. -/
def Action.writeAndHit : List Action :=
  [.advance 0 .answered, .start 1 1, .advance 0 .answered]

/-- The seat is held between the read and a write that comes four seconds later. -/
theorem cached_seatmaps_are_recent_fails :
    ¬ ∀ past fleet,
      TransitionSystem.Trace (Fleet.step fun _ _ => "") (fun _ _ => True)
          Fleet.oneSeat past fleet →
        ∀ served ∈ fleet.log, served.seatmap.fromCache = true →
          served.Recent (fleet :: past) := by
  intro claim
  obtain ⟨past, fleet, run, seen⟩ :=
    TransitionSystem.Trace.exists_of_checkedTrace (Fleet.step fun _ _ => "")
      (fun _ _ => True) Fleet.oneSeat
      (Action.miss ++ [.hold, .tick 4000] ++ Action.writeAndHit)
      (fun run =>
        run.2.log.any fun served =>
          served.seatmap.fromCache &&
            !decide (served.Recent (run.2 :: run.1)))
      (by decide)
  obtain ⟨served, member, stale⟩ := List.any_eq_true.mp seen
  simp only [Bool.and_eq_true, Bool.not_eq_true', decide_eq_false_iff_not]
    at stale
  exact stale.2 (claim past fleet run served member stale.1)

/-- Written at once, the map is still returned three seconds after the seat is held. -/
theorem cached_seatmaps_are_recent_within :
    ∃ (past : List Fleet) (fleet : Fleet),
      (fleet.log.any fun served =>
          served.seatmap.fromCache && served.time == 3000) = true ∧
        ∀ served ∈ fleet.log, served.seatmap.fromCache = true →
          served.Recent (fleet :: past) := by
  obtain ⟨past, fleet, run, seen⟩ :=
    TransitionSystem.Trace.exists_of_checkedTrace (Fleet.step fun _ _ => "")
      (fun before action => before.writesCurrent action = true) Fleet.oneSeat
      (Action.miss ++
        [.advance 0 .answered, .hold, .tick 3000, .start 1 1,
         .advance 0 .answered])
      (fun run =>
        run.2.log.any fun served =>
          served.seatmap.fromCache && served.time == 3000)
      (by decide)
  exact ⟨past, fleet, seen, cached_seatmaps_are_recent run⟩

end Curtain.SeatmapService
