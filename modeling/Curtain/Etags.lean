import Curtain.Lib.Json
import Curtain.Staleness

/-!
# Cached and fresh seat maps

A seat map from the cache and the one that a call built from the database were
computed at different times, the former from a document that some call wrote.
A recorder keeps, beside the processes, what each map was built from and which
map the writer of an entry returned.  As long as only `get` writes the keys of
the cache, the two agree, and the etag says which rows a map shows.
-/

namespace Curtain

/-- A row of `_read_db`. -/
def SeatmapRow.document (row : SeatmapRow) : Json.Plain :=
  .list
    [.int row.seatId, .str row.zone.toList, .str row.rowLabel.toList,
     .int row.colNo, .str row.grade.toList, .int row.price,
     .str row.status.toList]

namespace SeatmapService

/-! ## Etags and keys -/

/-- The text that `_etag` hashes. -/
def material (scheduleId : Nat) (rows : List SeatmapRow) : List Char :=
  Json.Plain.dumps
    (.list [.int scheduleId, .list (rows.map SeatmapRow.document)])

/-- `_etag`, with the hexadecimal digest of a text. -/
def etag (hexdigest : List Char → String) (scheduleId : Nat)
    (rows : List SeatmapRow) : String :=
  hexdigest (material scheduleId rows)

/-- The text of a key. -/
def CacheKey.text (key : CacheKey) : List Char :=
  "seatmap:".toList ++
    '{' :: (Json.intText key.scheduleId ++ '}' :: ':' :: key.version.toList)

theorem text_injective : Function.Injective Json.text :=
  List.map_injective_iff.mpr fun _ _ same => Char.toNat_inj.mp same

theorem text_toList_inj {left right : String} :
    Json.text left.toList = Json.text right.toList ↔ left = right := by
  rw [text_injective.eq_iff, String.toList_inj]

theorem document_value_injective :
    Function.Injective fun row : SeatmapRow => row.document.value := by
  intro left right same
  simp only [SeatmapRow.document, Json.Plain.value, Json.Plain.values,
    Json.Value.list.injEq, List.cons.injEq, Json.Value.int.injEq,
    Json.Value.str.injEq, Int.natCast_inj, text_toList_inj, and_true] at same
  cases left
  cases right
  simp_all

theorem values_map_document (rows : List SeatmapRow) :
    Json.Plain.values (rows.map SeatmapRow.document) =
      rows.map fun row => row.document.value := by
  induction rows with
  | nil => rfl
  | cons row rows induction => simp [Json.Plain.values, induction]

/-- The text tells the schedule and the rows. -/
theorem material_inj {scheduleId other : Nat} {rows others : List SeatmapRow}
    (same : material scheduleId rows = material other others) :
    scheduleId = other ∧ rows = others := by
  have values := Json.Plain.value_eq_of_dumps_eq same
  simp only [Json.Plain.value, Json.Plain.values, values_map_document,
    Json.Value.list.injEq, List.cons.injEq, Json.Value.int.injEq,
    Int.natCast_inj, and_true] at values
  exact
    ⟨values.1, List.map_injective_iff.mpr document_value_injective values.2⟩

/-- The keys of different schedules are different texts. -/
theorem cacheKey_text_inj {scheduleId other : Nat}
    (same : (cacheKey scheduleId).text = (cacheKey other).text) :
    scheduleId = other := by
  have digits : Json.intText scheduleId = Json.intText other := by
    have brace := List.append_cancel_left same
    exact List.append_cancel_right (List.cons.inj brace).2
  have values :=
    @Json.Plain.value_eq_of_dumps_eq (.int scheduleId) (.int other) digits
  exact Int.natCast_inj.mp (Json.Value.int.inj values)

/-! ## What the calls return -/

/-- The map of some rows. -/
def built (scheduleId : Nat) (etag : String) (rows : List SeatmapRow)
    (fromCache : Bool) : Seatmap where
  scheduleId := scheduleId
  etag := etag
  seats := toSeats rows
  fromCache := fromCache

/--
A map that a call returned, the rows it was built from, and for one from the
cache the map that the writer of the entry returned.
-/
structure Service where
  seatmap : Seatmap
  rows : List SeatmapRow
  writer : Option Seatmap
deriving DecidableEq, Repr

/-- The processes, who wrote the entries of the cache, and what was returned. -/
structure Recorder where
  fleet : Fleet
  writers : CacheKey → Option Seatmap
  served : List Service

namespace Recorder

/-- What a call returns from the cache. -/
def hits (recorder : Recorder) (scheduleId : Nat) (io : GateIo) :
    List Service :=
  if io = .answered then
    match KeyStore.get recorder.fleet.clock recorder.fleet.cache
        (cacheKey scheduleId) with
    | some (.document etag rows) =>
        [{ seatmap := built scheduleId etag rows true
           rows
           writer := recorder.writers (cacheKey scheduleId) }]
    | _ => []
  else []

/-- The recorder behind the next round trip of a call. -/
def observe (recorder : Recorder) (next : Fleet) (io : GateIo) (call : Get) :
    Recorder :=
  match call.stage with
  | .reading | .rereading =>
      { recorder with
        fleet := next
        served := recorder.served ++ recorder.hits call.scheduleId io }
  | .waiting | .querying => { recorder with fleet := next }
  | .writing etag rows =>
      let seatmap := built call.scheduleId etag rows false
      { fleet := next
        writers :=
          if io = .unreachable then recorder.writers
          else
            Function.update recorder.writers (cacheKey call.scheduleId)
              (some seatmap)
        served :=
          recorder.served ++ [{ seatmap, rows, writer := none }] }

/-- A step of the processes, recorded. -/
def step (etagOf : Nat → List SeatmapRow → String) (recorder : Recorder)
    (action : Action) : Option Recorder :=
  (recorder.fleet.step etagOf action).map fun next =>
    match action with
    | .advance index io =>
        match recorder.fleet.calls[index]? with
        | some call => recorder.observe next io call
        | none => { recorder with fleet := next }
    | _ => { recorder with fleet := next }

/-- Nothing was returned yet. -/
def initial (db : Db) (seats : List Seat) (clock : Time) : Recorder where
  fleet := .initial db seats clock
  writers := fun _ => none
  served := []

end Recorder

/-- Only `get` writes the keys of the cache. -/
def Action.ownsCache : Action → Bool
  | .garble _ _ => false
  | _ => true

/-- Recording changes nothing. -/
theorem Recorder.step_fleet (recorder : Recorder)
    (etagOf : Nat → List SeatmapRow → String) (action : Action) :
    (recorder.step etagOf action).map Recorder.fleet =
      recorder.fleet.step etagOf action := by
  unfold Recorder.step
  rw [Option.map_map]
  convert Option.map_id' with next
  cases action with
  | tick | change | start | fail | garble | flushall => rfl
  | advance index io =>
      dsimp only [Function.comp_apply]
      split
      · unfold Recorder.observe
        split <;> rfl
      · rfl

/-! ## What a recorded step does -/

/-- What a step does to the cache, to the calls and to what they returned. -/
inductive Recorder.Effect (recorder next : Recorder) : Prop where
  | quiet
      (cache :
        ∀ key entry, next.fleet.cache key = some entry →
          recorder.fleet.cache key = some entry)
      (writers : next.writers = recorder.writers)
      (served : next.served = recorder.served)
      (log : next.fleet.log = recorder.fleet.log)
  | hit (scheduleId : Nat) (etag : String) (rows : List SeatmapRow)
      (expiresAt : Time)
      (found :
        recorder.fleet.cache (cacheKey scheduleId) =
          some { value := .document etag rows, expiresAt })
      (cache : next.fleet.cache = recorder.fleet.cache)
      (writers : next.writers = recorder.writers)
      (served :
        next.served =
          recorder.served ++
            [{ seatmap := built scheduleId etag rows true
               rows
               writer := recorder.writers (cacheKey scheduleId) }])
      (log :
        next.fleet.log =
          recorder.fleet.log ++
            [{ time := recorder.fleet.clock
               seatmap := built scheduleId etag rows true }])
  | wrote (call : Get) (etag : String) (rows : List SeatmapRow)
      (member : call ∈ recorder.fleet.calls)
      (writing : call.stage = .writing etag rows)
      (entries :
        ∀ key entry, next.fleet.cache key = some entry →
          (key = cacheKey call.scheduleId ∧
              entry.value = .document etag rows ∧
              next.writers key =
                some (built call.scheduleId etag rows false)) ∨
            (recorder.fleet.cache key = some entry ∧
              next.writers key = recorder.writers key))
      (served :
        next.served =
          recorder.served ++
            [{ seatmap := built call.scheduleId etag rows false
               rows
               writer := none }])
      (log :
        next.fleet.log =
          recorder.fleet.log ++
            [{ time := recorder.fleet.clock
               seatmap := built call.scheduleId etag rows false }])

/-- The etag of a call that is about to write is that of its rows. -/
def Get.Digested (etagOf : Nat → List SeatmapRow → String) (call : Get) :
    Prop :=
  ∀ etag rows, call.stage = .writing etag rows →
    etag = etagOf call.scheduleId rows

section Effects

variable {etagOf : Nat → List SeatmapRow → String}
variable {recorder next : Recorder} {action : Action}

/-- A call goes on to another round trip, with digested rows if it writes. -/
theorem Get.Digested.goOn {fleet : Fleet} {index : Nat} {call : Get}
    {stage : Stage}
    (digested : ∀ call ∈ fleet.calls, call.Digested etagOf)
    (moved : Get.Digested etagOf { call with stage }) :
    ∀ other ∈ (fleet.goOn index call stage).calls, other.Digested etagOf := by
  intro other member
  rcases List.mem_or_eq_of_mem_set member with old | new
  · exact digested other old
  · rw [new]
    exact moved

theorem Get.Digested.serve {fleet : Fleet} {index : Nat} {seatmap : Seatmap}
    (digested : ∀ call ∈ fleet.calls, call.Digested etagOf) :
    ∀ other ∈ (fleet.serve index seatmap).calls, other.Digested etagOf :=
  fun other member => digested other (List.mem_of_mem_eraseIdx member)

theorem Get.Digested.consult {fleet : Fleet} {index : Nat} {call : Get}
    {io : GateIo} {otherwise : Stage}
    (digested : ∀ call ∈ fleet.calls, call.Digested etagOf)
    (moved : Get.Digested etagOf { call with stage := otherwise }) :
    ∀ other ∈ (fleet.consult index call io otherwise).calls,
      other.Digested etagOf := by
  unfold Fleet.consult
  split
  · exact Get.Digested.serve digested
  · exact Get.Digested.goOn digested moved

/-- The calls that are about to write have digested their rows. -/
theorem Fleet.digested_step {fleet after : Fleet}
    (digested : ∀ call ∈ fleet.calls, call.Digested etagOf)
    (taken : fleet.step etagOf action = some after) :
    ∀ call ∈ after.calls, call.Digested etagOf := by
  cases action with
  | tick | change | garble | flushall =>
      cases taken
      exact digested
  | start loop scheduleId =>
      cases taken
      intro call member
      rcases List.mem_append.mp member with old | new
      · exact digested call old
      · rw [List.mem_singleton.mp new]
        rintro etag rows ⟨⟩
  | fail index =>
      cases taken
      exact fun call member => digested call (List.mem_of_mem_eraseIdx member)
  | advance index io =>
      obtain ⟨call, found, advances⟩ := Option.bind_eq_some_iff.mp taken
      have elsewhere : ∀ stage : Stage,
          (∀ etag rows, stage ≠ .writing etag rows) →
          Get.Digested etagOf { call with stage } :=
        fun stage apart etag rows writing => absurd writing (apart etag rows)
      unfold Fleet.advance at advances
      split at advances
      · cases advances
        exact Get.Digested.consult digested (elsewhere .waiting (by simp))
      · split at advances <;> cases advances
        exact Get.Digested.goOn digested (elsewhere .rereading (by simp))
      · cases advances
        exact Get.Digested.consult digested (elsewhere .querying (by simp))
      · cases advances
        apply Get.Digested.goOn digested
        intro etag rows writing
        cases writing
        rfl
      · cases advances
        exact Get.Digested.serve digested

/-- A read finds nothing, or a document that is recorded with its writer. -/
theorem Recorder.read_cases (recorder : Recorder) (scheduleId : Nat)
    (io : GateIo) :
    (cacheRead recorder.fleet.clock scheduleId io recorder.fleet.cache = none ∧
        recorder.hits scheduleId io = []) ∨
      ∃ etag rows expiresAt,
        recorder.fleet.cache (cacheKey scheduleId) =
            some { value := .document etag rows, expiresAt } ∧
          cacheRead recorder.fleet.clock scheduleId io recorder.fleet.cache =
            some (built scheduleId etag rows true) ∧
          recorder.hits scheduleId io =
            [{ seatmap := built scheduleId etag rows true
               rows
               writer := recorder.writers (cacheKey scheduleId) }] := by
  unfold cacheRead Recorder.hits
  split
  · cases live :
        KeyStore.get recorder.fleet.clock recorder.fleet.cache
          (cacheKey scheduleId) with
    | none => exact Or.inl ⟨rfl, rfl⟩
    | some payload =>
        cases payload with
        | malformed => exact Or.inl ⟨rfl, rfl⟩
        | document etag rows =>
            obtain ⟨entry, found, unexpired, equal⟩ :=
              KeyStore.get_eq_some.mp live
            refine Or.inr ⟨etag, rows, entry.expiresAt, ?_, rfl, rfl⟩
            rw [found, ← equal]
  · exact Or.inl ⟨rfl, rfl⟩

/-- A call that consults the cache returns what it finds there. -/
theorem Recorder.consult_effect (index : Nat) (call : Get) (io : GateIo)
    (otherwise : Stage) :
    Recorder.Effect recorder
      { recorder with
        fleet := recorder.fleet.consult index call io otherwise
        served := recorder.served ++ recorder.hits call.scheduleId io } := by
  unfold Fleet.consult
  rcases recorder.read_cases call.scheduleId io with
    ⟨missed, none⟩ | ⟨etag, rows, expiresAt, found, read, hits⟩
  · rw [missed, none, List.append_nil]
    exact .quiet (fun _ _ old => old) rfl rfl rfl
  · rw [read, hits]
    exact .hit call.scheduleId etag rows expiresAt found rfl rfl rfl rfl

/-- A call that writes returns the map of what it writes. -/
theorem Recorder.write_effect {index : Nat} {call : Get} {etag : String}
    {rows : List SeatmapRow} (io : GateIo)
    (member : call ∈ recorder.fleet.calls)
    (writing : call.stage = .writing etag rows) :
    Recorder.Effect recorder
      (recorder.observe
        (Fleet.serve
          { recorder.fleet with
            cache :=
              cacheWrite recorder.fleet.clock call.scheduleId etag rows io
                recorder.fleet.cache }
          index (built call.scheduleId etag rows false))
        io call) := by
  unfold Recorder.observe
  rw [writing]
  apply Recorder.Effect.wrote call etag rows member writing _ rfl rfl
  intro key entry found
  dsimp only [Fleet.serve, cacheWrite] at found ⊢
  by_cases reached : io = .unreachable
  · rw [if_pos reached] at found
    exact Or.inr ⟨found, by rw [if_pos reached]⟩
  · rw [if_neg reached] at found ⊢
    by_cases own : key = cacheKey call.scheduleId
    · left
      rw [own, KeyStore.set, Function.update_self] at found
      cases found
      exact ⟨own, rfl, by rw [own, Function.update_self]⟩
    · right
      rw [KeyStore.set, Function.update_of_ne own] at found
      exact ⟨found, Function.update_of_ne own _ _⟩

/-- What a recorded step of callers that own the cache does. -/
theorem Recorder.step_effect (owned : action.ownsCache = true)
    (taken : recorder.step etagOf action = some next) :
    Recorder.Effect recorder next := by
  obtain ⟨after, moved, equal⟩ := Option.map_eq_some_iff.mp taken
  cases action with
  | tick | change | start | fail =>
      cases moved
      cases equal
      exact .quiet (fun _ _ old => old) rfl rfl rfl
  | garble => cases owned
  | flushall =>
      cases moved
      cases equal
      exact .quiet (fun _ _ old => by cases old) rfl rfl rfl
  | advance index io =>
      obtain ⟨call, found, advances⟩ := Option.bind_eq_some_iff.mp moved
      have member : call ∈ recorder.fleet.calls := List.mem_of_getElem? found
      have observed : recorder.observe after io call = next := by
        dsimp only at equal
        rwa [found] at equal
      subst observed
      cases stage : call.stage with
      | reading =>
          rw [Fleet.advance, stage] at advances
          cases advances
          unfold Recorder.observe
          rw [stage]
          exact consult_effect index call io .waiting
      | waiting =>
          rw [Fleet.advance, stage] at advances
          dsimp only at advances
          split at advances <;> cases advances
          unfold Recorder.observe
          rw [stage]
          exact .quiet (fun _ _ old => old) rfl rfl rfl
      | rereading =>
          rw [Fleet.advance, stage] at advances
          cases advances
          unfold Recorder.observe
          rw [stage]
          exact consult_effect index call io .querying
      | querying =>
          rw [Fleet.advance, stage] at advances
          cases advances
          unfold Recorder.observe
          rw [stage]
          exact .quiet (fun _ _ old => old) rfl rfl rfl
      | writing etag rows =>
          rw [Fleet.advance, stage] at advances
          cases advances
          exact write_effect io member stage

end Effects

/-! ## What is true of every run -/

/--
A map shows its rows under their etag, and one from the cache is the fresh map
that the writer of the entry returned.
-/
structure Service.Agrees (etagOf : Nat → List SeatmapRow → String)
    (served : List Service) (service : Service) : Prop where
  content :
    service.seatmap =
      built service.seatmap.scheduleId
        (etagOf service.seatmap.scheduleId service.rows) service.rows
        service.seatmap.fromCache
  origin :
    service.seatmap.fromCache = true →
      ∃ fresh ∈ served, fresh.seatmap.fromCache = false ∧
        service.writer = some fresh.seatmap ∧
          service.seatmap = { fresh.seatmap with fromCache := true }

theorem Service.Agrees.mono {etagOf : Nat → List SeatmapRow → String}
    {served : List Service} {service : Service}
    (agrees : service.Agrees etagOf served) (later : List Service) :
    service.Agrees etagOf (served ++ later) where
  content := agrees.content
  origin := by
    intro cached
    obtain ⟨fresh, member, same⟩ := agrees.origin cached
    exact ⟨fresh, List.mem_append_left later member, same⟩

/--
A call that is about to write has digested its rows; an entry of the cache has
the etag of its rows and the map its writer returned; and every map that was
returned is recorded and agrees.
-/
structure Recorder.Agrees (etagOf : Nat → List SeatmapRow → String)
    (recorder : Recorder) : Prop where
  calls : ∀ call ∈ recorder.fleet.calls, call.Digested etagOf
  entries :
    ∀ scheduleId etag rows expiresAt,
      recorder.fleet.cache (cacheKey scheduleId) =
          some { value := .document etag rows, expiresAt } →
        etag = etagOf scheduleId rows ∧
          recorder.writers (cacheKey scheduleId) =
            some (built scheduleId etag rows false) ∧
          ∃ fresh ∈ recorder.served,
            fresh.seatmap = built scheduleId etag rows false
  served :
    ∀ service ∈ recorder.served, service.Agrees etagOf recorder.served
  log :
    recorder.served.map Service.seatmap =
      recorder.fleet.log.map Served.seatmap

namespace Recorder.Agrees

variable {etagOf : Nat → List SeatmapRow → String}
variable {recorder next : Recorder} {action : Action}

theorem built_digest {scheduleId : Nat} {etag : String}
    {rows : List SeatmapRow} (digest : etag = etagOf scheduleId rows)
    (fromCache : Bool) :
    built scheduleId etag rows fromCache =
      built scheduleId (etagOf scheduleId rows) rows fromCache := by
  rw [digest]

theorem initial (db : Db) (seats : List Seat) (clock : Time) :
    (Recorder.initial db seats clock).Agrees etagOf where
  calls := by simp [Recorder.initial, Fleet.initial]
  entries := by simp [Recorder.initial, Fleet.initial]
  served := by simp [Recorder.initial]
  log := rfl

/-- What is recorded of the entries stays true while more maps are returned. -/
theorem entry_mono (agrees : recorder.Agrees etagOf) (later : List Service)
    {scheduleId : Nat} {etag : String} {rows : List SeatmapRow}
    {expiresAt : Time}
    (found :
      recorder.fleet.cache (cacheKey scheduleId) =
        some { value := .document etag rows, expiresAt }) :
    etag = etagOf scheduleId rows ∧
      recorder.writers (cacheKey scheduleId) =
        some (built scheduleId etag rows false) ∧
      ∃ fresh ∈ recorder.served ++ later,
        fresh.seatmap = built scheduleId etag rows false := by
  obtain ⟨digest, writer, fresh, member, same⟩ :=
    agrees.entries scheduleId etag rows expiresAt found
  exact ⟨digest, writer, fresh, List.mem_append_left later member, same⟩

/-- With one more map that agrees, all that were returned agree. -/
theorem served_append (agrees : recorder.Agrees etagOf) {service : Service}
    (new : service.Agrees etagOf (recorder.served ++ [service])) :
    ∀ other ∈ recorder.served ++ [service],
      other.Agrees etagOf (recorder.served ++ [service]) := by
  intro other member
  rcases List.mem_append.mp member with old | last
  · exact (agrees.served other old).mono [service]
  · rw [List.mem_singleton.mp last]
    exact new

theorem step (agrees : recorder.Agrees etagOf)
    (owned : action.ownsCache = true)
    (taken : recorder.step etagOf action = some next) :
    next.Agrees etagOf := by
  have calls : ∀ call ∈ next.fleet.calls, call.Digested etagOf := by
    have moved := recorder.step_fleet etagOf action
    rw [taken] at moved
    exact Fleet.digested_step agrees.calls moved.symm
  cases Recorder.step_effect owned taken with
  | quiet cache writers served log =>
      refine { calls, entries := ?_, served := ?_, log := ?_ }
      · intro scheduleId etag rows expiresAt found
        rw [writers, served]
        exact agrees.entries scheduleId etag rows expiresAt (cache _ _ found)
      · rw [served]
        exact agrees.served
      · rw [served, log]
        exact agrees.log
  | hit scheduleId etag rows expiresAt found cache writers served log =>
      refine { calls, entries := ?_, served := ?_, log := ?_ }
      · intro other tag stored expiry entry
        rw [cache] at entry
        rw [writers, served]
        exact agrees.entry_mono _ entry
      · obtain ⟨digest, writer, fresh, member, same⟩ :=
          agrees.entries scheduleId etag rows expiresAt found
        rw [served]
        apply agrees.served_append
        refine { content := built_digest digest true, origin := fun _ => ?_ }
        refine ⟨fresh, List.mem_append_left _ member, ?_, ?_, ?_⟩
        · rw [same]
          rfl
        · rw [same]
          exact writer
        · rw [same]
          rfl
      · rw [served, log, List.map_append, List.map_append, agrees.log]
        rfl
  | wrote call etag rows member writing entries served log =>
      have digest : etag = etagOf call.scheduleId rows :=
        agrees.calls call member etag rows writing
      refine { calls, entries := ?_, served := ?_, log := ?_ }
      · intro scheduleId tag stored expiresAt found
        rw [served]
        rcases entries _ _ found with ⟨own, document, writer⟩ | ⟨old, writer⟩
        · have schedule : scheduleId = call.scheduleId :=
            congrArg CacheKey.scheduleId own
          cases document
          subst schedule
          let fresh : Service :=
            { seatmap := built call.scheduleId etag rows false
              rows
              writer := none }
          exact ⟨digest, writer, fresh, by simp [fresh], rfl⟩
        · rw [writer]
          exact agrees.entry_mono _ old
      · rw [served]
        apply agrees.served_append
        exact
          { content := built_digest digest false
            origin := fun cached => by cases cached }
      · rw [served, log, List.map_append, List.map_append, agrees.log]
        rfl

end Recorder.Agrees

/-- The text that the etag of a map is the digest of. -/
def Service.material (service : Service) : List Char :=
  SeatmapService.material service.seatmap.scheduleId service.rows

/--
In every run in which only `get` writes the cache, all maps that were returned
agree with the maps of the writers of their entries.  Where the digests of
their texts do not collide, two maps of one schedule have equal etags exactly
when they were built from equal rows, and maps of different schedules have
different etags and keys.
-/
theorem cached_and_fresh_agree
    {hexdigest : List Char → String} {db : Db} {seats : List Seat}
    {clock : Time} {recorder : Recorder}
    (run :
      TransitionSystem.RunWhere (Recorder.step (etag hexdigest))
        (fun _ action => action.ownsCache = true)
        (Recorder.initial db seats clock) recorder)
    (collisionFree :
      ∀ one ∈ recorder.served, ∀ other ∈ recorder.served,
        hexdigest one.material = hexdigest other.material →
          one.material = other.material) :
    recorder.served.map Service.seatmap =
        recorder.fleet.log.map Served.seatmap ∧
      (∀ service ∈ recorder.served,
        service.Agrees (etag hexdigest) recorder.served) ∧
      (∀ one ∈ recorder.served, ∀ other ∈ recorder.served,
        one.seatmap.scheduleId = other.seatmap.scheduleId →
          (one.seatmap.etag = other.seatmap.etag ↔ one.rows = other.rows)) ∧
      (∀ one ∈ recorder.served, ∀ other ∈ recorder.served,
        one.seatmap.scheduleId ≠ other.seatmap.scheduleId →
          one.seatmap.etag ≠ other.seatmap.etag) ∧
      ∀ scheduleId other, scheduleId ≠ other →
        (cacheKey scheduleId).text ≠ (cacheKey other).text := by
  have agrees : recorder.Agrees (etag hexdigest) :=
    run.invariant (.initial db seats clock)
      fun _ _ _ agrees owned taken => agrees.step owned taken
  have digest :
      ∀ service ∈ recorder.served,
        service.seatmap.etag = hexdigest service.material :=
    fun service member =>
      congrArg Seatmap.etag (agrees.served service member).content
  have told :
      ∀ one ∈ recorder.served, ∀ other ∈ recorder.served,
        one.seatmap.etag = other.seatmap.etag →
          one.seatmap.scheduleId = other.seatmap.scheduleId ∧
            one.rows = other.rows := by
    intro one oneMember other otherMember same
    rw [digest one oneMember, digest other otherMember] at same
    exact material_inj (collisionFree one oneMember other otherMember same)
  refine ⟨agrees.log, agrees.served, ?_, ?_, ?_⟩
  · intro one oneMember other otherMember schedule
    constructor
    · exact fun same => (told one oneMember other otherMember same).2
    · intro rows
      rw [digest one oneMember, digest other otherMember, Service.material,
        Service.material, schedule, rows]
  · intro one oneMember other otherMember apart same
    exact apart (told one oneMember other otherMember same).1
  · exact fun scheduleId other apart same => apart (cacheKey_text_inj same)

/-! ### Two maps of one seat and one without seats -/

/-- The digests of the texts below. -/
def oneSeatDigest (text : List Char) : String :=
  if text = "[1,[[1,\"1층\",\"A\",1,\"VIP\",150000,\"AVAILABLE\"]]]".toList then
    "fd54335170670134fec822de"
  else if text = "[1,[[1,\"1층\",\"A\",1,\"VIP\",150000,\"HELD\"]]]".toList then
    "efb0289d03d5b41c5029b47f"
  else if text = "[2,[]]".toList then "c72e34fc86a544d7391fa1a9"
  else ""

/-- The seat is held while its map is cached; then another schedule is read. -/
def Action.twoSchedules : List Action :=
  Action.miss ++ Action.writeAndHit ++ [.hold, .tick 6000] ++ Action.miss ++
    [.advance 0 .answered, .start 0 2] ++
      List.replicate 5 (.advance 0 .answered)

theorem cached_and_fresh_agree_oneSeat :
    ∃ recorder : Recorder,
      recorder.served.map (·.seatmap.etag) =
          ["fd54335170670134fec822de", "fd54335170670134fec822de",
           "efb0289d03d5b41c5029b47f", "c72e34fc86a544d7391fa1a9"] ∧
        recorder.served.map (·.seatmap.fromCache) =
          [false, true, false, false] ∧
        ∀ service ∈ recorder.served,
          service.Agrees (etag oneSeatDigest) recorder.served := by
  obtain ⟨recorder, run, seen⟩ :=
    TransitionSystem.RunWhere.exists_of_checkedRun
      (Recorder.step (etag oneSeatDigest))
      (fun _ action => action.ownsCache = true)
      (Recorder.initial Fleet.oneSeat.db Fleet.oneSeat.seats 0)
      Action.twoSchedules
      (fun recorder =>
        decide
          (recorder.served.map (·.seatmap.etag) =
              ["fd54335170670134fec822de", "fd54335170670134fec822de",
               "efb0289d03d5b41c5029b47f", "c72e34fc86a544d7391fa1a9"] ∧
            recorder.served.map (·.seatmap.fromCache) =
              [false, true, false, false] ∧
            ∀ one ∈ recorder.served, ∀ other ∈ recorder.served,
              oneSeatDigest one.material = oneSeatDigest other.material →
                one.material = other.material))
      (by decide)
  obtain ⟨etags, cached, collisionFree⟩ := of_decide_eq_true seen
  exact
    ⟨recorder, etags, cached,
      (cached_and_fresh_agree run collisionFree).2.1⟩

end SeatmapService

end Curtain
