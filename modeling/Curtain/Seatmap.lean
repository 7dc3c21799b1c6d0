import Curtain.World

/-!
# The seat map and its cache

Any number of server processes serve the seat map of a schedule from one cache
with a time to live, and read the database when the cache misses.  A call of
`get` is a sequence of round trips; other calls and the commits that change
seats may come between any two of them.  The lock of a call excludes the calls
of its own process and event loop only.
-/

namespace Curtain

open Table

/-! ## The query -/

/-- One row of `seats`: where a seat is in the hall. -/
structure Seat where
  id : Nat
  zone : String
  rowLabel : String
  colNo : Int
deriving DecidableEq, Repr

/-- One line of the `seatmap` query, as the cache stores it. -/
structure SeatmapRow where
  seatId : Nat
  zone : String
  rowLabel : String
  colNo : Int
  grade : String
  price : Int
  status : String
deriving DecidableEq, Repr

/-- `ORDER BY zone, row_label, col_no`, texts in the order of code points. -/
def SeatmapRow.before (left right : SeatmapRow) : Prop :=
  left.zone < right.zone ∨
    (left.zone = right.zone ∧
      (left.rowLabel < right.rowLabel ∨
        (left.rowLabel = right.rowLabel ∧ left.colNo ≤ right.colNo)))

instance (left right : SeatmapRow) : Decidable (left.before right) :=
  inferInstanceAs (Decidable (_ ∨ _))

/-- The seats of a schedule and where they are. -/
def Queries.seatmap (scheduleId : Nat) (seats : List Seat) (db : Db) :
    List SeatmapRow :=
  let rows :=
    (db.scheduleSeats.filter (·.scheduleId == scheduleId)).flatMap fun row =>
      (seats.filter (·.id == row.seatId)).map fun seat =>
        { seatId := row.seatId
          zone := seat.zone
          rowLabel := seat.rowLabel
          colNo := seat.colNo
          grade := row.grade
          price := row.price
          status := row.status.text }
  rows.insertionSort SeatmapRow.before

namespace SeatmapService

/-! ## The cache -/

structure SeatCell where
  seatId : Nat
  label : String
  grade : String
  price : Int
  status : String
deriving DecidableEq, Repr

structure Seatmap where
  scheduleId : Nat
  etag : String
  seats : List SeatCell
  fromCache : Bool
deriving DecidableEq, Repr

/-- `_label`. -/
def label (zone rowLabel : String) (colNo : Int) : String :=
  s!"{zone} {rowLabel}열 {colNo}번"

/-- `_to_seats`. -/
def toSeats (rows : List SeatmapRow) : List SeatCell :=
  rows.map fun row =>
    { seatId := row.seatId
      label := label row.zone row.rowLabel row.colNo
      grade := row.grade
      price := row.price
      status := row.status }

/-- `seatmap:{schedule_id}:v1`. -/
structure CacheKey where
  scheduleId : Nat
  version : String
deriving DecidableEq, Repr

/-- `_cache_key`. -/
def cacheKey (scheduleId : Nat) : CacheKey :=
  { scheduleId, version := "v1" }

/-- What a key may hold: a document of this version, or anything else. -/
inductive Payload where
  | document (etag : String) (rows : List SeatmapRow)
  | malformed
deriving DecidableEq, Repr

abbrev Cache := KeyStore.Store CacheKey Payload

/-- The milliseconds that `cache_set_json` passes to the store. -/
def ttlMs (ttlSec : Int) : Int :=
  max 1 (ttlSec * 1000)

/-- `_cache_read`: a cache that does not answer has nothing. -/
def cacheRead (now : Time) (scheduleId : Nat) (io : GateIo) (cache : Cache) :
    Option Seatmap :=
  if io = .answered then
    match KeyStore.get now cache (cacheKey scheduleId) with
    | some (.document etag rows) =>
        some { scheduleId, etag, seats := toSeats rows, fromCache := true }
    | _ => none
  else none

/-- `_cache_write`, whose failure nobody notices. -/
def cacheWrite (now : Time) (scheduleId : Nat) (etag : String)
    (rows : List SeatmapRow) (io : GateIo) (cache : Cache) : Cache :=
  if io = .unreachable then cache
  else
    KeyStore.set now (ttlMs Policy.seatmapCacheTtlSec) (cacheKey scheduleId)
      (.document etag rows) cache

/-! ## Calls in progress -/

/-- The round trips of `get`; from `rereading` on it has the lock. -/
inductive Stage where
  | reading
  | waiting
  | rereading
  | querying
  | writing (etag : String) (rows : List SeatmapRow)
deriving DecidableEq, Repr

/-- The call is inside of `async with`. -/
def Stage.locked : Stage → Bool
  | .reading => false
  | .waiting => false
  | _ => true

/-- A call of `get` in progress, on the event loop of some process. -/
structure Get where
  loop : Nat
  scheduleId : Nat
  stage : Stage
deriving DecidableEq, Repr

/-- What a call of `get` returned, and when it did. -/
structure Served where
  time : Time
  seatmap : Seatmap
deriving DecidableEq, Repr

/-- The database, the cache, the calls of all processes and what they returned. -/
structure Fleet where
  clock : Time
  db : Db
  seats : List Seat
  cache : Cache
  calls : List Get
  log : List Served

/--
`change` commits any change of the seats.  A call may `fail` at any point, and
the cache may lose everything or come to hold something else.
-/
inductive Action where
  | tick (elapsed : Nat)
  | change (after : Db)
  | start (loop scheduleId : Nat)
  | advance (call : Nat) (io : GateIo)
  | fail (call : Nat)
  | garble (scheduleId : Nat) (ttl : Int)
  | flushall

namespace Fleet

/-- The rows of a schedule in the committed database. -/
def rows (fleet : Fleet) (scheduleId : Nat) : List SeatmapRow :=
  Queries.seatmap scheduleId fleet.seats fleet.db

def goOn (fleet : Fleet) (index : Nat) (call : Get) (stage : Stage) : Fleet :=
  { fleet with calls := fleet.calls.set index { call with stage } }

def serve (fleet : Fleet) (index : Nat) (seatmap : Seatmap) : Fleet :=
  { fleet with
    calls := fleet.calls.eraseIdx index
    log := fleet.log ++ [{ time := fleet.clock, seatmap }] }

/-- Another call of the loop has the lock of the schedule. -/
def busy (fleet : Fleet) (call : Get) : Bool :=
  fleet.calls.any fun other =>
    other.loop == call.loop && other.scheduleId == call.scheduleId &&
      other.stage.locked

/-- Return what the cache has, or go on. -/
def consult (fleet : Fleet) (index : Nat) (call : Get) (io : GateIo)
    (otherwise : Stage) : Fleet :=
  match cacheRead fleet.clock call.scheduleId io fleet.cache with
  | some seatmap => fleet.serve index seatmap
  | none => fleet.goOn index call otherwise

/-- The next round trip of a call; `etagOf` is the digest of `_etag`. -/
def advance (etagOf : Nat → List SeatmapRow → String) (fleet : Fleet)
    (index : Nat) (io : GateIo) (call : Get) : Option Fleet :=
  match call.stage with
  | .reading => some (fleet.consult index call io .waiting)
  | .waiting =>
      if fleet.busy call then none else some (fleet.goOn index call .rereading)
  | .rereading => some (fleet.consult index call io .querying)
  | .querying =>
      let rows := fleet.rows call.scheduleId
      some (fleet.goOn index call (.writing (etagOf call.scheduleId rows) rows))
  | .writing etag rows =>
      let written :=
        { fleet with
          cache :=
            cacheWrite fleet.clock call.scheduleId etag rows io fleet.cache }
      some
        (written.serve index
          { scheduleId := call.scheduleId
            etag
            seats := toSeats rows
            fromCache := false })

def step (etagOf : Nat → List SeatmapRow → String) (fleet : Fleet) :
    Action → Option Fleet
  | .tick elapsed => some { fleet with clock := fleet.clock + elapsed }
  | .change after => some { fleet with db := after }
  | .start loop scheduleId =>
      some
        { fleet with
          calls := fleet.calls ++ [{ loop, scheduleId, stage := .reading }] }
  | .advance index io =>
      (fleet.calls[index]?).bind (fleet.advance etagOf index io)
  | .fail index => some { fleet with calls := fleet.calls.eraseIdx index }
  | .garble scheduleId ttl =>
      some
        { fleet with
          cache :=
            KeyStore.set fleet.clock ttl (cacheKey scheduleId) .malformed
              fleet.cache }
  | .flushall => some { fleet with cache := fun _ => none }

/-- The processes before the first call. -/
def initial (db : Db) (seats : List Seat) (clock : Time) : Fleet where
  clock := clock
  db := db
  seats := seats
  cache := fun _ => none
  calls := []
  log := []

end Fleet

end SeatmapService

end Curtain
