import Mathlib.Data.List.AList
import Curtain.Seatmap

/-!
# Venues and the stock of their schedules

A venue is laid out once, row by row.  Opening a schedule expands the seats of
its venue into stock rows, with the grade and the price that a layout gives to
each row of the hall.  Both are single statements on arrays; a row that is
there already is passed over.

No seat and no stock row is ever deleted, and ids come from sequences that
advance for the rows passed over, too.
-/

namespace Curtain

open Table

/-! ## Layouts -/

/-- The definition of one row of a hall. -/
structure RowSpec where
  zone : String
  rowLabel : String
  width : Int
  grade : String
  price : Int
deriving DecidableEq, Repr

structure VenueLayout where
  name : String
  address : String
  rows : List RowSpec
deriving DecidableEq, Repr

namespace VenueLayout

/-- `total_seats`. -/
def totalSeats (layout : VenueLayout) : Int :=
  (layout.rows.map (·.width)).sum

/-- `count_by_grade`; the order of a dictionary's keys plays no part. -/
def countByGrade (layout : VenueLayout) : AList fun _ : String => Int :=
  layout.rows.foldl
    (fun out row =>
      out.insert row.grade ((out.lookup row.grade).getD 0 + row.width)) ∅

end VenueLayout

namespace ScheduleService

/-- `_rows`: one row for each letter. -/
def rows (zone labels : String) (width : Int) (grade : String) (price : Int) :
    List RowSpec :=
  labels.toList.map fun letter =>
    { zone, rowLabel := String.singleton letter, width, grade, price }

/-- `DEMO_HALL`. -/
def demoHall : VenueLayout where
  name := "커튼홀"
  address := "서울시 어딘가"
  rows :=
    rows "1층" "ABC" 40 "VIP" 170000 ++
      rows "1층" "DEFGHIJKLM" 38 "R" 140000 ++
      rows "2층" "ABCDEFGHIJKLMNOPQRST" 35 "S" 110000

end ScheduleService

/-! ## The tables of the halls -/

/-- One row of `venues`. -/
structure Venue where
  id : Nat
  name : String
  address : String
deriving DecidableEq, Repr

/-- One row of `seats`, with its venue. -/
structure VenueSeat extends Seat where
  venueId : Nat
deriving DecidableEq, Repr

/-- The columns of `uq_seat_position`. -/
def VenueSeat.position (seat : VenueSeat) : Nat × String × String × Int :=
  (seat.venueId, seat.zone, seat.rowLabel, seat.colNo)

/-- The halls, the ids of the schedules, and the sequences of the ids. -/
structure Halls where
  venues : List Venue
  seats : List VenueSeat
  schedules : List Nat
  venueSeq : Nat
  seatSeq : Nat
  stockSeq : Nat

/-- The world and the halls that its stock comes from. -/
structure Installation extends World, Halls

/-- What the statements of this module raise. -/
inductive StatementError where
  | dataError (message : String)
  | foreignKeyViolation (constraint : String)
deriving DecidableEq, Repr

/-! ## Parameters -/

/--
The texts that PostgreSQL can store: those without a NUL character.  A text is a
sequence of Unicode characters, and so has no lone surrogates.
-/
def fitsText (value : String) : Bool :=
  value.toList.all (· != Char.ofNat 0)

/-- `_text_array`; a single text is an array of one. -/
def Queries.textArray (values : List String) :
    Except StatementError (List String) :=
  if values.all fitsText then .ok values
  else .error (.dataError "invalid byte sequence for encoding \"UTF8\": 0x00")

/-- `_int_array`. -/
def Queries.intArray (values : List Int) : Except StatementError (List Int) :=
  if values.all fitsInteger then .ok values
  else .error (.dataError "value out of int32 range")

/-! ## The statements -/

namespace Queries

/-- `generate_series`. -/
def generateSeries (start stop : Int) : List Int :=
  (List.range (stop + 1 - start).toNat).map fun offset : Nat => start + offset

def insertVenue (name address : String) (halls : Halls) :
    Except StatementError (Nat × Halls) := do
  let _ ← textArray [name, address]
  let id := halls.venueSeq + 1
  return (id,
    { halls with
      venues := halls.venues ++ [{ id, name, address }]
      venueSeq := id })

/-- The lines of `unnest(…) JOIN LATERAL generate_series(1, width)`. -/
def seatLines (zones rowLabels : List String) (widths : List Int) :
    List (String × String × Int) :=
  (zones.zip (rowLabels.zip widths)).flatMap fun (zone, rowLabel, width) =>
    (generateSeries 1 width).map fun colNo => (zone, rowLabel, colNo)

/-- The seats that `create_venue_seats` would insert, numbered from `seq`. -/
def venueSeats (venueId seq : Nat) (lines : List (String × String × Int)) :
    List VenueSeat :=
  lines.zipIdx.map fun ((zone, rowLabel, colNo), index) =>
    { id := seq + 1 + index, zone, rowLabel, colNo, venueId }

/-- The seats of a venue; the three arrays are as long as each other. -/
def createVenueSeats
    (venueId : Nat) (zones rowLabels : List String) (widths : List Int)
    (halls : Halls) : Except StatementError (List Nat × Halls) := do
  -- The driver refuses an integer before the server sees the texts.
  let widths ← intArray widths
  let zones ← textArray zones
  let rowLabels ← textArray rowLabels
  let lines := seatLines zones rowLabels widths
  let inserted :=
    insertNew VenueSeat.position (venueSeats venueId halls.seatSeq lines)
      halls.seats
  return (inserted.map (·.id),
    { halls with
      seats := halls.seats ++ inserted
      seatSeq := halls.seatSeq + lines.length })

/-- The lines of `seats JOIN unnest(…)` for the seats of a venue. -/
def stockLines
    (venueId : Nat) (zones rowLabels grades : List String) (prices : List Int)
    (seats : List VenueSeat) : List (Nat × String × Int) :=
  let gradePrice := zones.zip (rowLabels.zip (grades.zip prices))
  let lines :=
    join seats gradePrice fun seat (zone, rowLabel, _, _) =>
      zone == seat.zone && rowLabel == seat.rowLabel
  (lines.filter fun (seat, _) => seat.venueId == venueId).map
    fun (seat, _, _, grade, price) => (seat.id, grade, price)

/-- The rows that `expand_schedule_seats` would insert, numbered from `seq`. -/
def stockRows (scheduleId seq : Nat) (lines : List (Nat × String × Int)) :
    List ScheduleSeat :=
  lines.zipIdx.map fun ((seatId, grade, price), index) =>
    { id := seq + 1 + index
      scheduleId
      seatId
      grade
      price
      status := .available
      heldBy := none
      holdExpiresAt := none }

/-- The columns of `uq_schedule_seat`. -/
def scheduleSeat (row : ScheduleSeat) : Nat × Nat :=
  (row.scheduleId, row.seatId)

/-- Expand the seats of a venue into the stock of a schedule. -/
def expandScheduleSeats
    (scheduleId venueId : Nat) (zones rowLabels grades : List String)
    (prices : List Int) (installation : Installation) :
    Except StatementError (List Nat × Installation) := do
  let prices ← intArray prices
  let zones ← textArray zones
  let rowLabels ← textArray rowLabels
  let grades ← textArray grades
  let lines :=
    stockLines venueId zones rowLabels grades prices installation.seats
  let inserted :=
    insertNew scheduleSeat
      (stockRows scheduleId installation.stockSeq lines)
      installation.db.scheduleSeats
  if inserted ≠ [] ∧ scheduleId ∉ installation.schedules then
    .error
      (.foreignKeyViolation "fk_schedule_seats_schedule_id_schedules")
  else
    return (inserted.map (·.id),
      { installation with
        db :=
          { installation.db with
            scheduleSeats := installation.db.scheduleSeats ++ inserted }
        stockSeq := installation.stockSeq + lines.length })

end Queries

/-! ## The service -/

namespace ScheduleService

/-- The venue with its seats; the result is its id. -/
def createVenue (layout : VenueLayout) (halls : Halls) :
    Except StatementError (Nat × Halls) := do
  let (venueId, halls) ←
    Queries.insertVenue layout.name layout.address halls
  let (_, halls) ←
    Queries.createVenueSeats venueId (layout.rows.map (·.zone))
      (layout.rows.map (·.rowLabel)) (layout.rows.map (·.width)) halls
  return (venueId, halls)

/-- The number of new stock rows. -/
def expandScheduleSeats (scheduleId venueId : Nat) (layout : VenueLayout)
    (installation : Installation) :
    Except StatementError (Nat × Installation) := do
  let (created, installation) ←
    Queries.expandScheduleSeats scheduleId venueId
      (layout.rows.map (·.zone)) (layout.rows.map (·.rowLabel))
      (layout.rows.map (·.grade)) (layout.rows.map (·.price)) installation
  return (created.length, installation)

end ScheduleService

/-! ## Runs -/

namespace Installation

/-- The steps of the world, and the committed calls of the schedule service. -/
inductive Action where
  | world (action : Curtain.Action)
  | createVenue (layout : VenueLayout)
  | expandScheduleSeats (scheduleId venueId : Nat) (layout : VenueLayout)
deriving DecidableEq, Repr

/-- One step; a transaction that raises is rolled back. -/
def step (installation : Installation) : Action → Option Installation
  | .world action =>
      (installation.toWorld.step action).map fun world =>
        { installation with toWorld := world }
  | .createVenue layout =>
      match ScheduleService.createVenue layout installation.toHalls with
      | .ok (_, halls) => some { installation with toHalls := halls }
      | .error _ => some installation
  | .expandScheduleSeats scheduleId venueId layout =>
      match
        ScheduleService.expandScheduleSeats scheduleId venueId layout
          installation
      with
      | .ok (_, after) => some after
      | .error _ => some installation

end Installation

end Curtain
