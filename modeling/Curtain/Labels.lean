import Curtain.Lib.Json
import Curtain.Lib.Separated
import Curtain.Venues

/-!
# The names of the seats

A seat map names each seat by its zone, its row and its number.  The number can
always be read off a name.  The zone and the row are free texts with a space in
between, and a zone or a row with spaces of its own can be cut at the wrong one.
-/

namespace Curtain

open Table Separated

namespace SeatmapService

/-! ## What a label says -/

/-- The characters of a label. -/
theorem label_toList (zone rowLabel : String) (colNo : Int) :
    (label zone rowLabel colNo).toList =
      joined ' ' (joined ' ' zone.toList rowLabel.toList ++ ['열'])
        (Json.intText colNo ++ ['번']) := by
  have plain : ∀ part : String, toString part = part := fun _ => rfl
  rw [← Json.toList_toString]
  simp [label, plain, joined]

/-- There is no space in the number at the end of a label. -/
theorem space_not_mem_number (colNo : Int) :
    ' ' ∉ Json.intText colNo ++ ['번'] := by
  intro member
  rcases List.mem_append.mp member with number | last
  · rcases Json.intText_chars colNo ' ' number with digit | minus
    · cases digit
    · exact absurd minus (by decide)
  · exact absurd (List.mem_singleton.mp last) (by decide)

/-- Two labels agree in the number and in the zone joined to the row. -/
theorem label_eq_iff
    {zone rowLabel otherZone otherRow : String} {colNo otherCol : Int} :
    label zone rowLabel colNo = label otherZone otherRow otherCol ↔
      colNo = otherCol ∧
        joined ' ' zone.toList rowLabel.toList =
          joined ' ' otherZone.toList otherRow.toList := by
  rw [← String.toList_inj, label_toList, label_toList,
    joined_inj (space_not_mem_number colNo) (space_not_mem_number otherCol),
    List.append_left_inj, List.append_left_inj, Json.intText_injective.eq_iff]
  exact And.comm

end SeatmapService

/-- The label of a seat. -/
def Seat.label (seat : Seat) : String :=
  SeatmapService.label seat.zone seat.rowLabel seat.colNo

/-- What stands at the end of the one zone stands at the front of the other row. -/
def Seat.Displaced (left right : Seat) : Prop :=
  Shifted ' ' left.zone.toList left.rowLabel.toList
    right.zone.toList right.rowLabel.toList

/--
The seats have the same number, and the zone of one of them goes on with words
with which the row of the other one begins.
-/
def Seat.Confusable (left right : Seat) : Prop :=
  left.colNo = right.colNo ∧ (left.Displaced right ∨ right.Displaced left)

namespace Seat

variable {left right : Seat}

theorem Confusable.label_eq (confusable : left.Confusable right) :
    left.label = right.label := by
  obtain ⟨sameNumber, displaced⟩ := confusable
  refine SeatmapService.label_eq_iff.mpr ⟨sameNumber, ?_⟩
  rcases displaced with shifted | shifted
  · exact shifted.joined_eq
  · exact shifted.joined_eq.symm

theorem Confusable.zone_ne (confusable : left.Confusable right) :
    left.zone ≠ right.zone := by
  intro same
  rcases confusable.2 with shifted | shifted
  · exact shifted.left_ne (congrArg String.toList same)
  · exact shifted.left_ne (congrArg String.toList same.symm)

/-- In a hall whose rows have no spaces no seats are confusable. -/
theorem Confusable.space_mem (confusable : left.Confusable right) :
    ' ' ∈ left.rowLabel.toList ∨ ' ' ∈ right.rowLabel.toList := by
  rcases confusable.2 with shifted | shifted
  · exact Or.inr shifted.mem_right
  · exact Or.inl shifted.mem_right

/-- Seats with one name are at one position, or they are confusable. -/
theorem label_eq_cases (same : left.label = right.label) :
    (left.zone = right.zone ∧ left.rowLabel = right.rowLabel ∧
        left.colNo = right.colNo) ∨
      left.Confusable right := by
  obtain ⟨sameNumber, texts⟩ := SeatmapService.label_eq_iff.mp same
  rcases joined_eq_iff.mp texts with ⟨zones, rows⟩ | displaced
  · exact Or.inl ⟨String.toList_inj.mp zones, String.toList_inj.mp rows, sameNumber⟩
  · exact Or.inr ⟨sameNumber, displaced⟩

end Seat

/-! ## The seats of a venue -/

/-- The rows of a schedule are of seats of the venue. -/
def Db.Stocks (db : Db) (scheduleId venueId : Nat) (seats : List VenueSeat) :
    Prop :=
  ∀ row ∈ db.scheduleSeats, row.scheduleId = scheduleId →
    ∀ seat ∈ seats, seat.id = row.seatId → seat.venueId = venueId

/-- Each seat of the venue has a name of its own, in every seat map, too. -/
structure NamedApart (seats : List VenueSeat) (venueId : Nat) : Prop where
  labels :
    ∀ left ∈ seats, ∀ right ∈ seats,
      left.venueId = venueId → right.venueId = venueId →
        left.position ≠ right.position →
          left.toSeat.label ≠ right.toSeat.label
  seatmap :
    ∀ db scheduleId,
      Db.Stocks db scheduleId venueId seats →
        ∀ left ∈ SeatmapService.toSeats
            (Queries.seatmap scheduleId (seats.map (·.toSeat)) db),
          ∀ right ∈ SeatmapService.toSeats
              (Queries.seatmap scheduleId (seats.map (·.toSeat)) db),
            left.seatId ≠ right.seatId → left.label ≠ right.label

section Venue

variable {seats : List VenueSeat} {venueId : Nat}

/-- A cell of a seat map names the seat of its stock row. -/
theorem SeatmapService.mem_toSeats {scheduleId : Nat} {db : Db}
    {cell : SeatCell}
    (member :
      cell ∈ toSeats (Queries.seatmap scheduleId (seats.map (·.toSeat)) db)) :
    ∃ row ∈ db.scheduleSeats, row.scheduleId = scheduleId ∧
      ∃ seat ∈ seats, seat.id = row.seatId ∧
        cell.seatId = seat.id ∧ cell.label = seat.toSeat.label := by
  obtain ⟨line, lineMember, rfl⟩ := List.mem_map.mp member
  rw [Queries.seatmap, List.mem_insertionSort, List.mem_flatMap] at lineMember
  obtain ⟨row, rowMember, lineOfRow⟩ := lineMember
  obtain ⟨seat, seatMember, rfl⟩ := List.mem_map.mp lineOfRow
  obtain ⟨inStock, schedule⟩ := List.mem_filter.mp rowMember
  obtain ⟨listed, own⟩ := List.mem_filter.mp seatMember
  obtain ⟨venueSeat, venueMember, rfl⟩ := List.mem_map.mp listed
  have sameId := beq_iff_eq.mp own
  exact
    ⟨row, inStock, beq_iff_eq.mp schedule, venueSeat, venueMember, sameId,
      sameId.symm, rfl⟩

/--
The seats of a venue are named apart exactly when no two of them are
confusable.
-/
theorem named_apart_iff (unique : Unique VenueSeat.position seats) :
    NamedApart seats venueId ↔
      ∀ left ∈ seats, ∀ right ∈ seats,
        left.venueId = venueId → right.venueId = venueId →
          ¬ left.toSeat.Confusable right.toSeat := by
  constructor
  · intro apart left leftMember right rightMember leftVenue rightVenue confusable
    refine
      apart.labels left leftMember right rightMember leftVenue rightVenue ?_
        confusable.label_eq
    intro same
    simp only [VenueSeat.position, Prod.mk.injEq] at same
    exact confusable.zone_ne same.2.1
  · intro never
    have labels :
        ∀ left ∈ seats, ∀ right ∈ seats,
          left.venueId = venueId → right.venueId = venueId →
            left.position ≠ right.position →
              left.toSeat.label ≠ right.toSeat.label := by
      intro left leftMember right rightMember leftVenue rightVenue differ same
      rcases Seat.label_eq_cases same with ⟨zones, rows, numbers⟩ | confusable
      · apply differ
        simp only [VenueSeat.position, leftVenue, rightVenue, zones, rows,
          numbers]
      · exact
          never left leftMember right rightMember leftVenue rightVenue
            confusable
    refine { labels, seatmap := ?_ }
    intro db scheduleId stocks left leftMember right rightMember differ
    obtain ⟨leftRow, leftStock, leftOf, leftSeat, leftListed, leftId, leftCell, leftLabel⟩ :=
      SeatmapService.mem_toSeats leftMember
    obtain ⟨rightRow, rightStock, rightOf, rightSeat, rightListed, rightId, rightCell,
      rightLabel⟩ := SeatmapService.mem_toSeats rightMember
    rw [leftLabel, rightLabel]
    refine
      labels leftSeat leftListed rightSeat rightListed
        (stocks leftRow leftStock leftOf leftSeat leftListed leftId)
        (stocks rightRow rightStock rightOf rightSeat rightListed rightId) ?_
    intro same
    rw [leftCell, rightCell, unique.eq leftListed rightListed same] at differ
    exact differ rfl

end Venue

/-- A hall whose balcony has a row that is named like a zone. -/
def balconySeats : List VenueSeat :=
  [{ id := 1, zone := "2층 발코니", rowLabel := "A", colNo := 1, venueId := 1 },
   { id := 2, zone := "2층", rowLabel := "발코니 A", colNo := 1, venueId := 1 }]

/-- The first rows of the two floors are no trouble. -/
theorem named_apart_iff_floors :
    NamedApart
      [{ id := 1, zone := "1층", rowLabel := "A", colNo := 1, venueId := 1 },
       { id := 2, zone := "2층", rowLabel := "A", colNo := 1, venueId := 1 }]
      1 := by
  refine (named_apart_iff (by decide)).mpr ?_
  intro left leftMember right rightMember _ _ confusable
  have rows :
      ∀ seat ∈ ([
          { id := 1, zone := "1층", rowLabel := "A", colNo := 1, venueId := 1 },
          { id := 2, zone := "2층", rowLabel := "A", colNo := 1, venueId := 1 }] :
          List VenueSeat),
        ' ' ∉ seat.rowLabel.toList := by decide
  rcases confusable.space_mem with space | space
  · exact rows left leftMember space
  · exact rows right rightMember space

/-- Two seats of the balcony have one name. -/
theorem named_apart_fails :
    ¬ ∀ (seats : List VenueSeat) (venueId : Nat),
        Unique VenueSeat.position seats → NamedApart seats venueId := by
  intro claim
  have apart := claim balconySeats 1 (by decide)
  refine
    apart.labels _ List.mem_cons_self _
      (List.mem_cons_of_mem _ List.mem_cons_self) rfl rfl (by decide)
      (Seat.Confusable.label_eq ⟨rfl, Or.inl ⟨"발코니".toList, ?_, ?_⟩⟩)
  · decide
  · decide

end Curtain
