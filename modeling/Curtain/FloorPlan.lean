import Mathlib.Data.Prod.Lex
import Mathlib.Data.String.Basic
import Curtain.Expansion

/-!
# What the seat map shows of a hall

The seat map of a schedule is read from its stock and the seats of its venue.
For a schedule that was opened for a layout it lists the cells of the layout,
place after place, whatever is sold in the meantime: only the statuses change.
-/

namespace Curtain

open Table

/-! ## Places in order -/

/-- What a line shows of its cell. -/
def SeatmapRow.cell (row : SeatmapRow) : Cell where
  zone := row.zone
  rowLabel := row.rowLabel
  colNo := row.colNo
  grade := row.grade
  price := row.price

/-- What `ORDER BY zone, row_label, col_no` compares. -/
def Cell.rank (cell : Cell) : String ×ₗ String ×ₗ Int :=
  toLex (cell.zone, toLex (cell.rowLabel, cell.colNo))

theorem Cell.rank_eq_iff {left right : Cell} :
    left.rank = right.rank ↔ left.place = right.place := by
  simp [rank, place]

theorem SeatmapRow.before_iff {left right : SeatmapRow} :
    left.before right ↔ left.cell.rank ≤ right.cell.rank := by
  rw [Cell.rank, Cell.rank, Prod.Lex.le_iff]
  simp only [ofLex_toLex, Prod.Lex.le_iff]
  rfl

instance : Std.Total SeatmapRow.before :=
  ⟨fun left right => by
    rw [SeatmapRow.before_iff, SeatmapRow.before_iff]
    exact le_total _ _⟩

instance : IsTrans SeatmapRow SeatmapRow.before :=
  ⟨fun first second third early late => by
    rw [SeatmapRow.before_iff] at early late ⊢
    exact early.trans late⟩

instance : Std.Total fun left right : Cell => left.rank ≤ right.rank :=
  ⟨fun left right => le_total left.rank right.rank⟩

instance : IsTrans Cell fun left right => left.rank ≤ right.rank :=
  ⟨fun _ _ _ => le_trans⟩

/-- The cells of a layout, place after place. -/
def VenueLayout.plan (layout : VenueLayout) : List Cell :=
  layout.cells.insertionSort fun left right => left.rank ≤ right.rank

/-! ## The lines of a seat map -/

namespace Installation

/-- The seat map of a schedule, as the query reads it. -/
def seatmap (installation : Installation) (scheduleId : Nat) :
    List SeatmapRow :=
  Queries.seatmap scheduleId (installation.seats.map VenueSeat.toSeat)
    installation.db

/-- The line of a stock row, whose seat is where `seats` says. -/
def drawn (installation : Installation) (row : ScheduleSeat) :
    Option SeatmapRow :=
  (lookup (fun seat : VenueSeat => seat.id) row.seatId installation.seats).map
    fun seat =>
      { seatId := row.seatId
        zone := seat.zone
        rowLabel := seat.rowLabel
        colNo := seat.colNo
        grade := row.grade
        price := row.price
        status := row.status.text }

/-- The seat of a stock item and its cell. -/
def placed (installation : Installation) (stock : Stock) : Option (Nat × Cell) :=
  (installation.cellAt (stock.seatId, stock.grade, stock.price)).map
    fun cell => (stock.seatId, cell)

section Lines

variable {installation : Installation} {scheduleId : Nat} {row : ScheduleSeat}

theorem drawn_cell :
    (installation.drawn row).map SeatmapRow.cell = installation.cellOf row := by
  rw [drawn, cellOf, Option.map_map]
  rfl

theorem drawn_fixed :
    (installation.drawn row).map (fun line => (line.seatId, line.cell)) =
      installation.placed row.stock := by
  rw [drawn, placed, cellAt, Option.map_map, Option.map_map]
  rfl

theorem placed_cell :
    (installation.placed row.stock).map Prod.snd = installation.cellOf row := by
  rw [placed, Option.map_map]
  exact Option.map_id'

theorem map_placed (rows : List ScheduleSeat) :
    (rows.map ScheduleSeat.stock).map
        (fun stock => (installation.placed stock).map Prod.snd) =
      rows.map installation.cellOf := by
  rw [List.map_map]
  exact List.map_congr_left fun row _ => placed_cell

/-- A stock row has one line, since ids of seats are unique. -/
theorem seatmap_eq (sound : installation.toHalls.Sound) :
    installation.seatmap scheduleId =
      ((installation.rowsOf scheduleId).filterMap
        installation.drawn).insertionSort SeatmapRow.before := by
  rw [seatmap, Queries.seatmap, List.filterMap_eq_flatMap_toList]
  congr 1
  apply List.flatMap_congr
  intro row _
  rw [List.filter_map, List.map_map, drawn]
  cases found :
    lookup (fun seat : VenueSeat => seat.id) row.seatId installation.seats with
  | none =>
      have missing := lookup_eq_none.mp found
      rw [List.filter_eq_nil_iff.mpr]
      · rfl
      · exact fun seat member same => missing seat member (beq_iff_eq.mp same)
  | some seat =>
      obtain ⟨member, same⟩ := lookup_mem found
      have only :
          installation.seats.filter
              ((fun other : Seat => other.id == row.seatId) ∘
                VenueSeat.toSeat) = [seat] := by
        rw [← same]
        exact sound.idUnique.filter_eq_singleton member
      rw [only]
      rfl

/-- Seats and cells stand in the order of the places. -/
theorem seatmap_fixed (sound : installation.toHalls.Sound) :
    (installation.seatmap scheduleId).map (fun line => (line.seatId, line.cell)) =
      (((installation.rowsOf scheduleId).map ScheduleSeat.stock).filterMap
        installation.placed).insertionSort
          fun left right => left.2.rank ≤ right.2.rank := by
  rw [seatmap_eq sound,
    List.map_insertionSort SeatmapRow.before
      (fun left right : Nat × Cell => left.2.rank ≤ right.2.rank) _ _
      fun _ _ _ _ => SeatmapRow.before_iff,
    List.map_filterMap, List.filterMap_map]
  congr 1
  exact List.filterMap_congr fun row _ => drawn_fixed

/-- The cells of the lines, if every stock row has its own cell of the layout. -/
theorem seatmap_cells {layout : VenueLayout} (sound : installation.toHalls.Sound)
    (cells :
      ((installation.rowsOf scheduleId).map installation.cellOf).Perm
        (layout.cells.map some))
    (places : (layout.cells.map Cell.place).Nodup) :
    (installation.seatmap scheduleId).map SeatmapRow.cell = layout.plan := by
  rw [seatmap_eq sound,
    List.map_insertionSort SeatmapRow.before
      (fun left right : Cell => left.rank ≤ right.rank) _ _
      fun _ _ _ _ => SeatmapRow.before_iff,
    List.map_filterMap, VenueLayout.plan]
  have described :
      (installation.rowsOf scheduleId).filterMap
          (fun row => (installation.drawn row).map SeatmapRow.cell) =
        ((installation.rowsOf scheduleId).map installation.cellOf).filterMap
          id := by
    rw [List.filterMap_map]
    exact List.filterMap_congr fun row _ => drawn_cell
  rw [described]
  apply insertionSort_eq_of_perm
  · have all : (layout.cells.map some).filterMap id = layout.cells := by
      rw [List.filterMap_map]
      exact List.filterMap_some
    have shown := cells.filterMap id
    rwa [all] at shown
  · intro left leftMember right rightMember forth back
    have tied := Cell.rank_eq_iff.mp (le_antisymm forth back)
    exact List.inj_on_of_nodup_map places leftMember rightMember tied

/-- The statuses of the lines, if every stock row has a line. -/
theorem seatmap_statuses (sound : installation.toHalls.Sound)
    (drawn :
      ∀ row ∈ installation.rowsOf scheduleId,
        (installation.drawn row).isSome = true) :
    ((installation.seatmap scheduleId).map
        fun line => (line.seatId, line.status)).Perm
      ((installation.rowsOf scheduleId).map
        fun row => (row.seatId, row.status.text)) := by
  rw [seatmap_eq sound]
  refine ((List.perm_insertionSort _ _).map _).trans (List.Perm.of_eq ?_)
  rw [List.map_filterMap, ← List.filterMap_eq_map]
  apply List.filterMap_congr
  intro row member
  obtain ⟨line, found⟩ := Option.isSome_iff_exists.mp (drawn row member)
  obtain ⟨seat, -, rfl⟩ := Option.map_eq_some_iff.mp found
  rw [found]
  rfl

end Lines

/-! ## Runs -/

section Runs

variable {installation next opened later : Installation} {action : Action}
variable {layout : VenueLayout} {scheduleId venueId : Nat}

/-- Seats stay where they are. -/
theorem seats_step (taken : installation.step action = some next) :
    installation.seats ⊆ next.seats := by
  cases steps_of_step taken with
  | world | expanded | raised => exact List.Subset.refl _
  | venue => exact List.subset_append_left _ _

theorem seats_run
    (run :
      TransitionSystem.RunWhere Installation.step
        (opensFor scheduleId venueId) opened later) :
    opened.seats ⊆ later.seats := by
  induction run with
  | refl => exact List.Subset.refl _
  | tail _ _ taken induction =>
      exact List.Subset.trans induction (seats_step taken)

/-- A stock item whose seat is known has its cell in every later state. -/
theorem placed_later (sound : later.toHalls.Sound)
    (grown : opened.seats ⊆ later.seats) {stock : Stock}
    (known : (opened.placed stock).isSome = true) :
    later.placed stock = opened.placed stock := by
  obtain ⟨line, found⟩ := Option.isSome_iff_exists.mp known
  obtain ⟨cell, described, -⟩ := Option.map_eq_some_iff.mp found
  obtain ⟨seat, looked, -⟩ := Option.map_eq_some_iff.mp described
  obtain ⟨member, same⟩ := lookup_mem looked
  have still :
      lookup (fun seat : VenueSeat => seat.id) stock.seatId later.seats =
        some seat :=
    (lookup_eq_some sound.idUnique).mpr ⟨grown member, same⟩
  rw [placed, placed, cellAt, cellAt, looked, still]

/--
From the opening of a schedule on, its seat map lists the cells of the layout in
the order of the places, each with one and the same seat, and with the status
that the seat has in the stock.
-/
theorem seatmap_follows_layout {installation before : Installation}
    (sound : installation.toHalls.Sound) (wellFormed : layout.WellFormed)
    {halls : Halls}
    (created :
      ScheduleService.createVenue layout installation.toHalls =
        .ok (venueId, halls))
    (run :
      TransitionSystem.Reachable step { installation with toHalls := halls }
        before)
    (fresh : before.Fresh scheduleId) {count : Nat}
    (ok :
      ScheduleService.expandScheduleSeats scheduleId venueId layout before =
        .ok (count, opened))
    (rest :
      TransitionSystem.RunWhere step (opensFor scheduleId venueId) opened later) :
    (later.seatmap scheduleId).map SeatmapRow.cell = layout.plan ∧
      (later.seatmap scheduleId).map (·.seatId) =
        (opened.seatmap scheduleId).map (·.seatId) ∧
      ((later.seatmap scheduleId).map
          fun line => (line.seatId, line.status)).Perm
        ((later.rowsOf scheduleId).map
          fun row => (row.seatId, row.status.text)) := by
  obtain ⟨-, equal⟩ := ScheduleService.createVenue_ok.mp created
  cases equal
  have laid := laid_run sound wellFormed run
  have storable := ScheduleService.storable_of_expandScheduleSeats ok
  rw [fresh.expand storable] at ok
  cases ok
  have opens := fresh.opens laid wellFormed
  have openedStocked := fresh.stocked laid wellFormed
  have stocked := openedStocked.run rest
  generalize before.expanded scheduleId (installation.venueSeq + 1) layout =
    opened at *
  have openedSound := openedStocked.laid.sound
  have laterSound := stocked.laid.sound
  have sameStock := stocked.rowsOf
  have known :
      ∀ row ∈ opened.rowsOf scheduleId,
        (opened.placed row.stock).isSome = true := by
    intro row member
    obtain ⟨cell, -, found⟩ :=
      List.mem_map.mp (opens.cells.subset (List.mem_map_of_mem member))
    rw [← placed_cell] at found
    obtain ⟨line, placed, -⟩ := Option.map_eq_some_iff.mp found.symm
    rw [placed]
    rfl
  have still :
      ∀ stock ∈ (opened.rowsOf scheduleId).map ScheduleSeat.stock,
        later.placed stock = opened.placed stock := by
    intro stock member
    obtain ⟨row, rowMember, rfl⟩ := List.mem_map.mp member
    exact placed_later laterSound (seats_run rest) (known row rowMember)
  refine ⟨?_, ?_, ?_⟩
  · refine seatmap_cells laterSound ?_ opens.places
    have same :
        (later.rowsOf scheduleId).map later.cellOf =
          (opened.rowsOf scheduleId).map opened.cellOf := by
      rw [← map_placed, ← map_placed, sameStock]
      exact List.map_congr_left fun stock member => by rw [still stock member]
    rw [same]
    exact opens.cells
  · have fixed :
        (later.seatmap scheduleId).map (fun line => (line.seatId, line.cell)) =
          (opened.seatmap scheduleId).map
            fun line => (line.seatId, line.cell) := by
      rw [seatmap_fixed laterSound, seatmap_fixed openedSound, sameStock,
        List.filterMap_congr still]
    have ids := congrArg (List.map Prod.fst) fixed
    rwa [List.map_map, List.map_map] at ids
  · refine seatmap_statuses laterSound fun row member => ?_
    have listed := List.mem_map_of_mem (f := ScheduleSeat.stock) member
    rw [sameStock] at listed
    obtain ⟨first, firstMember, equal⟩ := List.mem_map.mp listed
    have shown := known first firstMember
    rwa [equal, ← still _ listed, ← drawn_fixed, Option.isSome_map] at shown

end Runs

/-! ### A hall of three seats -/

/-- The rows of the layout are not in the order of the seat map. -/
def threeSeats : VenueLayout where
  name := "작은 홀"
  address := "서울시 어딘가"
  rows :=
    [{ zone := "2층", rowLabel := "A", width := 1, grade := "S", price := 110000 },
     { zone := "1층", rowLabel := "A", width := 2, grade := "VIP"
       price := 170000 }]

/-- The second seat of the first floor is held. -/
def holdSecond : List Action :=
  [.world (.startAcquire { scheduleId := 2, userId := 7, seatIds := [4] }),
   .world (.gate 0 .answered),
   .world (.advance 0)]

theorem wellFormed_threeSeats : threeSeats.WellFormed where
  widths := by decide
  distinct := by decide

theorem seatmap_follows_layout_held :
    ∃ later : Installation,
      (later.seatmap 2).map SeatmapRow.cell = threeSeats.plan ∧
        (later.seatmap 2).map (fun line => (line.seatId, line.status)) =
          [(3, "AVAILABLE"), (4, "HELD"), (2, "AVAILABLE")] := by
  let before : Installation :=
    { oneSeat with toHalls := oneSeat.toHalls.withVenue threeSeats }
  have fresh : before.Fresh 2 := by decide
  obtain ⟨later, rest, seen⟩ :=
    TransitionSystem.RunWhere.exists_of_checkedRun step (opensFor 2 2)
      (before.expanded 2 2 threeSeats) holdSecond
      (fun later =>
        (later.seatmap 2).map (fun line => (line.seatId, line.status)) ==
          [(3, "AVAILABLE"), (4, "HELD"), (2, "AVAILABLE")])
      (by decide)
  have follows :=
    seatmap_follows_layout sound_oneSeat wellFormed_threeSeats
      (ScheduleService.createVenue_ok.mpr ⟨by decide, rfl⟩) .refl fresh
      (fresh.expand (by decide)) rest
  exact ⟨later, follows.1, beq_iff_eq.mp seen⟩

end Installation

end Curtain
