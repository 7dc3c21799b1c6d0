import Mathlib.Algebra.BigOperators.Ring.Finset
import Curtain.Transactions
import Curtain.Venues

/-!
# Layouts and halls

What a layout describes is a list of cells: each position of the hall with its
grade and price.  On the arrays of a layout the statements list just these
cells, and a new venue has one seat for each of them.
-/

namespace Curtain

open Table Queries

/-! ## What a layout describes -/

/-- A position of the hall, with its grade and its price. -/
structure Cell where
  zone : String
  rowLabel : String
  colNo : Int
  grade : String
  price : Int
deriving DecidableEq, Repr

def Cell.place (cell : Cell) : String × String × Int :=
  (cell.zone, cell.rowLabel, cell.colNo)

/-- The cell at one place of a row. -/
def RowSpec.cell (spec : RowSpec) (colNo : Int) : Cell :=
  { zone := spec.zone
    rowLabel := spec.rowLabel
    colNo
    grade := spec.grade
    price := spec.price }

/-- The places of a row are numbered from one. -/
def RowSpec.cells (spec : RowSpec) : List Cell :=
  (List.range spec.width.toNat).map fun index : Nat => spec.cell (1 + index)

/-- What names a row within a hall. -/
def RowSpec.key (spec : RowSpec) : String × String :=
  (spec.zone, spec.rowLabel)

namespace VenueLayout

def cells (layout : VenueLayout) : List Cell :=
  layout.rows.flatMap RowSpec.cells

/-- No row is defined twice, and none has a negative width. -/
structure WellFormed (layout : VenueLayout) : Prop where
  widths : ∀ spec ∈ layout.rows, 0 ≤ spec.width
  distinct : Unique RowSpec.key layout.rows

/-- PostgreSQL can store the venue and its seats. -/
def SeatsStorable (layout : VenueLayout) : Prop :=
  fitsText layout.name = true ∧ fitsText layout.address = true ∧
    ∀ spec ∈ layout.rows,
      fitsText spec.zone = true ∧ fitsText spec.rowLabel = true ∧
        fitsInteger spec.width = true

/-- PostgreSQL can store the grades and prices of the layout. -/
def StockStorable (layout : VenueLayout) : Prop :=
  ∀ spec ∈ layout.rows,
    fitsText spec.zone = true ∧ fitsText spec.rowLabel = true ∧
      fitsText spec.grade = true ∧ fitsInteger spec.price = true

instance (layout : VenueLayout) : Decidable layout.SeatsStorable :=
  inferInstanceAs (Decidable (_ ∧ _))

instance (layout : VenueLayout) : Decidable layout.StockStorable :=
  inferInstanceAs (Decidable (∀ spec ∈ layout.rows, _))

end VenueLayout

section Cells

variable {layout : VenueLayout} {spec : RowSpec} {cell : Cell}

theorem RowSpec.mem_cells :
    cell ∈ spec.cells ↔
      ∃ colNo, 1 ≤ colNo ∧ colNo ≤ spec.width ∧ spec.cell colNo = cell := by
  simp only [RowSpec.cells, List.mem_map, List.mem_range]
  constructor
  · rintro ⟨index, bound, rfl⟩
    exact ⟨1 + index, by omega, by omega, rfl⟩
  · rintro ⟨colNo, positive, bound, rfl⟩
    refine ⟨(colNo - 1).toNat, by omega, ?_⟩
    congr 1
    omega

theorem VenueLayout.mem_cells :
    cell ∈ layout.cells ↔ ∃ spec ∈ layout.rows, cell ∈ spec.cells :=
  List.mem_flatMap

/-- Every place of a row is one place. -/
theorem RowSpec.places_nodup (spec : RowSpec) :
    (spec.cells.map Cell.place).Nodup := by
  rw [RowSpec.cells, List.map_map]
  refine List.nodup_range.map ?_
  intro left right same
  simp only [Function.comp_apply, Cell.place, RowSpec.cell, Prod.mk.injEq]
    at same
  omega

/-- No place of the hall is described twice. -/
theorem VenueLayout.WellFormed.places_nodup (wellFormed : layout.WellFormed) :
    (layout.cells.map Cell.place).Nodup := by
  rw [VenueLayout.cells, List.map_flatMap, List.nodup_flatMap]
  refine ⟨fun spec _ => spec.places_nodup, ?_⟩
  refine (List.pairwise_map.mp wellFormed.distinct).imp ?_
  intro left right differ place leftMember rightMember
  obtain ⟨leftCell, inLeft, rfl⟩ := List.mem_map.mp leftMember
  obtain ⟨rightCell, inRight, same⟩ := List.mem_map.mp rightMember
  obtain ⟨leftCol, -, -, rfl⟩ := RowSpec.mem_cells.mp inLeft
  obtain ⟨rightCol, -, -, rfl⟩ := RowSpec.mem_cells.mp inRight
  simp only [Cell.place, RowSpec.cell, Prod.mk.injEq] at same
  exact differ (Prod.ext same.1.symm same.2.1.symm)

@[simp]
theorem RowSpec.cells_length (spec : RowSpec) :
    spec.cells.length = spec.width.toNat := by
  simp [RowSpec.cells]

/-- The layout has as many cells as `total_seats` says. -/
theorem VenueLayout.WellFormed.cells_length (wellFormed : layout.WellFormed) :
    (layout.cells.length : Int) = layout.totalSeats := by
  rw [VenueLayout.cells, List.length_flatMap, Nat.cast_list_sum, List.map_map,
    VenueLayout.totalSeats]
  congr 1
  apply List.map_congr_left
  intro spec member
  rw [Function.comp_apply, RowSpec.cells_length]
  exact Int.toNat_of_nonneg (wellFormed.widths spec member)

/-- The cells of a row are all of its grade. -/
theorem RowSpec.countP_cells (spec : RowSpec) (grade : String) :
    spec.cells.countP (·.grade == grade) =
      if spec.grade = grade then spec.width.toNat else 0 := by
  rw [RowSpec.cells, List.countP_map]
  by_cases same : spec.grade = grade
  · rw [if_pos same, List.countP_eq_length.mpr, List.length_range]
    intro index _
    simpa [RowSpec.cell] using same
  · rw [if_neg same, List.countP_eq_zero]
    intro index _
    simpa [RowSpec.cell] using same

/-- What `count_by_grade` has counted for a grade after some rows. -/
theorem VenueLayout.lookup_countByGrade (layout : VenueLayout) (grade : String) :
    (layout.countByGrade.lookup grade).getD 0 =
      (layout.rows.map fun row =>
        if row.grade = grade then row.width else 0).sum := by
  have counted :
      ∀ (rows : List RowSpec) (out : AList fun _ : String => Int),
        ((rows.foldl
              (fun out row =>
                out.insert row.grade ((out.lookup row.grade).getD 0 + row.width))
              out).lookup grade).getD 0 =
          (out.lookup grade).getD 0 +
            (rows.map fun row =>
              if row.grade = grade then row.width else 0).sum := by
    intro rows
    induction rows with
    | nil =>
        intro out
        simp
    | cons row rest induction =>
        intro out
        rw [List.foldl_cons, induction, List.map_cons, List.sum_cons,
          ← Int.add_assoc]
        congr 1
        by_cases same : row.grade = grade
        · subst same
          rw [AList.lookup_insert, Option.getD_some, if_pos rfl]
        · rw [AList.lookup_insert_ne (Ne.symm same), if_neg same, Int.add_zero]
  have all := counted layout.rows ∅
  rwa [AList.lookup_empty, Option.getD_none, Int.zero_add] at all

/-- The cells of each grade are as many as `count_by_grade` says. -/
theorem VenueLayout.WellFormed.countP_cells (wellFormed : layout.WellFormed)
    (grade : String) :
    (layout.cells.countP (·.grade == grade) : Int) =
      (layout.countByGrade.lookup grade).getD 0 := by
  rw [VenueLayout.lookup_countByGrade, VenueLayout.cells, List.countP_flatMap,
    Nat.cast_list_sum, List.map_map]
  congr 1
  apply List.map_congr_left
  intro spec member
  rw [Function.comp_apply, Function.comp_apply, RowSpec.countP_cells]
  split
  · exact Int.toNat_of_nonneg (wellFormed.widths spec member)
  · rfl

end Cells

/-! ## The statements on the arrays of a layout -/

def VenueSeat.place (seat : VenueSeat) : String × String × Int :=
  (seat.zone, seat.rowLabel, seat.colNo)

def VenueSeat.key (seat : VenueSeat) : String × String :=
  (seat.zone, seat.rowLabel)

/-- The seats of a venue, each with the row specification of its row. -/
def venueLines (venueId : Nat) (layout : VenueLayout) (seats : List VenueSeat) :
    List (VenueSeat × RowSpec) :=
  (join seats layout.rows fun seat spec =>
    spec.zone == seat.zone && spec.rowLabel == seat.rowLabel).filter
      fun (seat, _) => seat.venueId == venueId

section Arrays

variable {layout : VenueLayout}

/-- A numbered list is mapped like the list, where the number plays no part. -/
theorem map_zipIdx_map {Item Row Column : Type*} (make : Item × Nat → Row)
    (column : Row → Column) (read : Item → Column)
    (reads : ∀ item index, column (make (item, index)) = read item)
    (items : List Item) :
    (items.zipIdx.map make).map column = items.map read := by
  rw [List.map_map]
  calc
    items.zipIdx.map (column ∘ make) =
        items.zipIdx.map (read ∘ Prod.fst) :=
      List.map_congr_left fun line _ => reads line.1 line.2
    _ = items.map read := by
      rw [← List.map_map, List.zipIdx_map_fst]

/-- `generate_series(1, width)` counts the places of a row. -/
theorem generateSeries_one (width : Int) :
    generateSeries 1 width =
      (List.range width.toNat).map fun index : Nat => 1 + (index : Int) := by
  rw [generateSeries, Int.add_sub_cancel]

/-- The lateral join of the arrays lists the places of the layout. -/
theorem seatLines_layout (layout : VenueLayout) :
    seatLines (layout.rows.map (·.zone)) (layout.rows.map (·.rowLabel))
        (layout.rows.map (·.width)) =
      layout.cells.map Cell.place := by
  rw [seatLines, List.zip_map', List.zip_map', List.flatMap_map,
    VenueLayout.cells, List.map_flatMap]
  apply List.flatMap_congr
  intro spec _
  simp only [generateSeries_one, RowSpec.cells, List.map_map]
  rfl

/-- The join on the two texts pairs each seat with the specification of its row. -/
theorem stockLines_layout (venueId : Nat) (layout : VenueLayout)
    (seats : List VenueSeat) :
    stockLines venueId (layout.rows.map (·.zone))
        (layout.rows.map (·.rowLabel)) (layout.rows.map (·.grade))
        (layout.rows.map (·.price)) seats =
      (venueLines venueId layout seats).map
        fun (seat, spec) => (seat.id, spec.grade, spec.price) := by
  rw [stockLines, List.zip_map', List.zip_map', List.zip_map', join_map_right,
    List.filter_map, List.map_map]
  rfl

theorem mem_venueLines {venueId : Nat} {seats : List VenueSeat}
    {line : VenueSeat × RowSpec} :
    line ∈ venueLines venueId layout seats ↔
      line.1 ∈ seats ∧ line.1.venueId = venueId ∧ line.2 ∈ layout.rows ∧
        line.2.key = line.1.key := by
  rw [venueLines, List.mem_filter, mem_join, beq_iff_eq, Bool.and_eq_true,
    beq_iff_eq, beq_iff_eq, RowSpec.key, VenueSeat.key, Prod.mk.injEq]
  tauto

theorem venueSeats_place (venueId seq : Nat)
    (lines : List (String × String × Int)) :
    (venueSeats venueId seq lines).map VenueSeat.place = lines := by
  rw [venueSeats, map_zipIdx_map _ _ id (fun _ _ => rfl), List.map_id]

theorem mem_venueSeats {venueId seq : Nat}
    {lines : List (String × String × Int)} {seat : VenueSeat}
    (member : seat ∈ venueSeats venueId seq lines) :
    seat.venueId = venueId ∧ seq < seat.id ∧ seat.id ≤ seq + lines.length := by
  obtain ⟨⟨line, index⟩, numbered, rfl⟩ := List.mem_map.mp member
  have bound := List.snd_lt_of_mem_zipIdx numbered
  exact ⟨rfl, by dsimp only; omega, by dsimp only; omega⟩

/-- The columns of a stock row that its line of the expansion gives. -/
def lineOf (row : ScheduleSeat) : Nat × String × Int :=
  (row.seatId, row.grade, row.price)

theorem stockRows_lineOf (scheduleId seq : Nat)
    (lines : List (Nat × String × Int)) :
    (stockRows scheduleId seq lines).map lineOf = lines := by
  rw [stockRows, map_zipIdx_map _ _ id (fun _ _ => rfl), List.map_id]

theorem stockRows_scheduleSeat (scheduleId seq : Nat)
    (lines : List (Nat × String × Int)) :
    (stockRows scheduleId seq lines).map scheduleSeat =
      lines.map fun line => (scheduleId, line.1) := by
  rw [stockRows, map_zipIdx_map]
  intro line index
  rfl

theorem mem_stockRows {scheduleId seq : Nat}
    {lines : List (Nat × String × Int)} {row : ScheduleSeat}
    (member : row ∈ stockRows scheduleId seq lines) :
    row.scheduleId = scheduleId ∧ row.status = .available ∧
      row.heldBy = none ∧ row.holdExpiresAt = none := by
  obtain ⟨line, -, rfl⟩ := List.mem_map.mp member
  exact ⟨rfl, rfl, rfl, rfl⟩

end Arrays

/-! ## The calls -/

/-- The halls with a venue of the layout. -/
def Halls.withVenue (halls : Halls) (layout : VenueLayout) : Halls :=
  let venueId := halls.venueSeq + 1
  let places := layout.cells.map Cell.place
  { halls with
    venues :=
      halls.venues ++
        [{ id := venueId, name := layout.name, address := layout.address }]
    seats :=
      halls.seats ++
        insertNew VenueSeat.position (venueSeats venueId halls.seatSeq places)
          halls.seats
    venueSeq := venueId
    seatSeq := halls.seatSeq + places.length }

namespace Installation

/-- The stock rows that an expansion adds. -/
def newRows (installation : Installation) (scheduleId venueId : Nat)
    (layout : VenueLayout) : List ScheduleSeat :=
  insertNew scheduleSeat
    (stockRows scheduleId installation.stockSeq
      ((venueLines venueId layout installation.seats).map
        fun (seat, spec) => (seat.id, spec.grade, spec.price)))
    installation.db.scheduleSeats

/-- The installation after an expansion. -/
def expanded (installation : Installation) (scheduleId venueId : Nat)
    (layout : VenueLayout) : Installation :=
  { installation with
    db :=
      { installation.db with
        scheduleSeats :=
          installation.db.scheduleSeats ++
            installation.newRows scheduleId venueId layout }
    stockSeq :=
      installation.stockSeq +
        (venueLines venueId layout installation.seats).length }

end Installation

section Calls

variable {layout : VenueLayout} {halls : Halls} {installation : Installation}
variable {scheduleId venueId : Nat}

/-- An array is passed on when all of its elements fit. -/
theorem checked_ok {Value : Type} {fits : Value → Bool} {values read : List Value}
    {error : StatementError} :
    (if values.all fits then .ok values else .error error :
        Except StatementError (List Value)) = .ok read ↔
      (∀ value ∈ values, fits value = true) ∧ read = values := by
  rw [← List.all_eq_true]
  split
  · rename_i all
    rw [Except.ok.injEq, eq_comm]
    exact (and_iff_right all).symm
  · rename_i unfit
    simp [unfit]

theorem textArray_ok {values read : List String} :
    textArray values = .ok read ↔
      (∀ value ∈ values, fitsText value = true) ∧ read = values :=
  checked_ok

theorem intArray_ok {values read : List Int} :
    intArray values = .ok read ↔
      (∀ value ∈ values, fitsInteger value = true) ∧ read = values :=
  checked_ok

/-- A column of the layout is an array. -/
theorem textArray_column {column : RowSpec → String}
    (fits : ∀ spec ∈ layout.rows, fitsText (column spec) = true) :
    textArray (layout.rows.map column) = .ok (layout.rows.map column) :=
  textArray_ok.mpr ⟨List.forall_mem_map.mpr fits, rfl⟩

theorem intArray_column {column : RowSpec → Int}
    (fits : ∀ spec ∈ layout.rows, fitsInteger (column spec) = true) :
    intArray (layout.rows.map column) = .ok (layout.rows.map column) :=
  intArray_ok.mpr ⟨List.forall_mem_map.mpr fits, rfl⟩

/-- `create_venue` succeeds exactly on what PostgreSQL can store. -/
theorem ScheduleService.createVenue_ok {result : Nat × Halls} :
    createVenue layout halls = .ok result ↔
      layout.SeatsStorable ∧
        result = (halls.venueSeq + 1, halls.withVenue layout) := by
  constructor
  · intro ok
    obtain ⟨_, inserted, ok⟩ := bind_eq_ok.mp ok
    obtain ⟨_, texts, inserted⟩ := bind_eq_ok.mp inserted
    obtain ⟨named, rfl⟩ := textArray_ok.mp texts
    cases inserted
    obtain ⟨_, seated, ok⟩ := bind_eq_ok.mp ok
    obtain ⟨_, widths, seated⟩ := bind_eq_ok.mp seated
    obtain ⟨widthsFit, rfl⟩ := intArray_ok.mp widths
    obtain ⟨_, zones, seated⟩ := bind_eq_ok.mp seated
    obtain ⟨zonesFit, rfl⟩ := textArray_ok.mp zones
    obtain ⟨_, labels, seated⟩ := bind_eq_ok.mp seated
    obtain ⟨labelsFit, rfl⟩ := textArray_ok.mp labels
    cases seated
    cases ok
    refine ⟨⟨named _ (by simp), named _ (by simp), ?_⟩, ?_⟩
    · intro spec member
      exact
        ⟨zonesFit _ (List.mem_map_of_mem member),
          labelsFit _ (List.mem_map_of_mem member),
          widthsFit _ (List.mem_map_of_mem member)⟩
    · rw [seatLines_layout]
      rfl
  · rintro ⟨⟨nameFits, addressFits, rows⟩, rfl⟩
    have texts :
        textArray [layout.name, layout.address] =
          .ok [layout.name, layout.address] :=
      textArray_ok.mpr ⟨by simp [nameFits, addressFits], rfl⟩
    have zones := textArray_column fun spec member => (rows spec member).1
    have labels := textArray_column fun spec member => (rows spec member).2.1
    have widths := intArray_column fun spec member => (rows spec member).2.2
    simp only [createVenue, insertVenue, createVenueSeats, texts, zones, labels,
      widths, bind, Except.bind, pure, Except.pure, seatLines_layout]
    rfl

/-- `expand_schedule_seats` raises on what PostgreSQL cannot store. -/
theorem ScheduleService.storable_of_expandScheduleSeats
    {result : Nat × Installation}
    (ok :
      expandScheduleSeats scheduleId venueId layout installation = .ok result) :
    layout.StockStorable := by
  obtain ⟨_, expanded, -⟩ := bind_eq_ok.mp ok
  obtain ⟨_, prices, expanded⟩ := bind_eq_ok.mp expanded
  obtain ⟨pricesFit, -⟩ := intArray_ok.mp prices
  obtain ⟨_, zones, expanded⟩ := bind_eq_ok.mp expanded
  obtain ⟨zonesFit, -⟩ := textArray_ok.mp zones
  obtain ⟨_, labels, expanded⟩ := bind_eq_ok.mp expanded
  obtain ⟨labelsFit, -⟩ := textArray_ok.mp labels
  obtain ⟨_, grades, -⟩ := bind_eq_ok.mp expanded
  obtain ⟨gradesFit, -⟩ := textArray_ok.mp grades
  intro spec member
  exact
    ⟨zonesFit _ (List.mem_map_of_mem member),
      labelsFit _ (List.mem_map_of_mem member),
      gradesFit _ (List.mem_map_of_mem member),
      pricesFit _ (List.mem_map_of_mem member)⟩

/-- What `expand_schedule_seats` does with what PostgreSQL can store. -/
theorem ScheduleService.expandScheduleSeats_eq (storable : layout.StockStorable) :
    expandScheduleSeats scheduleId venueId layout installation =
      if installation.newRows scheduleId venueId layout ≠ [] ∧
          scheduleId ∉ installation.schedules then
        .error
          (.foreignKeyViolation "fk_schedule_seats_schedule_id_schedules")
      else
        .ok
          ((installation.newRows scheduleId venueId layout).length,
            installation.expanded scheduleId venueId layout) := by
  have zones := textArray_column fun spec member => (storable spec member).1
  have labels := textArray_column fun spec member => (storable spec member).2.1
  have grades := textArray_column fun spec member => (storable spec member).2.2.1
  have prices := intArray_column fun spec member => (storable spec member).2.2.2
  have statement :
      Queries.expandScheduleSeats scheduleId venueId
          (layout.rows.map (·.zone)) (layout.rows.map (·.rowLabel))
          (layout.rows.map (·.grade)) (layout.rows.map (·.price))
          installation =
        if installation.newRows scheduleId venueId layout ≠ [] ∧
            scheduleId ∉ installation.schedules then
          .error
            (.foreignKeyViolation "fk_schedule_seats_schedule_id_schedules")
        else
          .ok
            ((installation.newRows scheduleId venueId layout).map (·.id),
              installation.expanded scheduleId venueId layout) := by
    simp only [Queries.expandScheduleSeats, zones, labels, grades, prices, bind,
      Except.bind, pure, Except.pure, stockLines_layout, List.length_map]
    rfl
  rw [expandScheduleSeats, statement]
  split
  · rfl
  · simp [bind, Except.bind, pure, Except.pure]

/-- What cannot be stored raises. -/
theorem ScheduleService.createVenue_error (unstorable : ¬ layout.SeatsStorable) :
    ∃ error, createVenue layout halls = .error error := by
  cases outcome : createVenue layout halls with
  | error error => exact ⟨error, rfl⟩
  | ok result => exact absurd (createVenue_ok.mp outcome).1 unstorable

theorem ScheduleService.expandScheduleSeats_error
    (unstorable : ¬ layout.StockStorable) :
    ∃ error,
      expandScheduleSeats scheduleId venueId layout installation =
        .error error := by
  cases outcome : expandScheduleSeats scheduleId venueId layout installation with
  | error error => exact ⟨error, rfl⟩
  | ok result =>
      exact absurd (storable_of_expandScheduleSeats outcome) unstorable

end Calls

/-! ## Halls that are laid out -/

/-- What the constraints and the sequences of the halls guarantee. -/
structure Halls.Sound (halls : Halls) : Prop where
  idUnique : Unique (fun seat : VenueSeat => seat.id) halls.seats
  idBound : ∀ seat ∈ halls.seats, seat.id ≤ halls.seatSeq
  positionUnique : Unique VenueSeat.position halls.seats
  venueBound : ∀ seat ∈ halls.seats, seat.venueId ≤ halls.venueSeq

/-- The seats of one venue. -/
def Halls.seatsOf (halls : Halls) (venueId : Nat) : List VenueSeat :=
  halls.seats.filter (·.venueId == venueId)

/-- The seats of the venue are at the places of the layout, each at its own. -/
structure Halls.Laid (halls : Halls) (venueId : Nat) (layout : VenueLayout) :
    Prop where
  sound : halls.Sound
  known : venueId ≤ halls.venueSeq
  places :
    (halls.seatsOf venueId).map VenueSeat.place = layout.cells.map Cell.place

section Laying

variable {halls : Halls} {venueId : Nat} {layout other : VenueLayout}

theorem venueSeats_id_nodup (venueId seq : Nat)
    (lines : List (String × String × Int)) :
    ((venueSeats venueId seq lines).map fun seat => seat.id).Nodup := by
  have ids :
      ((venueSeats venueId seq lines).map fun seat => seat.id) =
        (lines.zipIdx.map Prod.snd).map (seq + 1 + ·) := by
    rw [venueSeats, List.map_map, List.map_map]
    rfl
  rw [ids, List.zipIdx_map_snd]
  exact (List.nodup_range' _).map fun _ _ same => Nat.add_left_cancel same

/-- A new venue keeps the halls sound, whatever its layout. -/
theorem Halls.Sound.withVenue (sound : halls.Sound) (layout : VenueLayout) :
    (halls.withVenue layout).Sound := by
  have new :
      ∀ seat ∈ insertNew VenueSeat.position
          (venueSeats (halls.venueSeq + 1) halls.seatSeq
            (layout.cells.map Cell.place)) halls.seats,
        seat.venueId = halls.venueSeq + 1 ∧ halls.seatSeq < seat.id ∧
          seat.id ≤ halls.seatSeq + (layout.cells.map Cell.place).length :=
    fun seat member => mem_venueSeats (insertNew_sublist.subset member)
  refine
    { idUnique := unique_append.mpr ⟨sound.idUnique, ?_, ?_⟩
      idBound := ?_
      positionUnique := sound.positionUnique.insertNew
      venueBound := ?_ }
  · exact
      (insertNew_sublist.map _).nodup
        (venueSeats_id_nodup (halls.venueSeq + 1) halls.seatSeq _)
  · intro old oldMember seat member same
    have below := sound.idBound old oldMember
    have above := (new seat member).2.1
    omega
  · intro seat member
    rcases List.mem_append.mp member with old | fresh
    · exact (sound.idBound seat old).trans (Nat.le_add_right _ _)
    · exact (new seat fresh).2.2
  · intro seat member
    rcases List.mem_append.mp member with old | fresh
    · exact (sound.venueBound seat old).trans (Nat.le_succ _)
    · exact (new seat fresh).1.le

/-- The new venue is laid out. -/
theorem Halls.Sound.laid (sound : halls.Sound) (wellFormed : layout.WellFormed) :
    (halls.withVenue layout).Laid (halls.venueSeq + 1) layout := by
  generalize seatsEq :
    venueSeats (halls.venueSeq + 1) halls.seatSeq
      (layout.cells.map Cell.place) = seats
  have inVenue : ∀ seat ∈ seats, seat.venueId = halls.venueSeq + 1 := by
    subst seatsEq
    exact fun seat member => (mem_venueSeats member).1
  have places : seats.map VenueSeat.place = layout.cells.map Cell.place := by
    subst seatsEq
    exact venueSeats_place _ _ _
  have elsewhere : ∀ seat ∈ halls.seats, seat.venueId ≠ halls.venueSeq + 1 := by
    intro seat member
    have bound := sound.venueBound seat member
    omega
  have positions : Unique VenueSeat.position seats := by
    have distinct := wellFormed.places_nodup
    rw [← places] at distinct
    refine List.Nodup.map_on ?_ (List.Nodup.of_map _ distinct)
    intro left leftMember right rightMember same
    exact
      List.inj_on_of_nodup_map distinct leftMember rightMember
        (Prod.mk.inj same).2
  have inserted : insertNew VenueSeat.position seats halls.seats = seats := by
    refine insertNew_eq_self positions ?_
    intro seat member taken
    obtain ⟨old, oldMember, same⟩ := List.mem_map.mp taken
    apply elsewhere old oldMember
    rw [← inVenue seat member]
    exact (Prod.mk.inj same).1
  refine
    { sound := sound.withVenue layout
      known := Nat.le_refl _
      places := ?_ }
  have own :
      (halls.withVenue layout).seatsOf (halls.venueSeq + 1) = seats := by
    simp only [Halls.seatsOf, Halls.withVenue, seatsEq, inserted,
      List.filter_append]
    rw [List.filter_eq_nil_iff.mpr (by simpa using elsewhere), List.nil_append,
      List.filter_eq_self.mpr (by simpa using inVenue)]
  rw [own, places]

/-- Laying out one venue leaves the others as they are. -/
theorem Halls.Laid.withVenue (laid : halls.Laid venueId layout) :
    (halls.withVenue other).Laid venueId layout := by
  refine
    { sound := laid.sound.withVenue other
      known := laid.known.trans (Nat.le_succ _)
      places := ?_ }
  have same : (halls.withVenue other).seatsOf venueId = halls.seatsOf venueId := by
    refine filter_append_of_apart ?_
    intro seat member
    have venue := (mem_venueSeats (insertNew_sublist.subset member)).1
    have known := laid.known
    rw [beq_eq_false_iff_ne, venue]
    omega
  rw [same, laid.places]

/-- The numbers of the stock rows play no part in the seats. -/
theorem Halls.Sound.numbered (sound : halls.Sound) (stockSeq : Nat) :
    Halls.Sound { halls with stockSeq } where
  idUnique := sound.idUnique
  idBound := sound.idBound
  positionUnique := sound.positionUnique
  venueBound := sound.venueBound

theorem Halls.Laid.numbered (laid : halls.Laid venueId layout)
    (stockSeq : Nat) :
    Halls.Laid { halls with stockSeq } venueId layout where
  sound := laid.sound.numbered stockSeq
  known := laid.known
  places := laid.places

/-- No seat stands in two lines of the expansion. -/
theorem Halls.Sound.lines_id_nodup (sound : halls.Sound)
    (distinct : Unique RowSpec.key layout.rows) (venueId : Nat) :
    ((venueLines venueId layout halls.seats).map fun line => line.1.id).Nodup := by
  have lines : (venueLines venueId layout halls.seats).Nodup :=
    (join_nodup (List.Nodup.of_map _ sound.idUnique)
      (List.Nodup.of_map _ distinct)).filter _
  refine List.Nodup.map_on ?_ lines
  rintro ⟨seat, spec⟩ member ⟨otherSeat, otherSpec⟩ otherMember sameId
  obtain ⟨seatMember, -, specMember, row⟩ := mem_venueLines.mp member
  obtain ⟨otherSeatMember, -, otherSpecMember, otherRow⟩ :=
    mem_venueLines.mp otherMember
  have seats : seat = otherSeat :=
    sound.idUnique.eq seatMember otherSeatMember sameId
  subst seats
  have specs : spec = otherSpec :=
    distinct.eq specMember otherSpecMember (row.trans otherRow.symm)
  rw [specs]

end Laying

namespace Halls.Laid

variable {halls : Halls} {venueId : Nat} {layout : VenueLayout}

/-- No two seats of the venue are at one place. -/
theorem seat_eq (laid : halls.Laid venueId layout)
    (wellFormed : layout.WellFormed) {left right : VenueSeat}
    (leftMember : left ∈ halls.seatsOf venueId)
    (rightMember : right ∈ halls.seatsOf venueId)
    (same : left.place = right.place) :
    left = right := by
  have distinct := wellFormed.places_nodup
  rw [← laid.places] at distinct
  exact List.inj_on_of_nodup_map distinct leftMember rightMember same

theorem mem_seatsOf {seat : VenueSeat} :
    seat ∈ halls.seatsOf venueId ↔ seat ∈ halls.seats ∧ seat.venueId = venueId := by
  rw [Halls.seatsOf, List.mem_filter, beq_iff_eq]

/-- Each seat of the venue is at a place of a row of the layout. -/
theorem described (laid : halls.Laid venueId layout) {seat : VenueSeat}
    (member : seat ∈ halls.seatsOf venueId) :
    ∃ spec ∈ layout.rows, spec.key = seat.key ∧
      spec.cell seat.colNo ∈ spec.cells := by
  have listed : seat.place ∈ (halls.seatsOf venueId).map VenueSeat.place :=
    List.mem_map_of_mem member
  rw [laid.places] at listed
  obtain ⟨cell, inLayout, samePlace⟩ := List.mem_map.mp listed
  obtain ⟨spec, specMember, inRow⟩ := VenueLayout.mem_cells.mp inLayout
  obtain ⟨colNo, -, -, rfl⟩ := RowSpec.mem_cells.mp inRow
  simp only [Cell.place, RowSpec.cell, VenueSeat.place, Prod.mk.injEq]
    at samePlace
  obtain ⟨sameZone, sameRow, rfl⟩ := samePlace
  exact ⟨spec, specMember, Prod.ext sameZone sameRow, inRow⟩

/-- At each place of a row of the layout there is a seat of the venue. -/
theorem seated (laid : halls.Laid venueId layout) {spec : RowSpec}
    (specMember : spec ∈ layout.rows) {cell : Cell} (inRow : cell ∈ spec.cells) :
    ∃ seat ∈ halls.seatsOf venueId,
      spec.key = seat.key ∧ spec.cell seat.colNo = cell := by
  have listed : cell.place ∈ layout.cells.map Cell.place :=
    List.mem_map_of_mem (VenueLayout.mem_cells.mpr ⟨spec, specMember, inRow⟩)
  rw [← laid.places] at listed
  obtain ⟨seat, inVenue, samePlace⟩ := List.mem_map.mp listed
  obtain ⟨colNo, -, -, rfl⟩ := RowSpec.mem_cells.mp inRow
  simp only [Cell.place, RowSpec.cell, VenueSeat.place, Prod.mk.injEq]
    at samePlace
  obtain ⟨sameZone, sameRow, rfl⟩ := samePlace
  exact ⟨seat, inVenue, Prod.ext sameZone.symm sameRow.symm, rfl⟩

/-- No two lines of the expansion are of one cell. -/
theorem lines_nodup (laid : halls.Laid venueId layout)
    (wellFormed : layout.WellFormed) :
    ((venueLines venueId layout halls.seats).map
      fun line => line.2.cell line.1.colNo).Nodup := by
  have place :
      ∀ line ∈ venueLines venueId layout halls.seats,
        (line.2.cell line.1.colNo).place = line.1.place := by
    intro line member
    obtain ⟨-, -, -, row⟩ := mem_venueLines.mp member
    simp only [RowSpec.key, VenueSeat.key, Prod.mk.injEq] at row
    simp only [Cell.place, RowSpec.cell, VenueSeat.place, row]
  have ids := laid.sound.lines_id_nodup wellFormed.distinct venueId
  refine List.Nodup.map_on ?_ (List.Nodup.of_map _ ids)
  intro line member other otherMember sameCell
  have places := congrArg Cell.place sameCell
  rw [place _ member, place _ otherMember] at places
  obtain ⟨seatMember, venue, -, -⟩ := mem_venueLines.mp member
  obtain ⟨otherSeatMember, otherVenue, -, -⟩ := mem_venueLines.mp otherMember
  have seats : line.1 = other.1 :=
    laid.seat_eq wellFormed (mem_seatsOf.mpr ⟨seatMember, venue⟩)
      (mem_seatsOf.mpr ⟨otherSeatMember, otherVenue⟩) places
  exact
    List.inj_on_of_nodup_map ids member otherMember
      (congrArg (fun seat : VenueSeat => seat.id) seats)

/-- The lines of the expansion are the cells of the layout. -/
theorem lines_cells (laid : halls.Laid venueId layout)
    (wellFormed : layout.WellFormed) :
    ((venueLines venueId layout halls.seats).map
        fun line => line.2.cell line.1.colNo).Perm layout.cells := by
  refine
    (List.perm_ext_iff_of_nodup (laid.lines_nodup wellFormed)
      (List.Nodup.of_map _ wellFormed.places_nodup)).mpr ?_
  intro cell
  rw [List.mem_map, VenueLayout.mem_cells]
  constructor
  · rintro ⟨⟨seat, spec⟩, member, rfl⟩
    obtain ⟨seatMember, venue, specMember, row⟩ := mem_venueLines.mp member
    obtain ⟨own, ownMember, ownRow, inRow⟩ :=
      laid.described (mem_seatsOf.mpr ⟨seatMember, venue⟩)
    have specs : own = spec :=
      wellFormed.distinct.eq ownMember specMember (ownRow.trans row.symm)
    subst specs
    exact ⟨own, specMember, inRow⟩
  · rintro ⟨spec, specMember, inRow⟩
    obtain ⟨seat, inVenue, row, same⟩ := laid.seated specMember inRow
    obtain ⟨seatMember, venue⟩ := mem_seatsOf.mp inVenue
    exact
      ⟨(seat, spec),
        mem_venueLines.mpr ⟨seatMember, venue, specMember, row⟩, same⟩

end Halls.Laid

end Curtain
