import Curtain.Layouts
import Curtain.Records

/-!
# The expansion of a venue

A fresh schedule of a venue gets one stock row for each cell of the layout, and
from then on the expansion finds every seat taken care of.
-/

namespace Curtain

open Table Queries

/-! ## A fresh schedule -/

namespace Installation

/-- The stock rows of a schedule. -/
def rowsOf (installation : Installation) (scheduleId : Nat) :
    List ScheduleSeat :=
  installation.db.scheduleSeats.filter (·.scheduleId == scheduleId)

/-- The cell of a stock row: where its seat is, with its grade and its price. -/
def cellOf (installation : Installation) (row : ScheduleSeat) : Option Cell :=
  (lookup (fun seat : VenueSeat => seat.id) row.seatId installation.seats).map fun seat =>
    { zone := seat.zone
      rowLabel := seat.rowLabel
      colNo := seat.colNo
      grade := row.grade
      price := row.price }

/-- The schedule exists and has no stock yet. -/
def Fresh (installation : Installation) (scheduleId : Nat) : Prop :=
  scheduleId ∈ installation.schedules ∧
    ∀ row ∈ installation.db.scheduleSeats, row.scheduleId ≠ scheduleId

instance (installation : Installation) (scheduleId : Nat) :
    Decidable (installation.Fresh scheduleId) :=
  inferInstanceAs (Decidable (_ ∧ _))

/-- Opening the schedule has made one free row for each cell of the layout. -/
structure Opens (layout : VenueLayout) (scheduleId : Nat)
    (before opened : Installation) : Prop where
  rows :
    opened.db.scheduleSeats =
      before.db.scheduleSeats ++ opened.rowsOf scheduleId
  available :
    ∀ row ∈ opened.rowsOf scheduleId,
      row.status = .available ∧ row.heldBy = none ∧ row.holdExpiresAt = none
  cells :
    ((opened.rowsOf scheduleId).map opened.cellOf).Perm
      (layout.cells.map some)
  places : (layout.cells.map Cell.place).Nodup
  grades :
    ∀ grade,
      ((opened.rowsOf scheduleId).countP (·.grade == grade) : Int) =
        (layout.countByGrade.lookup grade).getD 0

section Fresh

variable {installation : Installation} {scheduleId venueId : Nat}
variable {layout : VenueLayout}

/-- No row of the expansion of a fresh schedule is passed over. -/
theorem Fresh.newRows_eq (fresh : installation.Fresh scheduleId)
    (laid : installation.Laid venueId layout)
    (wellFormed : layout.WellFormed) :
    installation.newRows scheduleId venueId layout =
      stockRows scheduleId installation.stockSeq
        ((venueLines venueId layout installation.seats).map
          fun (seat, spec) => (seat.id, spec.grade, spec.price)) := by
  have distinct :
      Unique scheduleSeat
        (stockRows scheduleId installation.stockSeq
          ((venueLines venueId layout installation.seats).map
            fun (seat, spec) => (seat.id, spec.grade, spec.price))) := by
    rw [Table.Unique, stockRows_scheduleSeat, List.map_map]
    have ids := laid.sound.lines_id_nodup wellFormed.distinct venueId
    rw [show
      ((fun line : Nat × String × Int => (scheduleId, line.1)) ∘
          fun (seat, spec) => (seat.id, spec.grade, spec.price)) =
        Prod.mk scheduleId ∘ fun line : VenueSeat × RowSpec => line.1.id from rfl,
      ← List.map_map]
    exact ids.map (Prod.mk_right_injective scheduleId)
  refine insertNew_eq_self distinct ?_
  intro row member taken
  obtain ⟨old, oldMember, same⟩ := List.mem_map.mp taken
  apply fresh.2 old oldMember
  rw [← (mem_stockRows member).1]
  exact (Prod.mk.inj same).1

/-- The rows of the schedule are the new ones. -/
theorem Fresh.rowsOf_expanded (fresh : installation.Fresh scheduleId) :
    (installation.expanded scheduleId venueId layout).rowsOf scheduleId =
      installation.newRows scheduleId venueId layout := by
  have others :
      installation.db.scheduleSeats.filter (·.scheduleId == scheduleId) = [] :=
    List.filter_eq_nil_iff.mpr (by simpa using fresh.2)
  have own :
      ∀ row ∈ installation.newRows scheduleId venueId layout,
        (row.scheduleId == scheduleId) = true := by
    intro row member
    exact
      beq_iff_eq.mpr (mem_stockRows (insertNew_sublist.subset member)).1
  rw [rowsOf, expanded, List.filter_append, others, List.nil_append,
    List.filter_eq_self.mpr own]

/-- The expansion of a fresh schedule succeeds. -/
theorem Fresh.expand (fresh : installation.Fresh scheduleId)
    (storable : layout.StockStorable) :
    ScheduleService.expandScheduleSeats scheduleId venueId layout installation =
      .ok
        (((installation.expanded scheduleId venueId layout).rowsOf
            scheduleId).length,
          installation.expanded scheduleId venueId layout) := by
  rw [ScheduleService.expandScheduleSeats_eq storable, if_neg,
    fresh.rowsOf_expanded]
  exact fun refused => refused.2 fresh.1

/-- What a line of the expansion describes. -/
def cellAt (installation : Installation) :
    Nat × String × Int → Option Cell :=
  fun (seatId, grade, price) =>
    (lookup (fun seat : VenueSeat => seat.id) seatId installation.seats).map
      fun seat =>
        { zone := seat.zone
          rowLabel := seat.rowLabel
          colNo := seat.colNo
          grade
          price }

/-- A line of the expansion describes a cell of its row of the layout. -/
theorem cellAt_line (sound : installation.toHalls.Sound)
    {line : VenueSeat × RowSpec}
    (member : line ∈ venueLines venueId layout installation.seats) :
    installation.cellAt (line.1.id, line.2.grade, line.2.price) =
      some (line.2.cell line.1.colNo) := by
  obtain ⟨seatMember, -, -, row⟩ := mem_venueLines.mp member
  have found :
      lookup (fun seat : VenueSeat => seat.id) line.1.id installation.seats =
        some line.1 :=
    (lookup_eq_some sound.idUnique).mpr ⟨seatMember, rfl⟩
  simp only [RowSpec.key, VenueSeat.key, Prod.mk.injEq] at row
  simp only [cellAt, found, Option.map_some, RowSpec.cell, row]

/-- The new rows are the cells of the layout. -/
theorem Fresh.cells_expanded (fresh : installation.Fresh scheduleId)
    (laid : installation.Laid venueId layout)
    (wellFormed : layout.WellFormed) :
    (((installation.expanded scheduleId venueId layout).rowsOf scheduleId).map
        (installation.expanded scheduleId venueId layout).cellOf).Perm
      (layout.cells.map some) := by
  have described :
      ((installation.expanded scheduleId venueId layout).rowsOf scheduleId).map
          (installation.expanded scheduleId venueId layout).cellOf =
        ((venueLines venueId layout installation.seats).map
          fun line => line.2.cell line.1.colNo).map some := by
    calc
      ((installation.expanded scheduleId venueId layout).rowsOf scheduleId).map
            (installation.expanded scheduleId venueId layout).cellOf =
          (((installation.expanded scheduleId venueId layout).rowsOf
            scheduleId).map lineOf).map installation.cellAt := by
        rw [List.map_map]
        rfl
      _ = ((venueLines venueId layout installation.seats).map
            fun line => (line.1.id, line.2.grade, line.2.price)).map
              installation.cellAt := by
        rw [fresh.rowsOf_expanded, fresh.newRows_eq laid wellFormed,
          stockRows_lineOf]
      _ = ((venueLines venueId layout installation.seats).map
            fun line => line.2.cell line.1.colNo).map some := by
        rw [List.map_map, List.map_map]
        exact List.map_congr_left fun line member => cellAt_line laid.sound member
  rw [described]
  exact (laid.lines_cells wellFormed).map some

/-- The rows of each grade are as many as the cells of the grade. -/
theorem countP_rowsOf {opened : Installation}
    (cells :
      ((opened.rowsOf scheduleId).map opened.cellOf).Perm
        (layout.cells.map some))
    (grade : String) :
    (opened.rowsOf scheduleId).countP (·.grade == grade) =
      layout.cells.countP (·.grade == grade) := by
  have shown :
      ∀ row ∈ opened.rowsOf scheduleId,
        (opened.cellOf row).any (·.grade == grade) = (row.grade == grade) := by
    intro row member
    obtain ⟨cell, -, found⟩ :=
      List.mem_map.mp (cells.subset (List.mem_map_of_mem member))
    obtain ⟨seat, -, described⟩ := Option.map_eq_some_iff.mp found.symm
    rw [← found, Option.any_some, ← described]
  calc
    (opened.rowsOf scheduleId).countP (·.grade == grade) =
        (opened.rowsOf scheduleId).countP
          fun row => (opened.cellOf row).any (·.grade == grade) :=
      List.countP_congr fun row member => by rw [shown row member]
    _ = ((opened.rowsOf scheduleId).map opened.cellOf).countP
          fun cell => cell.any (·.grade == grade) := by
      rw [List.countP_map]
      rfl
    _ = (layout.cells.map some).countP
          fun cell => cell.any (·.grade == grade) := cells.countP_eq _
    _ = layout.cells.countP (·.grade == grade) := List.countP_map

/-- The new rows are as many as the seats of the layout. -/
theorem Opens.length {before opened : Installation}
    (opens : Opens layout scheduleId before opened)
    (wellFormed : layout.WellFormed) :
    ((opened.rowsOf scheduleId).length : Int) = layout.totalSeats := by
  have counted := opens.cells.length_eq
  rw [List.length_map, List.length_map] at counted
  rw [counted, wellFormed.cells_length]

/-- A fresh schedule is opened with the stock that the layout describes. -/
theorem Fresh.opens (fresh : installation.Fresh scheduleId)
    (laid : installation.Laid venueId layout)
    (wellFormed : layout.WellFormed) :
    Opens layout scheduleId installation
      (installation.expanded scheduleId venueId layout) := by
  have cells := fresh.cells_expanded laid wellFormed
  refine
    { rows := ?_
      available := ?_
      cells := cells
      places := wellFormed.places_nodup
      grades := ?_ }
  · rw [fresh.rowsOf_expanded]
    rfl
  · intro row member
    rw [fresh.rowsOf_expanded] at member
    exact (mem_stockRows (insertNew_sublist.subset member)).2
  · intro grade
    rw [← wellFormed.countP_cells, countP_rowsOf cells]

end Fresh

/-! ## Runs of an installation -/

/-- An expansion of the schedule is an expansion for the venue. -/
def opensFor (scheduleId venueId : Nat) (_ : Installation) : Action → Prop
  | .expandScheduleSeats asked venue _ => asked = scheduleId → venue = venueId
  | _ => True

instance (scheduleId venueId : Nat) (installation : Installation)
    (action : Action) :
    Decidable (opensFor scheduleId venueId installation action) := by
  cases action <;> unfold opensFor <;> infer_instance

/-- Every seat of the venue has its row in the stock of the schedule. -/
structure Stocked (scheduleId venueId : Nat) (layout : VenueLayout)
    (stock : List Stock) (installation : Installation) : Prop where
  laid : installation.Laid venueId layout
  covered :
    ∀ seat ∈ installation.seats, seat.venueId = venueId →
      (scheduleId, seat.id) ∈ installation.db.scheduleSeats.map scheduleSeat
  stock :
    installation.db.stock.filter (·.scheduleId == scheduleId) = stock

section Runs

variable {installation next : Installation} {scheduleId venueId : Nat}
variable {layout : VenueLayout} {stock : List Stock} {action : Action}

/-- The keys of the stock are columns that no change of a seat touches. -/
theorem map_scheduleSeat (db : Db) :
    db.scheduleSeats.map scheduleSeat =
      db.stock.map fun line => (line.scheduleId, line.seatId) := by
  rw [Db.stock, List.map_map]
  rfl

/-- A stocked schedule has nothing to expand. -/
theorem Stocked.newRows_eq_nil
    (stocked : Stocked scheduleId venueId layout stock installation)
    (again : VenueLayout) :
    installation.newRows scheduleId venueId again = [] := by
  apply insertNew_eq_nil
  intro row member
  have key : scheduleSeat row ∈
      (stockRows scheduleId installation.stockSeq
        ((venueLines venueId again installation.seats).map
          fun (seat, spec) => (seat.id, spec.grade, spec.price))).map
        scheduleSeat :=
    List.mem_map_of_mem member
  rw [stockRows_scheduleSeat, List.map_map] at key
  obtain ⟨⟨seat, spec⟩, listed, same⟩ := List.mem_map.mp key
  obtain ⟨seatMember, venue, -, -⟩ := mem_venueLines.mp listed
  rw [← same]
  exact stocked.covered seat seatMember venue

/-- Repeating the expansion with any layout makes no row and changes none. -/
theorem Stocked.expand
    (stocked : Stocked scheduleId venueId layout stock installation)
    {again : VenueLayout} (storable : again.StockStorable) :
    ∃ after,
      ScheduleService.expandScheduleSeats scheduleId venueId again
          installation = .ok (0, after) ∧
        after = { installation with stockSeq := after.stockSeq } := by
  have nothing := stocked.newRows_eq_nil again
  refine ⟨installation.expanded scheduleId venueId again, ?_, ?_⟩
  · rw [ScheduleService.expandScheduleSeats_eq storable, nothing]
    rfl
  · rw [expanded, nothing, List.append_nil]

/-- What a step does to the halls and to the stock. -/
inductive Steps (installation : Installation) : Action → Installation → Prop where
  | world {action : Curtain.Action} {world : World}
      (taken : installation.toWorld.step action = some world) :
      Steps installation (.world action)
        { installation with toWorld := world }
  | venue {layout : VenueLayout} :
      Steps installation (.createVenue layout)
        { installation with toHalls := installation.withVenue layout }
  | expanded {scheduleId venueId : Nat} {layout : VenueLayout} :
      Steps installation (.expandScheduleSeats scheduleId venueId layout)
        (installation.expanded scheduleId venueId layout)
  | raised {action : Action} : Steps installation action installation

theorem steps_of_step (taken : installation.step action = some next) :
    Steps installation action next := by
  cases action with
  | world action =>
      obtain ⟨world, moved, rfl⟩ := Option.map_eq_some_iff.mp taken
      exact .world moved
  | createVenue layout =>
      simp only [step] at taken
      split at taken
      · rename_i venueId halls ok
        obtain ⟨-, equal⟩ := ScheduleService.createVenue_ok.mp ok
        cases taken
        cases equal
        exact .venue
      · cases taken
        exact .raised
  | expandScheduleSeats scheduleId venueId layout =>
      simp only [step] at taken
      split at taken
      · rename_i count after ok
        have storable := ScheduleService.storable_of_expandScheduleSeats ok
        rw [ScheduleService.expandScheduleSeats_eq storable] at ok
        split at ok
        · cases ok
        · cases taken
          cases ok
          exact .expanded
      · cases taken
        exact .raised

/-- A venue stays laid out. -/
theorem laid_step (laid : installation.Laid venueId layout)
    (taken : installation.step action = some next) :
    next.Laid venueId layout := by
  cases steps_of_step taken with
  | world => exact laid
  | venue => exact laid.withVenue
  | expanded => exact laid.numbered _
  | raised => exact laid

/-- A new venue is laid out in every later state. -/
theorem laid_run (sound : installation.toHalls.Sound)
    (wellFormed : layout.WellFormed)
    (run :
      TransitionSystem.Reachable step
        { installation with toHalls := installation.toHalls.withVenue layout }
        next) :
    next.Laid (installation.venueSeq + 1) layout :=
  run.invariant (sound.laid wellFormed) fun _ _ _ laid _ taken =>
    laid_step laid taken

/-- The stock of a stocked schedule is that of its rows. -/
theorem Stocked.rowsOf
    (stocked : Stocked scheduleId venueId layout stock installation) :
    (installation.rowsOf scheduleId).map ScheduleSeat.stock = stock := by
  rw [← stocked.stock, Db.stock, List.filter_map]
  rfl

/-- A schedule stays stocked, with the same stock. -/
theorem Stocked.step
    (stocked : Stocked scheduleId venueId layout stock installation)
    (allowed : opensFor scheduleId venueId installation action)
    (taken : installation.step action = some next) :
    Stocked scheduleId venueId layout stock next := by
  have laid := laid_step stocked.laid taken
  cases steps_of_step taken with
  | world moved =>
      have same := World.step_stock moved
      refine { laid, covered := ?_, stock := ?_ }
      · intro seat member venue
        have covered := stocked.covered seat member venue
        rw [map_scheduleSeat] at covered ⊢
        rwa [same]
      · rw [same]
        exact stocked.stock
  | venue =>
      refine { laid, covered := ?_, stock := stocked.stock }
      intro seat member venue
      rcases List.mem_append.mp member with old | new
      · exact stocked.covered seat old venue
      · have fresh := (mem_venueSeats (insertNew_sublist.subset new)).1
        have known := stocked.laid.known
        omega
  | @expanded asked venue again =>
      refine { laid, covered := ?_, stock := ?_ }
      · intro seat member inVenue
        have covered := stocked.covered seat member inVenue
        rw [expanded, List.map_append]
        exact List.mem_append_left _ covered
      · by_cases own : asked = scheduleId
        · cases own
          cases allowed rfl
          rw [expanded, stocked.newRows_eq_nil again, List.append_nil]
          exact stocked.stock
        · have grown :
              (installation.expanded asked venue again).db.stock =
                installation.db.stock ++
                  (installation.newRows asked venue again).map
                    ScheduleSeat.stock :=
            List.map_append
          rw [grown, filter_append_of_apart, stocked.stock]
          intro line member
          obtain ⟨row, new, rfl⟩ := List.mem_map.mp member
          have schedule := (mem_stockRows (insertNew_sublist.subset new)).1
          rw [beq_eq_false_iff_ne, ScheduleSeat.stock, schedule]
          exact own
  | raised => exact stocked

/-- A schedule that was opened for a venue is stocked. -/
theorem Fresh.stocked (fresh : installation.Fresh scheduleId)
    (laid : installation.Laid venueId layout)
    (wellFormed : layout.WellFormed) :
    Stocked scheduleId venueId layout
      (((installation.expanded scheduleId venueId layout).rowsOf
        scheduleId).map ScheduleSeat.stock)
      (installation.expanded scheduleId venueId layout) := by
  refine { laid := laid.numbered _, covered := ?_, stock := ?_ }
  · intro seat member venue
    obtain ⟨spec, specMember, row, -⟩ :=
      laid.described (Halls.Laid.mem_seatsOf.mpr ⟨member, venue⟩)
    have line : (seat, spec) ∈ venueLines venueId layout installation.seats :=
      mem_venueLines.mpr ⟨member, venue, specMember, row⟩
    rw [expanded, List.map_append, fresh.newRows_eq laid wellFormed,
      stockRows_scheduleSeat, List.map_map]
    exact List.mem_append_right _ (List.mem_map.mpr ⟨_, line, rfl⟩)
  · rw [Db.stock, List.filter_map]
    rfl

/-- A run keeps a stocked schedule stocked. -/
theorem Stocked.run
    (stocked : Stocked scheduleId venueId layout stock installation)
    (run :
      TransitionSystem.RunWhere Installation.step
        (opensFor scheduleId venueId) installation next) :
    Stocked scheduleId venueId layout stock next :=
  run.invariant stocked fun _ _ _ stocked allowed taken =>
    stocked.step allowed taken

end Runs

/--
What the two calls do with a layout.  `keeps` is what holds from the opening of
a schedule on: its rows stay those of the layout, and no expansion for its
venue, with whatever layout, makes or changes a row.
-/
structure Expands (installation : Installation) (layout : VenueLayout)
    (venueId : Nat) (halls : Halls) : Prop where
  created :
    ScheduleService.createVenue layout installation.toHalls =
      .ok (venueId, halls)
  opens :
    ∀ before scheduleId,
      TransitionSystem.Reachable step { installation with toHalls := halls }
          before →
        before.Fresh scheduleId →
          ∃ count opened,
            ScheduleService.expandScheduleSeats scheduleId venueId layout
                before = .ok (count, opened) ∧
              (count : Int) = layout.totalSeats ∧
              Opens layout scheduleId before opened
  keeps :
    ∀ before scheduleId count opened later,
      TransitionSystem.Reachable step { installation with toHalls := halls }
          before →
        before.Fresh scheduleId →
          ScheduleService.expandScheduleSeats scheduleId venueId layout
              before = .ok (count, opened) →
            TransitionSystem.RunWhere step (opensFor scheduleId venueId) opened
                later →
              (later.rowsOf scheduleId).map ScheduleSeat.stock =
                  (opened.rowsOf scheduleId).map ScheduleSeat.stock ∧
                (later.rowsOf scheduleId).length = count ∧
                ∀ again : VenueLayout, again.StockStorable →
                  ∃ after,
                    ScheduleService.expandScheduleSeats scheduleId venueId again
                        later = .ok (0, after) ∧
                      after = { later with stockSeq := after.stockSeq }

/--
Every well-formed layout that PostgreSQL can store is created and expanded
exactly, and expanding it again changes nothing in any later state; the two
calls raise on what cannot be stored.
-/
theorem expands {installation : Installation}
    (sound : installation.toHalls.Sound) {layout : VenueLayout}
    (wellFormed : layout.WellFormed) :
    (layout.SeatsStorable → layout.StockStorable →
        ∃ venueId halls, Expands installation layout venueId halls) ∧
      (¬ layout.SeatsStorable →
        ∃ error,
          ScheduleService.createVenue layout installation.toHalls =
            .error error) ∧
      (¬ layout.StockStorable →
        ∀ scheduleId venueId before,
          ∃ error,
            ScheduleService.expandScheduleSeats scheduleId venueId layout
                before = .error error) := by
  refine ⟨?_, ?_, ?_⟩
  · intro seatsStorable stockStorable
    refine
      ⟨installation.venueSeq + 1, installation.toHalls.withVenue layout,
        { created :=
            ScheduleService.createVenue_ok.mpr ⟨seatsStorable, rfl⟩
          opens := ?_
          keeps := ?_ }⟩
    · intro before scheduleId run fresh
      have opens := fresh.opens (laid_run sound wellFormed run) wellFormed
      exact
        ⟨_, _, fresh.expand stockStorable, opens.length wellFormed, opens⟩
    · intro before scheduleId count opened later run fresh ok rest
      rw [fresh.expand stockStorable] at ok
      cases ok
      have laid := laid_run sound wellFormed run
      have stocked := (fresh.stocked laid wellFormed).run rest
      have lengths := congrArg List.length stocked.rowsOf
      rw [List.length_map, List.length_map] at lengths
      exact
        ⟨stocked.rowsOf, lengths, fun again storable => stocked.expand storable⟩
  · exact ScheduleService.createVenue_error
  · intro unstorable scheduleId venueId before
    exact ScheduleService.expandScheduleSeats_error unstorable

/-- The hall with one seat, where a second schedule has no stock yet. -/
def oneSeat : Installation where
  toWorld := .oneSeat
  venues := [{ id := 1, name := "작은 홀", address := "서울시 어딘가" }]
  seats := [{ id := 1, zone := "1층", rowLabel := "A", colNo := 1, venueId := 1 }]
  schedules := [1, 2]
  venueSeq := 1
  seatSeq := 1
  stockSeq := 1

theorem sound_oneSeat : oneSeat.toHalls.Sound where
  idUnique := by decide
  idBound := by decide
  positionUnique := by decide
  venueBound := by decide

theorem wellFormed_demoHall : ScheduleService.demoHall.WellFormed where
  widths := by decide
  distinct := by decide

theorem expands_demoHall :
    ∃ halls opened,
      ScheduleService.createVenue ScheduleService.demoHall oneSeat.toHalls =
          .ok (2, halls) ∧
        ScheduleService.expandScheduleSeats 2 2 ScheduleService.demoHall
            { oneSeat with toHalls := halls } = .ok (1200, opened) ∧
          Opens ScheduleService.demoHall 2 { oneSeat with toHalls := halls }
            opened := by
  obtain ⟨venueId, halls, both⟩ :=
    (expands sound_oneSeat wellFormed_demoHall).1 (by decide) (by decide)
  have created := (ScheduleService.createVenue_ok.mp both.created).2
  cases created
  obtain ⟨count, opened, ok, counted, opens⟩ :=
    both.opens _ 2 .refl (by decide)
  have seats : ScheduleService.demoHall.totalSeats = 1200 := by decide
  obtain rfl : count = 1200 := by omega
  exact ⟨_, opened, both.created, ok, opens⟩

/-- One row of one seat, at a price that the column of the prices cannot hold. -/
def overpriced : VenueLayout where
  name := "작은 홀"
  address := "서울시 어딘가"
  rows :=
    [{ zone := "1층", rowLabel := "A", width := 1, grade := "VIP"
       price := 2147483648 }]

/-- Not every layout is expanded: one call creates the venue, the other raises. -/
theorem expands_fails :
    ¬ ∀ (installation : Installation) (layout : VenueLayout),
      installation.toHalls.Sound → layout.WellFormed →
        ∃ venueId halls,
          ScheduleService.createVenue layout installation.toHalls =
              .ok (venueId, halls) ∧
            ∀ scheduleId, installation.Fresh scheduleId →
              ∃ count opened,
                ScheduleService.expandScheduleSeats scheduleId venueId layout
                  { installation with toHalls := halls } =
                    .ok (count, opened) := by
  intro always
  obtain ⟨venueId, halls, -, opens⟩ :=
    always oneSeat overpriced sound_oneSeat
      { widths := by decide, distinct := by decide }
  obtain ⟨count, opened, ok⟩ := opens 2 (by decide)
  have storable := ScheduleService.storable_of_expandScheduleSeats ok
  revert storable
  decide

end Installation

end Curtain
