import Mathlib.Data.List.Nodup
import Mathlib.Data.List.Perm.Basic
import Mathlib.Data.List.Sort
import Mathlib.Tactic.Common

/-!
# Relational tables as lists of rows

The fragment of SQL that row-oriented programs use: three-valued comparison
with `NULL`, `UPDATE … WHERE … RETURNING`, outer joins and uniqueness of a
column.  Rows and columns are arbitrary; a column is a function on rows.
-/

namespace Table

variable {Row Other Column : Type*}

/-! ## Three-valued logic -/

/-- The truth value of an SQL condition; `none` is `NULL`. -/
abbrev Truth := Option Bool

/-- A `WHERE` clause keeps a row when its condition is true, not when it is `NULL`. -/
def Truth.holds (truth : Truth) : Bool :=
  truth == some true

/-- `NOT`. -/
def Truth.not (truth : Truth) : Truth :=
  truth.map (!·)

/-- `AND`: false as soon as one side is false. -/
def Truth.and : Truth → Truth → Truth
  | some false, _ => some false
  | _, some false => some false
  | some true, right => right
  | none, _ => none

/-- `OR`: true as soon as one side is true. -/
def Truth.or : Truth → Truth → Truth
  | some true, _ => some true
  | _, some true => some true
  | some false, right => right
  | none, _ => none

/-- A comparison on a nullable column; on `NULL` it is `NULL`. -/
def whenPresent {Value : Type*}
    (column : Option Value) (test : Value → Bool) : Truth :=
  column.map test

@[simp]
theorem Truth.holds_some (truth : Bool) :
    Truth.holds (some truth) = truth := by
  cases truth <;> rfl

@[simp]
theorem Truth.holds_and (left right : Truth) :
    (left.and right).holds = (left.holds && right.holds) := by
  rcases left with _ | _ | _ <;> rcases right with _ | _ | _ <;> rfl

@[simp]
theorem Truth.holds_or (left right : Truth) :
    (left.or right).holds = (left.holds || right.holds) := by
  rcases left with _ | _ | _ <;> rcases right with _ | _ | _ <;> rfl

@[simp]
theorem Truth.some_and (left right : Bool) :
    Truth.and (some left) (some right) = some (left && right) := by
  cases left <;> cases right <;> rfl

@[simp]
theorem Truth.some_or (left right : Bool) :
    Truth.or (some left) (some right) = some (left || right) := by
  cases left <;> cases right <;> rfl

/-- `NOT` is the complement where there is no `NULL`. -/
theorem Truth.holds_not {truth : Truth} (known : truth.isSome = true) :
    truth.not.holds = !truth.holds := by
  rcases truth with _ | _ | _
  · cases known
  · rfl
  · rfl

@[simp]
theorem holds_whenPresent {Value : Type*}
    (column : Option Value) (test : Value → Bool) :
    (whenPresent column test).holds = column.any test := by
  cases column with
  | none => rfl
  | some value => cases found : test value <;> simp [whenPresent, found]

/-! ## Conditional updates -/

/-- `UPDATE … SET change WHERE condition`. -/
def updateWhere
    (condition : Row → Bool) (change : Row → Row)
    (rows : List Row) : List Row :=
  rows.map fun row => if condition row then change row else row

/-- The `RETURNING` rows of `updateWhere`. -/
def updatedRows
    (condition : Row → Bool) (change : Row → Row)
    (rows : List Row) : List Row :=
  (rows.filter condition).map change

variable {condition : Row → Bool} {change : Row → Row} {rows : List Row}

@[simp]
theorem updateWhere_length :
    (updateWhere condition change rows).length = rows.length := by
  simp [updateWhere]

theorem mem_updateWhere {row : Row} :
    row ∈ updateWhere condition change rows ↔
      ∃ old ∈ rows,
        (condition old = true ∧ row = change old) ∨
          (condition old = false ∧ row = old) := by
  simp only [updateWhere, List.mem_map]
  constructor
  · rintro ⟨old, member, rfl⟩
    refine ⟨old, member, ?_⟩
    cases found : condition old <;> simp
  · rintro ⟨old, member, ⟨found, rfl⟩ | ⟨found, rfl⟩⟩
    · exact ⟨old, member, by simp [found]⟩
    · exact ⟨row, member, by simp [found]⟩

/-- A row that fails the condition is still in the table. -/
theorem mem_updateWhere_of_not {row : Row}
    (member : row ∈ rows) (untouched : condition row = false) :
    row ∈ updateWhere condition change rows :=
  mem_updateWhere.mpr ⟨row, member, Or.inr ⟨untouched, rfl⟩⟩

/-- A row that meets the condition is in the table in its new form. -/
theorem mem_updateWhere_of {row : Row}
    (member : row ∈ rows) (touched : condition row = true) :
    change row ∈ updateWhere condition change rows :=
  mem_updateWhere.mpr ⟨row, member, Or.inl ⟨touched, rfl⟩⟩

/-- Columns that the `SET` clause leaves alone keep their values, row by row. -/
theorem map_updateWhere
    (column : Row → Column)
    (kept : ∀ row, column (change row) = column row)
    (rows : List Row) :
    (updateWhere condition change rows).map column = rows.map column := by
  simp only [updateWhere, List.map_map]
  apply List.map_congr_left
  intro row _
  by_cases found : condition row = true <;> simp [found, kept]

/-- Without a matching row nothing changes. -/
theorem updateWhere_eq_self
    (none : ∀ row ∈ rows, condition row = false) :
    updateWhere condition change rows = rows := by
  rw [updateWhere]
  calc
    rows.map (fun row => if condition row then change row else row) =
        rows.map id := by
      apply List.map_congr_left
      intro row member
      simp [none row member]
    _ = rows := List.map_id rows

@[simp]
theorem updatedRows_eq_nil :
    updatedRows condition change rows = [] ↔
      ∀ row ∈ rows, condition row = false := by
  simp [updatedRows, List.filter_eq_nil_iff]

/-- Only the changed rows of an update pass a test. -/
theorem filter_updateWhere {test : Row → Bool}
    (touched :
      ∀ row ∈ rows, condition row = true → test (change row) = true)
    (untouched : ∀ row ∈ rows, condition row = false → test row = false) :
    (updateWhere condition change rows).filter test =
      updatedRows condition change rows := by
  induction rows with
  | nil => rfl
  | cons row rest induction =>
      have inRest :=
        induction (fun other member => touched other (List.mem_cons_of_mem _ member))
          (fun other member => untouched other (List.mem_cons_of_mem _ member))
      simp only [updateWhere, updatedRows, List.map_cons] at inRest ⊢
      cases found : condition row with
      | true =>
          have passes := touched row List.mem_cons_self found
          simp [found, passes, inRest]
      | false =>
          have fails := untouched row List.mem_cons_self found
          simp [found, fails, inRest]

/-- An update that touches no row of a selection leaves the selection alone. -/
theorem filter_updateWhere_of_apart {test : Row → Bool}
    (apart :
      ∀ row, condition row = true → test row = false ∧ test (change row) = false) :
    (updateWhere condition change rows).filter test = rows.filter test := by
  induction rows with
  | nil => rfl
  | cons row rest induction =>
      simp only [updateWhere, List.map_cons, List.filter_cons] at induction ⊢
      cases touched : condition row with
      | true => simp [apart row touched, induction]
      | false => simp [induction]

/-- Rows that an update takes out of a selection are missing from it afterwards. -/
theorem filter_updateWhere_of_leaves {test : Row → Bool}
    (leaves : ∀ row, condition row = true → test (change row) = false) :
    (updateWhere condition change rows).filter test =
      rows.filter fun row => test row && !condition row := by
  induction rows with
  | nil => rfl
  | cons row rest induction =>
      simp only [updateWhere, List.map_cons, List.filter_cons] at induction ⊢
      cases touched : condition row with
      | true => simp [leaves row touched, induction]
      | false => simp [induction]

/-- Inserting rows outside of a selection leaves the selection alone. -/
theorem filter_append_of_apart {test : Row → Bool} {inserted : List Row}
    (apart : ∀ row ∈ inserted, test row = false) :
    (rows ++ inserted).filter test = rows.filter test := by
  have none : inserted.filter test = [] := by
    rw [List.filter_eq_nil_iff]
    intro row member
    simp [apart row member]
  rw [List.filter_append, none, List.append_nil]

/-- Every row is related to what an update makes of it. -/
theorem forall₂_updateWhere {related : Row → Row → Prop}
    (same : ∀ row, related row row)
    (touched :
      ∀ row ∈ rows, condition row = true → related row (change row)) :
    List.Forall₂ related rows (updateWhere condition change rows) := by
  induction rows with
  | nil => exact .nil
  | cons row rest induction =>
      refine
        .cons ?_
          (induction fun other member =>
            touched other (List.mem_cons_of_mem _ member))
      cases found : condition row with
      | false => simpa [found] using same row
      | true => simpa [found] using touched row List.mem_cons_self found

/-- Two conditions that agree on the rows update alike. -/
theorem updateWhere_congr {other : Row → Bool}
    (agree : ∀ row ∈ rows, condition row = other row) :
    updateWhere condition change rows = updateWhere other change rows := by
  apply List.map_congr_left
  intro row member
  rw [agree row member]

theorem updatedRows_congr {other : Row → Bool}
    (agree : ∀ row ∈ rows, condition row = other row) :
    updatedRows condition change rows = updatedRows other change rows := by
  rw [updatedRows, updatedRows, List.filter_congr agree]

/-- Updating no row at all. -/
@[simp]
theorem updateWhere_false :
    updateWhere (fun _ => false) change rows = rows :=
  updateWhere_eq_self fun _ _ => rfl

/-- A narrower condition that keeps as many rows keeps the same rows. -/
theorem filter_eq_of_length_le {wider : Row → Bool}
    (narrower : ∀ row ∈ rows, condition row = true → wider row = true)
    (asMany : (rows.filter wider).length ≤ (rows.filter condition).length) :
    rows.filter condition = rows.filter wider := by
  have twice :
      rows.filter condition = (rows.filter wider).filter condition := by
    rw [List.filter_filter]
    apply List.filter_congr
    intro row member
    cases found : condition row with
    | false => rfl
    | true => simp [narrower row member found]
  rw [twice] at asMany ⊢
  exact List.filter_sublist.eq_of_length_le asMany

/-! ## Ordering rows -/

section Ordering

variable {condition : Row → Bool} {rows : List Row}

/-- Rows that a condition selects up to some place are the beginning of a table. -/
theorem filter_prefix
    (early :
      rows.Pairwise fun first second =>
        condition second = true → condition first = true) :
    rows.filter condition <+: rows := by
  induction early with
  | nil => exact List.prefix_rfl
  | @cons row rows later _ induction =>
      cases meets : condition row with
      | true =>
          rw [List.filter_cons_of_pos meets]
          exact (List.prefix_cons_inj row).mpr induction
      | false =>
          have none : (row :: rows).filter condition = [] := by
            rw [List.filter_cons_of_neg (by simp [meets]), List.filter_eq_nil_iff]
            intro other member found
            rw [later other member found] at meets
            cases meets
          rw [none]
          exact List.nil_prefix

variable {before : Row → Row → Prop} [DecidableRel before]

theorem orderedInsert_of_least {row : Row}
    (least : ∀ other ∈ rows, before row other) :
    rows.orderedInsert before row = row :: rows := by
  cases rows with
  | nil => rfl
  | cons first rest =>
      rw [List.orderedInsert_cons, if_pos (least first List.mem_cons_self)]

variable [IsTrans Row before]

theorem filter_orderedInsert (row : Row) (ordered : rows.Pairwise before) :
    (rows.orderedInsert before row).filter condition =
      if condition row then (rows.filter condition).orderedInsert before row
      else rows.filter condition := by
  induction ordered with
  | nil => cases meets : condition row <;> simp [meets]
  | @cons first rest least _ induction =>
      rw [List.orderedInsert_cons]
      by_cases comes : before row first
      · have leads :
            ∀ other ∈ (first :: rest).filter condition, before row other := by
          intro other member
          rcases List.mem_cons.mp (List.mem_filter.mp member).1 with rfl | later
          · exact comes
          · exact IsTrans.trans _ _ _ comes (least other later)
        rw [if_pos comes, List.filter_cons, orderedInsert_of_least leads]
      · rw [if_neg comes, List.filter_cons, induction, List.filter_cons]
        cases meets : condition first with
        | false => rfl
        | true =>
            simp only [if_true, List.orderedInsert_cons, if_neg comes]
            split <;> rfl

/-- Ordering some of the rows is selecting them from the ordered rows. -/
theorem filter_insertionSort [Std.Total before] :
    (rows.insertionSort before).filter condition =
      (rows.filter condition).insertionSort before := by
  induction rows with
  | nil => rfl
  | cons row rows induction =>
      rw [List.insertionSort_cons,
        filter_orderedInsert row (List.pairwise_insertionSort before rows),
        induction, List.filter_cons]
      split <;> rfl

/-- Rows of which no two are tied have one order only. -/
theorem insertionSort_eq_of_perm [Std.Total before] {others : List Row}
    (same : rows.Perm others)
    (untied :
      ∀ left ∈ others, ∀ right ∈ others,
        before left right → before right left → left = right) :
    rows.insertionSort before = others.insertionSort before := by
  have sorted : (rows.insertionSort before).Perm others :=
    (List.perm_insertionSort before rows).trans same
  have otherSorted := List.perm_insertionSort before others
  refine
    List.Perm.eq_of_pairwise ?_ (List.pairwise_insertionSort before rows)
      (List.pairwise_insertionSort before others)
      (sorted.trans otherSorted.symm)
  intro left right leftMember rightMember
  exact
    untied left (sorted.subset leftMember) right (otherSorted.subset rightMember)

end Ordering

/-! ## Counting rows -/

/-- Two conditions of which no row meets both are counted together. -/
theorem countP_add_countP {left right : Row → Bool}
    (disjoint : ∀ row ∈ rows, left row = true → right row = false) :
    rows.countP left + rows.countP right =
      rows.countP fun row => left row || right row := by
  induction rows with
  | nil => rfl
  | cons row rest induction =>
      have inRest :=
        induction fun other member =>
          disjoint other (List.mem_cons_of_mem _ member)
      simp only [List.countP_cons, ← inRest]
      cases first : left row with
      | true =>
          have second := disjoint row List.mem_cons_self first
          simp [second]
          omega
      | false =>
          simp
          omega

/-- An update after which only rows count that did before. -/
theorem countP_updateWhere_le {counts countsLater : Row → Bool}
    (kept :
      ∀ row ∈ rows,
        countsLater (if condition row then change row else row) = true →
          counts row = true) :
    (updateWhere condition change rows).countP countsLater ≤
      rows.countP counts := by
  rw [updateWhere, List.countP_map]
  exact List.countP_mono_left kept

/-- Counting the rows of two conditions together counts none twice. -/
theorem countP_or_le (left right : Row → Bool) (rows : List Row) :
    (rows.countP fun row => left row || right row) ≤
      rows.countP left + rows.countP right := by
  have parted :
      (rows.countP fun row => left row || right row) =
        rows.countP left + rows.countP fun row => right row && !left row := by
    rw [countP_add_countP fun row _ found => by simp [found]]
    congr 1
    funext row
    cases left row <;> simp
  rw [parted]
  apply Nat.add_le_add_left
  exact List.countP_mono_left fun row _ both => (Bool.and_eq_true _ _ ▸ both).1

/-- An update adds no more to a count than the rows it touches. -/
theorem countP_updateWhere_le_add {counts countsLater : Row → Bool}
    (kept :
      ∀ row ∈ rows, condition row = false → countsLater row = true →
        counts row = true) :
    (updateWhere condition change rows).countP countsLater ≤
      rows.countP counts + rows.countP condition := by
  refine Nat.le_trans ?_ (countP_or_le counts condition rows)
  apply countP_updateWhere_le
  intro row member later
  cases touched : condition row with
  | true => simp
  | false =>
      rw [touched, if_neg Bool.false_ne_true] at later
      simp [kept row member touched later]

/-! ## Unique columns -/

/-- A `UNIQUE` column that is never `NULL`. -/
def Unique (column : Row → Column) (rows : List Row) : Prop :=
  (rows.map column).Nodup

/-- A nullable `UNIQUE` column: `NULL`s do not collide. -/
def UniqueNullable (column : Row → Option Column) (rows : List Row) : Prop :=
  (rows.filterMap column).Nodup

instance [DecidableEq Column] (column : Row → Column) (rows : List Row) :
    Decidable (Unique column rows) :=
  inferInstanceAs (Decidable (List.Nodup _))

instance [DecidableEq Column] (column : Row → Option Column) (rows : List Row) :
    Decidable (UniqueNullable column rows) :=
  inferInstanceAs (Decidable (List.Nodup _))

variable {column : Row → Column}

theorem Unique.eq
    (unique : Unique column rows) {left right : Row}
    (leftMember : left ∈ rows) (rightMember : right ∈ rows)
    (equal : column left = column right) :
    left = right :=
  List.inj_on_of_nodup_map unique leftMember rightMember equal

/-- Among the rows of a table, membership in a part of it can be read off a key. -/
theorem Unique.mem_map_iff
    (unique : Unique column rows) {part : List Row} {row : Row}
    (included : part ⊆ rows) (member : row ∈ rows) :
    column row ∈ part.map column ↔ row ∈ part := by
  constructor
  · intro found
    obtain ⟨other, otherMember, equal⟩ := List.mem_map.mp found
    rwa [← unique.eq (included otherMember) member equal]
  · exact List.mem_map_of_mem

/-- The keys of a selection, in any order, tell its rows from the others. -/
theorem Unique.contains_of_perm [BEq Column] [LawfulBEq Column]
    (unique : Unique column rows) {keys : List Column}
    (listed : keys.Perm ((rows.filter condition).map column)) {row : Row}
    (member : row ∈ rows) :
    keys.contains (column row) = condition row := by
  have included : rows.filter condition ⊆ rows :=
    fun _ found => (List.mem_filter.mp found).1
  rw [Bool.eq_iff_iff, List.contains_iff_mem, listed.mem_iff,
    unique.mem_map_iff included member, List.mem_filter]
  exact and_iff_right member

/-- No more rows have one of the keys than there are keys. -/
theorem Unique.countP_contains_le [BEq Column] [LawfulBEq Column]
    (unique : Unique column rows) (keys : List Column) :
    (rows.countP fun row => keys.contains (column row)) ≤ keys.length := by
  have distinct :
      ((rows.filter fun row => keys.contains (column row)).map column).Nodup :=
    List.Nodup.sublist (List.filter_sublist.map column) unique
  have included :
      (rows.filter fun row => keys.contains (column row)).map column ⊆ keys := by
    intro key member
    obtain ⟨row, rowMember, rfl⟩ := List.mem_map.mp member
    exact List.contains_iff_mem.mp (List.mem_filter.mp rowMember).2
  have bound := (List.subperm_of_subset distinct included).length_le
  rwa [List.length_map, ← List.countP_eq_length_filter] at bound

/-- A unique column that an update leaves alone stays unique. -/
theorem Unique.updateWhere
    (unique : Unique column rows)
    (kept : ∀ row, column (change row) = column row) :
    Unique column (updateWhere condition change rows) := by
  rw [Unique, map_updateWhere column kept]
  exact unique

theorem unique_append {inserted : List Row} :
    Unique column (rows ++ inserted) ↔
      Unique column rows ∧ Unique column inserted ∧
        ∀ old ∈ rows, ∀ new ∈ inserted, column old ≠ column new := by
  rw [Unique, List.map_append, List.nodup_append]
  simp only [Unique, List.forall_mem_map]

theorem unique_append_singleton {row : Row} :
    Unique column (rows ++ [row]) ↔
      Unique column rows ∧ ∀ old ∈ rows, column old ≠ column row := by
  rw [unique_append]
  simp [Unique]

/-- The row with a given key. -/
def lookup [DecidableEq Column]
    (column : Row → Column) (key : Column) (rows : List Row) : Option Row :=
  rows.find? fun row => column row = key

section Lookup

variable [DecidableEq Column] {key : Column}

theorem lookup_mem {row : Row}
    (found : lookup column key rows = some row) :
    row ∈ rows ∧ column row = key := by
  refine ⟨List.mem_of_find?_eq_some found, ?_⟩
  simpa using List.find?_some found

@[simp]
theorem lookup_eq_none :
    lookup column key rows = none ↔ ∀ row ∈ rows, column row ≠ key := by
  simp [lookup]

/-- With a unique key, looking a row up by its own key finds it. -/
theorem lookup_eq_some {row : Row}
    (unique : Unique column rows) :
    lookup column key rows = some row ↔ row ∈ rows ∧ column row = key := by
  constructor
  · exact lookup_mem
  · rintro ⟨member, rfl⟩
    cases found : lookup column (column row) rows with
    | none =>
        exact absurd rfl (lookup_eq_none.mp found row member)
    | some other =>
        obtain ⟨otherMember, equal⟩ := lookup_mem found
        rw [unique.eq otherMember member equal]

end Lookup

/-! ## Outer joins -/

/-- `rows LEFT OUTER JOIN others ON matching`. -/
def leftJoin
    (rows : List Row) (others : List Other)
    (matching : Row → Other → Bool) : List (Row × Option Other) :=
  rows.flatMap fun row =>
    match others.filter (matching row) with
    | [] => [(row, none)]
    | found => found.map fun other => (row, some other)

/--
When every row has at most one partner, the join has one line for each row,
and that line shows the partner that a search finds.
-/
theorem leftJoin_of_functional
    (rows : List Row) (others : List Other)
    (matching : Row → Other → Bool)
    (functional :
      ∀ row ∈ rows, (others.filter (matching row)).length ≤ 1) :
    leftJoin rows others matching =
      rows.map fun row => (row, others.find? (matching row)) := by
  induction rows with
  | nil => rfl
  | cons row rest induction =>
      have short := functional row List.mem_cons_self
      have tail :=
        induction fun other member =>
          functional other (List.mem_cons_of_mem row member)
      rw [leftJoin] at tail
      rw [leftJoin, List.flatMap_cons, tail, List.map_cons, ← List.head?_filter]
      cases found : others.filter (matching row) with
      | nil => rfl
      | cons head remaining =>
          have empty : remaining = [] := by
            rw [found] at short
            simpa using short
          subst empty
          rfl

/-! ## Inner joins and aggregates -/

/-- `rows JOIN others ON matching`. -/
def join
    (rows : List Row) (others : List Other)
    (matching : Row → Other → Bool) : List (Row × Other) :=
  rows.flatMap fun row =>
    (others.filter (matching row)).map fun other => (row, other)

@[simp]
theorem mem_join {others : List Other} {matching : Row → Other → Bool}
    {line : Row × Other} :
    line ∈ join rows others matching ↔
      line.1 ∈ rows ∧ line.2 ∈ others ∧ matching line.1 line.2 = true := by
  obtain ⟨row, other⟩ := line
  simp only [join, List.mem_flatMap, List.mem_map, List.mem_filter,
    Prod.mk.injEq]
  constructor
  · rintro ⟨_, member, _, ⟨otherMember, matches_⟩, rfl, rfl⟩
    exact ⟨member, otherMember, matches_⟩
  · rintro ⟨member, otherMember, matches_⟩
    exact ⟨row, member, other, ⟨otherMember, matches_⟩, rfl, rfl⟩

/-- A join with the images of some rows is the image of a join with them. -/
theorem join_map_right {Source : Type*} (image : Source → Other)
    (sources : List Source) (matching : Row → Other → Bool) :
    join rows (sources.map image) matching =
      (join rows sources fun row source => matching row (image source)).map
        fun line => (line.1, image line.2) := by
  simp only [join, List.map_flatMap, List.filter_map, List.map_map]
  rfl

/-- Tables without duplicates are joined without duplicates. -/
theorem join_nodup {others : List Other} {matching : Row → Other → Bool}
    (distinct : rows.Nodup) (othersDistinct : others.Nodup) :
    (join rows others matching).Nodup := by
  rw [join, List.nodup_flatMap]
  constructor
  · intro row _
    refine (othersDistinct.filter _).map ?_
    intro left right equal
    exact (Prod.mk.inj equal).2
  · refine distinct.imp ?_
    intro left right differ line leftMember rightMember
    obtain ⟨_, -, rfl⟩ := List.mem_map.mp leftMember
    obtain ⟨_, -, equal⟩ := List.mem_map.mp rightMember
    exact differ (Prod.mk.inj equal).1.symm

/-- `array_agg(value ORDER BY value)`, which is `NULL` where there is no row. -/
def arrayAgg {Value : Type*} (before : Value → Value → Prop)
    [DecidableRel before] (values : List Value) : Option (List Value) :=
  if values.isEmpty then none else some (values.insertionSort before)

/-- With an empty array in place of `NULL` an aggregate is the sorted list. -/
@[simp]
theorem arrayAgg_getD {Value : Type*} {before : Value → Value → Prop}
    [DecidableRel before] (values : List Value) :
    (arrayAgg before values).getD [] = values.insertionSort before := by
  cases values <;> rfl

/-! ## Views -/

section Views

variable {Value : Type*} {view : Row → Row} {read : Row → Value}
variable {others : List Row}

/-- Whoever reads no more than this cannot tell a row from its view. -/
def Blind (view : Row → Row) (read : Row → Value) : Prop :=
  ∀ row, read (view row) = read row

theorem Blind.map (blind : Blind view read) (rows : List Row) :
    (rows.map view).map read = rows.map read := by
  rw [List.map_map]
  exact List.map_congr_left fun row _ => blind row

theorem Blind.filter (blind : Blind view condition) (rows : List Row) :
    (rows.map view).filter condition = (rows.filter condition).map view := by
  rw [List.filter_map]
  congr 1
  exact List.filter_congr fun row _ => blind row

/-- Tables with one view are the same to a blind query. -/
theorem Blind.select (same : others.map view = rows.map view)
    (test : Blind view condition) (blind : Blind view read) :
    (others.filter condition).map read = (rows.filter condition).map read := by
  rw [← blind.map, ← blind.map (rows.filter condition), ← test.filter,
    ← test.filter, same]

theorem Blind.countP (same : others.map view = rows.map view)
    (test : Blind view condition) :
    others.countP condition = rows.countP condition := by
  have seen (table : List Row) :
      (table.map view).countP condition = table.countP condition := by
    rw [List.countP_map]
    exact List.countP_congr fun row _ => by rw [Function.comp_apply, test row]
  rw [← seen, same, seen]

/-- So they are to a query that orders its rows by what it sees. -/
theorem Blind.selectSorted {before : Row → Row → Prop}
    [DecidableRel before] (same : others.map view = rows.map view)
    (test : Blind view condition)
    (order : ∀ left right, before left right ↔ before (view left) (view right))
    (blind : Blind view read) :
    ((others.filter condition).insertionSort before).map read =
      ((rows.filter condition).insertionSort before).map read := by
  have seen (table : List Row) :
      ((table.filter condition).insertionSort before).map view =
        ((table.map view).filter condition).insertionSort before := by
    rw [test.filter]
    exact List.map_insertionSort _ _ _ _ fun left _ right _ => order left right
  rw [← blind.map, ← blind.map (List.insertionSort _ _), seen, seen, same]

/-- An update that does to a row what it does to its view. -/
theorem map_view_updateWhere (same : others.map view = rows.map view)
    (agrees :
      ∀ row,
        view (if condition row then change row else row) =
          view
            (if condition (view row) then change (view row) else view row)) :
    (updateWhere condition change others).map view =
      (updateWhere condition change rows).map view := by
  have seen (table : List Row) :
      (updateWhere condition change table).map view =
        (updateWhere condition change (table.map view)).map view := by
    rw [updateWhere, updateWhere, List.map_map, List.map_map, List.map_map]
    exact List.map_congr_left fun row _ => agrees row
  rw [seen, seen rows, same]

/-- An update that goes by what the view shows, and changes nothing else. -/
theorem updateWhere_map_view (blind : Blind view condition)
    (agrees : ∀ row, change (view row) = view (change row)) :
    updateWhere condition change (rows.map view) =
      (updateWhere condition change rows).map view := by
  rw [updateWhere, updateWhere, List.map_map, List.map_map]
  apply List.map_congr_left
  intro row _
  rw [Function.comp_apply, Function.comp_apply, blind row, agrees row]
  split <;> rfl

end Views

/-! ## Conditional inserts -/

section Inserts

variable [DecidableEq Column]

/--
The rows that `INSERT … ON CONFLICT (column) DO NOTHING` inserts: those whose
key neither the table nor an earlier candidate has.
-/
def insertNew (column : Row → Column) : List Row → List Row → List Row
  | [], _ => []
  | candidate :: rest, rows =>
      if column candidate ∈ rows.map column then insertNew column rest rows
      else candidate :: insertNew column rest (rows ++ [candidate])

variable {candidates : List Row}

theorem insertNew_sublist :
    (insertNew column candidates rows).Sublist candidates := by
  induction candidates generalizing rows with
  | nil => exact .slnil
  | cons candidate rest induction =>
      rw [insertNew]
      split
      · exact induction.cons candidate
      · exact induction.cons_cons candidate

/-- Candidates whose keys are all taken are all passed over. -/
theorem insertNew_eq_nil
    (taken : ∀ candidate ∈ candidates, column candidate ∈ rows.map column) :
    insertNew column candidates rows = [] := by
  induction candidates with
  | nil => rfl
  | cons candidate rest induction =>
      rw [insertNew, if_pos (taken candidate List.mem_cons_self)]
      exact induction fun other member =>
        taken other (List.mem_cons_of_mem candidate member)

/-- Candidates that collide with nothing are all inserted. -/
theorem insertNew_eq_self (distinct : Unique column candidates)
    (apart : ∀ candidate ∈ candidates, column candidate ∉ rows.map column) :
    insertNew column candidates rows = candidates := by
  induction candidates generalizing rows with
  | nil => rfl
  | cons candidate rest induction =>
      obtain ⟨unlike, restDistinct⟩ := List.nodup_cons.mp distinct
      rw [insertNew, if_neg (apart candidate List.mem_cons_self),
        induction restDistinct]
      intro other member taken
      rw [List.map_append, List.mem_append] at taken
      rcases taken with old | new
      · exact apart other (List.mem_cons_of_mem candidate member) old
      · rw [List.map_singleton, List.mem_singleton] at new
        exact unlike (new ▸ List.mem_map_of_mem member)

/-- A conditional insert keeps the key unique. -/
theorem Unique.insertNew (unique : Unique column rows) :
    Unique column (rows ++ insertNew column candidates rows) := by
  induction candidates generalizing rows with
  | nil => rwa [Table.insertNew, List.append_nil]
  | cons candidate rest induction =>
      rw [Table.insertNew]
      split
      · exact induction unique
      · rename_i fresh
        have grown : Unique column (rows ++ [candidate]) := by
          refine unique_append_singleton.mpr ⟨unique, ?_⟩
          rintro old member equal
          exact fresh (equal ▸ List.mem_map_of_mem member)
        have all := induction grown
        rwa [List.append_assoc] at all

end Inserts

/-! ## Selecting by unique keys -/

/-- The rows that carry the keys of some of the rows are those rows. -/
theorem Unique.filter_contains_perm [BEq Column] [LawfulBEq Column]
    (unique : Unique column rows) {chosen : List Row}
    (included : chosen ⊆ rows) (distinct : chosen.Nodup) :
    (rows.filter fun row => (chosen.map column).contains (column row)).Perm
      chosen := by
  have apart : rows.Nodup := List.Nodup.of_map column unique
  refine (List.perm_ext_iff_of_nodup (apart.filter _) distinct).mpr ?_
  intro row
  rw [List.mem_filter, List.contains_iff_mem]
  constructor
  · rintro ⟨member, listed⟩
    exact (unique.mem_map_iff included member).mp listed
  · intro member
    exact ⟨included member, List.mem_map_of_mem member⟩

/-- Searching a list by a unique column meets at most one row. -/
theorem Unique.filter_length_le
    [DecidableEq Column] (unique : Unique column rows) (key : Column) :
    (rows.filter fun row => column row = key).length ≤ 1 := by
  have small :
      ((rows.map column).filter fun value => value = key).length ≤ 1 := by
    have bound := List.nodup_iff_count_le_one.mp unique key
    rwa [List.count_eq_length_filter] at bound
  rw [List.filter_map, List.length_map] at small
  exact small

/-- At most one element of a list, which is in it, is all of the list. -/
theorem eq_singleton_of_length_le {row : Row}
    (bound : rows.length ≤ 1) (member : row ∈ rows) :
    rows = [row] := by
  cases rows with
  | nil => cases member
  | cons first rest =>
      have empty : rest = [] := by simpa using bound
      subst empty
      rw [List.mem_singleton.mp member]

/-- The only row with the key of a given row is that row. -/
theorem Unique.filter_eq_singleton
    [DecidableEq Column] (unique : Unique column rows) {row : Row}
    (member : row ∈ rows) :
    (rows.filter fun other => column other = column row) = [row] :=
  eq_singleton_of_length_le (unique.filter_length_le (column row))
    (by simp [member])

/-- The only row with a value in a nullable unique column. -/
theorem UniqueNullable.filter_eq_singleton
    [DecidableEq Column] {column : Row → Option Column} {key : Column}
    (unique : UniqueNullable column rows) {row : Row} (member : row ∈ rows)
    (found : column row = some key) :
    (rows.filter fun other => column other == some key) = [row] := by
  refine eq_singleton_of_length_le ?_ (by simp [member, found])
  have bound := List.nodup_iff_count_le_one.mp unique key
  rwa [List.count_filterMap, List.countP_eq_length_filter] at bound

/-- A row may be appended if no other has its value. -/
theorem UniqueNullable.append_iff
    {column : Row → Option Column} {row : Row}
    (unique : UniqueNullable column rows) :
    UniqueNullable column (rows ++ [row]) ↔
      ∀ value ∈ column row, value ∉ rows.filterMap column := by
  rw [UniqueNullable] at unique ⊢
  rw [List.filterMap_append, List.nodup_append_comm]
  cases given : column row with
  | none => simpa [given] using unique
  | some value =>
      rw [List.filterMap_cons_some given, List.filterMap_nil,
        List.singleton_append, List.nodup_cons, and_iff_left unique]
      simp

/-- A value may go to the only row that meets a condition if no other has it. -/
theorem UniqueNullable.updateWhere_iff
    {column : Row → Option Column} {condition : Row → Bool} {change : Row → Row}
    {row : Row} {value : Column}
    (unique : UniqueNullable column rows)
    (only : rows.filter condition = [row])
    (given : column (change row) = some value) :
    UniqueNullable column (updateWhere condition change rows) ↔
      value ∉ (rows.filter fun other => !condition other).filterMap column := by
  obtain ⟨left, right, rfl, leftApart, meets, rightNone⟩ :=
    List.filter_eq_cons_iff.mp only
  have rightApart := List.filter_eq_nil_iff.mp rightNone
  have updated :
      updateWhere condition change (left ++ row :: right) =
        left ++ change row :: right := by
    rw [updateWhere, List.map_append, List.map_cons, if_pos meets,
      ← updateWhere, ← updateWhere,
      updateWhere_eq_self fun other member =>
        Bool.eq_false_iff.mpr (leftApart other member),
      updateWhere_eq_self fun other member =>
        Bool.eq_false_iff.mpr (rightApart other member)]
  have others :
      ((left ++ row :: right).filter fun other => !condition other) =
        left ++ right := by
    rw [List.filter_append, List.filter_cons_of_neg (by simp [meets]),
      List.filter_eq_self.mpr fun other member => by
        simp [leftApart other member],
      List.filter_eq_self.mpr fun other member => by
        simp [rightApart other member]]
  have distinct : ((left ++ right).filterMap column).Nodup := by
    refine unique.sublist (List.Sublist.filterMap column ?_)
    exact (List.Sublist.refl left).append (List.sublist_cons_self row right)
  rw [UniqueNullable, updated, others, List.filterMap_append,
    List.filterMap_cons_some given, List.nodup_middle, List.nodup_cons,
    ← List.filterMap_append]
  exact and_iff_left distinct

end Table
