import Curtain.Lib.Table
import Mathlib.Algebra.BigOperators.Group.List.Basic

/-!
# Totals of a table

The rows of a table that are counted belong to the rows of another one.  When
each of them has one owner, their total is the total over the owners, whatever
is added up.  A count for each value of a column adds up to the whole table.
-/

namespace Table

variable {Row Owner Value : Type*} [AddCommMonoid Value]

/-- One value for each row that satisfies a test. -/
theorem sum_map_ite (test : Owner → Bool) (value : Value) (owners : List Owner) :
    (owners.map fun owner => if test owner then value else 0).sum =
      (owners.filter test).length • value := by
  induction owners with
  | nil => simp
  | cons owner rest induction =>
      cases counted : test owner with
      | false => simp [counted, induction]
      | true => simp [counted, induction, succ_nsmul, add_comm]

/-- The total of the rows that are counted, over all rows. -/
theorem sum_filter (counted : Row → Bool) (amount : Row → Value)
    (rows : List Row) :
    ((rows.filter counted).map amount).sum =
      (rows.map fun row => if counted row then amount row else 0).sum := by
  induction rows with
  | nil => simp
  | cons row rest induction => cases tested : counted row <;> simp [tested, induction]

/-- The total of what is counted, over the owners. -/
theorem sum_filter_eq_sum_owned
    {owns : Owner → Row → Bool} {counted : Row → Bool} {owners : List Owner}
    {rows : List Row} (amount : Row → Value)
    (single :
      ∀ row ∈ rows,
        (owners.filter fun owner => owns owner row).length =
          if counted row then 1 else 0) :
    ((rows.filter counted).map amount).sum =
      (owners.map fun owner => ((rows.filter (owns owner)).map amount).sum).sum := by
  induction rows with
  | nil => simp
  | cons row rest induction =>
      have remaining :=
        induction fun other member => single other (List.mem_cons_of_mem row member)
      have own := single row List.mem_cons_self
      have split (test : Row → Bool) :
          (((row :: rest).filter test).map amount).sum =
            (if test row then amount row else 0) +
              ((rest.filter test).map amount).sum := by
        rw [sum_filter, sum_filter, List.map_cons, List.sum_cons]
      simp only [split, List.sum_map_add]
      rw [sum_map_ite (fun owner => owns owner row), own, remaining]
      cases counted row with
      | true => rw [if_pos rfl, if_pos rfl, one_nsmul]
      | false => simp

/-- What is looked up under an image of a key. -/
theorem lookup_map {Key Name : Type*} {Stored : Type*} [DecidableEq Key] [BEq Name]
    [LawfulBEq Name] {name : Key → Name} (injective : Function.Injective name)
    (stored : Key → Stored) (key : Key) (keys : List Key) :
    (keys.map fun other => (name other, stored other)).lookup (name key) =
      if key ∈ keys then some (stored key) else none := by
  induction keys with
  | nil => rfl
  | cons first rest induction =>
      rw [List.map_cons, List.lookup_cons]
      by_cases same : key = first
      · simp [same]
      · have different : (name key == name first) = false := by
          simpa using fun equal => same (injective equal)
        rw [different, induction]
        simp [same]

end Table
