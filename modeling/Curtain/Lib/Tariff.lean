import Mathlib.Algebra.Order.Ring.Int
import Mathlib.Data.List.Pairwise
import Mathlib.Tactic.Common

/-!
# Graded tariffs

A tariff is a table of thresholds and rates that is read from the top: a level
is charged at the first tier whose threshold it reaches.  The share of an
amount at a rate is taken in whole units and cut off towards zero.
-/

namespace Tariff

/-! ## Tiers -/

section Tiers

variable {Level Rate : Type*} [LinearOrder Level]
variable {tiers : List (Level × Rate)} {level higher : Level} {rate : Rate}

/-- The rate of the first tier whose threshold the level reaches. -/
def rateAt (tiers : List (Level × Rate)) (level : Level) : Option Rate :=
  (tiers.find? fun tier => tier.1 ≤ level).map (·.2)

theorem rateAt_cons (tier : Level × Rate) (rest : List (Level × Rate))
    (level : Level) :
    rateAt (tier :: rest) level =
      if tier.1 ≤ level then some tier.2 else rateAt rest level := by
  rw [rateAt, List.find?_cons]
  by_cases reached : tier.1 ≤ level <;> simp [reached, rateAt]

theorem rateAt_mem (found : rateAt tiers level = some rate) :
    ∃ tier ∈ tiers, tier.1 ≤ level ∧ tier.2 = rate := by
  obtain ⟨tier, first, rfl⟩ := Option.map_eq_some_iff.mp found
  have reached := List.find?_some first
  exact ⟨tier, List.mem_of_find?_eq_some first, by simpa using reached, rfl⟩

/-- A level has a rate as soon as it reaches one of the thresholds. -/
theorem exists_rateAt {tier : Level × Rate}
    (member : tier ∈ tiers) (reached : tier.1 ≤ level) :
    ∃ rate, rateAt tiers level = some rate := by
  cases found : tiers.find? fun tier => tier.1 ≤ level with
  | none =>
      have missed := List.find?_eq_none.mp found tier member
      simp [reached] at missed
  | some first => exact ⟨first.2, by rw [rateAt, found, Option.map_some]⟩

/-- The thresholds fall and the rates rise from each tier to the next ones. -/
def Graded [LE Rate] (tiers : List (Level × Rate)) : Prop :=
  tiers.Pairwise fun upper lower => lower.1 ≤ upper.1 ∧ upper.2 ≤ lower.2

instance [LE Rate] [DecidableLE Rate] (tiers : List (Level × Rate)) :
    Decidable (Graded tiers) :=
  inferInstanceAs (Decidable (List.Pairwise _ _))

/-- A higher level is not charged at a higher rate. -/
theorem Graded.rateAt_le [Preorder Rate] {lower : Rate}
    (graded : Graded tiers) (above : level ≤ higher)
    (found : rateAt tiers level = some rate)
    (foundHigher : rateAt tiers higher = some lower) :
    lower ≤ rate := by
  induction tiers with
  | nil => cases found
  | cons tier rest induction =>
      obtain ⟨first, later⟩ := List.pairwise_cons.mp graded
      rw [rateAt_cons] at found foundHigher
      by_cases reached : tier.1 ≤ level
      · rw [if_pos reached] at found
        rw [if_pos (reached.trans above)] at foundHigher
        cases found
        cases foundHigher
        exact le_rfl
      · rw [if_neg reached] at found
        by_cases reachedHigher : tier.1 ≤ higher
        · rw [if_pos reachedHigher] at foundHigher
          cases foundHigher
          obtain ⟨other, member, -, rfl⟩ := rateAt_mem found
          exact (first other member).2
        · rw [if_neg reachedHigher] at foundHigher
          exact induction later found foundHigher

end Tiers

/-! ## Shares of an amount -/

section Shares

variable {base amount more rate higher : Int}

/-- The share of an amount at a rate of so many parts of `base`. -/
def share (base amount rate : Int) : Int :=
  (amount * rate).tdiv base

theorem share_eq_ediv (nonneg : 0 ≤ amount) (rateNonneg : 0 ≤ rate) :
    share base amount rate = amount * rate / base :=
  Int.tdiv_eq_ediv_of_nonneg (Int.mul_nonneg nonneg rateNonneg)

theorem share_nonneg (positive : 0 < base)
    (nonneg : 0 ≤ amount) (rateNonneg : 0 ≤ rate) :
    0 ≤ share base amount rate := by
  rw [share_eq_ediv nonneg rateNonneg]
  exact Int.ediv_nonneg (Int.mul_nonneg nonneg rateNonneg) positive.le

/-- A rate of at most all parts takes at most the whole amount. -/
theorem share_le (positive : 0 < base)
    (nonneg : 0 ≤ amount) (rateNonneg : 0 ≤ rate) (atMost : rate ≤ base) :
    share base amount rate ≤ amount := by
  rw [share_eq_ediv nonneg rateNonneg]
  calc
    amount * rate / base ≤ amount * base / base :=
      Int.ediv_le_ediv positive (Int.mul_le_mul_of_nonneg_left atMost nonneg)
    _ = amount := Int.mul_ediv_cancel amount positive.ne'

/-- A larger amount and a higher rate give no smaller share. -/
theorem share_mono (positive : 0 < base)
    (nonneg : 0 ≤ amount) (rateNonneg : 0 ≤ rate)
    (larger : amount ≤ more) (above : rate ≤ higher) :
    share base amount rate ≤ share base more higher := by
  rw [share_eq_ediv nonneg rateNonneg,
    share_eq_ediv (nonneg.trans larger) (rateNonneg.trans above)]
  exact
    Int.ediv_le_ediv positive
      (Int.mul_le_mul larger above rateNonneg (nonneg.trans larger))

/-- The share of a whole against the shares of its two parts. -/
theorem share_add (positive : 0 < base)
    (nonneg : 0 ≤ amount) (moreNonneg : 0 ≤ more) (rateNonneg : 0 ≤ rate) :
    share base amount rate + share base more rate ≤
        share base (amount + more) rate ∧
      share base (amount + more) rate ≤
        share base amount rate + share base more rate + 1 := by
  rw [share_eq_ediv nonneg rateNonneg, share_eq_ediv moreNonneg rateNonneg,
    share_eq_ediv (Int.add_nonneg nonneg moreNonneg) rateNonneg, Int.add_mul]
  generalize amount * rate = first
  generalize more * rate = second
  have firstBelow := Int.lt_ediv_add_one_mul_self first positive
  have secondBelow := Int.lt_ediv_add_one_mul_self second positive
  have firstAbove := Int.ediv_mul_le first positive.ne'
  have secondAbove := Int.ediv_mul_le second positive.ne'
  rw [Int.add_mul, Int.one_mul] at firstBelow secondBelow
  constructor
  · rw [Int.le_ediv_iff_mul_le positive, Int.add_mul]
    omega
  · rw [← Int.lt_add_one_iff, Int.ediv_lt_iff_lt_mul positive]
    simp only [Int.add_mul, Int.one_mul]
    omega

end Shares

end Tariff
