import Mathlib.Algebra.Ring.Nat
import Mathlib.Tactic.Common

/-!
# Binary floating-point numbers

The numbers of the binary64 format as signed multiples of a power of two, and
the conversions a reader of decimal literals needs: the nearest double of a
quotient, with ties to even, and the whole part of a double.
-/

/-- A double; a finite one is `± significand * 2 ^ exponent`. -/
inductive Double where
  | finite (negative : Bool) (significand : Nat) (exponent : Int)
  | infinite (negative : Bool)
  | nan
deriving DecidableEq, Repr

namespace Double

/-- The nearest integer to a quotient; a tie goes to the even one. -/
def nearest (num den : Nat) : Nat :=
  let below := num / den
  let twice := 2 * (num % den)
  if twice < den ∨ (twice = den ∧ below % 2 = 0) then below else below + 1

/-- The nearest integer to `num / (den * 2 ^ exponent)`. -/
def scaled (num den : Nat) : Int → Nat
  | .ofNat up => nearest num (den * 2 ^ up)
  | .negSucc down => nearest (num * 2 ^ (down + 1)) den

/-- `2 ^ exponent ≤ num / den`. -/
def reaches (num den : Nat) : Int → Bool
  | .ofNat up => den * 2 ^ up ≤ num
  | .negSucc down => den ≤ num * 2 ^ (down + 1)

/-- The exponent of the last of the 53 binary places of a quotient. -/
def lastPlace (num den : Nat) : Int :=
  let guess : Int := num.log2 - den.log2
  max (-1074) ((if reaches num den guess then guess else guess - 1) - 52)

/-- The double nearest to a positive quotient. -/
def ofQuotient (negative : Bool) (num den : Nat) : Double :=
  let exponent := lastPlace num den
  let significand := scaled num den exponent
  if 971 < exponent ∨ (exponent = 971 ∧ 2 ^ 53 ≤ significand) then
    .infinite negative
  else .finite negative significand exponent

/-- The double nearest to `± digits * 10 ^ exponent`. -/
def ofDecimal (negative : Bool) (digits : Nat) (exponent : Int) : Double :=
  if digits = 0 then .finite negative 0 0
  else
    match exponent with
    | .ofNat up => ofQuotient negative (digits * 10 ^ up) 1
    | .negSucc down => ofQuotient negative digits (10 ^ (down + 1))

/-- The whole part of a finite double, towards zero. -/
def whole (negative : Bool) (significand : Nat) (exponent : Int) : Int :=
  let size : Nat :=
    match exponent with
    | .ofNat up => significand * 2 ^ up
    | .negSucc down => significand / 2 ^ (down + 1)
  if negative then -size else size

example : ofDecimal true 15 (-1) = .finite true (3 * 2 ^ 51) (-52) := by decide

example : ofDecimal false 1 400 = .infinite false := by decide +kernel

end Double
