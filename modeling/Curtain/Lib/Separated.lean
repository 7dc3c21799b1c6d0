import Mathlib.Data.List.Basic
import Mathlib.Tactic.Common

/-!
# Texts joined by a separator

Two texts with a separator between them.  When neither right text contains the
separator the two can be told apart again.  In general they can not: words in
the middle may as well end the left text as begin the right one, and that is
the only way in which two pairs of texts are joined to the same text.
-/

namespace Separated

variable {Letter : Type*} {separator : Letter}
variable {left right otherLeft otherRight : List Letter}

/-- The left text, the separator and the right text. -/
def joined (separator : Letter) (left right : List Letter) : List Letter :=
  left ++ separator :: right

/--
Some words, with a separator on either side, end the one left text and begin
the other right text.
-/
def Shifted (separator : Letter)
    (left right otherLeft otherRight : List Letter) : Prop :=
  ∃ words,
    left = joined separator otherLeft words ∧
      otherRight = joined separator words right

theorem joined_assoc (left middle right : List Letter) :
    joined separator (joined separator left middle) right =
      joined separator left (joined separator middle right) := by
  simp [joined]

theorem Shifted.joined_eq
    (shifted : Shifted separator left right otherLeft otherRight) :
    joined separator left right = joined separator otherLeft otherRight := by
  obtain ⟨words, rfl, rfl⟩ := shifted
  exact joined_assoc otherLeft words right

/-- Of two equally joined pairs, one has the longer left text. -/
theorem joined_eq_iff :
    joined separator left right = joined separator otherLeft otherRight ↔
      (left = otherLeft ∧ right = otherRight) ∨
        Shifted separator left right otherLeft otherRight ∨
        Shifted separator otherLeft otherRight left right := by
  constructor
  · intro equal
    rcases List.append_eq_append_iff.mp equal with
      ⟨between, rfl, rest⟩ | ⟨between, rfl, rest⟩
    · cases between with
      | nil =>
          cases rest
          exact Or.inl ⟨(List.append_nil left).symm, rfl⟩
      | cons first words =>
          cases rest
          exact Or.inr (Or.inr ⟨words, rfl, rfl⟩)
    · cases between with
      | nil =>
          cases rest
          exact Or.inl ⟨List.append_nil otherLeft, rfl⟩
      | cons first words =>
          cases rest
          exact Or.inr (Or.inl ⟨words, rfl, rfl⟩)
  · rintro (⟨rfl, rfl⟩ | shifted | shifted)
    · rfl
    · exact shifted.joined_eq
    · exact shifted.joined_eq.symm

/-- A right text without a separator is not shifted to. -/
theorem Shifted.mem_right
    (shifted : Shifted separator left right otherLeft otherRight) :
    separator ∈ otherRight := by
  obtain ⟨words, -, rfl⟩ := shifted
  exact List.mem_append_right words List.mem_cons_self

/-- The shifted words make the one left text longer. -/
theorem Shifted.left_ne
    (shifted : Shifted separator left right otherLeft otherRight) :
    left ≠ otherLeft := by
  obtain ⟨words, rfl, -⟩ := shifted
  intro same
  have lengths := congrArg List.length same
  simp only [joined, List.length_append, List.length_cons] at lengths
  omega

/-- The last separator can be found again. -/
theorem joined_inj (absent : separator ∉ right)
    (otherAbsent : separator ∉ otherRight) :
    joined separator left right = joined separator otherLeft otherRight ↔
      left = otherLeft ∧ right = otherRight := by
  rw [joined_eq_iff]
  constructor
  · rintro (same | shifted | shifted)
    · exact same
    · exact absurd shifted.mem_right otherAbsent
    · exact absurd shifted.mem_right absent
  · exact Or.inl

end Separated
