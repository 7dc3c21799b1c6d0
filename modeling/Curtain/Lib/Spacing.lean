import Mathlib.Data.List.Basic
import Mathlib.Tactic.Ring

/-!
# Events that are spaced in time

Events of one kind are spaced when each comes at least a fixed time after the
ones before it.  Then a period of so many gaps holds at most so many of them,
whatever caused the events.
-/

namespace Spacing

/-- Spaced instants in a period of so many gaps are at most so many. -/
theorem length_le_of_pairwise {gap : Int} {times : List Int} {start : Int}
    {gaps : Nat}
    (spaced : times.Pairwise fun earlier later => earlier + gap ≤ later)
    (within : ∀ time ∈ times, start ≤ time ∧ time < start + gaps * gap) :
    times.length ≤ gaps := by
  induction times generalizing start gaps with
  | nil => exact Nat.zero_le gaps
  | cons first rest induction =>
      obtain ⟨later, spaced⟩ := List.pairwise_cons.mp spaced
      obtain ⟨begins, ends⟩ := within first List.mem_cons_self
      cases gaps with
      | zero =>
          simp only [Nat.cast_zero, zero_mul, add_zero] at ends
          omega
      | succ gaps =>
          rw [Nat.cast_succ, add_mul, one_mul] at ends
          have remaining :
              ∀ time ∈ rest,
                start + gap ≤ time ∧ time < start + gap + gaps * gap := by
            intro time member
            have after := later time member
            obtain ⟨-, before⟩ := within time (List.mem_cons_of_mem first member)
            rw [Nat.cast_succ, add_mul, one_mul] at before
            omega
          exact Nat.succ_le_succ (induction spaced remaining)

variable {Event : Type*} {time : Event → Int} {same : Event → Event → Prop}
variable {gap : Int}

/-- Each event comes at least a gap after the earlier ones of its kind. -/
def Spaced (time : Event → Int) (same : Event → Event → Prop) (gap : Int)
    (events : List Event) : Prop :=
  events.Pairwise fun earlier later =>
    same earlier later → time earlier + gap ≤ time later

theorem Spaced.nil : Spaced time same gap [] :=
  List.Pairwise.nil

/-- One more event, a gap after all the earlier ones of its kind. -/
theorem Spaced.snoc {events : List Event} {event : Event}
    (spaced : Spaced time same gap events)
    (after :
      ∀ earlier ∈ events, same earlier event → time earlier + gap ≤ time event) :
    Spaced time same gap (events ++ [event]) := by
  refine List.pairwise_append.mpr ⟨spaced, List.pairwise_singleton _ _, ?_⟩
  intro earlier member later last
  rw [List.mem_singleton.mp last]
  exact after earlier member

/-- The events of one kind in a period of so many gaps are at most so many. -/
theorem Spaced.length_filter_le {events : List Event}
    (spaced : Spaced time same gap events) {counted : Event → Bool}
    (start : Int) {gaps : Nat}
    (alike :
      ∀ left ∈ events, ∀ right ∈ events,
        counted left = true → counted right = true → same left right)
    (within :
      ∀ event ∈ events, counted event = true →
        start ≤ time event ∧ time event < start + gaps * gap) :
    (events.filter counted).length ≤ gaps := by
  rw [← List.length_map (f := time)]
  have apart :
      ((events.filter counted).map time).Pairwise fun earlier later =>
        earlier + gap ≤ later := by
    rw [List.pairwise_map, List.pairwise_filter]
    refine spaced.imp_of_mem fun leftMember rightMember apart left right => ?_
    exact apart (alike _ leftMember _ rightMember left right)
  have inside :
      ∀ instant ∈ (events.filter counted).map time,
        start ≤ instant ∧ instant < start + gaps * gap := by
    intro instant member
    obtain ⟨event, counts, rfl⟩ := List.mem_map.mp member
    obtain ⟨listed, holds⟩ := List.mem_filter.mp counts
    exact within event listed holds
  exact length_le_of_pairwise apart inside

end Spacing
