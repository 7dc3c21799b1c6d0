import Mathlib.Data.List.Infix
import Mathlib.Data.List.Nodup

/-!
# Rounds over a queue

A server works on a queue in rounds.  A round looks at the head of the queue,
as far as it has places, and serves what it sees in order, until it is through
or breaks off.  A served item leaves the queue or stays where it was, and new
items join at the end.

An item that stays takes a place of the next round.  What becomes of the item
at each place decides how far the rounds come: all items that wait at the
beginning are served exactly when the places that are wasted leave room for
them.
-/

namespace Rounds

variable {Item : Type*}

/-- What a round looks at, and how many items of it it gets through. -/
structure Round (Item : Type*) where
  seen : List Item
  through : Nat

/-- The items that a round serves. -/
def Round.served (round : Round Item) : List Item :=
  round.seen.take round.through

/-- One round; the queue may grow before it and after it. -/
inductive Serves (places : Nat) (queue : List Item) (round : Round Item) :
    List Item → Prop where
  | serve {waiting kept next : List Item}
      (joined : queue <+: waiting)
      (looks : round.seen = waiting.take places)
      (stays : kept.Sublist round.served)
      (left : kept ++ waiting.drop round.served.length <+: next) :
      Serves places queue round next

/-- Everything the rounds serve. -/
def served (rounds : List (Round Item)) : List Item :=
  rounds.flatMap (·.served)

/-- What becomes of the item at a place, if the round gets to it. -/
inductive Verdict where
  | leaves
  | stays
  | breaks
deriving DecidableEq, Repr

/-- How many items a round gets to, if there are enough. -/
def reach : List Verdict → Nat
  | [] => 0
  | .breaks :: _ => 1
  | _ :: rest => reach rest + 1

/-- What a round leaves of the items that wait. -/
def remaining : List Verdict → List Item → List Item
  | .leaves :: rest, _ :: items => remaining rest items
  | .stays :: rest, item :: items => item :: remaining rest items
  | .breaks :: _, items => items
  | _, items => items

/--
The places of a round that let no item leave: those whose items stay, and all
from the one on at which the round breaks off.
-/
def wasted : List Verdict → Nat
  | [] => 0
  | .leaves :: rest => wasted rest
  | .stays :: rest => wasted rest + 1
  | .breaks :: rest => rest.length + 1

/--
The places that successive rounds miss: each round what it wastes, and the last
one, after which nobody waits, only those behind the one at which it breaks off.
-/
def missed : List (List Verdict) → Nat
  | [] => 0
  | [last] => last.length - reach last
  | verdict :: rest => wasted verdict + missed rest

theorem missed_cons_cons (first second : List Verdict)
    (rest : List (List Verdict)) :
    missed (first :: second :: rest) = wasted first + missed (second :: rest) :=
  rfl

/-- Rounds one after the other, and what they serve. -/
inductive Run (places : Nat) :
    List Item → List (List Verdict) → List Item → Prop where
  | nil (queue : List Item) : Run places queue [] []
  | cons {queue waiting next served : List Item} {verdict : List Verdict}
      {verdicts : List (List Verdict)}
      (joined : queue <+: waiting)
      (distinct : waiting.Nodup)
      (full : verdict.length = places)
      (left : remaining verdict waiting <+: next)
      (rest : Run places next verdicts served) :
      Run places queue (verdict :: verdicts)
        (waiting.take (reach verdict) ++ served)

section Verdicts

variable {verdict : List Verdict} {items more : List Item}

theorem reach_le (verdict : List Verdict) :
    reach verdict ≤ verdict.length := by
  induction verdict with
  | nil => exact le_rfl
  | cons first rest induction =>
      cases first with
      | leaves | stays => exact Nat.succ_le_succ induction
      | breaks => exact Nat.succ_le_succ (Nat.zero_le _)

/-- The items that a round does not get to remain, behind some of the others. -/
theorem remaining_eq (verdict : List Verdict) (items : List Item) :
    ∃ kept : List Item, kept.Sublist (items.take (reach verdict)) ∧
      remaining verdict items = kept ++ items.drop (reach verdict) := by
  induction verdict generalizing items with
  | nil => exact ⟨[], List.nil_sublist _, rfl⟩
  | cons first rest induction =>
      cases items with
      | nil =>
          cases first <;>
            exact ⟨[], List.nil_sublist _, by simp [remaining]⟩
      | cons item items =>
          obtain ⟨kept, sublist, equal⟩ := induction items
          cases first with
          | leaves => exact ⟨kept, sublist.cons item, equal⟩
          | stays =>
              exact
                ⟨item :: kept, sublist.cons_cons item,
                  congrArg (item :: ·) equal⟩
          | breaks => exact ⟨[item], List.Sublist.refl _, rfl⟩

/-- Items that join at the end do not change what becomes of the others. -/
theorem remaining_append (verdict : List Verdict) (items more : List Item) :
    remaining verdict items <+: remaining verdict (items ++ more) := by
  induction verdict generalizing items with
  | nil => exact List.prefix_append items more
  | cons first rest induction =>
      cases items with
      | nil => cases first <;> exact List.nil_prefix
      | cons item items =>
          cases first with
          | leaves => exact induction items
          | stays => exact List.prefix_cons_inj item |>.mpr (induction items)
          | breaks => exact List.prefix_append (item :: items) more

/-- With enough to do, an item leaves at every place that is not wasted. -/
theorem length_remaining (many : verdict.length ≤ items.length) :
    (remaining verdict items).length + verdict.length =
      items.length + wasted verdict := by
  induction verdict generalizing items with
  | nil => rfl
  | cons first rest induction =>
      cases items with
      | nil => cases many
      | cons item items =>
          rw [List.length_cons, List.length_cons] at many
          have later := induction (Nat.le_of_succ_le_succ many)
          cases first with
          | leaves => simp only [remaining, wasted, List.length_cons]; omega
          | stays => simp only [remaining, wasted, List.length_cons]; omega
          | breaks => simp only [remaining, wasted, List.length_cons]

/-- What becomes of an item that does not break a round off. -/
def judge (stays : Item → Bool) (item : Item) : Verdict :=
  if stays item then .stays else .leaves

theorem reach_judged (stays : Item → Bool) (items : List Item) :
    reach (items.map (judge stays) ++ verdict) =
      items.length + reach verdict := by
  induction items with
  | nil => exact (Nat.zero_add _).symm
  | cons item items induction =>
      have further :
          reach (judge stays item :: (items.map (judge stays) ++ verdict)) =
            reach (items.map (judge stays) ++ verdict) + 1 := by
        rw [judge]
        split <;> rfl
      rw [List.map_cons, List.cons_append, further, induction, List.length_cons]
      omega

theorem remaining_judged (stays : Item → Bool) (items more : List Item) :
    remaining (items.map (judge stays) ++ verdict) (items ++ more) =
      items.filter stays ++ remaining verdict more := by
  induction items with
  | nil => rfl
  | cons item items induction =>
      rw [List.map_cons, List.cons_append, List.cons_append, judge]
      cases stayed : stays item with
      | true =>
          rw [if_pos rfl, remaining, induction, List.filter_cons_of_pos stayed,
            List.cons_append]
      | false =>
          rw [if_neg Bool.false_ne_true, remaining, induction,
            List.filter_cons_of_neg (by simp [stayed])]

/-- An item is among the first ones when there are fewer in front of it. -/
theorem mem_take_iff {front : List Item} {item : Item} {count : Nat}
    (distinct : items.Nodup) (waits : front ++ [item] <+: items) :
    item ∈ items.take count ↔ front.length < count := by
  obtain ⟨back, rfl⟩ := waits
  rw [List.append_assoc] at distinct ⊢
  rw [List.take_append, List.mem_append]
  have apart : item ∉ front := fun inFront =>
    List.disjoint_of_nodup_append distinct inFront List.mem_cons_self
  constructor
  · rintro (early | reached)
    · exact absurd (List.mem_of_mem_take early) apart
    · by_contra short
      rw [Nat.sub_eq_zero_of_le (Nat.le_of_not_lt short)] at reached
      cases reached
  · intro enough
    obtain ⟨extra, positive⟩ :=
      Nat.exists_eq_succ_of_ne_zero (Nat.sub_ne_zero_of_lt enough)
    right
    rw [positive]
    exact List.mem_cons_self

/-- The last item of a queue is among the first ones when the queue is. -/
theorem getLast_mem_take_iff {queue : List Item} {count : Nat}
    (distinct : items.Nodup) (joined : queue <+: items) (waits : queue ≠ []) :
    queue.getLast waits ∈ items.take count ↔ queue.length ≤ count := by
  have place : queue.dropLast ++ [queue.getLast waits] <+: items := by
    rwa [List.dropLast_append_getLast]
  have positive := List.length_pos_of_ne_nil waits
  rw [mem_take_iff distinct place, List.length_dropLast]
  omega

end Verdicts

namespace Run

variable {places : Nat} {queue served : List Item}
variable {verdicts : List (List Verdict)}

/-- What is said of a queue holds of its head. -/
theorem of_prefix {front : List Item} (run : Run places queue verdicts served)
    (waits : front <+: queue) : Run places front verdicts served := by
  cases run with
  | nil => exact .nil front
  | cons joined distinct full left rest =>
      exact .cons (waits.trans joined) distinct full left rest

/-- Nobody is overtaken: when an item is served, all in front of it are. -/
theorem serves_front (run : Run places queue verdicts served)
    {front : List Item} {item : Item} (waits : front ++ [item] <+: queue)
    (reached : item ∈ served) : ∀ other ∈ front, other ∈ served := by
  induction run generalizing front with
  | nil => cases reached
  | @cons _ waiting _ _ verdict _ joined distinct full left rest induction =>
      have place := waits.trans joined
      obtain ⟨back, split⟩ := place
      intro other member
      rw [List.mem_append]
      by_cases near : front.length ≤ reach verdict
      · left
        rw [← split, List.append_assoc, List.take_append]
        rw [List.take_of_length_le near]
        exact List.mem_append_left _ member
      · -- The item waits behind those that the round gets to.
        have later :=
          (List.mem_append.mp reached).resolve_left fun early =>
            near ((mem_take_iff distinct ⟨back, split⟩).mp early).le
        obtain ⟨kept, -, equal⟩ := remaining_eq verdict waiting
        have short : reach verdict ≤ front.length := Nat.le_of_not_le near
        have behind :
            kept ++ front.drop (reach verdict) ++ [item] <+:
              remaining verdict waiting := by
          rw [equal, ← split, List.append_assoc, List.append_assoc,
            List.drop_append_of_le_length short, ← List.append_assoc,
            ← List.append_assoc, ← List.append_assoc]
          exact List.prefix_append _ _
        have served := induction (behind.trans left) later
        rw [← List.take_append_drop (reach verdict) front, List.mem_append]
          at member
        rcases member with first | second
        · left
          rw [← split, List.append_assoc,
            List.take_append_of_le_length short]
          exact first
        · right
          exact served other (List.mem_append_right _ second)

/-- The queue before a round is worked off exactly when the one after it is. -/
theorem serves_all_cons {waiting next served : List Item}
    {verdict : List Verdict} (joined : queue <+: waiting)
    (distinct : waiting.Nodup) (many : verdict.length < queue.length)
    (left : remaining verdict waiting <+: next)
    (rest : Run places next verdicts served) :
    (∀ item ∈ queue, item ∈ waiting.take (reach verdict) ++ served) ↔
      ∀ item ∈ remaining verdict queue, item ∈ served := by
  obtain ⟨more, rfl⟩ := joined
  have reached : reach verdict < queue.length :=
    lt_of_le_of_lt (reach_le verdict) many
  obtain ⟨kept, -, equal⟩ := remaining_eq verdict queue
  have waits := (remaining_append verdict queue more).trans left
  constructor
  · intro all
    -- The round does not get to the last item, which is served after all.
    have nonempty : queue ≠ [] := List.ne_nil_of_length_pos (by omega)
    have ends := List.dropLast_append_getLast nonempty
    have unreached :
        queue.getLast nonempty ∉ (queue ++ more).take (reach verdict) := by
      rw [getLast_mem_take_iff distinct (List.prefix_append queue more)]
      omega
    have lastServed :=
      (List.mem_append.mp (all _ (List.getLast_mem nonempty))).resolve_left
        unreached
    have behind :
        kept ++ queue.dropLast.drop (reach verdict) ++
            [queue.getLast nonempty] =
          remaining verdict queue := by
      rw [equal, List.append_assoc]
      congr 1
      conv_rhs => rw [← ends]
      rw [List.drop_append_of_le_length (by rw [List.length_dropLast]; omega)]
    rw [← behind] at waits ⊢
    have others := rest.serves_front waits lastServed
    exact
      List.forall_mem_append.mpr
        ⟨others, List.forall_mem_singleton.mpr lastServed⟩
  · intro all item member
    rw [List.mem_append]
    rw [← List.take_append_drop (reach verdict) queue, List.mem_append]
      at member
    rcases member with first | second
    · left
      rw [List.take_append_of_le_length reached.le]
      exact first
    · right
      exact all item (by rw [equal]; exact List.mem_append_right _ second)

/-- A single round serves all that wait if it gets to the last of them. -/
theorem serves_all_last {waiting : List Item} {verdict : List Verdict}
    (joined : queue <+: waiting) (distinct : waiting.Nodup)
    (busy : 0 < queue.length) :
    (∀ item ∈ queue, item ∈ waiting.take (reach verdict)) ↔
      queue.length ≤ reach verdict := by
  obtain ⟨more, rfl⟩ := joined
  have nonempty : queue ≠ [] := List.ne_nil_of_length_pos busy
  constructor
  · intro all
    have reached := all _ (List.getLast_mem nonempty)
    rwa [getLast_mem_take_iff distinct (List.prefix_append queue more)]
      at reached
  · intro enough item member
    rw [List.take_append, List.take_of_length_le enough]
    exact List.mem_append_left _ member

/--
As many rounds as the queue fills serve all that wait in it if and only if the
places that they miss leave enough of them.
-/
theorem serves_all_iff (run : Run places queue verdicts served)
    (busy : verdicts ≠ [] → (verdicts.length - 1) * places < queue.length) :
    (∀ item ∈ queue, item ∈ served) ↔
      missed verdicts + queue.length ≤ verdicts.length * places := by
  induction verdicts generalizing queue served with
  | nil =>
      cases run
      rw [missed, List.length_nil, Nat.zero_mul, Nat.zero_add, Nat.le_zero,
        List.length_eq_zero_iff, List.eq_nil_iff_forall_not_mem]
      simp
  | cons verdict rest induction =>
      have long := busy (List.cons_ne_nil _ _)
      rw [List.length_cons, Nat.add_sub_cancel] at long
      cases run with
      | @cons _ waiting next later _ _ joined distinct full left run =>
          cases rest with
          | nil =>
              cases run
              have bound := reach_le verdict
              have waits : 0 < queue.length := by omega
              rw [List.append_nil, serves_all_last joined distinct waits,
                missed, List.length_singleton]
              omega
          | cons second others =>
              rw [List.length_cons, Nat.succ_mul] at long
              have many : verdict.length < queue.length := by omega
              rw [serves_all_cons joined distinct many left run]
              obtain ⟨more, rfl⟩ := joined
              have goesOn :=
                run.of_prefix ((remaining_append verdict queue more).trans left)
              have account := length_remaining many.le
              rw [induction goesOn (fun _ => ?_)]
              · simp only [missed_cons_cons, List.length_cons, Nat.succ_mul]
                omega
              · rw [List.length_cons, Nat.add_sub_cancel]
                omega

end Run

/-- As many rounds as items fill have places for them, one fewer does not. -/
theorem fewer_lt {waiting places : Nat}
    (busy : 0 < (waiting + places - 1) / places) :
    ((waiting + places - 1) / places - 1) * places < waiting := by
  have bound := Nat.div_mul_le_self (waiting + places - 1) places
  obtain ⟨positive, enough⟩ := Nat.div_pos_iff.mp busy
  rw [Nat.sub_mul, Nat.one_mul]
  omega

end Rounds
