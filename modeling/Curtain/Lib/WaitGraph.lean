import Mathlib.Logic.Relation
import Mathlib.Order.Defs.PartialOrder
import Mathlib.Tactic.Common

/-!
# Resources in a fixed order

Sessions wait for resources that other sessions hold.  When every session that
waits asks for a resource of a higher rank than any it holds, the sessions that
wait for each other form no cycle, and with ranks below a bound every chain of
them ends at one that does not wait.  Sessions and resources are arbitrary.
-/

namespace WaitGraph

variable {Session Resource Rank : Type*}

/-- The first session waits for a resource that the second one holds. -/
def WaitsFor (waits : Session → Resource → Session → Prop)
    (first second : Session) : Prop :=
  ∃ resource, waits first resource second

/-- Whoever is waited for and waits itself asks for a resource of a higher rank. -/
def Climbs [LT Rank] (waits : Session → Resource → Session → Prop)
    (rank : Resource → Rank) : Prop :=
  ∀ first resource second, waits first resource second →
    ∀ higher third, waits second higher third → rank resource < rank higher

variable {waits : Session → Resource → Session → Prop}

section Acyclic

variable [Preorder Rank] {rank : Resource → Rank}

/-- Along a chain the ranks climb from the resource that is waited for first. -/
theorem Climbs.chain (climbs : Climbs waits rank) {first last : Session}
    (chain : Relation.TransGen (WaitsFor waits) first last) :
    ∃ resource second, waits first resource second ∧
      ∀ higher third, waits last higher third → rank resource < rank higher := by
  induction chain with
  | single edge =>
      obtain ⟨resource, waiting⟩ := edge
      exact ⟨resource, _, waiting, climbs _ _ _ waiting⟩
  | tail _ edge induction =>
      obtain ⟨resource, second, waiting, below⟩ := induction
      obtain ⟨higher, later⟩ := edge
      refine ⟨resource, second, waiting, ?_⟩
      intro highest third last
      exact
        lt_trans (below higher _ later) (climbs _ _ _ later highest third last)

/-- No session waits for itself through others. -/
theorem Climbs.acyclic (climbs : Climbs waits rank) (session : Session) :
    ¬ Relation.TransGen (WaitsFor waits) session session := by
  intro cycle
  obtain ⟨resource, second, waiting, below⟩ := climbs.chain cycle
  exact lt_irrefl _ (below resource second waiting)

end Acyclic

/-- Below a bound every session leads to one that does not wait. -/
theorem Climbs.exists_unblocked {rank : Resource → Nat}
    (climbs : Climbs waits rank) {bound : Nat}
    (bounded :
      ∀ first resource second, waits first resource second →
        rank resource ≤ bound)
    (session : Session) :
    ∃ last, Relation.ReflTransGen (WaitsFor waits) session last ∧
      ∀ other, ¬ WaitsFor waits last other := by
  by_cases blocked : ∃ other, WaitsFor waits session other
  · obtain ⟨other, resource, waiting⟩ := blocked
    -- What is left below the bound shrinks from resource to resource.
    induction left : bound - rank resource using Nat.strongRecOn
      generalizing session resource other with
    | _ left induction =>
        by_cases goesOn : ∃ third, WaitsFor waits other third
        · obtain ⟨third, higher, later⟩ := goesOn
          have climb := climbs _ _ _ waiting _ _ later
          have within := bounded _ _ _ later
          obtain ⟨last, chain, free⟩ :=
            induction (bound - rank higher) (by omega) other third higher later
              rfl
          exact ⟨last, .head ⟨resource, waiting⟩ chain, free⟩
        · exact
            ⟨other, .single ⟨resource, waiting⟩, fun third edge =>
              goesOn ⟨third, edge⟩⟩
  · exact ⟨session, .refl, fun other edge => blocked ⟨other, edge⟩⟩

/-- What holds of a session and of every one that is waited for holds along a chain. -/
theorem of_chain (holds : Session → Prop) {first last : Session}
    (start : holds first)
    (waited :
      ∀ waiter resource holder, waits waiter resource holder → holds holder)
    (chain : Relation.ReflTransGen (WaitsFor waits) first last) :
    holds last := by
  cases chain with
  | refl => exact start
  | tail _ edge =>
      obtain ⟨resource, waiting⟩ := edge
      exact waited _ _ _ waiting

end WaitGraph
