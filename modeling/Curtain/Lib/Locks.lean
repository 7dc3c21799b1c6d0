import Mathlib.Tactic.Common
import Mathlib.Tactic.TypeStar

/-!
# A lock table

Sessions hold locks on resources in modes, some of which conflict.  A lock is
granted to a session when no other session holds the resource in a conflicting
mode, and a session gives all of its locks back at once, when it ends.
Sessions, resources, modes and the conflict relation are arbitrary.

`Compatible` says what the table guarantees: conflicting locks on one resource
are held by one session.
-/

namespace Locks

variable {Session Resource Mode : Type*}

/-- A session holds a resource in a mode. -/
structure Lock (Session Resource Mode : Type*) where
  session : Session
  resource : Resource
  mode : Mode
deriving DecidableEq, Repr

section Commands

variable [DecidableEq Session]

/-- Give all locks of a session back. -/
def release
    (locks : List (Lock Session Resource Mode)) (session : Session) :
    List (Lock Session Resource Mode) :=
  locks.filter fun lock => decide (lock.session ≠ session)

@[simp]
theorem mem_release
    {locks : List (Lock Session Resource Mode)} {session : Session}
    {lock : Lock Session Resource Mode} :
    lock ∈ release locks session ↔ lock ∈ locks ∧ lock.session ≠ session := by
  simp [release]

variable [DecidableEq Resource]

/-- No other session holds the resource in a mode that conflicts with this one. -/
def available
    (conflicts : Mode → Mode → Bool)
    (locks : List (Lock Session Resource Mode))
    (session : Session) (resource : Resource) (mode : Mode) : Bool :=
  locks.all fun lock =>
    decide (lock.session = session) || decide (lock.resource ≠ resource) ||
      !conflicts lock.mode mode

/-- Whoever holds an available resource in a conflicting mode is the session itself. -/
theorem session_of_available
    {conflicts : Mode → Mode → Bool}
    {locks : List (Lock Session Resource Mode)}
    {session : Session} {resource : Resource} {mode : Mode}
    (free : available conflicts locks session resource mode = true)
    {lock : Lock Session Resource Mode} (held : lock ∈ locks)
    (same : lock.resource = resource)
    (conflict : conflicts lock.mode mode = true) :
    lock.session = session := by
  have passes := List.all_eq_true.mp free lock held
  simpa [same, conflict] using passes

end Commands

/-- Conflicting locks on one resource are held by one session. -/
def Compatible
    (conflicts : Mode → Mode → Bool)
    (locks : List (Lock Session Resource Mode)) : Prop :=
  ∀ left ∈ locks, ∀ right ∈ locks,
    left.resource = right.resource →
      conflicts left.mode right.mode = true → left.session = right.session

namespace Compatible

variable {conflicts : Mode → Mode → Bool}
variable {locks : List (Lock Session Resource Mode)}

theorem nil : Compatible conflicts ([] : List (Lock Session Resource Mode)) := by
  simp [Compatible]

variable [DecidableEq Session]

theorem release (compatible : Compatible conflicts locks) (session : Session) :
    Compatible conflicts (Locks.release locks session) := by
  intro left leftHeld right rightHeld
  exact
    compatible left (mem_release.mp leftHeld).1 right
      (mem_release.mp rightHeld).1

variable [DecidableEq Resource]

/-- Granting an available lock keeps the table compatible. -/
theorem grant (compatible : Compatible conflicts locks)
    (symmetric : ∀ left right, conflicts left right = conflicts right left)
    {session : Session} {resource : Resource} {mode : Mode}
    (free : available conflicts locks session resource mode = true) :
    Compatible conflicts ({ session, resource, mode } :: locks) := by
  intro left leftHeld right rightHeld same conflict
  rcases List.mem_cons.mp leftHeld with rfl | leftOld <;>
    rcases List.mem_cons.mp rightHeld with rfl | rightOld
  · rfl
  · rw [symmetric] at conflict
    exact (session_of_available free rightOld same.symm conflict).symm
  · exact session_of_available free leftOld same conflict
  · exact compatible left leftOld right rightOld same conflict

end Compatible

end Locks
