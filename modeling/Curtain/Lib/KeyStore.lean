import Mathlib.Logic.Function.Basic
import Mathlib.Tactic.Common

/-!
# A key store with expiring entries

The commands of a key-value store that a lock script or a cache needs: `GET`,
`SET … PX`, `SET … NX PX`, `PEXPIRE` and `DEL`.  An entry is live up to and including its
expiry, and an expired entry behaves as an absent one.  Keys and values are
arbitrary.
-/

namespace KeyStore

variable {Key Value : Type*}

/-- A value and the last instant at which it is live. -/
structure Entry (Value : Type*) where
  value : Value
  expiresAt : Int
deriving DecidableEq, Repr

/-- The contents of the store, expired entries included. -/
abbrev Store (Key Value : Type*) := Key → Option (Entry Value)

/-- The live value of a key. -/
def get (now : Int) (store : Store Key Value) (key : Key) : Option Value :=
  (store key).bind fun entry =>
    if now ≤ entry.expiresAt then some entry.value else none

theorem get_eq_some
    {now : Int} {store : Store Key Value} {key : Key} {value : Value} :
    get now store key = some value ↔
      ∃ entry, store key = some entry ∧ now ≤ entry.expiresAt ∧
        entry.value = value := by
  unfold get
  cases found : store key with
  | none => simp
  | some entry =>
      by_cases live : now ≤ entry.expiresAt <;> simp [live]

/-- As time passes a key keeps its value or expires. -/
theorem get_later
    {now later : Int} {store : Store Key Value} {key : Key}
    (passes : now ≤ later) :
    get later store key = none ∨ get later store key = get now store key := by
  unfold get
  cases store key with
  | none => exact Or.inl rfl
  | some entry =>
      by_cases live : later ≤ entry.expiresAt
      · right
        simp [live, Int.le_trans passes live]
      · left
        simp [live]

section Commands

variable [DecidableEq Key]

/-- `SET key value PX ttl`. -/
def set (now ttl : Int) (key : Key) (value : Value)
    (store : Store Key Value) : Store Key Value :=
  Function.update store key (some { value, expiresAt := now + ttl })

/-- `SET key value NX PX ttl`: nothing when the key is live. -/
def setNX (now ttl : Int) (key : Key) (value : Value)
    (store : Store Key Value) : Option (Store Key Value) :=
  match get now store key with
  | none =>
      some (Function.update store key (some { value, expiresAt := now + ttl }))
  | some _ => none

/-- `PEXPIRE key ttl`. -/
def pexpire (now ttl : Int) (key : Key) (store : Store Key Value) :
    Store Key Value :=
  Function.update store key
    ((store key).map fun entry => { entry with expiresAt := now + ttl })

/-- `DEL key`. -/
def del (key : Key) (store : Store Key Value) : Store Key Value :=
  Function.update store key none

/-- What is stored after a `SET` was stored before or by it. -/
theorem set_eq_some
    {now ttl : Int} {key other : Key} {value : Value}
    {store : Store Key Value} {entry : Entry Value}
    (found : set now ttl key value store other = some entry) :
    (other = key ∧ entry = { value, expiresAt := now + ttl }) ∨
      store other = some entry := by
  by_cases same : other = key
  · left
    rw [set, same, Function.update_self, Option.some.injEq] at found
    exact ⟨same, found.symm⟩
  · right
    rwa [set, Function.update_of_ne same] at found

theorem setNX_eq_some
    {now ttl : Int} {key : Key} {value : Value}
    {store after : Store Key Value} :
    setNX now ttl key value store = some after ↔
      get now store key = none ∧
        after =
          Function.update store key
            (some { value, expiresAt := now + ttl }) := by
  unfold setNX
  cases found : get now store key with
  | none => simp [eq_comm]
  | some owner => simp

/-- On a live key `PEXPIRE` keeps the value and renews the expiry. -/
theorem pexpire_of_live
    {now ttl : Int} {key : Key} {value : Value} {store : Store Key Value}
    (live : get now store key = some value) :
    pexpire now ttl key store =
      Function.update store key (some { value, expiresAt := now + ttl }) := by
  obtain ⟨entry, found, -, rfl⟩ := get_eq_some.mp live
  simp [pexpire, found]

@[simp]
theorem del_self (key : Key) (store : Store Key Value) :
    del key store key = none := by
  simp [del]

theorem del_of_ne {key other : Key} {store : Store Key Value}
    (different : other ≠ key) :
    del key store other = store other := by
  simp [del, different]

end Commands

end KeyStore
