import Curtain.Domain
import Curtain.Lib.KeyStore
import Mathlib.Data.List.Sort
import Mathlib.Data.List.Dedup

/-!
# The seat gate

The two scripts in front of the database, over the keys of one schedule's
seats and the token of a user, and the seat list and time to live that the
client passes to them.

What the scripts do to the whole key store has a closed form: a gate script
that passes takes every listed key, one that is blocked withdraws from the
keys in front of the blocked one, and a release withdraws from the token's own
keys.
-/

namespace Curtain.Gate

open KeyStore

/-- `seat:{schedule_id}:seat_id`. -/
structure Key where
  scheduleId : Nat
  seatId : Nat
deriving DecidableEq, Repr

/-- `u:user_id`. -/
structure Token where
  userId : Nat
deriving DecidableEq, Repr

variable {GateKey Owner : Type*}

/-! ## The scripts -/

section Scripts

variable [DecidableEq GateKey] [DecidableEq Owner]

/-- Delete the listed keys that hold the token; the result counts them. -/
def seatGateRelease (now : Int) (token : Owner) :
    List GateKey → Store GateKey Owner → Nat × Store GateKey Owner
  | [], store => (0, store)
  | key :: rest, store =>
      if KeyStore.get now store key = some token then
        let (removed, final) := seatGateRelease now token rest (del key store)
        (removed + 1, final)
      else
        seatGateRelease now token rest store

/--
The loop of `seat_gate.lua` from the key with the given 1-based index.  A key
that is free is set, a key of the same token gets a new time to live, and at
a key of another token the keys taken so far are given back.
-/
def seatGateFrom (now ttlMs : Int) (token : Owner) :
    List GateKey → Nat → List GateKey → Store GateKey Owner →
      Nat × Store GateKey Owner
  | _, _, [], store => (0, store)
  | acquired, index, key :: rest, store =>
      match setNX now ttlMs key token store with
      | some taken =>
          seatGateFrom now ttlMs token (acquired ++ [key]) (index + 1) rest
            taken
      | none =>
          if KeyStore.get now store key = some token then
            seatGateFrom now ttlMs token (acquired ++ [key]) (index + 1) rest
              (pexpire now ttlMs key store)
          else
            (index, (seatGateRelease now token acquired store).2)

/-- `seat_gate.lua`: `0`, or the index of the first key that blocked. -/
def seatGate (now ttlMs : Int) (token : Owner) (keys : List GateKey)
    (store : Store GateKey Owner) : Nat × Store GateKey Owner :=
  seatGateFrom now ttlMs token [] 1 keys store

end Scripts

/-! ## Closed forms of the scripts -/

section Foreign

variable [DecidableEq Owner]

/-- A different token holds the key. -/
def foreign (now : Int) (token : Owner) (store : Store GateKey Owner)
    (key : GateKey) : Bool :=
  (KeyStore.get now store key).any (· != token)

theorem foreign_eq_true
    {now : Int} {token : Owner} {store : Store GateKey Owner} {key : GateKey} :
    foreign now token store key = true ↔
      ∃ owner, KeyStore.get now store key = some owner ∧ owner ≠ token := by
  cases found : KeyStore.get now store key <;> simp [foreign, found]

theorem foreign_eq_false
    {now : Int} {token : Owner} {store : Store GateKey Owner} {key : GateKey} :
    foreign now token store key = false ↔
      KeyStore.get now store key = none ∨
        KeyStore.get now store key = some token := by
  cases found : KeyStore.get now store key <;> simp [foreign, found]

end Foreign

section Taken

variable [DecidableEq GateKey]

/-- The store in which the token has taken the keys. -/
def taken (now ttlMs : Int) (token : Owner) (keys : List GateKey)
    (store : Store GateKey Owner) : Store GateKey Owner :=
  fun key =>
    if key ∈ keys then some { value := token, expiresAt := now + ttlMs }
    else store key

/-- The store without the keys. -/
def withdrawn (keys : List GateKey) (store : Store GateKey Owner) :
    Store GateKey Owner :=
  fun key => if key ∈ keys then none else store key

@[simp]
theorem taken_nil (now ttlMs : Int) (token : Owner)
    (store : Store GateKey Owner) :
    taken now ttlMs token [] store = store := by
  funext key
  simp [taken]

theorem get_taken_of_mem
    {now ttlMs later : Int} {token : Owner} {keys : List GateKey}
    {store : Store GateKey Owner} {key : GateKey}
    (member : key ∈ keys) (live : later ≤ now + ttlMs) :
    KeyStore.get later (taken now ttlMs token keys store) key = some token := by
  simp [KeyStore.get, taken, member, live]

theorem get_taken_of_notMem
    {now ttlMs later : Int} {token : Owner} {keys : List GateKey}
    {store : Store GateKey Owner} {key : GateKey}
    (absent : key ∉ keys) :
    KeyStore.get later (taken now ttlMs token keys store) key =
      KeyStore.get later store key := by
  simp [KeyStore.get, taken, absent]

/-- One more key of the token, set or renewed. -/
theorem taken_append_singleton
    (now ttlMs : Int) (token : Owner) (keys : List GateKey) (key : GateKey)
    (store : Store GateKey Owner) :
    taken now ttlMs token (keys ++ [key]) store =
      Function.update (taken now ttlMs token keys store) key
        (some { value := token, expiresAt := now + ttlMs }) := by
  funext other
  by_cases equal : other = key
  · simp [taken, equal]
  · simp [taken, equal]

end Taken

section Scripts

variable [DecidableEq GateKey] [DecidableEq Owner]

/-- A release takes the listed keys of the token out of the store. -/
theorem seatGateRelease_store
    (now : Int) (token : Owner) (keys : List GateKey)
    (store : Store GateKey Owner) :
    (seatGateRelease now token keys store).2 =
      fun key =>
        if key ∈ keys ∧ KeyStore.get now store key = some token then none
        else store key := by
  induction keys generalizing store with
  | nil => simp [seatGateRelease]
  | cons head rest induction =>
      funext key
      rw [seatGateRelease]
      split
      · rename_i own
        rw [induction]
        by_cases equal : key = head
        · subst equal
          simp [own]
        · simp [equal, KeyStore.get, del_of_ne equal]
      · rename_i other
        rw [induction]
        by_cases equal : key = head
        · subst equal
          simp [other]
        · simp [equal]

/-- A live entry that a release leaves was there before, and is not released. -/
theorem seatGateRelease_left
    {now : Int} {token : Owner} {keys : List GateKey}
    {store : Store GateKey Owner} {key : GateKey} {entry : Entry Owner}
    (left : (seatGateRelease now token keys store).2 key = some entry)
    (live : now ≤ entry.expiresAt) :
    store key = some entry ∧ ¬ (key ∈ keys ∧ entry.value = token) := by
  rw [seatGateRelease_store] at left
  dsimp only at left
  split at left
  · cases left
  · rename_i kept
    refine ⟨left, fun released => kept ⟨released.1, ?_⟩⟩
    rw [← released.2]
    exact get_eq_some.mpr ⟨entry, left, live, rfl⟩

/-- The result of a release counts the keys it takes out. -/
theorem seatGateRelease_count
    {now : Int} {token : Owner} {keys : List GateKey}
    (distinct : keys.Nodup) (store : Store GateKey Owner) :
    (seatGateRelease now token keys store).1 =
      keys.countP fun key => KeyStore.get now store key = some token := by
  induction keys generalizing store with
  | nil => rfl
  | cons head rest induction =>
      obtain ⟨apart, distinctRest⟩ := List.nodup_cons.mp distinct
      rw [seatGateRelease]
      split
      · rename_i own
        have same :
            ∀ key ∈ rest,
              KeyStore.get now (del head store) key =
                KeyStore.get now store key := by
          intro key member
          have different : key ≠ head := by
            rintro rfl
            exact apart member
          simp only [KeyStore.get, del_of_ne different]
        have counted :
            (rest.countP fun key =>
                KeyStore.get now (del head store) key = some token) =
              rest.countP fun key =>
                KeyStore.get now store key = some token :=
          List.countP_congr fun key member => by simp [same key member]
        rw [List.countP_cons_of_pos (by simpa using own), ← counted]
        exact congrArg (· + 1) (induction distinctRest (del head store))
      · rename_i other
        rw [List.countP_cons_of_neg (by simpa using other)]
        exact induction distinctRest store

/-- The rollback of the gate script withdraws all that was taken. -/
theorem seatGateRelease_taken
    {now ttlMs : Int} {token : Owner} {keys : List GateKey}
    {store : Store GateKey Owner}
    (lasting : 0 ≤ ttlMs) :
    (seatGateRelease now token keys (taken now ttlMs token keys store)).2 =
      withdrawn keys store := by
  rw [seatGateRelease_store]
  funext key
  by_cases member : key ∈ keys
  · have own :
        KeyStore.get now (taken now ttlMs token keys store) key = some token :=
      get_taken_of_mem member (by omega)
    simp [member, own, withdrawn]
  · simp [member, withdrawn, taken]

/-- The loop of the gate script, from the keys that it has taken so far. -/
theorem seatGateFrom_eq
    {now ttlMs : Int} {token : Owner} {acquired keys : List GateKey}
    {index : Nat} {store : Store GateKey Owner}
    (lasting : 0 ≤ ttlMs)
    (passed : ∀ key ∈ acquired, foreign now token store key = false) :
    seatGateFrom now ttlMs token acquired index keys
        (taken now ttlMs token acquired store) =
      match keys.findIdx? (foreign now token store) with
      | none => (0, taken now ttlMs token (acquired ++ keys) store)
      | some position =>
          (index + position,
            withdrawn (acquired ++ keys.take position) store) := by
  induction keys generalizing acquired index with
  | nil => simp [seatGateFrom]
  | cons head rest induction =>
      have live : now ≤ now + ttlMs := by omega
      have before :
          KeyStore.get now (taken now ttlMs token acquired store) head =
            if head ∈ acquired then some token
            else KeyStore.get now store head := by
        split
        · rename_i member
          exact get_taken_of_mem member live
        · rename_i absent
          exact get_taken_of_notMem absent
      cases blocks : foreign now token store head with
      | true =>
          have fresh : head ∉ acquired := by
            intro member
            rw [passed head member] at blocks
            exact absurd blocks (by decide)
          obtain ⟨owner, found, different⟩ := foreign_eq_true.mp blocks
          rw [if_neg fresh, found] at before
          simp only [seatGateFrom, setNX, before, Option.some.injEq, different,
            if_false, List.findIdx?_cons, blocks, if_true, List.take_zero,
            List.append_nil, Nat.add_zero]
          rw [seatGateRelease_taken lasting]
      | false =>
          have goesOn :
              seatGateFrom now ttlMs token acquired index (head :: rest)
                  (taken now ttlMs token acquired store) =
                seatGateFrom now ttlMs token (acquired ++ [head]) (index + 1)
                  rest (taken now ttlMs token (acquired ++ [head]) store) := by
            rw [taken_append_singleton]
            cases found :
                KeyStore.get now (taken now ttlMs token acquired store) head with
            | none =>
                rw [seatGateFrom, setNX_eq_some.mpr ⟨found, rfl⟩]
            | some owner =>
                have own : owner = token := by
                  rw [found] at before
                  split at before
                  · exact Option.some.inj before
                  · rcases foreign_eq_false.mp blocks with absent | mine
                    · rw [absent] at before
                      exact absurd before (by simp)
                    · rw [mine] at before
                      exact Option.some.inj before
                subst own
                simp only [seatGateFrom, setNX, found, if_true]
                rw [pexpire_of_live found]
          have passedHead :
              ∀ key ∈ acquired ++ [head],
                foreign now token store key = false := by
            intro key member
            rcases List.mem_append.mp member with old | new
            · exact passed key old
            · rw [List.mem_singleton.mp new]
              exact blocks
          rw [goesOn, induction passedHead, List.findIdx?_cons, blocks]
          cases rest.findIdx? (foreign now token store) with
          | none => simp
          | some position => simp [Nat.add_assoc, Nat.add_comm 1]

/-- The gate script: all of the keys, or none of the ones in front of a block. -/
theorem seatGate_eq
    {now ttlMs : Int} {token : Owner} {keys : List GateKey}
    {store : Store GateKey Owner}
    (lasting : 0 ≤ ttlMs) :
    seatGate now ttlMs token keys store =
      match keys.findIdx? (foreign now token store) with
      | none => (0, taken now ttlMs token keys store)
      | some position =>
          (position + 1, withdrawn (keys.take position) store) := by
  have loop :=
    @seatGateFrom_eq _ _ _ _ now ttlMs token [] keys 1 store lasting (by simp)
  rw [taken_nil] at loop
  rw [seatGate, loop]
  cases keys.findIdx? (foreign now token store) with
  | none => rfl
  | some position => simp [Nat.add_comm]

/-- The script passes exactly when no key belongs to a different token. -/
theorem seatGate_eq_zero
    {now ttlMs : Int} {token : Owner} {keys : List GateKey}
    {store : Store GateKey Owner}
    (lasting : 0 ≤ ttlMs) :
    (seatGate now ttlMs token keys store).1 = 0 ↔
      ∀ key ∈ keys, foreign now token store key = false := by
  rw [seatGate_eq lasting, ← List.findIdx?_eq_none_iff]
  cases keys.findIdx? (foreign now token store) <;> simp

theorem seatGate_passed
    {now ttlMs : Int} {token : Owner} {keys : List GateKey}
    {store : Store GateKey Owner}
    (lasting : 0 ≤ ttlMs)
    (passed : (seatGate now ttlMs token keys store).1 = 0) :
    (seatGate now ttlMs token keys store).2 =
      taken now ttlMs token keys store := by
  have free := (seatGate_eq_zero lasting).mp passed
  rw [seatGate_eq lasting, List.findIdx?_eq_none_iff.mpr free]

/-- A blocked script points at the first key of a different token. -/
theorem seatGate_blocked
    {now ttlMs : Int} {token : Owner} {keys : List GateKey}
    {store : Store GateKey Owner}
    (lasting : 0 ≤ ttlMs)
    (blocked : (seatGate now ttlMs token keys store).1 ≠ 0) :
    ∃ position, ∃ inside : position < keys.length,
      (seatGate now ttlMs token keys store).1 = position + 1 ∧
        foreign now token store keys[position] = true ∧
        (∀ key ∈ keys.take position, foreign now token store key = false) ∧
        (seatGate now ttlMs token keys store).2 =
          withdrawn (keys.take position) store := by
  cases search : keys.findIdx? (foreign now token store) with
  | none =>
      rw [seatGate_eq lasting, search] at blocked
      exact absurd rfl blocked
  | some position =>
      obtain ⟨inside, blocks, first⟩ :=
        List.findIdx?_eq_some_iff_getElem.mp search
      refine ⟨position, inside, ?_⟩
      rw [seatGate_eq lasting, search]
      refine ⟨rfl, blocks, fun key member => ?_, rfl⟩
      obtain ⟨earlier, before, rfl⟩ := List.mem_take_iff_getElem.mp member
      simpa using first earlier (by omega)

end Scripts

/-! ## What the client passes -/

/-- `sorted(set(seat_ids))`. -/
def ordered (seatIds : List Nat) : List Nat :=
  seatIds.dedup.insertionSort (· ≤ ·)

/-- The keys of the seats, in the order of the script's `KEYS`. -/
def keys (scheduleId : Nat) (seatIds : List Nat) : List Key :=
  seatIds.map fun seatId => { scheduleId, seatId }

def token (userId : Nat) : Token :=
  { userId }

/--
`max(1, int(hold_ttl_sec * (SEAT_GATE_TTL / HOLD_TTL) * 1000))`, with the
ratio taken exactly.
-/
def ttlMs (holdTtlSec : Int) : Int :=
  max 1 ((holdTtlSec * Policy.seatGateTtlSec * 1000).tdiv Policy.holdTtlSec)

/-- `_RETRIES + 1`. -/
def attempts : Nat := 2

theorem ttlMs_pos (holdTtlSec : Int) : 0 < ttlMs holdTtlSec := by
  rw [ttlMs]
  omega

/-- A gate key of a positive hold runs out before the hold does. -/
theorem ttlMs_le {holdTtlSec : Int} (positive : 0 < holdTtlSec) :
    ttlMs holdTtlSec ≤ seconds holdTtlSec := by
  have nonnegative : 0 ≤ holdTtlSec * Policy.seatGateTtlSec * 1000 := by
    simp only [Policy.seatGateTtlSec]
    omega
  rw [ttlMs, Int.tdiv_eq_ediv_of_nonneg nonnegative, seconds]
  simp only [Policy.seatGateTtlSec, Policy.holdTtlSec]
  omega

@[simp]
theorem mem_ordered {seatIds : List Nat} {seatId : Nat} :
    seatId ∈ ordered seatIds ↔ seatId ∈ seatIds := by
  simp [ordered]

@[simp]
theorem mem_keys {scheduleId : Nat} {seatIds : List Nat} {key : Key} :
    key ∈ keys scheduleId seatIds ↔
      key.scheduleId = scheduleId ∧ key.seatId ∈ seatIds := by
  cases key
  simp only [keys, List.mem_map, Key.mk.injEq]
  constructor
  · rintro ⟨_, member, rfl, rfl⟩
    exact ⟨rfl, member⟩
  · rintro ⟨rfl, member⟩
    exact ⟨_, member, rfl, rfl⟩

end Curtain.Gate
