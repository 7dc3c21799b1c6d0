import Curtain.Calls

/-!
# Ownership of the gate keys

A key that another token holds is left alone by every script, hence in every
run of the scripts of any number of clients, and a script that is retried
finds the keys as its first run left them.
-/

namespace Curtain.Gate

open KeyStore TransitionSystem

variable {GateKey Owner : Type*}

/-! ## Scripts of many clients -/

/-- The key store and its clock. -/
structure Keyspace (GateKey Owner : Type*) where
  clock : Int
  store : Store GateKey Owner

/-- A script of some client, time that passes, or the removal of an expired key. -/
inductive Script (GateKey Owner : Type*) where
  | seatGate (token : Owner) (ttlMs : Int) (keys : List GateKey)
  | seatGateRelease (token : Owner) (keys : List GateKey)
  | elapse (span : Nat)
  | expire (key : GateKey)

/-- The token that a script carries. -/
def Script.token? : Script GateKey Owner → Option Owner
  | .seatGate token _ _ => some token
  | .seatGateRelease token _ => some token
  | .elapse _ => none
  | .expire _ => none

section Runs

variable [DecidableEq GateKey] [DecidableEq Owner]

/-- `SET` and `PEXPIRE` need a positive time to live. -/
def Keyspace.step (space : Keyspace GateKey Owner) :
    Script GateKey Owner → Option (Keyspace GateKey Owner)
  | .seatGate token ttlMs keys =>
      if 0 < ttlMs then
        some
          { space with
            store := (Gate.seatGate space.clock ttlMs token keys space.store).2 }
      else none
  | .seatGateRelease token keys =>
      some
        { space with
          store := (Gate.seatGateRelease space.clock token keys space.store).2 }
  | .elapse span => some { space with clock := space.clock + span }
  | .expire key =>
      if KeyStore.get space.clock space.store key = none then
        some { space with store := del key space.store }
      else none

theorem Keyspace.clock_le
    {space after : Keyspace GateKey Owner} {script : Script GateKey Owner}
    (taken : space.step script = some after) :
    space.clock ≤ after.clock := by
  cases script with
  | seatGate token ttlMs keys =>
      rw [Keyspace.step] at taken
      split at taken
      · rw [← Option.some.inj taken]
      · cases taken
  | seatGateRelease token keys => rw [← Option.some.inj taken]
  | elapse span =>
      rw [← Option.some.inj taken]
      exact Int.le_add_of_nonneg_right (Int.natCast_nonneg span)
  | expire key =>
      rw [Keyspace.step] at taken
      split at taken
      · rw [← Option.some.inj taken]
      · cases taken

/-- No script touches the live key of a different token. -/
theorem Keyspace.step_foreign
    {space after : Keyspace GateKey Owner} {script : Script GateKey Owner}
    {key : GateKey} {entry : Entry Owner}
    (taken : space.step script = some after)
    (stored : space.store key = some entry)
    (live : space.clock ≤ entry.expiresAt)
    (other : script.token? ≠ some entry.value) :
    after.store key = some entry := by
  have found : KeyStore.get space.clock space.store key = some entry.value :=
    get_eq_some.mpr ⟨entry, stored, live, rfl⟩
  cases script with
  | seatGate token ttlMs keys =>
      rw [Keyspace.step] at taken
      split at taken
      · rename_i positive
        rw [← Option.some.inj taken]
        have blocks : foreign space.clock token space.store key = true :=
          foreign_eq_true.mpr ⟨_, found, fun same => other (by rw [same]; rfl)⟩
        by_cases passed :
            (Gate.seatGate space.clock ttlMs token keys space.store).1 = 0
        · have unlisted : key ∉ keys := by
            intro member
            have free := (seatGate_eq_zero positive.le).mp passed key member
            rw [blocks] at free
            exact absurd free (by decide)
          rw [seatGate_passed positive.le passed]
          simpa [Gate.taken, unlisted] using stored
        · obtain ⟨position, inside, -, -, first, rolledBack⟩ :=
            seatGate_blocked positive.le passed
          have kept : key ∉ keys.take position := by
            intro member
            have free := first key member
            rw [blocks] at free
            exact absurd free (by decide)
          rw [rolledBack]
          simpa [withdrawn, kept] using stored
      · cases taken
  | seatGateRelease token keys =>
      rw [← Option.some.inj taken, seatGateRelease_store]
      have different : entry.value ≠ token := by
        rintro rfl
        exact other rfl
      simpa [found, different] using stored
  | elapse span =>
      rw [← Option.some.inj taken]
      exact stored
  | expire gone =>
      rw [Keyspace.step] at taken
      split at taken
      · rename_i expired
        rw [← Option.some.inj taken]
        have different : key ≠ gone := by
          rintro rfl
          rw [found] at expired
          cases expired
        exact (del_of_ne different).trans stored
      · cases taken

/--
While it is live, a key outlasts every run of scripts that carry other tokens.
-/
theorem Keyspace.run_foreign
    {space after : Keyspace GateKey Owner} {key : GateKey} {entry : Entry Owner}
    (run :
      RunWhere Keyspace.step
        (fun _ script => script.token? ≠ some entry.value) space after)
    (stored : space.store key = some entry)
    (live : after.clock ≤ entry.expiresAt) :
    after.store key = some entry := by
  induction run with
  | refl => exact stored
  | tail _ other taken induction =>
      have earlier := (Keyspace.clock_le taken).trans live
      exact Keyspace.step_foreign taken (induction earlier) earlier other

end Runs

/-! ## A script that runs again -/

section Retries

variable [DecidableEq GateKey] [DecidableEq Owner]

/--
A second run finds the answer and the owners of the first one, as long as no
key that the first run left has expired.
-/
theorem seatGate_again
    {now later ttlMs : Int} {token : Owner} {keys : List GateKey}
    {store : Store GateKey Owner}
    (positive : 0 < ttlMs)
    (unexpired :
      ∀ key owner,
        KeyStore.get now (seatGate now ttlMs token keys store).2 key =
            some owner →
          KeyStore.get later (seatGate now ttlMs token keys store).2 key =
            some owner) :
    (seatGate later ttlMs token keys
          (seatGate now ttlMs token keys store).2).1 =
        (seatGate now ttlMs token keys store).1 ∧
      ∀ key,
        KeyStore.get later
            (seatGate later ttlMs token keys
              (seatGate now ttlMs token keys store).2).2 key =
          KeyStore.get later (seatGate now ttlMs token keys store).2 key := by
  by_cases passed : (seatGate now ttlMs token keys store).1 = 0
  · have own :
        ∀ key ∈ keys,
          KeyStore.get later (seatGate now ttlMs token keys store).2 key =
            some token := by
      intro key member
      refine unexpired key token ?_
      rw [seatGate_passed positive.le passed]
      exact get_taken_of_mem member (by omega)
    have again :
        (seatGate later ttlMs token keys
          (seatGate now ttlMs token keys store).2).1 = 0 :=
      (seatGate_eq_zero positive.le).mpr fun key member =>
        foreign_eq_false.mpr (Or.inr (own key member))
    refine ⟨again.trans passed.symm, fun key => ?_⟩
    rw [seatGate_passed positive.le again]
    by_cases member : key ∈ keys
    · rw [get_taken_of_mem member (by omega), own key member]
    · rw [get_taken_of_notMem member]
  · obtain ⟨position, inside, answer, blocks, first, rolledBack⟩ :=
      seatGate_blocked positive.le passed
    obtain ⟨owner, found, different⟩ := foreign_eq_true.mp blocks
    have kept : keys[position] ∉ keys.take position := by
      intro member
      have free := first _ member
      rw [blocks] at free
      exact absurd free (by decide)
    have stillFound :
        KeyStore.get later (withdrawn (keys.take position) store)
          keys[position] = some owner := by
      rw [← rolledBack]
      refine unexpired _ owner ?_
      rw [rolledBack]
      simpa [KeyStore.get, withdrawn, kept] using found
    have search :
        keys.findIdx?
            (foreign later token (withdrawn (keys.take position) store)) =
          some position := by
      refine List.findIdx?_eq_some_iff_getElem.mpr
        ⟨inside, foreign_eq_true.mpr ⟨owner, stillFound, different⟩, ?_⟩
      intro earlier before
      have member : keys[earlier] ∈ keys.take position :=
        List.mem_take_iff_getElem.mpr ⟨earlier, by omega, rfl⟩
      simp [foreign, KeyStore.get, withdrawn, member]
    rw [answer, rolledBack, seatGate_eq positive.le, search]
    refine ⟨rfl, fun key => ?_⟩
    by_cases member : key ∈ keys.take position <;>
      simp [KeyStore.get, withdrawn, member]

/-- The retry after a lost answer: alone, and after scripts of other tokens. -/
theorem seatGate_retry
    (now ttlMs : Int) (token : Owner) (keys : List GateKey)
    (store : Store GateKey Owner)
    (positive : 0 < ttlMs) :
    (∀ later,
      (∀ key owner,
        KeyStore.get now (seatGate now ttlMs token keys store).2 key =
            some owner →
          KeyStore.get later (seatGate now ttlMs token keys store).2 key =
            some owner) →
      (seatGate later ttlMs token keys
            (seatGate now ttlMs token keys store).2).1 =
          (seatGate now ttlMs token keys store).1 ∧
        ∀ key,
          KeyStore.get later
              (seatGate later ttlMs token keys
                (seatGate now ttlMs token keys store).2).2 key =
            KeyStore.get later (seatGate now ttlMs token keys store).2 key) ∧
      ((seatGate now ttlMs token keys store).1 = 0 →
        ∀ after : Keyspace GateKey Owner,
          RunWhere Keyspace.step
              (fun _ script => script.token? ≠ some token)
              { clock := now
                store := (seatGate now ttlMs token keys store).2 }
              after →
            after.clock ≤ now + ttlMs →
              (seatGate after.clock ttlMs token keys after.store).1 = 0) := by
  refine ⟨fun later => seatGate_again positive, ?_⟩
  intro passed after run live
  refine (seatGate_eq_zero positive.le).mpr fun key member => ?_
  have stored :
      (seatGate now ttlMs token keys store).2 key =
        some { value := token, expiresAt := now + ttlMs } := by
    rw [seatGate_passed positive.le passed]
    simp [taken, member]
  have survives :
      after.store key = some { value := token, expiresAt := now + ttlMs } :=
    Keyspace.run_foreign run stored live
  refine foreign_eq_false.mpr (Or.inr ?_)
  exact get_eq_some.mpr ⟨_, survives, live, rfl⟩

end Retries

/--
The first attempt's answer is lost, a second user is turned away, and the
retry passes.
-/
theorem seatGate_retry_twoSeats :
    (seatGate 5 100 (token 1) (keys 1 [1, 2])
      (seatGate 5 50 (token 2) (keys 1 [2])
        (seatGate 0 100 (token 1) (keys 1 [1, 2]) fun _ => none).2).2).1 =
      0 :=
  (seatGate_retry 0 100 (token 1) (keys 1 [1, 2]) (fun _ => none)
      (by decide)).2 (by decide)
    { clock := 5
      store :=
        (seatGate 5 50 (token 2) (keys 1 [2])
          (seatGate 0 100 (token 1) (keys 1 [1, 2]) fun _ => none).2).2 }
    (.of_checkedRun
      [Script.elapse 5, Script.seatGate (token 2) 50 (keys 1 [2])] rfl)
    (by decide)

/-! ## The scripts as locks -/

/-- The index that blocked leads back to a requested seat. -/
theorem seatGate_blockedSeat
    {now ttlMs : Int} {owner : Token} {scheduleId : Nat} {seatIds : List Nat}
    {store : Store Key Token}
    (lasting : 0 ≤ ttlMs)
    (blocked :
      (seatGate now ttlMs owner (keys scheduleId (ordered seatIds)) store).1 ≠
        0) :
    ∃ seatId ∈ seatIds,
      (ordered seatIds)[(seatGate now ttlMs owner
          (keys scheduleId (ordered seatIds)) store).1 - 1]? = some seatId ∧
        ∃ other ≠ owner,
          KeyStore.get now store { scheduleId, seatId } = some other := by
  obtain ⟨position, inside, answer, blocks, -, -⟩ :=
    seatGate_blocked lasting blocked
  have bounded : position < (ordered seatIds).length := by
    simpa [keys] using inside
  obtain ⟨other, found, different⟩ := foreign_eq_true.mp blocks
  refine ⟨(ordered seatIds)[position], ?_, ?_, other, different, ?_⟩
  · exact mem_ordered.mp (List.getElem_mem bounded)
  · rw [answer, Nat.add_sub_cancel, List.getElem?_eq_getElem bounded]
  · simpa [keys] using found

end Curtain.Gate

namespace Curtain

open Gate KeyStore TransitionSystem

/-- The seat with which the gate turns a request away belongs to another user. -/
theorem gateTrip_blocked
    {now : Time} {gate : Store Gate.Key Gate.Token} {io : GateIo}
    {request : HoldService.AcquireRequest} {attempts : Nat}
    {trip : GateProgress} {blocked : List Nat}
    (travels :
      gateTrip now gate io (.acquiring request (.gating attempts)) = some trip)
    (told : .acquireEnded request (.error (.holdRejected blocked)) ∈
      trip.events) :
    ∃ seatId ∈ request.seatIds, blocked = [seatId] ∧
      ∃ userId ≠ request.userId,
        KeyStore.get now gate
            { scheduleId := request.scheduleId, seatId } =
          some (token userId) := by
  cases travels_of_gateTrip travels with
  | retried | passed => cases told
  | blocked blocks =>
      obtain ⟨seatId, requested, named, other, different, found⟩ :=
        seatGate_blockedSeat (ttlMs_pos request.ttlSec).le blocks
      refine ⟨seatId, requested, ?_, other.userId, ?_, found⟩
      · rw [named] at told
        simpa using told
      · intro same
        exact different (congrArg Token.mk same)

/--
The gate scripts are locks that are taken all together: the result of the gate
script and what it leaves in the store, the safety of every live key from the
scripts of other tokens, the result of a release, and the seat that the client
reads off the result.
-/
theorem gate_locks (GateKey Owner : Type)
    [DecidableEq GateKey] [DecidableEq Owner] :
    (∀ (now ttlMs : Int) (token : Owner) (keys : List GateKey)
        (store : Store GateKey Owner),
      keys.Nodup → 0 < ttlMs →
        ((seatGate now ttlMs token keys store).1 = 0 ↔
            ∀ key ∈ keys,
              KeyStore.get now store key = none ∨
                KeyStore.get now store key = some token) ∧
          ((seatGate now ttlMs token keys store).1 = 0 →
            ∀ key,
              (seatGate now ttlMs token keys store).2 key =
                if key ∈ keys then
                  some { value := token, expiresAt := now + ttlMs }
                else store key) ∧
          ((seatGate now ttlMs token keys store).1 ≠ 0 →
            ∃ position, ∃ inside : position < keys.length,
              (seatGate now ttlMs token keys store).1 = position + 1 ∧
                (∃ owner ≠ token,
                  KeyStore.get now store keys[position] = some owner) ∧
                (∀ key ∈ keys.take position,
                  KeyStore.get now store key = none ∨
                    KeyStore.get now store key = some token) ∧
                ∀ key,
                  (seatGate now ttlMs token keys store).2 key =
                    if key ∈ keys.take position then none else store key)) ∧
      (∀ (start before after : Keyspace GateKey Owner)
          (script : Script GateKey Owner) (key : GateKey)
          (entry : Entry Owner),
        Reachable Keyspace.step start before →
          before.step script = some after →
            before.store key = some entry →
              before.clock ≤ entry.expiresAt →
                script.token? ≠ some entry.value →
                  after.store key = some entry) ∧
      (∀ (now : Int) (token : Owner) (keys : List GateKey)
          (store : Store GateKey Owner),
        keys.Nodup →
          (∀ key,
            (seatGateRelease now token keys store).2 key =
              if key ∈ keys ∧ KeyStore.get now store key = some token then
                none
              else store key) ∧
            (seatGateRelease now token keys store).1 =
              keys.countP fun key => KeyStore.get now store key = some token) ∧
      ∀ (now : Time) (gate : Store Gate.Key Gate.Token) (io : GateIo)
          (request : HoldService.AcquireRequest) (attempts : Nat)
          (trip : GateProgress) (blocked : List Nat),
        gateTrip now gate io (.acquiring request (.gating attempts)) =
            some trip →
          .acquireEnded request (.error (.holdRejected blocked)) ∈
              trip.events →
            ∃ seatId ∈ request.seatIds, blocked = [seatId] ∧
              ∃ userId ≠ request.userId,
                KeyStore.get now gate
                    { scheduleId := request.scheduleId, seatId } =
                  some (Gate.token userId) := by
  refine ⟨?_, ?_, ?_, ?_⟩
  · intro now ttlMs token keys store _ positive
    refine ⟨?_, ?_, ?_⟩
    · simp only [seatGate_eq_zero positive.le, foreign_eq_false]
    · intro passed key
      rw [seatGate_passed positive.le passed, taken]
    · intro blocked
      obtain ⟨position, inside, answer, blocks, first, rolledBack⟩ :=
        seatGate_blocked positive.le blocked
      obtain ⟨owner, found, different⟩ := foreign_eq_true.mp blocks
      refine ⟨position, inside, answer, ⟨owner, different, found⟩, ?_, ?_⟩
      · intro key member
        exact foreign_eq_false.mp (first key member)
      · intro key
        rw [rolledBack, withdrawn]
  · intro start before after script key entry _ stepped stored live other
    exact Keyspace.step_foreign stepped stored live other
  · intro now token keys store distinct
    exact
      ⟨congrFun (seatGateRelease_store now token keys store),
        seatGateRelease_count distinct store⟩
  · intro now gate io request attempts trip blocked travels told
    exact gateTrip_blocked travels told

/-- The second user holds the key of the second seat for a minute. -/
def Gate.secondSeat : Store Gate.Key Gate.Token :=
  fun key =>
    if key = { scheduleId := 1, seatId := 2 } then
      some { value := token 2, expiresAt := 60000 }
    else none

/--
The first user gets past the gate with the first seat and not with both, leaves
the second user's key alone, and is told that it is the second seat; the second
user gives one key back.
-/
theorem gate_locks_secondSeat :
    (seatGate 0 60000 (Gate.token 1) (Gate.keys 1 [1]) Gate.secondSeat).2
        { scheduleId := 1, seatId := 1 } =
      some { value := Gate.token 1, expiresAt := 60000 } ∧
    (∃ position,
      (seatGate 0 60000 (Gate.token 1) (Gate.keys 1 [1, 2])
          Gate.secondSeat).1 = position + 1 ∧
        ∀ key,
          (seatGate 0 60000 (Gate.token 1) (Gate.keys 1 [1, 2])
              Gate.secondSeat).2 key =
            if key ∈ (Gate.keys 1 [1, 2]).take position then none
            else Gate.secondSeat key) ∧
    (∀ after : Keyspace Gate.Key Gate.Token,
      Keyspace.step { clock := 0, store := Gate.secondSeat }
          (.seatGate (Gate.token 1) 60000 (Gate.keys 1 [1, 2])) = some after →
        after.store { scheduleId := 1, seatId := 2 } =
          some { value := Gate.token 2, expiresAt := 60000 }) ∧
    (seatGateRelease 0 (Gate.token 2) (Gate.keys 1 [1, 2])
        Gate.secondSeat).1 = 1 ∧
    ∃ seatId ∈ [1, 2], [2] = [seatId] ∧
      ∃ userId ≠ 1,
        KeyStore.get 0 Gate.secondSeat { scheduleId := 1, seatId } =
          some (Gate.token userId) := by
  obtain ⟨gates, keeps, releases, blocks⟩ := gate_locks Gate.Key Gate.Token
  refine ⟨?_, ?_, ?_, ?_, ?_⟩
  · have passed :=
      gates 0 60000 (Gate.token 1) (Gate.keys 1 [1]) Gate.secondSeat
        (by decide) (by decide)
    exact (passed.2.1 (by decide) _).trans (if_pos (by decide))
  · obtain ⟨position, -, answer, -, -, rolledBack⟩ :=
      (gates 0 60000 (Gate.token 1) (Gate.keys 1 [1, 2]) Gate.secondSeat
        (by decide) (by decide)).2.2 (by decide)
    exact ⟨position, answer, rolledBack⟩
  · intro after stepped
    exact
      keeps { clock := 0, store := Gate.secondSeat } _ _ _ _ _ .refl stepped
        rfl (by decide) (by decide)
  · exact
      (releases 0 (Gate.token 2) (Gate.keys 1 [1, 2]) Gate.secondSeat
        (by decide)).2.trans (by decide)
  · exact
      blocks 0 Gate.secondSeat .answered
        { scheduleId := 1, userId := 1, seatIds := [1, 2] } Gate.attempts _ [2]
        rfl List.mem_cons_self

end Curtain
