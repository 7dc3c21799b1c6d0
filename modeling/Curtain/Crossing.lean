import Curtain.Quota
import Curtain.Lib.WaitGraph
import Mathlib.Algebra.Order.BigOperators.Group.List
import Mathlib.Algebra.Order.Group.Nat

/-!
# Crossing requests

A claim takes its advisory lock before any row, and then its rows in the order
of their seats.  So whoever waits for a lock holds only locks of lower ranks,
and claims that cross each other never wait in a circle.
-/

namespace Curtain

open Queries Table HoldService

/-! ## The order of the locks -/

/-- The row locks come in the order of the seats, after the other locks. -/
def Resource.rank (stock : List Stock) : Resource → Nat
  | .seat id => ((lookup Stock.id id stock).map (·.seatId + 1)).getD 0
  | _ => 0

section Ranks

variable {db : Db} {row : ScheduleSeat}

theorem rank_seat (unique : Unique Stock.id db.stock)
    (member : row ∈ db.scheduleSeats) :
    Resource.rank db.stock (.seat row.id) = row.seatId + 1 := by
  have found : lookup Stock.id row.id db.stock = some row.stock :=
    (lookup_eq_some unique).mpr ⟨List.mem_map_of_mem member, rfl⟩
  rw [Resource.rank, found]
  rfl

/-- No rank lies beyond the last seat. -/
theorem exists_rank_bound (stock : List Stock) :
    ∃ bound, ∀ resource : Resource, resource.rank stock ≤ bound := by
  refine ⟨(stock.map (·.seatId + 1)).sum, ?_⟩
  intro resource
  cases resource with
  | seat id =>
      rw [Resource.rank]
      cases found : lookup Stock.id id stock with
      | none => exact Nat.zero_le _
      | some row =>
          exact
            List.le_sum_of_mem
              (List.mem_map_of_mem (lookup_mem found).1)
  | quota | order | item => exact Nat.zero_le _

/-- The rows that a claim is going to lock have climbing ranks. -/
theorem target_climbs (idUnique : Unique Stock.id db.stock)
    (seatUnique :
      Unique (fun stock => (stock.scheduleId, stock.seatId)) db.stock)
    (scheduleId : Nat) (wanted : List Nat) (now : Time) :
    ((target scheduleId wanted now db).map (·.id)).Pairwise fun left right =>
      Resource.rank db.stock (.seat left) < Resource.rank db.stock (.seat right) := by
  have sorted :
      (target scheduleId wanted now db).Pairwise fun left right =>
        left.seatId ≤ right.seatId :=
    List.pairwise_insertionSort _ _
  have narrower :
      ∀ row, isTarget scheduleId wanted now row = true →
        row.scheduleId = scheduleId := by
    intro row meets
    simp only [isTarget, Bool.and_eq_true, beq_iff_eq] at meets
    exact meets.1.1
  have distinct :
      ((target scheduleId wanted now db).map (·.seatId)).Nodup :=
    (((List.perm_insertionSort _ _).map _).nodup_iff).mpr
      (Db.filter_distinct seatUnique narrower)
  have included : ∀ row ∈ target scheduleId wanted now db, row ∈ db.scheduleSeats := by
    intro row member
    exact (List.mem_filter.mp ((List.mem_insertionSort _).mp member)).1
  rw [List.pairwise_map]
  refine (sorted.and (List.pairwise_map.mp distinct)).imp_of_mem ?_
  intro left right leftMember rightMember both
  rw [rank_seat idUnique (included left leftMember),
    rank_seat idUnique (included right rightMember)]
  omega

end Ranks

/-! ## A claim in progress -/

section Climbing

variable (stock : List Stock) (locks : LockTable) (session : Nat)

/-- What a claim holds is below what it is going to ask for. -/
def Stage.Climbing : Stage → Prop
  | .quota _ => ∀ lock ∈ locks, lock.session ≠ session
  | .selecting (.holdSeats _) =>
      ∀ lock ∈ locks, lock.session = session → lock.resource.rank stock = 0
  | .locking (.holdSeats _) scan =>
      (scan.rest.Pairwise fun left right =>
        Resource.rank stock (.seat left) < Resource.rank stock (.seat right)) ∧
      ∀ lock ∈ locks, lock.session = session → ∀ id ∈ scan.rest,
        lock.resource.rank stock < Resource.rank stock (.seat id)
  | .writing (.holdSeats _) _ => True
  | _ => False

def Next.Climbing : Next → Prop
  | .stage later => later.Climbing stock locks session
  | .grant resource mode later =>
      later.Climbing stock ({ session, resource, mode } :: locks) session
  | .ended => True

end Climbing

section Next

variable {hashtext : String → Int} {available : Resource → LockMode → Bool}
variable {db : Db} {stock : List Stock} {locks left : LockTable}
variable {session : Nat} {now : Time}

/-- The locks of the others do not matter. -/
theorem Stage.Climbing.mono {stage : Stage}
    (climbing : stage.Climbing stock locks session)
    (fewer : ∀ lock ∈ left, lock.session = session → lock ∈ locks) :
    stage.Climbing stock left session := by
  cases stage with
  | quota request =>
      intro lock held own
      exact climbing lock (fewer lock held own) own
  | selecting statement =>
      cases statement with
      | holdSeats request =>
          intro lock held own
          exact climbing lock (fewer lock held own) own
      | releaseHold | sweepExpiredHolds | bookOrderSeats | restoreOrderSeats =>
          exact climbing.elim
  | locking statement scan =>
      cases statement with
      | holdSeats request =>
          exact
            ⟨climbing.1, fun lock held own =>
              climbing.2 lock (fewer lock held own) own⟩
      | releaseHold | sweepExpiredHolds | bookOrderSeats | restoreOrderSeats =>
          exact climbing.elim
  | writing statement rows =>
      cases statement with
      | holdSeats request => trivial
      | releaseHold | sweepExpiredHolds | bookOrderSeats | restoreOrderSeats =>
          exact climbing.elim
  | confirming | claiming | inserting | referencing | closing | refunding
  | canceling =>
      exact climbing.elim

theorem Stage.concluded_climbing {request : AcquireRequest} {scan : Scan} :
    (Stage.concluded (.holdSeats request) scan).Climbing stock locks session := by
  rw [Stage.concluded]
  split <;> trivial

/-- A claim that goes on holds less than what it is going to ask for. -/
theorem Stage.next_climbing (idUnique : Unique Stock.id db.stock)
    (seatUnique :
      Unique (fun stock => (stock.scheduleId, stock.seatId)) db.stock)
    {stage : Stage} {next : Next}
    (climbing : stage.Climbing db.stock locks session)
    (taken : stage.next hashtext available now db = some next) :
    next.Climbing db.stock locks session := by
  cases Stage.moves_of_next taken with
  | ended => trivial
  | claims =>
      intro lock held own
      rcases List.mem_cons.mp held with rfl | old
      · rfl
      · exact absurd own (climbing lock old)
  | @selects statement =>
      cases statement with
      | holdSeats request =>
          refine ⟨target_climbs idUnique seatUnique _ _ _, ?_⟩
          intro lock held own id listed
          obtain ⟨row, member, rfl⟩ := List.mem_map.mp listed
          have stored :=
            (List.mem_filter.mp ((List.mem_insertionSort _).mp member)).1
          rw [climbing lock held own, rank_seat idUnique stored]
          exact Nat.succ_pos _
      | releaseHold | sweepExpiredHolds | bookOrderSeats | restoreOrderSeats =>
          exact climbing.elim
  | @locks statement scan next goesOn =>
      cases statement with
      | holdSeats request =>
          obtain ⟨sorted, below⟩ := climbing
          have lower {id : Nat} {rest : List Nat}
              (listed : scan.rest = id :: rest) :
              rest.Pairwise
                  (fun left right =>
                    Resource.rank db.stock (.seat left) <
                      Resource.rank db.stock (.seat right)) ∧
                ∀ lock ∈
                    ({ session, resource := .seat id, mode := .forUpdate } ::
                      locks : LockTable),
                  lock.session = session → ∀ other ∈ rest,
                    lock.resource.rank db.stock <
                      Resource.rank db.stock (.seat other) := by
            rw [listed, List.pairwise_cons] at sorted
            refine ⟨sorted.2, ?_⟩
            intro lock held own other member
            rcases List.mem_cons.mp held with rfl | old
            · exact sorted.1 other member
            · refine below lock old own other ?_
              rw [listed]
              exact List.mem_cons_of_mem id member
          cases goesOn with
          | concluded => exact Stage.concluded_climbing
          | skipped listed skips => cases skips
          | dropped listed => exact lower listed
          | taken listed => exact lower listed
      | releaseHold | sweepExpiredHolds | bookOrderSeats | restoreOrderSeats =>
          exact climbing.elim
  | confirms | claimed | inserts | inserted | refers | referred | closes
  | refunds | refundsSettled | refundFails | cancels =>
      exact climbing.elim

end Next

/-! ## Every step -/

namespace Server

/-- No transaction is in progress, and the stock has its keys. -/
structure Quiet (server : Server) : Prop where
  idUnique : Unique Stock.id server.db.stock
  seatUnique :
    Unique (fun stock => (stock.scheduleId, stock.seatId)) server.db.stock
  idle : ∀ session, server.sessions session = none
  unlocked : server.locks = []

/-- The claims in progress hold less than what they are going to ask for. -/
structure Climbing (server : Server) : Prop where
  idUnique : Unique Stock.id server.db.stock
  seatUnique :
    Unique (fun stock => (stock.scheduleId, stock.seatId)) server.db.stock
  owned :
    ∀ lock ∈ server.locks, (server.sessions lock.session).isSome = true
  climbing :
    ∀ session current, server.sessions session = some current →
      current.stage.Climbing server.db.stock server.locks session

/-- A claim that begins to wait for a resource that another session has locked. -/
def Waits (hashtext : String → Int) (server : Server)
    (first : Nat) (resource : Resource) (second : Nat) : Prop :=
  ∃ current mode stage, server.sessions first = some current ∧
    current.stage.next hashtext (server.available first) current.startedAt
        server.db = some (.grant resource mode stage) ∧
    second ≠ first ∧
    ∃ lock ∈ server.locks, lock.session = second ∧ lock.resource = resource ∧
      lock.mode.conflicts mode = true

namespace Climbing

variable {hashtext : String → Int} {server next : Server} {session : Nat}
variable {current : Session}

theorem of_quiet (quiet : server.Quiet) : server.Climbing where
  idUnique := quiet.idUnique
  seatUnique := quiet.seatUnique
  owned := by simp [quiet.unlocked]
  climbing := by simp [quiet.idle]

/-- A commit of another database with the same stock. -/
theorem stocked (climbing : server.Climbing) {after : Db}
    (same : after.stock = server.db.stock) :
    ({ server with db := after } : Server).Climbing where
  idUnique := by dsimp only; rw [same]; exact climbing.idUnique
  seatUnique := by dsimp only; rw [same]; exact climbing.seatUnique
  owned := climbing.owned
  climbing := by dsimp only; rw [same]; exact climbing.climbing

theorem finish (climbing : server.Climbing) (session : Nat) :
    (server.finish session).Climbing where
  idUnique := climbing.idUnique
  seatUnique := climbing.seatUnique
  owned := by
    intro lock held
    obtain ⟨old, other⟩ := Locks.mem_release.mp held
    simpa [Server.finish, Function.update_of_ne other] using
      climbing.owned lock old
  climbing :=
    each_finish climbing.climbing fun _ _ _ climbs =>
      climbs.mono fun lock held _ => (Locks.mem_release.mp held).1

/-- A session goes on, with the locks of all and one of its own perhaps. -/
theorem put (climbing : server.Climbing) (session : Nat) (current : Session)
    {locks : LockTable}
    (kept :
      ∀ lock ∈ locks, lock.session = session ∨ lock ∈ server.locks)
    (climbs : current.stage.Climbing server.db.stock locks session) :
    ({ server.put session current with locks } : Server).Climbing where
  idUnique := climbing.idUnique
  seatUnique := climbing.seatUnique
  owned := by
    intro lock held
    by_cases own : lock.session = session
    · simp [Server.put, own]
    · simpa [Server.put, Function.update_of_ne own] using
        climbing.owned lock ((kept lock held).resolve_left own)
  climbing := by
    intro other running found
    by_cases same : other = session
    · subst same
      simp only [Server.put, Function.update_self, Option.some.injEq] at found
      subst found
      exact climbs
    · simp only [Server.put, Function.update_of_ne same] at found
      refine (climbing.climbing other running found).mono ?_
      intro lock held own
      exact (kept lock held).resolve_left (by rw [own]; exact same)

/-- Every step of claims keeps their locks in order. -/
theorem step (climbing : server.Climbing) {action : Action}
    (claims : action.claims = true)
    (taken : server.step hashtext action = some next) :
    next.Climbing := by
  have climbs {session : Nat} {current : Session} {later : Next}
      (found : server.sessions session = some current)
      (next :
        current.stage.next hashtext (server.available session)
          current.startedAt server.db = some later) :
      later.Climbing server.db.stock server.locks session :=
    Stage.next_climbing climbing.idUnique climbing.seatUnique
      (climbing.climbing session current found) next
  cases steps_of_step taken with
  | tick elapsed => exact { climbing with }
  | opened opened => exact climbing.stocked opened.stock
  | @begun session work idle admissible =>
      cases work with
      | acquire request =>
          refine climbing.put session _ (fun _ held => Or.inr held) ?_
          -- A session that is not in progress has no locks.
          intro lock held own
          have running := climbing.owned lock held
          rw [own, idle] at running
          cases running
      | release | sweepExpired | confirmPaid | closeUnpaid | recordRefund
      | closeCanceled =>
          cases claims
  | @passed session current stage found next =>
      exact
        climbing.put session { current with stage } (fun _ held => Or.inr held)
          (climbs found next)
  | @granted session current resource mode stage found next free =>
      refine climbing.put session { current with stage } ?_ (climbs found next)
      intro lock held
      rcases List.mem_cons.mp held with rfl | old
      · exact Or.inl rfl
      · exact Or.inr old
  | @committed session current statement rows after found writing ok =>
      have climbs := climbing.climbing session current found
      rw [writing] at climbs
      cases statement with
      | holdSeats request =>
          -- Claims only write rows of the stock that is there.
          cases ok
          exact
            (climbing.finish session).stocked
              (Db.updateSeats_stock (hold_stock _ _))
      | releaseHold | sweepExpiredHolds | bookOrderSeats
      | restoreOrderSeats =>
          exact climbs.elim
  | ended | failed | rolledBack => exact climbing.finish _

/-- A claim that waits holds only locks of lower ranks. -/
theorem holds_below (climbing : server.Climbing)
    {resource higher : Resource} {first second third : Nat}
    (waits : server.Waits hashtext first resource second)
    (goesOn : server.Waits hashtext second higher third) :
    resource.rank server.db.stock < higher.rank server.db.stock := by
  obtain ⟨-, -, -, -, -, -, lock, held, own, rfl, -⟩ := waits
  obtain ⟨current, mode, stage, found, asks, -, -⟩ := goesOn
  have climbs := climbing.climbing second current found
  generalize current.stage = standing at climbs asks
  cases standing with
  | quota request => exact absurd own (climbs lock held)
  | locking statement scan =>
      cases statement with
      | holdSeats request =>
          simp only [Stage.next] at asks
          split at asks
          · rw [Stage.concluded] at asks
            split at asks <;> cases asks
          · rename_i id rest listed
            split at asks
            · rw [Stage.concluded] at asks
              split at asks <;> cases asks
            · split at asks
              · cases asks
              · cases asks
                refine climbs.2 lock held own id ?_
                rw [listed]
                exact List.mem_cons_self
      | releaseHold | sweepExpiredHolds | bookOrderSeats | restoreOrderSeats =>
          exact climbs.elim
  | selecting => cases asks
  | writing => cases asks
  | confirming | claiming | inserting | referencing | closing | refunding
  | canceling =>
      exact climbs.elim

theorem climbs (climbing : server.Climbing) :
    WaitGraph.Climbs (server.Waits hashtext)
      (Resource.rank server.db.stock) :=
  fun _ _ _ waits _ _ goesOn => climbing.holds_below waits goesOn

end Climbing

/-- The session takes its next step or commits. -/
def Moves (hashtext : String → Int) (server : Server) (session : Nat) : Prop :=
  (∃ next, server.step hashtext (.advance session) = some next) ∨
    ∃ next, server.step hashtext (.commit session) = some next

section Moves

variable {hashtext : String → Int} {server : Server} {session : Nat}

/-- A session that has no next step commits. -/
theorem moves_of_writing {current : Session}
    (found : server.sessions session = some current)
    {statement : SeatStatement} {rows : List Nat}
    (writing : current.stage = .writing statement rows) :
    server.Moves hashtext session := by
  right
  simp only [Server.step, found, Option.bind_some, Server.committed, writing]
  split <;> exact ⟨_, rfl⟩

/-- A lock that cannot be taken is held by another session. -/
theorem holder_of_unavailable {resource : Resource} {mode : LockMode}
    (unavailable : server.available session resource mode = false) :
    ∃ lock ∈ server.locks, lock.session ≠ session ∧
      lock.resource = resource ∧ lock.mode.conflicts mode = true := by
  rw [Server.available, Locks.available, List.all_eq_false] at unavailable
  obtain ⟨lock, held, blocks⟩ := unavailable
  simp only [Bool.or_eq_true, decide_eq_true_eq, Bool.not_eq_true',
    not_or, not_not, Bool.not_eq_false] at blocks
  exact ⟨lock, held, blocks.1.1, blocks.1.2, blocks.2⟩

/-- A claim has a next step until only its commit is left. -/
theorem writing_of_next_none {available : Resource → LockMode → Bool}
    {now : Time} {db : Db} {stock : List Stock} {locks : LockTable}
    {stage : Stage} (climbing : stage.Climbing stock locks session)
    (last : stage.next hashtext available now db = none) :
    ∃ statement rows, stage = .writing statement rows := by
  cases stage with
  | writing statement rows => exact ⟨statement, rows, rfl⟩
  | quota request => cases last
  | selecting statement => cases last
  | locking statement scan =>
      simp only [Stage.next] at last
      split at last
      · cases last
      · split at last
        · cases last
        · split at last <;> cases last
  | confirming | claiming | inserting | referencing | closing | refunding
  | canceling =>
      exact climbing.elim

/-- A claim in progress that waits for nobody can go on. -/
theorem moves_of_unblocked (climbing : server.Climbing)
    (running : (server.sessions session).isSome = true)
    (free : ∀ other, ¬ WaitGraph.WaitsFor (server.Waits hashtext) session other) :
    server.Moves hashtext session := by
  obtain ⟨current, found⟩ := Option.isSome_iff_exists.mp running
  have climbs := climbing.climbing session current found
  cases nextOk :
      current.stage.next hashtext (server.available session) current.startedAt
        server.db with
  | none =>
      obtain ⟨statement, rows, writing⟩ := writing_of_next_none climbs nextOk
      exact moves_of_writing found writing
  | some later =>
      left
      simp only [Server.step, found, Option.bind_some, nextOk]
      cases later with
      | stage stage => exact ⟨_, rfl⟩
      | ended => exact ⟨_, rfl⟩
      | grant resource mode stage =>
          cases granted : server.available session resource mode with
          | true => exact ⟨_, if_pos granted⟩
          | false =>
              obtain ⟨lock, held, other, same, conflicts⟩ :=
                holder_of_unavailable granted
              exact
                absurd
                  ⟨resource, current, mode, stage, found, nextOk, other, lock,
                    held, rfl, same, conflicts⟩
                  (free lock.session)

end Moves

/--
Claims that run side by side, from any state of the tables, never wait for each
other in a circle, and as long as one is unfinished, one that it leads to can
go on.
-/
theorem crossing_claims_do_not_deadlock
    {hashtext : String → Int} {start server : Server}
    (quiet : start.Quiet)
    (run :
      TransitionSystem.RunWhere (Server.step hashtext)
        (fun _ action => action.claims = true) start server) :
    (∀ session,
      ¬ Relation.TransGen (WaitGraph.WaitsFor (server.Waits hashtext))
        session session) ∧
    ∀ session, (server.sessions session).isSome = true →
      ∃ last,
        Relation.ReflTransGen (WaitGraph.WaitsFor (server.Waits hashtext))
            session last ∧
          (server.sessions last).isSome = true ∧ server.Moves hashtext last := by
  have climbing : server.Climbing :=
    run.invariant (.of_quiet quiet)
      fun _ _ _ climbing claims taken => climbing.step claims taken
  obtain ⟨bound, within⟩ := exists_rank_bound server.db.stock
  refine ⟨climbing.climbs.acyclic, ?_⟩
  intro session running
  obtain ⟨last, chain, free⟩ :=
    climbing.climbs.exists_unblocked
      (fun _ resource _ _ => within resource) session
  have lastRunning : (server.sessions last).isSome = true := by
    refine
      WaitGraph.of_chain
        (fun session => (server.sessions session).isSome = true) running ?_ chain
    rintro waiter resource holder ⟨-, -, -, -, -, -, lock, held, rfl, -⟩
    exact climbing.owned lock held
  exact ⟨last, chain, lastRunning, moves_of_unblocked climbing lastRunning free⟩

theorem quiet_initial
    (inventory : Inventory) (startsAt : Nat → Policy.Datetime) (clock : Time) :
    (Server.initial inventory startsAt clock).Quiet where
  idUnique := (World.initial_sound inventory startsAt clock).idUnique
  seatUnique := (World.initial_sound inventory startsAt clock).seatUnique
  idle := fun _ => rfl
  unlocked := rfl

/-- Two users ask for the same two seats, each beginning with another one. -/
def Action.crossing : List Action :=
  [.begin 0 (.acquire { scheduleId := 1, userId := 7, seatIds := [1, 2] }),
   .begin 1 (.acquire { scheduleId := 1, userId := 8, seatIds := [2, 1] })] ++
    Action.advances 0 3 ++ Action.advances 1 2

/-- The session waits for a row that another one has locked. -/
def waitsForSeat (hashtext : String → Int) (server : Server)
    (first id second : Nat) : Bool :=
  (server.sessions first).any fun current =>
    match current.stage.next hashtext (server.available first)
        current.startedAt server.db with
    | some (.grant resource mode _) =>
        resource == .seat id && server.locks.any fun lock =>
          lock.session == second && lock.resource == .seat id &&
            lock.mode.conflicts mode
    | _ => false

/-- The second of two crossing claims waits, and some claim can go on. -/
theorem crossing_claims_do_not_deadlock_crossing :
    ∃ hashtext : String → Int, ∃ server : Server,
      server.waitsForSeat hashtext 1 1 0 = true ∧
        (∀ session,
          ¬ Relation.TransGen (WaitGraph.WaitsFor (server.Waits hashtext))
            session session) ∧
        ∃ last, server.Moves hashtext last := by
  obtain ⟨server, run, seen⟩ :=
    TransitionSystem.RunWhere.exists_of_checkedRun
      (Server.step fun key => if key = quotaKey 1 7 then 0 else 1)
      (fun _ action => action.claims = true)
      (Server.initial .twoSeats (fun _ => { instant := 0, offset := 0 }) 0)
      Action.crossing
      (fun server : Server =>
        server.waitsForSeat (fun key => if key = quotaKey 1 7 then 0 else 1)
            1 1 0 &&
          (server.sessions 1).isSome)
      (by decide)
  rw [Bool.and_eq_true] at seen
  obtain ⟨acyclic, progress⟩ :=
    crossing_claims_do_not_deadlock (quiet_initial _ _ _) run
  obtain ⟨last, -, -, moves⟩ := progress 1 seen.2
  exact ⟨_, server, seen.1, acyclic, last, moves⟩

end Server

end Curtain
