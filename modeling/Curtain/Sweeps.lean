import Curtain.Locked
import Mathlib.Data.List.Chain

/-!
# Concurrent sweeps

Any number of sweeps run among the transactions that take and give back holds.
They choose their rows from snapshots and skip the rows that are locked, so two
of them may have seen the same expired hold.  What a sweep writes it has locked
and checked again, and that decides: every row it frees is an expired hold in
the committed database, and a seat that was swept is not swept again before
somebody has held it.
-/

namespace Curtain

open Queries Table HoldService TransitionSystem

/-! ## Transactions on holds -/

/-- The statement takes, gives back or reclaims holds. -/
def SeatStatement.ofHolds : SeatStatement → Bool
  | .holdSeats _ => true
  | .releaseHold _ _ _ .release => true
  | .sweepExpiredHolds _ => true
  | _ => false

/-- `acquire`, `release` or `sweep_expired`. -/
def Work.ofHolds : Work → Bool
  | .acquire _ => true
  | .release _ _ _ => true
  | .sweepExpired _ => true
  | _ => false

/-- Only transactions on holds begin, and no order is opened. -/
def Server.Action.ofHolds : Server.Action → Bool
  | .openOrder _ => false
  | .begin _ work => work.ofHolds
  | _ => true

section Fenced

variable (db : Db) (locks : LockTable) (session : Nat)

/-- A transaction on holds, with locks on the rows that it is going to write. -/
def Stage.Fenced (now : Time) : Stage → Prop
  | .quota _ => True
  | .selecting statement => statement.ofHolds = true
  | .locking statement scan =>
      statement.ofHolds = true ∧
        ∀ id ∈ scan.taken, Taken db locks session now statement id
  | .writing statement rows =>
      statement.ofHolds = true ∧
        ∀ id ∈ rows, Taken db locks session now statement id
  | _ => False

def Next.Fenced (now : Time) : Next → Prop
  | .stage later => later.Fenced db locks session now
  | .grant resource mode later =>
      later.Fenced db ({ session, resource, mode } :: locks) session now
  | .ended => True

end Fenced

/-- A statement on holds has no subquery on the items. -/
theorem SeatStatement.lists_of_ofHolds {statement : SeatStatement}
    (ofHolds : statement.ofHolds = true) (mine : List Nat) :
    statement.Lists mine := by
  cases statement with
  | bookOrderSeats => cases ofHolds
  | holdSeats | releaseHold | sweepExpiredHolds | restoreOrderSeats => trivial

section Stages

variable {hashtext : String → Int} {available : Resource → LockMode → Bool}
variable {db after : Db} {locks left : LockTable} {session : Nat} {now : Time}

/-- What a session has locked stays so as long as its locks and their rows stay. -/
theorem Stage.Fenced.mono {stage : Stage}
    (fenced : stage.Fenced db locks session now)
    (keeps : ∀ lock ∈ locks, lock.session = session → lock ∈ left)
    (rows :
      ∀ row ∈ db.scheduleSeats, ∀ mode : LockMode, mode ≠ .forKeyShare →
        { session, resource := .seat row.id, mode } ∈ locks →
          row ∈ after.scheduleSeats) :
    stage.Fenced after left session now := by
  have kept {statement : SeatStatement} {id : Nat}
      (taken : Taken db locks session now statement id) :
      Taken after left session now statement id :=
    taken.mono keeps fun row member locked =>
      rows row member statement.mode
        (by cases statement <;> simp [SeatStatement.mode]) locked
  cases stage with
  | quota => trivial
  | selecting => exact fenced
  | locking => exact ⟨fenced.1, fun id member => kept (fenced.2 id member)⟩
  | writing => exact ⟨fenced.1, fun id member => kept (fenced.2 id member)⟩
  | confirming | claiming | inserting | referencing | closing | refunding
  | canceling => exact fenced

/-- Other locks change nothing about the session. -/
theorem Stage.Fenced.of_locks {stage : Stage}
    (fenced : stage.Fenced db locks session now)
    (keeps : ∀ lock ∈ locks, lock.session = session → lock ∈ left) :
    stage.Fenced db left session now :=
  fenced.mono keeps fun _ member _ _ _ => member

/-- The next stage has locked what it is going to write. -/
theorem Stage.next_fenced {stage : Stage} {next : Next}
    (fenced : stage.Fenced db locks session now)
    (taken : stage.next hashtext available now db = some next) :
    next.Fenced db locks session now := by
  have grown {later : Stage} {resource : Resource} {mode : LockMode}
      (fenced : later.Fenced db locks session now) :
      later.Fenced db ({ session, resource, mode } :: locks) session now :=
    fenced.of_locks fun lock held _ => List.mem_cons_of_mem _ held
  cases Stage.moves_of_next taken with
  | ended => trivial
  | claims => rfl
  | selects => exact ⟨fenced, by simp [SeatStatement.scan]⟩
  | @locks statement scan _ locks =>
      cases locks with
      | concluded =>
          rw [Stage.concluded]
          cases found : statement.rows scan with
          | none => trivial
          | some rows =>
              rw [SeatStatement.rows_eq found]
              exact fenced
      | skipped listed skips => exact fenced
      | dropped listed => exact grown fenced
      | @taken row rest listed member meets =>
          refine ⟨fenced.1, ?_⟩
          intro id chosen
          rcases List.mem_append.mp chosen with old | new
          · exact (grown fenced).2 id old
          · rw [List.mem_singleton.mp new]
            exact
              ⟨List.mem_cons_self, row, member, rfl,
                SeatStatement.suits_of_condition
                  (SeatStatement.lists_of_ofHolds fenced.1 scan.mine) meets⟩
  | confirms | claimed | inserts | inserted | refers | referred | closes
  | refunds | refundsSettled | refundFails | cancels => exact fenced.elim

end Stages

/-! ## The server -/

namespace Server

/-- Every transaction in progress is on holds, and has locked what it will write. -/
structure Fenced (server : Server) : Prop where
  compatible : Locks.Compatible LockMode.conflicts server.locks
  rowUnique : Unique ScheduleSeat.id server.db.scheduleSeats
  fenced :
    ∀ session current, server.sessions session = some current →
      current.stage.Fenced server.db server.locks session current.startedAt

namespace Fenced

variable {hashtext : String → Int} {server next : Server} {session : Nat}
variable {current : Session}

/-- A database before any transaction. -/
theorem start {db : Db} (rowUnique : Unique ScheduleSeat.id db.scheduleSeats)
    (clock : Time) :
    ({ db, clock, sessions := fun _ => none, locks := [] } : Server).Fenced where
  compatible := .nil
  rowUnique := rowUnique
  fenced := by simp

theorem finish (fenced : server.Fenced) (session : Nat) :
    (server.finish session).Fenced where
  compatible := fenced.compatible.release session
  rowUnique := fenced.rowUnique
  fenced :=
    each_finish fenced.fenced fun _ _ different others =>
      others.of_locks (mem_release_of_ne different)

theorem put (fenced : server.Fenced) (session : Nat) (current : Session)
    {locks : LockTable}
    (compatible : Locks.Compatible LockMode.conflicts locks)
    (kept : ∀ lock ∈ server.locks, lock ∈ locks)
    (own :
      current.stage.Fenced server.db locks session current.startedAt) :
    ({ server.put session current with locks } : Server).Fenced where
  compatible := compatible
  rowUnique := fenced.rowUnique
  fenced :=
    each_put fenced.fenced own fun _ _ others =>
      others.of_locks fun lock held _ => kept lock held

/-- The rows of a commit are locked by its session, so the others keep theirs. -/
theorem commit (fenced : server.Fenced)
    (found : server.sessions session = some current)
    {statement : SeatStatement} {rows : List Nat}
    (writing : current.stage = .writing statement rows)
    {change : Order → Order} {after : Db}
    (commits :
      statement.Commits current.startedAt rows change server.db after) :
    ({ server.finish session with db := after } : Server).Fenced := by
  have own := fenced.fenced session current found
  rw [writing] at own
  have finished := fenced.finish session
  constructor
  case compatible => exact finished.compatible
  case rowUnique =>
    rw [commits.scheduleSeats]
    exact fenced.rowUnique.updateWhere fun row => SeatStatement.change_id row
  case fenced =>
    refine each_finish fenced.fenced fun other running different others => ?_
    refine others.mono (mem_release_of_ne different) ?_
    intro row member mode strong locked
    exact
      commits.rows_kept fenced.compatible own.2 different member strong locked

/-- Every step of transactions on holds. -/
theorem step (fenced : server.Fenced) {action : Action}
    (ofHolds : action.ofHolds = true)
    (taken : server.step hashtext action = some next) :
    next.Fenced := by
  cases steps_of_step taken with
  | tick elapsed => exact { fenced with }
  | opened opened => cases ofHolds
  | @begun session work idle admissible =>
      refine
        fenced.put session { startedAt := server.clock, stage := work.first }
          fenced.compatible (fun _ held => held) ?_
      cases work with
      | acquire => trivial
      | release | sweepExpired => rfl
      | confirmPaid | closeUnpaid | recordRefund | closeCanceled => cases ofHolds
  | @passed session current stage found next =>
      exact
        fenced.put session { current with stage } fenced.compatible
          (fun _ held => held)
          (Stage.next_fenced (fenced.fenced session current found) next)
  | @granted session current resource mode stage found next free =>
      exact
        fenced.put session { current with stage }
          (fenced.compatible.grant LockMode.conflicts_comm free)
          (fun lock held => List.mem_cons_of_mem _ held)
          (Stage.next_fenced (fenced.fenced session current found) next)
  | ended found next => exact fenced.finish _
  | committed found writing ok =>
      obtain ⟨change, commits⟩ := SeatStatement.commits_of_commit ok
      exact fenced.commit found writing commits
  | failed found writing raised => exact fenced.finish _
  | rolledBack found => exact fenced.finish _

/-- What a session is going to write meets its `WHERE` clause in the latest version. -/
theorem suits (fenced : server.Fenced)
    (found : server.sessions session = some current)
    {statement : SeatStatement} {rows : List Nat}
    (writing : current.stage = .writing statement rows)
    {row : ScheduleSeat} (member : row ∈ server.db.scheduleSeats)
    (written : row.id ∈ rows) :
    statement.Suits current.startedAt row := by
  have own := fenced.fenced session current found
  rw [writing] at own
  obtain ⟨-, other, otherMember, equal, suits⟩ := own.2 row.id written
  rwa [← fenced.rowUnique.eq otherMember member equal]

end Fenced

end Server

/-! ## The history of a seat -/

/-- The schedule and the seat of a row. -/
def ScheduleSeat.seat (row : ScheduleSeat) : Nat × Nat :=
  (row.scheduleId, row.seatId)

/-- A seat is held, or a sweep has returned it. -/
inductive SeatEvent where
  | held (seat : Nat × Nat)
  | swept (seat : Nat × Nat)
deriving DecidableEq, Repr

def SeatEvent.seat : SeatEvent → Nat × Nat
  | .held seat => seat
  | .swept seat => seat

/-- The `RETURNING` rows of a statement that holds or sweeps seats. -/
def SeatStatement.tells (rows : List Nat) (db : Db) :
    SeatStatement → List SeatEvent
  | .holdSeats _ =>
      (db.scheduleSeats.filter fun row => rows.contains row.id).map
        fun row => .held row.seat
  | .sweepExpiredHolds _ =>
      (db.scheduleSeats.filter fun row => rows.contains row.id).map
        fun row => .swept row.seat
  | _ => []

/-- What is committed by a step. -/
def Server.tells (server : Server) : Server.Action → List SeatEvent
  | .commit session =>
      (server.sessions session).elim [] fun current =>
        match current.stage with
        | .writing statement rows => statement.tells rows server.db
        | _ => []
  | _ => []

/-- A server and what its transactions have told so far, the latest first. -/
structure Chronicle where
  server : Server
  events : List SeatEvent

def Chronicle.step (hashtext : String → Int) (chronicle : Chronicle)
    (action : Server.Action) : Option Chronicle :=
  (chronicle.server.step hashtext action).map fun server =>
    { server, events := chronicle.server.tells action ++ chronicle.events }

namespace Chronicle

/-- What has happened to a seat, the latest first. -/
def history (chronicle : Chronicle) (seat : Nat × Nat) : List SeatEvent :=
  chronicle.events.filter (·.seat == seat)

/-- A sweep follows a hold, and a seat that was swept last is not held. -/
structure Faithful (chronicle : Chronicle) : Prop where
  fenced : chronicle.server.Fenced
  seatUnique : Unique ScheduleSeat.seat chronicle.server.db.scheduleSeats
  alternates :
    ∀ seat,
      (chronicle.history seat).IsChain fun later earlier =>
        later = .swept seat → earlier = .held seat
  swept :
    ∀ seat, (chronicle.history seat).head? = some (.swept seat) →
      ∀ row ∈ chronicle.server.db.scheduleSeats, row.seat = seat →
        row.status ≠ .held

end Chronicle

section Tells

variable {db : Db} {rows : List Nat} {statement : SeatStatement}

/-- Of a seat whose row is not written nothing is told. -/
theorem tells_of_unwritten {seat : Nat × Nat}
    (unwritten :
      ∀ row ∈ db.scheduleSeats, row.seat = seat → row.id ∉ rows) :
    (statement.tells rows db).filter (·.seat == seat) = [] := by
  have silent (event : Nat × Nat → SeatEvent)
      (named : ∀ seat, (event seat).seat = seat) :
      (((db.scheduleSeats.filter fun row => rows.contains row.id).map
        fun row => event row.seat).filter (·.seat == seat)) = [] := by
    rw [List.filter_eq_nil_iff]
    intro told member same
    obtain ⟨row, written, rfl⟩ := List.mem_map.mp member
    obtain ⟨stored, listed⟩ := List.mem_filter.mp written
    rw [beq_iff_eq, named] at same
    exact unwritten row stored same (List.contains_iff_mem.mp listed)
  cases statement with
  | holdSeats => exact silent .held fun _ => rfl
  | sweepExpiredHolds => exact silent .swept fun _ => rfl
  | releaseHold | bookOrderSeats | restoreOrderSeats => rfl

/-- The row of a seat that is written is told about once. -/
theorem tells_of_written (seatUnique : Unique ScheduleSeat.seat db.scheduleSeats)
    {row : ScheduleSeat} (member : row ∈ db.scheduleSeats)
    (written : row.id ∈ rows) :
    (statement.tells rows db).filter (·.seat == row.seat) =
      match statement with
      | .holdSeats _ => [.held row.seat]
      | .sweepExpiredHolds _ => [.swept row.seat]
      | _ => [] := by
  have once (event : Nat × Nat → SeatEvent)
      (named : ∀ seat, (event seat).seat = seat) :
      (((db.scheduleSeats.filter fun row => rows.contains row.id).map
        fun row => event row.seat).filter (·.seat == row.seat)) =
          [event row.seat] := by
    have only := seatUnique.filter_eq_singleton member
    rw [List.filter_map, List.filter_filter]
    have same :
        (db.scheduleSeats.filter fun other =>
            ((fun told : SeatEvent => told.seat == row.seat) ∘
                fun row => event row.seat) other &&
              rows.contains other.id) =
          [row] := by
      rw [← only]
      apply List.filter_congr
      intro other otherMember
      simp only [Function.comp, named]
      by_cases equal : other.seat = row.seat
      · have identical : other = row :=
          seatUnique.eq otherMember member equal
        simp [identical, written]
      · simp [equal]
    rw [same]
    rfl
  cases statement with
  | holdSeats => exact once .held fun _ => rfl
  | sweepExpiredHolds => exact once .swept fun _ => rfl
  | releaseHold | bookOrderSeats | restoreOrderSeats => rfl

end Tells

@[simp]
theorem SeatStatement.change_seat (statement : SeatStatement) (now : Time)
    (row : ScheduleSeat) :
    (statement.change now row).seat = row.seat := by
  cases statement <;> rfl

namespace Chronicle.Faithful

variable {hashtext : String → Int} {chronicle next : Chronicle}

theorem start {db : Db} (rowUnique : Unique ScheduleSeat.id db.scheduleSeats)
    (seatUnique : Unique ScheduleSeat.seat db.scheduleSeats) (clock : Time) :
    Faithful
      { server := { db, clock, sessions := fun _ => none, locks := [] }
        events := [] } where
  fenced := .start rowUnique clock
  seatUnique := seatUnique
  alternates := fun _ => .nil
  swept := fun _ told => by cases told

/-- A step that writes no seat and tells nothing. -/
theorem quiet (faithful : chronicle.Faithful) {server : Server}
    (fenced : server.Fenced)
    (seats :
      server.db.scheduleSeats = chronicle.server.db.scheduleSeats) :
    Faithful { server, events := chronicle.events } where
  fenced := fenced
  seatUnique := by
    rw [seats]
    exact faithful.seatUnique
  alternates := faithful.alternates
  swept := fun seat told row member => by
    rw [seats] at member
    exact faithful.swept seat told row member

/-- A seat whose row is not written keeps its row and its history. -/
theorem unwritten (faithful : chronicle.Faithful)
    {statement : SeatStatement} {now : Time} {rows : List Nat}
    {seat : Nat × Nat}
    (unwritten :
      ∀ row ∈ chronicle.server.db.scheduleSeats, row.seat = seat →
        row.id ∉ rows)
    (told : (chronicle.history seat).head? = some (.swept seat)) :
    ∀ row ∈ updateWhere (fun row => rows.contains row.id)
        (statement.change now) chronicle.server.db.scheduleSeats,
      row.seat = seat → row.status ≠ .held := by
  intro row member same
  obtain ⟨old, oldMember, ⟨written, rfl⟩ | ⟨-, rfl⟩⟩ :=
    mem_updateWhere.mp member
  · rw [SeatStatement.change_seat] at same
    exact
      absurd (List.contains_iff_mem.mp written) (unwritten old oldMember same)
  · exact faithful.swept seat told row oldMember same

/-- The last event of a seat whose row is held was its hold. -/
theorem held_of_held (faithful : chronicle.Faithful) {row : ScheduleSeat}
    (member : row ∈ chronicle.server.db.scheduleSeats)
    (held : row.status = .held) {event : SeatEvent}
    (last : (chronicle.history row.seat).head? = some event) :
    event = .held row.seat := by
  have listed := List.mem_of_head? last
  have same := (List.mem_filter.mp listed).2
  rw [beq_iff_eq] at same
  cases event with
  | held seat => rw [← same]; rfl
  | swept seat =>
      have swept : seat = row.seat := same
      rw [swept] at last
      exact absurd held (faithful.swept row.seat last row member rfl)

/-- A commit of a transaction on holds. -/
theorem commit (faithful : chronicle.Faithful) {session : Nat}
    {current : Session}
    (found : chronicle.server.sessions session = some current)
    {statement : SeatStatement} {rows : List Nat}
    (writing : current.stage = .writing statement rows)
    {change : Order → Order} {after : Db}
    (commits :
      statement.Commits current.startedAt rows change chronicle.server.db
        after) :
    Faithful
      { server := { chronicle.server.finish session with db := after }
        events :=
          statement.tells rows chronicle.server.db ++ chronicle.events } := by
  have fenced := faithful.fenced.commit found writing commits
  have seatUnique : Unique ScheduleSeat.seat after.scheduleSeats := by
    rw [commits.scheduleSeats]
    exact
      faithful.seatUnique.updateWhere fun row =>
        SeatStatement.change_seat statement current.startedAt row
  have ofHolds : statement.ofHolds = true := by
    have own := faithful.fenced.fenced session current found
    rw [writing] at own
    exact own.1
  -- The row of a seat after the commit, when it is written.
  have rewritten {row later : ScheduleSeat}
      (member : row ∈ chronicle.server.db.scheduleSeats)
      (written : row.id ∈ rows) (laterMember : later ∈ after.scheduleSeats)
      (same : later.seat = row.seat) :
      later = statement.change current.startedAt row := by
    refine seatUnique.eq laterMember ?_
      (same.trans (SeatStatement.change_seat _ _ row).symm)
    rw [commits.scheduleSeats]
    exact mem_updateWhere_of member (List.contains_iff_mem.mpr written)
  have each (seat : Nat × Nat) :
      ((statement.tells rows chronicle.server.db ++
            chronicle.events).filter (·.seat == seat)).IsChain
          (fun later earlier => later = .swept seat → earlier = .held seat) ∧
        (((statement.tells rows chronicle.server.db ++
              chronicle.events).filter (·.seat == seat)).head? =
            some (.swept seat) →
          ∀ row ∈ after.scheduleSeats, row.seat = seat →
            row.status ≠ .held) := by
    rw [List.filter_append]
    by_cases writes :
        ∃ row ∈ chronicle.server.db.scheduleSeats,
          row.seat = seat ∧ row.id ∈ rows
    · obtain ⟨row, member, rfl, written⟩ := writes
      have suits := faithful.fenced.suits found writing member written
      rw [tells_of_written faithful.seatUnique member written]
      cases statement with
      | holdSeats request =>
          constructor
          · refine List.isChain_cons.mpr ⟨?_, faithful.alternates row.seat⟩
            intro earlier _ impossible
            cases impossible
          · intro impossible
            cases impossible
      | sweepExpiredHolds batch =>
          have expired : isExpiredHold current.startedAt row = true := suits
          have held : row.status = .held := by
            simp only [isExpiredHold, Bool.and_eq_true, beq_iff_eq] at expired
            exact expired.1
          constructor
          · refine List.isChain_cons.mpr ⟨?_, faithful.alternates row.seat⟩
            intro earlier last _
            exact faithful.held_of_held member held last
          · intro _ later laterMember same
            rw [rewritten member written laterMember same]
            simp [SeatStatement.change, free]
      | releaseHold scheduleId userId seatIds within =>
          refine ⟨faithful.alternates row.seat, ?_⟩
          intro _ later laterMember same
          rw [rewritten member written laterMember same]
          simp [SeatStatement.change, free]
      | bookOrderSeats => cases ofHolds
      | restoreOrderSeats => cases ofHolds
    · have spared :
          ∀ row ∈ chronicle.server.db.scheduleSeats, row.seat = seat →
            row.id ∉ rows :=
        fun row member same written => writes ⟨row, member, same, written⟩
      rw [tells_of_unwritten spared, List.nil_append]
      refine ⟨faithful.alternates seat, fun told => ?_⟩
      rw [commits.scheduleSeats]
      exact faithful.unwritten spared told
  exact
    { fenced, seatUnique
      alternates := fun seat => (each seat).1
      swept := fun seat => (each seat).2 }

/-- Every step of transactions on holds. -/
theorem step (faithful : chronicle.Faithful) {action : Server.Action}
    (ofHolds : action.ofHolds = true)
    (taken : chronicle.step hashtext action = some next) :
    next.Faithful := by
  obtain ⟨server, stepped, rfl⟩ := Option.map_eq_some_iff.mp taken
  have fenced := faithful.fenced.step ofHolds stepped
  cases Server.steps_of_step stepped with
  | tick elapsed => exact faithful.quiet fenced rfl
  | opened opened => cases ofHolds
  | begun idle admissible => exact faithful.quiet fenced rfl
  | passed found next => exact faithful.quiet fenced rfl
  | granted found next free => exact faithful.quiet fenced rfl
  | ended found next => exact faithful.quiet fenced rfl
  | rolledBack found => exact faithful.quiet fenced rfl
  | @failed session current statement rows error found writing raised =>
      -- The commit of a transaction on holds cannot fail.
      have own := faithful.fenced.fenced session current found
      rw [writing] at own
      have ofHolds := own.1
      cases statement with
      | releaseHold scheduleId userId seatIds within =>
          cases within with
          | release => cases raised
          | closeUnpaid => cases ofHolds
          | recordRefund => cases ofHolds
      | holdSeats => cases raised
      | sweepExpiredHolds => cases raised
      | bookOrderSeats => cases ofHolds
      | restoreOrderSeats => cases ofHolds
  | @committed session current statement rows after found writing ok =>
      obtain ⟨change, commits⟩ := SeatStatement.commits_of_commit ok
      have told :
          chronicle.server.tells (.commit session) =
            statement.tells rows chronicle.server.db := by
        simp [Server.tells, found, writing]
      rw [told]
      exact faithful.commit found writing commits

end Chronicle.Faithful

/-! ## Sweeps by themselves -/

/-- Sweeps one after the other, each at its instant, and what each returns. -/
def sweeps (batch : Nat) : List Time → Db → List (List (Nat × Nat)) × Db
  | [], db => ([], db)
  | now :: later, db =>
      let (seats, swept) := sweepExpired batch (fun _ => false) now db
      let (rest, final) := sweeps batch later swept
      (seats :: rest, final)

/-- The instant by which the sweep orders the holds. -/
def ScheduleSeat.expiry (row : ScheduleSeat) : Time :=
  row.holdExpiresAt.getD 0

/-- Free the rows with these numbers. -/
def Db.freed (db : Db) (ids : List Nat) : Db :=
  db.updateSeats (fun row => ids.contains row.id) free

section Alone

variable {db : Db}

theorem Db.freed_nil (db : Db) : db.freed [] = db := by
  rw [Db.freed, Db.updateSeats, updateWhere_eq_self (by simp)]

theorem Db.freed_freed (db : Db) (first second : List Nat) :
    (db.freed first).freed second = db.freed (first ++ second) := by
  simp only [Db.freed, Db.updateSeats, updateWhere, List.map_map]
  congr 1
  apply List.map_congr_left
  intro row _
  by_cases inFirst : row.id ∈ first <;>
    by_cases inSecond : row.id ∈ second <;>
      simp [inFirst, inSecond, free]

/-- What is expired after some of it was freed is the rest of it. -/
theorem Db.filter_freed (rowUnique : Unique ScheduleSeat.id db.scheduleSeats)
    {expired : ScheduleSeat → Bool}
    (unexpired : ∀ row, expired (free row) = false)
    {chunk rest : List ScheduleSeat}
    (split : (chunk ++ rest).Perm (db.scheduleSeats.filter expired)) :
    ((db.freed (chunk.map (·.id))).scheduleSeats.filter expired).Perm rest := by
  have remaining :
      (db.freed (chunk.map (·.id))).scheduleSeats.filter expired =
        (db.scheduleSeats.filter expired).filter fun row =>
          !(chunk.map (·.id)).contains row.id := by
    rw [Db.freed, Db.updateSeats_scheduleSeats,
      filter_updateWhere_of_leaves fun row _ => unexpired row,
      List.filter_filter]
    simp only [Bool.and_comm]
  have distinct : ((chunk ++ rest).map (·.id)).Nodup := by
    refine (split.map _).nodup_iff.mpr ?_
    exact rowUnique.sublist (List.filter_sublist.map _)
  rw [List.map_append, List.nodup_append] at distinct
  rw [remaining]
  refine (split.filter _).symm.trans ?_
  rw [List.filter_append]
  have gone :
      (chunk.filter fun row => !(chunk.map (·.id)).contains row.id) = [] := by
    rw [List.filter_eq_nil_iff]
    intro row member
    simp [List.mem_map_of_mem member]
  have kept :
      (rest.filter fun row => !(chunk.map (·.id)).contains row.id) = rest := by
    rw [List.filter_eq_self]
    intro row member
    rw [Bool.not_eq_true', ← Bool.not_eq_true, List.contains_iff_mem]
    intro inChunk
    exact distinct.2.2 _ inChunk _ (List.mem_map_of_mem member) rfl
  rw [gone, kept, List.nil_append]

/-- One sweep takes the oldest of the expired holds. -/
theorem sweepExpired_takes
    (rowUnique : Unique ScheduleSeat.id db.scheduleSeats)
    (batch : Nat) (now : Time) :
    ∃ chunk rest : List ScheduleSeat,
      sweepExpired batch (fun _ => false) now db =
          (chunk.map (·.seat), db.freed (chunk.map (·.id))) ∧
        (chunk ++ rest).Perm (db.scheduleSeats.filter (isExpiredHold now)) ∧
        rest.length =
          (db.scheduleSeats.filter (isExpiredHold now)).length - batch ∧
        ∀ earlier ∈ chunk, ∀ later ∈ rest, earlier.expiry ≤ later.expiry := by
  have queued :
      (expiredHolds (fun _ => false) now db).Perm
        (db.scheduleSeats.filter (isExpiredHold now)) := by
    simp only [expiredHolds, Bool.not_false, Bool.and_true]
    exact List.perm_insertionSort _ _
  have sorted :
      (expiredHolds (fun _ => false) now db).Pairwise fun left right =>
        left.expiry ≤ right.expiry :=
    List.pairwise_insertionSort _ _
  generalize queue : expiredHolds (fun _ => false) now db = holds at queued sorted
  have included : holds.take batch ⊆ db.scheduleSeats := fun row member =>
    (List.mem_filter.mp (queued.mem_iff.mp (List.mem_of_mem_take member))).1
  have chosen :
      (db.scheduleSeats.filter fun row =>
          ((holds.take batch).map (·.id)).contains row.id).Perm
        (holds.take batch) := by
    refine rowUnique.filter_contains_perm included ?_
    refine List.Nodup.sublist (List.take_sublist batch holds) ?_
    refine queued.nodup_iff.mpr (List.Nodup.filter _ ?_)
    exact List.Nodup.of_map ScheduleSeat.id rowUnique
  refine
    ⟨db.scheduleSeats.filter fun row =>
        ((holds.take batch).map (·.id)).contains row.id,
      holds.drop batch, ?_, ?_, ?_, ?_⟩
  · have same :
        ∀ row ∈ db.scheduleSeats,
          ((holds.take batch).map (·.id)).contains row.id =
            ((db.scheduleSeats.filter fun other =>
              ((holds.take batch).map (·.id)).contains other.id).map
                (·.id)).contains row.id := by
      intro row _
      rw [Bool.eq_iff_iff, List.contains_iff_mem, List.contains_iff_mem,
        (chosen.map (·.id)).mem_iff]
    refine Prod.ext ?_ ?_
    · simp only [sweepExpired, sweepExpiredHolds, queue, updatedRows,
        List.map_map]
      rfl
    · simp only [sweepExpired, sweepExpiredHolds, queue]
      rw [Db.freed, Db.updateSeats, ← updateWhere_congr same]
  · refine (chosen.append_right _).trans ?_
    rwa [List.take_append_drop]
  · rw [List.length_drop, queued.length_eq]
  · intro earlier inChunk later inRest
    have split := sorted
    rw [← List.take_append_drop batch holds, List.pairwise_append] at split
    exact split.2.2 earlier (chosen.mem_iff.mp inChunk) later inRest

theorem isExpiredHold_free (now : Time) (row : ScheduleSeat) :
    isExpiredHold now (free row) = false := rfl

/--
Sweeps one after the other take the expired holds in the order of their expiry,
each at most `batch` of them, as long as no other hold expires meanwhile.
-/
theorem sweeps_take (batch : Nat) {expired : ScheduleSeat → Bool}
    (unexpired : ∀ row, expired (free row) = false) (instants : List Time)
    (rowUnique : Unique ScheduleSeat.id db.scheduleSeats)
    (agree :
      ∀ now ∈ instants, ∀ row ∈ db.scheduleSeats,
        isExpiredHold now row = expired row) :
    ∃ (chunks : List (List ScheduleSeat)) (rest : List ScheduleSeat),
      sweeps batch instants db =
          (chunks.map fun chunk => chunk.map (·.seat),
            db.freed (chunks.flatten.map (·.id))) ∧
        (chunks.flatten ++ rest).Perm (db.scheduleSeats.filter expired) ∧
        rest.length =
          (db.scheduleSeats.filter expired).length - instants.length * batch ∧
        (chunks.Pairwise fun before after =>
          ∀ earlier ∈ before, ∀ later ∈ after,
            earlier.expiry ≤ later.expiry) ∧
        ∀ earlier ∈ chunks.flatten, ∀ later ∈ rest,
          earlier.expiry ≤ later.expiry := by
  induction instants generalizing db with
  | nil =>
      refine ⟨[], db.scheduleSeats.filter expired, ?_, ?_, ?_, .nil, ?_⟩
      · rw [sweeps, List.flatten_nil, List.map_nil, List.map_nil, Db.freed_nil]
      · exact .refl _
      · rw [List.length_nil, Nat.zero_mul, Nat.sub_zero]
      · intro earlier impossible
        cases impossible
  | cons now later induction =>
      have same :
          db.scheduleSeats.filter (isExpiredHold now) =
            db.scheduleSeats.filter expired :=
        List.filter_congr (agree now List.mem_cons_self)
      obtain ⟨chunk, left, swept, split, count, older⟩ :=
        sweepExpired_takes rowUnique batch now
      rw [same] at split count
      have remaining := Db.filter_freed rowUnique unexpired split
      have laterUnique :
          Unique ScheduleSeat.id
            (db.freed (chunk.map (·.id))).scheduleSeats :=
        rowUnique.updateWhere fun _ => rfl
      obtain ⟨chunks, rest, sweptLater, splitLater, countLater, ordered,
          olderLater⟩ :=
        induction laterUnique (by
          intro instant listed row member
          obtain ⟨old, oldMember, ⟨-, rfl⟩ | ⟨-, rfl⟩⟩ :=
            mem_updateWhere.mp member
          · rw [isExpiredHold_free, unexpired]
          · exact agree instant (List.mem_cons_of_mem _ listed) row oldMember)
      have divided : (chunks.flatten ++ rest).Perm left :=
        splitLater.trans remaining
      refine ⟨chunk :: chunks, rest, ?_, ?_, ?_, ?_, ?_⟩
      · rw [sweeps, swept]
        dsimp only
        rw [sweptLater, Db.freed_freed, List.map_cons, List.flatten_cons,
          List.map_append]
      · rw [List.flatten_cons, List.append_assoc]
        exact (divided.append_left chunk).trans split
      · rw [countLater, remaining.length_eq, count, List.length_cons,
          Nat.succ_mul]
        omega
      · refine List.pairwise_cons.mpr ⟨?_, ordered⟩
        intro after member earlier inChunk inLater listed
        refine older earlier inChunk inLater (divided.mem_iff.mp ?_)
        exact
          List.mem_append_left rest
            (List.mem_flatten.mpr ⟨after, member, listed⟩)
      · intro earlier member last inRest
        rcases List.mem_append.mp member with inChunk | inLater
        · refine older earlier inChunk last (divided.mem_iff.mp ?_)
          exact List.mem_append_right _ inRest
        · exact olderLater earlier inLater last inRest

/-- Enough sweeps take all of the expired holds and touch no other row. -/
theorem sweeps_drain (rowUnique : Unique ScheduleSeat.id db.scheduleSeats)
    {batch : Nat} (positive : 1 ≤ batch) (now : Time) {instants : List Time}
    (agree :
      ∀ instant ∈ instants, ∀ row ∈ db.scheduleSeats,
        isExpiredHold instant row = isExpiredHold now row)
    (enough :
      instants.length =
        ((db.scheduleSeats.filter (isExpiredHold now)).length + batch - 1) /
          batch) :
    ∃ chunks : List (List ScheduleSeat),
      (sweeps batch instants db).1 =
          chunks.map (fun chunk => chunk.map (·.seat)) ∧
        chunks.flatten.Perm (db.scheduleSeats.filter (isExpiredHold now)) ∧
        (chunks.Pairwise fun before after =>
          ∀ earlier ∈ before, ∀ later ∈ after, ∀ first last,
            earlier.holdExpiresAt = some first →
              later.holdExpiresAt = some last → first ≤ last) ∧
        (sweeps batch instants db).2 =
          db.updateSeats (isExpiredHold now) free := by
  obtain ⟨chunks, rest, swept, split, count, ordered, -⟩ :=
    sweeps_take batch (isExpiredHold_free now) instants rowUnique agree
  have covered :
      (db.scheduleSeats.filter (isExpiredHold now)).length ≤
        instants.length * batch := by
    rw [enough, Nat.mul_comm]
    have bound :=
      Nat.div_add_mod
        ((db.scheduleSeats.filter (isExpiredHold now)).length + batch - 1) batch
    have small :=
      Nat.mod_lt
        ((db.scheduleSeats.filter (isExpiredHold now)).length + batch - 1)
        positive
    omega
  have none : rest = [] := by
    rw [← List.length_eq_zero_iff, count]
    omega
  rw [none, List.append_nil] at split
  rw [swept]
  refine ⟨chunks, rfl, split, ?_, ?_⟩
  · refine ordered.imp fun older => ?_
    intro earlier inBefore later inAfter first last earlierEnds laterEnds
    have bound := older earlier inBefore later inAfter
    rwa [ScheduleSeat.expiry, ScheduleSeat.expiry, earlierEnds, laterEnds]
      at bound
  · rw [Db.freed, Db.updateSeats, Db.updateSeats]
    have same :
        ∀ row ∈ db.scheduleSeats,
          (chunks.flatten.map (·.id)).contains row.id =
            isExpiredHold now row :=
      fun row member =>
        rowUnique.contains_of_perm (split.map (·.id)) member
    rw [updateWhere_congr same]

end Alone

/-! ## Every order of the steps -/

/-- What the commit of a sweep frees, and what it returns. -/
theorem Chronicle.Faithful.sweeps {hashtext : String → Int}
    {chronicle next : Chronicle} (faithful : chronicle.Faithful)
    {session : Nat} {current : Session} {batch : Nat} {rows : List Nat}
    (found : chronicle.server.sessions session = some current)
    (writing : current.stage = .writing (.sweepExpiredHolds batch) rows)
    (taken : chronicle.step hashtext (.commit session) = some next) :
    (∀ id ∈ rows, ∃ row ∈ chronicle.server.db.scheduleSeats, row.id = id ∧
        row.status = .held ∧
          ∃ expiresAt, row.holdExpiresAt = some expiresAt ∧
            expiresAt < current.startedAt) ∧
      next.server.db = chronicle.server.db.freed rows ∧
      next.events =
        ((chronicle.server.db.scheduleSeats.filter fun row =>
            rows.contains row.id).map fun row => .swept row.seat) ++
          chronicle.events := by
  obtain ⟨server, stepped, rfl⟩ := Option.map_eq_some_iff.mp taken
  refine ⟨?_, ?_, ?_⟩
  · intro id member
    have own := faithful.fenced.fenced session current found
    rw [writing] at own
    obtain ⟨-, row, stored, rfl, suits⟩ := own.2 id member
    have expired : isExpiredHold current.startedAt row = true := suits
    simp only [isExpiredHold, Bool.and_eq_true, beq_iff_eq,
      Option.any_eq_true, decide_eq_true_eq] at expired
    exact ⟨row, stored, rfl, expired.1, expired.2⟩
  · simp only [Server.step, found, Option.bind_some, Server.committed, writing,
      SeatStatement.commit, Option.some.injEq] at stepped
    rw [← stepped]
    rfl
  · simp [Server.tells, found, writing, SeatStatement.tells]

/--
However sweeps, claims and releases interleave: a sweep frees only rows that
are expired holds in the committed database, and of the sweeps of a seat each
but the first is directly preceded, among the holds and sweeps of the seat, by
a hold.  Sweeps with nothing in between return all expired holds once, oldest
first, and change no other row.
-/
theorem sweeps_reclaim_once {hashtext : String → Int} {db : Db}
    (rowUnique : Unique ScheduleSeat.id db.scheduleSeats)
    (seatUnique : Unique ScheduleSeat.seat db.scheduleSeats) (clock : Time) :
    (∀ chronicle,
      RunWhere (Chronicle.step hashtext)
          (fun _ action => action.ofHolds = true)
          { server := { db, clock, sessions := fun _ => none, locks := [] }
            events := [] }
          chronicle →
        (∀ session current batch rows next,
          chronicle.server.sessions session = some current →
            current.stage = .writing (.sweepExpiredHolds batch) rows →
              chronicle.step hashtext (.commit session) = some next →
                (∀ id ∈ rows, ∃ row ∈ chronicle.server.db.scheduleSeats,
                    row.id = id ∧ row.status = .held ∧
                      ∃ expiresAt, row.holdExpiresAt = some expiresAt ∧
                        expiresAt < current.startedAt) ∧
                  next.server.db = chronicle.server.db.freed rows ∧
                  next.events =
                    ((chronicle.server.db.scheduleSeats.filter fun row =>
                        rows.contains row.id).map fun row =>
                          .swept row.seat) ++ chronicle.events) ∧
          ∀ seat,
            (chronicle.history seat).IsChain fun later earlier =>
              later = .swept seat → earlier = .held seat) ∧
      ∀ batch now instants,
        1 ≤ batch →
          (∀ instant ∈ instants, ∀ row ∈ db.scheduleSeats,
            isExpiredHold instant row = isExpiredHold now row) →
            instants.length =
                ((db.scheduleSeats.filter (isExpiredHold now)).length +
                  batch - 1) / batch →
              ∃ chunks : List (List ScheduleSeat),
                (sweeps batch instants db).1 =
                    chunks.map (fun chunk => chunk.map (·.seat)) ∧
                  chunks.flatten.Perm
                    (db.scheduleSeats.filter (isExpiredHold now)) ∧
                  (chunks.Pairwise fun before after =>
                    ∀ earlier ∈ before, ∀ later ∈ after, ∀ first last,
                      earlier.holdExpiresAt = some first →
                        later.holdExpiresAt = some last → first ≤ last) ∧
                  (sweeps batch instants db).2 =
                    db.updateSeats (isExpiredHold now) free := by
  constructor
  · intro chronicle run
    have faithful : chronicle.Faithful :=
      run.invariant (.start rowUnique seatUnique clock)
        fun _ _ _ faithful ofHolds taken => faithful.step ofHolds taken
    constructor
    · intro session current batch rows next found writing taken
      exact faithful.sweeps found writing taken
    · exact faithful.alternates
  · intro batch now instants positive agree enough
    exact sweeps_drain rowUnique positive now agree enough

/-- The hold runs out, and two sweeps have both seen it; the second one skips it. -/
def Server.Action.twoSweeps : List Server.Action :=
  Action.claim 0 7 ++
    [.commit 0,
     .tick 420001,
     .begin 1 (.sweepExpired 500),
     .begin 2 (.sweepExpired 500),
     .advance 1,
     .advance 2,
     .advance 1,
     .advance 2,
     .advance 1,
     .advance 2,
     .commit 1,
     .commit 2]

/-- One of the two sweeps has returned the seat. -/
theorem sweeps_reclaim_once_twoSweeps :
    ∃ chronicle : Chronicle,
      chronicle.history (1, 1) = [.swept (1, 1), .held (1, 1)] ∧
        (chronicle.history (1, 1)).IsChain fun later earlier =>
          later = .swept (1, 1) → earlier = .held (1, 1) := by
  obtain ⟨chronicle, run, seen⟩ :=
    RunWhere.exists_of_checkedRun (Chronicle.step fun _ => 0)
      (fun _ action => action.ofHolds = true)
      { server := Server.oneSeat, events := [] } Server.Action.twoSweeps
      (fun chronicle =>
        chronicle.history (1, 1) == [.swept (1, 1), .held (1, 1)])
      (by decide)
  refine ⟨chronicle, by simpa using seen, ?_⟩
  exact
    ((@sweeps_reclaim_once (fun _ => 0) Server.oneSeat.db (by decide)
      (by decide) 0).1 chronicle run).2 (1, 1)

end Curtain
