import Curtain.Confirmation
import Curtain.Crossing

/-!
# Calls of `confirm_paid` side by side

Any number of confirmations of one order run statement by statement, between
the statements of all the other transactions.  The one that has locked the
pending order keeps it pending until it commits, so no other one gets past its
first statement: it waits, and finds the order settled.  A confirmation that
commits has locked as many held rows as the order names seats, and they can
only be the rows of its own items.
-/

namespace Curtain

open Queries Table HoldService OrderService

/-! ## Answers -/

/-- The confirmation that the statement belongs to. -/
def SeatStatement.confirms : SeatStatement → Option ConfirmCall
  | .bookOrderSeats order pgTid _ => some { orderId := order.id, pgTid }
  | _ => none

/-- The confirmation that stands at the stage. -/
def Stage.confirms : Stage → Option ConfirmCall
  | .confirming orderId pgTid => some { orderId, pgTid }
  | .claiming order pgTid => some { orderId := order.id, pgTid }
  | .inserting order pgTid _ _ => some { orderId := order.id, pgTid }
  | .referencing order pgTid _ _ => some { orderId := order.id, pgTid }
  | .selecting statement => statement.confirms
  | .locking statement _ => statement.confirms
  | .writing statement _ => statement.confirms
  | _ => none

/-- What a confirmation answers that ends at the stage without a write. -/
def Stage.refusal (db : Db) : Stage → ConfirmAnswer
  | .confirming orderId _ =>
      match loadOrder orderId db with
      | .ok order =>
          if order.status = .pending then .raised else .returned false
      | .error _ => .raised
  | _ => .raised

namespace Server

/-- The confirmation that the session performs. -/
def confirming (server : Server) (session : Nat) : Option ConfirmCall :=
  (server.sessions session).bind (·.stage.confirms)

/--
The confirmation that ends with the step, and its answer.  A session that is
rolled back from outside answers nothing.
-/
def answers (hashtext : String → Int) (server : Server) :
    Action → Option (ConfirmCall × ConfirmAnswer)
  | .advance session => do
      let current ← server.sessions session
      let call ← current.stage.confirms
      match
        current.stage.next hashtext (server.available session)
          current.startedAt server.db
      with
      | some .ended => some (call, current.stage.refusal server.db)
      | _ => none
  | .commit session => do
      let current ← server.sessions session
      let call ← current.stage.confirms
      match current.stage with
      | .writing statement rows =>
          match statement.commit current.startedAt rows server.db with
          | .ok _ => some (call, .returned true)
          | .error _ => some (call, .raised)
      | _ => none
  | _ => none

/-- The session that goes on or ends with the step. -/
def Action.session : Action → Option Nat
  | .advance session => some session
  | .commit session => some session
  | .rollback session => some session
  | _ => none

end Server

/-- A server and the answers of its confirmations so far, the latest first. -/
structure Journal where
  server : Server
  answers : List (ConfirmCall × ConfirmAnswer)

def Journal.step (hashtext : String → Int) (journal : Journal)
    (action : Server.Action) : Option Journal :=
  (journal.server.step hashtext action).map fun server =>
    { server
      answers :=
        (journal.server.answers hashtext action).toList ++ journal.answers }

/-! ## What a confirmation has locked -/

/-- Items of the order for different rows among those that it wants. -/
structure Order.Itemizes (order : Order) (stock : List Stock)
    (items : List OrderItem) : Prop where
  distinct : Unique OrderItem.scheduleSeatId items
  included : items ⊆ order.lines stock

theorem Order.exists_of_head {left right : Order}
    (equal : left.head = right.head) :
    ∃ status responseSnapshot,
      right = { left with status, responseSnapshot } := by
  refine ⟨right.status, right.responseSnapshot, ?_⟩
  show { right.head with
      status := right.status
      responseSnapshot := right.responseSnapshot } = _
  rw [← equal]
  rfl

section Items

variable {db : Db} {order : Order} {items : List OrderItem} {now : Time}

theorem itemizes_claimed (idUnique : Unique Stock.id db.stock) :
    order.Itemizes db.stock
      (claimedItems order.id order.scheduleId order.userId order.seatIds now
        db) where
  distinct := by
    rw [Table.Unique, claimedItems, List.map_map]
    exact
      ((List.perm_insertionSort _ _).map _).nodup_iff.mpr
        ((Db.rowUnique idUnique).sublist (List.filter_sublist.map _))
  included := by
    intro item member
    obtain ⟨row, rowMember, claim, rfl⟩ := Confirmed.mem_claims.mp member
    rw [order.lines_stock]
    refine List.mem_map.mpr ⟨row, List.mem_filter.mpr ⟨rowMember, ?_⟩, rfl⟩
    simp only [isClaim, Bool.and_eq_true] at claim
    simpa [Order.wants, ScheduleSeat.stock] using claim.1

/-- As many items as the order names seats are all of its lines. -/
theorem Order.Itemizes.lines_perm (itemizes : order.Itemizes db.stock items)
    (seatUnique :
      Unique (fun stock => (stock.scheduleId, stock.seatId)) db.stock)
    (complete : items.length = order.seatIds.length) :
    items.Perm (order.lines db.stock) := by
  refine
    (List.subperm_of_subset (List.Nodup.of_map _ itemizes.distinct)
      itemizes.included).perm_of_length_le ?_
  rw [order.lines_stock, List.length_map, complete]
  exact Db.wanted_length_le seatUnique order

end Items

/-- A confirmation that is about to book has an item for each of its seats. -/
def SeatStatement.Complete (stock : List Stock) : SeatStatement → Prop
  | .bookOrderSeats order _ items =>
      order.Itemizes stock items ∧ items.length = order.seatIds.length
  | _ => True

/-- A confirmation writes as many rows as its order names seats. -/
def SeatStatement.Fills (rows : List Nat) : SeatStatement → Prop
  | .bookOrderSeats order _ _ => rows.length = order.seatIds.length
  | _ => True

section Settling

variable (db : Db) (locks : LockTable) (session : Nat) (now : Time)

/--
What a session has locked and found at each of its stages.  Nothing is said
about who holds the rows that it refers to.
-/
def Stage.Settling : Stage → Prop
  | .claiming order _ => Pending db locks session order
  | .inserting order _ items _ =>
      Pending db locks session order ∧ order.Itemizes db.stock items
  | .referencing order _ items _ =>
      Pending db locks session order ∧ order.Itemizes db.stock items
  | .selecting statement =>
      statement.Settling db locks session ∧ statement.Complete db.stock
  | .locking statement scan =>
      statement.Settling db locks session ∧ statement.Complete db.stock ∧
        statement.Lists scan.mine ∧ (scan.taken ++ scan.rest).Nodup ∧
        ∀ id ∈ scan.taken, Taken db locks session now statement id
  | .writing statement rows =>
      statement.Settling db locks session ∧ statement.Complete db.stock ∧
        statement.Fills rows ∧ rows.Nodup ∧
        ∀ id ∈ rows, Taken db locks session now statement id
  | _ => True

def Next.Settling : Next → Prop
  | .stage later => later.Settling db locks session now
  | .grant resource mode later =>
      later.Settling db ({ session, resource, mode } :: locks) session now
  | .ended => True

end Settling

section Next

variable {hashtext : String → Int} {available : Resource → LockMode → Bool}
variable {db after : Db} {locks left : LockTable} {session : Nat} {now : Time}

/-- What a session has locked and found is still so after the step of another. -/
theorem Stage.Settling.mono {stage : Stage}
    (settling : stage.Settling db locks session now)
    (spares : Spares session db locks after left)
    (same : after.stock = db.stock) :
    stage.Settling after left session now := by
  cases stage with
  | claiming => exact spares.pending settling
  | inserting => exact ⟨spares.pending settling.1, same ▸ settling.2⟩
  | referencing => exact ⟨spares.pending settling.1, same ▸ settling.2⟩
  | selecting => exact ⟨spares.settling settling.1, same ▸ settling.2⟩
  | locking =>
      obtain ⟨locked, complete, lists, nodup, taken⟩ := settling
      exact
        ⟨spares.settling locked, same ▸ complete, lists, nodup,
          fun id member => spares.taken (taken id member)⟩
  | writing =>
      obtain ⟨locked, complete, fills, nodup, taken⟩ := settling
      exact
        ⟨spares.settling locked, same ▸ complete, fills, nodup,
          fun id member => spares.taken (taken id member)⟩
  | quota | confirming | closing | refunding | canceling => trivial

/-- The rows that a statement is going to lock are different ones. -/
theorem SeatStatement.candidates_nodup
    (idUnique : Unique Stock.id db.stock) (statement : SeatStatement)
    (mine : List Nat) :
    ((statement.candidates now mine db).map (·.id)).Nodup :=
  ((statement.candidates_perm now mine db).map _).nodup_iff.mpr
    ((Db.rowUnique idUnique).sublist (List.filter_sublist.map _))

theorem Stage.concluded_settling {statement : SeatStatement} {scan : Scan}
    (settling : (Stage.locking statement scan).Settling db locks session now) :
    (Stage.concluded statement scan).Settling db locks session now := by
  rw [Stage.concluded]
  obtain ⟨locked, complete, -, nodup, taken⟩ := settling
  cases found : statement.rows scan with
  | none => trivial
  | some rows =>
      refine ⟨locked, complete, ?_, ?_, ?_⟩
      · cases statement with
        | bookOrderSeats order pgTid items =>
            simp only [SeatStatement.rows] at found
            split at found
            · cases found
            · rename_i counted
              cases found
              exact not_not.mp counted
        | holdSeats | releaseHold | sweepExpiredHolds | restoreOrderSeats =>
            trivial
      · rw [SeatStatement.rows_eq found]
        exact nodup.of_append_left
      · rw [SeatStatement.rows_eq found]
        exact taken

theorem Stage.releasing_settling {order : Order} {within : Releasing}
    (ready : within.Ready db locks session order.userId) :
    (Stage.releasing order within).Settling db locks session now := by
  rw [Stage.releasing]
  split
  · exact ⟨ready, trivial, trivial, List.nodup_nil, by simp⟩
  · exact ⟨ready, trivial⟩

/-- The next stage has locked and found what it needs. -/
theorem Stage.next_settling {stage : Stage} {next : Next} (keyed : db.Keyed)
    (idUnique : Unique Stock.id db.stock)
    (settling : stage.Settling db locks session now)
    (taken : stage.next hashtext available now db = some next) :
    next.Settling db locks session now := by
  have granted {stage : Stage} (lock : Locks.Lock Nat Resource LockMode)
      (settling : stage.Settling db locks session now) :
      stage.Settling db (lock :: locks) session now :=
    settling.mono (.of_grant lock) rfl
  cases Stage.moves_of_next taken with
  | ended => trivial
  | claims => exact ⟨trivial, trivial⟩
  | @confirms order pgTid member pending =>
      exact ⟨order, member, rfl, pending, List.mem_cons_self⟩
  | claimed => exact ⟨settling, itemizes_claimed idUnique⟩
  | inserts => exact granted _ settling
  | inserted => exact settling
  | refers => exact granted _ settling
  | referred complete =>
      obtain ⟨pending, itemizes⟩ := settling
      refine ⟨⟨pending, ?_⟩, itemizes, complete⟩
      intro item member
      obtain ⟨stock, -, rfl⟩ := List.mem_map.mp (itemizes.included member)
      rfl
  | @closes order status member pending =>
      exact
        Stage.releasing_settling ⟨order, member, rfl, rfl, List.mem_cons_self⟩
  | @refunds order total attempt member pending =>
      exact
        Stage.releasing_settling
          ⟨order, member, rfl, rfl, fun _ _ => List.mem_cons_self⟩
  | @refundsSettled order total attempt member settled =>
      exact
        Stage.releasing_settling
          ⟨order, member, rfl, rfl, fun _ pending => absurd pending settled⟩
  | @refundFails order total attempt member refused =>
      exact
        ⟨⟨order, member, rfl, rfl, fun approved => absurd approved refused⟩,
          trivial, trivial, List.nodup_nil, by simp⟩
  | cancels => exact ⟨List.mem_cons_self, trivial⟩
  | @selects statement =>
      exact
        ⟨settling.1, settling.2, SeatStatement.lists_mine keyed settling.1,
          statement.candidates_nodup idUnique _, by simp [SeatStatement.scan]⟩
  | locks locks =>
      cases locks with
      | concluded => exact Stage.concluded_settling settling
      | skipped listed skips =>
          obtain ⟨locked, complete, lists, nodup, old⟩ := settling
          rw [listed] at nodup
          exact
            ⟨locked, complete, lists,
              nodup.sublist ((List.sublist_cons_self _ _).append_left _), old⟩
      | dropped listed =>
          obtain ⟨locked, complete, lists, nodup, old⟩ := granted _ settling
          rw [listed] at nodup
          exact
            ⟨locked, complete, lists,
              nodup.sublist ((List.sublist_cons_self _ _).append_left _), old⟩
      | @taken row rest listed member meets =>
          obtain ⟨locked, complete, lists, nodup, old⟩ := granted _ settling
          rw [listed] at nodup
          refine ⟨locked, complete, lists, by simpa using nodup, ?_⟩
          intro other otherMember
          rcases List.mem_append.mp otherMember with before | new
          · exact old other before
          · rw [List.mem_singleton.mp new]
            exact
              ⟨List.mem_cons_self, row, member, rfl,
                SeatStatement.suits_of_condition lists meets⟩

end Next

/-! ## Every step -/

namespace SeatStatement

variable {statement : SeatStatement} {db after : Db} {locks : LockTable}
variable {session : Nat} {now : Time} {rows : List Nat}

@[simp]
theorem change_stock (row : ScheduleSeat) :
    (statement.change now row).stock = row.stock := by
  cases statement <;> rfl

theorem Commits.stock {change : Order → Order}
    (commits : statement.Commits now rows change db after) :
    after.stock = db.stock := by
  rw [Db.stock, commits.scheduleSeats]
  exact map_updateWhere ScheduleSeat.stock change_stock db.scheduleSeats

/-- The rows that a confirmation writes are the rows that its order wants. -/
theorem written_wanted {order : Order} {pgTid : String}
    {items : List OrderItem} (keyed : db.Keyed)
    (settling :
      (Stage.writing (.bookOrderSeats order pgTid items) rows).Settling db locks
        session now)
    (lines : items.Perm (order.lines db.stock)) {row : ScheduleSeat}
    (member : row ∈ db.scheduleSeats) :
    rows.contains row.id = order.wants row.stock := by
  obtain ⟨-, complete, fills, nodup, taken⟩ := settling
  have listed : rows ⊆ items.map (·.scheduleSeatId) := by
    intro id written
    obtain ⟨-, suited, -, equal, -, item, itemMember, seat⟩ := taken id written
    exact List.mem_map.mpr ⟨item, itemMember, seat.trans equal⟩
  have same : rows.Perm (items.map (·.scheduleSeatId)) := by
    refine (List.subperm_of_subset nodup listed).perm_of_length_le ?_
    rw [List.length_map, complete.2]
    exact fills.ge
  have seats :
      rows.Perm
        ((db.scheduleSeats.filter fun row => order.wants row.stock).map
          (·.id)) := by
    refine same.trans ?_
    have mapped := lines.map (·.scheduleSeatId)
    rwa [order.lines_stock, List.map_map] at mapped
  exact keyed.rowUnique.contains_of_perm seats member

/-- A confirmation that commits has written everything. -/
theorem confirms_of_commit {order : Order} {pgTid : String}
    {items : List OrderItem} (keyed : db.Keyed)
    (seatUnique :
      Unique (fun stock => (stock.scheduleId, stock.seatId)) db.stock)
    (settling :
      (Stage.writing (.bookOrderSeats order pgTid items) rows).Settling db locks
        session now)
    (ok : (bookOrderSeats order pgTid items).commit now rows db = .ok after) :
    ∃ row : Order, row.id = order.id ∧ row.Confirms pgTid items db after := by
  obtain ⟨numbered, promoted, final⟩ := recordApproval_ok ok
  have found := settling
  obtain ⟨⟨⟨row, member, head, pending, -⟩, -⟩, complete, -, -, taken⟩ := found
  have lines := complete.1.lines_perm seatUnique complete.2
  have written (seat : ScheduleSeat) (seatMember : seat ∈ db.scheduleSeats) :=
    written_wanted keyed settling lines seatMember
  -- The version of the row that is locked differs from the one that was read
  -- in nothing that a confirmation looks at.
  obtain ⟨status, responseSnapshot, rfl⟩ := Order.exists_of_head head
  refine ⟨row, rfl, ?_⟩
  exact
    { member
      pending
      seats := by
        refine Db.filter_seats seatUnique Order.wants_narrower ?_
        have counted := lines.length_eq
        rw [Order.lines_stock, List.length_map, complete.2] at counted
        exact counted.le
      held := fun seat seatMember wanted => by
        have inRows := (written seat seatMember).trans wanted
        obtain ⟨-, suited, suitedMember, equal, held, -⟩ :=
          taken seat.id (List.contains_iff_mem.mp inRows)
        rwa [keyed.rowUnique.eq suitedMember seatMember equal] at held
      scheduleSeats := by
        rw [final]
        exact updateWhere_congr written
      lines
      orderItems := by rw [final]; rfl
      orders := by
        rw [final]
        simp only [setOrderSnapshot, markOrderPaid, updateOrder, write_orders,
          updateWhere, List.map_map]
        apply List.map_congr_left
        intro other otherMember
        by_cases equal : other.id = row.id
        · simp [keyed.orderUnique.eq otherMember member equal, pending]
        · simp [equal]
      payments := promoted
      approved := promoted.approved numbered
      outbox := by rw [final]; rfl }

end SeatStatement

namespace Server

/-- The sessions in progress have locked and found what they are going to write. -/
structure Orderly (server : Server) : Prop where
  compatible : Locks.Compatible LockMode.conflicts server.locks
  idUnique : Unique Stock.id server.db.stock
  seatUnique :
    Unique (fun stock => (stock.scheduleId, stock.seatId)) server.db.stock
  keyed : server.db.Keyed
  settling :
    ∀ session current, server.sessions session = some current →
      current.stage.Settling server.db server.locks session current.startedAt

namespace Orderly

variable {hashtext : String → Int} {server next : Server} {session : Nat}
variable {current : Session}

theorem of_quiet (quiet : server.Quiet) (keyed : server.db.Keyed) :
    server.Orderly where
  compatible := by rw [quiet.unlocked]; exact .nil
  idUnique := quiet.idUnique
  seatUnique := quiet.seatUnique
  keyed := keyed
  settling := by simp [quiet.idle]

/-- The end of a session that has written nothing. -/
theorem finish (orderly : server.Orderly) (session : Nat) :
    (server.finish session).Orderly where
  compatible := orderly.compatible.release session
  idUnique := orderly.idUnique
  seatUnique := orderly.seatUnique
  keyed := orderly.keyed
  settling :=
    each_finish orderly.settling fun _ _ different settling =>
      settling.mono (.of_locks (mem_release_of_ne different)) rfl

/-- A session goes on to a stage for which it has what it needs. -/
theorem put (orderly : server.Orderly) (session : Nat) (current : Session)
    {locks : LockTable}
    (compatible : Locks.Compatible LockMode.conflicts locks)
    (kept : ∀ lock ∈ server.locks, lock ∈ locks)
    (settling :
      current.stage.Settling server.db locks session current.startedAt) :
    ({ server.put session current with locks } : Server).Orderly where
  compatible := compatible
  idUnique := orderly.idUnique
  seatUnique := orderly.seatUnique
  keyed := orderly.keyed
  settling :=
    each_put orderly.settling settling fun _ _ settling =>
      settling.mono (.of_locks fun lock held _ => kept lock held) rfl

theorem openOrder (orderly : server.Orderly) {request : PlaceRequest}
    {order : Order} {after : Db}
    (opened : Opened request server.clock server.db order after) :
    ({ server with db := after } : Server).Orderly := by
  have stock := opened.stock
  exact
    { compatible := orderly.compatible
      idUnique := stock ▸ orderly.idUnique
      seatUnique := stock ▸ orderly.seatUnique
      keyed := orderly.keyed.opened opened
      settling := fun session current found =>
        (orderly.settling session current found).mono
          (opened.spares session server.locks) stock }

/-- The commit of a session that has locked what it writes. -/
theorem commit (orderly : server.Orderly)
    (found : server.sessions session = some current)
    {statement : SeatStatement} {rows : List Nat}
    (writing : current.stage = .writing statement rows)
    {change : Order → Order} {after : Db}
    (commits :
      statement.Commits current.startedAt rows change server.db after) :
    ({ server.finish session with db := after } : Server).Orderly := by
  have own := orderly.settling session current found
  rw [writing] at own
  obtain ⟨settling, -, -, -, taken⟩ := own
  have stock := commits.stock
  exact
    { compatible := orderly.compatible.release session
      idUnique := stock ▸ orderly.idUnique
      seatUnique := stock ▸ orderly.seatUnique
      keyed := commits.keyed_after orderly.keyed settling
      settling :=
        each_finish orderly.settling fun _ _ different others =>
          others.mono
            (commits.spares orderly.compatible orderly.keyed settling taken
              different)
            stock }

theorem step (orderly : server.Orderly) {action : Action}
    (taken : server.step hashtext action = some next) :
    next.Orderly := by
  have settling {session : Nat} {current : Session} {later : Next}
      (found : server.sessions session = some current)
      (next :
        current.stage.next hashtext (server.available session)
          current.startedAt server.db = some later) :
      later.Settling server.db server.locks session current.startedAt :=
    Stage.next_settling orderly.keyed orderly.idUnique
      (orderly.settling session current found) next
  cases steps_of_step taken with
  | tick elapsed => exact { orderly with }
  | opened opened => exact orderly.openOrder opened
  | @begun session work idle admissible =>
      refine
        orderly.put session { startedAt := server.clock, stage := work.first }
          orderly.compatible (fun _ held => held) ?_
      cases work <;> trivial
  | @passed session current stage found next =>
      exact
        orderly.put session { current with stage } orderly.compatible
          (fun _ held => held) (settling found next)
  | @granted session current resource mode stage found next free =>
      exact
        orderly.put session { current with stage }
          (orderly.compatible.grant LockMode.conflicts_comm free)
          (fun lock held => List.mem_cons_of_mem _ held) (settling found next)
  | committed found writing ok =>
      obtain ⟨change, commits⟩ := SeatStatement.commits_of_commit ok
      exact orderly.commit found writing commits
  | ended | failed | rolledBack => exact orderly.finish _

end Orderly

end Server

/-! ## Steps of a confirmation -/

/-- The order exists and is no longer pending. -/
def Db.Settled (db : Db) (orderId : Nat) : Prop :=
  ∃ row ∈ db.orders, row.id = orderId ∧ row.status ≠ .pending

section Unsettled

variable {db : Db} {locks : LockTable} {session : Nat} {now : Time}
variable {call : ConfirmCall} {stage : Stage}

theorem Pending.unsettled {order : Order}
    (orderUnique : Unique Order.id db.orders)
    (pending : Pending db locks session order) :
    ¬ db.Settled order.id := by
  obtain ⟨row, member, head, unsettled, -⟩ := pending
  rintro ⟨other, otherMember, equal, settled⟩
  have same : other = row :=
    orderUnique.eq otherMember member (equal.trans (Order.id_of_head head).symm)
  exact settled (same ▸ unsettled)

theorem Order.Confirms.settled {order : Order} {pgTid : String}
    {items : List OrderItem} {after : Db}
    (confirms : order.Confirms pgTid items db after) :
    after.Settled order.id := by
  have paid :
      { order with
        status := .paid
        responseSnapshot := some (snapshot order.id .paid items) } ∈
        after.orders := by
    rw [confirms.orders]
    exact mem_updateWhere_of confirms.member (beq_self_eq_true _)
  exact ⟨_, paid, rfl, by simp⟩

/-- A confirmation that is past its first statement has locked a pending order. -/
theorem Stage.confirming_or_unsettled
    (orderUnique : Unique Order.id db.orders)
    (settling : stage.Settling db locks session now)
    (calls : stage.confirms = some call) :
    stage = .confirming call.orderId call.pgTid ∨
      ¬ db.Settled call.orderId := by
  have booking {statement : SeatStatement}
      (settling : statement.Settling db locks session)
      (calls : statement.confirms = some call) :
      ¬ db.Settled call.orderId := by
    cases statement with
    | bookOrderSeats order pgTid items =>
        cases calls
        exact Pending.unsettled orderUnique settling.1
    | holdSeats | releaseHold | sweepExpiredHolds | restoreOrderSeats =>
        cases calls
  cases stage with
  | confirming orderId pgTid =>
      cases calls
      exact Or.inl rfl
  | claiming order pgTid =>
      cases calls
      exact Or.inr (Pending.unsettled orderUnique settling)
  | inserting order pgTid items rest =>
      cases calls
      exact Or.inr (Pending.unsettled orderUnique settling.1)
  | referencing order pgTid items rest =>
      cases calls
      exact Or.inr (Pending.unsettled orderUnique settling.1)
  | selecting statement => exact Or.inr (booking settling.1 calls)
  | locking statement scan => exact Or.inr (booking settling.1 calls)
  | writing statement rows => exact Or.inr (booking settling.1 calls)
  | quota | closing | refunding | canceling => cases calls

/-- A confirmation that ends without a write says `False`, or its order is not settled. -/
theorem Stage.refusal_cases
    (orderUnique : Unique Order.id db.orders)
    (settling : stage.Settling db locks session now)
    (calls : stage.confirms = some call) :
    stage.refusal db = .returned false ∨
      stage.refusal db = .raised ∧ ¬ db.Settled call.orderId := by
  have decided :=
    Stage.confirming_or_unsettled orderUnique settling calls
  cases stage with
  | confirming orderId pgTid =>
      cases calls
      rw [Stage.refusal]
      cases loaded : loadOrder orderId db with
      | error error =>
          refine Or.inr ⟨rfl, ?_⟩
          rintro ⟨row, member, equal, -⟩
          rw [loadOrder] at loaded
          split at loaded
          · cases loaded
          · rename_i missing
            exact lookup_eq_none.mp missing row member equal
      | ok order =>
          obtain ⟨member, equal⟩ := loadOrder_ok loaded
          by_cases pending : order.status = .pending
          · refine Or.inr ⟨if_pos pending, ?_⟩
            rintro ⟨row, rowMember, same, settled⟩
            rw [orderUnique.eq rowMember member (same.trans equal.symm)]
              at settled
            exact settled pending
          · exact Or.inl (if_neg pending)
  | quota | claiming | inserting | referencing | closing | refunding
  | canceling | selecting | locking | writing =>
      exact Or.inr ⟨rfl, decided.resolve_left (by simp)⟩

end Unsettled

namespace Server

variable {hashtext : String → Int} {server next : Server} {action : Action}
variable {session : Nat} {call : ConfirmCall}

/-- A settled order stays settled. -/
theorem settled_step {orderId : Nat} (settled : server.db.Settled orderId)
    (taken : server.step hashtext action = some next) :
    next.db.Settled orderId := by
  obtain ⟨row, member, equal, final⟩ := settled
  cases steps_of_step taken with
  | opened opened =>
      rw [opened.after_eq]
      exact ⟨row, List.mem_append_left _ member, equal, final⟩
  | committed found writing ok =>
      obtain ⟨change, commits⟩ := SeatStatement.commits_of_commit ok
      obtain ⟨later, laterMember, head, still⟩ :=
        commits.settled_after member final
      exact ⟨later, laterMember, (Order.id_of_head head).trans equal, still⟩
  | tick | begun | passed | granted | ended | failed | rolledBack =>
      exact ⟨row, member, equal, final⟩

/-- What a step of a confirmation does, by the answer that it gives. -/
inductive ConfirmSteps (hashtext : String → Int) (server : Server)
    (call : ConfirmCall) (action : Action) (next : Server) : Prop where
  | goesOn (silent : server.answers hashtext action = none)
      (same : next.db = server.db)
  | confirmed {order : Order} {items : List OrderItem}
      (answers :
        server.answers hashtext action = some (call, .returned true))
      (unsettled : ¬ server.db.Settled call.orderId)
      (equal : order.id = call.orderId)
      (confirms : order.Confirms call.pgTid items server.db next.db)
  | settled
      (answers :
        server.answers hashtext action = some (call, .returned false))
      (same : next.db = server.db)
  | raised (answers : server.answers hashtext action = some (call, .raised))
      (unsettled : ¬ server.db.Settled call.orderId)
      (same : next.db = server.db)

theorem Orderly.confirm_steps (orderly : server.Orderly)
    (own : action.session = some session)
    (calls : server.confirming session = some call)
    (taken : server.step hashtext action = some next) :
    ConfirmSteps hashtext server call action next := by
  obtain ⟨current, running, calls⟩ := Option.bind_eq_some_iff.mp calls
  have settling := orderly.settling session current running
  cases steps_of_step taken with
  | tick | opened | begun => cases own
  | passed found next =>
      cases own
      rw [running] at found
      cases found
      exact .goesOn (by simp [answers, running, calls, next]) rfl
  | granted found next free =>
      cases own
      rw [running] at found
      cases found
      exact .goesOn (by simp [answers, running, calls, next]) rfl
  | ended found next =>
      cases own
      rw [running] at found
      cases found
      have answered :
          server.answers hashtext (.advance session) =
            some (call, current.stage.refusal server.db) := by
        simp [answers, running, calls, next]
      rcases Stage.refusal_cases orderly.keyed.orderUnique settling calls with
        returned | ⟨raised, unsettled⟩
      · rw [returned] at answered
        exact .settled answered rfl
      · rw [raised] at answered
        exact .raised answered unsettled rfl
  | @committed session current statement rows after found writing ok =>
      cases own
      rw [running] at found
      cases found
      have asks := calls
      rw [writing] at asks
      have answered :
          server.answers hashtext (.commit session) =
            some (call, .returned true) := by
        simp [answers, running, asks, writing, ok]
      have unsettled :=
        (Stage.confirming_or_unsettled orderly.keyed.orderUnique settling
          calls).resolve_left (by simp [writing])
      rw [writing] at settling calls
      cases statement with
      | bookOrderSeats order pgTid items =>
          cases calls
          obtain ⟨row, equal, confirms⟩ :=
            SeatStatement.confirms_of_commit orderly.keyed orderly.seatUnique
              settling ok
          exact .confirmed answered unsettled equal confirms
      | holdSeats | releaseHold | sweepExpiredHolds | restoreOrderSeats =>
          cases calls
  | failed found writing raised =>
      cases own
      rw [running] at found
      cases found
      have asks := calls
      rw [writing] at asks
      have answered :
          server.answers hashtext (.commit session) = some (call, .raised) := by
        simp [answers, running, asks, writing, raised]
      have unsettled :=
        (Stage.confirming_or_unsettled orderly.keyed.orderUnique settling
          calls).resolve_left (by simp [writing])
      exact .raised answered unsettled rfl
  | rolledBack found => exact .goesOn rfl rfl

/-- Only a confirmation answers. -/
theorem confirming_of_answers {answer : ConfirmAnswer}
    (answered : server.answers hashtext action = some (call, answer)) :
    ∃ session, action.session = some session ∧
      server.confirming session = some call := by
  cases action with
  | advance session =>
      obtain ⟨current, found, restOk⟩ := Option.bind_eq_some_iff.mp answered
      obtain ⟨own, calls, last⟩ := Option.bind_eq_some_iff.mp restOk
      refine ⟨session, rfl, Option.bind_eq_some_iff.mpr ⟨current, found, ?_⟩⟩
      split at last
      · cases last
        exact calls
      · cases last
  | commit session =>
      obtain ⟨current, found, restOk⟩ := Option.bind_eq_some_iff.mp answered
      obtain ⟨own, calls, last⟩ := Option.bind_eq_some_iff.mp restOk
      refine ⟨session, rfl, Option.bind_eq_some_iff.mpr ⟨current, found, ?_⟩⟩
      split at last
      · split at last
        · cases last
          exact calls
        · cases last
          exact calls
      · cases last
  | tick | openOrder | begin | rollback => cases answered

/-- A confirmation of a settled order says `False` at once. -/
theorem Orderly.answers_false (orderly : server.Orderly)
    (settled : server.db.Settled call.orderId)
    (calls : server.confirming session = some call) :
    ∃ next, server.step hashtext (.advance session) = some next ∧
      server.answers hashtext (.advance session) =
        some (call, .returned false) := by
  obtain ⟨current, running, calls⟩ := Option.bind_eq_some_iff.mp calls
  have orderUnique := orderly.keyed.orderUnique
  have settling := orderly.settling session current running
  have stage : current.stage = .confirming call.orderId call.pgTid :=
    (Stage.confirming_or_unsettled orderUnique settling calls).resolve_right
      fun unsettled => unsettled settled
  obtain ⟨row, member, equal, final⟩ := settled
  have loaded : loadOrder call.orderId server.db = .ok row := by
    rw [loadOrder, orderForSaga,
      (lookup_eq_some orderUnique).mpr ⟨member, equal⟩]
  have next :
      current.stage.next hashtext (server.available session)
        current.startedAt server.db = some .ended := by
    rw [stage, Stage.next, loaded]
    exact if_pos (Or.inl final)
  refine ⟨server.finish session, ?_, ?_⟩
  · simp [Server.step, running, next, Server.proceed]
  · have refusal : current.stage.refusal server.db = .returned false := by
      rw [stage, Stage.refusal, loaded]
      exact if_neg final
    simp [answers, running, calls, next, refusal]

end Server

/-! ## Runs -/

namespace Journal

/-- After the answer `True` every answer for the order is `False`. -/
def ConfirmsOnce (journal : Journal) : Prop :=
  journal.answers.Pairwise fun later earlier =>
    earlier.2 = .returned true → later.1.orderId = earlier.1.orderId →
      later.2 = .returned false

/-- The answers `True` for an order. -/
def confirmations (journal : Journal) (orderId : Nat) : Nat :=
  journal.answers.countP fun answer =>
    answer.1.orderId == orderId && answer.2 == .returned true

theorem ConfirmsOnce.confirmations_le {journal : Journal}
    (once : journal.ConfirmsOnce) (orderId : Nat) :
    journal.confirmations orderId ≤ 1 := by
  rw [confirmations]
  rw [ConfirmsOnce] at once
  generalize journal.answers = answers at once ⊢
  induction answers with
  | nil => exact Nat.zero_le 1
  | cons answer rest induction =>
      obtain ⟨last, others⟩ := List.pairwise_cons.mp once
      rw [List.countP_cons]
      split
      · rename_i confirmed
        rw [Bool.and_eq_true, beq_iff_eq, beq_iff_eq] at confirmed
        have none :
            (rest.countP fun answer =>
              answer.1.orderId == orderId && answer.2 == .returned true) =
                0 := by
          rw [List.countP_eq_zero]
          intro earlier member same
          rw [Bool.and_eq_true, beq_iff_eq, beq_iff_eq] at same
          have refused :=
            last earlier member same.2 (confirmed.1.trans same.1.symm)
          rw [confirmed.2] at refused
          cases refused
        rw [none]
      · exact induction others

/-- An order that a confirmation has answered with `True` is settled. -/
structure Truthful (journal : Journal) : Prop where
  orderly : journal.server.Orderly
  settled :
    ∀ answer ∈ journal.answers, answer.2 = .returned true →
      journal.server.db.Settled answer.1.orderId
  once : journal.ConfirmsOnce

namespace Truthful

variable {hashtext : String → Int} {journal next : Journal}

theorem step (truthful : journal.Truthful) {action : Server.Action}
    (taken : journal.step hashtext action = some next) :
    next.Truthful := by
  obtain ⟨server, stepped, rfl⟩ := Option.map_eq_some_iff.mp taken
  have orderly := truthful.orderly.step stepped
  have settled :
      ∀ answer ∈ journal.answers, answer.2 = .returned true →
        server.db.Settled answer.1.orderId :=
    fun answer member confirmed =>
      Server.settled_step (truthful.settled answer member confirmed) stepped
  cases answered : journal.server.answers hashtext action with
  | none => exact { orderly, settled, once := truthful.once }
  | some answer =>
      obtain ⟨call, answer⟩ := answer
      obtain ⟨session, own, calls⟩ := Server.confirming_of_answers answered
      -- An earlier `True` has settled the order already.
      have latest (final : ¬ journal.server.db.Settled call.orderId) :
          ∀ earlier ∈ journal.answers, earlier.2 = .returned true →
            call.orderId = earlier.1.orderId →
              answer = .returned false := by
        intro earlier member confirmed same
        rw [same] at final
        exact absurd (truthful.settled earlier member confirmed) final
      cases truthful.orderly.confirm_steps own calls stepped with
      | goesOn silent same =>
          rw [answered] at silent
          cases silent
      | @confirmed order items answers unsettled equal confirms =>
          rw [answered] at answers
          cases answers
          refine
            { orderly
              settled := ?_
              once := List.pairwise_cons.mpr ⟨latest unsettled, truthful.once⟩ }
          intro other member isTrue
          rcases List.mem_cons.mp member with rfl | old
          · rw [← equal]
            exact confirms.settled
          · exact settled other old isTrue
      | settled answers same =>
          rw [answered] at answers
          cases answers
          refine
            { orderly
              settled := ?_
              once :=
                List.pairwise_cons.mpr
                  ⟨fun _ _ _ _ => rfl, truthful.once⟩ }
          intro other member isTrue
          rcases List.mem_cons.mp member with rfl | old
          · cases isTrue
          · exact settled other old isTrue
      | raised answers unsettled same =>
          rw [answered] at answers
          cases answers
          refine
            { orderly
              settled := ?_
              once := List.pairwise_cons.mpr ⟨latest unsettled, truthful.once⟩ }
          intro other member isTrue
          rcases List.mem_cons.mp member with rfl | old
          · cases isTrue
          · exact settled other old isTrue

end Truthful

/--
A call of `confirm_paid` writes all that belongs to a paid order and returns
`True`, or writes nothing and returns `False`, or writes nothing and raises:
on its own from any database with its keys, and statement by statement among
any other transactions.  However many calls for an order run side by side, at
most one returns `True`; every answer after it is `False`, and a call that has
not answered yet does so with its next statement.
-/
theorem confirmed_whole_and_once
    {hashtext : String → Int} {start : Server} (quiet : start.Quiet)
    (keyed : start.db.Keyed) {journal : Journal}
    (run :
      TransitionSystem.Reachable (Journal.step hashtext)
        { server := start, answers := [] } journal) :
    (∀ (call : ConfirmCall) (now : Time) (db : Db), db.Constrained →
      (ConfirmAnswer.of
          (tx (confirmPaid call.orderId call.pgTid now) db).1).Leaves call db
        (tx (confirmPaid call.orderId call.pgTid now) db).2) ∧
    (∀ action next session call,
      journal.server.step hashtext action = some next →
        action.session = some session →
          journal.server.confirming session = some call →
            (journal.server.answers hashtext action).elim
              (next.db = journal.server.db) fun answer =>
                answer.1 = call ∧
                  answer.2.Leaves call journal.server.db next.db) ∧
    (∀ orderId, journal.confirmations orderId ≤ 1) ∧
    journal.ConfirmsOnce ∧
    ∀ answer ∈ journal.answers, answer.2 = .returned true →
      ∀ session call, journal.server.confirming session = some call →
        call.orderId = answer.1.orderId →
          ∃ next, journal.server.step hashtext (.advance session) = some next ∧
            journal.server.answers hashtext (.advance session) =
              some (call, .returned false) := by
  have truthful : journal.Truthful := by
    apply run.invariant
    · exact
        { orderly := .of_quiet quiet keyed
          settled := by simp
          once := .nil }
    · intro state action next truthful _ taken
      exact truthful.step taken
  refine
    ⟨fun call now db constrained => confirmPaid_leaves call now constrained, ?_,
      truthful.once.confirmations_le, truthful.once, ?_⟩
  · intro action next session call taken own calls
    cases truthful.orderly.confirm_steps own calls taken with
    | goesOn silent same => rw [silent]; exact same
    | confirmed answers unsettled equal confirms =>
        rw [answers]
        exact ⟨rfl, _, _, equal, confirms⟩
    | settled answers same => rw [answers]; exact ⟨rfl, same⟩
    | raised answers unsettled same => rw [answers]; exact ⟨rfl, same⟩
  · intro answer member confirmed session call calls same
    have settled := truthful.settled answer member confirmed
    rw [← same] at settled
    exact truthful.orderly.answers_false settled calls

/-- Two calls side by side, and a third one after them. -/
def webhooks : List Server.Action :=
  Server.Action.order 0 7 ++
    [.begin 1 (.confirmPaid 1 "tid"), .begin 2 (.confirmPaid 1 "tid")] ++
      Server.Action.advances 1 9 ++
        [.commit 1, .advance 2, .begin 3 (.confirmPaid 1 "tid")]

/-- The same callback three times, twice at once: the first call confirms the order. -/
theorem confirmed_whole_and_once_webhooks :
    ∃ journal : Journal,
      journal.answers =
          [({ orderId := 1, pgTid := "tid" }, .returned false),
           ({ orderId := 1, pgTid := "tid" }, .returned true)] ∧
        journal.ConfirmsOnce ∧
        ∃ next, journal.server.step (fun _ => 0) (.advance 3) = some next ∧
          journal.server.answers (fun _ => 0) (.advance 3) =
            some ({ orderId := 1, pgTid := "tid" }, .returned false) := by
  obtain ⟨journal, run, seen⟩ :=
    TransitionSystem.RunWhere.exists_of_checkedRun
      (Journal.step fun _ => 0) (fun _ _ => True)
      { server := Server.oneSeat, answers := [] } webhooks
      (fun journal : Journal =>
        journal.answers ==
            [({ orderId := 1, pgTid := "tid" }, .returned false),
             ({ orderId := 1, pgTid := "tid" }, .returned true)] &&
          journal.server.confirming 3 == some { orderId := 1, pgTid := "tid" })
      (by decide)
  rw [Bool.and_eq_true, beq_iff_eq, beq_iff_eq] at seen
  obtain ⟨-, -, -, once, later⟩ :=
    confirmed_whole_and_once (Server.quiet_initial _ _ _)
      (Server.Isolated.initial _ _ _).keyed run
  refine
    ⟨journal, seen.1, once,
      later ({ orderId := 1, pgTid := "tid" }, .returned true) ?_ rfl 3 _ seen.2
        rfl⟩
  rw [seen.1]
  simp

end Journal

end Curtain
