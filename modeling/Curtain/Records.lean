import Curtain.Ledger
import Curtain.Numbers

/-!
# What the tables record

Invariants that hold in every run, whatever the gateway answers: the stock and
the items of an order are never rewritten, every payment belongs to an order,
and the columns stay within their types and constraints.
-/

namespace Curtain

open Queries Table HoldService OrderService

section Turns

variable {world : World} {action : Action} {before after : Option Task}
variable {books : Books}

/-- No turn takes an item away. -/
theorem Turn.orderItems (consistent : world.Consistent)
    (turn : Turn world action before after books) :
    world.db.orderItems <+: books.db.orderItems := by
  have sound := consistent.sound
  cases turn with
  | acquired ok =>
      obtain ⟨-, rfl⟩ := acquireSeats_ok sound.rowUnique ok
      exact List.prefix_rfl
  | opened opened =>
      exact ⟨[], by rw [List.append_nil, opened.after_eq]⟩
  | confirmed confirms source confirmed quiet =>
      dsimp only
      rw [confirmed.orderItems]
      exact List.prefix_append _ _
  | recorded recorded =>
      obtain ⟨middle, inserted, equal⟩ := recordRefund_ok recorded
      obtain ⟨-, rfl⟩ := insertPayment_ok.mp inserted
      dsimp only
      rw [equal]
      split <;> exact List.prefix_rfl
  | closed closed =>
      rcases closeUnpaid_ok closed with rfl | ⟨owner, -, -, -, rfl⟩ <;>
        exact List.prefix_rfl
  | cancelFailed recorded =>
      obtain ⟨-, rfl⟩ := insertPayment_ok.mp recorded
      exact List.prefix_rfl
  | cancelClosed closed =>
      rcases closeCanceled_ok closed with ⟨rfl, -⟩ | ⟨-, refunded, inserted, rfl⟩
      · exact List.prefix_rfl
      · obtain ⟨-, rfl⟩ := insertPayment_ok.mp inserted
        exact List.prefix_rfl
  | _ => exact List.prefix_rfl

/-- No turn changes what the rows of the stock are. -/
theorem Turn.stock (turn : Turn world action before after books) :
    books.db.stock = world.db.stock := by
  cases turn with
  | acquired ok => exact acquireSeats_stock ok
  | released =>
      rw [releaseSeats_snd]
      exact Db.updateSeats_stock free_stock
  | swept =>
      exact map_updateWhere ScheduleSeat.stock free_stock world.db.scheduleSeats
  | opened opened => exact opened.stock
  | confirmed confirms source confirmed quiet => exact confirmed.stock
  | recorded recorded =>
      obtain ⟨middle, inserted, equal⟩ := recordRefund_ok recorded
      obtain ⟨-, rfl⟩ := insertPayment_ok.mp inserted
      dsimp only
      rw [equal]
      split
      · exact Db.updateSeats_stock free_stock
      · rfl
  | closed closed =>
      rcases closeUnpaid_ok closed with rfl | ⟨owner, -, -, -, rfl⟩
      · rfl
      · exact Db.updateSeats_stock free_stock
  | cancelFailed recorded =>
      obtain ⟨-, rfl⟩ := insertPayment_ok.mp recorded
      rfl
  | cancelClosed closed =>
      rcases closeCanceled_ok closed with ⟨rfl, -⟩ | ⟨-, refunded, inserted, rfl⟩
      · rfl
      · obtain ⟨-, rfl⟩ := insertPayment_ok.mp inserted
        exact map_updateWhere ScheduleSeat.stock restore_stock world.db.scheduleSeats
  | _ => rfl

/-- A step of the world leaves its stock as it is. -/
theorem World.step_stock {next : World} (taken : world.step action = some next) :
    next.db.stock = world.db.stock := by
  obtain ⟨_, -, turn⟩ := step_turn taken
  exact turn.stock

end Turns

/-! ## How an order row changes -/

/-- What one turn makes of an order row, and who makes it. -/
inductive Order.Becomes (world : World) (action : Action)
    (before : Option Task) (old : Order) : Order → Prop where
  | same : old.Becomes world action before old
  | paid (snapshot : Snapshot) (pgTid : String)
      (pending : old.status = .pending)
      (confirms : world.confirms action = some (old.id, pgTid)) :
      old.Becomes world action before
        { old with status := .paid, responseSnapshot := some snapshot }
  | unpaid (status : OrderStatus)
      (pending : old.status = .pending)
      (final : status = .failed ∨ status = .canceled)
      (source : before = some (.settling (.closing old.id status))) :
      old.Becomes world action before { old with status }
  | refunded (order : Order) (total : Int) (why : Raised) (attempt : PayAttempt)
      (pending : old.status = .pending)
      (source : before = some (.settling (.recording order total why attempt)))
      (own : order.id = old.id)
      (approved : attempt.approved = true) :
      old.Becomes world action before { old with status := .failed }
  | canceled (cancellation : Cancellation) (attempt : PayAttempt)
      (paid : old.status = .paid)
      (source : before = some (.canceling cancellation (.closing attempt)))
      (own : cancellation.order.id = old.id) :
      old.Becomes world action before { old with status := .canceled }

theorem Order.Becomes.head
    {world : World} {action : Action} {before : Option Task}
    {old order : Order}
    (becomes : old.Becomes world action before order) :
    order.head = old.head := by
  cases becomes <;> rfl

theorem mem_markOrder
    {orderId : Nat} {status expect : OrderStatus} {db : Db} {order : Order}
    (member : order ∈ (markOrder orderId status expect db).2.orders) :
    ∃ old ∈ db.orders, order = old ∨
      (old.id = orderId ∧ old.status = expect ∧ order = { old with status }) := by
  obtain ⟨old, oldMember, ⟨touched, rfl⟩ | ⟨-, rfl⟩⟩ := mem_updateWhere.mp member
  · simp only [Bool.and_eq_true, beq_iff_eq] at touched
    exact ⟨old, oldMember, Or.inr ⟨touched.1, touched.2, rfl⟩⟩
  · exact ⟨order, oldMember, Or.inl rfl⟩

/-- After a turn every order row is a new one, or what the turn made of an old one. -/
theorem Turn.order_becomes
    {world : World} {action : Action} {before after : Option Task}
    {books : Books}
    (consistent : world.Consistent)
    (known : ∀ task ∈ before, task ∈ world.tasks)
    (turn : Turn world action before after books) :
    ∀ order ∈ books.db.orders,
      (∃ old ∈ world.db.orders, old.Becomes world action before order) ∨
        (before = none ∧
          ∃ request, Opened request world.clock world.db order books.db) := by
  have sound := consistent.sound
  intro order member
  cases turn with
  | acquired ok =>
      obtain ⟨-, rfl⟩ := acquireSeats_ok sound.rowUnique ok
      exact Or.inl ⟨order, member, .same⟩
  | opened opened =>
      rcases opened.mem_orders_iff.mp member with old | rfl
      · exact Or.inl ⟨order, old, .same⟩
      · exact Or.inr ⟨rfl, _, opened⟩
  | confirmed confirms source confirmed quiet =>
      left
      rcases (confirmed.mem_orders sound).mp member with rfl | ⟨old, -⟩
      · exact
          ⟨_, confirmed.member,
            .paid _ _ (confirmed.row_pending sound.orderIdUnique) confirms⟩
      · exact ⟨order, old, .same⟩
  | recorded recorded =>
      left
      obtain ⟨middle, inserted, equal⟩ := recordRefund_ok recorded
      have same := insertPayment_orders inserted
      dsimp only at member
      rw [equal] at member
      split at member
      · rename_i approved
        obtain ⟨old, oldMember, either⟩ := mem_markOrder member
        change old ∈ middle.orders at oldMember
        rw [same] at oldMember
        rcases either with rfl | ⟨own, pending, rfl⟩
        · exact ⟨order, oldMember, .same⟩
        · exact
            ⟨old, oldMember, .refunded _ _ _ _ pending rfl own.symm approved⟩
      · change order ∈ middle.orders at member
        rw [same] at member
        exact ⟨order, member, .same⟩
  | closed closed =>
      left
      have final := consistent.closings _ (known _ rfl)
      rcases closeUnpaid_ok closed with rfl | ⟨owner, -, -, -, rfl⟩
      · exact ⟨order, member, .same⟩
      · obtain ⟨old, oldMember, rfl | ⟨rfl, pending, rfl⟩⟩ := mem_markOrder member
        · exact ⟨order, oldMember, .same⟩
        · exact ⟨old, oldMember, .unpaid _ pending final rfl⟩
  | cancelFailed recorded =>
      refine Or.inl ⟨order, ?_, .same⟩
      rw [← insertPayment_orders recorded]
      exact member
  | cancelClosed closed =>
      left
      rcases closeCanceled_ok closed with ⟨rfl, -⟩ | ⟨-, refunded, inserted, rfl⟩
      · exact ⟨order, member, .same⟩
      · have listed : order ∈ refunded.orders := member
        rw [insertPayment_orders inserted] at listed
        obtain ⟨old, oldMember, rfl | ⟨own, paid, rfl⟩⟩ := mem_markOrder listed
        · exact ⟨order, oldMember, .same⟩
        · exact ⟨old, oldMember, .canceled _ _ paid rfl own.symm⟩
  | _ => exact Or.inl ⟨order, member, .same⟩

/-! ## How a stock row changes -/

/-- The order that a saga settles. -/
def Settling.orderId : Settling → Nat
  | .confirming orderId _ _ => orderId
  | .closing orderId _ => orderId
  | .compensating orderId _ _ _ => orderId
  | .refunding order _ _ _ _ => order.id
  | .recording order _ _ _ => order.id

/-- The transaction of the stage closes its order and releases the holds. -/
def Settling.closes : Settling → Bool
  | .closing _ _ => true
  | .recording _ _ _ attempt => attempt.approved
  | _ => false

/-- What one turn makes of a stock row, and who makes it. -/
inductive ScheduleSeat.Becomes (world : World) (action : Action)
    (before : Option Task) (old : ScheduleSeat) : ScheduleSeat → Prop where
  | same : old.Becomes world action before old
  | held (userId : Nat) (expiresAt : Time)
      (idle : before = none)
      (claimable : (claimable world.clock old).holds = true) :
      old.Becomes world action before (hold userId expiresAt old)
  | dropped
      (idle : before = none)
      (held : old.status = .held) :
      old.Becomes world action before (free old)
  | released (order : Order) (stage : Settling)
      (source : before = some (.settling stage))
      (closes : stage.closes = true)
      (own : order.id = stage.orderId)
      (read :
        order ∈ world.db.orders ∨
          ∃ total why attempt, stage = .recording order total why attempt)
      (held : isHoldOf order.scheduleId order.userId order.seatIds old = true) :
      old.Becomes world action before (free old)
  | booked (order : Order) (pgTid : String)
      (confirms : world.confirms action = some (order.id, pgTid))
      (member : order ∈ world.db.orders)
      (claim :
        isClaim order.scheduleId order.userId order.seatIds world.clock old =
          true) :
      old.Becomes world action before (book old)
  | restored (cancellation : Cancellation) (attempt : PayAttempt)
      (source : before = some (.canceling cancellation (.closing attempt)))
      (paid :
        ∃ order ∈ world.db.orders,
          order.id = cancellation.order.id ∧ order.status = .paid)
      (listed : old.id ∈ itemSeats cancellation.order.id world.db)
      (booked : old.status = .booked) :
      old.Becomes world action before (restore old)

theorem ScheduleSeat.Becomes.stock
    {world : World} {action : Action} {before : Option Task}
    {old row : ScheduleSeat}
    (becomes : old.Becomes world action before row) :
    row.stock = old.stock := by
  cases becomes <;> rfl

/-- The rows after a turn are what it made of the rows before it, in their order. -/
def World.SeatsBecome (world : World) (action : Action)
    (before : Option Task) (after : List ScheduleSeat) : Prop :=
  ∃ turned : ScheduleSeat → ScheduleSeat,
    after = world.db.scheduleSeats.map turned ∧
      ∀ row ∈ world.db.scheduleSeats,
        row.Becomes world action before (turned row)

theorem World.SeatsBecome.refl {world : World} {action : Action}
    {before : Option Task} {after : List ScheduleSeat}
    (same : after = world.db.scheduleSeats) :
    world.SeatsBecome action before after :=
  ⟨id, by rw [List.map_id, same], fun _ _ => .same⟩

/-- A turn that updates the rows of a condition makes them what it says. -/
theorem World.SeatsBecome.of_update
    {world : World} {action : Action} {before : Option Task}
    {after : List ScheduleSeat}
    {condition : ScheduleSeat → Bool} {change : ScheduleSeat → ScheduleSeat}
    (equal : after = updateWhere condition change world.db.scheduleSeats)
    (becomes :
      ∀ row ∈ world.db.scheduleSeats, condition row = true →
        row.Becomes world action before (change row)) :
    world.SeatsBecome action before after := by
  refine ⟨_, equal, ?_⟩
  intro row member
  split
  · rename_i touched
    exact becomes row member touched
  · exact .same

theorem insertPayment_scheduleSeats
    {orderId : Nat} {status : PayStatus} {amount : Int}
    {pgTid : Option String} {fees : Option FeeSnapshot} {db after : Db}
    (ok : insertPayment orderId status amount pgTid fees db = .ok after) :
    after.scheduleSeats = db.scheduleSeats := by
  obtain ⟨-, rfl⟩ := insertPayment_ok.mp ok
  rfl

/-- What one turn makes of every stock row. -/
theorem Turn.seats
    {world : World} {action : Action} {before after : Option Task}
    {books : Books}
    (consistent : world.Consistent)
    (turn : Turn world action before after books) :
    world.SeatsBecome action before books.db.scheduleSeats := by
  have sound := consistent.sound
  cases turn with
  | acquired ok =>
      obtain ⟨-, rfl⟩ := acquireSeats_ok sound.rowUnique ok
      refine .of_update rfl fun row _ target => .held _ _ rfl ?_
      simp only [isTarget, Bool.and_eq_true] at target
      exact target.2
  | released =>
      refine .of_update rfl fun row _ held => .dropped rfl ?_
      simp only [isHoldOf, Bool.and_eq_true, beq_iff_eq] at held
      exact held.1.2
  | swept =>
      rename_i batch
      obtain ⟨condition, expired, equal⟩ :=
        sweepExpired_snd sound.rowUnique world.clock batch (fun _ => false)
      dsimp only
      rw [equal]
      refine .of_update rfl fun row member taken => .dropped rfl ?_
      have held := expired row member taken
      simp only [isExpiredHold, Bool.and_eq_true, beq_iff_eq] at held
      exact held.1
  | opened opened =>
      apply World.SeatsBecome.refl
      rw [opened.after_eq]
  | confirmed confirms source confirmed quiet =>
      exact
        .of_update (confirmed.scheduleSeats sound) fun row _ claim =>
          .booked _ _ confirms confirmed.member claim
  | recorded recorded =>
      obtain ⟨middle, inserted, equal⟩ := recordRefund_ok recorded
      have same := insertPayment_scheduleSeats inserted
      dsimp only
      rw [equal]
      split
      · rename_i approved
        refine
          .of_update ?_ fun row _ held =>
            .released _ _ rfl approved rfl (Or.inr ⟨_, _, _, rfl⟩) held
        rw [Db.updateSeats_scheduleSeats, ← same]
        rfl
      · exact .refl same
  | closed closed =>
      rcases closeUnpaid_ok closed with rfl | ⟨owner, ownerMember, rfl, -, rfl⟩
      · exact .refl rfl
      · exact
          .of_update rfl fun row _ held =>
            .released owner _ rfl rfl rfl (Or.inl ownerMember) held
  | cancelFailed recorded =>
      exact .refl (insertPayment_scheduleSeats recorded)
  | cancelClosed closed =>
      rcases closeCanceled_ok closed with ⟨rfl, -⟩ | ⟨paid, refunded, inserted, rfl⟩
      · exact .refl rfl
      · obtain ⟨-, rfl⟩ := insertPayment_ok.mp inserted
        refine .of_update rfl fun row _ touched => ?_
        simp only [Bool.and_eq_true, List.contains_iff_mem, beq_iff_eq] at touched
        exact .restored _ _ rfl paid touched.1 touched.2
  | _ => exact .refl rfl

/-! ## Orders and payments -/

/-- The order is in the table. -/
def Db.HasOrder (db : Db) (orderId : Nat) : Prop :=
  ∃ order ∈ db.orders, order.id = orderId

theorem Books.Grows.hasOrder {books later : Books} (grows : books.Grows later)
    {orderId : Nat} (known : books.db.HasOrder orderId) :
    later.db.HasOrder orderId := by
  obtain ⟨order, member, rfl⟩ := known
  have kept := grows.orders.subset (List.mem_map_of_mem member)
  obtain ⟨row, rowMember, head⟩ := List.mem_map.mp kept
  exact ⟨row, rowMember, Order.id_of_head head⟩

/-- What the tables record in every run. -/
structure World.Recorded (world : World) : Prop where
  consistent : world.Consistent
  unique : world.db.stored.Nodup
  referenced :
    ∀ payment ∈ world.db.payments, world.db.HasOrder payment.orderId
  refunds :
    ∀ task ∈ world.tasks, ∀ orderId, task.refundOrder = some orderId →
      world.db.HasOrder orderId
  fits : ∀ order ∈ world.db.orders, fitsInteger order.totalAmount = true

theorem insertPayment_nodup
    {orderId : Nat} {status : PayStatus} {amount : Int}
    {pgTid : Option String} {fees : Option FeeSnapshot} {db after : Db}
    (ok : insertPayment orderId status amount pgTid fees db = .ok after) :
    after.stored.Nodup := by
  obtain ⟨numbered, rfl⟩ := insertPayment_ok.mp ok
  exact numbered

/-- The payments after an insertion are of the orders they were of, and of its own. -/
theorem insertPayment_orderId
    {orderId : Nat} {status : PayStatus} {amount : Int}
    {pgTid : Option String} {fees : Option FeeSnapshot} {db after : Db}
    (ok : insertPayment orderId status amount pgTid fees db = .ok after)
    {payment : Payment} (member : payment ∈ after.payments) :
    payment.orderId = orderId ∨
      ∃ old ∈ db.payments, old.orderId = payment.orderId := by
  obtain ⟨-, rfl⟩ := insertPayment_ok.mp ok
  rcases List.mem_append.mp member with old | new
  · exact Or.inr ⟨payment, old, rfl⟩
  · rw [List.mem_singleton.mp new]
    exact Or.inl rfl

theorem failPendingPayments_orderId {orderId : Nat} {db : Db}
    {payment : Payment}
    (member : payment ∈ (failPendingPayments orderId db).payments) :
    ∃ old ∈ db.payments, old.orderId = payment.orderId := by
  obtain ⟨old, oldMember, ⟨-, rfl⟩ | ⟨-, rfl⟩⟩ := mem_updateWhere.mp member
  · exact ⟨old, oldMember, rfl⟩
  · exact ⟨_, oldMember, rfl⟩

namespace World.Recorded

variable {world next : World} {action : Action} {before after : Option Task}
variable {books : Books}

/-- Whoever asks for a refund has read the order. -/
theorem refunds_after
    (turn : Turn world action before after books) {orderId : Nat}
    (refunds : after.bind Task.refundOrder = some orderId) :
    before.bind Task.refundOrder = some orderId ∨ world.db.HasOrder orderId := by
  have quietTask : Quiet after → False := by
    intro quiet
    obtain ⟨task, member, concerned⟩ := Option.bind_eq_some_iff.mp refunds
    obtain ⟨asked, rfl⟩ := quiet task member
    cases concerned
  cases turn with
  | idle passing quiet => exact (quietTask quiet).elim
  | confirmed confirms source confirmed quiet => exact (quietTask quiet).elim
  | recorded recorded quiet => exact (quietTask quiet).elim
  | unrecorded failed quiet => exact (quietTask quiet).elim
  | closed closed quiet => exact (quietTask quiet).elim
  | expired confirms pending =>
      cases refunds
      obtain ⟨row, member, rowId, -⟩ := pending
      exact Or.inr ⟨row, member, rowId⟩
  | compensating => exact Or.inl refunds
  | refundExecuted => exact Or.inl refunds
  | refundAnswered => exact Or.inl refunds
  | cancelStarted prepared =>
      obtain ⟨order, member, payment, -, -, -, -, orderEq, -⟩ :=
        prepareCancel_ok prepared
      cases refunds
      exact Or.inr ⟨order, member, congrArg Order.id orderEq.symm⟩
  | cancelExecuted => exact Or.inl refunds
  | cancelAnswered =>
      left
      rw [← refunds]
      split <;> rfl
  | _ => cases refunds

/-- The numbers of the payments stay different. -/
theorem unique_after (recorded : world.Recorded)
    (turn : Turn world action before after books) :
    books.db.stored.Nodup := by
  have unique := recorded.unique
  cases turn with
  | acquired ok =>
      obtain ⟨-, rfl⟩ := acquireSeats_ok recorded.consistent.sound.rowUnique ok
      exact unique
  | opened opened => exact opened.numbered
  | confirmed confirms source confirmed quiet => exact confirmed.numbered
  | recorded ok =>
      obtain ⟨middle, inserted, -⟩ := recordRefund_ok ok
      dsimp only
      rw [recordRefund_stored ok, ← insertPayment_stored inserted]
      exact insertPayment_nodup inserted
  | closed ok =>
      dsimp only
      rw [closeUnpaid_stored ok]
      exact unique
  | cancelFailed ok => exact insertPayment_nodup ok
  | cancelClosed ok =>
      rcases closeCanceled_ok ok with ⟨rfl, -⟩ | ⟨-, refunded, inserted, rfl⟩
      · exact unique
      · have numbered := insertPayment_nodup inserted
        exact numbered
  | _ => exact unique

/-- Every payment is of an order that has been read. -/
theorem referenced_after (recorded : world.Recorded)
    (known : ∀ task ∈ before, task ∈ world.tasks)
    (turn : Turn world action before after books) :
    ∀ payment ∈ books.db.payments, books.db.HasOrder payment.orderId := by
  have grows := turn.grows recorded.consistent
  have old :
      ∀ {orderId : Nat},
        (∃ payment ∈ world.db.payments, payment.orderId = orderId) →
          books.db.HasOrder orderId := by
    rintro _ ⟨payment, member, rfl⟩
    exact grows.hasOrder (recorded.referenced payment member)
  have own :
      ∀ {task : Task} {orderId : Nat}, before = some task →
        task.refundOrder = some orderId → books.db.HasOrder orderId := by
    intro task orderId isBefore concerned
    exact
      grows.hasOrder (recorded.refunds task (known task isBefore) orderId concerned)
  intro payment member
  cases turn with
  | acquired ok =>
      obtain ⟨-, rfl⟩ := acquireSeats_ok recorded.consistent.sound.rowUnique ok
      exact old ⟨payment, member, rfl⟩
  | opened opened =>
      have listed := member
      dsimp only at listed
      rw [opened.after_eq] at listed
      rcases List.mem_append.mp listed with earlier | new
      · exact old ⟨payment, earlier, rfl⟩
      · rw [List.mem_singleton.mp new]
        refine ⟨_, ?_, rfl⟩
        dsimp only
        rw [opened.after_eq]
        exact List.mem_append_right _ (List.mem_singleton_self _)
  | confirmed confirms source confirmed quiet =>
      rename_i order pgTid db
      rcases confirmed.promoted with ⟨-, equal⟩ | ⟨-, equal⟩
      · dsimp only at member
        rw [equal] at member
        obtain ⟨earlier, earlierMember, ⟨-, rfl⟩ | ⟨-, rfl⟩⟩ :=
          mem_updateWhere.mp member
        · exact old ⟨earlier, earlierMember, rfl⟩
        · exact old ⟨payment, earlierMember, rfl⟩
      · dsimp only at member
        rw [equal] at member
        rcases List.mem_append.mp member with earlier | new
        · exact old ⟨payment, earlier, rfl⟩
        · rw [List.mem_singleton.mp new]
          exact grows.hasOrder ⟨order, confirmed.member, rfl⟩
  | recorded ok =>
      obtain ⟨middle, inserted, equal⟩ := recordRefund_ok ok
      have listed :
          ∃ row ∈ middle.payments, row.orderId = payment.orderId := by
        dsimp only at member
        rw [equal] at member
        split at member <;> exact failPendingPayments_orderId member
      obtain ⟨row, rowMember, same⟩ := listed
      rcases insertPayment_orderId inserted rowMember with mine | earlier
      · rw [← same, mine]
        exact own rfl rfl
      · rw [← same]
        exact old earlier
  | closed ok =>
      rcases closeUnpaid_ok ok with rfl | ⟨owner, -, -, -, rfl⟩
      · exact old ⟨payment, member, rfl⟩
      · exact old (failPendingPayments_orderId member)
  | cancelFailed ok =>
      rcases insertPayment_orderId ok member with mine | earlier
      · rw [mine]
        exact own rfl rfl
      · exact old earlier
  | cancelClosed ok =>
      rcases closeCanceled_ok ok with ⟨rfl, -⟩ | ⟨-, refunded, inserted, rfl⟩
      · exact old ⟨payment, member, rfl⟩
      · rcases insertPayment_orderId inserted member with mine | earlier
        · rw [mine]
          exact own rfl rfl
        · exact old earlier
  | _ => exact old ⟨payment, member, rfl⟩

/-- A sum in the column fits the column. -/
theorem fits_after (recorded : world.Recorded)
    (turn : Turn world action before after books) :
    ∀ order ∈ books.db.orders, fitsInteger order.totalAmount = true := by
  intro order member
  rcases turn.heads recorded.consistent with same | ⟨request, new, opened⟩
  · have listed : order.head ∈ world.db.orders.map Order.head := by
      rw [← same]
      exact List.mem_map_of_mem member
    obtain ⟨earlier, earlierMember, equal⟩ := List.mem_map.mp listed
    have total : order.totalAmount = earlier.totalAmount := by
      show order.head.totalAmount = earlier.head.totalAmount
      rw [equal]
    rw [total]
    exact recorded.fits earlier earlierMember
  · rw [opened.after_eq] at member
    rcases List.mem_append.mp member with earlier | added
    · exact recorded.fits order earlier
    · rw [List.mem_singleton.mp added]
      exact opened.fits

theorem step (recorded : world.Recorded)
    (taken : world.step action = some next) :
    next.Recorded := by
  obtain ⟨after, exchange, turn⟩ := step_turn taken
  generalize current : world.taskOf action = before at turn exchange
  have known := exchange.mem_before
  have grows : world.toBooks.Grows next.toBooks := turn.grows recorded.consistent
  refine
    { consistent := recorded.consistent.step taken
      unique := recorded.unique_after turn
      referenced := recorded.referenced_after known turn
      refunds := ?_
      fits := recorded.fits_after turn }
  intro task member orderId concerned
  rcases exchange.mem member with old | new
  · exact grows.hasOrder (recorded.refunds task old orderId concerned)
  · have asked : after.bind Task.refundOrder = some orderId := by
      rw [new]
      exact concerned
    rcases refunds_after turn asked with earlier | read
    · obtain ⟨busy, inBefore, same⟩ := Option.bind_eq_some_iff.mp earlier
      exact
        grows.hasOrder (recorded.refunds busy (known busy inBefore) orderId same)
    · exact grows.hasOrder read

theorem initial
    (inventory : Inventory) (startsAt : Nat → Policy.Datetime) (clock : Time) :
    (World.initial inventory startsAt clock).Recorded where
  consistent := initial_consistent inventory startsAt clock
  unique := by simp [World.initial, Db.stored]
  referenced := by simp [World.initial]
  refunds := by simp [World.initial, tasks]
  fits := by simp [World.initial]

end World.Recorded

/-! ## What a run keeps -/

/-- A later world of the same run. -/
structure World.Continues (earlier world : World) : Prop where
  consistent : world.Consistent
  grows : earlier.toBooks.Grows world.toBooks
  orderItems : earlier.db.orderItems <+: world.db.orderItems
  stock : world.db.stock = earlier.db.stock

namespace World.Continues

variable {earlier world next : World} {action : Action}

theorem refl (consistent : world.Consistent) : world.Continues world where
  consistent := consistent
  grows := .refl _
  orderItems := List.prefix_rfl
  stock := rfl

theorem step (continues : earlier.Continues world)
    (taken : world.step action = some next) :
    earlier.Continues next := by
  obtain ⟨after, -, turn⟩ := step_turn taken
  have grows := turn.grows continues.consistent
  have items := turn.orderItems continues.consistent
  have stock := turn.stock
  exact
    { consistent := continues.consistent.step taken
      grows :=
        { approvals := continues.grows.approvals.trans grows.approvals
          refunds := continues.grows.refunds.trans grows.refunds
          orders := continues.grows.orders.trans grows.orders }
      orderItems := continues.orderItems.trans items
      stock := stock.trans continues.stock }

theorem of_reachable (consistent : earlier.Consistent)
    (later : TransitionSystem.Reachable World.step earlier world) :
    earlier.Continues world :=
  later.invariant (.refl consistent)
    fun _ _ _ continues _ taken => continues.step taken

/-- An order stays, with everything but its state. -/
theorem order (continues : earlier.Continues world) {old : Order}
    (member : old ∈ earlier.db.orders) :
    ∃ order ∈ world.db.orders, order.head = old.head :=
  List.mem_map.mp
    (continues.grows.orders.subset (List.mem_map_of_mem member))

end World.Continues

end Curtain
