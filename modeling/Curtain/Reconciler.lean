import Curtain.Lib.Rounds
import Curtain.Silence

/-!
# The queue of the reconciler

Every call of `reconcile` scans the pending orders anew, from the oldest on,
and asks the gateway about them in this order.  An order that it cannot settle
stays where it was, at the head of the queue, and takes a place of every later
scan.
-/

namespace Curtain

open Queries Table HoldService OrderService

/-! ## The queue -/

/-- All pending orders older than the limit, oldest first. -/
def Db.unresolved (olderThanSec : Int) (now : Time) (db : Db) : List Nat :=
  unresolvedOrders olderThanSec db.orders.length now db

/-- A scan reads the head of the queue. -/
theorem unresolvedOrders_eq_take
    (olderThanSec : Int) (batch : Nat) (now : Time) (db : Db) :
    unresolvedOrders olderThanSec batch now db =
      (db.unresolved olderThanSec now).take batch := by
  rw [Db.unresolved, unresolvedOrders, unresolvedOrders, List.map_take,
    List.map_take]
  congr 1
  rw [List.take_of_length_le]
  rw [List.length_map, List.length_insertionSort]
  exact List.length_filter_le _ _

instance : Std.Total fun left right : Order => left.createdAt ≤ right.createdAt :=
  ⟨fun left right => le_total left.createdAt right.createdAt⟩

instance :
    IsTrans Order fun left right => left.createdAt ≤ right.createdAt :=
  ⟨fun _ _ _ => le_trans⟩

/-- The heads of the orders, oldest first. -/
def Db.byAge (db : Db) : List Order :=
  (db.orders.map Order.head).insertionSort
    fun left right => left.createdAt ≤ right.createdAt

/-- The order is pending. -/
def Db.isPending (db : Db) (orderId : Nat) : Bool :=
  (db.orders.filter (·.id == orderId)).any (·.status == .pending)

section Queue

variable {db after : Db} {now later : Time} {olderThanSec : Int}

theorem Db.isPending_iff {orderId : Nat} :
    db.isPending orderId = true ↔
      ∃ order ∈ db.orders, order.id = orderId ∧ order.status = .pending := by
  simp [Db.isPending]

theorem Db.isPending_eq (sound : db.Sound) {order : Order}
    (member : order ∈ db.orders) :
    db.isPending order.id = (order.status == .pending) := by
  rw [Bool.eq_iff_iff, Db.isPending_iff, beq_iff_eq]
  constructor
  · rintro ⟨other, otherMember, equal, pending⟩
    rwa [sound.order_eq otherMember member equal] at pending
  · exact fun pending => ⟨order, member, rfl, pending⟩

theorem Db.unresolved_eq (sound : db.Sound) :
    db.unresolved olderThanSec now =
      (db.byAge.filter fun head =>
        db.isPending head.id &&
          decide (head.createdAt < now - seconds olderThanSec)).map (·.id) := by
  have selected :
      (db.orders.filter fun order =>
          order.status == .pending &&
            decide (order.createdAt < now - seconds olderThanSec)) =
        db.orders.filter fun order =>
          db.isPending order.head.id &&
            decide (order.head.createdAt < now - seconds olderThanSec) := by
    apply List.filter_congr
    intro order member
    have known : db.isPending order.head.id = (order.status == .pending) :=
      Db.isPending_eq sound member
    rw [known]
    rfl
  rw [Db.byAge, filter_insertionSort, List.filter_map, ← List.map_insertionSort
    (fun left right : Order => left.createdAt ≤ right.createdAt) _ Order.head _
    (fun _ _ _ _ => Iff.rfl), List.map_map]
  rw [Db.unresolved, unresolvedOrders, selected, List.take_of_length_le]
  · rfl
  · rw [List.length_insertionSort]
    exact List.length_filter_le _ _

theorem Db.byAge_pairwise (db : Db) :
    db.byAge.Pairwise fun left right => left.createdAt ≤ right.createdAt :=
  List.pairwise_insertionSort _ _

/-- The queue is a part of the later one, as far as its orders are still pending. -/
theorem Db.filter_unresolved_prefix (sound : db.Sound) (afterSound : after.Sound)
    (heads : after.orders.map Order.head = db.orders.map Order.head)
    (passes : now ≤ later)
    (closed :
      ∀ orderId, after.isPending orderId = true → db.isPending orderId = true) :
    (db.unresolved olderThanSec now).filter after.isPending <+:
      after.unresolved olderThanSec later := by
  have sameAge : after.byAge = db.byAge := by rw [Db.byAge, Db.byAge, heads]
  have narrower :
      (db.byAge.filter fun head =>
          db.isPending head.id &&
            decide (head.createdAt < now - seconds olderThanSec)).filter
          (fun head => after.isPending head.id) =
        (db.byAge.filter fun head =>
          after.isPending head.id &&
            decide (head.createdAt < later - seconds olderThanSec)).filter
          fun head => decide (head.createdAt < now - seconds olderThanSec) := by
    rw [List.filter_filter, List.filter_filter]
    apply List.filter_congr
    intro head _
    cases pending : after.isPending head.id with
    | false => simp
    | true =>
        rw [closed head.id pending]
        have widens :
            head.createdAt < now - seconds olderThanSec →
              head.createdAt < later - seconds olderThanSec :=
          fun old => lt_of_lt_of_le old (Int.sub_le_sub_right passes _)
        by_cases old : head.createdAt < now - seconds olderThanSec
        · simp [old, widens old]
        · simp [old]
  have early :
      ((db.byAge.filter fun head =>
          after.isPending head.id &&
            decide (head.createdAt < later - seconds olderThanSec)).filter
          fun head => decide (head.createdAt < now - seconds olderThanSec)) <+:
        db.byAge.filter fun head =>
          after.isPending head.id &&
            decide (head.createdAt < later - seconds olderThanSec) := by
    apply filter_prefix
    refine (db.byAge_pairwise.sublist List.filter_sublist).imp ?_
    intro first second ordered late
    rw [decide_eq_true_eq] at late ⊢
    exact lt_of_le_of_lt ordered late
  rw [← narrower] at early
  rw [Db.unresolved_eq sound, Db.unresolved_eq afterSound, sameAge,
    List.filter_map]
  exact early.map _

theorem Db.unresolved_nodup (sound : db.Sound) :
    (db.unresolved olderThanSec now).Nodup :=
  unresolvedOrders_nodup sound.orderIdUnique

theorem Db.isPending_of_unresolved (sound : db.Sound) {orderId : Nat}
    (listed : orderId ∈ db.unresolved olderThanSec now) :
    db.isPending orderId = true := by
  rw [Db.unresolved_eq sound] at listed
  obtain ⟨head, member, rfl⟩ := List.mem_map.mp listed
  exact (Bool.and_eq_true_iff.mp (List.mem_filter.mp member).2).1

/-- Orders that become old enough while time passes join at the end. -/
theorem Db.unresolved_joined {world waited : World} {elapsed : Nat}
    (sound : world.db.Sound)
    (waits : world.step (.tick elapsed) = some waited) :
    world.db.unresolved olderThanSec world.clock <+:
      waited.db.unresolved olderThanSec waited.clock := by
  cases waits
  have joins :=
    @Db.filter_unresolved_prefix world.db world.db world.clock
      (world.clock + elapsed) olderThanSec sound sound rfl
      (Int.le_add_of_nonneg_right (Int.natCast_nonneg elapsed))
      fun _ pending => pending
  rwa [List.filter_eq_self.mpr fun orderId =>
    Db.isPending_of_unresolved sound] at joins

/-- The orders behind those that were asked about are still pending. -/
theorem Db.filter_isPending_rest {asked rest : List Nat}
    (distinct : (asked ++ rest).Nodup)
    (others :
      ∀ orderId, orderId ∉ asked →
        after.isPending orderId = db.isPending orderId)
    (pending : ∀ orderId ∈ asked ++ rest, db.isPending orderId = true) :
    rest.filter after.isPending = rest := by
  rw [List.filter_eq_self]
  intro orderId member
  have unasked : orderId ∉ asked := fun inAsked =>
    List.disjoint_of_nodup_append distinct inAsked member
  rw [others orderId unasked]
  exact pending orderId (List.mem_append_right _ member)

/-- Of the orders that were asked about some stay, and the others move up. -/
theorem Db.unresolved_served (sound : db.Sound) (afterSound : after.Sound)
    (heads : after.orders.map Order.head = db.orders.map Order.head)
    (passes : now ≤ later)
    (closed :
      ∀ orderId, after.isPending orderId = true → db.isPending orderId = true)
    {asked : List Nat} (first : asked <+: db.unresolved olderThanSec now)
    (others :
      ∀ orderId, orderId ∉ asked →
        after.isPending orderId = db.isPending orderId) :
    ∃ kept : List Nat, kept.Sublist asked ∧
      kept ++ (db.unresolved olderThanSec now).drop asked.length <+:
        after.unresolved olderThanSec later := by
  have moves :=
    @Db.filter_unresolved_prefix _ _ _ _ olderThanSec sound afterSound heads
      passes closed
  obtain ⟨rest, split⟩ := first
  have distinct : (asked ++ rest).Nodup := by
    rw [split]
    exact Db.unresolved_nodup sound
  have stay : rest.filter after.isPending = rest := by
    refine Db.filter_isPending_rest distinct others fun orderId listed => ?_
    rw [split] at listed
    exact Db.isPending_of_unresolved sound listed
  refine ⟨asked.filter after.isPending, List.filter_sublist, ?_⟩
  rw [← split, List.drop_left]
  rw [← split, List.filter_append, stay] at moves
  exact moves

end Queue

/-! ## One call -/

/-- The orders about which the gateway has been asked, in this order. -/
def World.inquired (world : World) : List Nat :=
  (world.log.filter Event.isAnswer).filterMap fun event =>
    match event with
    | .inquireAnswered orderId _ => some orderId
    | _ => none

/-- The order whose inquiry an action answers. -/
def inquiredBy (action : Action) (before : Option Task) : List Nat :=
  match action, before with
  | .answer _ _, some (.inquiring orderId) => [orderId]
  | _, _ => []

theorem step_inquired {world next : World} {action : Action}
    (taken : world.step action = some next) :
    next.inquired = world.inquired ++ inquiredBy action (world.taskOf action) := by
  rw [World.inquired, step_answers taken, List.filterMap_append]
  congr 1
  cases action with
  | answer index attempt =>
      cases world.taskOf (.answer index attempt) with
      | none => rfl
      | some task =>
          rcases task with _ | _ | ⟨_ | _ | _ | _ | _⟩ | ⟨_, _ | _ | _⟩ <;> rfl
  | _ => rfl

/-- The actions with which a call of the reconciler goes on. -/
def Action.goesOn : Action → Bool
  | .tick _ => true
  | .advance _ => true
  | .execute _ _ => true
  | .answer _ _ => true
  | _ => false

/-- The call has asked about some of its candidates, and goes through the others. -/
def Call.Has (scan asked : List Nat) : Call → Prop
  | .reconciling rest _ (.inquiring orderId) => asked ++ orderId :: rest = scan
  | .reconciling rest _ (.settling stage) =>
      stage.orderId ∈ asked ∧ asked ++ rest = scan
  | _ => False

section Steps

variable {db : Db} {now : Time} {scan asked rest confirmed : List Nat}
variable {later : Call} {progress : Progress}

theorem nextCandidate_has {events : List Event}
    (through : asked ++ rest = scan)
    (goesOn : (nextCandidate db events confirmed rest).next = some later) :
    later.Has scan asked := by
  cases rest with
  | nil => cases goesOn
  | cons orderId rest =>
      cases goesOn
      exact through

theorem advance_has {stage : Settling}
    (has : (Call.reconciling rest confirmed (.settling stage)).Has scan asked)
    (advances :
      advance now db (.reconciling rest confirmed (.settling stage)) =
        some progress)
    (goesOn : progress.next = some later) :
    later.Has scan asked := by
  simp only [advance, advanceReconcile, Option.map_eq_some_iff] at advances
  obtain ⟨⟨after, events, settled⟩, settles, rfl⟩ := advances
  cases settled with
  | settling next =>
      cases goesOn
      have same := (settle_order settles).1 next rfl
      exact ⟨by rw [same]; exact has.1, has.2⟩
  | confirmed | closed | compensated => exact nextCandidate_has has.2 goesOn
  | raised => cases goesOn

theorem receive_has {stage : ReconcileStage} {attempt : PayAttempt} {index : Nat}
    (has : (Call.reconciling rest confirmed stage).Has scan asked)
    (receives :
      receive db attempt (.reconciling rest confirmed stage) = some progress)
    (goesOn : progress.next = some later) :
    later.Has scan
      (asked ++
        inquiredBy (.answer index attempt)
          (Call.reconciling rest confirmed stage).task?) := by
  have through :
      ∀ orderId, stage = .inquiring orderId →
        (asked ++ [orderId]) ++ rest = scan := by
    rintro orderId rfl
    rw [List.append_assoc]
    exact has
  cases receives_of_receive receives with
  | reconcileRefunded =>
      cases goesOn
      show Call.Has scan (asked ++ []) _
      rw [List.append_nil]
      exact has
  | inquiryUnknown => exact nextCandidate_has (through _ rfl) goesOn
  | inquiryBroken => cases goesOn
  | inquiryApproved | inquiryDeclined =>
      cases goesOn
      exact ⟨List.mem_append_right _ (List.mem_singleton_self _), through _ rfl⟩

theorem refund_has {call : Call} {pgTid number : String} {amount : Int}
    {executed : String → Call}
    (has : call.Has scan asked)
    (inFlight : call.refund? = some (pgTid, amount, executed)) :
    (executed number).Has scan asked := by
  cases refunds_of_refund inFlight with
  | placing | canceling => cases has
  | reconciling => exact has

end Steps

/-- A step of a call writes no order but its own, and makes none pending. -/
theorem Turn.keeps_orders
    {world : World} {action : Action} {task : Task} {after : Option Task}
    {books : Books}
    (consistent : world.Consistent)
    (known : ∀ busy ∈ some task, busy ∈ world.tasks)
    (turn : Turn world action (some task) after books) :
    books.db.orders.map Order.head = world.db.orders.map Order.head ∧
      (∀ orderId, orderId ≠ task.orderId →
        books.db.isPending orderId = world.db.isPending orderId) ∧
        ∀ orderId, books.db.isPending orderId = true →
          world.db.isPending orderId = true := by
  have sound := consistent.sound
  have becomes :
      ∀ order ∈ books.db.orders, ∃ old ∈ world.db.orders,
        old.Becomes world action (some task) order := by
    intro order member
    rcases turn.order_becomes consistent known order member with
      changed | ⟨idle, -⟩
    · exact changed
    · cases idle
  refine ⟨?_, ?_, ?_⟩
  · rcases turn.heads consistent with same | ⟨request, order, opened⟩
    · exact same
    · obtain ⟨old, oldMember, made⟩ := becomes order opened.mem_orders
      have older := opened.older sound.orderIdBound oldMember
      exact absurd (Order.id_of_head made.head).symm older.ne
  · intro orderId apart
    rw [Db.isPending, (turn.keepsOrder consistent apart.symm).orders]
    rfl
  · intro orderId pending
    obtain ⟨order, member, rfl, status⟩ := Db.isPending_iff.mp pending
    obtain ⟨old, oldMember, made⟩ := becomes order member
    refine
      Db.isPending_iff.mpr ⟨old, oldMember, (Order.id_of_head made.head).symm, ?_⟩
    cases made with
    | same => exact status
    | paid | refunded | canceled => cases status
    | unpaid _ waits => exact waits

/--
A call has scanned some orders and has asked about the first of them.  It is
alone, and the orders it has not asked about are as they were.
-/
structure World.Serving (start : World) (scan asked : List Nat) (world : World) :
    Prop where
  consistent : world.Consistent
  inquired : world.inquired = start.inquired ++ asked
  alone :
    ∃ call : Option Call, world.calls = call.toList ∧
      ∀ busy ∈ call, busy.Has scan asked
  inOrder : asked <+: scan
  passes : start.clock ≤ world.clock
  heads : world.db.orders.map Order.head = start.db.orders.map Order.head
  others :
    ∀ orderId, orderId ∉ asked →
      world.db.isPending orderId = start.db.isPending orderId
  closed :
    ∀ orderId, world.db.isPending orderId = true →
      start.db.isPending orderId = true

namespace World.Serving

variable {start world next : World} {scan asked : List Nat} {action : Action}

/-- The call at a place is the only one, at the first place. -/
theorem call_at (serving : World.Serving start scan asked world)
    {index : Nat} {call : Call} (found : world.calls[index]? = some call) :
    index = 0 ∧ world.calls = [call] ∧ call.Has scan asked := by
  obtain ⟨only, calls, has⟩ := serving.alone
  cases only with
  | none =>
      rw [calls] at found
      cases found
  | some busy =>
      rw [calls] at found ⊢
      cases index with
      | zero =>
          cases found
          exact ⟨rfl, rfl, has _ rfl⟩
      | succ => cases found

/-- What the call does to the orders it has already asked about. -/
theorem advance (serving : World.Serving start scan asked world) {index : Nat}
    (taken : world.step (.advance index) = some next) :
    World.Serving start scan asked next := by
  have inquired := step_inquired taken
  have consistent := serving.consistent.step taken
  obtain ⟨call, found, callTaken⟩ := Option.bind_eq_some_iff.mp taken
  obtain ⟨progress, advances, final⟩ := Option.bind_eq_some_iff.mp callTaken
  obtain ⟨rfl, calls, has⟩ := serving.call_at found
  cases call with
  | acquiring | releasing | placing | canceling => cases has
  | reconciling rest confirmed stage =>
      cases stage with
      | inquiring => cases advances
      | settling stage =>
          obtain ⟨after, exchange, turn⟩ := step_turn taken
          have current : world.taskOf (.advance 0) = some (.settling stage) :=
            taskOf_call rfl found
          rw [current] at exchange turn
          obtain ⟨heads, others, closed⟩ :=
            turn.keeps_orders serving.consistent exchange.mem_before
          cases final
          refine
            { consistent
              inquired := ?_
              alone := ⟨progress.next, ?_, fun busy => advance_has has advances⟩
              inOrder := serving.inOrder
              passes := serving.passes
              heads := heads.trans serving.heads
              others := ?_
              closed := fun orderId pending =>
                serving.closed orderId (closed orderId pending) }
          · rw [inquired, serving.inquired]
            exact List.append_nil _
          · simp only [World.progress, calls]
            cases progress.next <;> rfl
          · intro orderId unasked
            refine (others orderId ?_).trans (serving.others orderId unasked)
            rintro rfl
            exact unasked has.1

/-- An answer arrives; it concerns one more order, or a refund. -/
theorem answer (serving : World.Serving start scan asked world)
    {index : Nat} {attempt : PayAttempt}
    (taken : world.step (.answer index attempt) = some next) :
    World.Serving start scan
      (asked ++
        inquiredBy (.answer index attempt) (world.taskOf (.answer index attempt)))
      next := by
  have inquired := step_inquired taken
  have consistent := serving.consistent.step taken
  obtain ⟨call, found, callTaken⟩ := Option.bind_eq_some_iff.mp taken
  obtain ⟨progress, receives, final⟩ := Option.bind_eq_some_iff.mp callTaken
  obtain ⟨rfl, calls, has⟩ := serving.call_at found
  have current : world.taskOf (.answer 0 attempt) = call.task? :=
    taskOf_call rfl found
  rw [current] at inquired ⊢
  cases final
  have same : (world.progress 0 progress).db = world.db := receive_db receives
  cases call with
  | acquiring | releasing | placing | canceling => cases has
  | reconciling rest confirmed stage =>
      refine
        { consistent
          inquired := ?_
          alone := ⟨progress.next, ?_, fun busy => receive_has has receives⟩
          inOrder := ?_
          passes := serving.passes
          heads := ?_
          others := ?_
          closed := ?_ }
      · rw [inquired, serving.inquired, List.append_assoc]
      · simp only [World.progress, calls]
        cases progress.next <;> rfl
      · cases stage with
        | inquiring orderId =>
            exact ⟨rest, by rw [← has]; exact List.append_assoc _ _ _⟩
        | settling stage =>
            show asked ++ [] <+: scan
            rw [List.append_nil]
            exact serving.inOrder
      · rw [same]
        exact serving.heads
      · intro orderId unasked
        rw [same]
        exact
          serving.others orderId fun inAsked =>
            unasked (List.mem_append_left _ inAsked)
      · rw [same]
        exact serving.closed

/-- The gateway executes a refund. -/
theorem execute (serving : World.Serving start scan asked world)
    {index : Nat} {number : String}
    (taken : world.step (.execute index number) = some next) :
    World.Serving start scan asked next := by
  have inquired := step_inquired taken
  have consistent := serving.consistent.step taken
  obtain ⟨call, found, callTaken⟩ := Option.bind_eq_some_iff.mp taken
  obtain ⟨rfl, calls, has⟩ := serving.call_at found
  cases executes_of_executeRequest callTaken with
  | approval => cases has
  | @refund _ _ _ executed _ inFlight =>
      refine
        { serving with
          consistent
          inquired := ?_
          alone := ⟨some (executed number), ?_, ?_⟩ }
      · rw [inquired, serving.inquired]
        exact List.append_nil _
      · simp only [calls]
        rfl
      · rintro busy ⟨⟩
        exact refund_has has inFlight

theorem tick (serving : World.Serving start scan asked world) {elapsed : Nat}
    (taken : world.step (.tick elapsed) = some next) :
    World.Serving start scan asked next := by
  have consistent := serving.consistent.step taken
  cases taken
  exact
    { serving with
      consistent
      passes :=
        le_trans serving.passes
          (Int.le_add_of_nonneg_right (Int.natCast_nonneg elapsed)) }

theorem step (serving : World.Serving start scan asked world)
    (goesOn : action.goesOn = true) (taken : world.step action = some next) :
    ∃ more, World.Serving start scan (asked ++ more) next := by
  cases action with
  | tick =>
      refine ⟨[], ?_⟩
      rw [List.append_nil]
      exact serving.tick taken
  | advance =>
      refine ⟨[], ?_⟩
      rw [List.append_nil]
      exact serving.advance taken
  | execute =>
      refine ⟨[], ?_⟩
      rw [List.append_nil]
      exact serving.execute taken
  | answer => exact ⟨_, serving.answer taken⟩
  | _ => cases goesOn

/-- The call starts with its scan. -/
theorem of_start {olderThanSec : Int} {batch : Nat}
    (consistent : start.Consistent) (quiet : start.calls = [])
    (taken : start.step (.startReconcile olderThanSec batch) = some world) :
    World.Serving start
      (unresolvedOrders olderThanSec batch start.clock start.db) [] world := by
  have inquired := step_inquired taken
  have later := consistent.step taken
  cases taken
  let scan := unresolvedOrders olderThanSec batch start.clock start.db
  refine
    { consistent := later
      inquired
      alone :=
        ⟨(nextCandidate start.db [] [] scan).next, ?_,
          fun busy => nextCandidate_has (List.nil_append scan)⟩
      inOrder := List.nil_prefix
      passes := le_rfl
      heads := rfl
      others := fun _ _ => rfl
      closed := fun _ pending => pending }
  rw [quiet]
  exact List.nil_append _

/-- However the gateway answers, a call asks about the first orders it has scanned. -/
theorem of_run {olderThanSec : Int} {batch : Nat} {started : World}
    (consistent : start.Consistent) (quiet : start.calls = [])
    (taken : start.step (.startReconcile olderThanSec batch) = some started)
    (run :
      TransitionSystem.RunWhere World.step
        (fun _ action => action.goesOn = true) started world) :
    ∃ asked,
      World.Serving start
        (unresolvedOrders olderThanSec batch start.clock start.db) asked world := by
  induction run with
  | refl => exact ⟨[], .of_start consistent quiet taken⟩
  | tail _ goesOn taken induction =>
      obtain ⟨asked, serving⟩ := induction
      obtain ⟨more, later⟩ := serving.step goesOn taken
      exact ⟨_, later⟩

end World.Serving

/-! ## Call after call -/

/--
Successive calls of `reconcile`, with nothing else in between: what each one
scans, and through how many of these orders it gets before it ends.
-/
inductive World.Reconciles (olderThanSec : Int) (batch : Nat) :
    World → List (Rounds.Round Nat) → World → Prop where
  | nil (world : World) : Reconciles olderThanSec batch world [] world
  | cons {world waited started ended later : World} {elapsed through : Nat}
      {rounds : List (Rounds.Round Nat)}
      (waits : world.step (.tick elapsed) = some waited)
      (starts : waited.step (.startReconcile olderThanSec batch) = some started)
      (goesOn :
        TransitionSystem.RunWhere World.step
          (fun _ action => action.goesOn = true) started ended)
      (ends : ended.calls = [])
      (asks : ended.inquired.length = world.inquired.length + through)
      (rest : Reconciles olderThanSec batch ended rounds later) :
      Reconciles olderThanSec batch world
        ({ seen := unresolvedOrders olderThanSec batch waited.clock waited.db
           through } :: rounds)
        later

namespace World.Reconciles

variable {world later : World} {rounds : List (Rounds.Round Nat)}
variable {olderThanSec : Int} {batch : Nat}

/-- A call of the reconciler is a round over its queue. -/
theorem serves {waited started ended : World} {elapsed through : Nat}
    {round : Rounds.Round Nat}
    (consistent : world.Consistent) (quiet : world.calls = [])
    (waits : world.step (.tick elapsed) = some waited)
    (starts : waited.step (.startReconcile olderThanSec batch) = some started)
    (goesOn :
      TransitionSystem.RunWhere World.step
        (fun _ action => action.goesOn = true) started ended)
    (asks : ended.inquired.length = world.inquired.length + through)
    (call :
      round =
        { seen := unresolvedOrders olderThanSec batch waited.clock waited.db
          through }) :
    ended.Consistent ∧ ended.inquired = world.inquired ++ round.served ∧
      Rounds.Serves batch (world.db.unresolved olderThanSec world.clock) round
        (ended.db.unresolved olderThanSec ended.clock) := by
  have waitedConsistent := consistent.step waits
  have waitedQuiet : waited.calls = [] := by
    cases waits
    exact quiet
  have unasked : waited.inquired = world.inquired := by
    rw [step_inquired waits]
    exact List.append_nil _
  obtain ⟨asked, serving⟩ :=
    World.Serving.of_run waitedConsistent waitedQuiet starts goesOn
  have inquired := serving.inquired
  rw [unasked] at inquired
  have counted : asked.length = through := by
    have lengths := congrArg List.length inquired
    rw [asks, List.length_append] at lengths
    omega
  have served : round.served = asked := by
    rw [List.prefix_iff_eq_take.mp serving.inOrder, counted, call]
    rfl
  have first :
      asked <+: (waited.db.unresolved olderThanSec waited.clock).take batch := by
    rw [← unresolvedOrders_eq_take]
    exact serving.inOrder
  obtain ⟨kept, stays, moves⟩ :=
    @Db.unresolved_served waited.db ended.db waited.clock ended.clock olderThanSec
      waitedConsistent.sound serving.consistent.sound serving.heads
      serving.passes serving.closed asked (first.trans (List.take_prefix _ _))
      serving.others
  refine ⟨serving.consistent, by rw [served, inquired], ?_⟩
  have looks :
      round.seen = (waited.db.unresolved olderThanSec waited.clock).take batch := by
    rw [call, unresolvedOrders_eq_take]
  rw [← served] at stays moves
  exact
    .serve (Db.unresolved_joined consistent.sound waits) looks stays moves

end World.Reconciles

/-- The orders asked about between two worlds of a run. -/
def World.inquiredSince (later world : World) : List Nat :=
  later.inquired.drop world.inquired.length

end Curtain
