import Curtain.Records

/-!
# The answers a call acts on

An order is settled on an answer of the gateway about this order.  The log
keeps every answer, and what a call is about to do follows from one that is
in the log.
-/

namespace Curtain

open Queries Table HoldService OrderService

/-! ## Answers in the log -/

/-- The event is an answer of the gateway. -/
def Event.isAnswer : Event → Bool
  | .approveAnswered _ _ => true
  | .inquireAnswered _ _ => true
  | .refundAnswered _ _ _ => true
  | _ => false

/-- The event with which an answer arrives at a task. -/
def Task.hears (attempt : PayAttempt) : Task → Option Event
  | .approving orderId _ => some (.approveAnswered orderId attempt)
  | .inquiring orderId => some (.inquireAnswered orderId attempt)
  | .settling (.refunding order _ total _ _) =>
      some (.refundAnswered order.id total attempt)
  | .canceling cancellation (.refunding _) =>
      some
        (.refundAnswered cancellation.order.id cancellation.refundAmount attempt)
  | _ => none

/-- The answer that an action brings to the task of its call. -/
def heardBy (action : Action) (before : Option Task) : List Event :=
  match action with
  | .answer _ attempt => (before.bind (Task.hears attempt)).toList
  | _ => []

section Steps

variable {world next : World} {now : Time} {db : Db}

theorem settle_unanswered
    {stage : Settling} {after : Db} {events : List Event} {settled : Settled}
    (settles : settle now db stage = some (after, events, settled)) :
    events.filter Event.isAnswer = [] := by
  cases stage with
  | refunding => cases settles
  | confirming =>
      simp only [settle] at settles
      split at settles
      · cases settles
        rfl
      · split at settles <;> cases settles <;> rfl
  | closing | compensating | recording =>
      simp only [settle] at settles
      split at settles <;> cases settles <;> rfl

theorem nextCandidate_answers
    (events : List Event) (confirmed rest : List Nat) :
    (nextCandidate db events confirmed rest).events.filter Event.isAnswer =
      events.filter Event.isAnswer := by
  cases rest with
  | cons => rfl
  | nil =>
      rw [nextCandidate, List.filter_append]
      exact List.append_nil _

/-- A transaction brings no answer. -/
theorem advance_unanswered
    {call : Call} {progress : Progress}
    (advances : advance now db call = some progress) :
    progress.events.filter Event.isAnswer = [] := by
  cases call with
  | releasing => cases advances
  | acquiring request stage =>
      cases stage with
      | gating | ungating => cases advances
      | holding gated =>
          simp only [advance, advanceAcquire] at advances
          split at advances
          · cases advances
            rfl
          · split at advances <;> cases advances <;> rfl
  | placing request stage =>
      cases stage with
      | approving => cases advances
      | opening | lookingUp =>
          simp only [advance, advancePlace] at advances
          split at advances <;> cases advances <;> rfl
      | settling stage =>
          simp only [advance, advancePlace, Option.map_eq_some_iff] at advances
          obtain ⟨⟨after, events, settled⟩, settles, rfl⟩ := advances
          have unanswered := settle_unanswered settles
          cases settled with
          | settling | confirmed => exact unanswered
          | closed | compensated | raised => rfl
      | polling =>
          simp only [advance, advancePlace] at advances
          split at advances
          · cases advances
            rfl
          · cases advances
            rfl
          · split at advances <;> cases advances <;> rfl
  | reconciling rest confirmed stage =>
      cases stage with
      | inquiring => cases advances
      | settling stage =>
          simp only [advance, advanceReconcile, Option.map_eq_some_iff]
            at advances
          obtain ⟨⟨after, events, settled⟩, settles, rfl⟩ := advances
          have unanswered := settle_unanswered settles
          cases settled with
          | settling => exact unanswered
          | confirmed | closed | compensated =>
              exact (nextCandidate_answers _ _ _).trans unanswered
          | raised =>
              dsimp only
              rw [List.filter_append, unanswered]
              rfl
  | canceling cancellation stage =>
      cases stage with
      | refunding => cases advances
      | failing | closing =>
          simp only [advance, advanceCancel] at advances
          split at advances <;> cases advances <;> rfl

/-- An answer is logged when it arrives. -/
theorem receive_answered
    {call : Call} {attempt : PayAttempt} {progress : Progress}
    (receives : receive db attempt call = some progress) :
    progress.events.filter Event.isAnswer =
      (call.task?.bind (Task.hears attempt)).toList := by
  cases receives_of_receive receives with
  | inquiryUnknown => exact nextCandidate_answers _ _ _
  | _ => rfl

/-- An answer changes no table. -/
theorem receive_db
    {call : Call} {attempt : PayAttempt} {progress : Progress}
    (receives : receive db attempt call = some progress) :
    progress.db = db := by
  cases receives_of_receive receives with
  | inquiryUnknown => exact nextCandidate_db _ _ _ _
  | _ => rfl

theorem gateTrip_unanswered
    {gate : KeyStore.Store Gate.Key Gate.Token} {io : GateIo} {call : Call}
    {trip : GateProgress}
    (made : gateTrip now gate io call = some trip) :
    trip.events.filter Event.isAnswer = [] := by
  cases travels_of_gateTrip made <;> rfl

/-- The answers in the log after a step: the one that the step brings is added. -/
theorem step_answers {action : Action}
    (taken : world.step action = some next) :
    next.log.filter Event.isAnswer =
      world.log.filter Event.isAnswer ++
        heardBy action (world.taskOf action) := by
  have noted {event : Event} (aside : event.isAnswer = false) :
      (world.log ++ [event]).filter Event.isAnswer =
        world.log.filter Event.isAnswer ++ [] := by
    rw [List.filter_append, List.filter_singleton, aside]
    rfl
  cases action with
  | tick | flushall =>
      cases taken
      exact (List.append_nil _).symm
  | sweep =>
      cases taken
      exact noted rfl
  | startAcquire | startPlace =>
      simp only [World.step] at taken
      split at taken <;> cases taken
      · exact noted rfl
      · exact (List.append_nil _).symm
  | startRelease =>
      simp only [World.step] at taken
      split at taken <;> cases taken
      · exact noted rfl
      · exact (List.append_nil _).symm
  | startReconcile =>
      cases taken
      dsimp only
      rw [List.filter_append, nextCandidate_answers]
      rfl
  | startCancel =>
      simp only [World.step] at taken
      split at taken <;> cases taken <;> exact noted rfl
  | webhook =>
      simp only [World.step] at taken
      split at taken <;> cases taken <;> exact noted rfl
  | execute index number =>
      obtain ⟨call, -, executes⟩ := Option.bind_eq_some_iff.mp taken
      have same : next.log = world.log := by
        cases executes_of_executeRequest executes <;> rfl
      rw [same]
      exact (List.append_nil _).symm
  | advance index =>
      obtain ⟨call, -, callTaken⟩ := Option.bind_eq_some_iff.mp taken
      obtain ⟨progress, advances, final⟩ := Option.bind_eq_some_iff.mp callTaken
      cases final
      exact
        (List.filter_append _ _).trans
          (congrArg _ (advance_unanswered advances))
  | answer index attempt =>
      obtain ⟨call, found, callTaken⟩ := Option.bind_eq_some_iff.mp taken
      obtain ⟨progress, receives, final⟩ := Option.bind_eq_some_iff.mp callTaken
      cases final
      have current : world.taskOf (.answer index attempt) = call.task? := by
        simp [World.taskOf, found]
      rw [current]
      exact
        (List.filter_append _ _).trans
          (congrArg _ (receive_answered receives))
  | gate index io =>
      obtain ⟨call, -, callTaken⟩ := Option.bind_eq_some_iff.mp taken
      obtain ⟨trip, travels, final⟩ := Option.bind_eq_some_iff.mp callTaken
      cases final
      exact
        (List.filter_append _ _).trans
          (congrArg _ (gateTrip_unanswered travels))

end Steps

/-! ## What a task has heard -/

namespace World

/-- The gateway gave this answer about the approval of the order. -/
def Answered (world : World) (orderId : Nat) (result : PayResult) : Prop :=
  ∃ attempt : PayAttempt, attempt.result = result ∧
    (.approveAnswered orderId attempt ∈ world.log ∨
      .inquireAnswered orderId attempt ∈ world.log)

/-- The order of the task is, apart from its state, a row of the table. -/
def Knows (world : World) (order : Order) : Prop :=
  ∃ row ∈ world.db.orders, row.head = order.head

/-- What a task is about to do follows from an answer in the log. -/
def Heard (world : World) : Task → Prop
  | .settling (.confirming orderId _ _) => world.Answered orderId .approved
  | .settling (.closing orderId _) => world.Answered orderId .declined
  | .settling (.refunding order _ _ _ _) => world.Knows order
  | .settling (.recording order total _ attempt) =>
      world.Knows order ∧ .refundAnswered order.id total attempt ∈ world.log
  | .canceling cancellation (.closing attempt) =>
      attempt.approved = true ∧
        .refundAnswered cancellation.order.id cancellation.refundAmount attempt ∈
          world.log
  | _ => True

/-- Every call acts on what it has heard. -/
structure Hears (world : World) : Prop where
  consistent : world.Consistent
  heard : ∀ task ∈ world.tasks, world.Heard task

variable {world next : World} {action : Action}

/-- An answer in the log stays there. -/
theorem mem_log_of_step (taken : world.step action = some next)
    {event : Event} (answer : event.isAnswer = true)
    (member : event ∈ world.log) :
    event ∈ next.log := by
  have listed : event ∈ next.log.filter Event.isAnswer := by
    rw [step_answers taken]
    exact List.mem_append_left _ (List.mem_filter.mpr ⟨member, answer⟩)
  exact (List.mem_filter.mp listed).1

/-- The answer that a step brings is in the log. -/
theorem mem_log_of_heardBy (taken : world.step action = some next)
    {event : Event} (heard : event ∈ heardBy action (world.taskOf action)) :
    event ∈ next.log := by
  have listed : event ∈ next.log.filter Event.isAnswer := by
    rw [step_answers taken]
    exact List.mem_append_right _ heard
  exact (List.mem_filter.mp listed).1

theorem Answered.step {orderId : Nat} {result : PayResult}
    (answered : world.Answered orderId result)
    (taken : world.step action = some next) :
    next.Answered orderId result := by
  obtain ⟨attempt, equal, either⟩ := answered
  exact
    ⟨attempt, equal,
      either.imp (mem_log_of_step taken rfl) (mem_log_of_step taken rfl)⟩

theorem Knows.grow {books : Books} {order : Order}
    (knows : world.Knows order) (grows : world.toBooks.Grows books) :
    ∃ row ∈ books.db.orders, row.head = order.head := by
  obtain ⟨row, member, equal⟩ := knows
  have kept := grows.orders.subset (List.mem_map_of_mem member)
  obtain ⟨later, laterMember, laterEqual⟩ := List.mem_map.mp kept
  exact ⟨later, laterMember, laterEqual.trans equal⟩

theorem Heard.step {task : Task} (consistent : world.Consistent)
    (heard : world.Heard task) (taken : world.step action = some next) :
    next.Heard task := by
  obtain ⟨after, exchange, turn⟩ := step_turn taken
  have grows : world.toBooks.Grows next.toBooks := turn.grows consistent
  rcases task with
    _ | _ |
    ⟨⟨orderId, pgTid, amount⟩ | ⟨orderId, status⟩ | _ |
      ⟨order, pgTid, total, why, number⟩ | ⟨order, total, why, attempt⟩⟩ |
    ⟨cancellation, _ | _ | attempt⟩
  case settling.confirming => exact Answered.step heard taken
  case settling.closing => exact Answered.step heard taken
  case settling.refunding => exact Knows.grow heard grows
  case settling.recording =>
      exact ⟨heard.1.grow grows, mem_log_of_step taken rfl heard.2⟩
  case canceling.closing => exact ⟨heard.1, mem_log_of_step taken rfl heard.2⟩
  all_goals trivial

/-- The task after a turn has heard what it acts on. -/
theorem Hears.heard_after (hears : world.Hears)
    {before after : Option Task}
    (taken : world.step action = some next)
    (current : world.taskOf action = before)
    (known : ∀ task ∈ before, task ∈ world.tasks)
    (turn : Turn world action before after next.toBooks) :
    ∀ task ∈ after, next.Heard task := by
  have grows := turn.grows hears.consistent
  have kept : ∀ task ∈ before, next.Heard task := by
    intro task member
    exact (hears.heard task (known task member)).step hears.consistent taken
  have quietHeard {task : Option Task} (quiet : Quiet task) :
      ∀ busy ∈ task, next.Heard busy := by
    intro busy member
    obtain ⟨orderId, rfl⟩ := quiet busy member
    trivial
  have arrives {event : Event} (heard : event ∈ heardBy action before) :
      event ∈ next.log := by
    rw [← current] at heard
    exact mem_log_of_heardBy taken heard
  -- An answer about an approval, whoever asked.
  have answered {orderId : Nat} {task : Task} {attempt : PayAttempt}
      {index : Nat} (isAnswer : action = .answer index attempt)
      (own : before = some task) (asked : task.asks = some orderId) :
      next.Answered orderId attempt.result := by
    refine ⟨attempt, rfl, ?_⟩
    cases task with
    | approving =>
        cases asked
        left
        apply arrives
        rw [isAnswer, own]
        exact List.mem_singleton_self _
    | inquiring =>
        cases asked
        right
        apply arrives
        rw [isAnswer, own]
        exact List.mem_singleton_self _
    | settling | canceling => cases asked
  generalize isBooks : next.toBooks = books at turn grows
  cases turn with
  | idle passing quiet => exact quietHeard quiet
  | confirmed confirms source confirmed quiet => exact quietHeard quiet
  | recorded recorded quiet => exact quietHeard quiet
  | unrecorded failed quiet => exact quietHeard quiet
  | closed closed quiet => exact quietHeard quiet
  | opened =>
      rintro _ ⟨⟩
      trivial
  | approvalExecuted =>
      rintro _ ⟨⟩
      trivial
  | approved asked result =>
      rintro _ ⟨⟩
      have heard := answered rfl rfl asked
      rwa [result] at heard
  | declined asked result =>
      rintro _ ⟨⟩
      have heard := answered rfl rfl asked
      rwa [result] at heard
  | expired =>
      rintro _ ⟨⟩
      trivial
  | compensating member =>
      rintro _ ⟨⟩
      have knows := Knows.grow ⟨_, member, rfl⟩ grows
      rw [← isBooks] at knows
      exact knows
  | refundExecuted =>
      rintro _ ⟨⟩
      have knows := kept _ rfl
      exact knows
  | refundAnswered =>
      rintro _ ⟨⟩
      exact ⟨kept _ rfl, arrives (List.mem_singleton_self _)⟩
  | cancelStarted =>
      rintro _ ⟨⟩
      trivial
  | cancelExecuted =>
      rintro _ ⟨⟩
      trivial
  | cancelAnswered =>
      rintro _ ⟨⟩
      split
      · rename_i approved
        exact ⟨approved, arrives (List.mem_singleton_self _)⟩
      · trivial
  | _ => simp

/-- A confirmation comes from a webhook or from a settling call. -/
theorem confirms_source {orderId : Nat} {pgTid : String}
    (confirms : world.confirms action = some (orderId, pgTid)) :
    action = .webhook orderId pgTid ∨
      ∃ amount,
        world.taskOf action = some (.settling (.confirming orderId pgTid amount)) := by
  cases action with
  | webhook =>
      cases confirms
      exact Or.inl rfl
  | advance index =>
      right
      dsimp only [World.confirms] at confirms
      split at confirms
      · rename_i amount current
        cases confirms
        exact ⟨amount, current⟩
      · cases confirms
  | _ => cases confirms

theorem Hears.step (hears : world.Hears)
    (taken : world.step action = some next) :
    next.Hears := by
  obtain ⟨after, exchange, turn⟩ := step_turn taken
  have known := exchange.mem_before
  refine
    { consistent := hears.consistent.step taken
      heard := ?_ }
  intro task member
  rcases exchange.mem member with old | new
  · exact (hears.heard task old).step hears.consistent taken
  · exact hears.heard_after taken rfl known turn task new

theorem Hears.initial
    (inventory : Inventory) (startsAt : Nat → Policy.Datetime) (clock : Time) :
    (World.initial inventory startsAt clock).Hears where
  consistent := initial_consistent inventory startsAt clock
  heard := by simp [World.initial, tasks]

/-- Every call acts on what it has heard, in every reachable world. -/
theorem hears_of_reachable
    {inventory : Inventory} {startsAt : Nat → Policy.Datetime} {clock : Time}
    (reachable :
      TransitionSystem.Reachable World.step
        (World.initial inventory startsAt clock) world) :
    world.Hears :=
  reachable.invariant (.initial inventory startsAt clock)
    fun _ _ _ hears _ taken => hears.step taken

end World

end Curtain
