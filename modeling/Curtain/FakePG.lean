import Curtain.LostResponses
import Curtain.Lib.Simulation

/-!
# The fake payment gateway

The tests inject a gateway with a memory: it remembers what it has approved,
may lose the answer, and draws its transaction numbers from one counter.  A
trial is a world together with this gateway.  As long as the answers to
inquiries are not forced, the fake keeps the contract that the gateway of
`World.truthful` is held to, so every trial is a run under that contract.
-/

namespace Curtain

open OrderService TransitionSystem

/-! ## The gateway -/

/-- `f"{number:06d}"` for a width of six. -/
def padded (width number : Nat) : String :=
  let digits := Nat.toDigits 10 number
  String.ofList (List.replicate (width - digits.length) '0' ++ digits)

/-- The options, the ledger in the order of its entries, and the counters. -/
structure FakePG where
  approveOutcome : PayResult := .approved
  loseResponse : Bool := false
  inquireOutcome : Option PayResult := none
  refundOutcome : PayResult := .approved
  ledger : List (Nat × String) := []
  approveCalls : Nat := 0
  inquireCalls : Nat := 0
  refundCalls : Nat := 0
  serial : Nat := 1

namespace FakePG

/-- `__init__`. -/
def init (approveOutcome : PayResult) (loseResponse : Bool)
    (inquireOutcome : Option PayResult) (refundOutcome : PayResult) : FakePG :=
  { approveOutcome, loseResponse, inquireOutcome, refundOutcome }

/-- What the ledger says about an order. -/
def entry (pg : FakePG) (orderId : Nat) : Option String :=
  (pg.ledger.find? fun entry => entry.1 == orderId).map (·.2)

/-- `ledger[order_id] = tid`, which keeps the place of a known order. -/
def assign (orderId : Nat) (tid : String) (ledger : List (Nat × String)) :
    List (Nat × String) :=
  if ledger.any fun entry => entry.1 == orderId then
    ledger.map fun entry => if entry.1 == orderId then (orderId, tid) else entry
  else ledger ++ [(orderId, tid)]

/-- The number that `_tid` makes of the counter. -/
def numbered (kind : String) (serial : Nat) : String :=
  kind ++ ("-" ++ padded 6 serial)

/-- `_tid`. -/
def tid (pg : FakePG) (kind : String) : String × FakePG :=
  (numbered kind pg.serial, { pg with serial := pg.serial + 1 })

/-- `approve`; `setdefault` draws its number whether it uses it or not. -/
def approve (pg : FakePG) (orderId : Nat) : PayAttempt × FakePG :=
  let pg := { pg with approveCalls := pg.approveCalls + 1 }
  if pg.loseResponse then
    let (number, pg) := pg.tid "tid"
    ({ result := .unknown },
      { pg with ledger := assign orderId number pg.ledger })
  else if pg.approveOutcome = .approved then
    let (number, pg) := pg.tid "tid"
    match pg.entry orderId with
    | some known => ({ result := .approved, pgTid := some known }, pg)
    | none =>
        ({ result := .approved, pgTid := some number },
          { pg with ledger := pg.ledger ++ [(orderId, number)] })
  else ({ result := pg.approveOutcome }, pg)

/-- `inquire`. -/
def inquire (pg : FakePG) (orderId : Nat) : PayAttempt × FakePG :=
  let pg := { pg with inquireCalls := pg.inquireCalls + 1 }
  match pg.inquireOutcome with
  | some outcome => ({ result := outcome }, pg)
  | none =>
      match pg.entry orderId with
      | none => ({ result := .declined }, pg)
      | some number => ({ result := .approved, pgTid := some number }, pg)

/-- `refund`. -/
def refund (pg : FakePG) : PayAttempt × FakePG :=
  let pg := { pg with refundCalls := pg.refundCalls + 1 }
  if pg.refundOutcome = .approved then
    let (number, pg) := pg.tid "rfnd"
    ({ result := .approved, pgTid := some number }, pg)
  else ({ result := pg.refundOutcome }, pg)

end FakePG

/-! ## Trials -/

/-- A world whose requests the fake answers. -/
structure Trial where
  world : World
  pg : FakePG

/--
A step of the service, an exchange of the call at an index with the gateway, or
a change of the gateway's options by the test.
-/
inductive Trial.Happening where
  | service (action : Action)
  | exchange (call : Nat)
  | configure (approveOutcome : PayResult) (loseResponse : Bool)
      (inquireOutcome : Option PayResult) (refundOutcome : PayResult)
deriving DecidableEq, Repr

/-- The gateway answers in place of the world. -/
def Action.gatewayActs : Action → Bool
  | .execute _ _ => true
  | .answer _ _ => true
  | _ => false

namespace Trial

/-- The answer reaches the call that made the request. -/
def answered (trial : Trial) (index : Nat) (attempt : PayAttempt) : Option Trial :=
  (trial.world.step (.answer index attempt)).map fun world =>
    { trial with world }

/--
The gateway handles the request of a call and answers it.  What it has executed
by then is noted in the ledgers of the world.
-/
def exchange (trial : Trial) (index : Nat) (call : Call) : Option Trial :=
  match call with
  | .placing _ (.approving orderId amount) =>
      let (attempt, pg) := trial.pg.approve orderId
      let executed :=
        if (trial.pg.entry orderId).isSome then none else pg.entry orderId
      let approvals :=
        trial.world.approvals ++
          executed.toList.map fun pgTid => { orderId, pgTid, amount }
      answered { world := { trial.world with approvals }, pg } index attempt
  | .reconciling _ _ (.inquiring orderId) =>
      let (attempt, pg) := trial.pg.inquire orderId
      answered { trial with pg } index attempt
  | call =>
      call.refund?.bind fun (pgTid, amount, _) =>
        let (attempt, pg) := trial.pg.refund
        let refunds :=
          trial.world.refunds ++
            attempt.pgTid.toList.map fun refundTid =>
              { pgTid, amount, refundTid }
        answered { world := { trial.world with refunds }, pg } index attempt

/-- One step of a trial. -/
def step (trial : Trial) : Happening → Option Trial
  | .service action =>
      if action.gatewayActs then none
      else (trial.world.step action).map fun world => { trial with world }
  | .exchange index => do
      let call ← trial.world.calls[index]?
      trial.exchange index call
  | .configure approveOutcome loseResponse inquireOutcome refundOutcome =>
      some
        { trial with
          pg :=
            { trial.pg with
              approveOutcome, loseResponse, inquireOutcome, refundOutcome } }

/-- No answer to an inquiry is forced but silence, and webhooks are authentic. -/
def Fair (trial : Trial) : Happening → Prop
  | .service action => trial.world.truthful action = true
  | .exchange _ =>
      trial.pg.inquireOutcome = none ∨ trial.pg.inquireOutcome = some .unknown
  | .configure .. => True

instance (trial : Trial) :
    (happening : Happening) → Decidable (trial.Fair happening)
  | .service _ => inferInstanceAs (Decidable (_ = true))
  | .exchange _ => inferInstanceAs (Decidable (_ ∨ _))
  | .configure .. => inferInstanceAs (Decidable True)

end Trial

/-! ## The numbers -/

theorem padded_injective (width : Nat) : Function.Injective (padded width) := by
  have read (number : Nat) :
      Nat.ofDigitChars 10 (padded width number).toList 0 = number := by
    rw [padded, String.toList_ofList, Nat.ofDigitChars_append,
      Nat.ofDigitChars_replicate_zero, Nat.mul_zero,
      Nat.ofDigitChars_ten_toDigits]
  intro left right equal
  rw [← read left, equal, read]

/-- The kinds of numbers that the gateway gives out. -/
def FakePG.kinds : List String := ["tid", "rfnd"]

theorem FakePG.numbered_serial {left right : String} {first second : Nat}
    (leftKind : left ∈ kinds) (rightKind : right ∈ kinds)
    (equal : numbered left first = numbered right second) :
    first = second := by
  have letters := congrArg String.toList equal
  simp only [kinds, List.mem_cons, List.not_mem_nil, or_false] at leftKind rightKind
  rcases leftKind with rfl | rfl <;> rcases rightKind with rfl | rfl <;>
    simp [numbered] at letters
  · exact padded_injective 6 (String.toList_injective letters)
  · exact padded_injective 6 (String.toList_injective letters)

/-! ## Who is asked about what -/

/-- The order that a task asks the gateway to approve. -/
def Task.approves? : Task → Option Nat
  | .approving orderId _ => some orderId
  | _ => none

/-- The number of a refund that is executed and not answered. -/
def Task.unanswered? : Task → Option String
  | .settling (.refunding _ _ _ _ number) => number
  | .canceling _ (.refunding number) => number
  | _ => none

/-- The orders with an approval in flight and those that are approved. -/
def World.presented (world : World) : List Nat :=
  world.tasks.filterMap Task.approves? ++ world.approvals.map (·.orderId)

namespace World

variable {world next : World} {action : Action}

/-- The orders that were presented to the gateway exist. -/
theorem Honest.presented_ordered (honest : world.Honest) {orderId : Nat}
    (listed : orderId ∈ world.presented) :
    ∃ order ∈ world.db.orders, order.id = orderId := by
  rcases List.mem_append.mp listed with asked | approved
  · obtain ⟨task, member, asks⟩ := List.mem_filterMap.mp asked
    cases task with
    | approving =>
        cases asks
        obtain ⟨order, orderMember, same, -⟩ := honest.numbered _ member
        exact ⟨order, orderMember, same⟩
    | _ => cases asks
  · obtain ⟨approval, member, rfl⟩ := List.mem_map.mp approved
    obtain ⟨order, orderMember, same, -⟩ := honest.balanced.priced _ member
    exact ⟨order, orderMember, same⟩

theorem asks_quiet {task : Option Task} (quiet : Quiet task) :
    task.bind Task.approves? = none ∧ task.bind Task.unanswered? = none := by
  cases task with
  | none => exact ⟨rfl, rfl⟩
  | some busy =>
      obtain ⟨asked, rfl⟩ := quiet busy rfl
      exact ⟨rfl, rfl⟩

/--
A step of the service leaves the ledgers alone.  It asks for the approval of
new orders only, and has nothing executed.
-/
theorem serves_of_turn {before after : Option Task} {books : Books}
    (consistent : world.Consistent)
    (service : action.gatewayActs = false)
    (turn : Turn world action before after books) :
    books.approvals = world.approvals ∧ books.refunds = world.refunds ∧
      (∀ orderId ∈ after.bind Task.approves?,
        ∀ old ∈ world.db.orders, old.id ≠ orderId) ∧
      after.bind Task.unanswered? = none := by
  have quietTask (quiet : Quiet after) :
      (∀ orderId ∈ after.bind Task.approves?,
        ∀ old ∈ world.db.orders, old.id ≠ orderId) ∧
      after.bind Task.unanswered? = none := by
    obtain ⟨asksNot, answered⟩ := asks_quiet quiet
    rw [asksNot]
    exact ⟨by simp, answered⟩
  cases turn with
  | idle passing quiet => exact ⟨rfl, rfl, quietTask quiet⟩
  | confirmed confirms source confirmed quiet =>
      exact ⟨rfl, rfl, quietTask quiet⟩
  | recorded recorded quiet => exact ⟨rfl, rfl, quietTask quiet⟩
  | unrecorded failed quiet => exact ⟨rfl, rfl, quietTask quiet⟩
  | closed closed quiet => exact ⟨rfl, rfl, quietTask quiet⟩
  | opened opened =>
      refine ⟨rfl, rfl, ?_, rfl⟩
      rintro _ ⟨⟩ old member
      exact (opened.older consistent.sound.orderIdBound member).ne
  | approvalExecuted | refundExecuted | cancelExecuted => cases service
  | approved | declined | refundAnswered | cancelAnswered => cases service
  | _ => exact ⟨rfl, rfl, by simp [Task.approves?], rfl⟩

/-- A step of the service presents each order once. -/
theorem presented_service (honest : world.Honest)
    (once : world.presented.Nodup)
    (service : action.gatewayActs = false)
    (taken : world.step action = some next) :
    next.presented.Nodup := by
  obtain ⟨after, exchange, turn⟩ := step_turn taken
  obtain ⟨approvals, -, fresh, -⟩ :=
    serves_of_turn honest.consistent service turn
  obtain ⟨others, -, -, -, oldPerm, newPerm⟩ :=
    exchange.filterMap Task.approves?
  have kept :
      (others.filterMap Task.approves? ++
        world.approvals.map (·.orderId)).Sublist
        (((world.taskOf action).bind Task.approves?).toList ++
          others.filterMap Task.approves? ++
            world.approvals.map (·.orderId)) := by
    rw [List.append_assoc]
    exact List.sublist_append_right _ _
  have before := (oldPerm.append_right _).nodup_iff.mp once
  have rest := before.sublist kept
  rw [presented, approvals]
  refine (newPerm.append_right _).nodup_iff.mpr ?_
  rw [List.append_assoc]
  cases asks : after.bind Task.approves? with
  | none => exact rest
  | some orderId =>
      refine List.nodup_cons.mpr ⟨fun listed => ?_, rest⟩
      have presented : orderId ∈ world.presented :=
        (oldPerm.append_right _).mem_iff.mpr (kept.mem listed)
      obtain ⟨order, member, same⟩ := honest.presented_ordered presented
      exact fresh orderId asks order member same

/-- An answer changes no books and leaves no request in flight. -/
theorem answers_of_turn {index : Nat} {attempt : PayAttempt}
    {before after : Option Task} {books : Books}
    (turn : Turn world (.answer index attempt) before after books) :
    books = world.toBooks ∧ after.bind Task.approves? = none ∧
      after.bind Task.unanswered? = none := by
  cases turn with
  | idle passing quiet => exact ⟨rfl, asks_quiet quiet⟩
  | confirmed confirms => cases confirms
  | cancelAnswered =>
      refine ⟨rfl, ?_, ?_⟩ <;> split <;> rfl
  | _ => exact ⟨rfl, rfl, rfl⟩

/-- An answer ends what its call asks about. -/
theorem presented_answer {index : Nat} {attempt : PayAttempt}
    (taken : world.step (.answer index attempt) = some next) :
    next.toBooks = world.toBooks ∧
      world.presented.Perm
        (((world.taskOf (.answer index attempt)).bind Task.approves?).toList ++
          next.presented) := by
  obtain ⟨after, exchange, turn⟩ := step_turn taken
  obtain ⟨others, -, -, -, oldPerm, newPerm⟩ :=
    exchange.filterMap Task.approves?
  obtain ⟨books, asksNot, -⟩ := answers_of_turn turn
  have approvals : next.approvals = world.approvals :=
    congrArg Books.approvals books
  refine ⟨books, ?_⟩
  rw [asksNot] at newPerm
  rw [presented, presented, approvals, ← List.append_assoc]
  exact (oldPerm.trans (newPerm.symm.append_left _)).append_right _

end World

/-! ## The gateway's books -/

/-- The gateway has given out the number. -/
def FakePG.Issued (pg : FakePG) (number : String) : Prop :=
  ∃ kind ∈ kinds, ∃ serial < pg.serial, number = numbered kind serial

/-- The gateway's memory and its numbers are those of the books. -/
structure FakePG.Agrees (pg : FakePG) (books : Books) : Prop where
  ledger :
    pg.ledger =
      books.approvals.map fun approval => (approval.orderId, approval.pgTid)
  issued : ∀ number ∈ books.issued, pg.Issued number

namespace FakePG

theorem Issued.mono {pg after : FakePG} {number : String}
    (issued : pg.Issued number) (grows : pg.serial ≤ after.serial) :
    after.Issued number := by
  obtain ⟨kind, known, serial, before, rfl⟩ := issued
  exact ⟨kind, known, serial, before.trans_le grows, rfl⟩

/-- A new entry is what the ledger says about its order. -/
theorem entry_of_ledger {pg after : FakePG} {orderId : Nat} {tid : String}
    (absent : pg.entry orderId = none)
    (ledger : after.ledger = pg.ledger ++ [(orderId, tid)]) :
    after.entry orderId = some tid := by
  rw [entry, Option.map_eq_none_iff] at absent
  simp [entry, ledger, List.find?_append, absent]

theorem assign_of_entry_eq_none {pg : FakePG} {orderId : Nat}
    (absent : pg.entry orderId = none) (tid : String) :
    assign orderId tid pg.ledger = pg.ledger ++ [(orderId, tid)] := by
  rw [assign, if_neg]
  intro listed
  rw [entry, Option.map_eq_none_iff, List.find?_eq_none] at absent
  obtain ⟨found, member, same⟩ := List.any_eq_true.mp listed
  exact absent found member same

namespace Agrees

variable {pg after : FakePG} {books : Books}

theorem approves (agrees : pg.Agrees books) {orderId : Nat} {number : String}
    (known : pg.entry orderId = some number) :
    books.approves orderId number = true := by
  rw [entry, agrees.ledger, Option.map_eq_some_iff] at known
  obtain ⟨found, first, rfl⟩ := known
  have same := List.find?_some first
  obtain ⟨approval, member, rfl⟩ :=
    List.mem_map.mp (List.mem_of_find?_eq_some first)
  refine List.any_eq_true.mpr ⟨approval, member, ?_⟩
  simpa using same

theorem entry_eq_none (agrees : pg.Agrees books) (orderId : Nat) :
    pg.entry orderId = none ↔ books.executed orderId = false := by
  simp [entry, agrees.ledger, Books.executed]

/-- The next number is new. -/
theorem fresh (agrees : pg.Agrees books) {kind : String} (known : kind ∈ kinds) :
    numbered kind pg.serial ∉ books.issued := by
  intro listed
  obtain ⟨other, otherKnown, serial, before, equal⟩ := agrees.issued _ listed
  exact before.ne (numbered_serial known otherKnown equal).symm

/-- The books are read for the two ledgers only. -/
theorem of_ledgers {later : Books} (agrees : pg.Agrees books)
    (approvals : later.approvals = books.approvals)
    (refunds : later.refunds = books.refunds) :
    pg.Agrees later where
  ledger := by rw [approvals, agrees.ledger]
  issued := by
    rw [Books.issued, approvals, refunds]
    exact agrees.issued

/-- Nothing is executed. -/
theorem keep (agrees : pg.Agrees books)
    (ledger : after.ledger = pg.ledger) (serial : pg.serial ≤ after.serial) :
    after.Agrees books where
  ledger := ledger.trans agrees.ledger
  issued number listed := (agrees.issued number listed).mono serial

/-- An approval is executed and remembered under the next number. -/
theorem approve (agrees : pg.Agrees books) {orderId : Nat} {amount : Int}
    (ledger :
      after.ledger = pg.ledger ++ [(orderId, numbered "tid" pg.serial)])
    (serial : after.serial = pg.serial + 1) :
    after.Agrees
      { books with
        approvals :=
          books.approvals ++
            [{ orderId, pgTid := numbered "tid" pg.serial, amount }] } where
  ledger := by
    rw [ledger, agrees.ledger, List.map_append]
    rfl
  issued := by
    intro number listed
    simp only [Books.issued, List.map_append, List.mem_append] at listed
    have grows : pg.serial ≤ after.serial := by omega
    rcases listed with (old | new) | refund
    · exact (agrees.issued number (List.mem_append_left _ old)).mono grows
    · rw [List.mem_singleton.mp new]
      exact ⟨"tid", by decide, pg.serial, by omega, rfl⟩
    · exact (agrees.issued number (List.mem_append_right _ refund)).mono grows

/-- A refund is executed under the next number. -/
theorem refund (agrees : pg.Agrees books) {pgTid : String} {amount : Int}
    (ledger : after.ledger = pg.ledger)
    (serial : after.serial = pg.serial + 1) :
    after.Agrees
      { books with
        refunds :=
          books.refunds ++
            [{ pgTid, amount, refundTid := numbered "rfnd" pg.serial }] } where
  ledger := ledger.trans agrees.ledger
  issued := by
    intro number listed
    simp only [Books.issued, List.map_append, List.mem_append] at listed
    have grows : pg.serial ≤ after.serial := by omega
    rcases listed with approval | old | new
    · exact (agrees.issued number (List.mem_append_left _ approval)).mono grows
    · exact (agrees.issued number (List.mem_append_right _ old)).mono grows
    · rw [List.mem_singleton.mp new]
      exact ⟨"rfnd", by decide, pg.serial, by omega, rfl⟩

end Agrees

/-- What `approve` does for an order that is not in the ledger. -/
theorem approve_cases {pg after : FakePG} {orderId : Nat} {attempt : PayAttempt}
    (absent : pg.entry orderId = none)
    (made : pg.approve orderId = (attempt, after)) :
    (after.ledger = pg.ledger ∧ after.serial = pg.serial ∧
      attempt.result ≠ .approved) ∨
    (after.ledger = pg.ledger ++ [(orderId, numbered "tid" pg.serial)] ∧
      after.serial = pg.serial + 1 ∧
        (attempt = { result := .unknown } ∨
          attempt =
            { result := .approved
              pgTid := some (numbered "tid" pg.serial) })) := by
  simp only [approve, tid] at made
  split at made
  · cases made
    exact Or.inr ⟨assign_of_entry_eq_none absent _, rfl, Or.inl rfl⟩
  · split at made
    · have still :
          ({ pg with
              approveCalls := pg.approveCalls + 1
              serial := pg.serial + 1 } : FakePG).entry orderId = none :=
        absent
      rw [still] at made
      cases made
      exact Or.inr ⟨rfl, rfl, Or.inr rfl⟩
    · rename_i refused
      cases made
      exact Or.inl ⟨rfl, rfl, refused⟩

/-- What `refund` does. -/
theorem refund_cases {pg after : FakePG} {attempt : PayAttempt}
    (made : pg.refund = (attempt, after)) :
    after.ledger = pg.ledger ∧
      ((after.serial = pg.serial ∧ attempt.result ≠ .approved ∧
          attempt.pgTid = none) ∨
        (after.serial = pg.serial + 1 ∧
          attempt =
            { result := .approved
              pgTid := some (numbered "rfnd" pg.serial) })) := by
  simp only [refund, tid] at made
  split at made
  · cases made
    exact ⟨rfl, Or.inr ⟨rfl, rfl⟩⟩
  · rename_i refused
    cases made
    exact ⟨rfl, Or.inl ⟨rfl, refused, rfl⟩⟩

/-- `inquire` answers from the ledger, or not at all. -/
theorem inquire_cases {pg after : FakePG} {orderId : Nat} {attempt : PayAttempt}
    (free : pg.inquireOutcome = none ∨ pg.inquireOutcome = some .unknown)
    (made : pg.inquire orderId = (attempt, after)) :
    after.ledger = pg.ledger ∧ after.serial = pg.serial ∧
      (attempt.result = .unknown ∨
        (attempt.result = .declined ∧ pg.entry orderId = none) ∨
        (attempt.result = .approved ∧ attempt.pgTid = pg.entry orderId ∧
          attempt.pgTid.isSome = true)) := by
  simp only [inquire] at made
  split at made
  · rename_i outcome forced
    cases made
    refine ⟨rfl, rfl, Or.inl ?_⟩
    rcases free with unforced | unknown
    · rw [unforced] at forced
      cases forced
    · rw [unknown] at forced
      exact (Option.some.inj forced).symm
  · split at made
    · rename_i absent
      cases made
      exact ⟨rfl, rfl, Or.inr (Or.inl ⟨rfl, absent⟩)⟩
    · rename_i number known
      cases made
      exact ⟨rfl, rfl, Or.inr (Or.inr ⟨rfl, known.symm, rfl⟩)⟩

end FakePG

/-! ## Trials are truthful runs -/

/-- What holds in every trial. -/
structure Trial.Faithful (trial : Trial) : Prop where
  carries : trial.world.Carries
  agrees : trial.pg.Agrees trial.world.toBooks
  once : trial.world.presented.Nodup
  answered : trial.world.tasks.filterMap Task.unanswered? = []

/--
The gateway has handled the request of a call: the run that executes it, if it
is executed, the call after it and the state of the gateway.
-/
structure Trial.Handled (trial : Trial) (index : Nat) (attempt : PayAttempt)
    (middle : World) (call : Call) (pg : FakePG) : Prop where
  run :
    RunWhere World.step (fun world action => world.truthful action = true)
      trial.world middle
  found : middle.calls[index]? = some call
  truthful : call.task?.all (middle.truthfulAnswer attempt) = true
  agrees : pg.Agrees middle.toBooks
  once :
    middle.presented.Perm
        ((call.task?.bind Task.approves?).toList ++ trial.world.presented) ∨
      middle.presented = trial.world.presented
  others :
    (middle.tasks.filterMap Task.unanswered?).Perm
      (call.task?.bind Task.unanswered?).toList

namespace World

variable {world next : World} {index : Nat}

theorem carries_of_run (carries : world.Carries)
    (run :
      RunWhere World.step (fun world action => world.truthful action = true)
        world next) :
    next.Carries :=
  run.invariant carries fun _ _ _ carries truthful taken =>
    carries.step truthful taken

/-- An approval is executed. -/
theorem execute_approving {request : PlaceRequest} {orderId : Nat} {amount : Int}
    {number : String}
    (found :
      world.calls[index]? = some (.placing request (.approving orderId amount)))
    (fresh : number ∉ world.issued) (first : world.executed orderId = false) :
    world.step (.execute index number) =
      some
        { world with
          approvals :=
            world.approvals ++ [{ orderId, pgTid := number, amount }] } := by
  have unapproved :
      ¬ (world.approvals.any (·.orderId == orderId)) = true :=
    Bool.eq_false_iff.mp first
  rw [step, found, Option.bind_eq_bind, Option.bind_some, executeRequest,
    if_neg fresh]
  exact if_neg unapproved

/-- A refund is executed. -/
theorem execute_refunding {call : Call} {pgTid number : String} {amount : Int}
    {executed : String → Call}
    (found : world.calls[index]? = some call)
    (inFlight : call.refund? = some (pgTid, amount, executed))
    (fresh : number ∉ world.issued) :
    world.step (.execute index number) =
      some
        { world with
          refunds :=
            world.refunds ++ [{ pgTid, amount, refundTid := number }]
          calls := world.calls.set index (executed number) } := by
  have other : call.approval? = none := by
    cases refunds_of_refund inFlight <;> rfl
  simp [step, found, executeRequest, fresh, other, inFlight]

/-- The answer to a refund does not depend on what its call remembers. -/
theorem answer_refunding {call : Call} {pgTid : String} {amount : Int}
    {executed : String → Call} {attempt : PayAttempt}
    (found : world.calls[index]? = some call)
    (inFlight : call.refund? = some (pgTid, amount, executed))
    (number : String) :
    { world with calls := world.calls.set index (executed number) }.step
        (.answer index attempt) =
      world.step (.answer index attempt) := by
  obtain ⟨inside, -⟩ := List.getElem?_eq_some_iff.mp found
  have received :
      receive world.db attempt (executed number) =
        receive world.db attempt call := by
    cases refunds_of_refund inFlight <;> rfl
  simp only [step, found, List.getElem?_set_self inside]
  rw [Option.bind_eq_bind, Option.bind_some, Option.bind_some, received]
  cases receive world.db attempt call with
  | none => rfl
  | some made =>
      cases next : made.next <;>
        simp [progress, next, replaceCall, List.set_set, List.eraseIdx_set_eq]

end World

namespace Trial

variable {trial next : Trial} {index : Nat} {attempt : PayAttempt}
variable {middle : World} {call : Call} {pg : FakePG}

/-- An order whose approval is in flight is not in the ledger. -/
theorem Faithful.absent (faithful : trial.Faithful)
    {request : PlaceRequest} {orderId : Nat} {amount : Int}
    (found :
      trial.world.calls[index]? =
        some (.placing request (.approving orderId amount))) :
    trial.pg.entry orderId = none := by
  rw [faithful.agrees.entry_eq_none]
  have asked : orderId ∈ trial.world.tasks.filterMap Task.approves? :=
    List.mem_filterMap.mpr
      ⟨.approving orderId amount,
        List.mem_filterMap.mpr ⟨_, List.mem_of_getElem? found, rfl⟩, rfl⟩
  refine Bool.eq_false_iff.mpr fun executed => ?_
  obtain ⟨approval, member, same⟩ := List.any_eq_true.mp executed
  refine List.disjoint_of_nodup_append faithful.once asked ?_
  rw [← beq_iff_eq.mp same]
  exact List.mem_map_of_mem member

/-- Once it is answered, the trial goes on as it should. -/
theorem Handled.answered (faithful : trial.Faithful)
    (handled : trial.Handled index attempt middle call pg)
    (taken :
      (middle.step (.answer index attempt)).map (fun world => { world, pg }) =
        some next) :
    RunWhere World.step (fun world action => world.truthful action = true)
        trial.world next.world ∧
      next.Faithful := by
  obtain ⟨after, stepped, rfl⟩ := Option.map_eq_some_iff.mp taken
  have current : middle.taskOf (.answer index attempt) = call.task? :=
    World.taskOf_call rfl handled.found
  have truthful : middle.truthful (.answer index attempt) = true := by
    rw [World.truthful, current]
    exact handled.truthful
  have run := handled.run.tail truthful stepped
  obtain ⟨books, presented⟩ := World.presented_answer stepped
  rw [current] at presented
  refine ⟨run, World.carries_of_run faithful.carries run, ?_, ?_, ?_⟩
  · rw [books]
    exact handled.agrees
  · rcases handled.once with executed | nothing
    · have same := (List.perm_append_left_iff _).mp (executed.symm.trans presented)
      exact same.nodup faithful.once
    · have whole := presented.nodup (nothing ▸ faithful.once)
      exact whole.sublist (List.sublist_append_right _ _)
  · obtain ⟨after, exchange, turn⟩ := step_turn stepped
    obtain ⟨-, -, silent⟩ := World.answers_of_turn turn
    obtain ⟨others, -, -, -, oldPerm, newPerm⟩ :=
      exchange.filterMap Task.unanswered?
    rw [current] at oldPerm
    have rest : others.filterMap Task.unanswered? = [] := by
      have same := oldPerm.symm.trans handled.others
      simpa using same.length_eq
    simpa [rest, silent] using newPerm

/-- A call that waits for the gateway has nothing executed yet. -/
theorem Faithful.unanswered (faithful : trial.Faithful)
    (found : trial.world.calls[index]? = some call) :
    call.task?.bind Task.unanswered? = none := by
  refine Option.bind_eq_none_iff.mpr fun task own => ?_
  have listed : task ∈ trial.world.tasks :=
    List.mem_filterMap.mpr ⟨call, List.mem_of_getElem? found, own⟩
  exact List.filterMap_eq_nil_iff.mp faithful.answered task listed

/-- A request that the gateway does not execute. -/
theorem Faithful.handled_untouched (faithful : trial.Faithful)
    (found : trial.world.calls[index]? = some call)
    (truthful : call.task?.all (trial.world.truthfulAnswer attempt) = true)
    (ledger : pg.ledger = trial.pg.ledger)
    (serial : trial.pg.serial ≤ pg.serial) :
    trial.Handled index attempt trial.world call pg where
  run := .refl
  found := found
  truthful := truthful
  agrees := faithful.agrees.keep ledger serial
  once := Or.inr rfl
  others := by
    rw [faithful.unanswered found, faithful.answered]
    exact .refl _

/-- An approval that the gateway executes, whether it answers or not. -/
theorem Faithful.handled_approving (faithful : trial.Faithful)
    {request : PlaceRequest} {orderId : Nat} {amount : Int}
    (found :
      trial.world.calls[index]? =
        some (.placing request (.approving orderId amount)))
    (ledger :
      pg.ledger =
        trial.pg.ledger ++
          [(orderId, FakePG.numbered "tid" trial.pg.serial)])
    (serial : pg.serial = trial.pg.serial + 1)
    (answer :
      attempt = { result := .unknown } ∨
        attempt =
          { result := .approved
            pgTid := some (FakePG.numbered "tid" trial.pg.serial) }) :
    trial.Handled index attempt
      { trial.world with
        approvals :=
          trial.world.approvals ++
            [{ orderId
               pgTid := FakePG.numbered "tid" trial.pg.serial
               amount }] }
      (.placing request (.approving orderId amount)) pg where
  run :=
    .single rfl
      (World.execute_approving found (faithful.agrees.fresh (by decide))
        ((faithful.agrees.entry_eq_none orderId).mp (faithful.absent found)))
  found := found
  truthful := by
    rcases answer with rfl | rfl
    · rfl
    · simp [Call.task?, World.truthfulAnswer, Books.approves]
  agrees := faithful.agrees.approve ledger serial
  once := by
    left
    rw [World.presented, List.map_append, ← List.append_assoc]
    exact List.perm_append_comm
  others := .of_eq faithful.answered

/-- A refund that the gateway executes. -/
theorem Faithful.handled_refunding (faithful : trial.Faithful)
    {pgTid number : String} {amount : Int} {executed : String → Call}
    (found : trial.world.calls[index]? = some call)
    (inFlight : call.refund? = some (pgTid, amount, executed))
    (next : number = FakePG.numbered "rfnd" trial.pg.serial)
    (ledger : pg.ledger = trial.pg.ledger)
    (serial : pg.serial = trial.pg.serial + 1) :
    trial.Handled index { result := .approved, pgTid := some number }
      { trial.world with
        refunds :=
          trial.world.refunds ++ [{ pgTid, amount, refundTid := number }]
        calls := trial.world.calls.set index (executed number) }
      (executed number) pg := by
  subst next
  obtain ⟨inside, -⟩ := List.getElem?_eq_some_iff.mp found
  have fresh := faithful.agrees.fresh (show "rfnd" ∈ FakePG.kinds by decide)
  have exchange :=
    exchange_replaceCall found
      (some (executed (FakePG.numbered "rfnd" trial.pg.serial)))
  obtain ⟨others, -, -, -, oldAsks, newAsks⟩ :=
    exchange.filterMap Task.approves?
  obtain ⟨rest, -, -, -, oldPerm, newPerm⟩ :=
    exchange.filterMap Task.unanswered?
  refine
    { run := .single rfl (World.execute_refunding found inFlight fresh)
      found := List.getElem?_set_self inside
      truthful := ?_
      agrees := faithful.agrees.refund ledger serial
      once := ?_
      others := ?_ }
  · cases refunds_of_refund inFlight <;>
      simp [Call.task?, World.truthfulAnswer, World.truthfulRefund]
  · have asksNot :
        call.task?.bind Task.approves? = none ∧
          (executed (FakePG.numbered "rfnd" trial.pg.serial)).task?.bind
            Task.approves? = none := by
      cases refunds_of_refund inFlight <;> exact ⟨rfl, rfl⟩
    simp only [Option.bind_some, asksNot.1, asksNot.2, Option.toList_none,
      List.nil_append] at oldAsks newAsks ⊢
    exact Or.inl ((newAsks.trans oldAsks.symm).append_right _)
  · have same := oldPerm.symm.trans (.of_eq faithful.answered)
    have nothing := (List.append_eq_nil_iff.mp (List.perm_nil.mp same)).2
    rw [nothing, List.append_nil] at newPerm
    exact newPerm

/-- What the gateway does with the request of a call. -/
theorem Faithful.exchange (faithful : trial.Faithful)
    (free :
      trial.pg.inquireOutcome = none ∨
        trial.pg.inquireOutcome = some .unknown)
    (found : trial.world.calls[index]? = some call)
    (taken : trial.exchange index call = some next) :
    RunWhere World.step (fun world action => world.truthful action = true)
        trial.world next.world ∧
      next.Faithful := by
  unfold Trial.exchange at taken
  split at taken
  · rename_i request orderId amount
    have absent := faithful.absent found
    generalize made : trial.pg.approve orderId = result at taken
    obtain ⟨attempt, pg⟩ := result
    simp only [absent, Option.isSome_none, Bool.false_eq_true, if_false] at taken
    rcases FakePG.approve_cases absent made with
      ⟨ledger, serial, refused⟩ | ⟨ledger, serial, answer⟩
    · have still : pg.entry orderId = none := by
        rw [FakePG.entry, ledger]
        exact absent
      simp only [still, Option.toList_none, List.map_nil, List.append_nil] at taken
      refine
        (faithful.handled_untouched found ?_ ledger serial.ge).answered faithful
          taken
      have unexecuted := (faithful.agrees.entry_eq_none orderId).mp absent
      simp only [Call.task?, Option.all_some, World.truthfulAnswer]
      cases outcome : attempt.result with
      | approved => exact absurd outcome refused
      | declined => rw [unexecuted]; rfl
      | unknown => rfl
    · rw [FakePG.entry_of_ledger absent ledger] at taken
      exact
        (faithful.handled_approving found ledger serial answer).answered
          faithful taken
  · rename_i rest confirmed orderId
    generalize made : trial.pg.inquire orderId = result at taken
    obtain ⟨attempt, pg⟩ := result
    obtain ⟨ledger, serial, outcome⟩ := FakePG.inquire_cases free made
    refine
      (faithful.handled_untouched found ?_ ledger serial.ge).answered faithful
        taken
    simp only [Call.task?, Option.all_some, World.truthfulAnswer]
    rcases outcome with unknown | ⟨declined, absent⟩ | ⟨approved, known, isSome⟩
    · rw [unknown]
    · rw [declined, (faithful.agrees.entry_eq_none orderId).mp absent]
      rfl
    · obtain ⟨number, answered⟩ := Option.isSome_iff_exists.mp isSome
      rw [approved, answered]
      exact faithful.agrees.approves (known.symm.trans answered)
  · obtain ⟨⟨pgTid, amount, executed⟩, inFlight, taken⟩ :=
      Option.bind_eq_some_iff.mp taken
    generalize made : trial.pg.refund = result at taken
    obtain ⟨attempt, pg⟩ := result
    simp only at taken
    obtain ⟨ledger, ⟨serial, refused, unnumbered⟩ | ⟨serial, rfl⟩⟩ :=
      FakePG.refund_cases made
    · simp only [unnumbered, Option.toList_none, List.map_nil, List.append_nil]
        at taken
      refine
        (faithful.handled_untouched found ?_ ledger serial.ge).answered faithful
          taken
      have silent : World.truthfulRefund attempt none = true := by
        rw [World.truthfulRefund, unnumbered]
        cases outcome : attempt.result with
        | approved => exact absurd outcome refused
        | declined => rfl
        | unknown => rfl
      cases refunds_of_refund inFlight <;> exact silent
    · have handled := faithful.handled_refunding found inFlight rfl ledger serial
      refine handled.answered faithful ?_
      rw [← taken]
      exact
        congrArg (Option.map _)
          (@World.answer_refunding
            { trial.world with
              refunds :=
                trial.world.refunds ++
                  [{ pgTid
                     amount
                     refundTid := FakePG.numbered "rfnd" trial.pg.serial }] }
            index call pgTid amount executed _ found inFlight _)

/-- One step of a fair trial is a truthful run of the world. -/
theorem Faithful.step {happening : Happening} (faithful : trial.Faithful)
    (fair : trial.Fair happening)
    (taken : trial.step happening = some next) :
    RunWhere World.step (fun world action => world.truthful action = true)
        trial.world next.world ∧
      next.Faithful := by
  cases happening with
  | configure =>
      cases taken
      exact
        ⟨.refl,
          { carries := faithful.carries
            agrees := faithful.agrees.keep rfl le_rfl
            once := faithful.once
            answered := faithful.answered }⟩
  | exchange index =>
      obtain ⟨call, found, made⟩ := Option.bind_eq_some_iff.mp taken
      exact faithful.exchange fair found made
  | service action =>
      rw [Trial.step] at taken
      split at taken
      · cases taken
      · rename_i service
        obtain ⟨world, stepped, rfl⟩ := Option.map_eq_some_iff.mp taken
        have truthful : trial.world.truthful action = true := fair
        have serves := Bool.eq_false_iff.mpr service
        have honest := faithful.carries.honest
        obtain ⟨after, exchange, turn⟩ := step_turn stepped
        obtain ⟨approvals, refunds, -, silent⟩ :=
          World.serves_of_turn honest.consistent serves turn
        obtain ⟨others, -, -, -, oldPerm, newPerm⟩ :=
          exchange.filterMap Task.unanswered?
        refine
          ⟨.single truthful stepped,
            { carries := faithful.carries.step truthful stepped
              agrees := faithful.agrees.of_ledgers approvals refunds
              once := World.presented_service honest faithful.once serves stepped
              answered := ?_ }⟩
        rw [faithful.answered] at oldPerm
        have rest := (List.append_eq_nil_iff.mp (List.perm_nil.mp oldPerm.symm)).2
        rw [rest, silent] at newPerm
        exact List.perm_nil.mp newPerm

/-- A trial of a new installation with a new gateway. -/
def initial (inventory : Inventory) (startsAt : Nat → Policy.Datetime)
    (clock : Time) (pg : FakePG) : Trial :=
  { world := World.initial inventory startsAt clock, pg }

theorem Faithful.initial {inventory : Inventory}
    {startsAt : Nat → Policy.Datetime} {clock : Time}
    (approveOutcome : PayResult) (loseResponse : Bool)
    (inquireOutcome : Option PayResult) (refundOutcome : PayResult) :
    (Trial.initial inventory startsAt clock
      (.init approveOutcome loseResponse inquireOutcome
        refundOutcome)).Faithful where
  carries := .initial inventory startsAt clock
  agrees :=
    { ledger := rfl
      issued := by
        intro number listed
        cases listed }
  once := List.nodup_nil
  answered := rfl

end Trial

theorem World.answer_isSome {world : World} {index : Nat} {call : Call}
    (found : world.calls[index]? = some call)
    (waits : ∀ attempt, (receive world.db attempt call).isSome = true)
    (attempt : PayAttempt) :
    (world.step (.answer index attempt)).isSome = true := by
  obtain ⟨progress, receives⟩ := Option.isSome_iff_exists.mp (waits attempt)
  simp [World.step, found, receives]

namespace Trial

variable {trial : Trial}

/-- The call at an index waits for an answer of the gateway. -/
def Awaits (trial : Trial) (index : Nat) : Prop :=
  ∃ call, trial.world.calls[index]? = some call ∧
    ∀ attempt, (receive trial.world.db attempt call).isSome = true

/-- Whoever waits for the gateway is answered by it. -/
theorem Faithful.answers (faithful : trial.Faithful) {index : Nat}
    (awaits : trial.Awaits index) :
    (trial.step (.exchange index)).isSome = true := by
  obtain ⟨call, found, waits⟩ := awaits
  have unexecuted := faithful.unanswered found
  have answered (world : World) (pg : FakePG) (attempt : PayAttempt)
      (same : world.calls[index]? = some call)
      (db : world.db = trial.world.db) :
      (Trial.answered { world, pg } index attempt).isSome = true := by
    rw [Trial.answered, Option.isSome_map]
    exact World.answer_isSome same (by rwa [db]) attempt
  rw [Trial.step, found]
  show (trial.exchange index call).isSome = true
  obtain ⟨progress, receives⟩ :=
    Option.isSome_iff_exists.mp (waits { result := .unknown })
  cases receives_of_receive receives with
  | placeUnanswered | placeDeclined | placeApproved =>
      exact answered _ _ _ found rfl
  | inquiryUnknown | inquiryBroken | inquiryApproved | inquiryDeclined =>
      exact answered _ _ _ found rfl
  | @placeRefunded request order pgTid total why executed =>
      obtain rfl : executed = none := unexecuted
      exact answered _ _ _ found rfl
  | @reconcileRefunded rest confirmed order pgTid total why executed =>
      obtain rfl : executed = none := unexecuted
      exact answered _ _ _ found rfl
  | @cancelRefunded cancellation executed =>
      obtain rfl : executed = none := unexecuted
      exact answered _ _ _ found rfl

/-- What a test may rely on, with the gateway in place of a real one. -/
structure Kept (trial : Trial) : Prop where
  ledger :
    trial.pg.ledger =
      trial.world.approvals.map fun approval =>
        (approval.orderId, approval.pgTid)
  once : trial.world.issued.Nodup
  first :
    ∀ (index : Nat) (request : PlaceRequest) (orderId : Nat) (amount : Int),
      trial.world.calls[index]? =
          some (.placing request (.approving orderId amount)) →
        trial.pg.entry orderId = none
  answers : ∀ index, trial.Awaits index → (trial.step (.exchange index)).isSome = true

/--
A fair trial is a run of the service with a gateway that keeps its contract.
The fake's ledger is the list of what it has executed, its numbers are all
different, no order is presented to it twice, and it leaves no request
unanswered.
-/
theorem truthful_run {inventory : Inventory} {startsAt : Nat → Policy.Datetime}
    {clock : Time} {approveOutcome : PayResult} {loseResponse : Bool}
    {inquireOutcome : Option PayResult} {refundOutcome : PayResult}
    (run :
      RunWhere Trial.step Trial.Fair
        (Trial.initial inventory startsAt clock
          (.init approveOutcome loseResponse inquireOutcome refundOutcome))
        trial) :
    RunWhere World.step (fun world action => world.truthful action = true)
        (World.initial inventory startsAt clock) trial.world ∧
      trial.Kept := by
  have simulated :
      RunWhere World.step (fun world action => world.truthful action = true)
          (World.initial inventory startsAt clock) trial.world ∧
        trial.Faithful := by
    induction run with
    | refl =>
        exact
          ⟨.refl,
            .initial approveOutcome loseResponse inquireOutcome refundOutcome⟩
    | tail _ fair taken induction =>
        obtain ⟨before, faithful⟩ := induction
        obtain ⟨rest, kept⟩ := faithful.step fair taken
        exact ⟨before.trans rest, kept⟩
  obtain ⟨before, faithful⟩ := simulated
  exact
    ⟨before,
      { ledger := faithful.agrees.ledger
        once := faithful.carries.honest.balanced.issued
        first := fun _ _ _ _ found => faithful.absent found
        answers := fun _ awaits => faithful.answers awaits }⟩

/-- The answer to an approval is lost, and the order is rescued and refunded. -/
theorem truthful_run_rescued :
    ∃ trial : Trial,
      (trial.pg.ledger == [(1, "tid-000001")] && trial.pg.serial == 3 &&
          trial.world.refunds.map (·.refundTid) == ["rfnd-000002"] &&
          trial.world.db.orders.map (·.status) == [.canceled]) = true ∧
        trial.Kept := by
  obtain ⟨trial, run, seen⟩ :=
    RunWhere.exists_of_checkedRun Trial.step Trial.Fair
      (Trial.initial .oneSeat
        (fun _ => { instant := seconds 8640000, offset := 0 }) 0
        (.init .approved true none .approved))
      ((Action.order 7 "key").map Happening.service ++
        [.exchange 0,
         .service (.tick (seconds 61).toNat),
         .service (.startReconcile 60 100),
         .exchange 0,
         .service (.advance 0),
         .service (.startCancel 1 none),
         .exchange 0,
         .service (.advance 0)])
      (fun trial =>
        trial.pg.ledger == [(1, "tid-000001")] && trial.pg.serial == 3 &&
          trial.world.refunds.map (·.refundTid) == ["rfnd-000002"] &&
          trial.world.db.orders.map (·.status) == [.canceled])
      (by decide)
  exact ⟨trial, seen, (truthful_run run).2⟩

end Trial

end Curtain
