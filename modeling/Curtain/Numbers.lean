import Curtain.Ledger

/-!
# The numbers of refunds

`payments.pg_tid` is unique, so recording a refund could fail although the
gateway has executed it.  It does not: the number of an executed refund is
carried by one call only and stored at most once.
-/

namespace Curtain

open Queries Table HoldService OrderService

/-- The number of an executed refund, as long as a call carries it. -/
def Task.number : Task → Option String
  | .settling (.refunding _ _ _ _ number) => number
  | .settling (.recording _ _ _ attempt) => attempt.pgTid
  | .canceling _ (.refunding number) => number
  | .canceling _ (.closing attempt) => attempt.pgTid
  | _ => none

/-- The numbers stored in `payments`. -/
def Db.stored (db : Db) : List String :=
  db.payments.filterMap (·.pgTid)

/-- The numbers that calls carry, and those that payments store. -/
def World.numbers (world : World) : List String :=
  world.tasks.filterMap Task.number ++ world.db.stored

/-! ## What the transactions store -/

section Stored

variable {db after : Db}

theorem insertPayment_stored
    {orderId : Nat} {status : PayStatus} {amount : Int}
    {pgTid : Option String} {fees : Option FeeSnapshot}
    (ok : insertPayment orderId status amount pgTid fees db = .ok after) :
    after.stored = db.stored ++ pgTid.toList := by
  obtain ⟨-, rfl⟩ := insertPayment_ok.mp ok
  rw [Db.stored, List.filterMap_append]
  cases pgTid <;> rfl

/-- An insertion fails only when its number is stored already. -/
theorem insertPayment_error
    {orderId : Nat} {status : PayStatus} {amount : Int}
    {pgTid : Option String} {fees : Option FeeSnapshot} {error : Raised}
    (failed : insertPayment orderId status amount pgTid fees db = .error error) :
    ¬ (db.stored ++ pgTid.toList).Nodup := by
  rw [insertPayment, storePayments] at failed
  split at failed
  · cases failed
  · rename_i collision
    rw [UniqueNullable, List.filterMap_append] at collision
    cases pgTid <;> exact collision

/-- The request of a new order has no number yet. -/
theorem Opened.stored {request : OrderService.PlaceRequest} {now : Time}
    {order : Order} (opened : Opened request now db order after) :
    after.stored = db.stored := by
  rw [opened.after_eq, Db.stored, Db.stored, List.filterMap_append]
  exact List.append_nil _

theorem failPendingPayments_stored (orderId : Nat) (db : Db) :
    (failPendingPayments orderId db).stored = db.stored := by
  have kept :
      (updateWhere (isRequested orderId)
          (fun payment => { payment with status := .failed })
          db.payments).map (·.pgTid) =
        db.payments.map (·.pgTid) := by
    apply map_updateWhere
    intro row
    rfl
  have both := congrArg (List.filterMap id) kept
  rwa [List.filterMap_map, List.filterMap_map] at both

theorem closeUnpaid_stored
    {orderId : Nat} {status : OrderStatus}
    (ok : closeUnpaid orderId status db = .ok after) :
    after.stored = db.stored := by
  rcases closeUnpaid_ok ok with rfl | ⟨order, -, -, -, rfl⟩
  · rfl
  · exact
      failPendingPayments_stored orderId
        (markOrder orderId status .pending db).2

theorem recordRefund_stored
    {order : Order} {total : Int} {attempt : PayAttempt}
    (ok : recordRefund order total attempt db = .ok after) :
    after.stored = db.stored ++ attempt.pgTid.toList := by
  obtain ⟨middle, inserted, rfl⟩ := recordRefund_ok ok
  have failed := failPendingPayments_stored order.id middle
  rw [← insertPayment_stored inserted]
  split
  · exact failed
  · exact failed

theorem recordRefund_error
    {order : Order} {total : Int} {attempt : PayAttempt} {error : Raised}
    (failed : recordRefund order total attempt db = .error error) :
    ¬ (db.stored ++ attempt.pgTid.toList).Nodup := by
  rw [recordRefund] at failed
  cases inserted :
      insertPayment order.id (if attempt.approved then .refunded else .failed)
        total attempt.pgTid none db with
  | error collision => exact insertPayment_error inserted
  | ok middle =>
      rw [inserted] at failed
      simp only [bind, Except.bind] at failed
      split at failed
      · split at failed <;> cases failed
      · cases failed

theorem closeCanceled_stored
    {cancellation : Cancellation} {attempt : PayAttempt}
    (ok : closeCanceled cancellation attempt db = .ok after) :
    after.stored = db.stored ∨
      after.stored = db.stored ++ attempt.pgTid.toList := by
  rcases closeCanceled_ok ok with ⟨rfl, -⟩ | ⟨-, refunded, inserted, rfl⟩
  · exact Or.inl rfl
  · have stored := insertPayment_stored inserted
    exact Or.inr stored

theorem closeCanceled_error
    {cancellation : Cancellation} {attempt : PayAttempt} {error : Raised}
    (failed : closeCanceled cancellation attempt db = .error error) :
    ¬ (db.stored ++ attempt.pgTid.toList).Nodup := by
  rw [closeCanceled] at failed
  split at failed
  rename_i closed marked found
  have same : marked.stored = db.stored := by
    have equal := congrArg (fun result => result.2.stored) found
    exact equal.symm
  by_cases settled : closed = []
  · rw [if_pos settled] at failed
    cases failed
  · rw [if_neg settled] at failed
    cases inserted :
        insertPayment cancellation.order.id .refunded
          cancellation.refundAmount attempt.pgTid
          (some (feeSnapshot cancellation
            (db.startsAt cancellation.order.scheduleId))) marked with
    | error collision =>
        rw [← same]
        exact insertPayment_error inserted
    | ok refunded =>
        rw [inserted] at failed
        cases failed

/-- A confirmation stores its own number and no other new one. -/
theorem Confirmed.mem_stored
    {order : Order} {pgTid : String} {now : Time}
    (confirmed : Confirmed order pgTid now db after) :
    ∀ number ∈ after.stored, number ∈ db.stored ∨ number = pgTid := by
  intro number listed
  obtain ⟨payment, member, carried⟩ := List.mem_filterMap.mp listed
  rcases confirmed.promoted with ⟨-, equal⟩ | ⟨-, equal⟩
  · rw [equal] at member
    obtain ⟨old, oldMember, ⟨-, rfl⟩ | ⟨-, rfl⟩⟩ := mem_updateWhere.mp member
    · exact Or.inr (Option.some_injective _ carried).symm
    · exact Or.inl (List.mem_filterMap.mpr ⟨payment, oldMember, carried⟩)
  · rw [equal] at member
    rcases List.mem_append.mp member with old | new
    · exact Or.inl (List.mem_filterMap.mpr ⟨payment, old, carried⟩)
    · rw [List.mem_singleton.mp new] at carried
      exact Or.inr (Option.some_injective _ carried).symm

end Stored

/-! ## Every number once -/

/-- Every number is carried or stored once, and comes from the gateway. -/
structure World.Carries (world : World) : Prop where
  honest : world.Honest
  nodup : world.numbers.Nodup
  issued : ∀ number ∈ world.numbers, number ∈ world.issued
  refunds :
    ∀ number ∈ world.tasks.filterMap Task.number,
      number ∈ world.refunds.map (·.refundTid)

/-- The number of a task that may be missing. -/
def carriedBy (task : Option Task) : List String :=
  (task.bind Task.number).toList

theorem carriedBy_quiet {task : Option Task} (quiet : Quiet task) :
    carriedBy task = [] := by
  cases task with
  | none => rfl
  | some busy =>
      obtain ⟨orderId, rfl⟩ := quiet busy rfl
      rfl

theorem carriedBy_passing {task : Option Task} (passing : Passing task) :
    carriedBy task = [] := by
  rcases task with _ | ⟨_ | _ | ⟨_ | _ | _ | _ | _⟩ | _⟩
  case some.settling.refunding => cases passing _ rfl
  case some.settling.recording => cases passing _ rfl
  case some.canceling => cases passing _ rfl
  all_goals rfl

theorem Books.approves_mem {books : Books} {orderId : Nat} {pgTid : String}
    (approves : books.approves orderId pgTid = true) :
    pgTid ∈ books.approvals.map (·.pgTid) := by
  obtain ⟨approval, member, equal⟩ := List.any_eq_true.mp approves
  simp only [Bool.and_eq_true, beq_iff_eq] at equal
  rw [← equal.2]
  exact List.mem_map_of_mem member

namespace World.Carries

variable {world next : World} {action : Action} {before after : Option Task}
variable {books : Books}

/-- The numbers after a turn, apart from those of the other calls. -/
theorem turn_numbers (carries : world.Carries)
    (truthful : world.truthful action = true)
    (current : world.taskOf action = before)
    (known : ∀ task ∈ before, task ∈ world.tasks)
    (turn : Turn world action before after books) :
    (carriedBy after ++ books.db.stored).Subperm
        (carriedBy before ++ world.db.stored) ∨
      (∃ number ∉ world.issued,
        carriedBy after = [number] ∧ carriedBy before = [] ∧
          books.db.stored = world.db.stored) ∨
      (carriedBy after = [] ∧ carriedBy before = [] ∧ books.db.stored.Nodup ∧
        ∃ orderId pgTid, world.approves orderId pgTid = true ∧
          ∀ number ∈ books.db.stored,
            number ∈ world.db.stored ∨ number = pgTid) := by
  have honest := carries.honest
  have same :
      carriedBy after = carriedBy before → books.db.stored = world.db.stored →
        (carriedBy after ++ books.db.stored).Subperm
          (carriedBy before ++ world.db.stored) := by
    intro carried stored
    rw [carried, stored]
  have answered :
      ∀ {attempt : PayAttempt} {number : Option String} {stored : List String},
        World.truthfulRefund attempt number = true →
          (attempt.pgTid.toList ++ stored).Subperm (number.toList ++ stored) := by
    intro attempt number stored truthful
    rw [truthfulRefund] at truthful
    split at truthful
    · simp only [Bool.and_eq_true, beq_iff_eq] at truthful
      rw [truthful.2]
    · simp only [Bool.and_eq_true, Option.isNone_iff_eq_none] at truthful
      rw [truthful.2, truthful.1]
    · rw [Option.isNone_iff_eq_none] at truthful
      rw [truthful]
      exact (List.sublist_append_right _ _).subperm
  have moved :
      ∀ {number : Option String} {stored : List String},
        ([] ++ (stored ++ number.toList)).Subperm (number.toList ++ stored) := by
    intro number stored
    rw [List.nil_append]
    exact List.perm_append_comm.subperm
  have dropped :
      ∀ {number : Option String} {stored : List String},
        ([] ++ stored).Subperm (number.toList ++ stored) :=
    fun {number stored} => (List.sublist_append_right _ _).subperm
  cases turn with
  | idle passing quiet =>
      exact
        Or.inl (same
          ((carriedBy_quiet quiet).trans (carriedBy_passing passing).symm) rfl)
  | acquired ok =>
      obtain ⟨-, rfl⟩ := acquireSeats_ok honest.consistent.sound.rowUnique ok
      exact Or.inl (same rfl rfl)
  | opened opened => exact Or.inl (same rfl opened.stored)
  | approved asked =>
      rename_i asking orderId pgTid amount result number sum
      cases asking with
      | approving | inquiring => exact Or.inl (same rfl rfl)
      | settling | canceling => cases asked
  | declined asked =>
      rename_i asking orderId status result final
      cases asking with
      | approving | inquiring => exact Or.inl (same rfl rfl)
      | settling | canceling => cases asked
  | confirmed confirms source confirmed quiet =>
      have approves := honest.confirms_approves truthful known source
      have unnumbered : carriedBy before = [] := by
        rcases source with ⟨amount, rfl⟩ | ⟨rfl, -⟩
        · rfl
        · rfl
      exact
        Or.inr (Or.inr
          ⟨carriedBy_quiet quiet, unnumbered, confirmed.numbered, _, _,
            approves, confirmed.mem_stored⟩)
  | refundExecuted fresh => exact Or.inr (Or.inl ⟨_, fresh, rfl, rfl, rfl⟩)
  | refundAnswered =>
      simp only [World.truthful, current, Option.all_some, truthfulAnswer]
        at truthful
      exact Or.inl (answered truthful)
  | recorded recorded quiet =>
      left
      rw [carriedBy_quiet quiet, recordRefund_stored recorded]
      exact moved
  | unrecorded failed quiet =>
      left
      rw [carriedBy_quiet quiet]
      exact dropped
  | closed closed quiet =>
      refine Or.inl (same (carriedBy_quiet quiet) ?_)
      exact closeUnpaid_stored closed
  | cancelExecuted fresh => exact Or.inr (Or.inl ⟨_, fresh, rfl, rfl, rfl⟩)
  | cancelAnswered =>
      simp only [World.truthful, current, Option.all_some, truthfulAnswer]
        at truthful
      left
      split
      · exact answered truthful
      · exact dropped
  | cancelFailed recorded =>
      refine Or.inl (same rfl ?_)
      rw [insertPayment_stored recorded]
      exact List.append_nil _
  | cancelClosed closed =>
      left
      rcases closeCanceled_stored closed with stored | stored
      · rw [stored]
        exact dropped
      · rw [stored]
        exact moved
  | cancelUnclosed => exact Or.inl dropped
  | _ => exact Or.inl (same rfl rfl)

/-- A number that a call carries is not stored yet. -/
theorem stored_nodup (carries : world.Carries) {carried : Option String}
    (listed :
      ∀ number, carried = some number →
        number ∈ world.tasks.filterMap Task.number) :
    (world.db.stored ++ carried.toList).Nodup := by
  obtain ⟨-, stored, disjoint⟩ := List.nodup_append.mp carries.nodup
  refine List.nodup_append.mpr ⟨stored, by cases carried <;> simp, ?_⟩
  rintro number inStored other isCarried rfl
  have given := listed number (Option.mem_toList.mp isCarried)
  exact disjoint number given number inStored rfl

/-- A number in the answer to a refund is the number of the refund. -/
theorem executed_of_answered
    {attempt : PayAttempt} {executed : Option String} {number : String}
    (truthful : World.truthfulRefund attempt executed = true)
    (answered : attempt.pgTid = some number) :
    executed = some number := by
  rw [truthfulRefund] at truthful
  split at truthful
  · simp only [Bool.and_eq_true, beq_iff_eq] at truthful
    rw [← truthful.2, answered]
  · simp [answered] at truthful
  · simp [answered] at truthful

/-- A number a task carries after a turn is the number of a refund. -/
theorem carried_after (carries : world.Carries)
    (truthful : world.truthful action = true)
    (current : world.taskOf action = before)
    (known : ∀ task ∈ before, task ∈ world.tasks)
    (turn : Turn world action before after books) :
    ∀ number ∈ carriedBy after, number ∈ books.refunds.map (·.refundTid) := by
  have nothing :
      carriedBy after = [] →
        ∀ number ∈ carriedBy after, number ∈ books.refunds.map (·.refundTid) := by
    intro empty number listed
    rw [empty] at listed
    cases listed
  have executing :
      ∀ {refund : Refund},
        refund.refundTid ∈ (world.refunds ++ [refund]).map (·.refundTid) :=
    List.mem_map_of_mem (List.mem_append_right _ (List.mem_singleton_self _))
  have before_refunds :
      ∀ {task : Task} {number : String}, task ∈ world.tasks →
        task.number = some number →
          number ∈ world.refunds.map (·.refundTid) :=
    fun member carried =>
      carries.refunds _ (List.mem_filterMap.mpr ⟨_, member, carried⟩)
  cases turn with
  | idle passing quiet => exact nothing (carriedBy_quiet quiet)
  | confirmed confirms source confirmed quiet =>
      exact nothing (carriedBy_quiet quiet)
  | recorded recorded quiet => exact nothing (carriedBy_quiet quiet)
  | unrecorded failed quiet => exact nothing (carriedBy_quiet quiet)
  | closed closed quiet => exact nothing (carriedBy_quiet quiet)
  | refundExecuted =>
      intro number listed
      rw [List.mem_singleton.mp listed]
      exact executing
  | cancelExecuted =>
      intro number listed
      rw [List.mem_singleton.mp listed]
      exact executing
  | refundAnswered =>
      simp only [World.truthful, current, Option.all_some, truthfulAnswer]
        at truthful
      intro number listed
      have answered := Option.mem_toList.mp listed
      have executed := executed_of_answered truthful answered
      exact before_refunds (known _ rfl) executed
  | cancelAnswered =>
      simp only [World.truthful, current, Option.all_some, truthfulAnswer]
        at truthful
      intro number listed
      split at listed
      · have answered := Option.mem_toList.mp listed
        have executed := executed_of_answered truthful answered
        exact before_refunds (known _ rfl) executed
      · cases listed
  | _ => exact nothing rfl

theorem step (carries : world.Carries)
    (truthful : world.truthful action = true)
    (taken : world.step action = some next) :
    next.Carries := by
  obtain ⟨after, exchange, turn⟩ := step_turn taken
  generalize current : world.taskOf action = before at turn exchange
  have known := exchange.mem_before
  have grows := turn.grows carries.honest.consistent
  have issuedGrows : ∀ number ∈ world.issued, number ∈ next.issued := by
    intro number listed
    rcases List.mem_append.mp listed with approval | refund
    · obtain ⟨row, member, rfl⟩ := List.mem_map.mp approval
      exact
        List.mem_append_left _
          (List.mem_map_of_mem (grows.approvals.subset member))
    · obtain ⟨row, member, rfl⟩ := List.mem_map.mp refund
      exact
        List.mem_append_right _
          (List.mem_map_of_mem (grows.refunds.subset member))
  obtain ⟨tasks, -, -, -, oldPerm, newPerm⟩ := exchange.filterMap Task.number
  generalize tasks.filterMap Task.number = others at oldPerm newPerm
  have oldNumbers :
      world.numbers.Perm
        (others ++ (carriedBy before ++ world.db.stored)) := by
    rw [World.numbers, ← List.append_assoc]
    exact (oldPerm.trans List.perm_append_comm).append_right _
  have newNumbers :
      next.numbers.Perm (others ++ (carriedBy after ++ next.db.stored)) := by
    rw [World.numbers, ← List.append_assoc]
    exact (newPerm.trans List.perm_append_comm).append_right _
  have oldNodup := oldNumbers.nodup_iff.mp carries.nodup
  have oldIssued :
      ∀ number ∈ others ++ (carriedBy before ++ world.db.stored),
        number ∈ world.issued :=
    fun number listed => carries.issued number (oldNumbers.mem_iff.mpr listed)
  have othersRefunds :
      ∀ number ∈ others, number ∈ world.refunds.map (·.refundTid) :=
    fun number listed =>
      carries.refunds number
        (oldPerm.mem_iff.mpr (List.mem_append_right _ listed))
  have carried := carries.carried_after truthful current known turn
  refine
    { honest := carries.honest.step truthful taken
      nodup := newNumbers.nodup_iff.mpr ?_
      issued := fun number listed => ?_
      refunds := fun number listed => ?_ }
  · rcases carries.turn_numbers truthful current known turn with
      fewer | ⟨number, fresh, isNew, isOld, stored⟩ |
      ⟨isNew, isOld, distinct, orderId, pgTid, approves, stored⟩
    · obtain ⟨part, perm, sublist⟩ := (List.subperm_append_left others).mpr fewer
      exact perm.nodup_iff.mp (oldNodup.sublist sublist)
    · rw [isNew, stored]
      rw [isOld] at oldNodup oldIssued
      refine List.perm_middle.nodup_iff.mpr (List.nodup_cons.mpr ⟨?_, oldNodup⟩)
      exact fun listed => fresh (oldIssued number listed)
    · rw [isNew, List.nil_append]
      rw [isOld, List.nil_append] at oldNodup
      obtain ⟨othersNodup, -, disjoint⟩ := List.nodup_append.mp oldNodup
      refine List.nodup_append.mpr ⟨othersNodup, distinct, ?_⟩
      rintro number inOthers _ inStored rfl
      rcases stored number inStored with old | rfl
      · exact disjoint number inOthers number old rfl
      · exact
          (List.nodup_append.mp carries.honest.balanced.issued).2.2
            number (Books.approves_mem approves) number
            (othersRefunds number inOthers) rfl
  · rcases List.mem_append.mp (newNumbers.mem_iff.mp listed) with
      inOthers | inTurn
    · exact issuedGrows number (oldIssued number (List.mem_append_left _ inOthers))
    rcases List.mem_append.mp inTurn with inAfter | inStored
    · exact List.mem_append_right _ (carried number inAfter)
    have old :
        number ∈ carriedBy before ++ world.db.stored →
          number ∈ next.issued :=
      fun found =>
        issuedGrows number (oldIssued number (List.mem_append_right _ found))
    rcases carries.turn_numbers truthful current known turn with
      fewer | ⟨_, -, -, -, stored⟩ | ⟨-, -, -, orderId, pgTid, approves, stored⟩
    · exact old (fewer.subset (List.mem_append_right _ inStored))
    · rw [stored] at inStored
      exact old (List.mem_append_right _ inStored)
    · rcases stored number inStored with found | rfl
      · exact old (List.mem_append_right _ found)
      · exact
          issuedGrows number (List.mem_append_left _ (Books.approves_mem approves))
  · rcases List.mem_append.mp (newPerm.mem_iff.mp listed) with
      inAfter | inOthers
    · exact carried number inAfter
    · obtain ⟨refund, member, rfl⟩ :=
        List.mem_map.mp (othersRefunds number inOthers)
      exact List.mem_map_of_mem (grows.refunds.subset member)

theorem initial
    (inventory : Inventory) (startsAt : Nat → Policy.Datetime) (clock : Time) :
    (World.initial inventory startsAt clock).Carries :=
  { honest := .initial inventory startsAt clock
    nodup := by simp [numbers, World.initial, tasks, Db.stored]
    issued := by simp [numbers, World.initial, tasks, Db.stored]
    refunds := by simp [World.initial, tasks] }

/-- Recording the refund of a call in progress does not fail. -/
theorem recordRefund_ok (carries : world.Carries)
    {order : Order} {total : Int} {why error : Raised} {attempt : PayAttempt}
    (member : .settling (.recording order total why attempt) ∈ world.tasks) :
    recordRefund order total attempt world.db ≠ .error error := by
  intro failed
  refine recordRefund_error failed (carries.stored_nodup ?_)
  intro number equal
  exact List.mem_filterMap.mpr ⟨_, member, equal⟩

/-- Closing a canceled order after its refund does not fail. -/
theorem closeCanceled_ok (carries : world.Carries)
    {cancellation : Cancellation} {error : Raised} {attempt : PayAttempt}
    (member : .canceling cancellation (.closing attempt) ∈ world.tasks) :
    closeCanceled cancellation attempt world.db ≠ .error error := by
  intro failed
  refine closeCanceled_error failed (carries.stored_nodup ?_)
  intro number equal
  exact List.mem_filterMap.mpr ⟨_, member, equal⟩

end World.Carries

end Curtain
