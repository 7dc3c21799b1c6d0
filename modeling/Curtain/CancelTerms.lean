import Curtain.Lib.Tariff
import Curtain.Transactions

/-!
# The terms of a cancellation

The fee is a graded tariff over the days left until the show, so it is bounded
by the ticket amount and grows with it and with time.  The days are counted
between two local dates: which days these are depends on the offsets in which
the two date-times are written.
-/

namespace Curtain

open Queries OrderService

namespace Policy

/-! ## Local dates -/

/-- What the clocks show where the date-time is written. -/
def Datetime.wallClock (moment : Datetime) : Time :=
  moment.instant + moment.offset

/-- The milliseconds since the last local midnight. -/
def Datetime.timeOfDay (moment : Datetime) : Time :=
  moment.wallClock % 86400000

/-- `astimezone`: the same instant, written in another offset. -/
def Datetime.astimezone (moment : Datetime) (offset : Time) : Datetime :=
  { moment with offset }

/-- How many local midnights writing the date-time in another offset passes. -/
def Datetime.midnights (moment : Datetime) (offset : Time) : Int :=
  (moment.timeOfDay + (offset - moment.offset)) / 86400000

section Dates

variable {moment later : Datetime}

theorem Datetime.date_mono (ordered : moment.wallClock ≤ later.wallClock) :
    moment.date ≤ later.date :=
  Int.ediv_le_ediv (by decide) ordered

/-- The date moves by the midnights that are passed. -/
theorem Datetime.date_astimezone (moment : Datetime) (offset : Time) :
    (moment.astimezone offset).date = moment.date + moment.midnights offset := by
  simp only [date, astimezone, midnights, timeOfDay, wallClock]
  omega

end Dates

/-! ## The tiers -/

section Tiers

variable {amount fee : Int} {now startsAt : Datetime}

theorem cancelFeeTiers_graded : Tariff.Graded cancelFeeTiers := by
  decide

theorem cancelFeeTiers_rates {tier : Int × Int} (member : tier ∈ cancelFeeTiers) :
    0 ≤ tier.2 ∧ tier.2 ≤ 100 := by
  have all : ∀ tier ∈ cancelFeeTiers, 0 ≤ tier.2 ∧ tier.2 ≤ 100 := by decide
  exact all tier member

/-- The message of the raise in front of the loop. -/
def closedMessage (remaining : Int) : String :=
  "관람일 당일 이후로는 취소할 수 없습니다 (D" ++ signed remaining ++ ")"

theorem cancelFee_closed (late : daysUntilShow now startsAt < 1) :
    cancelFee amount now startsAt =
      .error (closedMessage (daysUntilShow now startsAt)) :=
  if_pos late

/-- From one day before the show on, some tier applies. -/
theorem exists_rate (open_ : 1 ≤ daysUntilShow now startsAt) :
    ∃ rate, Tariff.rateAt cancelFeeTiers (daysUntilShow now startsAt) = some rate :=
  Tariff.exists_rateAt (by decide : ((1, 20) : Int × Int) ∈ cancelFeeTiers) open_

/-- Until the day of the show the fee is a share of the amount. -/
theorem cancelFee_of_rate {rate : Int}
    (open_ : 1 ≤ daysUntilShow now startsAt)
    (found :
      Tariff.rateAt cancelFeeTiers (daysUntilShow now startsAt) = some rate) :
    cancelFee amount now startsAt = .ok (Tariff.share 100 amount rate) := by
  obtain ⟨⟨threshold, listed⟩, first, rfl⟩ := Option.map_eq_some_iff.mp found
  have notLate : ¬ daysUntilShow now startsAt < 1 := Int.not_lt.mpr open_
  rw [cancelFee]
  simp only [if_neg notLate, first]
  rfl

/-- A fee is the share of the amount at the rate of some tier. -/
theorem cancelFee_ok (ok : cancelFee amount now startsAt = .ok fee) :
    1 ≤ daysUntilShow now startsAt ∧
      ∃ rate, 0 ≤ rate ∧ rate ≤ 100 ∧
        Tariff.rateAt cancelFeeTiers (daysUntilShow now startsAt) = some rate ∧
        fee = Tariff.share 100 amount rate := by
  by_cases late : daysUntilShow now startsAt < 1
  · rw [cancelFee_closed late] at ok
    cases ok
  · have open_ := Int.not_lt.mp late
    obtain ⟨rate, found⟩ := exists_rate open_
    obtain ⟨tier, member, -, rfl⟩ := Tariff.rateAt_mem found
    obtain ⟨nonneg, atMost⟩ := cancelFeeTiers_rates member
    rw [cancelFee_of_rate open_ found] at ok
    cases ok
    exact ⟨open_, tier.2, nonneg, atMost, found, rfl⟩

/-- The only error is the one in front of the loop. -/
theorem cancelFee_error_iff {message : String} :
    cancelFee amount now startsAt = .error message ↔
      daysUntilShow now startsAt < 1 ∧
        message = closedMessage (daysUntilShow now startsAt) := by
  by_cases late : daysUntilShow now startsAt < 1
  · rw [cancelFee_closed late]
    simp [late, eq_comm]
  · have open_ := Int.not_lt.mp late
    obtain ⟨rate, found⟩ := exists_rate open_
    rw [cancelFee_of_rate open_ found]
    simp [late]

theorem cancelFee_nonneg (nonneg : 0 ≤ amount)
    (ok : cancelFee amount now startsAt = .ok fee) :
    0 ≤ fee := by
  obtain ⟨-, rate, rateNonneg, -, -, rfl⟩ := cancelFee_ok ok
  exact Tariff.share_nonneg (by decide) nonneg rateNonneg

theorem cancelFee_le (nonneg : 0 ≤ amount)
    (ok : cancelFee amount now startsAt = .ok fee) :
    fee ≤ amount := by
  obtain ⟨-, rate, rateNonneg, atMost, -, rfl⟩ := cancelFee_ok ok
  exact Tariff.share_le (by decide) nonneg rateNonneg atMost

/-- Waiting makes no fee smaller, and neither does a larger amount. -/
theorem cancelFee_mono {later : Datetime} {more charged : Int}
    (nonneg : 0 ≤ amount)
    (ordered : now.wallClock ≤ later.wallClock) (larger : amount ≤ more)
    (ok : cancelFee amount now startsAt = .ok fee)
    (okLater : cancelFee more later startsAt = .ok charged) :
    fee ≤ charged := by
  obtain ⟨-, rate, rateNonneg, -, found, rfl⟩ := cancelFee_ok ok
  obtain ⟨-, higher, -, -, foundLater, rfl⟩ := cancelFee_ok okLater
  have dates := Datetime.date_mono ordered
  have nearer : daysUntilShow later startsAt ≤ daysUntilShow now startsAt :=
    Int.sub_le_sub_left dates startsAt.date
  exact
    Tariff.share_mono (by decide) nonneg rateNonneg larger
      (cancelFeeTiers_graded.rateAt_le nearer foundLater found)

/-- Only the two dates matter. -/
theorem cancelFee_congr {moment show_ : Datetime}
    (sameDay : daysUntilShow moment show_ = daysUntilShow now startsAt) :
    cancelFee amount moment show_ = cancelFee amount now startsAt := by
  simp only [cancelFee, sameDay]

/-- Cancelling two parts against cancelling the whole. -/
theorem cancelFee_split {first second : Int}
    (firstNonneg : 0 ≤ first) (secondNonneg : 0 ≤ second)
    (ok : cancelFee (first + second) now startsAt = .ok fee) :
    ∃ firstFee secondFee,
      cancelFee first now startsAt = .ok firstFee ∧
        cancelFee second now startsAt = .ok secondFee ∧
        firstFee + secondFee ≤ fee ∧ fee ≤ firstFee + secondFee + 1 := by
  obtain ⟨open_, rate, rateNonneg, -, found, rfl⟩ := cancelFee_ok ok
  exact
    ⟨_, _, cancelFee_of_rate open_ found, cancelFee_of_rate open_ found,
      Tariff.share_add (by decide) firstNonneg secondNonneg rateNonneg⟩

end Tiers

/-! ## What the terms promise -/

/-- The terms of cancelling a ticket of some amount at some time. -/
structure FairTerms (amount : Int) (now startsAt : Datetime) : Prop where
  closed :
    ∀ message,
      cancelFee amount now startsAt = .error message ↔
        daysUntilShow now startsAt < 1 ∧
          message = closedMessage (daysUntilShow now startsAt)
  bounded :
    ∀ fee, cancelFee amount now startsAt = .ok fee → 0 ≤ fee ∧ fee ≤ amount
  /-- What `cancel` asks the gateway for. -/
  refund :
    ∀ orderId db cancellation,
      prepareCancel orderId now db = .ok cancellation →
        cancellation.order.totalAmount = amount →
          db.startsAt cancellation.order.scheduleId = startsAt →
            cancelFee amount now startsAt = .ok cancellation.fee ∧
              cancellation.fee + cancellation.refundAmount = amount ∧
              0 ≤ cancellation.refundAmount
  monotone :
    ∀ later more fee charged,
      now.wallClock ≤ later.wallClock → amount ≤ more →
        cancelFee amount now startsAt = .ok fee →
          cancelFee more later startsAt = .ok charged → fee ≤ charged
  sameDay :
    ∀ moment show_ : Datetime,
      moment.date = now.date → show_.date = startsAt.date →
        cancelFee amount moment show_ = cancelFee amount now startsAt
  split :
    ∀ first second fee,
      0 ≤ first → 0 ≤ second → first + second = amount →
        cancelFee amount now startsAt = .ok fee →
          ∃ firstFee secondFee,
            cancelFee first now startsAt = .ok firstFee ∧
              cancelFee second now startsAt = .ok secondFee ∧
              firstFee + secondFee ≤ fee ∧ fee ≤ firstFee + secondFee + 1

/--
The fee of every amount is bounded, monotone in time and amount, the same all
day long, and additive up to one unit; cancelling ends with the day before the
show.
-/
theorem cancelFee_fair {amount : Int}
    (nonneg : 0 ≤ amount) (now startsAt : Datetime) :
    FairTerms amount now startsAt :=
  { closed := fun message => cancelFee_error_iff
    bounded := fun fee ok => ⟨cancelFee_nonneg nonneg ok, cancelFee_le nonneg ok⟩
    refund := by
      rintro orderId db cancellation prepared rfl rfl
      obtain ⟨order, -, approved, -, -, -, priced, own, -⟩ :=
        prepareCancel_ok prepared
      rw [← own] at priced
      have atMost := cancelFee_le nonneg priced
      refine ⟨priced, ?_, ?_⟩
      · rw [Cancellation.refundAmount]
        omega
      · rw [Cancellation.refundAmount]
        omega
    monotone := fun later more fee charged ordered larger =>
      cancelFee_mono nonneg ordered larger
    sameDay := by
      intro moment show_ sameNow sameShow
      apply cancelFee_congr
      rw [daysUntilShow, daysUntilShow, sameNow, sameShow]
    split := by
      rintro first second fee firstNonneg secondNonneg rfl ok
      exact cancelFee_split firstNonneg secondNonneg ok }

/-- Half of a hundred thousand is cancelled on the day before the show. -/
theorem cancelFee_fair_hundredThousand :
    FairTerms 100000 { instant := seconds 1790697600, offset := 0 }
      { instant := seconds 1790762400, offset := 0 } :=
  cancelFee_fair (by decide) _ _

/-! ## Writing the date-times in other offsets -/

/--
The terms when now and the show are written in two other offsets: the days
left, whether cancelling is closed, the fee, and what `cancel` makes of an
order of this amount for this show.
-/
structure TermsKept (amount : Int) (now startsAt : Datetime)
    (offset showOffset : Time) : Prop where
  days :
    daysUntilShow (now.astimezone offset) (startsAt.astimezone showOffset) =
      daysUntilShow now startsAt
  closed :
    (∃ message,
        cancelFee amount (now.astimezone offset)
          (startsAt.astimezone showOffset) = .error message) ↔
      ∃ message, cancelFee amount now startsAt = .error message
  fee :
    ∀ fee,
      cancelFee amount (now.astimezone offset)
          (startsAt.astimezone showOffset) = .ok fee ↔
        cancelFee amount now startsAt = .ok fee
  cancel :
    ∀ orderId db order,
      orderForSaga orderId db = some order → order.totalAmount = amount →
        db.startsAt order.scheduleId = startsAt →
          prepareCancel orderId (now.astimezone offset)
              { db with
                startsAt := fun scheduleId =>
                  (db.startsAt scheduleId).astimezone showOffset } =
            prepareCancel orderId now db

/--
The terms survive exactly when writing now and writing the show in the other
offsets passes equally many local midnights.
-/
theorem terms_kept_iff (amount : Int) (now startsAt : Datetime)
    (offset showOffset : Time) :
    TermsKept amount now startsAt offset showOffset ↔
      now.midnights offset = startsAt.midnights showOffset := by
  have days :
      daysUntilShow (now.astimezone offset) (startsAt.astimezone showOffset) =
          daysUntilShow now startsAt ↔
        now.midnights offset = startsAt.midnights showOffset := by
    rw [daysUntilShow, daysUntilShow, Datetime.date_astimezone,
      Datetime.date_astimezone]
    omega
  rw [← days]
  constructor
  · exact TermsKept.days
  · intro same
    have terms :
        cancelFee amount (now.astimezone offset)
            (startsAt.astimezone showOffset) = cancelFee amount now startsAt :=
      cancelFee_congr same
    refine
      { days := same
        closed := by rw [terms]
        fee := fun fee => by rw [terms]
        cancel := ?_ }
    rintro orderId db order found rfl rfl
    have loaded : loadOrder orderId db = .ok order := by
      rw [loadOrder, found]
    have loadedAgain :
        loadOrder orderId
            { db with
              startsAt := fun scheduleId =>
                (db.startsAt scheduleId).astimezone showOffset } =
          .ok order := loaded
    simp only [prepareCancel, loaded, loadedAgain, approvedPayment, bind,
      Except.bind, terms]

/-- Nine hours ahead of UTC. -/
def koreanOffset : Time :=
  seconds 32400

/--
At one in the morning in Korea it is still the day before a show at ten o'clock
UTC; a caller who passes Korean time is told that it is the day of the show.
-/
theorem terms_kept_fails :
    ¬ ∀ (amount : Int) (now startsAt : Datetime) (offset showOffset : Time),
        TermsKept amount now startsAt offset showOffset := by
  intro claim
  have kept :=
    claim 100000 { instant := seconds 1790697600, offset := 0 }
      { instant := seconds 1790762400, offset := 0 } koreanOffset 0
  have fee := (kept.fee 20000).mpr (by decide)
  revert fee
  decide

end Policy

end Curtain
