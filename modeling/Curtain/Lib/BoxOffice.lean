import Mathlib.Data.Set.Basic
import Mathlib.Logic.Relation

/-!
# A box office

What an office promises about its places, and the sales that it has opened.  A
place is free, held for a customer until a time, or sold to a sale.  A sale
asks for a set of places and gets all of them at once or none, and it gives all
of them back at once.

The office is described by sets and functions over any types of places,
customers, sale numbers and times; who runs it, and how, is left open.
-/

namespace BoxOffice

/-- What the office has promised about a place. -/
inductive Promise (Customer Number Time : Type*) where
  | free
  | held (customer : Customer) (expiry : Time)
  | sold (number : Number)
deriving DecidableEq, Repr

/-- How far a sale has come. -/
inductive Standing where
  | opened
  | sold
  | void
  | returned
deriving DecidableEq, Repr

/-- Who asks for which places, and how far that has come. -/
structure Sale (Place Customer : Type*) where
  buyer : Customer
  places : Set Place
  standing : Standing

/-- The office: a place without a promise is not on offer. -/
@[ext]
structure Office (Place Customer Number Time : Type*) where
  now : Time
  promise : Place → Option (Promise Customer Number Time)
  sale : Number → Option (Sale Place Customer)

namespace Office

variable {Place Customer Number Time : Type*}

open Classical in
/-- The same promise for all of the places. -/
noncomputable def promises (office : Office Place Customer Number Time)
    (places : Set Place) (made : Promise Customer Number Time) :
    Office Place Customer Number Time :=
  { office with
    promise := fun place =>
      if place ∈ places then some made else office.promise place }

open Classical in
/-- The sale is written under its number. -/
noncomputable def records (office : Office Place Customer Number Time)
    (number : Number) (sale : Sale Place Customer) :
    Office Place Customer Number Time :=
  { office with
    sale := fun other => if other = number then some sale else office.sale other }

section Promises

variable {office : Office Place Customer Number Time}
variable {places : Set Place} {made : Promise Customer Number Time}
variable {number other : Number} {sale : Sale Place Customer} {place : Place}

theorem promises_of_mem (member : place ∈ places) :
    (office.promises places made).promise place = some made :=
  if_pos member

theorem promises_of_not_mem (other : place ∉ places) :
    (office.promises places made).promise place = office.promise place :=
  if_neg other

@[simp]
theorem promises_sale : (office.promises places made).sale = office.sale := rfl

@[simp]
theorem records_promise :
    (office.records number sale).promise = office.promise := rfl

@[simp]
theorem records_self : (office.records number sale).sale number = some sale :=
  if_pos rfl

theorem records_of_ne (apart : other ≠ number) :
    (office.records number sale).sale other = office.sale other :=
  if_neg apart

end Promises

/-- The customer has the place on hold. -/
def HeldBy (office : Office Place Customer Number Time) (customer : Customer)
    (place : Place) : Prop :=
  ∃ expiry, office.promise place = some (.held customer expiry)

/-! ## The books of an office -/

/-- The places that are sold are those of the sold sales. -/
def Coherent (office : Office Place Customer Number Time) : Prop :=
  ∀ place number,
    office.promise place = some (.sold number) ↔
      ∃ sale, office.sale number = some sale ∧ sale.standing = .sold ∧
        place ∈ sale.places

section Laws

variable {office next : Office Place Customer Number Time}
variable {places : Set Place} {number : Number} {sale : Sale Place Customer}

/-- No place is sold to two sales. -/
theorem Coherent.apart {left right : Number}
    {first second : Sale Place Customer} {place : Place}
    (coherent : office.Coherent)
    (firstFound : office.sale left = some first) (firstSold : first.standing = .sold)
    (secondFound : office.sale right = some second)
    (secondSold : second.standing = .sold)
    (inFirst : place ∈ first.places) (inSecond : place ∈ second.places) :
    left = right := by
  have toFirst := (coherent place left).mpr ⟨first, firstFound, firstSold, inFirst⟩
  have toSecond :=
    (coherent place right).mpr ⟨second, secondFound, secondSold, inSecond⟩
  cases toFirst.symm.trans toSecond
  rfl

/-- Places that are not sold may be promised to nobody or to a customer. -/
theorem Coherent.promises {made : Promise Customer Number Time}
    (coherent : office.Coherent)
    (unsold :
      ∀ place ∈ places, ∀ number, office.promise place ≠ some (.sold number))
    (unsells : ∀ number, made ≠ .sold number) :
    (office.promises places made).Coherent := by
  intro place number
  by_cases member : place ∈ places
  · rw [promises_of_mem member]
    refine iff_of_false (fun sold => ?_) fun sold => ?_
    · exact unsells number (Option.some.inj sold)
    · exact unsold place member number ((coherent place number).mpr sold)
  · rw [promises_of_not_mem member]
    exact coherent place number

/-- A sale that neither was sold nor is sold now changes nothing. -/
theorem Coherent.records (coherent : office.Coherent)
    (unsold :
      ∀ old, office.sale number = some old → old.standing ≠ .sold)
    (unsells : sale.standing ≠ .sold) :
    (office.records number sale).Coherent := by
  intro place other
  rw [records_promise, coherent place other]
  by_cases same : other = number
  · subst same
    rw [records_self]
    refine iff_of_false ?_ ?_
    · rintro ⟨old, found, sold, -⟩
      exact unsold old found sold
    · rintro ⟨old, found, sold, -⟩
      cases found
      exact unsells sold
  · rw [records_of_ne same]

theorem HeldBy.unsold {customer : Customer} {place : Place}
    (held : office.HeldBy customer place) (number : Number) :
    office.promise place ≠ some (.sold number) := by
  obtain ⟨expiry, promised⟩ := held
  rw [promised]
  simp

/-- All of the places of a sale are sold to it. -/
theorem Coherent.sell (coherent : office.Coherent)
    (found : office.sale number = some sale)
    (opened : sale.standing = .opened)
    (own : ∀ place ∈ sale.places, office.HeldBy sale.buyer place) :
    ((office.promises sale.places (.sold number)).records number
      { sale with standing := .sold }).Coherent := by
  intro place other
  rw [records_promise]
  by_cases same : other = number
  · subst same
    rw [records_self]
    by_cases member : place ∈ sale.places
    · rw [promises_of_mem member]
      exact iff_of_true rfl ⟨_, rfl, rfl, member⟩
    · rw [promises_of_not_mem member, coherent place other]
      refine iff_of_false ?_ ?_
      · rintro ⟨old, oldFound, sold, -⟩
        cases found.symm.trans oldFound
        cases opened.symm.trans sold
      · rintro ⟨old, oldFound, -, listed⟩
        cases oldFound
        exact member listed
  · rw [records_of_ne same, promises_sale]
    by_cases member : place ∈ sale.places
    · rw [promises_of_mem member, ← coherent place other]
      refine iff_of_false ?_ ((own place member).unsold other)
      intro sold
      cases sold
      exact same rfl
    · rw [promises_of_not_mem member]
      exact coherent place other

/-- All of the places of a sale are free again. -/
theorem Coherent.giveBack (coherent : office.Coherent)
    (found : office.sale number = some sale) (sold : sale.standing = .sold) :
    ((office.promises sale.places .free).records number
      { sale with standing := .returned }).Coherent := by
  intro place other
  rw [records_promise]
  have sell := coherent place
  by_cases same : other = number
  · subst same
    rw [records_self]
    refine iff_of_false ?_ (by rintro ⟨_, ⟨⟩, ⟨⟩, -⟩)
    by_cases member : place ∈ sale.places
    · rw [promises_of_mem member]
      simp
    · rw [promises_of_not_mem member, sell]
      rintro ⟨old, oldFound, -, listed⟩
      cases found.symm.trans oldFound
      exact member listed
  · rw [records_of_ne same, promises_sale]
    by_cases member : place ∈ sale.places
    · have own := (sell number).mpr ⟨sale, found, sold, member⟩
      rw [promises_of_mem member, ← sell, own]
      exact iff_of_false (by simp) (by simpa using Ne.symm same)
    · rw [promises_of_not_mem member]
      exact sell other

/-! ### The sales -/

/-- A sale goes on in one of two ways, and each of them ends. -/
inductive Standing.Leads : Standing → Standing → Prop where
  | same {standing : Standing} : Leads standing standing
  | sold : Leads .opened .sold
  | void : Leads .opened .void
  | returned : Leads .sold .returned
  | bought : Leads .opened .returned

theorem Standing.Leads.trans {first second third : Standing}
    (left : Standing.Leads first second) (right : Standing.Leads second third) :
    Standing.Leads first third := by
  cases left <;> cases right <;> constructor

/-- The sale is still in the books, for the same buyer and places. -/
def Continues (office next : Office Place Customer Number Time) : Prop :=
  ∀ number sale, office.sale number = some sale →
    ∃ standing, Standing.Leads sale.standing standing ∧
      next.sale number = some { sale with standing }

theorem Continues.of_records {standing : Standing}
    {between : Office Place Customer Number Time}
    (same : between.sale = office.sale)
    (found : office.sale number = some sale)
    (leads : Standing.Leads sale.standing standing) :
    office.Continues (between.records number { sale with standing }) := by
  intro other old oldFound
  by_cases equal : other = number
  · subst equal
    cases found.symm.trans oldFound
    exact ⟨standing, leads, records_self⟩
  · rw [records_of_ne equal, same]
    exact ⟨old.standing, .same, oldFound⟩

end Laws

/-! ## What an office does -/

section Steps

variable [LT Time]

/-- The hold of the customer on the place has not expired. -/
def LiveFor (office : Office Place Customer Number Time) (customer : Customer)
    (place : Place) : Prop :=
  ∃ expiry, office.now < expiry ∧
    office.promise place = some (.held customer expiry)

/-- The place is held, and the hold has expired. -/
def Expired (office : Office Place Customer Number Time) (place : Place) : Prop :=
  ∃ customer expiry, expiry < office.now ∧
    office.promise place = some (.held customer expiry)

/-- The place may be given to a new customer. -/
def Claimable (office : Office Place Customer Number Time) (place : Place) :
    Prop :=
  office.promise place = some .free ∨ office.Expired place

section Promises

variable {office : Office Place Customer Number Time}

theorem LiveFor.heldBy {customer : Customer} {place : Place}
    (live : office.LiveFor customer place) :
    office.HeldBy customer place := by
  obtain ⟨expiry, -, promised⟩ := live
  exact ⟨expiry, promised⟩

theorem Expired.unsold {place : Place} (expired : office.Expired place)
    (number : Number) :
    office.promise place ≠ some (.sold number) := by
  obtain ⟨customer, expiry, -, promised⟩ := expired
  rw [promised]
  simp

theorem Claimable.unsold {place : Place} (claimable : office.Claimable place)
    (number : Number) :
    office.promise place ≠ some (.sold number) := by
  rcases claimable with free | expired
  · rw [free]
    simp
  · exact expired.unsold number

end Promises

variable [LE Time]

/-- The steps of an office. -/
inductive Step :
    Office Place Customer Number Time → Office Place Customer Number Time →
      Prop where
  | wait {office : Office Place Customer Number Time} {later : Time}
      (passes : office.now ≤ later) :
      Step office { office with now := later }
  | hold {office : Office Place Customer Number Time} {customer : Customer}
      {expiry : Time} {places : Set Place}
      (claimable : ∀ place ∈ places, office.Claimable place) :
      Step office (office.promises places (.held customer expiry))
  | giveUp {office : Office Place Customer Number Time} {customer : Customer}
      {places : Set Place}
      (own : ∀ place ∈ places, office.HeldBy customer place) :
      Step office (office.promises places .free)
  | lapse {office : Office Place Customer Number Time} {places : Set Place}
      (expired : ∀ place ∈ places, office.Expired place) :
      Step office (office.promises places .free)
  | ask {office : Office Place Customer Number Time} {number : Number}
      {sale : Sale Place Customer}
      (fresh : office.sale number = none)
      (opened : sale.standing = .opened)
      (own : ∀ place ∈ sale.places, office.HeldBy sale.buyer place) :
      Step office (office.records number sale)
  | sell {office : Office Place Customer Number Time} {number : Number}
      {sale : Sale Place Customer}
      (found : office.sale number = some sale)
      (opened : sale.standing = .opened)
      (live : ∀ place ∈ sale.places, office.LiveFor sale.buyer place) :
      Step office
        ((office.promises sale.places (.sold number)).records number
          { sale with standing := .sold })
  | void {office : Office Place Customer Number Time} {number : Number}
      {sale : Sale Place Customer}
      (found : office.sale number = some sale)
      (opened : sale.standing = .opened) :
      Step office
        ((office.promises
            {place | place ∈ sale.places ∧ office.HeldBy sale.buyer place}
            .free).records number
          { sale with standing := .void })
  | giveBack {office : Office Place Customer Number Time} {number : Number}
      {sale : Sale Place Customer}
      (found : office.sale number = some sale)
      (sold : sale.standing = .sold) :
      Step office
        ((office.promises sale.places .free).records number
          { sale with standing := .returned })

variable {office next : Office Place Customer Number Time}
variable {number : Number} {sale : Sale Place Customer}

theorem Coherent.step (coherent : office.Coherent) (step : Step office next) :
    next.Coherent := by
  cases step with
  | wait => exact coherent
  | hold claimable =>
      exact
        coherent.promises (fun place member => (claimable place member).unsold)
          (by simp)
  | giveUp own =>
      exact coherent.promises (fun place member => (own place member).unsold) (by simp)
  | lapse expired =>
      exact
        coherent.promises (fun place member => (expired place member).unsold)
          (by simp)
  | ask fresh opened own =>
      refine coherent.records ?_ (by simp [opened])
      intro old found
      rw [fresh] at found
      cases found
  | sell found opened live =>
      exact coherent.sell found opened fun place member => (live place member).heldBy
  | void found opened =>
      refine Coherent.records (coherent.promises ?_ (by simp)) ?_ (by simp)
      · exact fun place member => HeldBy.unsold member.2
      · intro old oldFound
        cases found.symm.trans oldFound
        simp [opened]
  | giveBack found sold => exact coherent.giveBack found sold

/-- What holds of an office holds of everything it comes to. -/
theorem Coherent.run (coherent : office.Coherent)
    (run : Relation.ReflTransGen Step office next) :
    next.Coherent := by
  induction run with
  | refl => exact coherent
  | tail _ step induction => exact induction.step step

theorem Step.continues (step : Step office next) : office.Continues next := by
  cases step with
  | wait | hold | giveUp | lapse =>
      exact fun _ sale found => ⟨sale.standing, .same, found⟩
  | ask fresh opened own =>
      rename_i number sale
      intro other old found
      have apart : other ≠ number := by
        rintro rfl
        rw [fresh] at found
        cases found
      exact ⟨old.standing, .same, (records_of_ne apart).trans found⟩
  | sell found opened live =>
      exact .of_records rfl found (by rw [opened]; exact .sold)
  | void found opened =>
      exact .of_records rfl found (by rw [opened]; exact .void)
  | giveBack found sold =>
      exact .of_records rfl found (by rw [sold]; exact .returned)

end Steps

end Office

end BoxOffice
