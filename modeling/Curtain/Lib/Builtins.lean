import Curtain.Lib.Json

/-!
# Built-in conversions of JSON values

What a dynamically typed runtime does with the value of a JSON text: `int`,
`str`, iteration and subscripts, with the exceptions each may raise.  A handler
catches some exceptions and lets the others escape, and the verdict on a
sequence of conversions is that on the first one that fails.
-/

namespace Builtins

open Json

inductive Exn where
  | keyError
  | typeError
  | valueError
  | overflowError
  | recursionError
  | unicodeDecodeError
deriving DecidableEq, Repr

/--
The limits of the interpreter, its tables of the spaces and the decimal digits
beyond ASCII, and the text of a float, of a list and of an object.
-/
structure Runtime where
  limits : Limits
  isSpace : Nat → Bool
  decimal : Nat → Option (Fin 10)
  repr : Value → Except Exn Text

/-! ## Conversions -/

namespace Runtime

variable (runtime : Runtime)

/-- The ASCII character that `int` reads a code point as. -/
def fold (code : Nat) : Option Char :=
  if code < 127 then some (Char.ofNat code)
  else if runtime.isSpace code then some ' '
  else (runtime.decimal code).map fun digit => Nat.digitChar digit

/-- The characters that `int` strips. -/
def isBlank (c : Char) : Bool :=
  c == ' ' || ('\t' ≤ c && c ≤ '\r')

/-- Digits with single underscores between them. -/
def ungroup : List Char → Option (List Char)
  | [] => none
  | [c] => if c.isDigit then some [c] else none
  | c :: '_' :: rest =>
      if c.isDigit then (ungroup rest).map (c :: ·) else none
  | c :: rest => if c.isDigit then (ungroup rest).map (c :: ·) else none

/-- `int` of a string. -/
def intOfText (read : Text) : Except Exn Int :=
  match read.mapM runtime.fold with
  | none => .error .valueError
  | some characters =>
      let trimmed :=
        ((characters.dropWhile isBlank).reverse.dropWhile isBlank).reverse
      let signed := trimmed.head? = some '-' ∨ trimmed.head? = some '+'
      match ungroup (if signed then trimmed.tail else trimmed) with
      | none => .error .valueError
      | some digits =>
          if runtime.limits.digits < digits.length then .error .valueError
          else
            let size : Int := Nat.ofDigitChars 10 digits 0
            .ok (if trimmed.head? = some '-' then -size else size)

/-- `int`. -/
def int : Value → Except Exn Int
  | .int number => .ok number
  | .bool bit => .ok (if bit then 1 else 0)
  | .float (.finite negative significand exponent) =>
      .ok (Double.whole negative significand exponent)
  | .float (.infinite _) => .error .overflowError
  | .float .nan => .error .valueError
  | .str read => runtime.intOfText read
  | .null => .error .typeError
  | .list _ => .error .typeError
  | .dict _ => .error .typeError

/-- `str` of an integer. -/
def strOfInt (number : Int) : Except Exn Text :=
  if runtime.limits.digits < (Nat.toDigits 10 number.natAbs).length then
    .error .valueError
  else .ok (text (intText number))

/-- `str`, which is also what a format string does. -/
def str : Value → Except Exn Text
  | .str read => .ok read
  | .int number => runtime.strOfInt number
  | .bool bit => .ok (text (if bit then "True" else "False").toList)
  | .null => .ok (text "None".toList)
  | value => runtime.repr value

end Runtime

/-- What an iteration goes through: items, characters or keys. -/
def parts : Value → Option (List Value)
  | .list items => some items
  | .str read => some (read.map fun code => .str [code])
  | .dict entries => some (entries.map fun entry => .str entry.1)
  | _ => none

def iterate (value : Value) : Except Exn (List Value) :=
  match parts value with
  | some items => .ok items
  | none => .error .typeError

theorem iterate_of_parts {value : Value} {items : List Value}
    (found : parts value = some items) : iterate value = .ok items := by
  rw [iterate, found]

theorem iterate_of_whole {value : Value} (whole : parts value = none) :
    iterate value = .error .typeError := by
  rw [iterate, whole]

theorem ok_bind {Result Other : Type} (result : Result)
    (next : Result → Except Exn Other) :
    (Except.ok result >>= next) = next result :=
  rfl

/-- `entries[key]`. -/
def subscript (entries : List (Text × Value)) (key : Text) :
    Except Exn Value :=
  match entries.lookup key with
  | some value => .ok value
  | none => .error .keyError

/-! ## Verdicts -/

/-- A computation passes, or its exception is caught, or it escapes. -/
inductive Verdict where
  | passes
  | caught
  | escapes
deriving DecidableEq, Repr

namespace Verdict

/-- The verdict on a computation and what comes after it. -/
def andThen : Verdict → Verdict → Verdict
  | .passes, next => next
  | failed, _ => failed

variable {Result Other : Type}

/-- The verdict under a handler that catches some exceptions. -/
def of (catches : Exn → Bool) : Except Exn Result → Verdict
  | .ok _ => .passes
  | .error exn => if catches exn then .caught else .escapes

variable {catches : Exn → Bool}

@[simp]
theorem of_ok (result : Result) :
    of catches (.ok result : Except Exn Result) = .passes :=
  rfl

theorem of_eq_escapes {computed : Except Exn Result} :
    of catches computed = .escapes ↔
      ∃ exn, computed = .error exn ∧ catches exn = false := by
  cases computed with
  | ok result => simp [of]
  | error exn => simp [of]

@[simp]
theorem andThen_passes (verdict : Verdict) :
    verdict.andThen .passes = verdict := by
  cases verdict <;> rfl

theorem of_bind (first : Except Exn Result) (next : Result → Except Exn Other)
    {verdict : Verdict}
    (rest : ∀ result, first = .ok result → of catches (next result) = verdict) :
    of catches (first >>= next) = (of catches first).andThen verdict := by
  cases first with
  | ok result => exact rest result rfl
  | error exn =>
      simp only [Bind.bind, Except.bind, of]
      split_ifs <;> rfl

/-- The verdict on the items of a sequence, one after the other. -/
def each (verdicts : List Verdict) : Verdict :=
  verdicts.foldr andThen .passes

theorem each_cons (first : Verdict) (rest : List Verdict) :
    each (first :: rest) = first.andThen (each rest) :=
  rfl

theorem each_append (front back : List Verdict) :
    each (front ++ back) = (each front).andThen (each back) := by
  induction front with
  | nil => rfl
  | cons first rest induction =>
      rw [List.cons_append, each_cons, each_cons, induction]
      cases first <;> rfl

theorem of_mapM {Item : Type} (convert : Item → Except Exn Result)
    (items : List Item) :
    of catches (items.mapM convert) =
      each (items.map fun item => of catches (convert item)) := by
  induction items with
  | nil => rfl
  | cons item items induction =>
      rw [List.mapM_cons, List.map_cons, each_cons, ← induction]
      apply of_bind
      intro first _
      have rest :
          of catches
              (items.mapM convert >>= fun others => pure (first :: others)) =
            (of catches (items.mapM convert)).andThen .passes :=
        of_bind _ _ fun _ _ => rfl
      rw [rest, andThen_passes]

/-- Nothing escapes from a sequence from whose items nothing escapes. -/
theorem each_ne_escapes {verdicts : List Verdict}
    (tame : ∀ verdict ∈ verdicts, verdict ≠ .escapes) :
    each verdicts ≠ .escapes := by
  induction verdicts with
  | nil => simp [each]
  | cons first rest induction =>
      have others := induction fun verdict member =>
        tame verdict (List.mem_cons_of_mem first member)
      have own := tame first List.mem_cons_self
      cases first with
      | passes => exact others
      | caught => simp [each, andThen]
      | escapes => exact absurd rfl own

end Verdict

end Builtins
