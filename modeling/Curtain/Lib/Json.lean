import Mathlib.Data.List.Basic
import Mathlib.Data.List.TakeWhile
import Curtain.Lib.Double

/-!
# JSON texts

The values a JSON text stands for, a reader that is strict as a common runtime
is (control characters in strings, the depth of nesting and the digits of an
integer are limited), and a writer without spaces for the documents that hold
integers, strings, lists and objects.  What is written is read back.

The reader is a lexer, which goes through the characters once, and a machine
with a stack of open lists and objects, which goes through the tokens once.
-/

namespace Json

/--
The code points of a string.  An escape may name half of a surrogate pair, so
that they need not be characters.
-/
abbrev Text := List Nat

/-- The code points of a string of characters. -/
def text (characters : List Char) : Text :=
  characters.map Char.toNat

inductive Value where
  | null
  | bool (isTrue : Bool)
  | int (number : Int)
  | float (number : Double)
  | str (read : Text)
  | list (items : List Value)
  | dict (entries : List (Text × Value))

/-- Why a text is not read. -/
inductive Fault where
  | invalid
  | tooDeep
deriving DecidableEq, Repr

/-- How deep the runtime lets a reader nest, and the digits of its integers. -/
structure Limits where
  depth : Nat
  digits : Nat

/-! ## Tokens -/

inductive Token where
  | openList
  | closeList
  | openDict
  | closeDict
  | comma
  | colon
  | str (read : Text)
  | scalar (value : Value)
  | bad

def punctuation : Char → Option Token
  | '[' => some .openList
  | ']' => some .closeList
  | '{' => some .openDict
  | '}' => some .closeDict
  | ',' => some .comma
  | ':' => some .colon
  | _ => none

def isSpace (c : Char) : Bool :=
  c == ' ' || c == '\t' || c == '\n' || c == '\r'

/-- A character that may stand inside of a number or of a name. -/
def isBare (c : Char) : Bool :=
  !isSpace c && (punctuation c).isNone && c != '"'

/-- `(\.[0-9]+)?`, with what comes after it. -/
def fraction : List Char → Option (List Char × List Char)
  | '.' :: rest =>
      let digits := rest.takeWhile Char.isDigit
      if digits = [] then none
      else some (digits, rest.dropWhile Char.isDigit)
  | rest => some ([], rest)

/-- `([eE][-+]?[0-9]+)?` and nothing after it. -/
def exponent : List Char → Option Int
  | [] => some 0
  | mark :: rest =>
      let digits :=
        match rest with
        | '-' :: digits => digits
        | '+' :: digits => digits
        | digits => digits
      if (mark = 'e' ∨ mark = 'E') ∧ digits ≠ [] ∧ digits.all Char.isDigit then
        let size : Int := Nat.ofDigitChars 10 digits 0
        some (if rest.head? = some '-' then -size else size)
      else none

/-- `-?(0|[1-9][0-9]*)` and what may follow; without a fraction and an exponent
the number is an integer. -/
def number (limits : Limits) (word : List Char) : Option Value :=
  let negative := word.head? = some '-'
  let unsigned := if negative then word.tail else word
  let whole := unsigned.takeWhile Char.isDigit
  let rest := unsigned.dropWhile Char.isDigit
  if whole = [] ∨ (whole.head? = some '0' ∧ whole ≠ ['0']) then none
  else if rest = [] then
    if limits.digits < whole.length then none
    else
      let size : Int := Nat.ofDigitChars 10 whole 0
      some (.int (if negative then -size else size))
  else
    (fraction rest).bind fun (behind, rest) =>
      (exponent rest).map fun power =>
        .float
          (.ofDecimal negative (Nat.ofDigitChars 10 (whole ++ behind) 0)
            (power - behind.length))

/-- The value of a maximal word. -/
def word (limits : Limits) (characters : List Char) : Token :=
  if characters = "null".toList then .scalar .null
  else if characters = "true".toList then .scalar (.bool true)
  else if characters = "false".toList then .scalar (.bool false)
  else if characters = "NaN".toList then .scalar (.float .nan)
  else if characters = "Infinity".toList then .scalar (.float (.infinite false))
  else if characters = "-Infinity".toList then .scalar (.float (.infinite true))
  else ((number limits characters).map Token.scalar).getD .bad

def unescape : Char → Option Char
  | '"' => some '"'
  | '\\' => some '\\'
  | '/' => some '/'
  | 'b' => some '\x08'
  | 'f' => some '\x0c'
  | 'n' => some '\n'
  | 'r' => some '\r'
  | 't' => some '\t'
  | _ => none

def hexDigit (c : Char) : Option Nat :=
  if '0' ≤ c ∧ c ≤ '9' then some (c.toNat - '0'.toNat)
  else if 'a' ≤ c ∧ c ≤ 'f' then some (c.toNat - 'a'.toNat + 10)
  else if 'A' ≤ c ∧ c ≤ 'F' then some (c.toNat - 'A'.toNat + 10)
  else none

def isHigh (unit : Nat) : Bool :=
  0xD800 ≤ unit && unit ≤ 0xDBFF

def isLow (unit : Nat) : Bool :=
  0xDC00 ≤ unit && unit ≤ 0xDFFF

/-- Where the lexer is; what a string has given so far is kept in reverse. -/
inductive Mode where
  | between
  | bare (characters : List Char)
  | quoted (read : Text) (high : Bool)
  | escaped (read : Text) (high : Bool)
  | hex (read : Text) (high : Bool) (digits : List Nat)

/--
A string goes on behind a `\u` escape.  An escape for the lower half of a pair
right behind one for the upper half gives one code point.
-/
def Mode.push (unit : Nat) : Text → Bool → Mode
  | upper :: read, true =>
      if isLow unit then
        .quoted
          ((0x10000 + (upper - 0xD800) * 0x400 + (unit - 0xDC00)) :: read) false
      else .quoted (unit :: upper :: read) (isHigh unit)
  | read, _ => .quoted (unit :: read) (isHigh unit)

/-- What a character between two words or strings begins. -/
def enter (c : Char) : List Token × Mode :=
  match punctuation c with
  | some token => ([token], .between)
  | none =>
      if isSpace c then ([], .between)
      else if c = '"' then ([], .quoted [] false)
      else ([], .bare [c])

/-- The tokens of a text; nothing is read behind what is not one. -/
def lex (limits : Limits) : Mode → List Char → List Token
  | .between, [] => []
  | .bare characters, [] => [word limits characters.reverse]
  | _, [] => [.bad]
  | .between, c :: rest => (enter c).1 ++ lex limits (enter c).2 rest
  | .bare characters, c :: rest =>
      if isBare c then lex limits (.bare (c :: characters)) rest
      else
        word limits characters.reverse ::
          ((enter c).1 ++ lex limits (enter c).2 rest)
  | .quoted read high, c :: rest =>
      if c = '"' then .str read.reverse :: lex limits .between rest
      else if c = '\\' then lex limits (.escaped read high) rest
      else if c < ' ' then [.bad]
      else lex limits (.quoted (c.toNat :: read) false) rest
  | .escaped read high, c :: rest =>
      if c = 'u' then lex limits (.hex read high []) rest
      else
        match unescape c with
        | some plain => lex limits (.quoted (plain.toNat :: read) false) rest
        | none => [.bad]
  | .hex read high digits, c :: rest =>
      match hexDigit c, digits with
      | none, _ => [.bad]
      | some d, [first, second, third] =>
          lex limits
            (Mode.push (((first * 16 + second) * 16 + third) * 16 + d) read
              high)
            rest
      | some d, _ => lex limits (.hex read high (digits ++ [d])) rest

/-! ## The machine -/

/-- A key keeps its place when a later entry gives it another value. -/
def store (key : Text) (value : Value) :
    List (Text × Value) → List (Text × Value)
  | [] => [(key, value)]
  | (other, old) :: rest =>
      if other = key then (key, value) :: rest
      else (other, old) :: store key value rest

/-- A list or an object that is open, the latter behind the colon of a key. -/
inductive Frame where
  | list (items : List Value)
  | dict (entries : List (Text × Value)) (key : Text)

/-- What comes next; right behind an opening bracket also its closing one. -/
inductive Expect where
  | value (closes : Bool)
  | key (entries : List (Text × Value)) (closes : Bool)
  | colon (entries : List (Text × Value)) (key : Text)
  | after (value : Value)

structure Reader where
  frames : List Frame
  expect : Expect

namespace Reader

def start : Reader where
  frames := []
  expect := .value false

/-- Open one more list or object. -/
def deeper (limits : Limits) (frames : List Frame) (next : Reader) :
    Except Fault Reader :=
  if frames.length < limits.depth then .ok next else .error .tooDeep

def step (limits : Limits) (reader : Reader) (token : Token) :
    Except Fault Reader :=
  match reader.expect, token, reader.frames with
  | .value _, .scalar value, frames => .ok { frames, expect := .after value }
  | .value _, .str read, frames => .ok { frames, expect := .after (.str read) }
  | .value _, .openList, frames =>
      deeper limits frames
        { frames := .list [] :: frames, expect := .value true }
  | .value _, .openDict, frames =>
      deeper limits frames { frames, expect := .key [] true }
  | .value true, .closeList, .list items :: frames =>
      .ok { frames, expect := .after (.list items) }
  | .key entries _, .str key, frames =>
      .ok { frames, expect := .colon entries key }
  | .key entries true, .closeDict, frames =>
      .ok { frames, expect := .after (.dict entries) }
  | .colon entries key, .colon, frames =>
      .ok { frames := .dict entries key :: frames, expect := .value false }
  | .after value, .comma, .list items :: frames =>
      .ok
        { frames := .list (items ++ [value]) :: frames
          expect := .value false }
  | .after value, .closeList, .list items :: frames =>
      .ok { frames, expect := .after (.list (items ++ [value])) }
  | .after value, .comma, .dict entries key :: frames =>
      .ok { frames, expect := .key (store key value entries) false }
  | .after value, .closeDict, .dict entries key :: frames =>
      .ok { frames, expect := .after (.dict (store key value entries)) }
  | _, _, _ => .error .invalid

/-- The value when nothing is open any more. -/
def result (reader : Reader) : Except Fault Value :=
  match reader.frames, reader.expect with
  | [], .after value => .ok value
  | _, _ => .error .invalid

/-- Read the tokens that are left. -/
def run (limits : Limits) (reader : Reader) (tokens : List Token) :
    Except Fault Value :=
  (tokens.foldlM (step limits) reader).bind result

end Reader

/-- The value of a text. -/
def loads (limits : Limits) (characters : List Char) : Except Fault Value :=
  Reader.start.run limits (lex limits .between characters)

/-! ## The writer -/

/-- The documents that are written. -/
inductive Plain where
  | int (number : Int)
  | str (characters : List Char)
  | list (items : List Plain)
  | dict (entries : List (List Char × Plain))

def intText : Int → List Char
  | .ofNat number => Nat.toDigits 10 number
  | .negSucc number => '-' :: Nat.toDigits 10 (number + 1)

/-- Only quotes, backslashes and control characters are escaped. -/
def escape (c : Char) : List Char :=
  if c = '"' then ['\\', '"']
  else if c = '\\' then ['\\', '\\']
  else if c = '\n' then ['\\', 'n']
  else if c = '\r' then ['\\', 'r']
  else if c = '\t' then ['\\', 't']
  else if c = '\x0c' then ['\\', 'f']
  else if c = '\x08' then ['\\', 'b']
  else if c < ' ' then
    ['\\', 'u', '0', '0', Nat.digitChar (c.toNat / 16),
     Nat.digitChar (c.toNat % 16)]
  else [c]

def quote (characters : List Char) : List Char :=
  '"' :: (characters.flatMap escape ++ ['"'])

namespace Plain

mutual

/-- The text of a document, without spaces. -/
def dumps : Plain → List Char
  | .int number => intText number
  | .str characters => quote characters
  | .list [] => ['[', ']']
  | .list (first :: rest) => '[' :: (first.dumps ++ dumpsItems rest)
  | .dict [] => ['{', '}']
  | .dict ((key, value) :: rest) =>
      '{' :: (quote key ++ ':' :: (value.dumps ++ dumpsEntries rest))

/-- What comes behind an item of a list. -/
def dumpsItems : List Plain → List Char
  | [] => [']']
  | next :: rest => ',' :: (next.dumps ++ dumpsItems rest)

/-- What comes behind an entry of an object. -/
def dumpsEntries : List (List Char × Plain) → List Char
  | [] => ['}']
  | (key, value) :: rest =>
      ',' :: (quote key ++ ':' :: (value.dumps ++ dumpsEntries rest))

end

mutual

/-- What a document is when it is read; a key that comes twice counts once. -/
def value : Plain → Value
  | .int number => .int number
  | .str characters => .str (text characters)
  | .list items => .list (values items)
  | .dict entries => .dict (storeAll [] entries)

def values : List Plain → List Value
  | [] => []
  | next :: rest => next.value :: values rest

def storeAll (before : List (Text × Value)) :
    List (List Char × Plain) → List (Text × Value)
  | [] => before
  | (key, value) :: rest => storeAll (store (text key) value.value before) rest

end

mutual

/-- How deep a document nests. -/
def depth : Plain → Nat
  | .int _ => 0
  | .str _ => 0
  | .list items => depthItems items + 1
  | .dict entries => depthEntries entries + 1

def depthItems : List Plain → Nat
  | [] => 0
  | next :: rest => max next.depth (depthItems rest)

def depthEntries : List (List Char × Plain) → Nat
  | [] => 0
  | (_, value) :: rest => max value.depth (depthEntries rest)

end

mutual

/-- The digits of the longest integer of a document. -/
def digits : Plain → Nat
  | .int number => (Nat.toDigits 10 number.natAbs).length
  | .str _ => 0
  | .list items => digitsItems items
  | .dict entries => digitsEntries entries

def digitsItems : List Plain → Nat
  | [] => 0
  | next :: rest => max next.digits (digitsItems rest)

def digitsEntries : List (List Char × Plain) → Nat
  | [] => 0
  | (_, value) :: rest => max value.digits (digitsEntries rest)

end

end Plain

/-! ## What is written is read back -/

section Lexing

variable {limits : Limits}

/-- A word ends in front of this text. -/
def Ends (rest : List Char) : Prop :=
  ∀ c ∈ rest.head?, isBare c = false

theorem Ends.cons {c : Char} (ends : isBare c = false) (rest : List Char) :
    Ends (c :: rest) := by
  intro first head
  cases head
  exact ends

theorem enter_of_bare {c : Char} (bare : isBare c = true) :
    enter c = ([], .bare [c]) := by
  simp only [isBare, Bool.and_eq_true, Bool.not_eq_true',
    Option.isNone_iff_eq_none, bne_iff_ne] at bare
  simp [enter, bare]

theorem lex_bare {rest : List Char} (ends : Ends rest) (characters : List Char)
    (before : List Char) (bare : ∀ c ∈ characters, isBare c = true) :
    lex limits (.bare before) (characters ++ rest) =
      word limits (before.reverse ++ characters) ::
        lex limits .between rest := by
  induction characters generalizing before with
  | nil =>
      cases rest with
      | nil => simp [lex]
      | cons c rest =>
          have stops : isBare c = false := ends c rfl
          simp [lex, stops]
  | cons c characters induction =>
      have first : isBare c = true := bare c (by simp)
      have others : ∀ c ∈ characters, isBare c = true :=
        fun other member => bare other (by simp [member])
      simp [lex, first, induction (c :: before) others]

theorem lex_word {rest : List Char} (ends : Ends rest) {characters : List Char}
    (bare : ∀ c ∈ characters, isBare c = true) (any : characters ≠ []) :
    lex limits .between (characters ++ rest) =
      word limits characters :: lex limits .between rest := by
  cases characters with
  | nil => exact absurd rfl any
  | cons c characters =>
      have others : ∀ c ∈ characters, isBare c = true :=
        fun other member => bare other (by simp [member])
      simp [lex, enter_of_bare (bare c (by simp)),
        lex_bare ends characters [c] others]

/-! ### Integers -/

theorem digits_isDigit {n : Nat} :
    ∀ c ∈ Nat.toDigits 10 n, c.isDigit = true :=
  fun _ member => Nat.isDigit_of_mem_toDigits (by decide) (by decide) member

theorem isBare_of_isDigit {c : Char} (digit : c.isDigit = true) :
    isBare c = true := by
  have apart : ∀ other : Char, other.isDigit = false → c ≠ other := by
    intro other notDigit equal
    rw [equal, notDigit] at digit
    cases digit
  have none : punctuation c = none := by
    unfold punctuation
    split <;> first
      | rfl
      | exact absurd digit (by decide)
  simp [isBare, isSpace, none, apart ' ' (by decide), apart '\t' (by decide),
    apart '\n' (by decide), apart '\r' (by decide), apart '"' (by decide)]

theorem head_of_digits_zero {n : Nat}
    (zero : (Nat.toDigits 10 n).head? = some '0') :
    Nat.toDigits 10 n = ['0'] := by
  induction n using Nat.strong_induction_on with
  | _ n induction =>
      by_cases small : n < 10
      · rw [Nat.toDigits_of_lt_base small] at zero ⊢
        simpa using zero
      · have large : 10 ≤ n := Nat.le_of_not_lt small
        have splits := Nat.toDigits_of_base_le (by decide : 1 < 10) large
        have front : (Nat.toDigits 10 (n / 10)).head? = some '0' := by
          rw [splits, List.head?_append_of_ne_nil _ Nat.toDigits_ne_nil] at zero
          exact zero
        have single := induction (n / 10) (by omega) front
        have value :=
          @Nat.ofDigitChars_toDigits 10 (n / 10) (by decide) (by decide)
        rw [single] at value
        have : (0 : Nat) = n / 10 := by simpa [Nat.ofDigitChars] using value
        omega

theorem takeWhile_toDigits (n : Nat) :
    (Nat.toDigits 10 n).takeWhile Char.isDigit = Nat.toDigits 10 n :=
  List.takeWhile_eq_self_iff.mpr digits_isDigit

theorem dropWhile_toDigits (n : Nat) :
    (Nat.toDigits 10 n).dropWhile Char.isDigit = [] :=
  List.dropWhile_eq_nil_iff.mpr digits_isDigit

theorem head?_toDigits_ne_minus (n : Nat) :
    (Nat.toDigits 10 n).head? ≠ some '-' := by
  intro minus
  have digit := digits_isDigit '-' (List.mem_of_mem_head? minus)
  cases digit

/-- The digits of a number that the runtime reads are that number. -/
theorem number_intText {n : Int}
    (fits : (Nat.toDigits 10 n.natAbs).length ≤ limits.digits) :
    number limits (intText n) = some (.int n) := by
  have leading (m : Nat) :
      ¬(Nat.toDigits 10 m = [] ∨
        ((Nat.toDigits 10 m).head? = some '0' ∧
          Nat.toDigits 10 m ≠ ['0'])) := by
    rintro (empty | ⟨zero, longer⟩)
    · exact Nat.toDigits_ne_nil empty
    · exact longer (head_of_digits_zero zero)
  have back (m : Nat) : Nat.ofDigitChars 10 (Nat.toDigits 10 m) 0 = m :=
    Nat.ofDigitChars_toDigits (by decide) (by decide)
  cases n with
  | ofNat m =>
      have short : ¬ limits.digits < (Nat.toDigits 10 m).length :=
        Nat.not_lt.mpr fits
      simp only [intText, number, head?_toDigits_ne_minus, if_false,
        takeWhile_toDigits, dropWhile_toDigits, leading, if_true, short, back,
        decide_false]
      rfl
  | negSucc m =>
      have short : ¬ limits.digits < (Nat.toDigits 10 (m + 1)).length :=
        Nat.not_lt.mpr fits
      simp only [intText, number, List.head?_cons, List.tail_cons, if_true,
        takeWhile_toDigits, dropWhile_toDigits, leading, if_false, short, back,
        decide_true]
      rfl

theorem intText_chars (n : Int) :
    ∀ c ∈ intText n, c.isDigit = true ∨ c = '-' := by
  intro c member
  cases n with
  | ofNat m => exact Or.inl (digits_isDigit c member)
  | negSucc m =>
      rcases List.mem_cons.mp member with minus | digit
      · exact Or.inr minus
      · exact Or.inl (digits_isDigit c digit)

/-- Different integers are written differently: reading gives them back. -/
theorem intText_injective : Function.Injective intText := by
  intro left right equal
  have readLeft :=
    @number_intText
      { depth := 0
        digits :=
          max (Nat.toDigits 10 left.natAbs).length
            (Nat.toDigits 10 right.natAbs).length }
      left (le_max_left _ _)
  rw [equal, number_intText (le_max_right _ _)] at readLeft
  cases readLeft
  rfl

/-- `str` of an integer. -/
theorem toList_toString (number : Int) :
    (toString number).toList = intText number := by
  cases number with
  | ofNat number => exact Nat.toList_repr
  | negSucc number =>
      show ("-" ++ (number + 1).repr).toList = _
      rw [String.toList_append, Nat.toList_repr]
      rfl

theorem word_intText {n : Int}
    (fits : (Nat.toDigits 10 n.natAbs).length ≤ limits.digits) :
    word limits (intText n) = .scalar (.int n) := by
  have apart : ∀ (c : Char) (name : List Char), c ∈ name →
      c.isDigit = false ∧ c ≠ '-' → intText n ≠ name := by
    rintro c name member ⟨notDigit, notMinus⟩ equal
    rw [← equal] at member
    rcases intText_chars n c member with digit | minus
    · rw [digit] at notDigit
      cases notDigit
    · exact notMinus minus
  simp only [word, number_intText fits,
    apart 'n' "null".toList (by decide) (by decide),
    apart 't' "true".toList (by decide) (by decide),
    apart 'f' "false".toList (by decide) (by decide),
    apart 'N' "NaN".toList (by decide) (by decide),
    apart 'I' "Infinity".toList (by decide) (by decide),
    apart 'I' "-Infinity".toList (by decide) (by decide), if_false,
    Option.map_some, Option.getD_some]

theorem lex_intText {rest : List Char} (ends : Ends rest) {n : Int}
    (fits : (Nat.toDigits 10 n.natAbs).length ≤ limits.digits) :
    lex limits .between (intText n ++ rest) =
      .scalar (.int n) :: lex limits .between rest := by
  have bare : ∀ c ∈ intText n, isBare c = true := by
    intro c member
    rcases intText_chars n c member with digit | minus
    · exact isBare_of_isDigit digit
    · rw [minus]
      decide
  have any : intText n ≠ [] := by
    cases n with
    | ofNat m => exact Nat.toDigits_ne_nil
    | negSucc m => simp [intText]
  rw [lex_word ends bare any, word_intText fits]

/-! ### Strings -/

theorem hexDigit_digitChar :
    ∀ n < 16, hexDigit (Nat.digitChar n) = some n := by
  decide

/-- The escape of a character is read as that character. -/
theorem lex_escape (c : Char) (rest : List Char) (read : Text) (high : Bool) :
    lex limits (.quoted read high) (escape c ++ rest) =
      lex limits (.quoted (c.toNat :: read) false) rest := by
  unfold escape
  split_ifs with _ _ _ _ _ _ _ control
  -- the characters with an escape of their own
  all_goals try
    subst c
    simp [lex, unescape]
  · -- the other control characters, which are no surrogates
    have small : c.toNat < 32 := control
    have upper := hexDigit_digitChar (c.toNat / 16) (by omega)
    have lower := hexDigit_digitChar (c.toNat % 16) (Nat.mod_lt _ (by decide))
    have value : (0 * 16 + 0) * 16 + c.toNat / 16 = c.toNat / 16 := by omega
    have notLow : isLow (c.toNat / 16 * 16 + c.toNat % 16) = false := by
      simp only [isLow, Bool.and_eq_false_iff, decide_eq_false_iff_not]
      omega
    have notHigh : isHigh (c.toNat / 16 * 16 + c.toNat % 16) = false := by
      simp only [isHigh, Bool.and_eq_false_iff, decide_eq_false_iff_not]
      omega
    have zero : hexDigit '0' = some 0 := by decide
    have push : Mode.push (c.toNat / 16 * 16 + c.toNat % 16) read high =
        .quoted (c.toNat :: read) false := by
      have whole : c.toNat / 16 * 16 + c.toNat % 16 = c.toNat := by omega
      unfold Mode.push
      split
      · rw [notLow, notHigh, whole]
        rfl
      · rw [notHigh, whole]
    simp [lex, upper, lower, zero, push]
  · simp [lex, *]

theorem lex_quoted (characters rest : List Char) (read : Text) (high : Bool) :
    lex limits (.quoted read high)
        (characters.flatMap escape ++ '"' :: rest) =
      .str (read.reverse ++ text characters) :: lex limits .between rest := by
  induction characters generalizing read high with
  | nil => simp [lex, text]
  | cons c characters induction =>
      simp [lex_escape, induction, text]

theorem lex_quote (characters rest : List Char) :
    lex limits .between (quote characters ++ rest) =
      .str (text characters) :: lex limits .between rest := by
  simp [quote, lex, enter, punctuation, isSpace, lex_quoted]

end Lexing

section Reading

variable {limits : Limits}

namespace Reader

theorem run_cons {reader next : Reader} {token : Token} {tokens : List Token}
    (taken : step limits reader token = .ok next) :
    reader.run limits (token :: tokens) = next.run limits tokens := by
  simp only [run, List.foldlM_cons, taken]
  rfl

theorem run_openList {frames : List Frame} {closes : Bool}
    (fits : frames.length < limits.depth) (tokens : List Token) :
    ({ frames, expect := .value closes } : Reader).run limits
        (.openList :: tokens) =
      ({ frames := .list [] :: frames, expect := .value true } : Reader).run
        limits tokens := by
  apply run_cons
  simp [step, deeper, fits]

theorem run_openDict {frames : List Frame} {closes : Bool}
    (fits : frames.length < limits.depth) (tokens : List Token) :
    ({ frames, expect := .value closes } : Reader).run limits
        (.openDict :: tokens) =
      ({ frames, expect := .key [] true } : Reader).run limits tokens := by
  apply run_cons
  simp [step, deeper, fits]

end Reader

theorem lex_punctuation {c : Char} {token : Token}
    (mark : punctuation c = some token) (rest : List Char) :
    lex limits .between (c :: rest) = token :: lex limits .between rest := by
  simp [lex, enter, mark]

theorem ends_punctuation {c : Char} (mark : (punctuation c).isSome = true)
    (rest : List Char) : Ends (c :: rest) := by
  apply Ends.cons
  simp [isBare, Option.isSome_iff_ne_none.mp mark]

namespace Plain

theorem ends_dumpsItems (items : List Plain) (rest : List Char) :
    Ends (dumpsItems items ++ rest) := by
  cases items <;> exact ends_punctuation rfl _

theorem ends_dumpsEntries (entries : List (List Char × Plain))
    (rest : List Char) : Ends (dumpsEntries entries ++ rest) := by
  cases entries with
  | nil => exact ends_punctuation rfl _
  | cons entry entries =>
      obtain ⟨key, value⟩ := entry
      exact ends_punctuation rfl _

open Reader in
mutual

/-- Where a value may stand, a document is read as its value. -/
theorem run_dumps (document : Plain) (frames : List Frame) (closes : Bool)
    {rest : List Char} (ends : Ends rest)
    (depth : frames.length + document.depth ≤ limits.depth)
    (digits : document.digits ≤ limits.digits) :
    ({ frames, expect := .value closes } : Reader).run limits
        (lex limits .between (document.dumps ++ rest)) =
      ({ frames, expect := .after document.value } : Reader).run limits
        (lex limits .between rest) := by
  match document with
  | .int number =>
      rw [dumps, lex_intText ends digits]
      exact run_cons rfl
  | .str characters =>
      rw [dumps, lex_quote]
      exact run_cons rfl
  | .list [] =>
      rw [Plain.depth] at depth
      simp only [dumps, List.cons_append, List.nil_append]
      rw [lex_punctuation rfl, run_openList (by omega),
        lex_punctuation rfl]
      exact run_cons rfl
  | .list (first :: others) =>
      rw [Plain.depth, depthItems] at depth
      rw [Plain.digits, digitsItems] at digits
      simp only [dumps, List.cons_append, List.append_assoc]
      rw [lex_punctuation rfl, run_openList (by omega),
        run_dumps first (.list [] :: frames) true (ends_dumpsItems others rest)
          (by simp only [List.length_cons]; omega) (by omega),
        run_dumpsItems others frames [] first.value rest
          (by omega) (by omega)]
      rfl
  | .dict [] =>
      rw [Plain.depth] at depth
      simp only [dumps, List.cons_append, List.nil_append]
      rw [lex_punctuation rfl, run_openDict (by omega),
        lex_punctuation rfl]
      exact run_cons rfl
  | .dict ((key, first) :: others) =>
      rw [Plain.depth, depthEntries] at depth
      rw [Plain.digits, digitsEntries] at digits
      simp only [dumps, List.cons_append, List.append_assoc]
      rw [lex_punctuation rfl, run_openDict (by omega), lex_quote,
        run_cons rfl, lex_punctuation rfl, run_cons rfl,
        run_dumps first (.dict [] (text key) :: frames) false
          (ends_dumpsEntries others rest)
          (by simp only [List.length_cons]; omega) (by omega),
        run_dumpsEntries others frames [] (text key) first.value rest
          (by omega) (by omega)]
      rfl

theorem run_dumpsItems (items : List Plain) (frames : List Frame)
    (before : List Value) (value : Value) (rest : List Char)
    (depth : frames.length + 1 + depthItems items ≤ limits.depth)
    (digits : digitsItems items ≤ limits.digits) :
    ({ frames := .list before :: frames, expect := .after value } : Reader).run
        limits (lex limits .between (dumpsItems items ++ rest)) =
      ({ frames
         expect := .after (.list (before ++ value :: values items)) } :
          Reader).run limits (lex limits .between rest) := by
  match items with
  | [] =>
      simp only [dumpsItems, List.cons_append, List.nil_append]
      rw [lex_punctuation rfl]
      exact run_cons rfl
  | next :: others =>
      rw [depthItems] at depth
      rw [digitsItems] at digits
      simp only [dumpsItems, List.cons_append, List.append_assoc]
      rw [lex_punctuation rfl, run_cons rfl,
        run_dumps next (.list (before ++ [value]) :: frames) false
          (ends_dumpsItems others rest)
          (by simp only [List.length_cons]; omega) (by omega),
        run_dumpsItems others frames (before ++ [value]) next.value rest
          (by omega) (by omega)]
      simp [values]

theorem run_dumpsEntries (entries : List (List Char × Plain))
    (frames : List Frame) (before : List (Text × Value)) (key : Text)
    (value : Value) (rest : List Char)
    (depth : frames.length + 1 + depthEntries entries ≤ limits.depth)
    (digits : digitsEntries entries ≤ limits.digits) :
    ({ frames := .dict before key :: frames, expect := .after value } :
        Reader).run limits
        (lex limits .between (dumpsEntries entries ++ rest)) =
      ({ frames
         expect :=
           .after (.dict (storeAll (store key value before) entries)) } :
          Reader).run limits (lex limits .between rest) := by
  match entries with
  | [] =>
      simp only [dumpsEntries, List.cons_append, List.nil_append]
      rw [lex_punctuation rfl]
      exact run_cons rfl
  | (name, next) :: others =>
      rw [depthEntries] at depth
      rw [digitsEntries] at digits
      simp only [dumpsEntries, List.cons_append, List.append_assoc]
      rw [lex_punctuation rfl, run_cons rfl, lex_quote, run_cons rfl,
        lex_punctuation rfl, run_cons rfl,
        run_dumps next (.dict (store key value before) (text name) :: frames)
          false (ends_dumpsEntries others rest)
          (by simp only [List.length_cons]; omega) (by omega),
        run_dumpsEntries others frames (store key value before) (text name)
          next.value rest (by omega) (by omega)]
      rfl

end

/-- A document that fits is read back. -/
theorem loads_dumps (document : Plain)
    (depth : document.depth ≤ limits.depth)
    (digits : document.digits ≤ limits.digits) :
    loads limits document.dumps = .ok document.value := by
  have read :=
    @run_dumps limits document [] false [] (by simp [Ends]) (by simpa) digits
  rw [List.append_nil] at read
  rw [loads, Reader.start, read]
  rfl

/-- Documents with the same text have the same value. -/
theorem value_eq_of_dumps_eq {document other : Plain}
    (same : document.dumps = other.dumps) : document.value = other.value := by
  let wide : Limits :=
    { depth := max document.depth other.depth
      digits := max document.digits other.digits }
  have first : loads wide document.dumps = .ok document.value :=
    loads_dumps document (le_max_left _ _) (le_max_left _ _)
  have second : loads wide other.dumps = .ok other.value :=
    loads_dumps other (le_max_right _ _) (le_max_right _ _)
  rw [same, second] at first
  exact (Except.ok.inj first).symm

end Plain

end Reading

end Json
