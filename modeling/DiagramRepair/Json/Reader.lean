import DiagramRepair.Encoding.Unicode
import DiagramRepair.Json.Printer

/-! Reading JSON: first the tokens of a text, and then the value that they make up, read with a
stack of the arrays and objects that are still open. An escape may name half a surrogate pair, and
then the character is read that stands in for it. Arrays and objects may be nested to any depth;
the recursion limit of a reader that calls itself for each of them is not part of this.
-/

namespace DiagramRepair.Json

open Encoding (StandIns)

inductive Token where
  | scalar (value : Json)
  | openArray
  | closeArray
  | openObject
  | closeObject
  | comma
  | colon

def isSpace (c : Char) : Bool :=
  c == ' ' || c == '\t' || c == '\n' || c == '\r'

def hexValue? (c : Char) : Option Nat :=
  if '0' ≤ c && c ≤ '9' then some (c.toNat - '0'.toNat)
  else if 'a' ≤ c && c ≤ 'f' then some (c.toNat - 'a'.toNat + 10)
  else if 'A' ≤ c && c ≤ 'F' then some (c.toNat - 'A'.toNat + 10)
  else none

/-- Four hexadecimal digits and what follows them. -/
def hexUnit? : Text → Option (Nat × Text)
  | a :: b :: c :: d :: rest => do
      let a ← hexValue? a
      let b ← hexValue? b
      let c ← hexValue? c
      let d ← hexValue? d
      return (((a * 16 + b) * 16 + c) * 16 + d, rest)
  | _ => none

/-- The second half of a surrogate pair. -/
def lowHalf? : Text → Option (Nat × Text)
  | '\\' :: 'u' :: rest => (hexUnit? rest).filter fun unit => Encoding.isLowSurrogate unit.1
  | _ => none

/-- The character of a unit, or of the pair that it starts. -/
def pairUp? (standIns : StandIns) (unit : Nat) (behind : Text) : Option (Char × Text) :=
  match (lowHalf? behind).filter fun _ => Encoding.isHighSurrogate unit with
  | some (low, behind) => some (Encoding.pairChar unit low, behind)
  | none => (Encoding.charOfCode? standIns unit).map fun c => (c, behind)

/-- The escapes of one letter. -/
def letterEscapes : List (Char × Char) :=
  [
    ('"', '"'), ('\\', '\\'), ('/', '/'), ('b', '\x08'), ('f', '\x0c'), ('n', '\n'),
    ('r', '\r'), ('t', '\t')
  ]

/-- The character that an escape stands for, read behind its backslash. -/
def escaped? (standIns : StandIns) : Text → Option (Char × Text)
  | [] => none
  | c :: rest =>
      if c = 'u' then (hexUnit? rest).bind fun sides => pairUp? standIns sides.1 sides.2
      else (letterEscapes.lookup c).map fun value => (value, rest)

theorem length_lt_of_hexUnit? {text rest : Text} {unit : Nat}
    (h : hexUnit? text = some (unit, rest))
    : rest.length < text.length := by
  unfold hexUnit? at h
  split at h
  · simp only [bind, Option.bind_eq_some_iff, pure, Option.some.injEq, Prod.mk.injEq] at h
    obtain ⟨_, _, _, _, _, _, _, _, _, rfl⟩ := h
    simp only [List.length_cons]
    omega
  · simp at h

theorem length_lt_of_lowHalf? {text rest : Text} {unit : Nat}
    (h : lowHalf? text = some (unit, rest))
    : rest.length < text.length := by
  unfold lowHalf? at h
  split at h
  · have := length_lt_of_hexUnit? (Option.filter_eq_some_iff.1 h).1
    simp only [List.length_cons]
    omega
  · simp at h

theorem length_le_of_pairUp? {standIns : StandIns} {unit : Nat} {behind rest : Text} {c : Char}
    (h : pairUp? standIns unit behind = some (c, rest))
    : rest.length ≤ behind.length := by
  unfold pairUp? at h
  split at h
  · rename_i hlow
    obtain ⟨-, rfl⟩ := Prod.mk.inj (Option.some.inj h)
    exact Nat.le_of_lt (length_lt_of_lowHalf? (Option.filter_eq_some_iff.1 hlow).1)
  · obtain ⟨_, -, heq⟩ := Option.map_eq_some_iff.1 h
    obtain ⟨-, rfl⟩ := Prod.mk.inj heq
    exact Nat.le_refl _

theorem length_lt_of_escaped? {standIns : StandIns} {text rest : Text} {c : Char}
    (h : escaped? standIns text = some (c, rest))
    : rest.length < text.length := by
  match text with
  | [] => simp [escaped?] at h
  | first :: tail =>
      simp only [escaped?] at h
      simp only [List.length_cons]
      split at h
      · obtain ⟨⟨unit, behind⟩, hunit, hpair⟩ := Option.bind_eq_some_iff.1 h
        have hlength := length_lt_of_hexUnit? hunit
        have hpaired : rest.length ≤ behind.length := length_le_of_pairUp? hpair
        omega
      · obtain ⟨_, _, heq⟩ := Option.map_eq_some_iff.1 h
        obtain ⟨-, rfl⟩ := Prod.mk.inj heq
        omega

/-- The rest of a string and what follows its closing quote. The characters read so far come
in reverse. Control characters are refused. -/
def stringEnd? (standIns : StandIns) (read : Text) : Text → Option (Text × Text)
  | [] => none
  | '"' :: rest => some (read.reverse, rest)
  | '\\' :: rest =>
      match _h : escaped? standIns rest with
      | some (c, behind) => stringEnd? standIns (c :: read) behind
      | none => none
  | c :: rest => if c.toNat < 0x20 then none else stringEnd? standIns (c :: read) rest
termination_by text => text.length
decreasing_by
  · have := length_lt_of_escaped? _h
    simp only [List.length_cons]
    omega
  · simp

theorem length_lt_of_stringEnd? {standIns : StandIns} {read text string rest : Text}
    (h : stringEnd? standIns read text = some (string, rest))
    : rest.length < text.length := by
  fun_induction stringEnd? standIns read text with
  | case1 => simp at h
  | case2 =>
      obtain ⟨-, rfl⟩ := Prod.mk.inj (Option.some.inj h)
      simp
  | case3 _ _ _ _ hescaped ih =>
      have := length_lt_of_escaped? hescaped
      have := ih h
      simp only [List.length_cons]
      omega
  | case4 => simp at h
  | case5 => simp at h
  | case6 _ _ _ _ _ _ ih =>
      have := ih h
      simp only [List.length_cons]
      omega

/-- The value of ASCII digits. -/
def asciiValue (digits : Text) : Nat :=
  digits.foldl (fun total c => 10 * total + (c.toNat - '0'.toNat)) 0

/-- The digits of a whole number: a zero, or digits that start with none. -/
def wholeDigits (text : Text) : Text :=
  match text with
  | '0' :: _ => ['0']
  | _ => text.takeWhile Text.isAsciiDigit

/-- The digits behind a decimal point, if there are any. -/
def fractionDigits : Text → Text
  | '.' :: rest => rest.takeWhile Text.isAsciiDigit
  | _ => []

/-- The letter of an exponent, its sign and its digits. -/
def exponentText : Text → Text
  | e :: rest =>
      if e = 'e' ∨ e = 'E' then
        let sign := rest.takeWhile (fun c => c == '+' || c == '-') |>.take 1
        let digits := (rest.drop sign.length).takeWhile Text.isAsciiDigit
        if digits.isEmpty then [] else e :: sign ++ digits
      else []
  | [] => []

/-- The value of an exponent with its letter. -/
def exponentValue : Text → Int
  | _ :: '-' :: digits => -(asciiValue digits : Int)
  | _ :: '+' :: digits => asciiValue digits
  | _ :: digits => asciiValue digits
  | [] => 0

/-- A number without a sign in its parts. -/
structure NumberText where
  whole : Text
  fraction : Text
  exponent : Text

namespace NumberText

/-- The number that a text starts with. -/
def ofText (text : Text) : NumberText :=
  let whole := wholeDigits text
  let fraction := fractionDigits (text.drop whole.length)
  let fractionLength := if fraction.isEmpty then 0 else fraction.length + 1
  { whole
    fraction
    exponent := exponentText (text.drop (whole.length + fractionLength)) }

/-- The number of characters it is written with. -/
def length (number : NumberText) : Nat :=
  number.whole.length + (if number.fraction.isEmpty then 0 else number.fraction.length + 1)
    + number.exponent.length

def isWhole (number : NumberText) : Bool :=
  number.fraction.isEmpty && number.exponent.isEmpty

/-- The value of a number. A whole number has a limited number of digits. -/
def value? (negative : Bool) (number : NumberText) : Option Json :=
  if number.whole.isEmpty then none
  else if number.isWhole then
    if number.whole.length > Text.maxIntegerDigits then none
    else
      let value : Int := asciiValue number.whole
      some (.int (if negative then -value else value))
  else
    some (.real (.decimal negative (asciiValue (number.whole ++ number.fraction))
      (exponentValue number.exponent - number.fraction.length)))

end NumberText

/-- A number without a sign at the start of a text, and what follows it. -/
def number? (negative : Bool) (text : Text) : Option (Json × Text) :=
  let number := NumberText.ofText text
  (number.value? negative).map fun value => (value, text.drop number.length)

/-- The words that stand for a value. -/
def words : List (Text × Json) :=
  [
    ("null".toList, .null), ("true".toList, .bool true), ("false".toList, .bool false),
    ("NaN".toList, .real .notANumber), ("Infinity".toList, .real (.infinite false)),
    ("-Infinity".toList, .real (.infinite true))
  ]

/-- A word or a number at the start of a text, and what follows it. -/
def literal? (text : Text) : Option (Json × Text) :=
  match words.findSome? fun entry => (Text.afterLead? entry.1 text).map (entry.2, ·) with
  | some found => some found
  | none =>
      match text with
      | '-' :: rest => number? true rest
      | _ => number? false text

theorem length_wholeDigits_le (text : Text)
    : (wholeDigits text).length ≤ text.length := by
  unfold wholeDigits
  split
  · simp
  · exact (List.takeWhile_prefix _).length_le

theorem NumberText.whole_ne_nil_of_value? {negative : Bool} {number : NumberText} {value : Json}
    (h : number.value? negative = some value)
    : number.whole ≠ [] := by
  unfold NumberText.value? at h
  split at h
  · simp at h
  · rename_i hwhole
    simpa using hwhole

theorem length_lt_of_number? {negative : Bool} {text rest : Text} {value : Json}
    (h : number? negative text = some (value, rest))
    : rest.length < text.length := by
  obtain ⟨_, hvalue, heq⟩ := Option.map_eq_some_iff.1 h
  obtain ⟨-, rfl⟩ := Prod.mk.inj heq
  have hpos := List.length_pos_iff.2 (NumberText.whole_ne_nil_of_value? hvalue)
  have hle : (NumberText.ofText text).whole.length ≤ text.length := length_wholeDigits_le text
  simp only [List.length_drop, NumberText.length]
  omega

theorem length_lt_of_literal? {text rest : Text} {value : Json}
    (h : literal? text = some (value, rest))
    : rest.length < text.length := by
  unfold literal? at h
  split at h
  · rename_i found hfound
    obtain ⟨entry, hmem, hentry⟩ := List.exists_of_findSome?_eq_some hfound
    obtain ⟨behind, hbehind, heq⟩ := Option.map_eq_some_iff.1 hentry
    rw [← heq] at h
    obtain ⟨-, rfl⟩ := Prod.mk.inj (Option.some.inj h)
    have hpos : 0 < entry.1.length := by
      revert entry
      simp [words]
    rw [Text.afterLead?_eq_some_iff.1 hbehind, List.length_append]
    omega
  · split at h
    · have := length_lt_of_number? h
      simp only [List.length_cons]
      omega
    · exact length_lt_of_number? h

/-- The token that a text starts with, and what follows it. -/
def token? (standIns : StandIns) (c : Char) (rest : Text) : Option (Token × Text) :=
  if c = '[' then some (.openArray, rest)
  else if c = ']' then some (.closeArray, rest)
  else if c = '{' then some (.openObject, rest)
  else if c = '}' then some (.closeObject, rest)
  else if c = ',' then some (.comma, rest)
  else if c = ':' then some (.colon, rest)
  else if c = '"' then
    (stringEnd? standIns [] rest).map fun (text, behind) => (.scalar (.string text), behind)
  else (literal? (c :: rest)).map fun (value, behind) => (.scalar value, behind)

theorem length_lt_of_token? {standIns : StandIns} {c : Char} {rest behind : Text} {token : Token}
    (h : token? standIns c rest = some (token, behind))
    : behind.length < (c :: rest).length := by
  have plain : ∀ {found : Token}, some (found, rest) = some (token, behind)
      → behind.length < (c :: rest).length := by
    intro found heq
    obtain ⟨-, rfl⟩ := Prod.mk.inj (Option.some.inj heq)
    simp
  unfold token? at h
  repeat' split at h
  all_goals first
    | exact plain h
    | obtain ⟨⟨_, _⟩, hread, heq⟩ := Option.map_eq_some_iff.1 h
      obtain ⟨-, rfl⟩ := Prod.mk.inj heq
      first
        | have := length_lt_of_stringEnd? hread
          simp only [List.length_cons]
          omega
        | exact length_lt_of_literal? hread

/-- The tokens of a text, in reverse behind those read so far. -/
def tokensFrom? (standIns : StandIns) (read : List Token) : Text → Option (List Token)
  | [] => some read.reverse
  | c :: rest =>
      if isSpace c then tokensFrom? standIns read rest
      else
        match _h : token? standIns c rest with
        | some (token, behind) => tokensFrom? standIns (token :: read) behind
        | none => none
termination_by text => text.length
decreasing_by
  · simp
  · exact length_lt_of_token? _h

/-- An array or object that is still open: its items or fields so far in reverse, and for an
object the name of the field to come. -/
inductive Frame where
  | array (items : List Json)
  | object (fields : List (Text × Json)) (name : Text)

/-- What may come next. -/
inductive Expecting where
  | value
  | valueOrEnd
  | name (fields : List (Text × Json))
  | nameOrEnd
  | colon (fields : List (Text × Json)) (name : Text)
  | afterValue (value : Json)

structure ReaderState where
  expecting : Expecting
  stack : List Frame

namespace ReaderState

/-- A complete value was read. -/
def complete (value : Json) (stack : List Frame) : ReaderState :=
  ⟨.afterValue value, stack⟩

/-- A token that starts a value. -/
def startValue? (stack : List Frame) : Token → Option ReaderState
  | .scalar value => some (complete value stack)
  | .openArray => some ⟨.valueOrEnd, .array [] :: stack⟩
  | .openObject => some ⟨.nameOrEnd, stack⟩
  | _ => none

/-- A token behind a complete value. -/
def continueWith? (value : Json) : List Frame → Token → Option ReaderState
  | .array items :: stack, .comma => some ⟨.value, .array (value :: items) :: stack⟩
  | .array items :: stack, .closeArray => some (complete (.array (value :: items).reverse) stack)
  | .object fields name :: stack, .comma => some ⟨.name ((name, value) :: fields), stack⟩
  | .object fields name :: stack, .closeObject =>
      some (complete (.object ((name, value) :: fields).reverse) stack)
  | _, _ => none

def step? (state : ReaderState) (token : Token) : Option ReaderState :=
  match state.expecting, token with
  | .value, token => startValue? state.stack token
  | .valueOrEnd, .closeArray => some (complete (.array []) (state.stack.drop 1))
  | .valueOrEnd, token => startValue? state.stack token
  | .name fields, .scalar (.string name) => some ⟨.colon fields name, state.stack⟩
  | .nameOrEnd, .scalar (.string name) => some ⟨.colon [] name, state.stack⟩
  | .nameOrEnd, .closeObject => some (complete (.object []) state.stack)
  | .colon fields name, .colon => some ⟨.value, .object fields name :: state.stack⟩
  | .afterValue value, token => continueWith? value state.stack token
  | _, _ => none

/-- The value, once nothing is open any more. -/
def result? (state : ReaderState) : Option Json :=
  match state.expecting, state.stack with
  | .afterValue value, [] => some value
  | _, _ => none

end ReaderState

/-- The value that tokens make up. -/
def ofTokens? (tokens : List Token) : Option Json :=
  (tokens.foldlM ReaderState.step? ⟨.value, []⟩).bind ReaderState.result?

/-- The value that a text holds, with nothing but spaces around it. -/
def read? (standIns : StandIns) (text : Text) : Option Json :=
  (tokensFrom? standIns [] text).bind ofTokens?

/-- The value that bytes hold in any Unicode encoding, however deeply it is nested. The `json` module
fails at its recursion limit, near a thousand levels, which is not part of this. -/
def ofBytes? (standIns : StandIns) (bytes : Encoding.Bytes) : Option Json :=
  (Encoding.decodeUnicode? standIns bytes).bind (read? standIns)

/-- Stand-ins to read a value with. There are none for a value that can be read without any, and
else ones that the value does not hold. -/
def standInsFor (read : StandIns → Option Json) : StandIns :=
  match read .none with
  | some _ => .none
  | none =>
      match read .uniform with
      | some value => .avoiding (compact .unicode value)
      | none => .none

end DiagramRepair.Json
