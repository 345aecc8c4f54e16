import SqlReplay.Json.Basic

/-! The tokens of a written data value. A place where no token starts becomes a token of its own
that carries the fault, so that the reader meets it in its turn; nothing follows it. -/

namespace SqlReplay.Json

/-- What is wrong at a place of a written value. -/
inductive Complaint
  | expectingValue | expectingName | expectingColon | expectingComma | unterminatedString
  | controlCharacter | unknownEscape | badCodeEscape | extraData | byteOrderMark
  deriving DecidableEq

def Complaint.message : Complaint → Text
  | .expectingValue => "Expecting value"
  | .expectingName => "Expecting property name enclosed in double quotes"
  | .expectingColon => "Expecting ':' delimiter"
  | .expectingComma => "Expecting ',' delimiter"
  | .unterminatedString => "Unterminated string starting at"
  | .controlCharacter => "Invalid control character at"
  | .unknownEscape => "Invalid \\escape"
  | .badCodeEscape => "Invalid \\uXXXX escape"
  | .extraData => "Extra data"
  | .byteOrderMark => "Unexpected UTF-8 BOM (decode using utf-8-sig)"

/-- Why a text is no written value: a complaint with its place, a whole number with too many
digits, or brackets nested too deep, the innermost of an array or of an object. -/
inductive ReadFault
  | malformed (complaint : Complaint) (position : Nat)
  | numberTooLong (digits : Nat)
  | tooDeep (inArray : Bool)
  deriving DecidableEq

inductive Token
  | openArray | closeArray | openObject | closeObject | comma | colon
  | str (s : List CodePoint)
  | scalar (v : JsonOf CodePoint)
  | bad (fault : ReadFault)

def hexValue? (c : Char) : Option Nat :=
  if c.isDigit then some (c.toNat - '0'.toNat)
  else if 'a' ≤ c ∧ c ≤ 'f' then some (c.toNat - 'a'.toNat + 10)
  else if 'A' ≤ c ∧ c ≤ 'F' then some (c.toNat - 'A'.toNat + 10)
  else none

def hexUnit? (a b c d : Char) : Option Nat := do
  return (((← hexValue? a) * 16 + (← hexValue? b)) * 16 + (← hexValue? c)) * 16 + (← hexValue? d)

def isHighUnit (n : Nat) : Bool := 0xD800 ≤ n && n ≤ 0xDBFF

def isLowUnit (n : Nat) : Bool := 0xDC00 ≤ n && n ≤ 0xDFFF

def escapedChar? : Char → Option Char
  | '"' => some '"'
  | '\\' => some '\\'
  | '/' => some '/'
  | 'b' => some '\x08'
  | 'f' => some '\x0c'
  | 'n' => some '\n'
  | 'r' => some '\r'
  | 't' => some '\t'
  | _ => none

/-- The code point of an escape from its letter `u` on, which stands at `position`, and how many
characters it has. Something must follow the escape, and a high unit takes a low one with it. -/
def scanCode (position : Nat) : Text → Except ReadFault (CodePoint × Nat)
  | _ :: a :: b :: c :: d :: more =>
    match hexUnit? a b c d, more with
    | none, _ => .error (.malformed .badCodeEscape position)
    | some _, [] => .error (.malformed .badCodeEscape position)
    | some high, '\\' :: 'u' :: a :: b :: c :: d :: _ :: _ =>
      if isHighUnit high then
        match hexUnit? a b c d with
        | none => .error (.malformed .badCodeEscape (position + 6))
        | some low =>
          if isLowUnit low then
            .ok (.char (Char.ofNat (0x10000 + (high - 0xD800) * 0x400 + (low - 0xDC00))), 11)
          else .ok (.ofUnit high, 5)
      else .ok (.ofUnit high, 5)
    | some unit, _ => .ok (.ofUnit unit, 5)
  | _ => .error (.malformed .badCodeEscape position)

/-- The code point of an escape after its backslash, which stands at `position` in a string opened
at `opened`, and how many characters follow the backslash. -/
def scanEscape (opened position : Nat) : Text → Except ReadFault (CodePoint × Nat)
  | [] => .error (.malformed .unterminatedString opened)
  | c :: rest =>
    if c = 'u' then scanCode (position + 1) (c :: rest)
    else match escapedChar? c with
      | some d => .ok (.char d, 1)
      | none => .error (.malformed .unknownEscape position)

/-- The rest of a string that was opened at `opened`, from `position` on: what it says, and how many
characters it has with the closing quote. -/
def scanString (opened position : Nat) : Text → Except ReadFault (List CodePoint × Nat)
  | [] => .error (.malformed .unterminatedString opened)
  | c :: rest =>
    if c = '"' then .ok ([], 1)
    else if c = '\\' then
      match scanEscape opened position rest with
      | .error fault => .error fault
      | .ok (d, n) =>
        match scanString opened (position + 1 + n) (rest.drop n) with
        | .error fault => .error fault
        | .ok (s, length) => .ok (d :: s, length + n + 1)
    else if c.toNat < 0x20 then .error (.malformed .controlCharacter position)
    else match scanString opened (position + 1) rest with
      | .error fault => .error fault
      | .ok (s, length) => .ok (.char c :: s, length + 1)
termination_by t => t.length
decreasing_by all_goals simp only [List.length_drop, List.length_cons]; omega

namespace Number

def takeDigits (t : Text) : Text := t.takeWhile Char.isDigit

def scanWhole : Text → Text
  | '0' :: _ => ['0']
  | t => takeDigits t

def scanFraction : Text → Option Text
  | '.' :: rest => match takeDigits rest with
    | [] => none
    | digits => some digits
  | _ => none

/-- Whether the exponent is negative, its sign if written, and its digits. -/
def scanExponent : Text → Option (Bool × Text × Text)
  | c :: rest =>
    if c = 'e' ∨ c = 'E' then
      let (negative, sign, digits) := match rest with
        | '-' :: more => (true, ['-'], takeDigits more)
        | '+' :: more => (false, ['+'], takeDigits more)
        | more => (false, [], takeDigits more)
      if digits.isEmpty then none else some (negative, sign, digits)
    else none
  | [] => none

def value (negative : Bool) (whole : Text) (fraction : Option Text)
    (exponent : Option (Bool × Text)) : Except ReadFault (JsonOf CodePoint) :=
  match fraction, exponent with
  | none, none =>
    if whole.length ≤ Numeral.digitLimit then
      let n : Int := Numeral.ofDigits (Numeral.asciiDigits whole)
      .ok (.int (if negative then -n else n))
    else .error (.numberTooLong whole.length)
  | _, _ =>
    let places := fraction.getD []
    let power : Int := match exponent with
      | some (true, digits) => -(Numeral.ofDigits (Numeral.asciiDigits digits) : Int)
      | some (false, digits) => Numeral.ofDigits (Numeral.asciiDigits digits)
      | none => 0
    .ok (.float (Decimal.read negative (Numeral.asciiDigits (whole ++ places))
      (power - places.length)))

def scan? (t : Text) : Option (Except ReadFault (JsonOf CodePoint) × Nat) :=
  let (negative, t) := match t with
    | '-' :: rest => (true, rest)
    | _ => (false, t)
  let whole := scanWhole t
  if whole.isEmpty then none
  else
    let t := t.drop whole.length
    let fraction := scanFraction t
    let fractionLength := match fraction with
      | some digits => digits.length + 1
      | none => 0
    let t := t.drop fractionLength
    let exponent := scanExponent t
    let exponentLength := match exponent with
      | some (_, sign, digits) => sign.length + digits.length + 1
      | none => 0
    some (value negative whole fraction (exponent.map fun (n, _, digits) => (n, digits)),
      (if negative then 1 else 0) + whole.length + fractionLength + exponentLength)

end Number

def words : List (Text × JsonOf CodePoint) :=
  [("null", .null), ("true", .bool true), ("false", .bool false), ("NaN", .float (0.0 / 0.0)),
    ("Infinity", .float (1.0 / 0.0)), ("-Infinity", .float (-1.0 / 0.0))]

def isSpace (c : Char) : Bool := c == ' ' || c == '\t' || c == '\n' || c == '\r'

/-- The token that starts with `c` at `position`, and how many characters of `rest` it takes. -/
def Token.next (position : Nat) (c : Char) (rest : Text) : Token × Nat :=
  match c with
  | '[' => (.openArray, 0)
  | ']' => (.closeArray, 0)
  | '\x7b' => (.openObject, 0)
  | '\x7d' => (.closeObject, 0)
  | ',' => (.comma, 0)
  | ':' => (.colon, 0)
  | '"' =>
    match scanString position (position + 1) rest with
    | .ok (s, length) => (.str s, length)
    | .error fault => (.bad fault, 0)
  | _ =>
    match words.find? fun (word, _) => Text.startsWith (c :: rest) word with
    | some (word, v) => (.scalar v, word.length - 1)
    | none =>
      match Number.scan? (c :: rest) with
      | some (.ok v, length) => (.scalar v, length - 1)
      | some (.error fault, _) => (.bad fault, 0)
      | none => (.bad (.malformed .expectingValue position), 0)

/-- The tokens from `position` on with their places, up to the first bad one. -/
def tokens (position : Nat) : Text → List (Nat × Token)
  | [] => []
  | c :: rest =>
    if isSpace c then tokens (position + 1) rest
    else
      let (token, length) := Token.next position c rest
      match token with
      | .bad fault => [(position, .bad fault)]
      | token => (position, token) :: tokens (position + 1 + length) (rest.drop length)
termination_by t => t.length
decreasing_by all_goals simp only [List.length_drop, List.length_cons]; omega

end SqlReplay.Json
