import SqlReplay.Text.Basic

/-! The written forms of literals: quoted strings, hexadecimal, whole and decimal numbers, and the
strings that read as moments. -/

namespace SqlReplay.Shape

/-- What follows an opening apostrophe is a string body closed by the last character: apostrophes
inside stand in pairs. -/
def closesQuote : Text → Bool
  | [] => false
  | '\'' :: rest =>
    match rest with
    | [] => true
    | '\'' :: more => closesQuote more
    | _ => false
  | _ :: rest => closesQuote rest

def isString : Text → Bool
  | '\'' :: rest => closesQuote rest
  | _ => false

def isNationalString : Text → Bool
  | 'N' :: rest => isString rest
  | _ => false

/-- A string body with each pair of apostrophes read as one. -/
def decodeString : Text → Text
  | '\'' :: '\'' :: rest => '\'' :: decodeString rest
  | c :: rest => c :: decodeString rest
  | [] => []

/-- The body of a string literal whose opening mark has `opener` characters. -/
def body (opener : Nat) (token : Text) : Text := decodeString (token.drop opener).dropLast

def isNull (token : Text) : Bool := token.map Char.toLower == ['n', 'u', 'l', 'l']

def isHexDigit (c : Char) : Bool :=
  c.isDigit || ('a' ≤ c && c ≤ 'f') || ('A' ≤ c && c ≤ 'F')

def isHex : Text → Bool
  | '0' :: 'x' :: digits => digits.all isHexDigit
  | _ => false

def dropSign : Text → Text
  | '+' :: rest => rest
  | '-' :: rest => rest
  | t => t

def isDigits (t : Text) : Bool := !t.isEmpty && t.all Char.isDigit

def isInteger (token : Text) : Bool := isDigits (dropSign token)

/-- Digits around one point, at least one digit in all. -/
def isDecimal (token : Text) : Bool :=
  match Text.cut '.' (dropSign token) with
  | (whole, some fraction) => isDigits (whole ++ fraction)
  | (_, none) => false

/-- Character by character as in the sample, where a zero stands for any digit. -/
def matchesSample : Text → Text → Bool
  | [], [] => true
  | s :: ss, c :: cs => (if s = '0' then c.isDigit else s == c) && matchesSample ss cs
  | _, _ => false

/-- Nothing, or a point with one to seven digits. -/
def isFraction : Text → Bool
  | [] => true
  | '.' :: digits => isDigits digits && digits.length ≤ 7
  | _ => false

def isDate (t : Text) : Bool := matchesSample "0000-00-00" t

def isTime (t : Text) : Bool := matchesSample "00:00:00" (t.take 8) && isFraction (t.drop 8)

def isDatetime (t : Text) : Bool :=
  matchesSample "0000-00-00 00:00:00" (t.take 19) && isFraction (t.drop 19)

end SqlReplay.Shape
