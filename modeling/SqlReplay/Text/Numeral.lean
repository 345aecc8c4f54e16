import SqlReplay.Text.Digit

/-! Whole numbers as people type them: blanks around, one sign, decimal digits of any script with
single underscores between them. Texts with more than `digitLimit` digits are not converted. -/

namespace SqlReplay.Numeral

def digitLimit : Nat := 4300

def limitMessage (digits : Nat) : Text :=
  "Exceeds the limit (" ++ Text.ofNat digitLimit ++
    " digits) for integer string conversion: value has " ++ Text.ofNat digits ++
    " digits; use sys.set_int_max_str_digits() to increase the limit"

def ofDigits (digits : List Nat) : Nat := digits.foldl (fun n d => 10 * n + d) 0

def asciiDigits (t : Text) : List Nat := t.map fun c => c.toNat - '0'.toNat

def digits? : Text → Option (List Nat)
  | [] => none
  | [c] => (digitValue c).map ([·])
  | c :: '_' :: rest => do return (← digitValue c) :: (← digits? rest)
  | c :: rest => do return (← digitValue c) :: (← digits? rest)

/-- Blanks around a number; the four separator controls do not count here. -/
def isSurround (c : Char) : Bool := isBlank c && !(28 ≤ c.toNat && c.toNat ≤ 31)

def trim (t : Text) : Text :=
  ((t.dropWhile isSurround).reverse.dropWhile isSurround).reverse

def natural? (t : Text) : Option Nat := do
  let digits ← digits? t
  if digits.length ≤ digitLimit then some (ofDigits digits) else none

def read? (t : Text) : Option Int :=
  match trim t with
  | '-' :: rest => (natural? rest).map fun n => -(n : Int)
  | '+' :: rest => (natural? rest).map Int.ofNat
  | rest => (natural? rest).map Int.ofNat

end SqlReplay.Numeral
