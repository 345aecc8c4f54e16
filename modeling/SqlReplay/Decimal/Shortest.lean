import SqlReplay.Text.Numeral

/-! Decimal texts of binary floating-point numbers: the fewest digits that read back as the same
number, and of those the nearest. All comparisons are between whole numbers. -/

namespace SqlReplay.Decimal

/-- The positive number `significand · 2 ^ exponent`. Below a power of two the neighbours are
closer, so the lower half of its rounding interval is narrower there. -/
structure Binary where
  significand : Nat
  exponent : Int
  narrowBelow : Bool

/-- The parts of a positive finite number by its bits without the sign. -/
def Binary.ofBits (bits : Nat) : Binary :=
  let fraction := bits % Nat.pow 2 52
  let biased := bits / Nat.pow 2 52
  if biased = 0 then ⟨fraction, -1074, false⟩
  else ⟨Nat.pow 2 52 + fraction, Int.ofNat biased - 1075, fraction = 0 && 1 < biased⟩

inductive Magnitude
  | notANumber
  | infinite
  | zero
  | finite (b : Binary)

def parts (x : Float) : Bool × Magnitude :=
  let bits := x.toBits.toNat
  let magnitude := bits % Nat.pow 2 63
  (Nat.pow 2 63 ≤ bits,
    if 0x7FF * Nat.pow 2 52 < magnitude then .notANumber
    else if magnitude = 0x7FF * Nat.pow 2 52 then .infinite
    else if magnitude = 0 then .zero
    else .finite (.ofBits magnitude))

/-- Numerator and denominator of `n · 2 ^ two / 10 ^ ten`. -/
def scale (n : Nat) (two ten : Int) : Nat × Nat :=
  (n * Nat.pow 2 two.toNat * Nat.pow 10 (-ten).toNat,
    Nat.pow 2 (-two).toNat * Nat.pow 10 ten.toNat)

/-- The least power of ten above the number. -/
def Binary.magnitude (b : Binary) : Int :=
  let guess := (b.exponent + Int.ofNat b.significand.log2) * 30103 / 100000
  let reaches (k : Int) : Bool :=
    let (n, d) := scale b.significand b.exponent k
    d ≤ n
  if reaches (guess + 1) then guess + 2 else if reaches guess then guess + 1 else guess

/-- `digits` units of `10 ^ unit` round to the number; the ends of the interval count when the
significand is even. -/
def Binary.contains (b : Binary) (digits : Nat) (unit : Int) : Bool :=
  let (low, d) :=
    scale (4 * b.significand - (if b.narrowBelow then 1 else 2)) (b.exponent - 2) unit
  let (high, _) := scale (4 * b.significand + 2) (b.exponent - 2) unit
  if b.significand % 2 = 0 then low ≤ digits * d && digits * d ≤ high
  else low < digits * d && digits * d < high

/-- The best number of units of `10 ^ unit`, if one rounds to the number: the nearer of the two
around it, and of two equally near ones the even one. -/
def Binary.nearest? (b : Binary) (unit : Int) : Option Nat :=
  let (n, d) := scale b.significand b.exponent unit
  let below := n / d
  let above := below + 1
  match b.contains below unit, b.contains above unit with
  | true, true =>
    let gap := 2 * (n % d)
    some (if gap < d then below else if d < gap then above
      else if below % 2 = 0 then below else above)
  | true, false => some below
  | false, true => some above
  | false, false => none

/-- Tries one, two, … digits; seventeen always suffice. -/
def Binary.shortest (b : Binary) : Nat × Int :=
  let units := (List.range 17).map fun n => b.magnitude - Int.ofNat (n + 1)
  match units.findSome? fun unit => (b.nearest? unit).map (·, unit) with
  | some answer => answer
  | none => (b.significand, b.exponent)

/-- Digits without trailing zeros, and the place of the point before the first of them. -/
def Binary.digits (b : Binary) : Text × Int :=
  let (n, unit) := b.shortest
  let all := Text.ofNat n
  ((all.reverse.dropWhile (· == '0')).reverse, unit + all.length)

/-- Positional from `10 ^ -4` up to below `10 ^ 16`, with a digit after the point, and otherwise
with an exponent of at least two digits. -/
def layout (digits : Text) (point : Int) : Text :=
  if point ≤ -4 ∨ 16 < point then
    let exponent := point - 1
    let fraction := digits.drop 1
    digits.take 1 ++ (if fraction.isEmpty then [] else '.' :: fraction) ++
      ['e', if exponent < 0 then '-' else '+'] ++ Text.zeroPadded 2 exponent.natAbs
  else if point ≤ 0 then ['0', '.'] ++ List.replicate point.natAbs '0' ++ digits
  else
    let whole := point.toNat
    let fraction := digits.drop whole
    digits.take whole ++ List.replicate (whole - digits.length) '0' ++
      '.' :: (if fraction.isEmpty then ['0'] else fraction)

structure Names where
  infinity : Text
  notANumber : Text

def text (names : Names) (x : Float) : Text :=
  let (negative, magnitude) := parts x
  let unsigned := match magnitude with
    | .notANumber => names.notANumber
    | .infinite => names.infinity
    | .zero => ['0', '.', '0']
    | .finite b =>
      let (digits, point) := b.digits
      layout digits point
  if negative && !(magnitude matches .notANumber) then '-' :: unsigned else unsigned

/-- The number written by these digits times a power of ten, rounded to the nearest. -/
def read (negative : Bool) (digits : List Nat) (exponent : Int) : Float :=
  let n := Numeral.ofDigits digits
  let size := exponent + digits.length
  let x : Float :=
    if n = 0 ∨ size < -330 then 0.0
    else if 310 < size - (digits.takeWhile (· == 0)).length then 1.0 / 0.0
    else Float.ofScientific n (exponent < 0) exponent.natAbs
  if negative then -x else x

end SqlReplay.Decimal
