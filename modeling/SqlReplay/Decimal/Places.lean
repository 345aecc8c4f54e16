import SqlReplay.Decimal.Shortest

/-! Decimal texts with a given number of digits, rounded to the nearest, a tie to the even digit. -/

namespace SqlReplay.Decimal

namespace Binary

def rounded (b : Binary) (unit : Int) : Nat :=
  let (n, d) := scale b.significand b.exponent unit
  let twice := 2 * (n % d)
  n / d + (if d < twice ∨ twice = d ∧ n / d % 2 = 1 then 1 else 0)

/-- `count` significant digits, and the power of ten of the first of them. -/
def leading (b : Binary) (count : Nat) : Text × Int :=
  let exponent := b.magnitude - 1
  let n := b.rounded (exponent + 1 - count)
  if n < Nat.pow 10 count then (Text.ofNat n, exponent) else (Text.ofNat (n / 10), exponent + 1)

end Binary

/-- No number has more digits but zeros, behind the point or in all. -/
def digitLimit : Nat := 1100

def zeros (n : Nat) : Text := List.replicate n '0'

def Magnitude.leading (count : Nat) : Magnitude → Text × Int
  | .finite b =>
    let (digits, exponent) := b.leading (min count digitLimit)
    (digits ++ zeros (count - digitLimit), exponent)
  | _ => (zeros count, 0)

/-- `point` keeps the point when no digit follows it. -/
def withFraction (point : Bool) (whole fraction : Text) : Text :=
  whole ++ (if fraction.isEmpty && !point then [] else '.' :: fraction)

def Magnitude.fixed (point : Bool) (places : Nat) (m : Magnitude) : Text :=
  let exact := min places digitLimit
  let n := match m with
    | .finite b => b.rounded (-(exact : Int))
    | _ => 0
  let digits := Text.zeroPadded (exact + 1) n
  let whole := digits.length - exact
  withFraction point (digits.take whole) (digits.drop whole ++ zeros (places - exact))

def exponentText (exponent : Int) : Text :=
  ['e', if exponent < 0 then '-' else '+'] ++ Text.zeroPadded 2 exponent.natAbs

def Magnitude.scientific (point : Bool) (places : Nat) (m : Magnitude) : Text :=
  let (digits, exponent) := m.leading (places + 1)
  withFraction point (digits.take 1) (digits.drop 1) ++ exponentText exponent

/-- `places` significant digits, at least one, laid out by the size of the number; zeros at the end
are dropped unless the point is to be kept. -/
def Magnitude.general (point : Bool) (places : Nat) (m : Magnitude) : Text :=
  let count := max (if point then places else min places digitLimit) 1
  let (digits, exponent) := m.leading count
  let drop (t : Text) : Text := if point then t else (t.reverse.dropWhile (· == '0')).reverse
  if exponent < -4 ∨ (count : Int) ≤ exponent then
    withFraction point (digits.take 1) (drop (digits.drop 1)) ++ exponentText exponent
  else if exponent < 0 then
    withFraction point ['0'] (drop (zeros (exponent.natAbs - 1) ++ digits))
  else
    let whole := exponent.toNat + 1
    withFraction point (digits.take whole) (drop (digits.drop whole))

end SqlReplay.Decimal
