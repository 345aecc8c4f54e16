import SqlReplay.Text.Basic

/-! The server types a literal can be declared with. -/

namespace SqlReplay

inductive Size
  | exactly (n : Nat)
  | unbounded
  deriving DecidableEq

/-- Room for `n` units, at least one; beyond the limit of the type there is no bound. -/
def Size.ofLength (limit n : Nat) : Size :=
  if max 1 n ≤ limit then .exactly (max 1 n) else .unbounded

def Size.text : Size → Text
  | .exactly n => Text.ofNat n
  | .unbounded => "max"

inductive SqlType
  | nvarchar (size : Size)
  | varchar (size : Size)
  | varbinary (size : Size)
  | datetime | date | time | int | bigint
  | decimal (precision scale : Nat)
  deriving DecidableEq

namespace SqlType

def nvarcharLimit : Nat := 4000

def varcharLimit : Nat := 8000

def varbinaryLimit : Nat := 8000

def precisionLimit : Nat := 38

def text : SqlType → Text
  | .nvarchar size => "nvarchar(" ++ size.text ++ ")"
  | .varchar size => "varchar(" ++ size.text ++ ")"
  | .varbinary size => "varbinary(" ++ size.text ++ ")"
  | .datetime => "datetime"
  | .date => "date"
  | .time => "time"
  | .int => "int"
  | .bigint => "bigint"
  | .decimal precision scale =>
    "decimal(" ++ Text.ofNat precision ++ "," ++ Text.ofNat scale ++ ")"

/-- `int` where a signed word of 32 bits holds the number. -/
def ofInteger (n : Int) : SqlType :=
  if -Int.pow 2 31 ≤ n ∧ n < Int.pow 2 31 then .int else .bigint

/-- The type of a decimal literal by the digits around its point; an empty whole part counts as
one zero. There is none beyond the precision limit. -/
def ofDecimal? (token : Text) : Option SqlType :=
  let (whole, fraction) := Text.cut '.' (token.dropWhile fun c => c == '+' || c == '-')
  let scale := (fraction.getD []).length
  let precision := max 1 whole.length + scale
  if precision ≤ precisionLimit then some (.decimal precision scale) else none

end SqlType

end SqlReplay
