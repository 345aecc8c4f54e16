import SqlReplay.Literal.Shape
import SqlReplay.Literal.SqlType
import SqlReplay.Text.Numeral

/-! What a literal token says about its value: the text to embed, and the type that its written
form alone fixes, or the reason why it fixes none. The null literal fixes none. -/

namespace SqlReplay

inductive LiteralIssue
  | emptyValue | nullValue | oddHexDigits | tooManyDigits | tooPrecise | unsupported
  deriving DecidableEq

def LiteralIssue.message : LiteralIssue → Text
  | .emptyValue => "Value is empty."
  | .nullValue => "NULL has no concrete type for conservative inference."
  | .oddHexDigits => "Hex literal has odd digit count."
  | .tooManyDigits => "Could not parse integer literal."
  | .tooPrecise =>
    "Decimal precision exceeds SQL Server limit (" ++ Text.ofNat SqlType.precisionLimit ++ ")."
  | .unsupported => "Unsupported token format."

/-- A literal with its type, or what there is of a literal and why it has no type. -/
inductive Classification
  | typed (literal : Text) (type : SqlType)
  | untyped (literal : Option Text) (issue : LiteralIssue)
  deriving DecidableEq

namespace Classification

def literal? : Classification → Option Text
  | typed literal _ => some literal
  | untyped literal _ => literal

def type? : Classification → Option SqlType
  | typed _ type => some type
  | untyped _ _ => none

def issue? : Classification → Option LiteralIssue
  | typed _ _ => none
  | untyped _ issue => some issue

def isConfident (c : Classification) : Bool := c.type?.isSome

def isDeclarable (c : Classification) : Bool := c.type?.isSome && c.literal?.isSome

end Classification

def stringType (value : Text) : SqlType :=
  if Shape.isDatetime value then .datetime
  else if Shape.isDate value then .date
  else if Shape.isTime value then .time
  else .varchar (.ofLength SqlType.varcharLimit value.length)

/-- The value of a whole number, unless it has too many digits to be converted. -/
def integerValue? (token : Text) : Option Int :=
  let digits := Shape.dropSign token
  if digits.length ≤ Numeral.digitLimit then
    let n := Numeral.ofDigits (Numeral.asciiDigits digits)
    some (if token.head? = some '-' then -(n : Int) else n)
  else none

/-- The forms are tried in order, and the first that fits decides. -/
def classifyTrimmed (token : Text) : Classification :=
  if token.isEmpty then .untyped none .emptyValue
  else if Shape.isNull token then .untyped (some ['N', 'U', 'L', 'L']) .nullValue
  else if Shape.isNationalString token then
    .typed token (.nvarchar (.ofLength SqlType.nvarcharLimit (Shape.body 2 token).length))
  else if Shape.isString token then .typed token (stringType (Shape.body 1 token))
  else if Shape.isHex token then
    let digits := token.length - 2
    if digits % 2 = 0 then
      .typed token (.varbinary (.ofLength SqlType.varbinaryLimit (digits / 2)))
    else .untyped (some token) .oddHexDigits
  else if Shape.isInteger token then
    match integerValue? token with
    | some n => .typed token (.ofInteger n)
    | none => .untyped (some token) .tooManyDigits
  else if Shape.isDecimal token then
    match SqlType.ofDecimal? token with
    | some type => .typed token type
    | none => .untyped (some token) .tooPrecise
  else .untyped (some token) .unsupported

def classify (token : Text) : Classification := classifyTrimmed (Text.trim token)

end SqlReplay
