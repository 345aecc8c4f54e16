import SqlReplay.Json.Token

/-! Reading a written data value: one pass over its tokens, with the brackets that are still open on
a stack. The first token that does not fit is reported where it starts. -/

namespace SqlReplay.Json

/-- An open bracket with what stands in it so far, the last first. -/
inductive Frame
  | array (items : List (JsonOf CodePoint))
  | object (fields : FieldsOf CodePoint)
  /-- An object in which a value for `key` is due. -/
  | field (fields : FieldsOf CodePoint) (key : List CodePoint)

inductive Expects
  | value
  | firstItem
  | firstName
  | name
  | colon (key : List CodePoint)
  /-- A value is complete; what follows depends on the innermost bracket. -/
  | after (v : JsonOf CodePoint)

def Expects.complaint (stack : List Frame) : Expects → Complaint
  | .value | .firstItem => .expectingValue
  | .firstName | .name => .expectingName
  | .colon _ => .expectingColon
  | .after _ => if stack.isEmpty then .extraData else .expectingComma

abbrev Reading := List Frame × Expects

/-- Opens a bracket, unless `limit` of them are open. -/
def push (limit : Nat) (stack : List Frame) (frame : Frame) (expects : Expects) (inArray : Bool) :
    Except ReadFault Reading :=
  if stack.length < limit then .ok (frame :: stack, expects) else .error (.tooDeep inArray)

/-- A token where a value is due, given what a token that fits nothing is answered with. -/
def stepValue (limit : Nat) (stack : List Frame) (misfit : Except ReadFault Reading) :
    Token → Except ReadFault Reading
  | .openArray => push limit stack (.array []) .firstItem true
  | .openObject => push limit stack (.object []) .firstName false
  | .str s => .ok (stack, .after (.str s))
  | .scalar v => .ok (stack, .after v)
  | .bad fault => .error fault
  | _ => misfit

def step (limit position : Nat) (token : Token) (reading : Reading) : Except ReadFault Reading :=
  let (stack, expects) := reading
  let misfit := .error (.malformed (expects.complaint stack) position)
  match expects, token, stack with
  | .firstItem, .closeArray, .array _ :: stack => .ok (stack, .after (.arr []))
  | .firstItem, token, _ => stepValue limit stack misfit token
  | .value, token, _ => stepValue limit stack misfit token
  | .firstName, .closeObject, _ :: stack => .ok (stack, .after (.obj []))
  | .firstName, .str key, _ => .ok (stack, .colon key)
  | .name, .str key, _ => .ok (stack, .colon key)
  | .firstName, .bad fault, _ => .error (faultAtName fault)
  | .name, .bad fault, _ => .error (faultAtName fault)
  | .colon key, .colon, .object fields :: stack => .ok (.field fields key :: stack, .value)
  | .after v, .comma, .array items :: stack => .ok (.array (v :: items) :: stack, .value)
  | .after v, .closeArray, .array items :: stack =>
    .ok (stack, .after (.arr (v :: items).reverse))
  | .after v, .comma, .field fields key :: stack =>
    .ok (.object ((key, v) :: fields) :: stack, .name)
  | .after v, .closeObject, .field fields key :: stack =>
    .ok (stack, .after (.obj (FieldsOf.ofList ((key, v) :: fields).reverse)))
  | _, _, _ => misfit
where
  /-- A string that breaks off is reported as such; nothing else starts a name. -/
  faultAtName : ReadFault → ReadFault
    | .malformed .expectingValue _ => .malformed .expectingName position
    | .numberTooLong _ => .malformed .expectingName position
    | fault => fault

def run (limit finish : Nat) :
    List (Nat × Token) → Reading → Except ReadFault (JsonOf CodePoint)
  | [], ([], .after v) => .ok v
  | [], (stack, expects) => .error (.malformed (match expects with
      | .after _ => .expectingComma
      | expects => expects.complaint stack) finish)
  | (position, token) :: rest, reading => do
    run limit finish rest (← step limit position token reading)

/-- The value that a text says, whose brackets are nested at most `limit` deep. -/
def decode (limit : Nat) (t : Text) : Except ReadFault (JsonOf CodePoint) :=
  if t.head? = some '\ufeff' then .error (.malformed .byteOrderMark 0)
  else run limit t.length (tokens 0 t) ([], .value)

def lineAndColumn (t : Text) (position : Nat) : Nat × Nat :=
  let before := t.take position
  (before.count '\n' + 1, (before.reverse.takeWhile (· ≠ '\n')).length + 1)

def ReadFault.message (t : Text) : ReadFault → Text
  | .malformed complaint position =>
    let (line, column) := lineAndColumn t position
    complaint.message ++ ": line " ++ Text.ofNat line ++ " column " ++ Text.ofNat column ++
      " (char " ++ Text.ofNat position ++ ")"
  | .numberTooLong digits => Numeral.limitMessage digits
  | .tooDeep inArray =>
    "maximum recursion depth exceeded while decoding a JSON " ++
      (if inArray then "array" else "object").toList ++ " from a unicode string"

end SqlReplay.Json
