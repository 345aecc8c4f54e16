import SqlReplay.Json.Basic

/-! Errors that this library raises, and errors of any origin once they are caught. -/

namespace SqlReplay

inductive FaultKind
  | general | missingDependency | configuration | formatting | inputState
  deriving DecidableEq

def FaultKind.label : FaultKind → Text
  | .general => "SQLTraceError"
  | .missingDependency => "MissingDependencyError"
  | .configuration => "ImproperConfigurationError"
  | .formatting => "SQLFormattingError"
  | .inputState => "InputStateError"

def FaultKind.defaultMessage? : FaultKind → Option Text
  | .formatting => some "Issues formatting SQL statement."
  | .inputState => some "Issues accessing remembered input state."
  | _ => none

/-- The least and the most arguments of an error that does not take any number of them. -/
def FaultKind.arity? : FaultKind → Option (Nat × Nat)
  | .missingDependency => some (1, 2)
  | .formatting | .inputState => some (0, 1)
  | _ => none

/-- Why an error cannot be made of the arguments that it is given, or has no text. -/
inductive ArgumentFault
  | missing (kind : FaultKind) (name : Text)
  | tooMany (kind : FaultKind) (least most given : Nat)
  | unexpected (kind : FaultKind) (name : Text)
  /-- Part number `index` of the text is none itself. -/
  | notText (index : Nat) (type : Text)
  deriving DecidableEq

/-- An error counts itself as its first argument. -/
def ArgumentFault.message : ArgumentFault → Text
  | .missing kind name =>
    kind.label ++ ".__init__() missing 1 required positional argument: " ++ name.quoted
  | .tooMany kind least most given =>
    kind.label ++ ".__init__() takes from " ++ Text.ofNat (least + 1) ++ " to " ++
      Text.ofNat (most + 1) ++ " positional arguments but " ++ Text.ofNat (given + 1) ++
      " were given"
  | .unexpected kind name =>
    kind.label ++ ".__init__() got an unexpected keyword argument " ++ name.quoted
  | .notText index type =>
    "sequence item " ++ Text.ofNat index ++ ": expected str instance, " ++ type ++ " found"

/-- The detail should be a text, but whatever is given as one is kept. -/
structure Fault where
  kind : FaultKind
  detail : Json
  args : List Text

namespace Fault

/-- Arguments that count as given become texts; the first is the detail unless there is one. -/
def ofArgs (kind : FaultKind) (args : List Json) (detail : Json) : Fault :=
  match (args.filter JsonOf.isTruthy).map Json.shown, detail.isTruthy with
  | first :: rest, false => ⟨kind, .str first, rest⟩
  | texts, _ => ⟨kind, detail, texts⟩

def ofMessage (kind : FaultKind) (message : Text) : Fault := ⟨kind, .str message, []⟩

/-- An error whose only argument is its message; without one it has its default message. -/
def withDefault (kind : FaultKind) (message : Json) : Fault :=
  match message, kind.defaultMessage? with
  | .null, some text => ofMessage kind text
  | message, _ => ofMessage kind (if message.isTruthy then message.shown else [])

/-- `extra` names what to install, where it differs from the package. -/
def missing (package extra : Json) : Fault :=
  let install := (if extra.isTruthy then extra else package).shown
  ofMessage .missingDependency <|
    "Package " ++ package.quoted ++
      " is not installed but required. You can install it by running 'pip install sqltrace[" ++
      install ++ "]' to install sqltrace with the required extra or 'pip install " ++ install ++
      "' to install the package separately"

def create (kind : FaultKind) (args : List Json) (detail : Option Json) :
    Except ArgumentFault Fault :=
  match kind.arity? with
  | none => .ok (ofArgs kind args (detail.getD (.str [])))
  | some (least, most) =>
    if detail.isSome then .error (.unexpected kind "detail")
    else if most < args.length then .error (.tooMany kind least most args.length)
    else match kind, args with
      | .missingDependency, [] => .error (.missing kind "package")
      | .missingDependency, package :: rest => .ok (missing package (rest.headD .null))
      | kind, args => .ok (withDefault kind (args.headD .null))

def message (f : Fault) : Except ArgumentFault Text :=
  match f.detail with
  | .str detail => .ok (Text.trim (Text.join [' '] (f.args ++ [detail])))
  | detail => .error (.notText f.args.length detail.typeName)

def described (f : Fault) : Text :=
  if f.detail.isTruthy then f.kind.label ++ " - " ++ f.detail.shown else f.kind.label

end Fault

/-- Where a caught error comes from: the tool that knows SQL dialects, this library, or neither. -/
inductive Origin
  | tool | library | host
  deriving DecidableEq

/-- A caught error by the name of its kind. Asking for its text may raise another error instead. -/
structure Raised where
  origin : Origin
  kind : Text
  text : Except Raised Text

namespace Raised

def ofArgumentFault (fault : ArgumentFault) : Raised := ⟨.host, "TypeError", .ok fault.message⟩

def ofFault (fault : Fault) : Raised :=
  ⟨.library, fault.kind.label, fault.message.mapError ofArgumentFault⟩

end Raised

/-- A caught error as it is reported: the name of its kind and its text. -/
structure Failure where
  origin : Origin
  kind : Text
  message : Text
  deriving DecidableEq

namespace Failure

def home : Origin → Text
  | .tool => "sqlglot.errors."
  | .library => "sqltrace.exceptions."
  | .host => []

/-- As it ends a report of an uncaught error. -/
def report (f : Failure) : Text :=
  home f.origin ++ f.kind ++ (if f.message.isEmpty then [] else ':' :: ' ' :: f.message)

end Failure

end SqlReplay
