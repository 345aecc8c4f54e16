import SqlReplay.Exec.Registry
import SqlReplay.Log.Event
import SqlReplay.Script.Warning

/-! A traced call read as a whole: its parameters, the warnings about it, and what is logged on the
way. -/

namespace SqlReplay

namespace Classification

def literalLogger : Text := "sqltrace.core.literals"

def event? (token : Text) (c : Classification) : Option Log.Event :=
  let debug (message : Text) (failure : Option Failure) : Log.Event :=
    ⟨.debug, literalLogger, message, none, failure⟩
  match c with
  | typed _ _ => none
  | untyped _ issue =>
    match issue with
    | .emptyValue | .nullValue => none
    | .oddHexDigits =>
      some (debug ("Rejected hex literal with " ++ Text.ofNat (token.length - 2) ++ " digits") none)
    | .tooManyDigits =>
      some (debug ("Integer literal " ++ token.quoted ++ " could not be parsed")
        (some ⟨.host, "ValueError", Numeral.limitMessage (Shape.dropSign token).length⟩))
    | .tooPrecise =>
      some (debug ("Decimal literal " ++ token.quoted ++ " exceeds maximum precision") none)
    | .unsupported => some (debug ("Unsupported literal token " ++ token.quoted) none)

end Classification

def classifyLogged (token : Text) : Classification × List Log.Event :=
  let c := classify token
  (c, (c.event? (Text.trim token)).toList)

structure ParsedCall where
  params : Registry
  warnings : List Warning
  events : List Log.Event

def parseCall (call : Text) : ParsedCall :=
  if Text.IsBlank call then ⟨[], [.emptyCall], []⟩
  else
    let assigned := assignments call
    let params := Registry.ofAssignments assigned
    let duplicates := (repeated [] assigned).map fun a => Warning.duplicateAssignment a.name
    ⟨params, duplicates ++ (if params.isEmpty then [.noAssignments] else []),
      assigned.flatMap (fun a => (classifyLogged a.value).2) ++
        [⟨.debug, "sqltrace.core.assignments",
          "Parsed " ++ Text.ofNat params.length ++ " EXEC parameter(s)", none, none⟩]⟩

end SqlReplay
