import SqlReplay.Config.Options
import SqlReplay.Log.Event
import SqlReplay.Script.Warning

/-! Formatting of a statement by a collaborator that may fail. An error becomes a warning that
quotes it, and the statement stays as it is; blank text is not formatted at all. An error that
cannot be quoted makes another one, and that one is not caught. -/

namespace SqlReplay

/-- What is asked of the outside while formatting. -/
inductive Request
  | format (text : Text) (options : FormatOptions)
  | transpile (text dialect : Text)
  | keywords (dialect : Text)
  | tokenize (text : Text)
  deriving DecidableEq

structure Reply where
  requests : List Request
  answer : Except Raised Text

structure Formatter where
  name : Text
  run : Text → FormatOptions → Reply

structure Formatted where
  text : Except Raised Text
  warning? : Option Warning := none
  events : List Log.Event := []
  requests : List Request := []

def formattingLogger : Text := "sqltrace.core.formatting"

def applyFormatter (formatter : Option Formatter) (options : FormatOptions) (text : Text) :
    Formatted :=
  if Text.IsBlank text then { text := .ok text }
  else match formatter with
    | none => { text := .ok text, warning? := some .formatterUnavailable }
    | some f =>
      let reply := f.run text options
      match reply.answer with
      | .ok formatted => { text := .ok formatted, requests := reply.requests }
      | .error error =>
        match error.text with
        | .error escaped => { text := .error escaped, requests := reply.requests }
        | .ok message =>
          let cause := if message.isEmpty then error.kind else message
          { text := .ok text
            warning? := some (.formatterFailed message)
            events := [⟨.warning, formattingLogger,
              "SQL formatter " ++ f.name ++ " failed: " ++ cause, none, none⟩]
            requests := reply.requests }

end SqlReplay
