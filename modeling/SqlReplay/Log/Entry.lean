import SqlReplay.Host
import SqlReplay.Json.Writer
import SqlReplay.Log.Event
import SqlReplay.Log.Timestamp
import SqlReplay.Text.Template

/-! Events with the circumstances under which they were logged, and the lines that are written for
them. Fields of an event join a structured line but never replace a standard field. -/

namespace SqlReplay.Log

structure Site where
  module : Text
  /-- Unless it was logged outside of all functions, or none is known. -/
  function : Option Text
  line : Int
  deriving DecidableEq

/-- The correlation id on an entry, which others may have stamped with any value. -/
inductive Stamp
  | absent
  | given (id : Json)

/-- What is stamped on entries outside of all runs. -/
def noId : Text := ['-']

def Stamp.ofActive (active : Option Text) : Stamp := .given (.str (active.getD noId))

/-- The stamp, if it counts as given. -/
def Stamp.id? : Stamp → Option Json
  | .absent => none
  | .given id => if id.isTruthy then some id else none

structure Entry where
  event : Event
  time : Timestamp
  site : Site
  stamp : Stamp := .absent

inductive Style
  | simple | structured
  deriving DecidableEq

def Style.text : Style → Text
  | .simple => "simple"
  | .structured => "structured"

/-- Any name but that of structured lines means simple ones. -/
def Style.named (name : Text) : Style :=
  if name = Style.structured.text then .structured else .simple

inductive LineFault
  | missingStamp
  | template (fault : Template.Fault)
  | time (fault : TimeFault)
  /-- The fields of a structured line are nested too deep. -/
  | tooDeep
  deriving DecidableEq

def LineFault.message : LineFault → Text
  | .missingStamp => "Formatting field not found in record: 'correlation_id'"
  | .template fault => fault.message
  | .time fault => fault.message
  | .tooDeep => "maximum recursion depth exceeded while encoding a JSON object"

namespace Entry

/-- The entry with arguments in its message. -/
def fill (host : Host) (e : Entry) (arguments : List Json) : Except LineFault Entry :=
  match Template.fill host e.event.message arguments with
  | .ok message => .ok { e with event := { e.event with message } }
  | .error fault => .error (.template fault)

def timeText (e : Entry) : Except LineFault Text :=
  match e.time.text with
  | .ok t => .ok t
  | .error fault => .error (.time fault)

/-- The error of an event goes on lines of its own below the message. -/
def withFailure (e : Entry) (line : Text) : Text :=
  match e.event.failure with
  | none => line
  | some failure =>
    line ++ (if line.getLast? = some '\n' then [] else ['\n']) ++ failure.report

def simpleWith (e : Entry) (time id : Text) : Text :=
  e.withFailure <| time ++ ' ' :: Text.padRight 8 e.event.level.name ++ ' ' ::
    e.event.logger ++ ' ' :: '[' :: id ++ ']' :: ' ' :: e.event.message

/-- A simple line shows the stamp, whatever it is. -/
def simple (e : Entry) (time : Text) : Except LineFault Text :=
  match e.stamp with
  | .absent => .error .missingStamp
  | .given id => .ok (e.simpleWith time id.shown)

/-- The id of a structured line: the stamp, or else the active one, if it is any. -/
def correlationId? (e : Entry) (active : Option Text) : Option Json :=
  (e.stamp.id? <|> active.map JsonOf.str).filter fun
    | .str id => !id.isEmpty && id != noId
    | _ => true

def standardFields (e : Entry) (time : Text) : Fields :=
  [("timestamp", .str time), ("level", .str e.event.level.name),
    ("logger", .str e.event.logger), ("message", .str e.event.message),
    ("module", .str e.site.module), ("function", (e.site.function.map .str).getD .null),
    ("line", .int e.site.line)]

def fields (e : Entry) (time : Text) (active : Option Text) : Fields :=
  let fields := e.standardFields time ++
    ((e.correlationId? active).map fun id => ("correlation_id".toList, id)).toList
  let fields := (e.event.fields.getD []).foldl (fun fields (key, value) =>
    fields.setDefault key value) fields
  match e.event.failure with
  | none => fields
  | some failure => fields.set "exception" (.str failure.report)

def structured (host : Host) (e : Entry) (time : Text) (active : Option Text) :
    Except LineFault Text :=
  let line : Json := .obj (e.fields time active)
  if line.depth ≤ host.writeDepth then .ok line.encode else .error .tooDeep

/-- The line of an entry whose message is a template of arguments. A simple line has its message
before its time, a structured one after it, and the first fault counts. -/
def lineWith (host : Host) (style : Style) (active : Option Text) (arguments : List Json)
    (e : Entry) : Except LineFault Text :=
  match style with
  | .simple => do
    let e ← e.fill host arguments
    e.simple (← e.timeText)
  | .structured => do
    let time ← e.timeText
    (← e.fill host arguments).structured host time active

def line (host : Host) (style : Style) (active : Option Text) (e : Entry) :
    Except LineFault Text :=
  e.lineWith host style active []

end Entry

end SqlReplay.Log
