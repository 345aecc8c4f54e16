import SqlReplay.Host
import SqlReplay.Json.Reader
import SqlReplay.Json.Writer
import SqlReplay.Store.FileTree
import SqlReplay.Text.Newline

/-! The inputs of the last run, as they are remembered, and what can go wrong with them. They are
remembered as texts; what a file says of them is read as code points. -/

namespace SqlReplay

structure InputStateOf (α : Type) where
  sql : List α := []
  exec : List α := []
  deriving DecidableEq

abbrev InputState := InputStateOf Char

inductive StateFault
  | notAnObject (type : Text)
  | notTexts
  | unreadable (path : FilePath) (cause : FileFault)
  | unwritable (path : FilePath) (cause : FileFault)
  | unremovable (path : FilePath) (cause : FileFault)
  | malformed (path : FilePath) (content : Text) (cause : Json.ReadFault)
  /-- The path cannot be looked up. -/
  | unreachable (cause : FileFault)
  /-- More directories are to be made than are made at once. -/
  | tooManyDirectories
  /-- The octets are no text. -/
  | undecodable (cause : Utf8.Fault)
  /-- The brackets of the content are nested too deep. -/
  | tooDeep (inArray : Bool)
  deriving DecidableEq

namespace StateFault

def message : StateFault → Text
  | notAnObject type => "Expected a JSON object for input state, got " ++ type
  | notTexts => "Input state values must be strings"
  | unreadable path cause =>
    "Could not read input state from " ++ path.text ++ ": " ++ cause.message
  | unwritable path cause =>
    "Could not write input state to " ++ path.text ++ ": " ++ cause.message
  | unremovable path cause =>
    "Could not remove input state " ++ path.text ++ ": " ++ cause.message
  | malformed path content cause =>
    "Input state file " ++ path.text ++ " is not valid JSON: " ++ cause.message content
  | unreachable cause => cause.message
  | tooManyDirectories => "maximum recursion depth exceeded while calling a Python object"
  | undecodable cause => cause.message
  | tooDeep inArray => (Json.ReadFault.tooDeep inArray).message []

/-- The faults that a command does not report as a matter of remembered inputs. -/
def isFatal : StateFault → Bool
  | unreachable _ => true
  | tooManyDirectories => true
  | undecodable _ => true
  | tooDeep _ => true
  | _ => false

/-- What is wrong with a file, or with the path to it if that cannot be looked up. -/
def ofFile (cause : FileFault) (fault : FileFault → StateFault) : StateFault :=
  if cause.error = .nullCharacter then unreachable cause else fault cause

end StateFault

def InputStateOf.isEmpty (s : InputStateOf α) : Bool := s.sql.isEmpty && s.exec.isEmpty

namespace InputState

def coded (s : InputState) : InputStateOf CodePoint := ⟨Text.coded s.sql, Text.coded s.exec⟩

def toJson (s : InputState) : Json := .obj [("sql", .str s.sql), ("exec", .str s.exec)]

/-- A text field; one that is missing, or that does not count as given, is empty. -/
def textField (key : Text) (j : JsonOf CodePoint) : Except StateFault (List CodePoint) :=
  match (j.field? key.coded).filter JsonOf.isTruthy with
  | none => .ok []
  | some (.str s) => .ok s
  | some _ => .error .notTexts

def ofJson : JsonOf CodePoint → Except StateFault (InputStateOf CodePoint)
  | .obj fields => do
    return ⟨← textField "sql" (.obj fields), ← textField "exec" (.obj fields)⟩
  | j => .error (.notAnObject j.typeName)

def content (s : InputState) : Octets := Utf8.encode (s.toJson.encodeIndented 2)

/-- What the content of the state file at `path` says; blank content says nothing. -/
def ofContent (host : Host) (path : FilePath) (octets : Octets) :
    Except StateFault (InputStateOf CodePoint) :=
  match Utf8.decode octets with
  | .error fault => .error (.undecodable fault)
  | .ok text =>
    let text := Text.unifyNewlines text
    if Text.IsBlank text then .ok {}
    else match Json.decode host.readDepth text with
      | .error (.tooDeep inArray) => .error (.tooDeep inArray)
      | .error fault => .error (.malformed path text fault)
      | .ok j => ofJson j

end InputState

end SqlReplay
