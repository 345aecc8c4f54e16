import SqlReplay.Json.Basic
import SqlReplay.Script.Generate
import SqlReplay.Store.InputState

/-! Values as they are shown in full: the name of the kind and every field with its value. Two are
equal when they are of one kind and show the same fields, and for scripts also have the same
parameters. -/

namespace SqlReplay

/-- The fields of a classification or of a parameter that come from its literal. -/
structure LiteralFields where
  literal : Option Text
  type : Option Text
  confidence : Bool
  issue : Option Text
  deriving DecidableEq

structure ParamFields where
  name : Text
  raw : Text
  value : LiteralFields
  deriving DecidableEq

inductive Record
  | classification (fields : LiteralFields)
  | param (fields : ParamFields)
  | reference (name key : Text)
  | script (mode : Mode) (output : Text) (messages : List Text) (params : List ParamFields)
  | inputState (sql exec : Text)
  deriving DecidableEq

namespace LiteralFields

def ofClassification (c : Classification) : LiteralFields :=
  ⟨c.literal?, c.type?.map SqlType.text, c.isConfident, c.issue?.map LiteralIssue.message⟩

/-- Declarable by what is shown: confident, with a type and a literal that are not empty. -/
def isDeclarable (f : LiteralFields) : Bool :=
  f.confidence && (f.type.getD []) != [] && (f.literal.getD []) != []

def optional : Option Text → Json
  | none => .null
  | some t => .str t

def shown (f : LiteralFields) : List (Text × Text) :=
  [("normalized_literal", (optional f.literal).quoted), ("inferred_type", (optional f.type).quoted),
    ("confidence", Json.quoted (.bool f.confidence)), ("parse_error", (optional f.issue).quoted)]

end LiteralFields

def ParamFields.ofParam (p : Param) : ParamFields :=
  ⟨p.name, p.raw, .ofClassification p.value⟩

namespace Record

def ofParam (p : Param) : Record := .param (.ofParam p)

def ofReference (r : Reference) : Record := .reference r.name r.key

def ofScript (s : Script) : Record :=
  .script s.mode s.output s.messages (s.params.map .ofParam)

def ofInputState (s : InputState) : Record := .inputState s.sql s.exec

def kind : Record → Text
  | classification _ => "LiteralClassification"
  | param _ => "ParsedParam"
  | reference _ _ => "PlaceholderReference"
  | script _ _ _ _ => "GenerationResult"
  | inputState _ _ => "InputState"

/-- A mode by its name and its text. -/
def modeShown (m : Mode) : Text :=
  "<GenerationMode." ++ m.text.map Char.toUpper ++ ": " ++ m.text.quoted ++ ">"

def shownFields : Record → List (Text × Text)
  | classification fields => fields.shown
  | param p =>
    ("name", p.name.quoted) :: ("raw_token", p.raw.quoted) :: p.value.shown
  | reference name key => [("name", name.quoted), ("key", key.quoted)]
  | script mode output messages _ =>
    [("mode", modeShown mode), ("output_sql", output.quoted),
      ("warnings", Json.quoted (.arr (messages.map .str)))]
  | inputState sql exec => [("sql_text", sql.quoted), ("exec_text", exec.quoted)]

def shown (r : Record) : Text :=
  r.kind ++ '(' :: Text.join [',', ' '] (r.shownFields.map fun (k, v) => k ++ '=' :: v) ++ [')']

/-- Values that never change can be keys of a table. -/
def isHashable : Record → Bool
  | script _ _ _ _ => false
  | inputState _ _ => false
  | _ => true

def isDeclarable? : Record → Option Bool
  | param p => some p.value.isDeclarable
  | _ => none

end Record

end SqlReplay
