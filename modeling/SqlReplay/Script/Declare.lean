import SqlReplay.Exec.Registry
import SqlReplay.Host
import SqlReplay.Script.Warning
import SqlReplay.Sql.Placeholder

/-! The block that declares the placeholders of a statement, one declaration a line, with the
statement after it. -/

namespace SqlReplay

/-- A declared name: without a value, with a value of no certain type, or with its own type. -/
inductive Declaration
  | uninitialized (name : Text)
  | variant (name literal : Text)
  | typed (name : Text) (type : SqlType) (literal : Text)
  deriving DecidableEq

namespace Declaration

def text : Declaration → Text
  | uninitialized name => name ++ ' ' :: variantType
  | variant name literal => name ++ ' ' :: variantType ++ " = " ++ literal
  | typed name type literal => name ++ ' ' :: type.text ++ " = " ++ literal

def warning? : Declaration → Option Warning
  | uninitialized name => some (.declaredUninitialized name)
  | variant name _ => some (.declaredVariant name)
  | typed _ _ _ => none

end Declaration

def Registry.declaration (params : Registry) (r : Reference) : Declaration :=
  match (params.get? r.key).map Param.value with
  | none => .uninitialized r.name
  | some (.untyped none _) => .uninitialized r.name
  | some (.untyped (some literal) _) => .variant r.name literal
  | some (.typed literal type) => .typed r.name type literal

/-- Why a block cannot be laid out: its indent is no index of a text, or memory is short. -/
inductive LayoutFault
  | indentNotIndexable
  | outOfMemory
  deriving DecidableEq

def LayoutFault.message : LayoutFault → Text
  | .indentNotIndexable => "cannot fit 'int' into an index-sized integer"
  | .outOfMemory => []

def checkIndent (host : Host) (indent : Int) : Except LayoutFault Nat :=
  if indent < -Int.pow 2 63 ∨ Int.pow 2 63 ≤ indent then .error .indentNotIndexable
  else if host.hasRoom indent.toNat then .ok indent.toNat
  else .error .outOfMemory

/-- The first declaration follows the keyword; each further one has a line of its own. -/
def joinDeclarations (indent : Nat) : List Text → Text
  | [] => []
  | [d] => d
  | d :: rest => d ++ [',', '\n'] ++ Text.spaces indent ++ joinDeclarations indent rest

def declareBlock (indent : Nat) (declarations : List Text) : Text :=
  "DECLARE " ++ joinDeclarations indent declarations ++ [';', '\n', '\n']

/-- A negative indent is none. -/
def declareStatement (host : Host) (declarations : List Text) (sql : Text) (indent : Int) :
    Except LayoutFault Text := do
  return declareBlock (← checkIndent host indent) declarations ++ Text.trim sql

end SqlReplay
