import SqlReplay.Exec.Assignment
import SqlReplay.Literal.Classify
import SqlReplay.Text.CaseMap

/-! The parameters of a call by their keys. A key stays where it was first assigned and has the
name and value of its last assignment. -/

namespace SqlReplay

structure Param where
  name : Text
  raw : Text
  value : Classification
  deriving DecidableEq

def Param.key (p : Param) : Text := Text.lower p.name

def Assignment.param (a : Assignment) : Param := ⟨a.name, a.value, classify a.value⟩

abbrev Registry := List Param

namespace Registry

def get? (r : Registry) (key : Text) : Option Param := r.find? fun p => p.key = key

def put (p : Param) : Registry → Registry
  | [] => [p]
  | q :: rest => if q.key = p.key then p :: rest else q :: put p rest

def ofAssignments (as : List Assignment) : Registry :=
  as.foldl (fun r a => r.put a.param) []

/-- The text that replaces the placeholder with this key. -/
def literal? (r : Registry) (key : Text) : Option Text := (r.get? key).bind (·.value.literal?)

end Registry

/-- The assignments whose key an earlier one has. -/
def repeated (seen : List Text) : List Assignment → List Assignment
  | [] => []
  | a :: rest =>
    let key := Text.lower a.name
    if key ∈ seen then a :: repeated seen rest else repeated (key :: seen) rest

end SqlReplay
