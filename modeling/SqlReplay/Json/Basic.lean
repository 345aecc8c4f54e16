import SqlReplay.Decimal.Shortest
import SqlReplay.Text.CodePoint
import SqlReplay.Text.Quoted

/-! Data values: whole and floating-point numbers are told apart, and the fields of an object keep
their order. Texts are lists of characters in values that the program makes, and lists of code
points in those that it reads. `Json.quoted` and `Json.shown` are how messages name a value. -/

namespace SqlReplay

inductive JsonOf (α : Type)
  | null
  | bool (b : Bool)
  | int (n : Int)
  | float (x : Float)
  | str (s : List α)
  | arr (items : List (JsonOf α))
  | obj (fields : List (List α × JsonOf α))

abbrev FieldsOf (α : Type) := List (List α × JsonOf α)

abbrev Json := JsonOf Char

abbrev Fields := FieldsOf Char

section

variable {α β : Type}

namespace FieldsOf

variable [DecidableEq α]

/-- A field that is there already keeps its place and takes the new value. -/
def set (key : List α) (value : JsonOf α) : FieldsOf α → FieldsOf α
  | [] => [(key, value)]
  | (k, v) :: rest => if k = key then (key, value) :: rest else (k, v) :: set key value rest

/-- Adds a field unless there is one of that name. -/
def setDefault (key : List α) (value : JsonOf α) (fields : FieldsOf α) : FieldsOf α :=
  if fields.any (·.1 == key) then fields else fields ++ [(key, value)]

def ofList (pairs : List (List α × JsonOf α)) : FieldsOf α :=
  pairs.foldl (fun fields (key, value) => fields.set key value) []

theorem lookup_set_of_ne {key other : List α} (h : other ≠ key) (value : JsonOf α)
    (fields : FieldsOf α) : (fields.set key value).lookup other = fields.lookup other := by
  induction fields with
  | nil => simp [set, List.lookup_cons, beq_eq_false_iff_ne.2 h]
  | cons f rest ih =>
    obtain ⟨k, v⟩ := f
    by_cases hk : k = key
    · subst hk; simp [set, List.lookup_cons, beq_eq_false_iff_ne.2 h]
    · simp [set, hk, List.lookup_cons, ih]

theorem lookup_setDefault (key : List α) (value : JsonOf α) (fields : FieldsOf α) :
    (fields.setDefault key value).lookup key = some ((fields.lookup key).getD value) := by
  unfold setDefault
  split
  next h =>
    obtain ⟨f, hf, hk⟩ := List.any_eq_true.1 h
    cases hl : fields.lookup key with
    | some v => rfl
    | none =>
      rw [eq_of_beq hk |>.symm] at hl
      simpa using List.lookup_eq_none_iff.1 hl f hf
  next h =>
    have : fields.lookup key = none := List.lookup_eq_none_iff.2 fun f hf => by
      cases hk : key == f.1 with
      | false => simp [bne, hk]
      | true => exact absurd (List.any_eq_true.2 ⟨f, hf, by simp [eq_of_beq hk]⟩) h
    simp [List.lookup_append, this]

end FieldsOf

namespace JsonOf

def field? [DecidableEq α] (key : List α) : JsonOf α → Option (JsonOf α)
  | obj fields => fields.lookup key
  | _ => none

/-- What counts as given: neither null nor false nor zero nor empty. -/
def isTruthy : JsonOf α → Bool
  | null => false
  | bool b => b
  | int n => n != 0
  | float x => !(x == 0.0)
  | str s => !s.isEmpty
  | arr items => !items.isEmpty
  | obj fields => !fields.isEmpty

def typeName : JsonOf α → Text
  | null => "NoneType"
  | bool _ => "bool"
  | int _ => "int"
  | float _ => "float"
  | str _ => "str"
  | arr _ => "list"
  | obj _ => "dict"

mutual

/-- How deep brackets are nested in a value. -/
def depth : JsonOf α → Nat
  | null | bool _ | int _ | float _ | str _ => 0
  | arr items => depthItems items + 1
  | obj fields => depthFields fields + 1

def depthItems : List (JsonOf α) → Nat
  | [] => 0
  | item :: rest => max (depth item) (depthItems rest)

def depthFields : FieldsOf α → Nat
  | [] => 0
  | (_, value) :: rest => max (depth value) (depthFields rest)

end

mutual

/-- The value with its texts taken letter by letter. -/
def map (f : α → β) : JsonOf α → JsonOf β
  | null => null
  | bool b => bool b
  | int n => int n
  | float x => float x
  | str s => str (s.map f)
  | arr items => arr (mapItems f items)
  | obj fields => obj (mapFields f fields)

def mapItems (f : α → β) : List (JsonOf α) → List (JsonOf β)
  | [] => []
  | item :: rest => map f item :: mapItems f rest

def mapFields (f : α → β) : FieldsOf α → FieldsOf β
  | [] => []
  | (key, value) :: rest => (key.map f, map f value) :: mapFields f rest

end

end JsonOf

end

namespace Json

/-- The value as it is read back. -/
def coded (v : Json) : JsonOf CodePoint := v.map .char

mutual

/-- A value as messages name it, with texts in quotes. -/
def quoted : Json → Text
  | .null => "None"
  | .bool true => "True"
  | .bool false => "False"
  | .int n => Text.ofInt n
  | .float x => Decimal.text ⟨"inf", "nan"⟩ x
  | .str s => Text.quoted s
  | .arr items => '[' :: Text.join ", " (quotedItems items) ++ [']']
  | .obj fields => '\x7b' :: Text.join ", " (quotedFields fields) ++ ['\x7d']

def quotedItems : List Json → List Text
  | [] => []
  | item :: rest => quoted item :: quotedItems rest

def quotedFields : Fields → List Text
  | [] => []
  | (key, value) :: rest => (Text.quoted key ++ ": " ++ quoted value) :: quotedFields rest

end

/-- A value as it is shown by itself, where a text stands without quotes. -/
def shown : Json → Text
  | .str s => s
  | value => value.quoted

end Json

end SqlReplay
