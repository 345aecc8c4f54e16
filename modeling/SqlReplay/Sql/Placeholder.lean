import SqlReplay.Sql.Span
import SqlReplay.Text.CaseMap

/-! Placeholders of a statement: which ones it uses, and what it reads with values in their
places. Names are told apart by their lower-case form, the key. -/

namespace SqlReplay

/-- A whole name, except that one line feed may follow it. -/
def isPlaceholderName (name : Text) : Bool :=
  match name with
  | '@' :: rest =>
    match Cursor.nameLength rest, rest.dropWhile Cursor.isNameChar with
    | 0, _ => false
    | _, [] => true
    | _, more => more == ['\n']
  | _ => false

structure Reference where
  name : Text
  key : Text
  deriving DecidableEq

namespace Reference

def ofName (name : Text) : Reference := ⟨name, Text.lower name⟩

/-- The digits of a numbered name without leading zeros, after how many there are; two such pairs
compare as the numbers do. -/
def numericKey? (r : Reference) : Option (Nat × Text) :=
  let digits := r.name.drop 1
  if digits.isEmpty || !digits.all Char.isDigit then none
  else
    let significant := digits.dropWhile (· == '0')
    some (significant.length, significant)

def digitsLe : Text → Text → Bool
  | [], _ => true
  | _ :: _, [] => false
  | a :: as, b :: bs => a < b || (a == b && digitsLe as bs)

def numericLe (a b : Nat × Text) : Bool := a.1 < b.1 || (a.1 == b.1 && digitsLe a.2 b.2)

/-- Numbered names by their numbers, then the others; equal numbers and names without one keep
their order. -/
def declarationOrder (references : List Reference) : List Reference :=
  let numbered := references.filterMap fun r => (numericKey? r).map (·, r)
  (numbered.mergeSort fun a b => numericLe a.1 b.1).map (·.2) ++
    references.filter fun r => (numericKey? r).isNone

end Reference

structure Occurrence where
  reference : Reference
  start : Nat
  stop : Nat
  deriving DecidableEq

def occurrences (sql : Text) : List Occurrence :=
  (located 0 (spans sql)).filterMap fun (kind, start, stop) =>
    if kind = .placeholder then
      some ⟨.ofName ((sql.take stop).drop start), start, stop⟩
    else none

/-- The placeholders of a statement, each key once, in the order in which they first appear. -/
def references (sql : Text) : List Reference :=
  (((spans sql).filter (·.kind = .placeholder)).map fun s => Reference.ofName s.text).eraseDupsBy
    (·.key == ·.key)

/-- The statement with every placeholder that `value?` knows by its key replaced. -/
def substitute (value? : Text → Option Text) (sql : Text) : Text :=
  (spans sql).flatMap fun s =>
    if s.kind = .placeholder then (value? (Text.lower s.text)).getD s.text else s.text

@[simp] theorem substitute_none (sql : Text) : substitute (fun _ => none) sql = sql := by
  simp only [substitute, Option.getD_none, ite_self]
  exact flatMap_text_spans sql

/-- Values by key, where a later one replaces an earlier one and an empty one counts as none. -/
def lastValue (values : List (Text × Option Text)) (key : Text) : Option Text :=
  ((values.reverse.lookup key).join).filter (!·.isEmpty)

end SqlReplay
