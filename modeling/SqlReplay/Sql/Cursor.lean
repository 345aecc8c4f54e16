import SqlReplay.Text.Basic

/-! How far quoted spans, comments and names reach. A length counts the characters of a span after
its opener; a span that is never closed takes all that is left. -/

namespace SqlReplay.Cursor

def isNameChar (c : Char) : Bool := c.isAlphanum || c == '_' || c == '#' || c == '$'

/-- Up to and including the first closing character that is not doubled. -/
def quotedLength (closing : Char) : Text → Nat
  | [] => 0
  | c :: rest =>
    if c = closing then
      match rest with
      | [] => 1
      | d :: more => if d = closing then quotedLength closing more + 2 else 1
    else quotedLength closing rest + 1

/-- Up to, but not including, the next line feed. -/
def lineLength (t : Text) : Nat := (t.takeWhile (· ≠ '\n')).length

/-- Up to and including the first closing mark; block comments do not nest. -/
def blockLength : Text → Nat
  | '*' :: '/' :: _ => 2
  | _ :: rest => blockLength rest + 1
  | [] => 0

def nameLength (t : Text) : Nat := (t.takeWhile isNameChar).length

/-- Where a span ends whose opener has `opener` characters and stands at `start`, also when the
text ends before the opener does. -/
def endOf (length : Text → Nat) (opener : Nat) (t : Text) (start : Nat) : Nat :=
  min t.length (start + opener) + length (t.drop (start + opener))

def quotedEnd (closing : Char) (t : Text) (start : Nat) : Nat :=
  endOf (quotedLength closing) 1 t start

def lineCommentEnd (t : Text) (start : Nat) : Nat := endOf lineLength 2 t start

def blockCommentEnd (t : Text) (start : Nat) : Nat := endOf blockLength 2 t start

/-- A system variable is taken to have its two signs, even where the text has none left. -/
def systemVariableEnd (t : Text) (start : Nat) : Nat := start + 2 + nameLength (t.drop (start + 2))

def startsLineComment (t : Text) (i : Nat) : Bool := Text.startsWith (t.drop i) ['-', '-']

def startsBlockComment (t : Text) (i : Nat) : Bool := Text.startsWith (t.drop i) ['/', '*']

def startsSystemVariable (t : Text) (i : Nat) : Bool := Text.startsWith (t.drop i) ['@', '@']

theorem quotedLength_le (closing : Char) (t : Text) : quotedLength closing t ≤ t.length := by
  fun_induction quotedLength closing t <;> grind

theorem lineLength_le (t : Text) : lineLength t ≤ t.length :=
  (List.takeWhile_sublist _).length_le

theorem blockLength_le (t : Text) : blockLength t ≤ t.length := by
  fun_induction blockLength t <;> simp_all

theorem nameLength_le (t : Text) : nameLength t ≤ t.length :=
  (List.takeWhile_sublist _).length_le

end SqlReplay.Cursor
