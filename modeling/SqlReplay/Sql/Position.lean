import SqlReplay.Sql.Cursor

/-! Ends of spans for positions that may be below zero. Such a position counts from the end of the
text. A search from before the text begins with it; reading character by character from there fails,
and reading from below zero goes on at the beginning of the text where it ends. -/

namespace SqlReplay.Cursor

def position (t : Text) : Int → Nat
  | .ofNat n => n
  | .negSucc n => t.length - (n + 1)

def readFrom? (t : Text) : Int → Option Text
  | .ofNat n => some (t.drop n)
  | .negSucc n => if n < t.length then some (t.drop (t.length - (n + 1)) ++ t) else none

def quotedEnd? (closing : Char) (t : Text) (start : Int) : Option Int :=
  (readFrom? t (start + 1)).map fun rest =>
    min (start + 1) t.length + quotedLength closing rest

def systemVariableEnd? (t : Text) (start : Int) : Option Int :=
  (readFrom? t (start + 2)).map fun rest => start + 2 + nameLength rest

def lineCommentEndFrom (t : Text) (start : Int) : Nat :=
  endOf lineLength 0 t (position t (start + 2))

def blockCommentEndFrom (t : Text) (start : Int) : Nat :=
  endOf blockLength 0 t (position t (start + 2))

theorem quotedEnd?_natCast (closing : Char) (t : Text) (start : Nat) :
    quotedEnd? closing t start = some (quotedEnd closing t start : Int) := by
  change (readFrom? t (Int.ofNat (start + 1))).map _ = _
  simp only [readFrom?, quotedEnd, endOf, Option.map_some, Option.some.injEq]
  omega

theorem systemVariableEnd?_natCast (t : Text) (start : Nat) :
    systemVariableEnd? t start = some (systemVariableEnd t start : Int) := by
  change (readFrom? t (Int.ofNat (start + 2))).map _ = _
  simp [readFrom?, systemVariableEnd]

theorem lineCommentEndFrom_natCast (t : Text) (start : Nat) :
    lineCommentEndFrom t start = lineCommentEnd t start := rfl

theorem blockCommentEndFrom_natCast (t : Text) (start : Nat) :
    blockCommentEndFrom t start = blockCommentEnd t start := rfl

end SqlReplay.Cursor
