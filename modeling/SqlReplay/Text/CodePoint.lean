import SqlReplay.Text.Basic

/-! Texts as they are read from escapes. An escape may stand for half of a pair of UTF-16 units,
which is no character by itself; the halves are kept apart from the characters and from each
other. -/

namespace SqlReplay

inductive CodePoint
  | char (c : Char)
  /-- Half `n` of a pair, counted from unit D800. -/
  | half (n : Fin 0x800)
  deriving DecidableEq

namespace CodePoint

/-- The code point of one UTF-16 unit. -/
def ofUnit (unit : Nat) : CodePoint :=
  if h : 0xD800 ≤ unit ∧ unit < 0xE000 then .half ⟨unit - 0xD800, by omega⟩
  else .char (Char.ofNat unit)

def char? : CodePoint → Option Char
  | .char c => some c
  | .half _ => none

/-- The text of these code points, unless there is a half among them. -/
def text? (points : List CodePoint) : Option Text := points.mapM char?

end CodePoint

def Text.coded (t : Text) : List CodePoint := t.map .char

@[simp] theorem Text.coded_inj {s t : Text} : s.coded = t.coded ↔ s = t :=
  List.map_inj_right fun _ _ same => CodePoint.char.inj same

end SqlReplay
