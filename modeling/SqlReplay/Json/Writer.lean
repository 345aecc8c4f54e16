import SqlReplay.Json.Basic

/-! The written form of data values. Control characters are always escaped, so a value written on
one line holds none. -/

namespace SqlReplay.Json

/-- How a value is laid out: whether all but printable ASCII is escaped, whether fields are sorted
by name, and how many spaces each level of nesting is indented, on lines of its own. -/
structure Layout where
  ascii : Bool := false
  sorted : Bool := false
  indent : Option Nat := none

def unitEscape (n : Nat) : Text := '\\' :: 'u' :: hexDigits 4 n

/-- A character by its UTF-16 units. -/
def unitEscapes (c : Char) : Text :=
  let n := c.toNat
  if n < 0x10000 then unitEscape n
  else unitEscape (0xD800 + (n - 0x10000) / 0x400) ++ unitEscape (0xDC00 + (n - 0x10000) % 0x400)

def escapeChar (ascii : Bool) (c : Char) : Text :=
  if c = '"' then ['\\', '"']
  else if c = '\\' then ['\\', '\\']
  else if c = '\n' then ['\\', 'n']
  else if c = '\r' then ['\\', 'r']
  else if c = '\t' then ['\\', 't']
  else if c = '\x08' then ['\\', 'b']
  else if c = '\x0c' then ['\\', 'f']
  else if c.toNat < 0x20 || (ascii && 0x7F ≤ c.toNat) then unitEscapes c
  else [c]

def writeString (ascii : Bool) (s : Text) : Text :=
  '"' :: s.flatMap (escapeChar ascii) ++ ['"']

namespace Layout

def lineBreak (l : Layout) (depth : Nat) : Text :=
  match l.indent with
  | none => []
  | some n => '\n' :: Text.spaces (n * depth)

def separator (l : Layout) (depth : Nat) : Text :=
  match l.indent with
  | none => [',', ' ']
  | some _ => ',' :: l.lineBreak depth

def enclose (l : Layout) (depth : Nat) (opening closing : Char) : List Text → Text
  | [] => [opening, closing]
  | items => opening :: l.lineBreak (depth + 1) ++ Text.join (l.separator (depth + 1)) items ++
      l.lineBreak depth ++ [closing]

/-- Written fields in the order of the layout; names compare by their code points. -/
def arrange (l : Layout) (fields : List (Text × Text)) : List Text :=
  (if l.sorted then fields.mergeSort fun a b => !List.lex b.1 a.1 else fields).map (·.2)

end Layout

mutual

def write (l : Layout) (depth : Nat) : Json → Text
  | .null => "null"
  | .bool true => "true"
  | .bool false => "false"
  | .int n => Text.ofInt n
  | .float x => Decimal.text ⟨"Infinity", "NaN"⟩ x
  | .str s => writeString l.ascii s
  | .arr items => l.enclose depth '[' ']' (writeItems l (depth + 1) items)
  | .obj fields => l.enclose depth '\x7b' '\x7d' (l.arrange (writeFields l (depth + 1) fields))

def writeItems (l : Layout) (depth : Nat) : List Json → List Text
  | [] => []
  | item :: rest => write l depth item :: writeItems l depth rest

def writeFields (l : Layout) (depth : Nat) : Fields → List (Text × Text)
  | [] => []
  | (key, value) :: rest =>
    (key, writeString l.ascii key ++ ':' :: ' ' :: write l depth value) ::
      writeFields l depth rest

end

/-- On one line, with characters beyond ASCII as themselves. -/
def encode (v : Json) : Text := v.write {} 0

def encodeIndented (n : Nat) (v : Json) : Text := v.write ⟨false, false, some n⟩ 0

/-- On one line in ASCII, with fields sorted by name. -/
def canonical (v : Json) : Text := v.write ⟨true, true, none⟩ 0

end SqlReplay.Json
