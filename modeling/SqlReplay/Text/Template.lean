import SqlReplay.Decimal.Places
import SqlReplay.Host
import SqlReplay.Json.Basic

/-! Message templates. A percent sign starts a conversion, which shows the next argument, or a field
of the only argument, as its letter says; all other characters stand for themselves. -/

namespace SqlReplay.Template

structure Flags where
  left : Bool := false
  sign : Bool := false
  blank : Bool := false
  zero : Bool := false
  alternate : Bool := false
  deriving DecidableEq

inductive Amount
  | unset
  | written (n : Nat)
  | argument
  deriving DecidableEq

/-- The field that a conversion shows, in parentheses. -/
inductive Key
  | absent
  | unclosed (depth : Nat) (read : Text)
  | named (name : Text)
  deriving DecidableEq

inductive Stage
  | start | flags | width | point | precisionStart | precision | size | letter
  deriving DecidableEq

structure Conversion where
  key : Key := .absent
  flags : Flags := {}
  width : Amount := .unset
  precision : Amount := .unset
  stage : Stage := .start
  /-- The letter at its end, and where it stands. -/
  letter : Option (Char × Nat) := none
  deriving DecidableEq

inductive Piece
  | char (c : Char)
  | conversion (c : Conversion)
  deriving DecidableEq

def Flags.set? (f : Flags) : Char → Option Flags
  | '-' => some { f with left := true }
  | '+' => some { f with sign := true }
  | ' ' => some { f with blank := true }
  | '0' => some { f with zero := true }
  | '#' => some { f with alternate := true }
  | _ => none

def Amount.push (digit : Nat) : Amount → Amount
  | .written n => .written (10 * n + digit)
  | _ => .written digit

def digit? (c : Char) : Option Nat :=
  if '0' ≤ c ∧ c ≤ '9' then some (c.toNat - '0'.toNat) else none

namespace Conversion

def readKey (c : Conversion) (depth : Nat) (read : Text) (d : Char) : Conversion :=
  if d = '(' then { c with key := .unclosed (depth + 1) (read ++ [d]) }
  else if d = ')' then
    if depth = 0 then { c with key := .named read, stage := .flags }
    else { c with key := .unclosed (depth - 1) (read ++ [d]) }
  else { c with key := .unclosed depth (read ++ [d]) }

/-- Reads one character more, at `index`. The stages come in their order, and each may be left out
but the letter, which ends the conversion. -/
def read (c : Conversion) (index : Nat) (d : Char) : Conversion :=
  let ending := { c with letter := some (d, index) }
  let size := if ['h', 'l', 'L'].contains d then { c with stage := .letter } else ending
  let point :=
    if d = '.' then { c with precision := .written 0, stage := .precisionStart } else size
  let width :=
    if d = '*' ∧ c.stage ≠ .width then { c with width := .argument, stage := .point }
    else match digit? d with
      | some n => { c with width := c.width.push n, stage := .width }
      | none => point
  let flags := match c.flags.set? d with
    | some flags => { c with flags, stage := .flags }
    | none => width
  match c.key, c.stage with
  | .unclosed depth read, _ => c.readKey depth read d
  | _, .start => if d = '(' then { c with key := .unclosed 0 [] } else flags
  | _, .flags => flags
  | _, .width => width
  | _, .point => point
  | _, .precisionStart | _, .precision =>
    if d = '*' ∧ c.stage = .precisionStart then { c with precision := .argument, stage := .size }
    else match digit? d with
      | some n => { c with precision := c.precision.push n, stage := .precision }
      | none => size
  | _, .size => size
  | _, .letter => ending

end Conversion

/-- Reads on from character number `index`, inside a conversion if one is begun. -/
def piecesFrom (index : Nat) : Option Conversion → Text → List Piece
  | none, [] => []
  | some c, [] => [.conversion c]
  | none, d :: rest =>
    if d = '%' then piecesFrom (index + 1) (some {}) rest
    else .char d :: piecesFrom (index + 1) none rest
  | some c, d :: rest =>
    let c := c.read index d
    if c.letter.isSome then .conversion c :: piecesFrom (index + 1) none rest
    else piecesFrom (index + 1) (some c) rest

def pieces (template : Text) : List Piece := piecesFrom 0 none template

inductive Fault
  | incomplete
  | incompleteKey
  | mappingRequired
  | missingKey (key : Text)
  | tooFewArguments
  | tooManyArguments
  | amountNotWhole
  | widthTooBig
  | precisionTooBig
  | widthOutOfRange
  | precisionOutOfRange
  /-- There is no room for so many digits of a whole number. -/
  | precisionTooLarge
  /-- There is no room for the width. -/
  | outOfMemory
  | integerRequired (letter : Char) (type : Text)
  | numberRequired (letter : Char) (type : Text)
  | floatRequired (type : Text)
  | notWhole
  | notFinite
  /-- The number is beyond all floating-point numbers. -/
  | tooLargeForFloat
  | characterRequired
  | characterOutOfRange
  /-- The number is that of half a pair, which no text here holds. -/
  | characterIsHalf
  | unknownLetter (letter : Char) (index : Nat)
  deriving DecidableEq

def Fault.message : Fault → Text
  | .incomplete => "incomplete format"
  | .incompleteKey => "incomplete format key"
  | .mappingRequired => "format requires a mapping"
  | .missingKey key => key.quoted
  | .tooFewArguments => "not enough arguments for format string"
  | .tooManyArguments => "not all arguments converted during string formatting"
  | .amountNotWhole => "* wants int"
  | .widthTooBig => "width too big"
  | .precisionTooBig => "precision too big"
  | .widthOutOfRange => "Python int too large to convert to C ssize_t"
  | .precisionOutOfRange => "Python int too large to convert to C int"
  | .precisionTooLarge => "precision too large"
  | .outOfMemory => []
  | .integerRequired letter type =>
    '%' :: letter :: " format: an integer is required, not ".toList ++ type
  | .numberRequired letter type =>
    '%' :: letter :: " format: a real number is required, not ".toList ++ type
  | .floatRequired type => "must be real number, not " ++ type
  | .notWhole => "cannot convert float NaN to integer"
  | .notFinite => "cannot convert float infinity to integer"
  | .tooLargeForFloat => "int too large to convert to float"
  | .characterRequired => "%c requires int or char"
  | .characterOutOfRange => "%c arg not in range(0x110000)"
  | .characterIsHalf => []
  | .unknownLetter letter index =>
    "unsupported format character '" ++ [if letter.toNat ≤ 30 ∨ 127 ≤ letter.toNat then '?'
      else letter] ++ "' (0x" ++ hexDigits 1 letter.toNat ++ ") at index " ++ Text.ofNat index

structure Shown where
  numeric : Bool := false
  negative : Bool := false
  lead : Text := []
  body : Text

namespace Shown

def sign (flags : Flags) (s : Shown) : Text :=
  if !s.numeric then []
  else if s.negative then ['-']
  else if flags.sign then ['+']
  else if flags.blank then [' ']
  else []

def place (flags : Flags) (width : Nat) (s : Shown) : Text :=
  let text := s.sign flags ++ s.lead ++ s.body
  let missing := width - text.length
  if flags.left then text ++ Text.spaces missing
  else if flags.zero && s.numeric then
    s.sign flags ++ s.lead ++ List.replicate missing '0' ++ s.body
  else Text.spaces missing ++ text

end Shown

def whole? : Json → Option Int
  | .int n => some n
  | .bool b => some (if b then 1 else 0)
  | _ => none

def truncate (x : Float) : Except Fault Int :=
  match Decimal.parts x with
  | (_, .notANumber) => .error .notWhole
  | (_, .infinite) => .error .notFinite
  | (_, .zero) => .ok 0
  | (negative, .finite b) =>
    let (n, d) := Decimal.scale b.significand b.exponent 0
    .ok (if negative then -((n / d : Nat) : Int) else (n / d : Nat))

def number (letter : Char) (v : Json) : Except Fault Int :=
  match whole? v, v with
  | some n, _ => .ok n
  | none, .float x => truncate x
  | none, v => .error (.numberRequired letter v.typeName)

def integer (letter : Char) (v : Json) : Except Fault Int :=
  match whole? v with
  | some n => .ok n
  | none => .error (.integerRequired letter v.typeName)

/-- Widths are less. -/
def widthLimit : Nat := Nat.pow 2 63

/-- Precisions are less. -/
def precisionLimit : Nat := Nat.pow 2 31

def showWhole (base : Nat) (lead : Text) (precision : Option Nat) (n : Int) :
    Except Fault Shown :=
  let precision := precision.getD 0
  if precisionLimit < precision + 4 then .error .precisionTooLarge
  else
    let digits := Nat.toDigits base n.natAbs
    .ok ⟨true, n < 0, lead, List.replicate (precision - digits.length) '0' ++ digits⟩

def upperCase (s : Shown) : Shown :=
  { s with lead := s.lead.map Char.toUpper, body := s.body.map Char.toUpper }

/-- Whole numbers from here on round to no finite floating-point number. -/
def floatLimit : Nat := Nat.pow 2 1024 - Nat.pow 2 970

def float (v : Json) : Except Fault Float :=
  match v with
  | .float x => .ok x
  | v => match whole? v with
    | some n =>
      if floatLimit ≤ n.natAbs then .error .tooLargeForFloat
      else
        let x := Float.ofScientific n.natAbs false 0
        .ok (if n < 0 then -x else x)
    | none => .error (.floatRequired v.typeName)

def showFloat (letter : Char) (alternate : Bool) (precision : Option Nat) (x : Float) : Shown :=
  let places := precision.getD 6
  let (negative, magnitude) := Decimal.parts x
  match magnitude with
  | .notANumber => ⟨true, false, [], ['n', 'a', 'n']⟩
  | .infinite => ⟨true, negative, [], ['i', 'n', 'f']⟩
  | m => ⟨true, negative, [],
      if letter = 'f' then m.fixed alternate places
      else if letter = 'e' then
        -- the greatest precision leaves no room for the first digit, and counts as none
        m.scientific alternate (if places + 1 < precisionLimit then places else 0)
      else m.general alternate places⟩

def character : Json → Except Fault Char
  | .str [c] => .ok c
  | v => match whole? v with
    | some n =>
      if n < 0 ∨ 0x110000 ≤ n then .error .characterOutOfRange
      else if 0xD800 ≤ n ∧ n < 0xE000 then .error .characterIsHalf
      else .ok (Char.ofNat n.toNat)
    | none => .error .characterRequired

def asciiQuoted (t : Text) : Text :=
  t.flatMap fun c =>
    if c.toNat < 0x80 then [c]
    else if c.toNat < 0x100 then '\\' :: 'x' :: hexDigits 2 c.toNat
    else if c.toNat < 0x10000 then '\\' :: 'u' :: hexDigits 4 c.toNat
    else '\\' :: 'U' :: hexDigits 8 c.toNat

def Conversion.text (precision : Option Nat) (t : Text) : Shown :=
  { body := match precision with
      | some n => t.take n
      | none => t }

def Conversion.shown (flags : Flags) (precision : Option Nat) (letter : Char) (index : Nat)
    (v : Json) : Except Fault Shown :=
  let lead (mark : Char) : Text := if flags.alternate then ['0', mark] else []
  match letter with
  | 's' => .ok (text precision v.shown)
  | 'r' => .ok (text precision v.quoted)
  | 'a' => .ok (text precision (asciiQuoted v.quoted))
  | 'c' => return { body := [← character v] }
  | 'd' | 'i' | 'u' => do showWhole 10 [] precision (← number letter v)
  | 'o' => do showWhole 8 (lead 'o') precision (← integer letter v)
  | 'x' => do showWhole 16 (lead 'x') precision (← integer letter v)
  | 'X' => do return upperCase (← showWhole 16 (lead 'x') precision (← integer letter v))
  | 'e' | 'f' | 'g' => return showFloat letter flags.alternate precision (← float v)
  | 'E' | 'F' | 'G' =>
    return upperCase (showFloat letter.toLower flags.alternate precision (← float v))
  | _ => .error (.unknownLetter letter index)

/-- What is left to show: the only argument, if its fields can be named, and the arguments that no
conversion has taken yet. -/
structure Supply where
  mapping : Option Json
  next : List Json

/-- A single object that is not empty lends its fields. -/
def Supply.ofArguments : List Json → Supply
  | [.obj (field :: fields)] => ⟨some (.obj (field :: fields)), [.obj (field :: fields)]⟩
  | arguments => ⟨none, arguments⟩

def Supply.take (s : Supply) : Except Fault (Json × Supply) :=
  match s.next with
  | [] => .error .tooFewArguments
  | v :: rest => .ok (v, { s with next := rest })

def Supply.select (s : Supply) : Key → Except Fault Supply
  | .absent => .ok s
  | key => match s.mapping, key with
    | none, _ => .error .mappingRequired
    | some mapping, .named name => match mapping.field? name with
      | some v => .ok { s with next := [v] }
      | none => .error (.missingKey name)
    | some _, _ => .error .incompleteKey

/-- The number that an amount comes to, which must be less than `limit`, and if it is negative, not
go further below zero. -/
def Supply.amount (s : Supply) (limit : Nat) (tooBig outOfRange : Fault) :
    Amount → Except Fault (Option Int × Supply)
  | .unset => .ok (none, s)
  | .written n => if n < limit then .ok (some n, s) else .error tooBig
  | .argument => do
    let (v, s) ← s.take
    match whole? v with
    | none => throw .amountNotWhole
    | some n =>
      if -(limit : Int) ≤ n ∧ n < limit then return (some n, s) else throw outOfRange

def Conversion.isPercent (c : Conversion) : Bool :=
  c.stage = .start && (c.letter.map (·.1)) = some '%'

/-- The text of a conversion. A width below zero means to the left, but the least of all is none; a
precision below zero counts as zero. -/
def Conversion.fill (host : Host) (c : Conversion) (s : Supply) : Except Fault (Text × Supply) := do
  if c.isPercent then return (['%'], s)
  let s ← s.select c.key
  let (width, s) ← s.amount widthLimit .widthTooBig .widthOutOfRange c.width
  let (precision, s) ← s.amount precisionLimit .precisionTooBig .precisionOutOfRange c.precision
  match c.letter with
  | none => throw .incomplete
  | some (letter, index) =>
    let (v, s) ← s.take
    let width := width.getD 0
    let flags := { c.flags with left := c.flags.left || width < 0 }
    let shown ← Conversion.shown flags (precision.map Int.toNat) letter index v
    let width := if width = -(widthLimit : Int) then 0 else width.natAbs
    if !host.hasRoom width then throw .outOfMemory
    return (shown.place flags width, s)

def fillPieces (host : Host) : List Piece → Supply → Except Fault Text
  | [], s => if s.mapping.isNone && !s.next.isEmpty then .error .tooManyArguments else .ok []
  | .char c :: rest, s => (c :: ·) <$> fillPieces host rest s
  | .conversion c :: rest, s => do
    let (t, s) ← c.fill host s
    return t ++ (← fillPieces host rest s)

/-- A template without arguments is taken as it is. -/
def fill (host : Host) (template : Text) (arguments : List Json) : Except Fault Text :=
  if arguments.isEmpty then .ok template
  else fillPieces host (pieces template) (.ofArguments arguments)

end SqlReplay.Template
