/-! Texts are lists of characters. A string literal stands for its text wherever one is
expected; blanks, trimming and splitting at a character are fixed here. -/

namespace SqlReplay

abbrev Text := List Char

instance : Coe String Text := ⟨String.toList⟩

/-- The twenty-nine blank characters; all others, zero-width ones included, count as ink. -/
def isBlank (c : Char) : Bool :=
  let n := c.toNat
  (9 ≤ n && n ≤ 13) || (28 ≤ n && n ≤ 32) || n == 0x85 || n == 0xA0 || n == 0x1680 ||
    (0x2000 ≤ n && n ≤ 0x200A) || n == 0x2028 || n == 0x2029 || n == 0x202F || n == 0x205F ||
    n == 0x3000

namespace Text

def trimLeft (t : Text) : Text := t.dropWhile isBlank

def trimRight (t : Text) : Text := (t.reverse.dropWhile isBlank).reverse

def trim (t : Text) : Text := trimRight (trimLeft t)

/-- No character, or blanks only. -/
def IsBlank (t : Text) : Bool := t.all isBlank

def join (separator : Text) : List Text → Text
  | [] => []
  | [t] => t
  | t :: rest => t ++ separator ++ join separator rest

/-- The pieces between the occurrences of a character; always at least one. -/
def splitAt (c : Char) : Text → List Text
  | [] => [[]]
  | d :: rest =>
    if d = c then [] :: splitAt c rest
    else match splitAt c rest with
      | [] => [[d]]
      | piece :: pieces => (d :: piece) :: pieces

/-- What stands before the first occurrence of a character, and what follows it. -/
def cut (c : Char) (t : Text) : Text × Option Text :=
  (t.takeWhile (· ≠ c), match t.dropWhile (· ≠ c) with
    | [] => none
    | _ :: rest => some rest)

def startsWith (t start : Text) : Bool := t.take start.length == start

def spaces (n : Nat) : Text := List.replicate n ' '

def padRight (width : Nat) (t : Text) : Text := t ++ spaces (width - t.length)

def zeroPadded (width n : Nat) : Text :=
  let digits := Nat.toDigits 10 n
  List.replicate (width - digits.length) '0' ++ digits

def ofNat (n : Nat) : Text := Nat.toDigits 10 n

def ofInt : Int → Text
  | .ofNat n => ofNat n
  | .negSucc n => '-' :: ofNat (n + 1)

end Text

end SqlReplay
