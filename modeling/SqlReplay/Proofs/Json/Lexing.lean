import Mathlib.Data.List.Basic
import SqlReplay.Json.Reader
import SqlReplay.Json.Writer
import SqlReplay.Proofs.Text.Run

/-! The tokens of written strings, whole numbers and words. A string and a word end by themselves; a
number ends where nothing follows that goes on with it. -/

namespace SqlReplay

namespace Json

section Strings

variable {opened position length : Nat} {s : List CodePoint} {more : Text}

theorem ofUnit_of_lt {n : Nat} (small : n < 0xD800) :
    CodePoint.ofUnit n = .char (Char.ofNat n) := dif_neg fun half => by omega

/-- A unit that begins no pair stands for a code point of its own. -/
theorem scanCode_unit {a b c d : Char} {n : Nat} (unit : hexUnit? a b c d = some n)
    (alone : isHighUnit n = false) (goesOn : more ≠ []) :
    scanCode position ('u' :: a :: b :: c :: d :: more) = .ok (.ofUnit n, 5) := by
  unfold scanCode
  simp only [unit]
  split
  next none => contradiction
  next => contradiction
  next found =>
    cases found
    rw [alone]
    rfl
  next found _ _ => cases found; rfl

theorem unitEscape_control : ∀ n < 0x20, ∃ a b,
    unitEscape n = ['\\', 'u', '0', '0', a, b] ∧ hexUnit? '0' '0' a b = some n := by
  have digits : ∀ n < 0x20, unitEscape n =
        ['\\', 'u', '0', '0', Nat.digitChar (n / 16), Nat.digitChar (n % 16)] ∧
      hexUnit? '0' '0' (Nat.digitChar (n / 16)) (Nat.digitChar (n % 16)) = some n := by decide
  exact fun n small => ⟨_, _, digits n small⟩

theorem scanString_letter {letter c : Char} (short : letter ≠ 'u')
    (escaped : escapedChar? letter = some c)
    (said : scanString opened (position + 2) more = .ok (s, length)) :
    scanString opened position ('\\' :: letter :: more) = .ok (.char c :: s, length + 2) := by
  have escape : scanEscape opened position (letter :: more) = .ok (.char c, 1) := by
    simp only [scanEscape, if_neg short, escaped]
  rw [scanString, if_neg (by decide), if_pos rfl, escape]
  simp only [List.drop_one, List.tail_cons, said]

theorem scanString_code {a b c : Char} (unit : hexUnit? '0' '0' a b = some c.toNat)
    (control : c.toNat < 0x20)
    (said : scanString opened (position + 6) more = .ok (s, length)) :
    scanString opened position ('\\' :: 'u' :: '0' :: '0' :: a :: b :: more) =
      .ok (.char c :: s, length + 6) := by
  have goesOn : more ≠ [] := by
    rintro rfl
    simp [scanString] at said
  have alone : isHighUnit c.toNat = false := by
    simp only [isHighUnit, Bool.and_eq_false_iff, decide_eq_false_iff_not]
    omega
  have escape : scanEscape opened position ('u' :: '0' :: '0' :: a :: b :: more) =
      .ok (.char c, 5) := by
    rw [scanEscape, if_pos rfl, scanCode_unit unit alone goesOn, ofUnit_of_lt (by omega),
      Char.ofNat_toNat]
  rw [scanString, if_neg (by decide), if_pos rfl, escape]
  simp only [List.drop_succ_cons, List.drop_zero, said]

/-- A written character is read as it, when the string goes on after it. -/
theorem scanString_escapeChar (c : Char)
    (said : scanString opened (position + (escapeChar false c).length) more = .ok (s, length)) :
    scanString opened position (escapeChar false c ++ more) =
      .ok (.char c :: s, length + (escapeChar false c).length) := by
  revert said
  fun_cases escapeChar false c with
  | case1 quote => exact scanString_letter (by decide) (by rw [quote]; rfl)
  | case2 _ slash => exact scanString_letter (by decide) (by rw [slash]; rfl)
  | case3 _ _ feed => exact scanString_letter (by decide) (by rw [feed]; rfl)
  | case4 _ _ _ carriage => exact scanString_letter (by decide) (by rw [carriage]; rfl)
  | case5 _ _ _ _ tab => exact scanString_letter (by decide) (by rw [tab]; rfl)
  | case6 _ _ _ _ _ back => exact scanString_letter (by decide) (by rw [back]; rfl)
  | case7 _ _ _ _ _ _ page => exact scanString_letter (by decide) (by rw [page]; rfl)
  | case8 _ _ _ _ _ _ _ escaped =>
    have control : c.toNat < 0x20 := by simpa using escaped
    obtain ⟨a, b, written, unit⟩ := unitEscape_control c.toNat control
    rw [unitEscapes, if_pos (by omega), written]
    exact scanString_code unit control
  | case9 notQuote notSlash _ _ _ _ _ plain =>
    have large : ¬ c.toNat < 0x20 := by simpa using plain
    intro said
    rw [List.length_singleton] at said
    rw [List.singleton_append, scanString, if_neg notQuote, if_neg notSlash, if_neg large, said]
    rfl

theorem scanString_written (s rest : Text) (position : Nat) :
    scanString opened position (s.flatMap (escapeChar false) ++ '"' :: rest) =
      .ok (s.coded, (s.flatMap (escapeChar false)).length + 1) := by
  induction s generalizing position with
  | nil => simp [scanString, Text.coded]
  | cons c s ih =>
    rw [List.flatMap_cons, List.append_assoc, scanString_escapeChar c (ih _), List.length_append]
    congr 2
    omega

end Strings

theorem tokens_cons {position length : Nat} {c : Char} {rest : Text} {token : Token}
    (ink : isSpace c = false) (next : Token.next position c rest = (token, length))
    (good : ∀ fault, token ≠ .bad fault) : tokens position (c :: rest) =
      (position, token) :: tokens (position + 1 + length) (rest.drop length) := by
  rw [tokens, if_neg (by simp [ink]), next]
  cases token with
  | bad fault => exact absurd rfl (good fault)
  | _ => rfl

section Numbers

def continuesNumber (c : Char) : Bool := c.isDigit || c == '.' || c == 'e' || c == 'E'

/-- Nothing goes on with a number here. -/
def Stops (rest : Text) : Prop := ∀ c, rest.head? = some c → continuesNumber c = false

variable {rest : Text}

theorem Stops.not_digit (stops : Stops rest) : ∀ c, rest.head? = some c → c.isDigit = false := by
  intro c first
  have none := stops c first
  simp only [continuesNumber, Bool.or_eq_false_iff] at none
  exact none.1.1.1

theorem ofNat_ne_nil (n : Nat) : Text.ofNat n ≠ [] := Nat.toDigits_ne_nil

theorem isDigit_of_mem_ofNat {n : Nat} {c : Char} (member : c ∈ Text.ofNat n) : c.isDigit = true :=
  Nat.isDigit_of_mem_toDigits (by decide) (by decide) member

theorem ofDigits_ofNat (n : Nat) : Numeral.ofDigits (Numeral.asciiDigits (Text.ofNat n)) = n := by
  rw [Numeral.ofDigits, Numeral.asciiDigits, List.foldl_map]
  exact Nat.ofDigitChars_ten_toDigits

theorem head?_ofNat {n : Nat} (positive : n ≠ 0) : (Text.ofNat n).head? ≠ some '0' := by
  unfold Text.ofNat
  induction n using Nat.strongRecOn with
  | ind n ih =>
    by_cases small : n < 10
    · rw [Nat.toDigits_of_lt_base small]
      have digits : ∀ n < 10, n ≠ 0 → [Nat.digitChar n].head? ≠ some '0' := by decide
      exact digits n small positive
    · rw [Nat.toDigits_of_base_le (by decide) (Nat.le_of_not_lt small),
        List.head?_append_of_ne_nil _ Nat.toDigits_ne_nil]
      exact ih (n / 10) (by omega) (by omega)

theorem scanWhole_ofNat (n : Nat) (stops : Stops rest) :
    Number.scanWhole (Text.ofNat n ++ rest) = Text.ofNat n := by
  by_cases zero : n = 0
  · subst zero
    rfl
  · unfold Number.scanWhole
    split
    next more starts =>
      have first := congrArg List.head? starts
      rw [List.head?_append_of_ne_nil _ (ofNat_ne_nil n)] at first
      exact absurd first (head?_ofNat zero)
    next =>
      exact takeWhile_append_stop (fun c member => isDigit_of_mem_ofNat member) stops.not_digit

theorem scanFraction_of_stops (stops : Stops rest) : Number.scanFraction rest = none := by
  unfold Number.scanFraction
  split
  next => exact absurd (stops '.' rfl) (by decide)
  next => rfl

theorem scanExponent_of_stops (stops : Stops rest) : Number.scanExponent rest = none := by
  unfold Number.scanExponent
  split
  next c more =>
    refine if_neg fun letter => ?_
    have none := stops c rfl
    obtain rfl | rfl := letter <;> exact absurd none (by decide)
  next => rfl

/-- An integer of so many digits as are converted. -/
def IsShort (n : Int) : Prop := (Text.ofNat n.natAbs).length ≤ Numeral.digitLimit

theorem scan?_ofInt {n : Int} (short : IsShort n) (stops : Stops rest) :
    Number.scan? (Text.ofInt n ++ rest) = some (.ok (.int n), (Text.ofInt n).length) := by
  have fraction := scanFraction_of_stops stops
  have exponent := scanExponent_of_stops stops
  have whole (m : Nat) := scanWhole_ofNat m stops
  have some (m : Nat) : (Text.ofNat m).isEmpty = false := by simp [ofNat_ne_nil]
  have read (m : Nat) (fits : (Text.ofNat m).length ≤ Numeral.digitLimit) (negative : Bool) :
      Number.value negative (Text.ofNat m) none none = .ok (.int (if negative then -m else m)) := by
    simp only [Number.value, if_pos fits, ofDigits_ofNat]
  cases n with
  | ofNat m =>
    have value := read m short false
    have text : Text.ofInt (.ofNat m) = Text.ofNat m := rfl
    have unsigned (more : Text) : Text.ofNat m ++ rest ≠ '-' :: more := by
      intro minus
      have first := congrArg List.head? minus
      rw [List.head?_append_of_ne_nil _ (ofNat_ne_nil m)] at first
      exact absurd (isDigit_of_mem_ofNat (List.mem_of_mem_head? first)) (by decide)
    rw [text, Number.scan?]
    · simp only [whole, some, fraction, exponent, List.drop_append_length, List.drop_zero, value,
        Bool.false_eq_true, if_false, Option.map_none, Nat.zero_add, Nat.add_zero]
      rfl
    · exact unsigned
  | negSucc m =>
    have value := read (m + 1) short true
    have text : Text.ofInt (.negSucc m) = '-' :: Text.ofNat (m + 1) := rfl
    rw [text, List.cons_append, Number.scan?]
    simp only [whole, some, fraction, exponent, List.drop_append_length, List.drop_zero, value,
      Bool.false_eq_true, if_false, if_true, Option.map_none, Nat.add_zero, List.length_cons,
      Nat.add_comm 1]
    rfl

end Numbers

section Tokens

variable {c : Char} {more : Text}

theorem exists_cons_of_startsWith {t start : Text} {d : Char}
    (starts : Text.startsWith t (d :: start) = true) :
    ∃ more, t = d :: more ∧ Text.startsWith more start = true := by
  cases t with
  | nil => cases starts
  | cons c more =>
    obtain ⟨first, rest⟩ := List.cons_eq_cons.1 (eq_of_beq starts)
    exact ⟨more, by rw [first], beq_iff_eq.2 rest⟩

/-- The start of a number: a digit, or a sign before one. -/
def StartsNumber (c : Char) (more : Text) : Prop :=
  c.isDigit = true ∨ c = '-' ∧ ∀ d, more.head? = some d → d.isDigit = true

/-- No word starts as a number does. -/
theorem find?_words (number : StartsNumber c more) :
    words.find? (fun (word, _) => Text.startsWith (c :: more) word) = none := by
  have other {word : Text} {d : Char} (letter : d.isDigit = false ∧ d ≠ '-') :
      ¬ Text.startsWith (c :: more) (d :: word) = true := by
    intro starts
    obtain ⟨_, same, -⟩ := exists_cons_of_startsWith starts
    obtain ⟨rfl, -⟩ := List.cons_eq_cons.1 same
    obtain digit | ⟨rfl, -⟩ := number
    · rw [letter.1] at digit
      contradiction
    · exact letter.2 rfl
  have negative : ¬ Text.startsWith (c :: more) "-Infinity".toList = true := by
    intro starts
    obtain ⟨_, same, after⟩ := exists_cons_of_startsWith starts
    obtain ⟨_, rfl, -⟩ := exists_cons_of_startsWith after
    obtain ⟨rfl, rfl⟩ := List.cons_eq_cons.1 same
    obtain digit | ⟨-, digits⟩ := number
    · contradiction
    · exact absurd (digits 'I' rfl) (by decide)
  rw [List.find?_eq_none]
  simp only [words, List.forall_mem_cons]
  exact ⟨other (by decide), other (by decide), other (by decide), other (by decide),
    other (by decide), negative, nofun⟩

theorem next_number {position length : Nat} {v : JsonOf CodePoint} (number : StartsNumber c more)
    (scanned : Number.scan? (c :: more) = some (.ok v, length)) :
    Token.next position c more = (.scalar v, length - 1) := by
  have ink (mark : Char) (other : mark.isDigit = false ∧ mark ≠ '-') : c ≠ mark := by
    rintro rfl
    obtain digit | ⟨minus, -⟩ := number
    · rw [other.1] at digit
      contradiction
    · exact other.2 minus
  have words := find?_words number
  unfold Token.next
  split
  · exact absurd rfl (ink '[' (by decide))
  · exact absurd rfl (ink ']' (by decide))
  · exact absurd rfl (ink '\x7b' (by decide))
  · exact absurd rfl (ink '\x7d' (by decide))
  · exact absurd rfl (ink ',' (by decide))
  · exact absurd rfl (ink ':' (by decide))
  · exact absurd rfl (ink '"' (by decide))
  · rw [words, scanned]

end Tokens

end Json

end SqlReplay
