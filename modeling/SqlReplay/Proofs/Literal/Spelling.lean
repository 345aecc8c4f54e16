import Mathlib.Data.List.Forall2
import Mathlib.Data.Nat.Digits.Defs
import SqlReplay.Proofs.Exec.RoundTrip
import SqlReplay.Proofs.Literal.Form

/-! Literals by the parts they are spelled from. Each form that the classification tries is the
spelling of one kind of literal, and the parts tell what becomes of it. -/

namespace SqlReplay

/-- A literal: what a string says, or the digits of a number with its sign. -/
inductive Literal
  | null
  | national (value : Text)
  | string (value : Text)
  | binary (digits : Text)
  | integer (sign digits : Text)
  | decimal (sign whole fraction : Text)

/-- A word with each of its letters small or capital. -/
def AnyCase (t word : Text) : Prop :=
  List.Forall₂ (fun c letter => c = letter ∨ c = letter.toUpper) t word

def Digits (t : Text) : Prop := ∀ c ∈ t, c.isDigit = true

inductive Spells : Literal → Text → Prop
  | null : AnyCase t "null" → Spells .null t
  | national (s : Text) : Spells (.national s) ('N' :: quoteString s)
  | string (s : Text) : Spells (.string s) (quoteString s)
  | binary : (∀ c ∈ digits, Shape.isHexDigit c = true) →
      Spells (.binary digits) ('0' :: 'x' :: digits)
  | integer : IsSign sign → digits ≠ [] → Digits digits →
      Spells (.integer sign digits) (sign ++ digits)
  | decimal : IsSign sign → whole ++ fraction ≠ [] → Digits (whole ++ fraction) →
      Spells (.decimal sign whole fraction) (sign ++ (whole ++ '.' :: fraction))

section Letters

theorem toNat_toLower (c : Char) : c.toLower.toNat =
    if 65 ≤ c.toNat ∧ c.toNat ≤ 90 then c.toNat + 32 else c.toNat := by
  have bounds : c.val ≥ 'A'.val ∧ c.val ≤ 'Z'.val ↔ 65 ≤ c.toNat ∧ c.toNat ≤ 90 := by
    simp only [ge_iff_le, UInt32.le_iff_toNat_le]
    rfl
  unfold Char.toLower
  split
  next upper =>
    have small : c.val.toNat ≤ 90 := (bounds.1 upper).2
    have shift : ('a'.val - 'A'.val).toNat = 32 := rfl
    rw [if_pos (bounds.1 upper)]
    change (c.val + ('a'.val - 'A'.val)).toNat = c.val.toNat + 32
    rw [UInt32.toNat_add, shift, Nat.mod_eq_of_lt (by omega)]
  next other => rw [if_neg (mt bounds.2 other)]

theorem toNat_toUpper (c : Char) : c.toUpper.toNat =
    if 97 ≤ c.toNat ∧ c.toNat ≤ 122 then c.toNat - 32 else c.toNat := by
  have bounds : 'a'.val ≤ c.val ∧ c.val ≤ 'z'.val ↔ 97 ≤ c.toNat ∧ c.toNat ≤ 122 := by
    simp only [UInt32.le_iff_toNat_le]
    rfl
  unfold Char.toUpper
  split
  next lower =>
    have inside : 97 ≤ c.val.toNat ∧ c.val.toNat ≤ 122 := bounds.1 lower
    have shift : ('A'.val - 'a'.val).toNat = 2 ^ 32 - 32 := rfl
    rw [if_pos (bounds.1 lower)]
    change (c.val + ('A'.val - 'a'.val)).toNat = c.val.toNat - 32
    rw [UInt32.toNat_add, shift]
    omega
  next other => rw [if_neg (mt bounds.2 other)]

theorem toLower_eq_iff (small : 97 ≤ letter.toNat ∧ letter.toNat ≤ 122) :
    Char.toLower c = letter ↔ c = letter ∨ c = letter.toUpper := by
  rw [← Char.toNat_inj, ← Char.toNat_inj, ← Char.toNat_inj, toNat_toLower, toNat_toUpper,
    if_pos small]
  split <;> omega

theorem map_toLower_eq_iff (small : ∀ letter ∈ word, 97 ≤ letter.toNat ∧ letter.toNat ≤ 122) :
    t.map Char.toLower = word ↔ AnyCase t word := by
  induction t generalizing word with
  | nil => cases word <;> simp [AnyCase]
  | cons c t ih =>
    cases word with
    | nil => simp [AnyCase]
    | cons letter word =>
      rw [List.map_cons, List.cons.injEq, toLower_eq_iff (small letter List.mem_cons_self),
        ih fun l member => small l (List.mem_cons_of_mem _ member)]
      unfold AnyCase
      rw [List.forall₂_cons]

end Letters

section Shapes

theorem isNull_iff : Shape.isNull t = true ↔ AnyCase t "null" := by
  have word : ("null" : Text) = ['n', 'u', 'l', 'l'] := by simp
  rw [Shape.isNull, beq_iff_eq, word]
  refine map_toLower_eq_iff ?_
  simp

theorem closesQuote_iff :
    Shape.closesQuote body = true ↔ ∃ s, body = doubleQuotes s ++ ['\''] := by
  constructor
  · intro closes
    fun_induction Shape.closesQuote body with
    | case1 => contradiction
    | case2 => exact ⟨[], rfl⟩
    | case3 more ih =>
      obtain ⟨s, rfl⟩ := ih closes
      exact ⟨'\'' :: s, rfl⟩
    | case4 => contradiction
    | case5 c rest other ih =>
      obtain ⟨s, rfl⟩ := ih closes
      exact ⟨c :: s, by rw [doubleQuotes_other other, List.cons_append]⟩
  · rintro ⟨s, rfl⟩
    induction s with
    | nil => rfl
    | cons c s ih =>
      by_cases quote : c = '\''
      · subst quote
        exact ih
      · rw [doubleQuotes_other quote, List.cons_append, Shape.closesQuote, ih]
        exact quote

theorem isString_iff : Shape.isString t = true ↔ ∃ s, t = quoteString s := by
  unfold Shape.isString
  split
  · next rest =>
    simp only [closesQuote_iff, quoteString, List.cons.injEq, true_and]
  · next other =>
    constructor
    · intro shape
      contradiction
    · rintro ⟨s, rfl⟩
      exact absurd rfl (other _)

theorem isNationalString_iff : Shape.isNationalString t = true ↔ ∃ s, t = 'N' :: quoteString s := by
  unfold Shape.isNationalString
  split
  · next rest => simp only [isString_iff, List.cons.injEq, true_and]
  · next other =>
    constructor
    · intro shape
      contradiction
    · rintro ⟨s, rfl⟩
      exact absurd rfl (other _)

theorem isHex_iff : Shape.isHex t = true ↔
    ∃ digits, (∀ c ∈ digits, Shape.isHexDigit c = true) ∧ t = '0' :: 'x' :: digits := by
  unfold Shape.isHex
  split
  · next digits => simp
  · next other =>
    constructor
    · intro shape
      contradiction
    · rintro ⟨digits, _, rfl⟩
      exact absurd rfl (other _)

theorem dropSign_append (signed : IsSign sign)
    (unsigned : ∀ c, t.head? = some c → c ≠ '+' ∧ c ≠ '-') : Shape.dropSign (sign ++ t) = t := by
  rcases signed with rfl | rfl | rfl
  · rw [List.nil_append]
    unfold Shape.dropSign
    split
    · exact absurd rfl (unsigned '+' rfl).1
    · exact absurd rfl (unsigned '-' rfl).2
    · rfl
  · rfl
  · rfl

theorem unsigned_of_isDigit (digit : Char.isDigit c = true) : c ≠ '+' ∧ c ≠ '-' := by
  constructor
  all_goals rintro rfl; contradiction

theorem isInteger_iff : Shape.isInteger t = true ↔
    ∃ sign digits, IsSign sign ∧ digits ≠ [] ∧ Digits digits ∧ t = sign ++ digits := by
  constructor
  · intro integer
    obtain ⟨sign, signed, whole⟩ := isSign_dropSign t
    obtain ⟨nonempty, digits⟩ := isDigits_iff.1 integer
    exact ⟨sign, _, signed, nonempty, digits, whole⟩
  · rintro ⟨sign, digits, signed, nonempty, inside, rfl⟩
    have unsigned : ∀ c, digits.head? = some c → c ≠ '+' ∧ c ≠ '-' := fun c first =>
      unsigned_of_isDigit (inside c (List.mem_of_mem_head? first))
    rw [Shape.isInteger, dropSign_append signed unsigned]
    exact isDigits_iff.2 ⟨nonempty, inside⟩

theorem unsigned_of_decimal (digits : Digits (whole ++ fraction))
    (first : (whole ++ '.' :: fraction).head? = some c) : c ≠ '+' ∧ c ≠ '-' := by
  cases whole with
  | nil =>
    obtain rfl : '.' = c := by simpa using first
    decide
  | cons d whole =>
    obtain rfl : d = c := by simpa using first
    exact unsigned_of_isDigit (digits d (by simp))

theorem isDecimal_iff : Shape.isDecimal t = true ↔ ∃ sign whole fraction, IsSign sign ∧
    whole ++ fraction ≠ [] ∧ Digits (whole ++ fraction) ∧
      t = sign ++ (whole ++ '.' :: fraction) := by
  constructor
  · intro decimal
    obtain ⟨sign, signed, parts⟩ := isSign_dropSign t
    unfold Shape.isDecimal at decimal
    split at decimal
    · next whole fraction cut =>
      obtain ⟨nonempty, digits⟩ := isDigits_iff.1 decimal
      exact ⟨sign, whole, fraction, signed, nonempty, digits, by rw [← eq_of_cut cut, ← parts]⟩
    · contradiction
  · rintro ⟨sign, whole, fraction, signed, nonempty, digits, rfl⟩
    have noPoint : '.' ∉ whole := fun member =>
      absurd (digits '.' (List.mem_append_left _ member)) (by decide)
    rw [Shape.isDecimal, dropSign_append signed fun c => unsigned_of_decimal digits,
      cut_append noPoint]
    exact isDigits_iff.2 ⟨nonempty, digits⟩

end Shapes

section Readings

/-- The number that digits stand for, the last one for the ones. -/
def digitsValue (digits : Text) : Nat :=
  Nat.ofDigits 10 (digits.reverse.map fun c => c.toNat - '0'.toNat)

def signedValue (sign digits : Text) : Int :=
  if sign = ['-'] then -(digitsValue digits : Int) else digitsValue digits

theorem ofDigits_asciiDigits (digits : Text) :
    Numeral.ofDigits (Numeral.asciiDigits digits) = digitsValue digits := by
  induction digits using List.reverseRecOn with
  | nil => rfl
  | append_singleton digits c ih =>
    unfold Numeral.ofDigits Numeral.asciiDigits digitsValue at ih ⊢
    rw [List.map_append, List.foldl_append, ih]
    simp [Nat.ofDigits_cons]
    omega

theorem integerValue?_append (signed : IsSign sign) (inside : Digits digits) :
    integerValue? (sign ++ digits) =
      if digits.length ≤ Numeral.digitLimit then some (signedValue sign digits) else none := by
  have unsigned : ∀ c, digits.head? = some c → c ≠ '+' ∧ c ≠ '-' := fun c first =>
    unsigned_of_isDigit (inside c (List.mem_of_mem_head? first))
  have minus : (sign ++ digits).head? = some '-' ↔ sign = ['-'] := by
    rcases signed with rfl | rfl | rfl
    · exact iff_of_false (fun first => (unsigned '-' first).2 rfl) (by decide)
    · exact iff_of_false (by simp) (by decide)
    · exact iff_of_true rfl rfl
  simp only [integerValue?, dropSign_append signed unsigned, ofDigits_asciiDigits, minus,
    signedValue]

theorem ofDecimal?_append (signed : IsSign sign) (digits : Digits (whole ++ fraction)) :
    SqlType.ofDecimal? (sign ++ (whole ++ '.' :: fraction)) =
      if max 1 whole.length + fraction.length ≤ SqlType.precisionLimit then
        some (.decimal (max 1 whole.length + fraction.length) fraction.length)
      else none := by
  have first : ∀ c, (whole ++ '.' :: fraction).head? = some c →
      (c == '+' || c == '-') = false := by
    intro c found
    simpa using unsigned_of_decimal digits found
  have signs : ∀ c ∈ sign, (c == '+' || c == '-') = true := by
    rcases signed with rfl | rfl | rfl
    all_goals simp
  have noPoint : '.' ∉ whole := fun member =>
    absurd (digits '.' (List.mem_append_left _ member)) (by decide)
  simp only [SqlType.ofDecimal?, dropWhile_append_stop signs first, cut_append noPoint,
    Option.getD_some]

end Readings

section Classified

theorem classifyTrimmed_null (null : AnyCase t "null") :
    classifyTrimmed t = .untyped (some "NULL") .nullValue := by
  have some : t.isEmpty = false := by
    have length := null.length_eq
    cases t with
    | nil => simp at length
    | cons => rfl
  have capitals : ("NULL" : Text) = ['N', 'U', 'L', 'L'] := by simp
  unfold classifyTrimmed
  rw [some, isNull_iff.2 null, capitals]
  rfl

theorem classifyTrimmed_national (s : Text) : classifyTrimmed ('N' :: quoteString s) =
    .typed ('N' :: quoteString s) (.nvarchar (.ofLength SqlType.nvarcharLimit s.length)) := by
  have body : Shape.body 2 ('N' :: quoteString s) = s := body_quoteString s
  have named : Shape.isNull ('N' :: quoteString s) = false := rfl
  unfold classifyTrimmed
  rw [named, isNationalString_iff.2 ⟨s, rfl⟩, body]
  rfl

theorem classifyTrimmed_string (s : Text) :
    classifyTrimmed (quoteString s) = .typed (quoteString s) (stringType s) := by
  have named : Shape.isNull (quoteString s) = false := rfl
  have national : Shape.isNationalString (quoteString s) = false := rfl
  unfold classifyTrimmed
  rw [named, national, isString_iff.2 ⟨s, rfl⟩, body_quoteString]
  rfl

theorem classifyTrimmed_binary (hex : ∀ c ∈ digits, Shape.isHexDigit c = true) :
    classifyTrimmed ('0' :: 'x' :: digits) =
      if digits.length % 2 = 0 then
        .typed ('0' :: 'x' :: digits)
          (.varbinary (.ofLength SqlType.varbinaryLimit (digits.length / 2)))
      else .untyped (some ('0' :: 'x' :: digits)) .oddHexDigits := by
  have named : Shape.isNull ('0' :: 'x' :: digits) = false := rfl
  have national : Shape.isNationalString ('0' :: 'x' :: digits) = false := rfl
  have string : Shape.isString ('0' :: 'x' :: digits) = false := rfl
  have length : ('0' :: 'x' :: digits).length - 2 = digits.length := rfl
  unfold classifyTrimmed
  rw [named, national, string, isHex_iff.2 ⟨digits, hex, rfl⟩, length]
  rfl

/-- The characters of whole and decimal numbers. -/
def IsNumeric (c : Char) : Prop := c.isDigit = true ∨ c = '+' ∨ c = '-' ∨ c = '.'

theorem numeric_of_sign (signed : IsSign sign) (member : c ∈ sign) : IsNumeric c := by
  rcases signed with rfl | rfl | rfl
  · contradiction
  · exact .inr (.inl (List.mem_singleton.1 member))
  · exact .inr (.inr (.inl (List.mem_singleton.1 member)))

/-- No name, string or hexadecimal number consists of these characters. -/
theorem excluded_of_numeric (numeric : ∀ c ∈ t, IsNumeric c) : Shape.isNull t = false ∧
    Shape.isNationalString t = false ∧ Shape.isString t = false ∧ Shape.isHex t = false := by
  refine ⟨?_, ?_, ?_, ?_⟩
  all_goals refine Bool.eq_false_iff.2 fun shape => ?_
  · have null := isNull_iff.1 shape
    simp only [String.reduceToList] at null
    obtain ⟨c, rest, letter, -, rfl⟩ := List.forall₂_cons_right_iff.1 null
    have number := numeric c List.mem_cons_self
    rcases letter with rfl | rfl
    all_goals revert number; unfold IsNumeric; decide
  · obtain ⟨s, rfl⟩ := isNationalString_iff.1 shape
    exact absurd (numeric 'N' List.mem_cons_self) (by unfold IsNumeric; decide)
  · obtain ⟨s, rfl⟩ := isString_iff.1 shape
    exact absurd (numeric '\'' List.mem_cons_self) (by unfold IsNumeric; decide)
  · obtain ⟨digits, -, rfl⟩ := isHex_iff.1 shape
    exact absurd (numeric 'x' (by simp)) (by unfold IsNumeric; decide)

theorem classifyTrimmed_integer (signed : IsSign sign) (nonempty : digits ≠ [])
    (inside : Digits digits) : classifyTrimmed (sign ++ digits) =
      if digits.length ≤ Numeral.digitLimit then
        .typed (sign ++ digits) (.ofInteger (signedValue sign digits))
      else .untyped (some (sign ++ digits)) .tooManyDigits := by
  have some : (sign ++ digits).isEmpty = false := by simp [nonempty]
  have numeric : ∀ c ∈ sign ++ digits, IsNumeric c := by
    intro c member
    rcases List.mem_append.1 member with before | after
    · exact numeric_of_sign signed before
    · exact .inl (inside c after)
  obtain ⟨named, national, string, hex⟩ := excluded_of_numeric numeric
  unfold classifyTrimmed
  rw [some, named, national, string, hex,
    isInteger_iff.2 ⟨sign, digits, signed, nonempty, inside, rfl⟩,
    integerValue?_append signed inside]
  by_cases fits : digits.length ≤ Numeral.digitLimit
  · rw [if_pos fits, if_pos fits]
    rfl
  · rw [if_neg fits, if_neg fits]
    rfl

theorem classifyTrimmed_decimal (signed : IsSign sign) (nonempty : whole ++ fraction ≠ [])
    (digits : Digits (whole ++ fraction)) :
    classifyTrimmed (sign ++ (whole ++ '.' :: fraction)) =
      if max 1 whole.length + fraction.length ≤ SqlType.precisionLimit then
        .typed (sign ++ (whole ++ '.' :: fraction))
          (.decimal (max 1 whole.length + fraction.length) fraction.length)
      else .untyped (some (sign ++ (whole ++ '.' :: fraction))) .tooPrecise := by
  have some : (sign ++ (whole ++ '.' :: fraction)).isEmpty = false := by simp
  have numeric : ∀ c ∈ sign ++ (whole ++ '.' :: fraction), IsNumeric c := by
    intro c member
    rcases List.mem_append.1 member with before | after
    · exact numeric_of_sign signed before
    · rcases List.mem_append.1 after with digit | point
      · exact .inl (digits c (List.mem_append_left _ digit))
      · rcases List.mem_cons.1 point with rfl | digit
        · exact .inr (.inr (.inr rfl))
        · exact .inl (digits c (List.mem_append_right _ digit))
  have integer : Shape.isInteger (sign ++ (whole ++ '.' :: fraction)) = false := by
    rw [Shape.isInteger, dropSign_append signed fun c => unsigned_of_decimal digits]
    simp [Shape.isDigits]
  obtain ⟨named, national, string, hex⟩ := excluded_of_numeric numeric
  unfold classifyTrimmed
  rw [some, named, national, string, hex, integer,
    isDecimal_iff.2 ⟨sign, whole, fraction, signed, nonempty, digits, rfl⟩,
    ofDecimal?_append signed digits]
  by_cases fits : max 1 whole.length + fraction.length ≤ SqlType.precisionLimit
  · rw [if_pos fits, if_pos fits]
    rfl
  · rw [if_neg fits, if_neg fits]
    rfl

/-- What is not spelled in any of the ways is kept as it is. -/
theorem classifyTrimmed_unspelled (nonempty : t ≠ []) (unspelled : ∀ v, ¬Spells v t) :
    classifyTrimmed t = .untyped (some t) .unsupported := by
  have empty : t.isEmpty = false := by simpa using nonempty
  have null : Shape.isNull t = false :=
    Bool.eq_false_iff.2 fun shape => unspelled _ (.null (isNull_iff.1 shape))
  have national : Shape.isNationalString t = false := by
    refine Bool.eq_false_iff.2 fun shape => ?_
    obtain ⟨s, rfl⟩ := isNationalString_iff.1 shape
    exact unspelled _ (.national s)
  have string : Shape.isString t = false := by
    refine Bool.eq_false_iff.2 fun shape => ?_
    obtain ⟨s, rfl⟩ := isString_iff.1 shape
    exact unspelled _ (.string s)
  have hex : Shape.isHex t = false := by
    refine Bool.eq_false_iff.2 fun shape => ?_
    obtain ⟨digits, inside, rfl⟩ := isHex_iff.1 shape
    exact unspelled _ (.binary inside)
  have integer : Shape.isInteger t = false := by
    refine Bool.eq_false_iff.2 fun shape => ?_
    obtain ⟨sign, digits, signed, filled, inside, rfl⟩ := isInteger_iff.1 shape
    exact unspelled _ (.integer signed filled inside)
  have decimal : Shape.isDecimal t = false := by
    refine Bool.eq_false_iff.2 fun shape => ?_
    obtain ⟨sign, whole, fraction, signed, filled, digits, rfl⟩ := isDecimal_iff.1 shape
    exact unspelled _ (.decimal signed filled digits)
  unfold classifyTrimmed
  rw [empty, null, national, string, hex, integer, decimal]
  rfl

end Classified

end SqlReplay
