import SqlReplay.Proofs.Literal.Spelling

/-! What the classification of a literal comes to. Text, type and issue go together, and the sizes
of a type are those of the value: the length of what a string says, the octets of a hexadecimal
number, the digits around a point. -/

namespace SqlReplay

section Moments

/-- Character by character as in a sample, where any digit stands for a zero. -/
def LikeSample (sample t : Text) : Prop :=
  List.Forall₂ (fun mark c => if mark = '0' then c.isDigit = true else c = mark) sample t

def IsFraction (t : Text) : Prop :=
  t = [] ∨ ∃ digits, t = '.' :: digits ∧ digits ≠ [] ∧ Digits digits ∧ digits.length ≤ 7

def IsDate (t : Text) : Prop := LikeSample "0000-00-00" t

def IsTime (t : Text) : Prop :=
  ∃ clock fraction, t = clock ++ fraction ∧ LikeSample "00:00:00" clock ∧ IsFraction fraction

def IsDatetime (t : Text) : Prop := ∃ date time, t = date ++ ' ' :: time ∧ IsDate date ∧ IsTime time

theorem matchesSample_iff : Shape.matchesSample sample t = true ↔ LikeSample sample t := by
  unfold LikeSample
  induction sample generalizing t with
  | nil => cases t <;> simp [Shape.matchesSample]
  | cons mark sample ih =>
    cases t with
    | nil => simp [Shape.matchesSample]
    | cons c t =>
      rw [Shape.matchesSample, Bool.and_eq_true, List.forall₂_cons, ih]
      split
      · rfl
      · rw [beq_iff_eq, eq_comm]

theorem isFraction_iff : Shape.isFraction t = true ↔ IsFraction t := by
  unfold Shape.isFraction IsFraction
  split
  · simp
  · next digits => simp [isDigits_iff, Digits, and_assoc]
  · next nonempty other =>
    constructor
    · nofun
    · rintro (rfl | ⟨digits, rfl, _⟩)
      · exact absurd rfl nonempty
      · exact absurd rfl (other digits)

theorem sampled_iff (length : sample.length = n) :
    (Shape.matchesSample sample (t.take n) && Shape.isFraction (t.drop n)) = true ↔
      ∃ start fraction, t = start ++ fraction ∧ LikeSample sample start ∧ IsFraction fraction := by
  rw [Bool.and_eq_true, matchesSample_iff, isFraction_iff]
  constructor
  · rintro ⟨like, fraction⟩
    exact ⟨_, _, (List.take_append_drop n t).symm, like, fraction⟩
  · rintro ⟨start, fraction, rfl, like, rest⟩
    have same : n = start.length := by rw [← length, like.length_eq]
    rw [same, List.take_left, List.drop_left]
    exact ⟨like, rest⟩

theorem isDate_iff : Shape.isDate t = true ↔ IsDate t := matchesSample_iff

theorem isTime_iff : Shape.isTime t = true ↔ IsTime t := sampled_iff (by simp)

theorem likeSample_append_iff : LikeSample (first ++ second) t ↔
    ∃ start rest, t = start ++ rest ∧ LikeSample first start ∧ LikeSample second rest := by
  unfold LikeSample
  constructor
  · intro like
    induction first generalizing t with
    | nil => exact ⟨[], t, rfl, .nil, like⟩
    | cons mark first ih =>
      cases like with
      | cons here later =>
        obtain ⟨start, rest, rfl, like, more⟩ := ih later
        exact ⟨_ :: start, rest, rfl, .cons here like, more⟩
  · rintro ⟨start, rest, rfl, like, more⟩
    exact List.rel_append like more

theorem isDatetime_iff : Shape.isDatetime t = true ↔ IsDatetime t := by
  have sample : ("0000-00-00 00:00:00" : Text) = "0000-00-00" ++ (" " ++ "00:00:00") := by simp
  have space : LikeSample " " [' '] := by simp [LikeSample]
  rw [Shape.isDatetime, sampled_iff (by simp), sample]
  simp only [likeSample_append_iff]
  constructor
  · rintro ⟨_, fraction, rfl, ⟨date, _, rfl, isDate, blank, clock, rfl, between, like⟩, rest⟩
    obtain ⟨c, more, mark, nothing, rfl⟩ := List.forall₂_cons_left_iff.1 between
    obtain rfl := List.forall₂_nil_left_iff.1 nothing
    obtain rfl : c = ' ' := mark
    exact ⟨date, clock ++ fraction, by simp, isDate, clock, fraction, rfl, like, rest⟩
  · rintro ⟨date, _, rfl, isDate, clock, fraction, rfl, like, rest⟩
    exact ⟨date ++ ([' '] ++ clock), fraction, by simp,
      ⟨date, _, rfl, isDate, [' '], clock, rfl, space, like⟩, rest⟩

theorem at_of_like {sample t : Text} {i : Nat} {mark : Char} (like : LikeSample sample t)
    (found : sample[i]? = some mark) :
    ∃ c, t[i]? = some c ∧ if mark = '0' then c.isDigit = true else c = mark := by
  unfold LikeSample at like
  induction like generalizing i with
  | nil => simp at found
  | cons here _ ih =>
    cases i with
    | zero =>
      rw [List.getElem?_cons_zero, Option.some.injEq] at found
      subst found
      exact ⟨_, List.getElem?_cons_zero, here⟩
    | succ i =>
      rw [List.getElem?_cons_succ] at found ⊢
      exact ih found

theorem length_of_isDate (date : IsDate t) : t.length = 10 := by
  have same := date.length_eq
  simpa using same.symm

theorem length_of_isTime (time : IsTime t) : 8 ≤ t.length ∧ t.length ≤ 16 := by
  obtain ⟨clock, fraction, rfl, like, rest⟩ := time
  have same : clock.length = 8 := by simpa using like.length_eq.symm
  rw [List.length_append, same]
  rcases rest with rfl | ⟨digits, rfl, -, -, most⟩
  · simp
  · rw [List.length_cons]
    omega

theorem length_of_isDatetime (datetime : IsDatetime t) : 19 ≤ t.length := by
  obtain ⟨date, time, rfl, isDate, isTime⟩ := datetime
  have day := length_of_isDate isDate
  have least := (length_of_isTime isTime).1
  rw [List.length_append, List.length_cons]
  omega

/-- The third character of a date is a digit, that of a time a colon. -/
theorem not_isDate_of_isTime (time : IsTime t) : ¬IsDate t := by
  intro date
  have zero : ("0000-00-00" : Text)[2]? = some '0' := by simp
  have mark : ("00:00:00" : Text)[2]? = some ':' := by simp
  obtain ⟨c, third, digit⟩ := at_of_like date zero
  obtain ⟨clock, fraction, rfl, like, -⟩ := time
  obtain ⟨d, colon, same⟩ := at_of_like like mark
  have length : clock.length = 8 := by simpa using like.length_eq.symm
  rw [List.getElem?_append_left (by omega), colon, Option.some.injEq] at third
  rw [if_pos rfl, ← third, show d = ':' from same] at digit
  contradiction

theorem stringType_of_isDatetime (datetime : IsDatetime s) : stringType s = .datetime := by
  rw [stringType, if_pos (isDatetime_iff.2 datetime)]

theorem stringType_of_isDate (date : IsDate s) : stringType s = .date := by
  have other : ¬Shape.isDatetime s = true := fun datetime => by
    have least := length_of_isDatetime (isDatetime_iff.1 datetime)
    have day := length_of_isDate date
    omega
  rw [stringType, if_neg other, if_pos (isDate_iff.2 date)]

theorem stringType_of_isTime (time : IsTime s) : stringType s = .time := by
  have other : ¬Shape.isDatetime s = true := fun datetime => by
    have least := length_of_isDatetime (isDatetime_iff.1 datetime)
    have most := (length_of_isTime time).2
    omega
  have later : ¬Shape.isDate s = true := mt isDate_iff.1 (not_isDate_of_isTime time)
  rw [stringType, if_neg other, if_neg later, if_pos (isTime_iff.2 time)]

theorem stringType_of_other (datetime : ¬IsDatetime s) (date : ¬IsDate s) (time : ¬IsTime s) :
    stringType s = .varchar (.ofLength SqlType.varcharLimit s.length) := by
  rw [stringType, if_neg (mt isDatetime_iff.1 datetime), if_neg (mt isDate_iff.1 date),
    if_neg (mt isTime_iff.1 time)]

end Moments

section Sizes

theorem ofLength_eq (positive : 1 ≤ limit) (n : Nat) :
    Size.ofLength limit n = if n ≤ limit then .exactly (max 1 n) else .unbounded := by
  have same : max 1 n ≤ limit ↔ n ≤ limit := by omega
  simp only [Size.ofLength, same]

theorem ofInteger_eq (n : Int) :
    SqlType.ofInteger n = if -2 ^ 31 ≤ n ∧ n ≤ 2 ^ 31 - 1 then .int else .bigint := by
  have word : Int.pow 2 31 = 2 ^ 31 := rfl
  have same : -Int.pow 2 31 ≤ n ∧ n < Int.pow 2 31 ↔ -2 ^ 31 ≤ n ∧ n ≤ 2 ^ 31 - 1 := by
    rw [word]
    omega
  simp only [SqlType.ofInteger, same]

end Sizes

/-- Literal, type and issue of what `t` is classified as go together. -/
structure Consistent (t : Text) (c : Classification) : Prop where
  absent : c.literal? = none ↔ t = []
  null : c.literal? = some ("NULL" : Text) ↔ AnyCase t "null"
  kept : t ≠ [] → ¬AnyCase t "null" → c.literal? = some t
  confident : c.isConfident = true ↔ ∃ type, c.type? = some type
  settled : (∃ type, c.type? = some type) ↔ c.issue? = none
  stable : ∀ literal, c.literal? = some literal → classify literal = c

/-- The type of `t` has the sizes of the literal that `t` spells, and there is none beyond the
digits that are converted and the precision that the server knows. -/
structure ExactlySized (t : Text) (type? : Option SqlType) : Prop where
  spelled : ∀ type, type? = some type → ∃ v, Spells v t
  national : ∀ s, Spells (.national s) t →
    type? = some (.nvarchar (if s.length ≤ 4000 then .exactly (max 1 s.length) else .unbounded))
  moment : ∀ s, Spells (.string s) t → (IsDatetime s → type? = some .datetime) ∧
    (IsDate s → type? = some .date) ∧ (IsTime s → type? = some .time)
  string : ∀ s, Spells (.string s) t → ¬IsDatetime s → ¬IsDate s → ¬IsTime s →
    type? = some (.varchar (if s.length ≤ 8000 then .exactly (max 1 s.length) else .unbounded))
  binary : ∀ digits, Spells (.binary digits) t →
    (∀ n, digits.length = 2 * n →
      type? = some (.varbinary (if n ≤ 8000 then .exactly (max 1 n) else .unbounded))) ∧
    (∀ n, digits.length = 2 * n + 1 → type? = none)
  integer : ∀ sign digits, Spells (.integer sign digits) t →
    (digits.length ≤ 4300 → type? = some
      (if -2 ^ 31 ≤ signedValue sign digits ∧ signedValue sign digits ≤ 2 ^ 31 - 1 then .int
        else .bigint)) ∧
    (4300 < digits.length → type? = none)
  decimal : ∀ sign whole fraction, Spells (.decimal sign whole fraction) t →
    let places := fraction.length
    let precision := max 1 whole.length + places
    1 ≤ precision - places ∧ (precision ≤ 38 → type? = some (.decimal precision places)) ∧
    (38 < precision → type? = none)

theorem literal?_classifyTrimmed (nonempty : t ≠ []) (other : ¬AnyCase t "null") :
    (classifyTrimmed t).literal? = some t := by
  by_cases spelled : ∃ v, Spells v t
  · obtain ⟨v, spells⟩ := spelled
    cases spells with
    | null null => exact absurd null other
    | national s => rw [classifyTrimmed_national]; rfl
    | string s => rw [classifyTrimmed_string]; rfl
    | binary hex => rw [classifyTrimmed_binary hex]; split <;> rfl
    | integer signed filled digits =>
      rw [classifyTrimmed_integer signed filled digits]
      split <;> rfl
    | decimal signed filled digits =>
      rw [classifyTrimmed_decimal signed filled digits]
      split <;> rfl
  · rw [classifyTrimmed_unspelled nonempty fun v spells => spelled ⟨v, spells⟩]
    rfl

theorem classify_null : classify "NULL" = .untyped (some "NULL") .nullValue := by
  have trimmed : Text.trim "NULL" = "NULL" := by cbv
  have null : AnyCase "NULL" "null" := by simp [AnyCase]
  rw [classify, trimmed, classifyTrimmed_null null]

theorem consistent_classify (token : Text) : Consistent (Text.trim token) (classify token) := by
  have again : classify (Text.trim token) = classify token := by
    rw [classify, trim_trim, ← classify]
  have empty (blank : Text.trim token = []) : (classify token).literal? = none := by
    rw [classify, blank]
    rfl
  have null (word : AnyCase (Text.trim token) "null") :
      classify token = .untyped (some "NULL") .nullValue := classifyTrimmed_null word
  have kept (filled : Text.trim token ≠ []) (other : ¬AnyCase (Text.trim token) "null") :
      (classify token).literal? = some (Text.trim token) :=
    literal?_classifyTrimmed filled other
  have capitals : AnyCase "NULL" "null" := by simp [AnyCase]
  constructor
  · refine ⟨fun absent => ?_, empty⟩
    by_contra filled
    by_cases word : AnyCase (Text.trim token) "null"
    · rw [null word] at absent
      contradiction
    · rw [kept filled word] at absent
      contradiction
  · refine ⟨fun found => ?_, fun word => by rw [null word]; rfl⟩
    by_contra other
    by_cases blank : Text.trim token = []
    · rw [empty blank] at found
      contradiction
    · rw [kept blank other, Option.some.injEq] at found
      exact other (found ▸ capitals)
  · exact kept
  · rw [Classification.isConfident, Option.isSome_iff_exists]
  · cases classify token <;> simp [Classification.type?, Classification.issue?]
  · intro literal found
    by_cases blank : Text.trim token = []
    · rw [empty blank] at found
      contradiction
    · by_cases word : AnyCase (Text.trim token) "null"
      · rw [null word] at found ⊢
        obtain rfl := Option.some.inj found
        exact classify_null
      · rw [kept blank word, Option.some.injEq] at found
        rw [← found, again]

theorem sized_classifyTrimmed (t : Text) : ExactlySized t (classifyTrimmed t).type? := by
  constructor
  · intro type typed
    by_contra unspelled
    push Not at unspelled
    by_cases none : t = []
    · subst none
      contradiction
    · rw [classifyTrimmed_unspelled none unspelled] at typed
      contradiction
  · rintro s ⟨⟩
    rw [classifyTrimmed_national, ofLength_eq (by decide)]
    rfl
  · rintro s ⟨⟩
    rw [classifyTrimmed_string]
    refine ⟨fun datetime => ?_, fun date => ?_, fun time => ?_⟩
    · rw [stringType_of_isDatetime datetime]
      rfl
    · rw [stringType_of_isDate date]
      rfl
    · rw [stringType_of_isTime time]
      rfl
  · rintro s ⟨⟩ datetime date time
    rw [classifyTrimmed_string, stringType_of_other datetime date time, ofLength_eq (by decide)]
    rfl
  · rintro digits ⟨⟩
    rw [classifyTrimmed_binary ‹_›]
    constructor
    · intro n even
      rw [if_pos (by omega), ofLength_eq (by decide), even, Nat.mul_div_cancel_left n Nat.two_pos]
      rfl
    · intro n odd
      rw [if_neg (by omega)]
      rfl
  · rintro sign digits spells
    cases spells with
    | integer signed filled inside =>
      rw [classifyTrimmed_integer signed filled inside, ofInteger_eq]
      constructor
      · intro few
        have within : digits.length ≤ Numeral.digitLimit := few
        rw [if_pos within]
        rfl
      · intro many
        have beyond : ¬digits.length ≤ Numeral.digitLimit := Nat.not_le.2 many
        rw [if_neg beyond]
        rfl
  · rintro sign whole fraction spells places precision
    cases spells with
    | decimal signed filled digits =>
      rw [classifyTrimmed_decimal signed filled digits]
      refine ⟨by omega, fun fits => ?_, fun wide => ?_⟩
      · have within : max 1 whole.length + fraction.length ≤ SqlType.precisionLimit := fits
        rw [if_pos within]
        rfl
      · have beyond : ¬max 1 whole.length + fraction.length ≤ SqlType.precisionLimit :=
          Nat.not_le.2 wide
        rw [if_neg beyond]
        rfl

/-- What a token is classified as is consistent, stays so when its literal is classified again, and
has the sizes of the value. -/
theorem classification_exact (token : Text) :
    Consistent (Text.trim token) (classify token) ∧
      ExactlySized (Text.trim token) (classify token).type? :=
  ⟨consistent_classify token, sized_classifyTrimmed (Text.trim token)⟩

end SqlReplay
