import SqlReplay.Proofs.Literal.Spelling
import SqlReplay.Proofs.Sql.References

/-! The order in which placeholders are declared. Digits without leading zeros compare by how many
there are and then one by one as the numbers do that they stand for, so numbered placeholders are
sorted by their numbers, and the sort is stable. -/

namespace SqlReplay

/-- The number of a placeholder whose name is the sign and digits. -/
def Reference.number? (r : Reference) : Option Nat :=
  match r.name with
  | '@' :: digits => if Shape.isDigits digits then some (digitsValue digits) else none
  | _ => none

/-- The name starts with the sign of placeholders, as every name found in a statement does. -/
def Reference.IsSigned (r : Reference) : Prop := r.name.head? = some '@'

instance (r : Reference) : Decidable r.IsSigned :=
  inferInstanceAs (Decidable (r.name.head? = some '@'))

theorem digitsValue_cons (c : Char) (digits : Text) : digitsValue (c :: digits) =
    (c.toNat - '0'.toNat) * 10 ^ digits.length + digitsValue digits := by
  unfold digitsValue
  rw [List.reverse_cons, List.map_append, Nat.ofDigits_append, List.length_map, List.length_reverse]
  simp
  ring

theorem toNat_of_isDigit (digit : Char.isDigit c = true) : 48 ≤ c.toNat ∧ c.toNat ≤ 57 := by
  simp only [Char.isDigit, Bool.and_eq_true, decide_eq_true_eq, ge_iff_le,
    UInt32.le_iff_toNat_le] at digit
  exact digit

theorem digitsValue_lt (digits : Digits t) : digitsValue t < 10 ^ t.length := by
  induction t with
  | nil => decide
  | cons c t ih =>
    have first := toNat_of_isDigit (digits c (List.mem_cons_self ..))
    have later := ih fun d member => digits d (List.mem_cons_of_mem _ member)
    have zero : '0'.toNat = 48 := rfl
    have most : (c.toNat - 48) * 10 ^ t.length ≤ 9 * 10 ^ t.length :=
      Nat.mul_le_mul_right _ (by omega)
    rw [digitsValue_cons, List.length_cons, pow_succ, zero]
    omega

theorem digitsValue_dropZeros (t : Text) :
    digitsValue (t.dropWhile (· == '0')) = digitsValue t := by
  induction t with
  | nil => rfl
  | cons c t ih =>
    by_cases zero : c = '0'
    · subst zero
      rw [List.dropWhile_cons_of_pos (by decide), ih, digitsValue_cons, Nat.sub_self,
        Nat.zero_mul, Nat.zero_add]
    · rw [List.dropWhile_cons_of_neg (by simpa using zero)]

theorem leading_le_iff {p : Nat} (first : a < p) (second : b < p) :
    m * p + a ≤ n * p + b ↔ m < n ∨ m = n ∧ a ≤ b := by
  rcases Nat.lt_trichotomy m n with less | rfl | more
  · have room := Nat.mul_le_mul_right p less
    rw [Nat.succ_mul] at room
    exact iff_of_true (by omega) (.inl less)
  · simp
  · have room := Nat.mul_le_mul_right p more
    rw [Nat.succ_mul] at room
    exact iff_of_false (by omega) (by omega)

/-- As many digits compare one by one as their numbers do. -/
theorem digitsLe_iff (first : Digits s) (second : Digits t) (length : s.length = t.length) :
    Reference.digitsLe s t = true ↔ digitsValue s ≤ digitsValue t := by
  induction s generalizing t with
  | nil =>
    cases t with
    | nil => simp [Reference.digitsLe]
    | cons d t => simp at length
  | cons c s ih =>
    cases t with
    | nil => simp at length
    | cons d t =>
      obtain ⟨digit, digits⟩ := List.forall_mem_cons.1 first
      obtain ⟨digit', digits'⟩ := List.forall_mem_cons.1 second
      have same : s.length = t.length := by simpa using length
      have low := toNat_of_isDigit digit
      have low' := toNat_of_isDigit digit'
      have less : c < d ↔ c.toNat - 48 < d.toNat - 48 := by
        rw [Char.lt_def, UInt32.lt_iff_toNat_lt]
        change c.toNat < d.toNat ↔ _
        omega
      have equal : c = d ↔ c.toNat - 48 = d.toNat - 48 := by
        rw [← Char.toNat_inj]
        omega
      -- What comes after the first digits is worth less than one more of them.
      have fits' := digitsValue_lt digits'
      rw [← same] at fits'
      rw [digitsValue_cons, digitsValue_cons, ← same, leading_le_iff (digitsValue_lt digits) fits',
        ← ih digits digits' same]
      simp [Reference.digitsLe, less, equal]

def Significant (t : Text) : Prop := Digits t ∧ t.head? ≠ some '0'

theorem digitsValue_ge (significant : Significant (c :: t)) :
    10 ^ t.length ≤ digitsValue (c :: t) := by
  have first := toNat_of_isDigit (significant.1 c (List.mem_cons_self ..))
  have other : c.toNat ≠ 48 := fun same =>
    significant.2 (congrArg some (Char.toNat_inj.1 same))
  have zero : '0'.toNat = 48 := rfl
  have least := Nat.mul_le_mul_right (10 ^ t.length) (show 1 ≤ c.toNat - 48 by omega)
  rw [digitsValue_cons, zero]
  omega

theorem digitsValue_lt_of_length_lt (first : Significant s) (second : Significant t)
    (shorter : s.length < t.length) : digitsValue s < digitsValue t := by
  cases t with
  | nil => simp at shorter
  | cons c t =>
    calc
      digitsValue s < 10 ^ s.length := digitsValue_lt first.1
      _ ≤ 10 ^ t.length := Nat.pow_le_pow_right (by decide) (Nat.lt_succ_iff.1 shorter)
      _ ≤ digitsValue (c :: t) := digitsValue_ge second

/-- Digits by how many they are and then one by one are ordered as their numbers. -/
theorem numericLe_iff (first : Significant s) (second : Significant t) :
    Reference.numericLe (s.length, s) (t.length, t) = true ↔ digitsValue s ≤ digitsValue t := by
  simp only [Reference.numericLe, Bool.or_eq_true, decide_eq_true_eq, Bool.and_eq_true, beq_iff_eq]
  rcases Nat.lt_trichotomy s.length t.length with less | same | more
  · have lower := digitsValue_lt_of_length_lt first second less
    exact iff_of_true (.inl less) (Nat.le_of_lt lower)
  · rw [digitsLe_iff first.1 second.1 same]
    simp [same]
  · have higher := digitsValue_lt_of_length_lt second first more
    exact iff_of_false (by omega) (by omega)

theorem significant_dropZeros (digits : Digits t) : Significant (t.dropWhile (· == '0')) := by
  constructor
  · intro c member
    exact digits c ((List.dropWhile_suffix _).subset member)
  · intro zero
    have stops := head?_dropWhile_false zero
    contradiction

/-- A sort that is stable keeps the order of elements that are alike. -/
theorem filter_mergeSort {α : Type} {le : α → α → Bool} {p : α → Bool}
    (trans : ∀ a b c, le a b = true → le b c = true → le a c = true)
    (total : ∀ a b, (le a b || le b a) = true)
    (alike : ∀ a b, p a = true → p b = true → le a b = true) (l : List α) :
    (l.mergeSort le).filter p = l.filter p := by
  have sorted : (l.filter p).Pairwise fun a b => le a b = true := by
    apply List.pairwise_of_forall_mem_list
    intro a first b second
    exact alike a b (List.mem_filter.1 first).2 (List.mem_filter.1 second).2
  have kept := (List.sublist_mergeSort trans total sorted List.filter_sublist).filter p
  simp only [List.filter_filter, Bool.and_self] at kept
  exact (kept.eq_of_length ((List.mergeSort_perm l le).filter p).length_eq.symm).symm

def Reference.significant (r : Reference) : Text := (r.name.drop 1).dropWhile (· == '0')

/-- A numbered placeholder beside what it is sorted by. -/
def Reference.keyed (r : Reference) : (Nat × Text) × Reference :=
  ((r.significant.length, r.significant), r)

section Numbered

variable {r : Reference} {rs : List Reference} {n : Nat}

theorem number?_eq_some_iff : r.number? = some n ↔
    ∃ digits, r.name = '@' :: digits ∧ digits ≠ [] ∧ Digits digits ∧ digitsValue digits = n := by
  unfold Reference.number?
  split
  · next digits named =>
    simp only [named, List.cons.injEq, true_and, exists_eq_left']
    split
    · next shape =>
      obtain ⟨filled, inside⟩ := isDigits_iff.1 shape
      simp [filled, show Digits digits from inside]
    · next other =>
      simp only [reduceCtorEq, false_iff]
      rintro ⟨filled, inside, -⟩
      exact other (isDigits_iff.2 ⟨filled, inside⟩)
  · next other =>
    simp only [reduceCtorEq, false_iff]
    rintro ⟨digits, named, -⟩
    exact other digits named

theorem numericKey?_of_number? (found : r.number? = some n) :
    r.numericKey? = some r.keyed.1 ∧ Significant r.significant ∧
      digitsValue r.significant = n := by
  obtain ⟨digits, named, filled, inside, rfl⟩ := number?_eq_some_iff.1 found
  have rest : r.name.drop 1 = digits := by rw [named]; rfl
  have all : digits.all Char.isDigit = true := List.all_eq_true.2 inside
  unfold Reference.numericKey? Reference.keyed Reference.significant
  rw [rest]
  exact ⟨by simp [filled, all], significant_dropZeros inside, digitsValue_dropZeros digits⟩

theorem numericKey?_eq_none (signed : r.IsSigned) (unnumbered : r.number? = none) :
    r.numericKey? = none := by
  obtain ⟨digits, named⟩ := List.head?_eq_some_iff.1 signed
  have rest : r.name.drop 1 = digits := by rw [named]; rfl
  unfold Reference.numericKey?
  rw [rest, if_pos]
  by_contra shape
  have shape : Shape.isDigits digits = true := by simpa [Shape.isDigits] using shape
  obtain ⟨filled, inside⟩ := isDigits_iff.1 shape
  have found := number?_eq_some_iff.2 ⟨digits, named, filled, inside, rfl⟩
  rw [unnumbered] at found
  contradiction

def Reference.isNumbered (r : Reference) : Bool := r.number?.isSome

def Reference.numberLe (a b : Reference) : Bool := a.number?.getD 0 ≤ b.number?.getD 0

theorem numericKey?_eq (signed : r.IsSigned) :
    r.numericKey? = if r.isNumbered then some r.keyed.1 else none := by
  unfold Reference.isNumbered
  cases found : r.number? with
  | none => exact numericKey?_eq_none signed found
  | some n => exact (numericKey?_of_number? found).1

theorem filterMap_numericKey_eq (signed : ∀ r ∈ rs, r.IsSigned) :
    (rs.filterMap fun r => r.numericKey?.map (·, r)) =
      (rs.filter (·.isNumbered)).map Reference.keyed := by
  induction rs with
  | nil => rfl
  | cons r rs ih =>
    obtain ⟨first, later⟩ := List.forall_mem_cons.1 signed
    rw [List.filterMap_cons, List.filter_cons, ih later, numericKey?_eq first]
    cases r.isNumbered <;> rfl

theorem numericLe_eq_numberLe {a b : Reference} (first : a.isNumbered = true)
    (second : b.isNumbered = true) :
    Reference.numericLe a.keyed.1 b.keyed.1 = a.numberLe b := by
  obtain ⟨m, first⟩ := Option.isSome_iff_exists.1 first
  obtain ⟨n, second⟩ := Option.isSome_iff_exists.1 second
  obtain ⟨-, digits, rfl⟩ := numericKey?_of_number? first
  obtain ⟨-, digits', rfl⟩ := numericKey?_of_number? second
  rw [Bool.eq_iff_iff]
  apply (numericLe_iff digits digits').trans
  simp [Reference.numberLe, first, second]

/-- The numbered placeholders are sorted by their numbers, and the others come after them. -/
theorem declarationOrder_eq (signed : ∀ r ∈ rs, r.IsSigned) :
    Reference.declarationOrder rs =
      (rs.filter (·.isNumbered)).mergeSort Reference.numberLe ++ rs.filter (!·.isNumbered) := by
  have others : rs.filter (fun r => r.numericKey?.isNone) = rs.filter (!·.isNumbered) := by
    refine List.filter_congr fun r member => ?_
    rw [numericKey?_eq (signed r member)]
    cases r.isNumbered <;> rfl
  have sorted : ((rs.filter (·.isNumbered)).mergeSort Reference.numberLe).map Reference.keyed =
      ((rs.filter (·.isNumbered)).map Reference.keyed).mergeSort
        fun a b => Reference.numericLe a.1 b.1 := by
    apply List.map_mergeSort
    intro a first b second
    exact (numericLe_eq_numberLe (List.mem_filter.1 first).2 (List.mem_filter.1 second).2).symm
  simp only [Reference.declarationOrder]
  rw [others, filterMap_numericKey_eq signed, ← sorted, List.map_map]
  congr 1
  exact List.map_id _

theorem numberLe_trans (a b c : Reference) (first : a.numberLe b = true)
    (second : b.numberLe c = true) : a.numberLe c = true := by
  simp only [Reference.numberLe, decide_eq_true_eq] at *
  exact Nat.le_trans first second

theorem numberLe_total (a b : Reference) : (a.numberLe b || b.numberLe a) = true := by
  simp only [Reference.numberLe, Bool.or_eq_true, decide_eq_true_eq]
  exact Nat.le_total _ _

theorem isSigned_of_mem_references {t : Text} (member : r ∈ references t) : r.IsSigned := by
  obtain ⟨name, rfl, -⟩ := isReference_of_mem_references member
  rfl

theorem declarationOrder_references (t : Text) :
    Reference.declarationOrder (references t) =
      ((references t).filter (·.isNumbered)).mergeSort Reference.numberLe ++
        (references t).filter (!·.isNumbered) := by
  apply declarationOrder_eq
  intro r member
  exact isSigned_of_mem_references member

/-- Declaring rearranges placeholders: the numbered come first, by the numbers their digits stand
for and among equal numbers as they stood, and after them the others as they stood. -/
theorem declarationOrder_numeric (rs : List Reference) (signed : ∀ r ∈ rs, r.IsSigned) :
    (Reference.declarationOrder rs).Perm rs ∧
      ∃ numbered, Reference.declarationOrder rs = numbered ++ rs.filter (·.number?.isNone) ∧
        (∀ r ∈ numbered, r.number?.isSome) ∧
        numbered.Pairwise (fun a b => ∀ m ∈ a.number?, ∀ n ∈ b.number?, m ≤ n) ∧
        ∀ n, numbered.filter (·.number? = some n) = rs.filter (·.number? = some n) := by
  refine ⟨declarationOrder_perm rs, (rs.filter (·.isNumbered)).mergeSort Reference.numberLe,
    ?_, ?_, ?_, ?_⟩
  · rw [declarationOrder_eq signed]
    simp [Reference.isNumbered]
  · intro r member
    exact (List.mem_filter.1 (List.mem_mergeSort.1 member)).2
  · apply (List.pairwise_mergeSort numberLe_trans numberLe_total _).imp
    intro a b sorted m first n second
    rw [Option.mem_def] at first second
    simpa [Reference.numberLe, first, second] using sorted
  · intro n
    have alike : ∀ a b : Reference, decide (a.number? = some n) = true →
        decide (b.number? = some n) = true → a.numberLe b = true := by
      intro a b first second
      simp [Reference.numberLe, of_decide_eq_true first, of_decide_eq_true second]
    rw [filter_mergeSort numberLe_trans numberLe_total alike, List.filter_filter]
    refine List.filter_congr fun r _ => ?_
    simp only [Reference.isNumbered, Bool.and_eq_left_iff_imp, decide_eq_true_eq]
    intro found
    rw [found]
    rfl

/-- Leading zeros do not count, ten comes after nine, and other digits make no number. -/
theorem declarationOrder_numeric_mixed :
    ∃ numbered, Reference.declarationOrder
        ((["@b", "@010", "@٣", "@9", "@1", "@", "@01"] : List Text).map .ofName) =
          numbered ++ (["@b", "@٣", "@"] : List Text).map .ofName ∧
      numbered.Perm ((["@010", "@9", "@1", "@01"] : List Text).map .ofName) ∧
      numbered.Pairwise (fun a b => ∀ m ∈ a.number?, ∀ n ∈ b.number?, m ≤ n) ∧
      numbered.filter (·.number? = some 1) = (["@1", "@01"] : List Text).map .ofName := by
  let stood : List Reference :=
    (["@b", "@010", "@٣", "@9", "@1", "@", "@01"] : List Text).map .ofName
  let others : List Reference := (["@b", "@٣", "@"] : List Text).map .ofName
  have signed : ∀ r ∈ stood, r.IsSigned := by decide
  have unnumbered : stood.filter (·.number?.isNone) = others := by cbv
  have ones : stood.filter (·.number? = some 1) = (["@1", "@01"] : List Text).map .ofName := by cbv
  have parts : stood.Perm ((["@010", "@9", "@1", "@01"] : List Text).map .ofName ++ others) := by
    decide
  obtain ⟨perm, numbered, order, -, sorted, stable⟩ := declarationOrder_numeric stood signed
  rw [unnumbered] at order
  rw [order] at perm
  exact ⟨numbered, order, (List.perm_append_right_iff others).1 (perm.trans parts), sorted,
    (stable 1).trans ones⟩

end Numbered

end SqlReplay
