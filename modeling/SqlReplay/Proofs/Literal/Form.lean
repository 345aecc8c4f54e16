import SqlReplay.Literal.Classify
import SqlReplay.Proofs.Sql.Lexemes

/-! The forms in which values with a type are written: closed strings, national ones too, and
numbers. A written value in front of a text is read by itself unless both meet at an apostrophe. -/

namespace SqlReplay

def IsSign (sign : Text) : Prop := sign = [] ∨ sign = ['+'] ∨ sign = ['-']

def isNumberChar (c : Char) : Bool := c.isAlphanum || c == '.'

inductive Written : Text → Prop
  | string : Shape.closesQuote body = true → Written ('\'' :: body)
  | national : Shape.closesQuote body = true → Written ('N' :: '\'' :: body)
  | number : IsSign sign → digits ≠ [] → (∀ c ∈ digits, isNumberChar c = true) →
      Written (sign ++ digits)

theorem isSign_dropSign (t : Text) : ∃ sign, IsSign sign ∧ t = sign ++ Shape.dropSign t := by
  fun_cases Shape.dropSign t with
  | case1 rest => exact ⟨['+'], .inr (.inl rfl), rfl⟩
  | case2 rest => exact ⟨['-'], .inr (.inr rfl), rfl⟩
  | case3 => exact ⟨[], .inl rfl, rfl⟩

theorem isNumberChar_of_isDigit (digit : c.isDigit = true) : isNumberChar c = true := by
  simp [isNumberChar, Char.isAlphanum, digit]

theorem isNumberChar_of_isHexDigit (digit : Shape.isHexDigit c = true) : isNumberChar c = true := by
  simp only [Shape.isHexDigit, Bool.or_eq_true, Bool.and_eq_true, decide_eq_true_eq] at digit
  delta isNumberChar Char.isAlphanum Char.isAlpha Char.isUpper Char.isLower
  simp only [Bool.or_eq_true, Bool.and_eq_true, decide_eq_true_eq]
  rcases digit with (digit | ⟨low, high⟩) | ⟨low, high⟩
  · exact .inl (.inr digit)
  · exact .inl (.inl (.inr ⟨low, Char.le_trans high (by decide)⟩))
  · exact .inl (.inl (.inl ⟨low, Char.le_trans high (by decide)⟩))

theorem isDigits_iff : Shape.isDigits t = true ↔ t ≠ [] ∧ ∀ c ∈ t, c.isDigit = true := by
  simp [Shape.isDigits]

theorem written_of_isString (string : Shape.isString t = true) : Written t := by
  unfold Shape.isString at string
  split at string
  · exact .string string
  · contradiction

theorem written_of_isNationalString (national : Shape.isNationalString t = true) : Written t := by
  unfold Shape.isNationalString Shape.isString at national
  split at national
  · split at national
    · exact .national national
    · contradiction
  · contradiction

theorem written_of_isHex (hex : Shape.isHex t = true) : Written t := by
  unfold Shape.isHex at hex
  split at hex
  · next digits =>
    have unsigned : IsSign [] := .inl rfl
    refine .number unsigned (List.cons_ne_nil _ _) ?_
    intro c member
    rcases List.mem_cons.1 member with rfl | member
    · rfl
    · rcases List.mem_cons.1 member with rfl | member
      · rfl
      · exact isNumberChar_of_isHexDigit (List.all_eq_true.1 hex c member)
  · contradiction

theorem written_of_isInteger (integer : Shape.isInteger t = true) : Written t := by
  obtain ⟨sign, signed, whole⟩ := isSign_dropSign t
  obtain ⟨nonempty, digits⟩ := isDigits_iff.1 integer
  rw [whole]
  exact .number signed nonempty fun c member => isNumberChar_of_isDigit (digits c member)

theorem written_of_isDecimal (decimal : Shape.isDecimal t = true) : Written t := by
  obtain ⟨sign, signed, whole⟩ := isSign_dropSign t
  unfold Shape.isDecimal at decimal
  split at decimal
  · next before after cut =>
    obtain ⟨_, digits⟩ := isDigits_iff.1 decimal
    rw [whole, eq_of_cut cut]
    refine .number signed (by simp) ?_
    intro c member
    rcases List.mem_append.1 member with member | member
    · exact isNumberChar_of_isDigit (digits c (List.mem_append_left _ member))
    · rcases List.mem_cons.1 member with rfl | member
      · rfl
      · exact isNumberChar_of_isDigit (digits c (List.mem_append_right _ member))
  · contradiction

/-- Whatever has a type is written in one of the forms. -/
theorem written_of_classify (typed : classify token = .typed literal type) : Written literal := by
  unfold classify classifyTrimmed at typed
  split at typed
  · contradiction
  split at typed
  · contradiction
  split at typed
  · next national =>
    obtain ⟨rfl, _⟩ := Classification.typed.inj typed
    exact written_of_isNationalString national
  split at typed
  · next string =>
    obtain ⟨rfl, _⟩ := Classification.typed.inj typed
    exact written_of_isString string
  split at typed
  · next hex =>
    dsimp only at typed
    split at typed
    · obtain ⟨rfl, _⟩ := Classification.typed.inj typed
      exact written_of_isHex hex
    · contradiction
  split at typed
  · next integer =>
    split at typed
    · obtain ⟨rfl, _⟩ := Classification.typed.inj typed
      exact written_of_isInteger integer
    · contradiction
  split at typed
  · next decimal =>
    split at typed
    · obtain ⟨rfl, _⟩ := Classification.typed.inj typed
      exact written_of_isDecimal decimal
    · contradiction
  · contradiction

theorem quoted_of_closesQuote (closes : Shape.closesQuote body = true)
    (apart : rest.head? ≠ some '\'') : Quoted '\'' body rest := by
  fun_induction Shape.closesQuote body with
  | case1 => contradiction
  | case2 => exact .closed apart
  | case3 more ih => exact .doubled (ih closes)
  | case4 => contradiction
  | case5 c rest other ih => exact .inside other (ih closes)

theorem getLast?_of_closesQuote (closes : Shape.closesQuote body = true) :
    body.getLast? = some '\'' := by
  fun_induction Shape.closesQuote body with
  | case1 => contradiction
  | case2 => rfl
  | case3 more ih => simp [List.getLast?_cons, ih closes]
  | case4 => contradiction
  | case5 c rest other ih => simp [List.getLast?_cons, ih closes]

theorem isSpecial_of_isNumberChar (number : isNumberChar c = true) : Span.isSpecial c = false := by
  refine isSpecial_eq_false_iff.2 ⟨?_, ?_, ?_, ?_, ?_, ?_⟩
  all_goals rintro rfl; contradiction

theorem inert_of_number (number : ∀ c ∈ digits, isNumberChar c = true) : Inert digits :=
  fun c member => isSpecial_of_isNumberChar (number c member)

theorem precedes_string (closes : Shape.closesQuote body = true) (apart : rest.head? ≠ some '\'') :
    Precedes ⟨.stringLiteral, '\'' :: body⟩ rest :=
  .quoted .stringLiteral (quoted_of_closesQuote closes apart)

theorem lexemes_string (closes : Shape.closesQuote body = true) :
    lexemes ('\'' :: body) = [⟨.stringLiteral, '\'' :: body⟩] := by
  have ends : ([] : Text).head? ≠ some '\'' := by simp
  have alone := lexemes_of_precedes (precedes_string closes ends)
  simpa [lexemes_of_ne] using alone

theorem lexemes_national (closes : Shape.closesQuote body = true) :
    lexemes ('N' :: '\'' :: body) = [Span.plainChar 'N', ⟨.stringLiteral, '\'' :: body⟩] := by
  rw [lexemes_cons_inert rfl, lexemes_string closes]

/-- A number is plain text wherever it stands. -/
theorem lexemes_number_append (signed : IsSign sign) (nonempty : digits ≠ [])
    (number : ∀ c ∈ digits, isNumberChar c = true) (rest : Text) :
    lexemes (sign ++ digits ++ rest) = (sign ++ digits).map Span.plainChar ++ lexemes rest := by
  have inert := inert_of_number number
  rcases signed with rfl | rfl | rfl
  · exact lexemes_inert inert rest
  · have plus : Inert ['+'] := inert_singleton rfl
    exact lexemes_inert (inert_append plus inert) rest
  · obtain ⟨d, more, rfl⟩ := List.exists_cons_of_ne_nil nonempty
    have other : d ≠ '-' := by
      rintro rfl
      exact absurd (number '-' (List.mem_cons_self ..)) (by decide)
    have minus : (Span.next '-' (d :: more ++ rest)).1 = .plain := by simp [Span.next, other]
    rw [List.append_assoc, List.singleton_append, lexemes_cons_plain minus, lexemes_inert inert]
    rfl

theorem lexemes_number (signed : IsSign sign) (nonempty : digits ≠ [])
    (number : ∀ c ∈ digits, isNumberChar c = true) :
    lexemes (sign ++ digits) = (sign ++ digits).map Span.plainChar := by
  simpa using lexemes_number_append signed nonempty number []

/-- A written value is read by itself unless its last apostrophe meets another one. -/
theorem lexemes_written (written : Written literal)
    (apart : literal.getLast? = some '\'' → rest.head? ≠ some '\'') :
    lexemes (literal ++ rest) = lexemes literal ++ lexemes rest := by
  cases written with
  | @string body closes =>
    have last : ('\'' :: body).getLast? = some '\'' := by
      simp [List.getLast?_cons, getLast?_of_closesQuote closes]
    have read := lexemes_of_precedes (precedes_string closes (apart last))
    rw [lexemes_string closes]
    exact read
  | @national body closes =>
    have last : ('N' :: '\'' :: body).getLast? = some '\'' := by
      simp [List.getLast?_cons, getLast?_of_closesQuote closes]
    have read := lexemes_of_precedes (precedes_string closes (apart last))
    rw [lexemes_national closes, List.cons_append, lexemes_cons_inert rfl]
    exact congrArg (Span.plainChar 'N' :: ·) read
  | number signed nonempty number =>
    rw [lexemes_number_append signed nonempty number, lexemes_number signed nonempty number]

theorem kind_of_mem_written (written : Written literal) (member : s ∈ lexemes literal) :
    s.kind = .plain ∨ s.kind = .stringLiteral := by
  cases written with
  | string closes =>
    rw [lexemes_string closes, List.mem_singleton] at member
    exact .inr (member ▸ rfl)
  | national closes =>
    rw [lexemes_national closes, List.mem_cons, List.mem_singleton] at member
    rcases member with rfl | rfl
    · exact .inl rfl
    · exact .inr rfl
  | number signed nonempty number =>
    rw [lexemes_number signed nonempty number, List.mem_map] at member
    obtain ⟨c, _, rfl⟩ := member
    exact .inl rfl

theorem names_written (written : Written literal) : names (lexemes literal) = [] := by
  refine names_eq_nil ?_
  intro s member placeholder
  rcases kind_of_mem_written written member with plain | string
  · rw [plain] at placeholder; contradiction
  · rw [string] at placeholder; contradiction

end SqlReplay
