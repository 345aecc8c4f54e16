import SqlReplay.Proofs.Literal.Form

/-! The seams of a written value, put where a placeholder stood. It is absorbed if it begins with a
character that the span in front of it goes on with, and at its end only two apostrophes meet. -/

namespace SqlReplay

/-- A value in the place of the placeholder after a span is not read apart from the span. -/
inductive Absorbs : Span → Text → Prop
  | string : Absorbs ⟨.stringLiteral, text⟩ ('\'' :: more)
  | systemVariable : Cursor.isNameChar c = true → Absorbs ⟨.systemVariable, text⟩ (c :: more)
  | minus : Absorbs ⟨.plain, ['-']⟩ ('-' :: more)
  | refused : Cursor.isNameChar c = true → Absorbs ⟨.plain, '@' :: c :: name⟩ literal

theorem head?_of_written (written : Written literal) : ∃ c more, literal = c :: more ∧
    (c = '\'' ∨ c = '+' ∨ c = '-' ∨ isNumberChar c = true) := by
  cases written with
  | string => exact ⟨_, _, rfl, .inl rfl⟩
  | national => exact ⟨_, _, rfl, .inr (.inr (.inr rfl))⟩
  | number signed nonempty number =>
    obtain ⟨d, more, rfl⟩ := List.exists_cons_of_ne_nil nonempty
    rcases signed with rfl | rfl | rfl
    · exact ⟨_, _, rfl, .inr (.inr (.inr (number d (List.mem_cons_self ..))))⟩
    · exact ⟨_, _, rfl, .inr (.inl rfl)⟩
    · exact ⟨_, _, rfl, .inr (.inr (.inl rfl))⟩

theorem head?_written_ne (written : Written literal) (rest : Text)
    (other : c = '"' ∨ c = ']' ∨ c = '*' ∨ c = '@') : (literal ++ rest).head? ≠ some c := by
  obtain ⟨d, more, rfl, form⟩ := head?_of_written written
  intro first
  obtain rfl : d = c := by simpa using first
  rcases other with rfl | rfl | rfl | rfl
  all_goals rcases form with form | form | form | form <;> contradiction

/-- Closed quoted text ends where its closing character does not follow. -/
theorem quoted_iff_of_closed (quoted : Quoted k body rest) (more : rest ≠ []) :
    Quoted k body other ↔ other.head? ≠ some k := by
  induction quoted with
  | unclosed => contradiction
  | @closed rest apart =>
    constructor
    · rintro (_ | apart | _ | ⟨differs, _⟩)
      · exact apart
      · exact absurd rfl differs
    · exact .closed
  | @doubled body rest quoted ih =>
    rw [← ih more]
    constructor
    · rintro (_ | _ | inner | ⟨differs, _⟩)
      · exact inner
      · exact absurd rfl differs
    · exact .doubled
  | @inside c body rest differs quoted ih =>
    rw [← ih more]
    constructor
    · rintro (_ | _ | _ | ⟨_, inner⟩)
      · exact absurd rfl differs
      · exact absurd rfl differs
      · exact inner
    · exact .inside differs

theorem commented_of_closed (commented : Commented body rest) (more : rest ≠ []) (other : Text) :
    Commented body other := by
  induction commented with
  | unclosed => contradiction
  | closed => exact .closed
  | inside apart _ ih => exact .inside apart (ih more)

/-- A value that is not absorbed follows the span that the placeholder followed. -/
theorem precedes_written (precedes : Precedes s rest) (sign : rest.head? = some '@')
    (written : Written literal) (free : ¬Absorbs s literal) (more : Text) :
    Precedes s (literal ++ more) := by
  have nonempty : rest ≠ [] := by
    rintro rfl
    contradiction
  obtain ⟨d, tail, rfl, _⟩ := head?_of_written written
  cases precedes with
  | @quoted kind opening closing body _ quotes quoted =>
    refine .quoted quotes ((quoted_iff_of_closed quoted nonempty).2 ?_)
    cases quotes with
    | stringLiteral =>
      intro first
      obtain rfl : d = '\'' := by simpa using first
      exact free .string
    | quotedIdentifier => exact head?_written_ne written more (.inl rfl)
    | bracketIdentifier => exact head?_written_ne written more (.inr (.inl rfl))
  | lineComment _ ends =>
    exact absurd (ends '@' sign) (by decide)
  | blockComment commented => exact .blockComment (commented_of_closed commented nonempty _)
  | systemVariable named =>
    refine .systemVariable ⟨named.1, ?_⟩
    rintro c ⟨⟩
    cases name : Cursor.isNameChar d with
    | false => rfl
    | true => exact absurd (.systemVariable name) free
  | placeholder _ _ apart => exact absurd sign apart
  | @refused name _ run named =>
    obtain ⟨c, name, rfl⟩ := List.exists_cons_of_ne_nil run
    exact absurd (.refused (named.1 c (List.mem_cons_self ..))) free
  | @sign tail' _ inert apart unnamed =>
    cases tail' with
    | nil => exact absurd sign apart
    | cons c tail' => exact .sign inert apart unnamed
  | @plain c tail' _ single double bracket other inert line block =>
    refine .plain single double bracket other inert ?_ ?_
    · rintro rfl
      cases tail' with
      | nil =>
        intro first
        obtain rfl : d = '-' := by simpa using first
        exact free .minus
      | cons e tail' => exact line rfl
    · rintro rfl
      cases tail' with
      | nil => exact head?_written_ne written more (.inr (.inr (.inl rfl)))
      | cons e tail' => exact block rfl

/-- After a name no sign can come that belongs to a written value. -/
theorem head?_dropWhile_written (written : Written literal) (apart : rest.head? ≠ some '@')
    (unnamed : ∀ c, rest.head? = some c → Cursor.isNameChar c = false) :
    ((literal ++ rest).dropWhile Cursor.isNameChar).head? ≠ some '@' := by
  intro first
  cases written with
  | string => simp [Cursor.isNameChar] at first
  | national => simp [Cursor.isNameChar] at first
  | @number sign digits signed nonempty number =>
    rcases signed with rfl | rfl | rfl
    · rw [List.nil_append, List.dropWhile_append] at first
      split at first
      · rw [dropWhile_eq_self unnamed] at first
        exact apart first
      · next left =>
        have some : digits.dropWhile Cursor.isNameChar ≠ [] := by
          intro none
          simp [none] at left
        obtain ⟨d, more, whole⟩ := List.exists_cons_of_ne_nil some
        rw [whole] at first
        obtain rfl : d = '@' := by simpa using first
        have member : '@' ∈ digits :=
          (List.dropWhile_sublist _).subset (whole ▸ List.mem_cons_self ..)
        exact absurd (number '@' member) (by decide)
    · simp [Cursor.isNameChar] at first
    · simp [Cursor.isNameChar] at first

/-- A value that is absorbed changes how the span in front of it is read. -/
theorem lexemes_absorbed (absorbs : Absorbs s literal) (precedes : Precedes s rest)
    (sign : rest.head? = some '@') (written : Written literal) (apart : more.head? ≠ some '@')
    (unnamed : ∀ c, more.head? = some c → Cursor.isNameChar c = false) :
    lexemes (s.text ++ (literal ++ more)) ≠ s.lexemes ++ others := by
  have nonempty : rest ≠ [] := by
    rintro rfl
    contradiction
  intro same
  cases absorbs with
  | string =>
    rw [lexemes_of_ne (by simp)] at same
    obtain ⟨after, whole, read⟩ := precedes_of_lexemes (by simp) same
    have follows := List.append_cancel_left whole
    cases precedes with
    | quoted quotes quoted =>
      cases quotes
      cases read with
      | quoted quotes read =>
        cases quotes
        exact (quoted_iff_of_closed quoted nonempty).1 read (by rw [← follows]; rfl)
  | systemVariable name =>
    rw [lexemes_of_ne (by simp)] at same
    obtain ⟨after, whole, read⟩ := precedes_of_lexemes (by simp) same
    have follows := List.append_cancel_left whole
    cases read with
    | quoted quotes => cases quotes
    | systemVariable named =>
      have ends := named.2 _ (by rw [← follows]; rfl)
      rw [ends] at name
      contradiction
  | minus =>
    rw [List.cons_append, List.nil_append, List.cons_append, lexemes_cons] at same
    have kind := congrArg Span.kind (List.cons.inj same).1
    contradiction
  | @refused c name _ start =>
    cases precedes with
    | quoted quotes => cases quotes
    | refused _ named =>
      have single : (c :: name ++ (literal ++ more)).head? ≠ some '@' := by
        intro first
        obtain rfl : c = '@' := by simpa using first
        contradiction
      have accepted := next_sign single
      rw [List.dropWhile_append_of_pos named.1, if_neg] at accepted
      · rw [List.cons_append, lexemes_cons, accepted, Span.lexemes_plain] at same
        have kind := congrArg Span.kind (List.cons.inj same).1
        contradiction
      · rintro (none | first)
        · simp [start] at none
        · exact head?_dropWhile_written written apart unnamed first
    | sign _ _ unnamed =>
      rw [unnamed c rfl] at start
      contradiction
    | plain => contradiction

/-- A value that ends with an apostrophe is not read apart from a string after it. -/
theorem lexemes_doubled (written : Written literal) (last : literal.getLast? = some '\'')
    (first : rest.head? = some '\'') : lexemes (literal ++ rest) ≠ lexemes literal ++ others := by
  have string (body : Text) (others : List Span) (closes : Shape.closesQuote body = true) :
      lexemes ('\'' :: body ++ rest) ≠ ⟨.stringLiteral, '\'' :: body⟩ :: others := by
    intro same
    obtain ⟨after, whole, read⟩ := precedes_of_lexemes (by simp) same
    obtain rfl := List.append_cancel_left whole
    have follows : ['@'].head? ≠ some '\'' := by simp
    have closed := quoted_of_closesQuote closes follows
    cases read with
    | quoted quotes read =>
      cases quotes
      exact (quoted_iff_of_closed closed (by simp)).1 read first
  intro same
  cases written with
  | string closes =>
    rw [lexemes_string closes] at same
    exact string _ _ closes same
  | national closes =>
    rw [lexemes_national closes, List.cons_append, lexemes_cons_inert rfl] at same
    exact string _ _ closes (List.cons.inj same).2
  | number signed nonempty number =>
    rw [List.getLast?_append, List.getLast?_eq_some_getLast nonempty, Option.some_or] at last
    have member := List.getLast_mem nonempty
    rw [Option.some.inj last] at member
    exact absurd (number _ member) (by decide)

end SqlReplay
