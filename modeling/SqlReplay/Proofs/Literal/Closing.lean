import SqlReplay.Proofs.Literal.Room

/-! String literals as the classification and the scanner know them. The classification takes a
token for a string where the scanner, let loose on the token with something behind it, stops exactly
at the end of the token. -/

namespace SqlReplay

inductive StringForm
  | plain | national

namespace StringForm

def mark : StringForm → Text
  | .plain => []
  | .national => ['N']

def type : StringForm → Text → SqlType
  | .plain, s => stringType s
  | .national, s => .nvarchar (.ofLength SqlType.nvarcharLimit s.length)

def inner (form : StringForm) (token : Text) : Text :=
  (token.drop (form.mark.length + 1)).dropLast

/-- The token is given a type that strings of this form have. -/
def Takes (form : StringForm) (token : Text) : Prop :=
  ∃ s, (classify token).type? = some (form.type s)

end StringForm

/-- Pairs of neighbouring apostrophes, told apart from the left. -/
def quotePairs : Text → Nat
  | '\'' :: '\'' :: rest => quotePairs rest + 1
  | _ :: rest => quotePairs rest
  | [] => 0

theorem length_decodeString (t : Text) :
    (Shape.decodeString t).length + quotePairs t = t.length := by
  fun_induction Shape.decodeString t with
  | case1 rest ih =>
    rw [quotePairs, List.length_cons, List.length_cons, List.length_cons, ← ih]
    omega
  | case2 c rest single ih =>
    rw [quotePairs, List.length_cons, List.length_cons, ← ih]
    · omega
    · exact single
  | case3 => rfl

theorem quotePairs_doubleQuotes (s : Text) : quotePairs (doubleQuotes s) = s.count '\'' := by
  induction s with
  | nil => rfl
  | cons c s ih =>
    by_cases quote : c = '\''
    · subst quote
      rw [doubleQuotes_quote, quotePairs, List.count_cons_self, ih]
    · rw [doubleQuotes_other quote, List.count_cons_of_ne quote, quotePairs, ih]
      rintro rest rfl
      contradiction

theorem closesQuote_of_quoted (quoted : Quoted '\'' body rest) (follows : rest ≠ []) :
    Shape.closesQuote body = true := by
  induction quoted with
  | unclosed => contradiction
  | closed => rfl
  | doubled _ ih => exact ih follows
  | inside differs _ ih =>
    rw [Shape.closesQuote]
    · exact ih follows
    · exact differs

/-- With other text behind it a body is left at its end if and only if it is a string body. -/
theorem quotedLength_eq_iff (other : c ≠ '\'') (body : Text) :
    Cursor.quotedLength '\'' (body ++ [c]) = body.length ↔ Shape.closesQuote body = true := by
  constructor
  · intro ends
    have quoted := quoted_quotedLength '\'' (body ++ [c])
    rw [ends, List.take_left, List.drop_left] at quoted
    exact closesQuote_of_quoted quoted (List.cons_ne_nil _ _)
  · intro closes
    have apart : [c].head? ≠ some '\'' := by simpa using other
    exact quotedLength_append (quoted_of_closesQuote closes apart)

theorem quotedEnd_opened (k : Char) (start : Text) (opening : Char) (body : Text) :
    Cursor.quotedEnd k (start ++ opening :: body) start.length =
      start.length + 1 + Cursor.quotedLength k body := by
  have rest : (start ++ opening :: body).drop (start.length + 1) = body := by
    rw [List.drop_length_add_append]
    rfl
  rw [Cursor.quotedEnd, Cursor.endOf, rest, List.length_append, List.length_cons]
  omega

/-- The scanner stops at the end of the token exactly where the token is a string of the form. -/
theorem quotedEnd_eq_length_iff (form : StringForm) (other : c ≠ '\'') (t : Text) :
    (form.mark ++ ['\''] <+: t ∧
      Cursor.quotedEnd '\'' (t ++ [c]) form.mark.length = t.length) ↔
      ∃ s, t = form.mark ++ quoteString s := by
  constructor
  · rintro ⟨⟨body, rfl⟩, ends⟩
    rw [List.append_assoc, List.append_assoc, List.singleton_append, quotedEnd_opened] at ends
    have closes := (quotedLength_eq_iff other body).1 (by simp at ends; omega)
    obtain ⟨s, rfl⟩ := closesQuote_iff.1 closes
    exact ⟨s, by rw [List.append_assoc]; rfl⟩
  · rintro ⟨s, rfl⟩
    have closes := closesQuote_iff.2 ⟨s, rfl⟩
    have ends := (quotedLength_eq_iff other _).2 closes
    refine ⟨⟨doubleQuotes s ++ ['\''], by rw [List.append_assoc]; rfl⟩, ?_⟩
    rw [List.append_assoc, quoteString, List.cons_append, quotedEnd_opened, ends]
    simp
    omega

theorem inner_quoteString (form : StringForm) (s : Text) :
    form.inner (form.mark ++ quoteString s) = doubleQuotes s := by
  rw [StringForm.inner, List.drop_length_add_append, quoteString, List.drop_succ_cons,
    List.drop_zero, List.dropLast_concat]

/-- Plain strings alone have types without a measure, and national ones are alone with theirs. -/
theorem quoted_of_typed (typed : (classifyTrimmed t).type? = some type) :
    (¬type.IsMeasured → ∃ s, t = quoteString s) ∧
      ∀ size, type = .nvarchar size → ∃ s, t = 'N' :: quoteString s := by
  obtain ⟨v, spells⟩ := (sized_classifyTrimmed t).spelled type typed
  cases spells with
  | null null =>
    rw [classifyTrimmed_null null] at typed
    contradiction
  | national s =>
    rw [classifyTrimmed_national] at typed
    obtain rfl := Option.some.inj typed
    exact ⟨(absurd trivial ·), fun _ _ => ⟨s, rfl⟩⟩
  | string s =>
    rw [classifyTrimmed_string] at typed
    obtain rfl := Option.some.inj typed
    refine ⟨fun _ => ⟨s, rfl⟩, fun size same => ?_⟩
    have plain := not_isMeasured_stringType s
    rw [same] at plain
    exact absurd trivial plain
  | binary hex =>
    rw [classifyTrimmed_binary hex] at typed
    split at typed
    · obtain rfl := Option.some.inj typed
      exact ⟨(absurd trivial ·), nofun⟩
    · contradiction
  | integer signed filled digits =>
    rw [classifyTrimmed_integer signed filled digits] at typed
    split at typed
    · obtain rfl := Option.some.inj typed
      unfold SqlType.ofInteger
      split <;> exact ⟨(absurd trivial ·), nofun⟩
    · contradiction
  | decimal signed filled digits =>
    rw [classifyTrimmed_decimal signed filled digits] at typed
    split at typed
    · obtain rfl := Option.some.inj typed
      exact ⟨(absurd trivial ·), nofun⟩
    · contradiction

theorem classify_quoted (form : StringForm) (s : Text)
    (trimmed : Text.trim (form.mark ++ quoteString s) = form.mark ++ quoteString s) :
    classify (form.mark ++ quoteString s) = .typed (form.mark ++ quoteString s) (form.type s) := by
  rw [classify, trimmed]
  cases form with
  | plain => exact classifyTrimmed_string s
  | national => exact classifyTrimmed_national s

theorem takes_iff (form : StringForm) (trimmed : Text.trim t = t) :
    form.Takes t ↔ ∃ s, t = form.mark ++ quoteString s := by
  constructor
  · rintro ⟨s, typed⟩
    rw [classify, trimmed] at typed
    cases form with
    | plain => exact (quoted_of_typed typed).1 (not_isMeasured_stringType s)
    | national => exact (quoted_of_typed typed).2 _ rfl
  · rintro ⟨s, rfl⟩
    exact ⟨s, by rw [classify_quoted form s trimmed]; rfl⟩

/-- The classification takes a trimmed token for a string where the scanner stops at its end though
something follows. The type is then that of the decoded string, which is shorter than what stands
between the apostrophes by the pairs of apostrophes there; no apostrophe there is without a pair. -/
theorem string_forms_agree (form : StringForm) (t : Text) (c : Char) (trimmed : Text.trim t = t)
    (other : c ≠ '\'') :
    (form.Takes t ↔ form.mark ++ ['\''] <+: t ∧
      Cursor.quotedEnd '\'' (t ++ [c]) form.mark.length = t.length) ∧
    (form.Takes t →
      classify t = .typed t (form.type (Shape.decodeString (form.inner t))) ∧
      (Shape.decodeString (form.inner t)).length =
        (form.inner t).length - quotePairs (form.inner t) ∧
      (form.inner t).count '\'' = 2 * quotePairs (form.inner t)) := by
  rw [takes_iff form trimmed]
  refine ⟨(quotedEnd_eq_length_iff form other t).symm, ?_⟩
  rintro ⟨s, rfl⟩
  have decoded := length_decodeString (doubleQuotes s)
  rw [inner_quoteString, decodeString_doubleQuotes, quotePairs_doubleQuotes] at *
  exact ⟨classify_quoted form s trimmed, by omega, count_doubleQuotes s⟩

/-- Three apostrophes at the end are a pair and the closing one, and two of them close nothing. -/
theorem string_forms_agree_quotes :
    Text.trim "N'O''Brien'''" = "N'O''Brien'''" ∧ ',' ≠ '\'' ∧
      StringForm.national.Takes "N'O''Brien'''" ∧
      classify "N'O''Brien'''" = .typed "N'O''Brien'''" (.nvarchar (.exactly 8)) ∧
      Text.trim "'O''Brien''" = "'O''Brien''" ∧ ¬StringForm.plain.Takes "'O''Brien''" := by
  have trimmed : Text.trim "N'O''Brien'''" = "N'O''Brien'''" := by cbv
  have unclosed : Text.trim "'O''Brien''" = "'O''Brien''" := by cbv
  have apart : ',' ≠ '\'' := by decide
  have ends : Cursor.quotedEnd '\'' (("N'O''Brien'''" : Text) ++ [',']) 1 =
      ("N'O''Brien'''" : Text).length := by cbv
  have beyond : Cursor.quotedEnd '\'' (("'O''Brien''" : Text) ++ [',']) 0 ≠
      ("'O''Brien''" : Text).length := by cbv
  have closed := string_forms_agree .national "N'O''Brien'''" ',' trimmed apart
  have takes := closed.1.2 ⟨⟨_, rfl⟩, ends⟩
  have type : classify "N'O''Brien'''" = .typed "N'O''Brien'''" (.nvarchar (.exactly 8)) :=
    (closed.2 takes).1.trans (by cbv)
  refine ⟨trimmed, apart, takes, type, unclosed, ?_⟩
  intro taken
  exact beyond ((string_forms_agree .plain "'O''Brien''" ',' unclosed apart).1.1 taken).2

end SqlReplay
