import SqlReplay.Proofs.Distinct
import SqlReplay.Proofs.Sql.Precedes

/-! A statement as a list of lexemes: its spans with plain text cut into characters. Where one text
is put in front of another, the lexemes of both stay as they are unless the first character of the
second belongs to the last span of the first. -/

namespace SqlReplay

def Span.plainChar (c : Char) : Span := ⟨.plain, [c]⟩

def Span.lexemes (s : Span) : List Span := if s.kind = .plain then s.text.map plainChar else [s]

def lexemes (t : Text) : List Span := (spans t).flatMap Span.lexemes

@[simp] theorem lexemes_nil : lexemes [] = [] := by simp [lexemes]

theorem Span.lexemes_plain (t : Text) : Span.lexemes ⟨.plain, t⟩ = t.map plainChar := rfl

theorem lexemes_of_ne {kind : SpanKind} (marked : kind ≠ .plain) :
    Span.lexemes ⟨kind, t⟩ = [⟨kind, t⟩] :=
  if_neg marked

@[simp] theorem flatMap_text_map_plainChar (t : Text) :
    (t.map Span.plainChar).flatMap Span.text = t := by
  induction t with
  | nil => rfl
  | cons c rest ih => simp [Span.plainChar, ih]

@[simp] theorem Span.flatMap_text_lexemes (s : Span) : s.lexemes.flatMap Span.text = s.text := by
  unfold Span.lexemes
  split <;> simp

@[simp] theorem flatMap_text_lexemes (t : Text) : (lexemes t).flatMap Span.text = t := by
  rw [lexemes, List.flatMap_assoc]
  simp

theorem lexemes_cons (c : Char) (rest : Text) : lexemes (c :: rest) =
    Span.lexemes ⟨(Span.next c rest).1, c :: rest.take (Span.next c rest).2⟩ ++
      lexemes (rest.drop (Span.next c rest).2) := by
  rw [lexemes, spans_cons, List.flatMap_cons, lexemes]

theorem next_of_inert (inert : Span.isSpecial c = false) (rest : Text) :
    Span.next c rest = (.plain, Span.plainLength rest) := by
  obtain ⟨single, double, bracket, minus, slash, sign⟩ := isSpecial_eq_false_iff.1 inert
  rw [Span.next]
  · exact single
  · exact double
  · exact bracket
  · exact sign
  · exact fun _ same => absurd same minus
  · exact fun _ same => absurd same slash
  · exact fun _ same => absurd same sign

theorem lexemes_eq_takeWhile (t : Text) : lexemes t =
    (t.takeWhile (!Span.isSpecial ·)).map Span.plainChar ++
      lexemes (t.dropWhile (!Span.isSpecial ·)) := by
  cases t with
  | nil => rfl
  | cons c rest =>
    cases special : Span.isSpecial c with
    | true => simp [special]
    | false =>
      rw [lexemes_cons, next_of_inert special]
      simp [special, Span.plainLength, take_length_takeWhile, drop_length_takeWhile,
        Span.lexemes_plain]

theorem lexemes_inert (inert : Inert tail) (rest : Text) :
    lexemes (tail ++ rest) = tail.map Span.plainChar ++ lexemes rest := by
  have passes : ∀ c ∈ tail, (!Span.isSpecial c) = true := by
    intro c member
    simp [inert c member]
  rw [lexemes_eq_takeWhile (tail ++ rest), List.takeWhile_append_of_pos passes,
    List.dropWhile_append_of_pos passes, List.map_append, List.append_assoc,
    ← lexemes_eq_takeWhile]

theorem lexemes_of_inert (inert : Inert t) : lexemes t = t.map Span.plainChar := by
  simpa using lexemes_inert inert []

theorem lexemes_cons_inert (inert : Span.isSpecial c = false) (rest : Text) :
    lexemes (c :: rest) = Span.plainChar c :: lexemes rest :=
  lexemes_inert (inert_singleton inert) rest

theorem inert_of_precedes_plain (precedes : Precedes ⟨.plain, c :: tail⟩ rest) : Inert tail := by
  cases precedes with
  | quoted quotes => cases quotes
  | refused _ named => exact inert_of_named named
  | sign inert => exact inert
  | plain _ _ _ _ inert => exact inert

/-- A character that opens nothing is a lexeme. -/
theorem lexemes_cons_plain (plain : (Span.next c rest).1 = .plain) :
    lexemes (c :: rest) = Span.plainChar c :: lexemes rest := by
  have precedes := precedes_next c rest
  rw [plain] at precedes
  have tail := lexemes_inert (inert_of_precedes_plain precedes) (rest.drop (Span.next c rest).2)
  rw [List.take_append_drop] at tail
  rw [lexemes_cons, plain, Span.lexemes_plain, tail]
  rfl

theorem text_eq_cons_of_precedes (precedes : Precedes s rest) : ∃ c body, s.text = c :: body := by
  cases precedes <;> exact ⟨_, _, rfl⟩

/-- A span and the text that it precedes are read one after the other. -/
theorem lexemes_of_precedes (precedes : Precedes s rest) :
    lexemes (s.text ++ rest) = s.lexemes ++ lexemes rest := by
  obtain ⟨c, body, text⟩ := text_eq_cons_of_precedes precedes
  obtain ⟨kind, _⟩ := s
  obtain rfl := text
  by_cases plain : kind = .plain
  · subst plain
    rw [List.cons_append, lexemes_cons_plain (next_plain_of_precedes precedes),
      lexemes_inert (inert_of_precedes_plain precedes), Span.lexemes_plain]
    rfl
  · rw [List.cons_append, lexemes_cons, next_of_precedes precedes plain, List.take_append_length,
      List.drop_append_length]

/-- A first lexeme that is not plain text is the first span. -/
theorem precedes_of_lexemes {kind : SpanKind} (marked : kind ≠ .plain)
    (first : lexemes t = ⟨kind, text⟩ :: others) :
    ∃ rest, t = text ++ rest ∧ Precedes ⟨kind, text⟩ rest := by
  cases t with
  | nil => simp at first
  | cons c rest =>
    by_cases plain : (Span.next c rest).1 = .plain
    · rw [lexemes_cons_plain plain, List.cons.injEq] at first
      exact absurd (congrArg Span.kind first.1).symm marked
    · rw [lexemes_cons, lexemes_of_ne plain, List.singleton_append, List.cons.injEq] at first
      have precedes := precedes_next c rest
      rw [first.1] at precedes
      have whole : c :: rest.take (Span.next c rest).2 = text := congrArg Span.text first.1
      exact ⟨_, by rw [← whole, List.cons_append, List.take_append_drop], precedes⟩

/-- What is left of a text after its first lexemes is read as the other ones. -/
theorem lexemes_suffix (whole : lexemes t = firsts ++ others) :
    lexemes (others.flatMap Span.text) = others := by
  induction firsts generalizing t with
  | nil => rw [← (show lexemes t = others from whole), flatMap_text_lexemes]
  | cons first firsts ih =>
    cases t with
    | nil => simp at whole
    | cons c rest =>
      by_cases plain : (Span.next c rest).1 = .plain
      · rw [lexemes_cons_plain plain, List.cons_append, List.cons.injEq] at whole
        exact ih whole.2
      · rw [lexemes_cons, lexemes_of_ne plain, List.singleton_append, List.cons_append,
          List.cons.injEq] at whole
        exact ih whole.2

theorem Span.lexemes_filter (p : SpanKind → Bool) (plain : p .plain = false) (s : Span) :
    s.lexemes.filter (fun s => p s.kind) = [s].filter fun s => p s.kind := by
  unfold Span.lexemes
  split
  · next kind => simp [Span.plainChar, plain, kind]
  · rfl

/-- Spans other than plain text are among the lexemes as they are. -/
theorem lexemes_filter (p : SpanKind → Bool) (plain : p .plain = false) (t : Text) :
    (lexemes t).filter (fun s => p s.kind) = (spans t).filter fun s => p s.kind := by
  rw [lexemes, List.filter_flatMap]
  have each : ∀ s : Span, s.lexemes.filter (fun s => p s.kind) = [s].filter fun s => p s.kind :=
    Span.lexemes_filter p plain
  simp only [each]
  rw [← List.filter_flatMap, List.flatMap_singleton']

/-- The names of the placeholders among the lexemes, one for each place. -/
def names (ls : List Span) : List Reference :=
  (ls.filter (·.kind = .placeholder)).map fun s => .ofName s.text

theorem names_append (ls ms : List Span) : names (ls ++ ms) = names ls ++ names ms := by
  simp [names]

@[simp] theorem names_nil : names [] = [] := rfl

theorem names_eq_nil (none : ∀ s ∈ ls, s.kind ≠ .placeholder) : names ls = [] := by
  simpa [names] using none

theorem names_singleton {s : Span} (other : s.kind ≠ .placeholder) : names [s] = [] :=
  names_eq_nil (by simpa using other)

@[simp] theorem names_map_plainChar (t : Text) : names (t.map Span.plainChar) = [] := by
  simp [names, Span.plainChar]

theorem names_of_inert (inert : Inert t) : names (lexemes t) = [] := by
  rw [lexemes_of_inert inert, names_map_plainChar]

theorem names_lexemes (t : Text) : names (lexemes t) =
    ((spans t).filter (·.kind = .placeholder)).map fun s => .ofName s.text := by
  have kept := lexemes_filter (· = .placeholder) rfl t
  rw [names, kept]

theorem references_eq_names (t : Text) :
    references t = distinctBy Reference.key (names (lexemes t)) := by
  rw [names_lexemes, references_eq_distinctBy]

end SqlReplay
