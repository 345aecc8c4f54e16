import SqlReplay.Proofs.Sql.Precedes

/-! A statement read one character at a time. The reader is in code or inside quoted text or a
comment. The spans of a statement are runs of these modes, so no span begins or ends inside quoted
text or a comment. -/

namespace SqlReplay

/-- What a reader is inside of; quoted text is known by the character that closes it. -/
inductive ReaderMode
  | code
  | quoted (closing : Char)
  | lineComment
  | blockComment
  deriving DecidableEq

/-- The mode of every character. Delimiters have the mode of what they enclose, a closing character
that is doubled does not close, and the line feed after a line comment is code. -/
def modes : ReaderMode → Text → List ReaderMode
  | _, [] => []
  | .code, '\'' :: rest => .quoted '\'' :: modes (.quoted '\'') rest
  | .code, '"' :: rest => .quoted '"' :: modes (.quoted '"') rest
  | .code, '[' :: rest => .quoted ']' :: modes (.quoted ']') rest
  | .code, '-' :: '-' :: rest => .lineComment :: .lineComment :: modes .lineComment rest
  | .code, '/' :: '*' :: rest => .blockComment :: .blockComment :: modes .blockComment rest
  | .code, _ :: rest => .code :: modes .code rest
  | .quoted k, [_] => [.quoted k]
  | .quoted k, c :: d :: rest =>
    if c = k ∧ d = k then .quoted k :: .quoted k :: modes (.quoted k) rest
    else .quoted k :: modes (if c = k then .code else .quoted k) (d :: rest)
  | .lineComment, '\n' :: rest => .code :: modes .code rest
  | .lineComment, _ :: rest => .lineComment :: modes .lineComment rest
  | .blockComment, '*' :: '/' :: rest => .blockComment :: .blockComment :: modes .code rest
  | .blockComment, _ :: rest => .blockComment :: modes .blockComment rest

def SpanKind.mode : SpanKind → ReaderMode
  | .stringLiteral => .quoted '\''
  | .quotedIdentifier => .quoted '"'
  | .bracketIdentifier => .quoted ']'
  | .lineComment => .lineComment
  | .blockComment => .blockComment
  | .systemVariable | .placeholder | .plain => .code

@[simp] theorem modes_nil (m : ReaderMode) : modes m [] = [] := by cases m <;> rfl

theorem modes_quoted (quoted : Quoted k body rest) :
    modes (.quoted k) (body ++ rest) =
      List.replicate body.length (.quoted k) ++ modes .code rest := by
  induction quoted with
  | unclosed => rfl
  | @closed rest apart =>
    cases rest with
    | nil => simp [modes]
    | cons d more =>
      have other : d ≠ k := by simpa using apart
      simp [modes, other]
  | doubled _ ih => simp [modes, ih, List.replicate_succ]
  | @inside c body rest differs quoted ih =>
    cases whole : body ++ rest with
    | nil =>
      obtain ⟨rfl, rfl⟩ := List.append_eq_nil_iff.1 whole
      simp [modes]
    | cons d more =>
      rw [whole] at ih
      simp [modes, whole, differs, ih, List.replicate_succ]

theorem modes_lineComment (inside : '\n' ∉ body) (ends : ∀ c, rest.head? = some c → c = '\n') :
    modes .lineComment (body ++ rest) =
      List.replicate body.length .lineComment ++ modes .code rest := by
  induction body with
  | nil =>
    cases rest with
    | nil => rfl
    | cons c more => obtain rfl := ends c rfl; rfl
  | cons c body ih =>
    rw [List.mem_cons, not_or] at inside
    rw [List.cons_append, modes, ih inside.2]
    · rfl
    · exact fun feed => inside.1 feed.symm

theorem modes_blockComment (commented : Commented body rest) :
    modes .blockComment (body ++ rest) =
      List.replicate body.length .blockComment ++ modes .code rest := by
  induction commented with
  | unclosed => rfl
  | closed => rfl
  | @inside c body rest apart commented ih =>
    rw [List.cons_append, modes, ih]
    · rfl
    · exact not_closed_of_inside commented apart

theorem modes_code_cons (single : c ≠ '\'') (double : c ≠ '"') (bracket : c ≠ '[')
    (line : c = '-' → rest.head? ≠ some '-') (block : c = '/' → rest.head? ≠ some '*') :
    modes .code (c :: rest) = .code :: modes .code rest := by
  rw [modes]
  · exact single
  · exact double
  · exact bracket
  · rintro more rfl rfl; exact line rfl rfl
  · rintro more rfl rfl; exact block rfl rfl

/-- Outside the delimiters of spans the reader stays in code. -/
theorem modes_inert (inert : Inert tail) (rest : Text) :
    modes .code (tail ++ rest) = List.replicate tail.length .code ++ modes .code rest := by
  induction tail with
  | nil => rfl
  | cons c tail ih =>
    obtain ⟨single, double, bracket, minus, slash, _⟩ :=
      isSpecial_eq_false_iff.1 (inert c (List.mem_cons_self ..))
    rw [List.cons_append, modes_code_cons single double bracket (absurd · minus) (absurd · slash),
      ih fun d member => inert d (List.mem_cons_of_mem _ member)]
    rfl

theorem modes_sign (rest : Text) : modes .code ('@' :: rest) = .code :: modes .code rest :=
  modes_code_cons (by decide) (by decide) (by decide) (absurd · (by decide)) (absurd · (by decide))

/-- A span has one mode throughout, and reading is in code again where it ends. -/
theorem modes_of_precedes (precedes : Precedes s rest) :
    modes .code (s.text ++ rest) =
      List.replicate s.text.length s.kind.mode ++ modes .code rest := by
  cases precedes with
  | quoted quotes quoted =>
    cases quotes <;> simp [modes, modes_quoted quoted, SpanKind.mode, List.replicate_succ]
  | lineComment inside ends =>
    simp [modes, modes_lineComment inside ends, SpanKind.mode, List.replicate_succ]
  | blockComment commented =>
    simp [modes, modes_blockComment commented, SpanKind.mode, List.replicate_succ]
  | systemVariable named =>
    simp [modes_sign, modes_inert (inert_of_named named), SpanKind.mode, List.replicate_succ]
  | placeholder _ named | refused _ named =>
    simp [modes_sign, modes_inert (inert_of_named named), SpanKind.mode, List.replicate_succ]
  | sign inert =>
    simp [modes_sign, modes_inert inert, SpanKind.mode, List.replicate_succ]
  | plain single double bracket sign inert line block =>
    simp [modes_code_cons single double bracket line block, modes_inert inert, SpanKind.mode,
      List.replicate_succ]

theorem modes_eq_spans (t : Text) :
    modes .code t = (spans t).flatMap fun s => List.replicate s.text.length s.kind.mode := by
  induction t using spans_induction with
  | nil => simp
  | span s rest precedes scanned ih =>
    rw [modes_of_precedes precedes, scanned, List.flatMap_cons, ih]

end SqlReplay
