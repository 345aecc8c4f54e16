import SqlReplay.Sql.Cursor

/-! A statement as a list of spans: quoted text, comments, variables and the plain text between
them. No character is lost, and no span is empty. -/

namespace SqlReplay

inductive SpanKind
  | stringLiteral | quotedIdentifier | bracketIdentifier | lineComment | blockComment
  | systemVariable | placeholder | plain
  deriving DecidableEq

def SpanKind.label : SpanKind → Text
  | .stringLiteral => "STRING_LITERAL"
  | .quotedIdentifier => "QUOTED_IDENTIFIER"
  | .bracketIdentifier => "BRACKET_IDENTIFIER"
  | .lineComment => "COMMENT_LINE"
  | .blockComment => "COMMENT_BLOCK"
  | .systemVariable => "SYSTEM_VARIABLE"
  | .placeholder => "PLACEHOLDER"
  | .plain => "TEXT"

structure Span where
  kind : SpanKind
  text : Text
  deriving DecidableEq

namespace Span

/-- Plain text runs up to the next of these, whether or not a span opens there. -/
def isSpecial (c : Char) : Bool :=
  c == '\'' || c == '"' || c == '[' || c == '-' || c == '/' || c == '@'

def plainLength (t : Text) : Nat := (t.takeWhile (!isSpecial ·)).length

/-- The name after an at sign, when it is not empty and no further at sign ends it. -/
def placeholderLength? (t : Text) : Option Nat :=
  match Cursor.nameLength t, t.dropWhile Cursor.isNameChar with
  | 0, _ => none
  | _, '@' :: _ => none
  | n, _ => some n

/-- The kind of the span that starts with `c`, and how many characters of `rest` belong to it. -/
def next (c : Char) (rest : Text) : SpanKind × Nat :=
  match c, rest with
  | '\'', _ => (.stringLiteral, Cursor.quotedLength '\'' rest)
  | '"', _ => (.quotedIdentifier, Cursor.quotedLength '"' rest)
  | '[', _ => (.bracketIdentifier, Cursor.quotedLength ']' rest)
  | '-', '-' :: more => (.lineComment, Cursor.lineLength more + 1)
  | '/', '*' :: more => (.blockComment, Cursor.blockLength more + 1)
  | '@', '@' :: more => (.systemVariable, Cursor.nameLength more + 1)
  | '@', _ =>
    match placeholderLength? rest with
    | some n => (.placeholder, n)
    | none => (.plain, plainLength rest)
  | _, _ => (.plain, plainLength rest)

end Span

def spans : Text → List Span
  | [] => []
  | c :: rest =>
    let (kind, length) := Span.next c rest
    ⟨kind, c :: rest.take length⟩ :: spans (rest.drop length)
termination_by t => t.length
decreasing_by simp only [List.length_drop, List.length_cons]; omega

@[simp] theorem spans_nil : spans [] = [] := by rw [spans]

theorem spans_cons (c : Char) (rest : Text) :
    spans (c :: rest) = ⟨(Span.next c rest).1, c :: rest.take (Span.next c rest).2⟩ ::
      spans (rest.drop (Span.next c rest).2) := by
  rw [spans]

@[simp] theorem flatMap_text_spans (t : Text) : (spans t).flatMap Span.text = t := by
  fun_induction spans t with
  | case1 => rfl
  | case2 c rest kind length _ ih => simp [ih]

theorem text_ne_nil_of_mem_spans {t : Text} {s : Span} (h : s ∈ spans t) : s.text ≠ [] := by
  fun_induction spans t with
  | case1 => simp at h
  | case2 c rest kind length _ ih =>
    rcases List.mem_cons.1 h with rfl | h
    · simp
    · exact ih h

/-- The spans with the offsets of their first character and of the one after their last. -/
def located (start : Nat) : List Span → List (SpanKind × Nat × Nat)
  | [] => []
  | s :: rest => (s.kind, start, start + s.text.length) :: located (start + s.text.length) rest

end SqlReplay
