import SqlReplay.Proofs.Sql.Collapsed
import SqlReplay.Proofs.Sql.Modes

/-! The form that collapsing brings a statement to. Code has no line breaks but the line feeds that
end line comments, runs of blanks without a line break stay, and collapsing once more changes
nothing. -/

namespace SqlReplay

def SameLine (t : Text) : Prop := '\r' ∉ t ∧ '\n' ∉ t

/-- The same text, except that a space or a line feed may stand for each of its runs of blanks with
a line break. -/
inductive Rejoined : Text → Text → Prop
  | nil : Rejoined [] []
  | ink : isBlank c = false → Rejoined s t → Rejoined (c :: s) (c :: t)
  | kept : Blank run → run ≠ [] → (∀ c, s.head? = some c → isBlank c = false) → SameLine run →
      Rejoined s t → Rejoined (run ++ s) (run ++ t)
  | joined : Blank run → (∀ c, s.head? = some c → isBlank c = false) → ¬SameLine run →
      mark = ' ' ∨ mark = '\n' → Rejoined s t → Rejoined (run ++ s) (mark :: t)

/-- The same span, except for the line breaks of plain text. -/
inductive RejoinedSpan : Span → Span → Prop
  | plain : Rejoined s t → RejoinedSpan ⟨.plain, s⟩ ⟨.plain, t⟩
  | marked : s.kind ≠ .plain → RejoinedSpan s s

/-- Outside quoted text and comments every line break is a line feed of plain text, with a line
comment right before it and no blank right after it. -/
def OneLine (t : Text) : Prop :=
  ∀ before s after left c right, spans t = before ++ s :: after → s.kind.mode = .code →
    s.text = left ++ c :: right → (c = '\r' ∨ c = '\n') →
    s.kind = .plain ∧ c = '\n' ∧ left = [] ∧
      before.getLast?.map Span.kind = some .lineComment ∧
      ∀ d, (right ++ after.flatMap Span.text).head? = some d → isBlank d = false

theorem sameLine_nil : SameLine [] := by simp [SameLine]

theorem sameLine_cons_iff : SameLine (c :: t) ↔ (c ≠ '\r' ∧ c ≠ '\n') ∧ SameLine t := by
  rw [SameLine, List.mem_cons, List.mem_cons, not_or, not_or, ← ne_eq, ← ne_eq, ne_comm,
    ne_comm (a := '\n')]
  exact and_and_and_comm

theorem sameLine_append_iff : SameLine (s ++ t) ↔ SameLine s ∧ SameLine t := by
  rw [SameLine, List.mem_append, List.mem_append, not_or, not_or]
  exact and_and_and_comm

theorem not_break_of_ink (ink : isBlank c = false) : c ≠ '\r' ∧ c ≠ '\n' := by
  constructor
  all_goals rintro rfl; contradiction

namespace Collapse

theorem breaksLine_iff : breaksLine run = true ↔ ¬SameLine run := by
  rw [SameLine, ← not_or, not_not, breaksLine, List.any_eq_true]
  constructor
  · rintro ⟨c, member, breaks⟩
    rcases Bool.or_eq_true .. ▸ breaks with same | same
    · exact .inl (beq_iff_eq.1 same ▸ member)
    · exact .inr (beq_iff_eq.1 same ▸ member)
  · rintro (member | member)
    · exact ⟨_, member, rfl⟩
    · exact ⟨_, member, rfl⟩

theorem blankRun_kept (afterComment : Bool) (whole : SameLine run) :
    blankRun afterComment run = run := by
  rw [blankRun, if_neg fun breaks => breaksLine_iff.1 breaks whole]

theorem blankRun_joined (afterComment : Bool) (broken : ¬SameLine run) :
    blankRun afterComment run = if afterComment then ['\n'] else [' '] := by
  rw [blankRun, if_pos (breaksLine_iff.2 broken)]

theorem blankRun_blankRun (afterComment : Bool) (run : Text) :
    blankRun afterComment (blankRun afterComment run) = blankRun afterComment run := by
  by_cases whole : SameLine run
  · rw [blankRun_kept afterComment whole, blankRun_kept afterComment whole]
  · rw [blankRun_joined afterComment whole]
    cases afterComment <;> rfl

theorem sameLine_blankRun (run : Text) : SameLine (blankRun false run) := by
  by_cases whole : SameLine run
  · rwa [blankRun_kept false whole]
  · rw [blankRun_joined false whole]
    simp [SameLine]

theorem head?_plain (afterComment : Bool) (ends : ∀ c, t.head? = some c → isBlank c = false) :
    (plain afterComment t).head? = t.head? := by
  cases t with
  | nil => simp
  | cons c t => rw [plain_ink afterComment (ends c rfl), List.head?_cons, List.head?_cons]

theorem plain_plain (afterComment : Bool) (t : Text) :
    plain afterComment (plain afterComment t) = plain afterComment t := by
  induction t using runs_induction generalizing afterComment with
  | nil => simp
  | ink c t ink ih => rw [plain_ink afterComment ink, plain_ink afterComment ink, ih]
  | run run t blank nonempty ends ih =>
    have start := head?_plain false ends
    rw [plain_run afterComment blank nonempty ends,
      plain_run afterComment (blank_blankRun afterComment blank)
        (blankRun_ne_nil afterComment nonempty) (start ▸ ends), blankRun_blankRun, ih]

theorem rejoined_plain (afterComment : Bool) (t : Text) : Rejoined t (plain afterComment t) := by
  induction t using runs_induction generalizing afterComment with
  | nil =>
    rw [plain_nil]
    exact .nil
  | ink c t ink ih =>
    rw [plain_ink afterComment ink]
    exact .ink ink (ih false)
  | run run t blank nonempty ends ih =>
    rw [plain_run afterComment blank nonempty ends]
    by_cases whole : SameLine run
    · rw [blankRun_kept afterComment whole]
      exact .kept blank nonempty ends whole (ih false)
    · rw [blankRun_joined afterComment whole]
      cases afterComment
      · exact .joined blank ends whole (.inl rfl) (ih false)
      · exact .joined blank ends whole (.inr rfl) (ih false)

theorem sameLine_plain (t : Text) : SameLine (plain false t) := by
  induction t using runs_induction with
  | nil =>
    rw [plain_nil]
    exact sameLine_nil
  | ink c t ink ih =>
    rw [plain_ink false ink]
    exact sameLine_cons_iff.2 ⟨not_break_of_ink ink, ih⟩
  | run run t blank nonempty ends ih =>
    rw [plain_run false blank nonempty ends]
    exact sameLine_append_iff.2 ⟨sameLine_blankRun run, ih⟩

/-- At most the first run of blanks keeps a line break, and only after a comment. -/
theorem plain_cases (afterComment : Bool) (t : Text) :
    SameLine (plain afterComment t) ∨
      afterComment = true ∧ ∃ rest, plain afterComment t = '\n' :: rest ∧ SameLine rest ∧
        ∀ c, rest.head? = some c → isBlank c = false := by
  induction t using runs_induction with
  | nil =>
    rw [plain_nil]
    exact .inl sameLine_nil
  | ink c t ink =>
    rw [plain_ink afterComment ink]
    exact .inl (sameLine_cons_iff.2 ⟨not_break_of_ink ink, sameLine_plain t⟩)
  | run run t blank nonempty ends =>
    have later := sameLine_plain t
    rw [plain_run afterComment blank nonempty ends]
    by_cases whole : SameLine run
    · rw [blankRun_kept afterComment whole]
      exact .inl (sameLine_append_iff.2 ⟨whole, later⟩)
    · rw [blankRun_joined afterComment whole]
      cases afterComment with
      | false => exact .inl (sameLine_cons_iff.2 ⟨by decide, later⟩)
      | true => exact .inr ⟨rfl, _, rfl, later, head?_plain false ends ▸ ends⟩

theorem break_of_plain (parts : plain afterComment t = left ++ c :: right)
    (breaks : c = '\r' ∨ c = '\n') :
    afterComment = true ∧ left = [] ∧ c = '\n' ∧
      ∀ d, right.head? = some d → isBlank d = false := by
  have broken : ∀ s : Text, ¬SameLine (s ++ c :: right) := by
    intro s whole
    have apart := (sameLine_cons_iff.1 (sameLine_append_iff.1 whole).2).1
    exact breaks.elim apart.1 apart.2
  rcases plain_cases afterComment t with whole | ⟨comment, rest, start, whole, ends⟩
  · rw [parts] at whole
    exact absurd whole (broken left)
  · rw [start] at parts
    cases left with
    | nil =>
      obtain ⟨rfl, rfl⟩ := List.cons.inj parts
      exact ⟨comment, rfl, rfl, ends⟩
    | cons d left =>
      obtain ⟨-, rfl⟩ := List.cons.inj parts
      exact absurd whole (broken left)

theorem rejoined_onSpan (afterComment : Bool) (s : Span) :
    RejoinedSpan s (onSpan afterComment s) := by
  obtain ⟨kind, text⟩ := s
  unfold onSpan
  split
  · next unmarked =>
    obtain rfl : kind = .plain := unmarked
    exact .plain (rejoined_plain afterComment text)
  · next marked => exact .marked marked

theorem fromSpans_onSpans (afterComment : Bool) (ss : List Span) :
    fromSpans afterComment (onSpans afterComment ss) = fromSpans afterComment ss := by
  induction ss generalizing afterComment with
  | nil => rfl
  | cons s ss ih =>
    by_cases unmarked : s.kind = .plain
    · simp [onSpans, onSpan, fromSpans, unmarked, plain_plain, ih]
    · simp [onSpans, onSpan, fromSpans, unmarked, ih]

@[simp] theorem kind_onSpan (afterComment : Bool) (s : Span) :
    (onSpan afterComment s).kind = s.kind := by
  unfold onSpan
  split
  · next unmarked => exact unmarked.symm
  · rfl

/-- A span of the collapsed text comes from a span, and is after a comment if the span before it is
one. -/
theorem onSpans_eq_append (parts : onSpans afterComment ss = before ++ s :: after) :
    ∃ flag original, s = onSpan flag original ∧ (flag = true →
      before = [] ∧ afterComment = true ∨ before.getLast?.map Span.kind = some .lineComment) := by
  induction before generalizing afterComment ss with
  | nil =>
    cases ss with
    | nil => contradiction
    | cons o ss =>
      obtain ⟨rfl, -⟩ := List.cons.inj parts
      exact ⟨afterComment, o, rfl, fun comment => .inl ⟨rfl, comment⟩⟩
  | cons b before ih =>
    cases ss with
    | nil => contradiction
    | cons o ss =>
      obtain ⟨rfl, later⟩ := List.cons.inj parts
      obtain ⟨flag, original, same, comes⟩ := ih later
      refine ⟨flag, original, same, fun comment => .inr ?_⟩
      rcases comes comment with ⟨rfl, line⟩ | line
      · simpa using line
      · obtain ⟨last, found, kind⟩ := Option.map_eq_some_iff.1 line
        simp [List.getLast?_cons, found, kind]

end Collapse

/-- In code only plain text has line breaks. -/
theorem plain_of_break (member : s ∈ spans t) (code : s.kind.mode = .code) (inside : c ∈ s.text)
    (breaks : c = '\r' ∨ c = '\n') : s.kind = .plain := by
  have blank : isBlank c = true := by rcases breaks with rfl | rfl <;> rfl
  have unnamed : ∀ name, (∀ d ∈ name, Cursor.isNameChar d = true) → c ∉ '@' :: name := by
    intro name named among
    rcases List.mem_cons.1 among with rfl | among
    · contradiction
    · have ink := isBlank_of_isNameChar (named c among)
      rw [blank] at ink
      contradiction
  obtain ⟨rest, precedes⟩ := precedes_of_mem_spans member
  cases precedes with
  | quoted quotes => cases quotes <;> contradiction
  | lineComment | blockComment => contradiction
  | @systemVariable name _ named =>
    rcases List.mem_cons.1 inside with rfl | among
    · contradiction
    · exact absurd among (unnamed name named.1)
  | @placeholder name _ nonempty named => exact absurd inside (unnamed name named.1)
  | refused | sign | plain => rfl

theorem special_of_spans (parts : spans t = before ++ ⟨.plain, text⟩ :: after) :
    ∀ c, (after.flatMap Span.text).head? = some c → Span.isSpecial c = true := by
  induction t using spans_induction generalizing before with
  | nil => simp at parts
  | span s rest precedes scanned ih =>
    cases before with
    | nil =>
      rw [scanned] at parts
      obtain ⟨rfl, rfl⟩ := List.cons.inj parts
      rw [flatMap_text_spans]
      exact stops_of_scanned scanned precedes
    | cons b before =>
      rw [scanned] at parts
      exact ih (List.cons.inj parts).2

theorem oneLine_collapseLineBreaks (sql : Text) : OneLine (collapseLineBreaks sql) := by
  intro before s after left c right parts code text breaks
  have member : s ∈ spans (collapseLineBreaks sql) := by simp [parts]
  have kind := plain_of_break member code (by simp [text]) breaks
  obtain ⟨flag, original, rfl, comes⟩ :=
    Collapse.onSpans_eq_append ((Collapse.spans_fromSpans false sql).2.symm.trans parts)
  have unmarked : original.kind = .plain := by simpa using kind
  rw [Collapse.onSpan, if_pos unmarked] at text parts
  obtain ⟨comment, nothing, feed, ends⟩ := Collapse.break_of_plain text breaks
  refine ⟨kind, feed, nothing, by simpa using comes comment, ?_⟩
  intro d first
  -- Where the line feed ends its span, what follows is what cut the plain text there.
  cases right with
  | nil => exact isBlank_of_isSpecial (special_of_spans parts d first)
  | cons e right => exact ends d first

/-- Collapsing brings a statement to one line: blanks without a line break stay as they are, and
collapsing once more changes nothing. -/
theorem collapse_normalizes (sql : Text) :
    OneLine (collapseLineBreaks sql) ∧
      List.Forall₂ RejoinedSpan (spans sql) (spans (collapseLineBreaks sql)) ∧
      collapseLineBreaks (collapseLineBreaks sql) = collapseLineBreaks sql := by
  have again : spans (collapseLineBreaks sql) = Collapse.onSpans false (spans sql) :=
    (Collapse.spans_fromSpans false sql).2
  refine ⟨oneLine_collapseLineBreaks sql, ?_, ?_⟩
  · rw [again]
    exact Collapse.forall₂_onSpans Collapse.rejoined_onSpan false (spans sql)
  · calc
      collapseLineBreaks (collapseLineBreaks sql)
      _ = Collapse.fromSpans false (spans (collapseLineBreaks sql)) := rfl
      _ = Collapse.fromSpans false (Collapse.onSpans false (spans sql)) := by rw [again]
      _ = Collapse.fromSpans false (spans sql) := Collapse.fromSpans_onSpans false (spans sql)

end SqlReplay
