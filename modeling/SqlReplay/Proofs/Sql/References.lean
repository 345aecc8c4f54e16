import SqlReplay.Proofs.Sql.Lexemes
import SqlReplay.Proofs.Sql.Detection

/-! The references of a statement: their names are names, their keys are distinct, the order of
declaration only rearranges them, and trimming the statement changes none. -/

namespace SqlReplay

theorem precedes_of_mem_spans (member : s ∈ spans t) : ∃ rest, Precedes s rest := by
  induction t using spans_induction with
  | nil => simp at member
  | span first rest precedes scanned ih =>
    rw [scanned] at member
    rcases List.mem_cons.1 member with rfl | member
    · exact ⟨rest, precedes⟩
    · exact ih member

/-- The name of a placeholder as it is written: a sign, and a name that is not empty. -/
def IsReference (r : Reference) : Prop :=
  ∃ name, r = .ofName ('@' :: name) ∧ name ≠ [] ∧ ∀ c ∈ name, Cursor.isNameChar c = true

theorem isReference_of_mem_names (member : r ∈ names (lexemes t)) : IsReference r := by
  rw [names_lexemes, List.mem_map] at member
  obtain ⟨⟨kind, text⟩, among, rfl⟩ := member
  obtain ⟨found, placeholder⟩ := List.mem_filter.1 among
  obtain rfl : kind = .placeholder := by simpa using placeholder
  obtain ⟨rest, precedes⟩ := precedes_of_mem_spans found
  cases precedes with
  | quoted quotes => cases quotes
  | placeholder nonempty named => exact ⟨_, rfl, nonempty, named.1⟩

theorem isReference_of_mem_references (member : r ∈ references t) : IsReference r := by
  rw [references_eq_names] at member
  exact isReference_of_mem_names (mem_of_mem_distinctBy _ _ member)

theorem references_distinct (t : Text) : ((references t).map Reference.key).Nodup := by
  rw [references_eq_names]
  exact nodup_distinctBy _ _

theorem occurrences_eq_names (t : Text) :
    (occurrences t).map Occurrence.reference = names (lexemes t) := by
  rw [occurrences_reference, names_lexemes]

theorem filterMap_numericKey (rs : List Reference) :
    (rs.filterMap fun r => r.numericKey?.map (·, r)).map Prod.snd =
      rs.filter fun r => !r.numericKey?.isNone := by
  induction rs with
  | nil => rfl
  | cons r rs ih => cases key : r.numericKey? <;> simp [key, ih]

/-- The order of declaration leaves no reference out and repeats none. -/
theorem declarationOrder_perm (rs : List Reference) : (Reference.declarationOrder rs).Perm rs := by
  have sorted := (List.mergeSort_perm (rs.filterMap fun r => r.numericKey?.map (·, r))
    fun a b => Reference.numericLe a.1 b.1).map Prod.snd
  rw [filterMap_numericKey] at sorted
  have parts := (List.perm_append_comm.trans (sorted.append_left
    (rs.filter fun r => r.numericKey?.isNone)))
  exact parts.trans (List.filter_append_perm _ rs)

theorem declarationOrder_distinct (t : Text) :
    ((Reference.declarationOrder (references t)).map Reference.key).Nodup :=
  ((declarationOrder_perm _).map _).nodup_iff.2 (references_distinct t)

theorem inert_of_blank (blank : Blank t) : Inert t :=
  fun c member => isSpecial_of_isBlank (blank c member)

theorem quoted_append_blank (quoted : Quoted k body []) (blank : Blank after)
    (apart : isBlank k = false) :
    ∃ more rest, after = more ++ rest ∧ Quoted k (body ++ more) rest := by
  have none : ∀ c ∈ after, c ≠ k := by
    rintro c member rfl
    rw [blank c member] at apart
    contradiction
  generalize ends : ([] : Text) = rest at quoted
  induction quoted with
  | unclosed =>
    refine ⟨after, [], (List.append_nil _).symm, ?_⟩
    clear blank
    induction after with
    | nil => exact .unclosed
    | cons c after ih =>
      exact .inside (none c (List.mem_cons_self ..))
        (ih fun d member => none d (List.mem_cons_of_mem _ member))
  | closed =>
    refine ⟨[], after, rfl, .closed ?_⟩
    intro first
    exact none k (List.mem_of_mem_head? first) rfl
  | doubled _ ih =>
    obtain ⟨more, rest, parts, quoted⟩ := ih ends
    exact ⟨more, rest, parts, .doubled quoted⟩
  | inside differs _ ih =>
    obtain ⟨more, rest, parts, quoted⟩ := ih ends
    exact ⟨more, rest, parts, .inside differs quoted⟩

theorem commented_append_blank (commented : Commented body []) (blank : Blank after) :
    ∃ more rest, after = more ++ rest ∧ Commented (body ++ more) rest := by
  have none : ∀ c ∈ after, c ≠ '*' ∧ c ≠ '/' := by
    intro c member
    constructor
    all_goals rintro rfl; exact absurd (blank _ member) (by decide)
  generalize ends : ([] : Text) = rest at commented
  induction commented with
  | unclosed =>
    refine ⟨after, [], (List.append_nil _).symm, ?_⟩
    clear blank
    induction after with
    | nil => exact .unclosed
    | cons c after ih =>
      refine .inside ?_ (ih fun d member => none d (List.mem_cons_of_mem _ member))
      exact fun star => absurd star (none c (List.mem_cons_self ..)).1
  | closed => exact ⟨[], after, rfl, .closed⟩
  | @inside c body _ apart _ ih =>
    obtain ⟨more, rest, parts, commented⟩ := ih ends
    refine ⟨more, rest, parts, .inside ?_ commented⟩
    intro star
    cases body with
    | nil =>
      intro first
      have member : '/' ∈ after := parts ▸ List.mem_append_left _ (List.mem_of_mem_head? first)
      exact (none '/' member).2 rfl
    | cons d body => exact apart star

theorem head?_append_blank (blank : Blank after) (first : (tail ++ after).head? = some c) :
    tail.head? = some c ∨ isBlank c = true := by
  cases tail with
  | nil => exact .inr (blank c (List.mem_of_mem_head? first))
  | cons d tail => exact .inl first

theorem named_append_blank (named : Named name []) (blank : Blank after) : Named name after := by
  refine ⟨named.1, ?_⟩
  intro c first
  exact isNameChar_of_isBlank (blank c (List.mem_of_mem_head? first))

/-- Of the blanks after a last span some may belong to it, if it is quoted text or a comment. -/
theorem precedes_append_blank (precedes : Precedes s []) (blank : Blank after) :
    ∃ more rest, after = more ++ rest ∧ Precedes ⟨s.kind, s.text ++ more⟩ rest ∧
      (s.kind = .placeholder → more = []) := by
  cases precedes with
  | @quoted kind opening closing body _ quotes quoted =>
    have ink : isBlank closing = false := by cases quotes <;> rfl
    obtain ⟨more, rest, parts, quoted⟩ := quoted_append_blank quoted blank ink
    refine ⟨more, rest, parts, .quoted quotes quoted, ?_⟩
    rintro rfl
    cases quotes
  | @lineComment body _ inside =>
    refine ⟨after.takeWhile (· ≠ '\n'), after.dropWhile (· ≠ '\n'),
      List.takeWhile_append_dropWhile.symm, .lineComment ?_ ?_, nofun⟩
    · intro member
      rcases List.mem_append.1 member with member | member
      · exact inside member
      · simpa using List.mem_takeWhile_imp member
    · intro c first
      simpa using head?_dropWhile_false first
  | blockComment commented =>
    obtain ⟨more, rest, parts, commented⟩ := commented_append_blank commented blank
    exact ⟨more, rest, parts, .blockComment commented, nofun⟩
  | systemVariable named =>
    refine ⟨[], after, rfl, ?_, fun _ => rfl⟩
    rw [List.append_nil]
    exact .systemVariable (named_append_blank named blank)
  | placeholder nonempty named =>
    refine ⟨[], after, rfl, ?_, fun _ => rfl⟩
    rw [List.append_nil]
    refine .placeholder nonempty (named_append_blank named blank) ?_
    intro first
    exact absurd (blank '@' (List.mem_of_mem_head? first)) (by decide)
  | refused _ _ follows => contradiction
  | @sign tail _ inert apart unnamed =>
    rw [List.append_nil] at apart unnamed
    refine ⟨[], after, rfl, ?_, fun _ => rfl⟩
    rw [List.append_nil]
    refine .sign inert ?_ ?_
    · intro first
      rcases head?_append_blank blank first with first | sign
      · exact apart first
      · contradiction
    · intro c first
      rcases head?_append_blank blank first with first | space
      · exact unnamed c first
      · exact isNameChar_of_isBlank space
  | @plain c tail _ single double bracket sign inert line block =>
    rw [List.append_nil] at line block
    refine ⟨[], after, rfl, ?_, fun _ => rfl⟩
    rw [List.append_nil]
    refine .plain single double bracket sign inert ?_ ?_
    · intro minus first
      rcases head?_append_blank blank first with first | space
      · exact line minus first
      · contradiction
    · intro slash first
      rcases head?_append_blank blank first with first | space
      · exact block slash first
      · contradiction

theorem names_of_precedes (precedes : Precedes s rest) :
    names (lexemes (s.text ++ rest)) = names [s] ++ names (lexemes rest) := by
  rw [lexemes_of_precedes precedes, names_append]
  unfold Span.lexemes
  split
  · next plain => rw [names_map_plainChar, names_singleton (by simp [plain])]
  · rfl

/-- Blanks at the end of a text change none of its placeholders. -/
theorem names_append_blank (t : Text) (blank : Blank after) :
    names (lexemes (t ++ after)) = names (lexemes t) := by
  induction t using spans_induction with
  | nil =>
    rw [List.nil_append, names_of_inert (inert_of_blank blank), lexemes_nil, names_nil]
  | span s rest precedes scanned ih =>
    rw [names_of_precedes precedes, List.append_assoc]
    by_cases empty : rest = []
    · subst empty
      obtain ⟨more, left, parts, taken, placeholder⟩ := precedes_append_blank precedes blank
      have read := names_of_precedes taken
      have outside : Blank left := fun c member => blank c (parts ▸ List.mem_append_right _ member)
      rw [List.nil_append, parts, ← List.append_assoc, read,
        names_of_inert (inert_of_blank outside), List.append_nil]
      by_cases kind : s.kind = .placeholder
      · rw [placeholder kind, List.append_nil, lexemes_nil, names_nil, List.append_nil]
      · have longer : names [⟨s.kind, s.text ++ more⟩] = [] := names_singleton kind
        rw [longer, names_singleton kind, lexemes_nil]
        rfl
    · have first : (rest ++ after).head? = rest.head? := by
        obtain ⟨c, more, rfl⟩ := List.exists_cons_of_ne_nil empty
        rfl
      rw [names_of_precedes (precedes.congr first), ih]

theorem names_trim (t : Text) : names (lexemes (Text.trim t)) = names (lexemes t) := by
  obtain ⟨before, after, parts, left, right, _⟩ := trim_spec t
  have whole := names_append_blank (before ++ Text.trim t) right
  rw [← parts, lexemes_inert (inert_of_blank left), names_append, names_map_plainChar] at whole
  exact whole.symm

end SqlReplay
