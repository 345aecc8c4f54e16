import Mathlib
import SqlReplay.Proofs.Exec.Registry
import SqlReplay.Proofs.Sql.References
import SqlReplay.Proofs.Sql.Seam

/-! A statement with values in the places of its placeholders. The code around the values is read
as before exactly where no two neighbouring spans clash: the value of a placeholder is put next to
them with nothing in between, so it may be read together with what stands there. -/

namespace SqlReplay

namespace Span

/-- The value that replaces the span, if it is a placeholder that has one. -/
def literal? (value? : Text → Option Text) (s : Span) : Option Text :=
  if s.kind = .placeholder then value? (Text.lower s.text) else none

def substituted (value? : Text → Option Text) (s : Span) : Text := (s.literal? value?).getD s.text

/-- The lexemes of the span, or those of its value by itself. -/
def replaced (value? : Text → Option Text) (s : Span) : List Span :=
  match s.literal? value? with
  | some literal => SqlReplay.lexemes literal
  | none => s.lexemes

end Span

/-- Two neighbouring spans are read otherwise with their values: one absorbs the value after it, or
the last apostrophe of a value meets a string. -/
inductive Clash (value? : Text → Option Text) : Span → Span → Prop
  | absorbed : b.literal? value? = some literal → Absorbs a literal → Clash value? a b
  | doubled : a.literal? value? = some literal → literal.getLast? = some '\'' →
      b.kind = .stringLiteral → Clash value? a b

section

variable {value? : Text → Option Text}

theorem placeholder_of_literal? {s : Span} (found : s.literal? value? = some literal) :
    s.kind = .placeholder ∧ value? (Text.lower s.text) = some literal := by
  unfold Span.literal? at found
  split at found
  · next kind => exact ⟨kind, found⟩
  · contradiction

theorem substitute_eq (sql : Text) :
    substitute value? sql = (spans sql).flatMap (Span.substituted value?) := by
  rw [substitute]
  refine List.flatMap_congr ?_
  intro s _
  unfold Span.substituted Span.literal?
  split <;> rfl

theorem substitute_of_scanned (scanned : spans t = s :: spans rest) :
    substitute value? t = s.substituted value? ++ substitute value? rest := by
  rw [substitute_eq, substitute_eq, scanned, List.flatMap_cons]

theorem flatMap_text_replaced (s : Span) :
    (s.replaced value?).flatMap Span.text = s.substituted value? := by
  unfold Span.replaced Span.substituted
  cases s.literal? value? <;> simp

/-- A text has no span, or it is a first span and what that precedes. -/
theorem spans_cases (t : Text) : t = [] ∨
    ∃ s rest, t = s.text ++ rest ∧ Precedes s rest ∧ spans t = s :: spans rest := by
  induction t using spans_induction with
  | nil => exact .inl rfl
  | span s rest precedes scanned => exact .inr ⟨s, rest, rfl, precedes, scanned⟩

theorem head?_append_of_precedes (precedes : Precedes s rest) (other : Text) :
    (s.text ++ other).head? = s.text.head? := by
  obtain ⟨c, body, text⟩ := text_eq_cons_of_precedes precedes
  rw [text]
  rfl

theorem head?_of_placeholder (precedes : Precedes s rest) (kind : s.kind = .placeholder) :
    s.text.head? = some '@' := by
  cases precedes with
  | quoted quotes => cases quotes <;> contradiction
  | placeholder => rfl
  | lineComment | blockComment | systemVariable | refused | sign | plain => contradiction

theorem head?_quote_iff (precedes : Precedes s rest) :
    s.text.head? = some '\'' ↔ s.kind = .stringLiteral := by
  cases precedes with
  | quoted quotes => cases quotes <;> simp
  | plain single => simp [single]
  | lineComment | blockComment | systemVariable | placeholder | refused | sign => simp

/-- Values change the first character only where a placeholder with a value comes first. -/
theorem head?_substitute (value? : Text → Option Text)
    (free : ∀ s, (spans t).head? = some s → s.literal? value? = none) :
    (substitute value? t).head? = t.head? := by
  rcases spans_cases t with rfl | ⟨s, rest, rfl, precedes, scanned⟩
  · simp [substitute]
  · have same : s.substituted value? = s.text := by
      rw [Span.substituted, free s (by rw [scanned]; rfl)]
      rfl
    rw [substitute_of_scanned scanned, same, head?_append_of_precedes precedes,
      head?_append_of_precedes precedes]

theorem head?_substitute_of_ne (value? : Text → Option Text) (apart : t.head? ≠ some '@') :
    (substitute value? t).head? = t.head? := by
  refine head?_substitute value? ?_
  intro s first
  rcases spans_cases t with rfl | ⟨b, rest, rfl, precedes, scanned⟩
  · simp at first
  · obtain rfl : b = s := by simpa [scanned] using first
    cases found : b.literal? value? with
    | none => rfl
    | some literal =>
      have sign := head?_of_placeholder precedes (placeholder_of_literal? found).1
      rw [head?_append_of_precedes precedes, sign] at apart
      exact absurd rfl apart

/-- The seam after a span that is not replaced. -/
theorem seam_before (values : ∀ key literal, value? key = some literal → Written literal)
    (precedes : Precedes s rest) (kept : s.literal? value? = none) :
    lexemes (s.text ++ substitute value? rest) = s.lexemes ++ lexemes (substitute value? rest) ↔
      ∀ b, (spans rest).head? = some b → ¬Clash value? s b := by
  rcases spans_cases rest with rfl | ⟨b, more, rfl, next, scanned⟩
  · simpa [substitute] using lexemes_of_precedes precedes
  · rw [scanned, List.head?_cons]
    cases found : b.literal? value? with
    | none =>
      have first : (substitute value? (b.text ++ more)).head? = (b.text ++ more).head? := by
        refine head?_substitute value? ?_
        rw [scanned]
        rintro _ ⟨⟩
        exact found
      refine iff_of_true (lexemes_of_precedes (precedes.congr first)) ?_
      rintro _ ⟨⟩ (⟨value, _⟩ | ⟨value, _⟩)
      · rw [found] at value; contradiction
      · rw [kept] at value; contradiction
    | some literal =>
      obtain ⟨kind, value⟩ := placeholder_of_literal? found
      have written := values _ _ value
      have sign := head?_of_placeholder next kind
      rw [← head?_append_of_precedes next more] at sign
      have pasted : substitute value? (b.text ++ more) = literal ++ substitute value? more := by
        rw [substitute_of_scanned scanned, Span.substituted, found]
        rfl
      rw [pasted]
      constructor
      · rintro same _ ⟨⟩ (⟨value, absorbs⟩ | ⟨value, _⟩)
        · obtain rfl := Option.some.inj (found.symm.trans value)
          cases next with
          | quoted quotes => cases quotes <;> contradiction
          | placeholder _ named apart =>
            have start := head?_substitute_of_ne value? apart
            exact lexemes_absorbed absorbs precedes sign written (start ▸ apart)
              (start ▸ named.2) same
          | lineComment | blockComment | systemVariable | refused | sign | plain => contradiction
        · rw [kept] at value; contradiction
      · intro free
        have apart : ¬Absorbs s literal := fun absorbs => free b rfl (.absorbed found absorbs)
        exact lexemes_of_precedes (precedes_written precedes sign written apart _)

/-- The seam after a placeholder that is replaced. -/
theorem seam_after (values : ∀ key literal, value? key = some literal → Written literal)
    (precedes : Precedes s rest) (found : s.literal? value? = some literal) :
    lexemes (literal ++ substitute value? rest) =
        lexemes literal ++ lexemes (substitute value? rest) ↔
      ∀ b, (spans rest).head? = some b → ¬Clash value? s b := by
  obtain ⟨kind, value⟩ := placeholder_of_literal? found
  have written := values _ _ value
  have apart : rest.head? ≠ some '@' := by
    cases precedes with
    | quoted quotes => cases quotes <;> contradiction
    | placeholder _ _ apart => exact apart
    | lineComment | blockComment | systemVariable | refused | sign | plain => contradiction
  have start := head?_substitute_of_ne value? apart
  rcases spans_cases rest with rfl | ⟨b, more, rfl, next, scanned⟩
  · simp [substitute]
  · rw [scanned, List.head?_cons]
    rw [head?_append_of_precedes next] at start apart
    constructor
    · rintro same _ ⟨⟩ (⟨other, _⟩ | ⟨_, last, string⟩)
      · exact apart (head?_of_placeholder next (placeholder_of_literal? other).1)
      · next other =>
        obtain rfl := Option.some.inj (found.symm.trans other)
        have first := (head?_quote_iff next).2 string
        exact lexemes_doubled written last (start.trans first) same
    · intro free
      refine lexemes_written written ?_
      intro last first
      have string := (head?_quote_iff next).1 (start.symm.trans first)
      exact free b rfl (.doubled found last string)

/-- A statement with its values is read as the statement and the values are, exactly where no two
neighbouring spans clash. -/
theorem lexemes_substitute_iff (values : ∀ key literal, value? key = some literal → Written literal)
    (sql : Text) : lexemes (substitute value? sql) = (spans sql).flatMap (Span.replaced value?) ↔
      (spans sql).IsChain fun a b => ¬Clash value? a b := by
  induction sql using spans_induction with
  | nil => simp [substitute]
  | span s rest precedes scanned ih =>
    have seam : lexemes (s.substituted value? ++ substitute value? rest) =
        s.replaced value? ++ lexemes (substitute value? rest) ↔
          ∀ b, (spans rest).head? = some b → ¬Clash value? s b := by
      unfold Span.substituted Span.replaced
      cases found : s.literal? value? with
      | none => exact seam_before values precedes found
      | some literal => exact seam_after values precedes found
    rw [scanned, List.isChain_cons, ← ih, substitute_of_scanned scanned, List.flatMap_cons]
    constructor
    · intro whole
      have texts : ((spans rest).flatMap (Span.replaced value?)).flatMap Span.text =
          substitute value? rest := by
        rw [List.flatMap_assoc, substitute_eq]
        exact List.flatMap_congr fun b _ => flatMap_text_replaced b
      have later := lexemes_suffix whole
      rw [texts] at later
      rw [← later] at whole
      exact ⟨seam.1 whole, later⟩
    · rintro ⟨free, later⟩
      rw [← later]
      exact seam.2 free

end

def SpanKind.isMark : SpanKind → Bool
  | .placeholder | .plain => false
  | _ => true

/-- The strings, identifiers, comments and system variables of a text. -/
def marks (t : Text) : List Span := (spans t).filter (·.kind.isMark)

/-- A span that is a mark, or the strings of the value that replaces it. -/
def Span.marks (value? : Text → Option Text) (s : Span) : List Span :=
  match s.literal? value? with
  | some literal => (spans literal).filter (·.kind = .stringLiteral)
  | none => [s].filter (·.kind.isMark)

/-- With the values of a call in their places the rest of a statement is read as it was. -/
structure Undisturbed (params : Registry) (sql : Text) : Prop where
  marks : marks (substitute params.literal? sql) = (spans sql).flatMap (Span.marks params.literal?)
  references : references (substitute params.literal? sql) =
    (references sql).filter fun r => (params.get? r.key).isNone
  lexemes : lexemes (substitute params.literal? sql) =
    (spans sql).flatMap (Span.replaced params.literal?)

section

variable {value? : Text → Option Text}

theorem marks_eq_lexemes (t : Text) : marks t = (lexemes t).filter (·.kind.isMark) :=
  (lexemes_filter SpanKind.isMark rfl t).symm

theorem marks_written (written : Written literal) :
    marks literal = (spans literal).filter (·.kind = .stringLiteral) := by
  have strings := lexemes_filter (· = .stringLiteral) rfl literal
  rw [marks_eq_lexemes, ← strings]
  refine List.filter_congr ?_
  intro s member
  rcases kind_of_mem_written written member with kind | kind <;> simp [kind, SpanKind.isMark]

theorem marks_replaced (values : ∀ key literal, value? key = some literal → Written literal)
    (s : Span) : (s.replaced value?).filter (·.kind.isMark) = s.marks value? := by
  unfold Span.replaced Span.marks
  cases found : s.literal? value? with
  | none => exact Span.lexemes_filter SpanKind.isMark rfl s
  | some literal =>
    have written := values _ _ (placeholder_of_literal? found).2
    exact (marks_eq_lexemes literal).symm.trans (marks_written written)

theorem names_replaced (values : ∀ key literal, value? key = some literal → Written literal)
    (s : Span) :
    names (s.replaced value?) = (names s.lexemes).filter fun r => (value? r.key).isNone := by
  by_cases kind : s.kind = .placeholder
  · have single : names s.lexemes = [.ofName s.text] := by
      simp [names, Span.lexemes, kind]
    rw [single]
    unfold Span.replaced Span.literal?
    rw [if_pos kind]
    cases found : value? (Text.lower s.text) with
    | none => simp [single, Reference.ofName, found]
    | some literal => simp [names_written (values _ _ found), Reference.ofName, found]
  · have none : names s.lexemes = [] := by
      refine names_eq_nil ?_
      unfold Span.lexemes
      split <;> simp [Span.plainChar, kind]
    unfold Span.replaced Span.literal?
    rw [if_neg kind, none]
    rfl

theorem names_flatMap_replaced
    (values : ∀ key literal, value? key = some literal → Written literal) (ss : List Span) :
    names (ss.flatMap (Span.replaced value?)) =
      (names (ss.flatMap Span.lexemes)).filter fun r => (value? r.key).isNone := by
  induction ss with
  | nil => rfl
  | cons s ss ih =>
    rw [List.flatMap_cons, List.flatMap_cons, names_append, names_append, List.filter_append, ih,
      names_replaced values]

end

theorem written_of_confident (confident : ∀ p ∈ (parseCall call).params, p.value.isConfident = true)
    (found : (parseCall call).params.get? key = some p) :
    ∃ literal, p.value.literal? = some literal ∧ Written literal := by
  obtain ⟨as, params⟩ := params_parseCall call
  have member := List.mem_of_find?_eq_some found
  have typed := confident p member
  rw [params] at member
  obtain ⟨a, _, rfl⟩ := Registry.mem_ofAssignments member
  cases value : classify a.value with
  | typed literal type =>
    exact ⟨literal, by simp [Assignment.param, value, Classification.literal?],
      written_of_classify value⟩
  | untyped literal issue =>
    simp [Assignment.param, value, Classification.isConfident, Classification.type?] at typed

/-- Confident values leave the rest of a statement as it is, exactly where no two neighbouring spans
of it clash. -/
theorem undisturbed_iff (call sql : Text)
    (confident : ∀ p ∈ (parseCall call).params, p.value.isConfident = true) :
    Undisturbed (parseCall call).params sql ↔
      (spans sql).IsChain fun a b => ¬Clash (parseCall call).params.literal? a b := by
  have values : ∀ key literal, (parseCall call).params.literal? key = some literal →
      Written literal := by
    intro key literal value
    obtain ⟨p, found, same⟩ := Option.bind_eq_some_iff.1 value
    obtain ⟨other, value, written⟩ := written_of_confident confident found
    obtain rfl := Option.some.inj (value.symm.trans same)
    exact written
  have missing (key : Text) : ((parseCall call).params.literal? key).isNone =
      ((parseCall call).params.get? key).isNone := by
    unfold Registry.literal?
    cases found : (parseCall call).params.get? key with
    | none => rfl
    | some p =>
      obtain ⟨literal, value, _⟩ := written_of_confident confident found
      simp [value]
  rw [← lexemes_substitute_iff values sql]
  constructor
  · exact Undisturbed.lexemes
  · intro same
    refine ⟨?_, ?_, same⟩
    · rw [marks_eq_lexemes, same, List.filter_flatMap]
      exact List.flatMap_congr fun s _ => marks_replaced values s
    · have kept : names (lexemes (substitute (parseCall call).params.literal? sql)) =
          (names (lexemes sql)).filter fun r => ((parseCall call).params.get? r.key).isNone := by
        rw [same, names_flatMap_replaced values]
        exact List.filter_congr fun r _ => missing r.key
      rw [references_eq_names, references_eq_names, kept]
      exact distinctBy_filter Reference.key
        (fun key => ((parseCall call).params.get? key).isNone) _

theorem confident_negative : ∀ p ∈ (parseCall "@0=-5").params, p.value.isConfident = true := by
  have params : (parseCall "@0=-5").params = [⟨"@0", "-5", .typed "-5" .int⟩] := by cbv
  rw [params]
  simp [Classification.isConfident, Classification.type?]

/-- A blank between two minus signs keeps them apart. -/
theorem undisturbed_negative_after_blank :
    (∀ p ∈ (parseCall "@0=-5").params, p.value.isConfident = true) ∧
      Undisturbed (parseCall "@0=-5").params "SELECT 1 - @0" := by
  refine ⟨confident_negative,
    (undisturbed_iff "@0=-5" "SELECT 1 - @0" confident_negative).2 ?_⟩
  have read : spans "SELECT 1 - @0" =
      [⟨.plain, "SELECT 1 "⟩, ⟨.plain, "- "⟩, ⟨.placeholder, "@0"⟩] := by cbv
  rw [read]
  simp only [List.isChain_cons_cons, List.isChain_singleton, and_true]
  constructor
  · rintro (⟨value, _⟩ | ⟨value, _⟩)
    all_goals exact absurd (placeholder_of_literal? value).1 (by simp)
  · rintro (⟨_, absorbs⟩ | ⟨_, _, string⟩)
    · generalize same : (⟨.plain, "- "⟩ : Span) = s at absorbs
      cases absorbs <;> simp at same
    · contradiction

/-- A negative value after a minus sign begins a comment that the statement does not have. -/
theorem disturbed_negative_after_minus :
    (∀ p ∈ (parseCall "@0=-5").params, p.value.isConfident = true) ∧
      substitute (parseCall "@0=-5").params.literal? "SELECT 1 -@0" = "SELECT 1 --5" ∧
      marks "SELECT 1 -@0" = [] ∧ marks "SELECT 1 --5" = [⟨.lineComment, "--5"⟩] ∧
      ¬Undisturbed (parseCall "@0=-5").params "SELECT 1 -@0" := by
  have output : substitute (parseCall "@0=-5").params.literal? "SELECT 1 -@0" =
      "SELECT 1 --5" := by cbv
  have created : marks "SELECT 1 --5" = [⟨.lineComment, "--5"⟩] := by cbv
  have expected : (spans "SELECT 1 -@0").flatMap
      (Span.marks (parseCall "@0=-5").params.literal?) = [] := by cbv
  refine ⟨confident_negative, output, by cbv, created, ?_⟩
  intro undisturbed
  have same := undisturbed.marks
  rw [output, created, expected] at same
  contradiction

end SqlReplay
