import SqlReplay.Proofs.Script.Report
import SqlReplay.Proofs.Sql.Substitution

/-! What is written for a placeholder, and what is reported of it. A run decides the two apart; both
come from what the call gives the placeholder, so each can be told from the other. -/

namespace SqlReplay

/-- A line that declares `r`, beside what is reported of `r`. -/
structure DeclaredAsReported (params : Registry) (messages : List Text) (r : Reference)
    (line : Text) : Prop where
  uninitialized : line = r.name ++ " sql_variant" ↔
    (Warning.declaredUninitialized r.name).message ∈ messages
  variant : (∃ literal, line = r.name ++ " sql_variant = " ++ literal) ↔
    (Warning.declaredVariant r.name).message ∈ messages
  given : (Warning.declaredVariant r.name).message ∈ messages → ∃ q literal,
    params.get? r.key = some q ∧ q.value.literal? = some literal ∧
      line = r.name ++ " sql_variant = " ++ literal
  typed : (Warning.declaredUninitialized r.name).message ∉ messages →
    (Warning.declaredVariant r.name).message ∉ messages → ∃ q literal type,
      params.get? r.key = some q ∧ q.value.literal? = some literal ∧ q.value.type? = some type ∧
        line = r.name ++ " " ++ type.text ++ " = " ++ literal

/-- What is written for the occurrences of `r`, beside what is reported of `r`. -/
structure ReplacedAsReported (params : Registry) (messages : List Text) (sql : Text)
    (written : Span → Text) (r : Reference) : Prop where
  unchanged : (Warning.unresolved r.name).message ∈ messages ∨
    (Warning.leftUnchanged r.name).message ∈ messages ↔
      ∀ q, params.get? r.key = some q → q.value.literal? = none
  guessed : (∃ issue, (Warning.bestEffort r.name issue).message ∈ messages) ↔
    ∃ q literal, params.get? r.key = some q ∧ q.value.literal? = some literal ∧
      q.value.isConfident = false
  kept : (Warning.unresolved r.name).message ∈ messages ∨
    (Warning.leftUnchanged r.name).message ∈ messages →
      ∀ s ∈ spans sql, s.kind = .placeholder → Text.lower s.text = r.key → written s = s.text
  replaced : (Warning.unresolved r.name).message ∉ messages →
    (Warning.leftUnchanged r.name).message ∉ messages → ∃ q literal,
      params.get? r.key = some q ∧ q.value.literal? = some literal ∧
        ∀ s ∈ spans sql, s.kind = .placeholder → Text.lower s.text = r.key → written s = literal

/-- A script whose text and whose messages agree on every placeholder of the statement. -/
structure RenderedAsReported (params : Registry) (sql : Text) (script : Script) : Prop where
  registry : script.params = params
  declared : script.mode = .declare → ∃ indent line,
    script.output =
      declareBlock indent ((Reference.declarationOrder (references sql)).map line) ++
        Text.trim sql ∧
    ∀ r ∈ references sql, (Reference.declarationOrder (references sql)).count r = 1 ∧
      DeclaredAsReported params script.messages r (line r)
  replaced : script.mode = .inline → ∃ written,
    script.output = (spans sql).flatMap written ∧
    (∀ s ∈ spans sql, s.kind ≠ .placeholder → written s = s.text) ∧
    (∀ s ∈ spans sql, s.kind = .placeholder → ∃ r ∈ references sql, Text.lower s.text = r.key) ∧
    ∀ r ∈ references sql, ReplacedAsReported params script.messages sql written r

/-- The name that a warning about what is written tells. -/
def Warning.rendered? : Warning → Option Text
  | declaredUninitialized name | declaredVariant name | unresolved name | leftUnchanged name
  | bestEffort name _ => some name
  | _ => none

theorem Warning.topic_of_rendered {w : Warning} (about : w.rendered? = some name) :
    w.topic = .rendering := by
  cases w with
  | declaredUninitialized | declaredVariant | unresolved | leftUnchanged | bestEffort => rfl
  | _ => contradiction

theorem Warning.planned_of_rendered {w : Warning} (name : IsName n)
    (about : w.rendered? = some n) : w.Planned := by
  cases w with
  | declaredUninitialized | declaredVariant | unresolved | leftUnchanged | bestEffort =>
    obtain rfl := Option.some.inj about
    exact name
  | _ => contradiction

namespace Registry

variable {params : Registry}

/-- What a call gives a placeholder: nothing, no literal, one without a type, or one with its
type. -/
inductive Gives (params : Registry) (r : Reference) : Prop
  | nothing : params.get? r.key = none → Gives params r
  | empty : params.get? r.key = some q → q.value = .untyped none issue → Gives params r
  | guess : params.get? r.key = some q → q.value = .untyped (some literal) issue →
      Gives params r
  | typed : params.get? r.key = some q → q.value = .typed literal type → Gives params r

theorem gives (params : Registry) (r : Reference) : params.Gives r := by
  cases found : params.get? r.key with
  | none => exact .nothing found
  | some q =>
    match value : q.value with
    | .untyped none _ => exact .empty found value
    | .untyped (some _) _ => exact .guess found value
    | .typed _ _ => exact .typed found value

/-- The warning about what is written for a placeholder. -/
def rendering? (params : Registry) (r : Reference) : Mode → Option Warning
  | .declare => (params.declaration r).warning?
  | .inline => params.inlineWarning? r

theorem mem_modeWarnings_iff : w ∈ params.modeWarnings refs mode ↔
    ∃ r ∈ refs, params.rendering? r mode = some w := by
  cases mode with
  | declare =>
    rw [modeWarnings, List.mem_filterMap]
    simp only [(declarationOrder_perm refs).mem_iff]
    rfl
  | inline => exact List.mem_filterMap

theorem rendering_nothing (absent : params.get? r.key = none) :
    params.declaration r = .uninitialized r.name ∧
      params.inlineWarning? r = some (.unresolved r.name) := by
  simp [declaration, inlineWarning?, absent]

theorem rendering_empty (found : params.get? r.key = some q)
    (value : q.value = .untyped none issue) : params.declaration r = .uninitialized r.name ∧
      params.inlineWarning? r = some (.leftUnchanged r.name) := by
  simp [declaration, inlineWarning?, found, value, Classification.literal?]

theorem rendering_guess (found : params.get? r.key = some q)
    (value : q.value = .untyped (some literal) issue) :
    params.declaration r = .variant r.name literal ∧
      params.inlineWarning? r = some (.bestEffort r.name issue) := by
  simp [declaration, inlineWarning?, found, value, Classification.literal?, Classification.issue?]

theorem rendering_typed (found : params.get? r.key = some q)
    (value : q.value = .typed literal type) :
    params.declaration r = .typed r.name type literal ∧ params.inlineWarning? r = none := by
  simp [declaration, inlineWarning?, found, value, Classification.literal?, Classification.issue?]

theorem rendered_of_rendering? (raised : params.rendering? r mode = some w) :
    w.rendered? = some r.name := by
  unfold rendering? at raised
  cases params.gives r with
  | nothing absent =>
    rw [(rendering_nothing absent).1, (rendering_nothing absent).2] at raised
    cases mode <;> cases raised <;> rfl
  | empty found value =>
    rw [(rendering_empty found value).1, (rendering_empty found value).2] at raised
    cases mode <;> cases raised <;> rfl
  | guess found value =>
    rw [(rendering_guess found value).1, (rendering_guess found value).2] at raised
    cases mode <;> cases raised <;> rfl
  | typed found value =>
    rw [(rendering_typed found value).1, (rendering_typed found value).2] at raised
    cases mode <;> cases raised

theorem left_iff (params : Registry) (r : Reference) :
    params.inlineWarning? r = some (.unresolved r.name) ∨
        params.inlineWarning? r = some (.leftUnchanged r.name) ↔
      params.literal? r.key = none := by
  unfold literal?
  cases params.gives r with
  | nothing absent => simp [(rendering_nothing absent).2, absent]
  | empty found value =>
    simp [(rendering_empty found value).2, found, value, Classification.literal?]
  | guess found value =>
    simp [(rendering_guess found value).2, found, value, Classification.literal?]
  | typed found value =>
    simp [(rendering_typed found value).2, found, value, Classification.literal?]

theorem guessed_iff (params : Registry) (r : Reference) :
    (∃ issue, params.inlineWarning? r = some (.bestEffort r.name issue)) ↔
      ∃ q literal, params.get? r.key = some q ∧ q.value.literal? = some literal ∧
        q.value.isConfident = false := by
  unfold Classification.isConfident
  cases params.gives r with
  | nothing absent => simp [(rendering_nothing absent).2, absent]
  | empty found value =>
    simp [(rendering_empty found value).2, found, value, Classification.literal?]
  | guess found value =>
    simp [(rendering_guess found value).2, found, value, Classification.literal?,
      Classification.type?]
  | typed found value =>
    simp [(rendering_typed found value).2, found, value, Classification.type?]

end Registry

section

variable {call sql : Text} {mode : Mode}

theorem rendered_iff {w : Warning} (referenced : r ∈ references sql)
    (about : w.rendered? = some r.name) :
    w ∈ ((parseCall call).plan sql mode).warnings ↔
      (parseCall call).params.rendering? r mode = some w := by
  constructor
  · intro member
    have raised := raised_by_topic member
    rw [Warning.topic_of_rendered about] at raised
    obtain ⟨s, found, rendered⟩ := Registry.mem_modeWarnings_iff.1 raised
    have other := Registry.rendered_of_rendering? rendered
    have same : s = r := eq_of_name_eq (isReference_of_mem_references found)
      (isReference_of_mem_references referenced) (Option.some.inj (other.symm.trans about))
    rwa [← same]
  · intro rendered
    exact mem_plan_iff.2
      (.inr (.inr (.inr (Registry.mem_modeWarnings_iff.2 ⟨r, referenced, rendered⟩))))

/-- A script without formatting reports of what it writes for `r` what the call gives `r`. -/
theorem message_rendered_iff {w : Warning} (referenced : r ∈ references sql)
    (about : w.rendered? = some r.name) (output : Text) :
    w.message ∈ (((parseCall call).plan sql mode).script output none).messages ↔
      (parseCall call).params.rendering? r mode = some w := by
  have name := isName_of_isReference (isReference_of_mem_references referenced)
  rw [← rendered_iff referenced about,
    ← message_mem_iff (fun v => planned_of_mem_plan) (Warning.planned_of_rendered name about)]
  simp [Script.messages, Plan.script]

end

section

variable {params : Registry} {messages : List Text} {sql : Text}

theorem text_uninitialized (name : Text) :
    (Declaration.uninitialized name).text = name ++ " sql_variant" := by rfl

theorem text_variant (name literal : Text) :
    (Declaration.variant name literal).text = name ++ " sql_variant = " ++ literal := by
  delta Declaration.text variantType
  simp

theorem text_typed (name : Text) (type : SqlType) (literal : Text) :
    (Declaration.typed name type literal).text =
      name ++ " " ++ type.text ++ " = " ++ literal := by
  delta Declaration.text
  simp

theorem text_uninitialized_ne_variant (name literal : Text) :
    name ++ " sql_variant" ≠ name ++ " sql_variant = " ++ literal := by
  intro same
  rw [List.append_assoc] at same
  have length := congrArg List.length (List.append_cancel_left same)
  simp at length

/-- No type of its own is the one that takes any value. -/
theorem text_typed_ne (name : Text) (type : SqlType) (literal more : Text) :
    name ++ " " ++ type.text ++ " = " ++ literal ≠ name ++ " sql_variant" ++ more := by
  have variant : (" sql_variant" : Text) = " " ++ variantType := by rfl
  rw [variant]
  simp only [List.append_assoc]
  intro same
  exact type.text_append_ne_variantType _ _
    (List.append_cancel_left (List.append_cancel_left same))

theorem declared_as_reported (reported : ∀ w : Warning, w.rendered? = some r.name →
      (w.message ∈ messages ↔ params.rendering? r .declare = some w)) :
    DeclaredAsReported params messages r (params.declaration r).text := by
  have uninitialized := reported (.declaredUninitialized r.name) rfl
  have variant := reported (.declaredVariant r.name) rfl
  unfold Registry.rendering? at uninitialized variant
  have bare (declared : params.declaration r = .uninitialized r.name) :
      DeclaredAsReported params messages r (params.declaration r).text := by
    rw [declared] at uninitialized variant ⊢
    have said := uninitialized.2 rfl
    have unsaid : (Warning.declaredVariant r.name).message ∉ messages :=
      fun other => nomatch variant.1 other
    rw [text_uninitialized]
    refine ⟨iff_of_true rfl said, iff_of_false ?_ unsaid, fun other => absurd other unsaid,
      fun other => absurd said other⟩
    rintro ⟨literal, same⟩
    exact text_uninitialized_ne_variant _ _ same
  cases params.gives r with
  | nothing absent => exact bare (Registry.rendering_nothing absent).1
  | empty found value => exact bare (Registry.rendering_empty found value).1
  | @guess q literal issue found value =>
    rw [(Registry.rendering_guess found value).1] at uninitialized variant ⊢
    have said := variant.2 rfl
    have unsaid : (Warning.declaredUninitialized r.name).message ∉ messages :=
      fun other => nomatch uninitialized.1 other
    have kept : q.value.literal? = some literal := by rw [value]; rfl
    rw [text_variant]
    exact ⟨iff_of_false (text_uninitialized_ne_variant _ _).symm unsaid,
      iff_of_true ⟨literal, rfl⟩ said, fun _ => ⟨q, literal, found, kept, rfl⟩,
      fun _ other => absurd said other⟩
  | @typed q literal type found value =>
    rw [(Registry.rendering_typed found value).1] at uninitialized variant ⊢
    have unsaid : (Warning.declaredUninitialized r.name).message ∉ messages :=
      fun other => nomatch uninitialized.1 other
    have unsaid' : (Warning.declaredVariant r.name).message ∉ messages :=
      fun other => nomatch variant.1 other
    have kept : q.value.literal? = some literal ∧ q.value.type? = some type := by
      rw [value]
      exact ⟨rfl, rfl⟩
    rw [text_typed]
    refine ⟨iff_of_false ?_ unsaid, iff_of_false ?_ unsaid', fun other => absurd other unsaid',
      fun _ _ => ⟨q, literal, type, found, kept.1, kept.2, rfl⟩⟩
    · intro same
      exact text_typed_ne r.name type literal [] (same.trans (List.append_nil _).symm)
    · rintro ⟨other, same⟩
      refine text_typed_ne r.name type literal (" = " ++ other) (same.trans ?_)
      simp

theorem replaced_as_reported (reported : ∀ w : Warning, w.rendered? = some r.name →
      (w.message ∈ messages ↔ params.rendering? r .inline = some w)) :
    ReplacedAsReported params messages sql (Span.substituted params.literal?) r := by
  have left : (Warning.unresolved r.name).message ∈ messages ∨
      (Warning.leftUnchanged r.name).message ∈ messages ↔ params.literal? r.key = none := by
    rw [reported (.unresolved r.name) rfl, reported (.leftUnchanged r.name) rfl]
    exact params.left_iff r
  have written (s : Span) (kind : s.kind = .placeholder) (key : Text.lower s.text = r.key) :
      s.substituted params.literal? = (params.literal? r.key).getD s.text := by
    rw [Span.substituted, Span.literal?, if_pos kind, key]
  constructor
  · rw [left]
    exact Option.bind_eq_none_iff
  · rw [← params.guessed_iff r]
    exact exists_congr fun issue => reported (.bestEffort r.name issue) rfl
  · intro said s _ kind key
    rw [written s kind key, left.1 said, Option.getD_none]
  · intro resolved changed
    have given : params.literal? r.key ≠ none := fun none =>
      (left.2 none).elim resolved changed
    obtain ⟨literal, found⟩ := Option.ne_none_iff_exists'.1 given
    obtain ⟨q, bound, value⟩ := Option.bind_eq_some_iff.1 found
    refine ⟨q, literal, bound, value, fun s _ kind key => ?_⟩
    rw [written s kind key, found, Option.getD_some]

end

theorem declare_rendered (call sql : Text) (indent : Nat) :
    let plan := (parseCall call).plan sql .declare
    RenderedAsReported (parseCall call).params sql
      (plan.script (plan.block indent ++ Text.trim (Text.trim sql)) none) := by
  intro plan
  have distinct : (Reference.declarationOrder (references sql)).Nodup :=
    (declarationOrder_distinct sql).of_map
  refine ⟨rfl, fun _ =>
    ⟨indent, fun r => ((parseCall call).params.declaration r).text, ?_, ?_⟩, nofun⟩
  · rw [trim_trim]
    rfl
  · intro r referenced
    have listed := (declarationOrder_perm (references sql)).mem_iff.2 referenced
    exact ⟨List.count_eq_one_of_mem distinct listed,
      declared_as_reported fun w about => message_rendered_iff referenced about _⟩

theorem inline_rendered (call sql : Text) :
    let plan := (parseCall call).plan sql .inline
    RenderedAsReported (parseCall call).params sql
      (plan.script (substitute (parseCall call).params.literal? sql) none) := by
  intro plan
  refine ⟨rfl, nofun, fun _ => ⟨Span.substituted (parseCall call).params.literal?, ?_, ?_, ?_, ?_⟩⟩
  · exact substitute_eq sql
  · intro s _ other
    rw [Span.substituted, Span.literal?, if_neg other]
    rfl
  · intro s member kind
    have named : Reference.ofName s.text ∈
        ((spans sql).filter (·.kind = .placeholder)).map fun s => Reference.ofName s.text :=
      List.mem_map_of_mem (List.mem_filter.2 ⟨member, by simpa using kind⟩)
    have known := key_mem_distinctBy Reference.key _ named
    rw [← references_eq_distinctBy] at known
    obtain ⟨r, referenced, key⟩ := List.mem_map.1 known
    exact ⟨r, referenced, key.symm⟩
  · intro r referenced
    exact replaced_as_reported fun w about => message_rendered_iff referenced about _

/-- Without formatting a run ends in a script whose text and whose messages agree on every
placeholder, except that nothing is written or reported where there is something to declare and the
indent cannot be laid out. -/
theorem rendered_as_reported (host : Host) (config : Config) (formatter : Option Formatter)
    (sql call : Text) (unformatted : config.formatOutput = false) :
    (∃ script, (generate host config formatter sql call).outcome = .ok script ∧
      RenderedAsReported (parseCall call).params (config.statement sql) script) ∨
    ∃ fault, (generate host config formatter sql call).outcome = .error (.layout fault) ∧
      checkIndent host config.declareIndent = .error fault ∧
      references (config.statement sql) ≠ [] ∧
      (config.policy = .variant ∨
        ∀ r ∈ references (config.statement sql), (parseCall call).params.Declares r) := by
  have done := generate_outcome host config formatter sql call
  have formatted (body : Text) : (formatBody config formatter body).text = .ok body := by
    rw [formatBody_off unformatted]
  simp only [plan] at done
  cases mode : (parseCall call).mode config.policy (references (config.statement sql)) with
  | declare =>
    rw [mode] at done
    cases laid : checkIndent host config.declareIndent with
    | ok n =>
      rw [Plan.finish_declare rfl laid (formatted _), formatBody_off unformatted] at done
      exact .inl ⟨_, done, declare_rendered call (config.statement sql) n⟩
    | error fault =>
      rw [Plan.finish_unfit rfl laid (formatted _)] at done
      exact .inr ⟨fault, done, rfl, (ParsedCall.mode_eq_declare_iff ..).1 mode⟩
  | inline =>
    rw [mode, Plan.finish_inline rfl (formatted _), formatBody_off unformatted] at done
    exact .inl ⟨_, done, inline_rendered call (config.statement sql)⟩

theorem rendered_as_reported_null : ∃ script,
    (generate .roomy { formatOutput := false } none "SELECT @b, @a, @B"
        "exec p,@A=NULL").outcome = .ok script ∧
      RenderedAsReported (parseCall "exec p,@A=NULL").params
        (Config.statement { formatOutput := false } "SELECT @b, @a, @B") script := by
  have fits : checkIndent .roomy 8 = .ok 8 := by decide
  refine (rendered_as_reported .roomy { formatOutput := false } none "SELECT @b, @a, @B"
    "exec p,@A=NULL" rfl).resolve_right ?_
  rintro ⟨fault, _, unfit, _⟩
  exact nomatch fits.symm.trans unfit

end SqlReplay
