import SqlReplay.Proofs.Script.Message
import SqlReplay.Proofs.Script.Plan

/-! The two declare policies on the same input. They come to the same script wherever every
placeholder is settled; elsewhere the variant one declares, the strict one writes values in place,
and both begin with the same warnings. The exceptions are a block that cannot be laid out and a
formatter that fails with an error that cannot be quoted. -/

namespace SqlReplay

theorem SqlType.text_append_ne_variantType (type : SqlType) (s t : Text) :
    type.text ++ s ≠ variantType ++ t := by
  intro same
  have start := congrArg List.head? same
  revert start
  cases type
  all_goals
    delta SqlType.text variantType
    simp

theorem SqlType.text_ne_variantType (type : SqlType) : type.text ≠ variantType := by
  have apart := type.text_append_ne_variantType [] []
  rwa [List.append_nil, List.append_nil] at apart

/-- A script that declares its placeholders, each with a type of its own. -/
structure Script.DeclaresTyped (s : Script) (refs : List Reference) : Prop where
  mode : s.mode = .declare
  block : ∃ indent body, s.output = declareBlock indent
    ((Reference.declarationOrder refs).map fun r => (s.params.declaration r).text) ++ body
  typed : ∀ r ∈ refs, ∃ type literal,
    s.params.declaration r = .typed r.name type literal ∧ type.text ≠ variantType

/-- The runs under the two policies, all else equal. -/
structure PoliciesAgree (host : Host) (config : Config) (formatter : Option Formatter)
    (sql call : Text) : Prop where
  unplaced : references (config.statement sql) = [] → ∃ script,
    (generate host { config with policy := .variant } formatter sql call).outcome = .ok script ∧
    (generate host { config with policy := .strict } formatter sql call).outcome = .ok script ∧
    script.mode = .inline
  settled : references (config.statement sql) ≠ [] →
    (∀ r ∈ references (config.statement sql), (parseCall call).params.Declares r) → ∃ script,
    (generate host { config with policy := .variant } formatter sql call).outcome = .ok script ∧
    (generate host { config with policy := .strict } formatter sql call).outcome = .ok script ∧
    script.DeclaresTyped (references (config.statement sql))
  unsettled : (∃ r ∈ references (config.statement sql), ¬(parseCall call).params.Declares r) →
    ∃ variant strict,
    (generate host { config with policy := .variant } formatter sql call).outcome = .ok variant ∧
    (generate host { config with policy := .strict } formatter sql call).outcome = .ok strict ∧
    variant.mode = .declare ∧ strict.mode = .inline ∧ variant.params = strict.params ∧
    let findings := (parseCall call).findings (references (config.statement sql))
    distinctTexts (findings.map Warning.message) <+: variant.messages ∧
    distinctTexts (findings.map Warning.message) <+: strict.messages

section

variable {host : Host} {config : Config} {formatter : Option Formatter} {sql call : Text}

theorem outcome_of_mode (host : Host) (config : Config) (formatter : Option Formatter)
    (policy : DeclarePolicy)
    (mode : (parseCall call).mode policy (references (config.statement sql)) = m) :
    (generate host { config with policy } formatter sql call).outcome =
      ((parseCall call).plan (config.statement sql) m).finish host config formatter := by
  subst mode
  exact generate_outcome host { config with policy } formatter sql call

theorem PoliciesAgree.done (agree : PoliciesAgree host config formatter sql call)
    (policy : DeclarePolicy) :
    ∃ script, (generate host { config with policy } formatter sql call).outcome = .ok script := by
  by_cases none : references (config.statement sql) = []
  · obtain ⟨script, variant, strict, _⟩ := agree.unplaced none
    cases policy
    · exact ⟨script, variant⟩
    · exact ⟨script, strict⟩
  · by_cases settled : ∀ r ∈ references (config.statement sql), (parseCall call).params.Declares r
    · obtain ⟨script, variant, strict, _⟩ := agree.settled none settled
      cases policy
      · exact ⟨script, variant⟩
      · exact ⟨script, strict⟩
    · push Not at settled
      obtain ⟨one, other, variant, strict, _⟩ := agree.unsettled settled
      cases policy
      · exact ⟨one, variant⟩
      · exact ⟨other, strict⟩

theorem findings_prefix (parsed : ParsedCall) (sql : Text) (mode : Mode) (output : Text)
    (warning? : Option Warning) :
    distinctTexts ((parsed.findings (references sql)).map Warning.message) <+:
      ((parsed.plan sql mode).script output warning?).messages := by
  have whole := distinctTexts_prefix (parsed.findings (references sql))
    (parsed.params.modeWarnings (references sql) mode ++ warning?.toList)
  rwa [← List.append_assoc] at whole

/-- A plan that declares settled placeholders needs no type that takes any value. -/
theorem declaresTyped_of_settled {p : Plan} (declare : p.mode = .declare)
    (settled : ∀ r ∈ p.references, p.params.Declares r) (indent : Nat) (body : Text)
    (warning? : Option Warning) :
    (p.script (p.block indent ++ body) warning?).DeclaresTyped p.references := by
  refine ⟨declare, ⟨indent, body, rfl⟩, ?_⟩
  intro r member
  obtain ⟨type, literal, declared⟩ := Registry.declaration_of_declares (settled r member)
  exact ⟨type, literal, declared, type.text_ne_variantType⟩

theorem outcome_declare (policy : DeclarePolicy) (some : references (config.statement sql) ≠ [])
    (allowed : policy = .variant ∨
      ∀ r ∈ references (config.statement sql), (parseCall call).params.Declares r) :
    (generate host { config with policy } formatter sql call).outcome =
      ((parseCall call).plan (config.statement sql) .declare).finish host config formatter :=
  outcome_of_mode host config formatter policy
    ((ParsedCall.mode_eq_declare_iff ..).2 ⟨some, allowed⟩)

theorem outcome_inline (policy : DeclarePolicy)
    (refused : references (config.statement sql) = [] ∨ policy = .strict ∧
      ∃ r ∈ references (config.statement sql), ¬(parseCall call).params.Declares r) :
    (generate host { config with policy } formatter sql call).outcome =
      ((parseCall call).plan (config.statement sql) .inline).finish host config formatter :=
  outcome_of_mode host config formatter policy ((ParsedCall.mode_eq_inline_iff ..).2 refused)

theorem agree_unplaced (none : references (config.statement sql) = [])
    (done : ∃ script,
      (generate host { config with policy := .variant } formatter sql call).outcome = .ok script) :
    ∃ script,
      (generate host { config with policy := .variant } formatter sql call).outcome = .ok script ∧
      (generate host { config with policy := .strict } formatter sql call).outcome = .ok script ∧
      script.mode = .inline := by
  obtain ⟨script, variant⟩ := done
  have plan := (outcome_inline .variant (.inl none)).symm.trans variant
  have strict := (outcome_inline .strict (.inl none)).trans plan
  obtain ⟨_, _, _, rfl, _⟩ := Plan.of_finish plan
  exact ⟨_, variant, strict, rfl⟩

theorem agree_settled (some : references (config.statement sql) ≠ [])
    (settled : ∀ r ∈ references (config.statement sql), (parseCall call).params.Declares r)
    (done : ∃ script,
      (generate host { config with policy := .variant } formatter sql call).outcome = .ok script) :
    ∃ script,
      (generate host { config with policy := .variant } formatter sql call).outcome = .ok script ∧
      (generate host { config with policy := .strict } formatter sql call).outcome = .ok script ∧
      script.DeclaresTyped (references (config.statement sql)) := by
  obtain ⟨script, variant⟩ := done
  have plan := (outcome_declare .variant some (.inl rfl)).symm.trans variant
  have strict := (outcome_declare .strict some (.inr settled)).trans plan
  obtain ⟨text, output, _, rfl, laid⟩ := Plan.of_finish plan
  obtain ⟨n, rfl⟩ := laid rfl
  exact ⟨_, variant, strict, declaresTyped_of_settled rfl settled n _ _⟩

theorem differ_unsettled
    (unsettled : ∃ r ∈ references (config.statement sql), ¬(parseCall call).params.Declares r)
    (done : ∀ policy, ∃ script,
      (generate host { config with policy } formatter sql call).outcome = .ok script) :
    ∃ variant strict,
      (generate host { config with policy := .variant } formatter sql call).outcome =
        .ok variant ∧
      (generate host { config with policy := .strict } formatter sql call).outcome = .ok strict ∧
      variant.mode = .declare ∧ strict.mode = .inline ∧ variant.params = strict.params ∧
      let findings := (parseCall call).findings (references (config.statement sql))
      distinctTexts (findings.map Warning.message) <+: variant.messages ∧
      distinctTexts (findings.map Warning.message) <+: strict.messages := by
  have some : references (config.statement sql) ≠ [] := by
    obtain ⟨r, member, _⟩ := unsettled
    exact List.ne_nil_of_mem member
  obtain ⟨one, variant⟩ := done .variant
  obtain ⟨other, strict⟩ := done .strict
  obtain ⟨_, _, _, rfl, _⟩ := Plan.of_finish
    ((outcome_declare .variant some (.inl rfl)).symm.trans variant)
  obtain ⟨_, _, _, rfl, _⟩ := Plan.of_finish
    ((outcome_inline .strict (.inr ⟨rfl, unsettled⟩)).symm.trans strict)
  exact ⟨_, _, variant, strict, rfl, rfl, rfl, findings_prefix .., findings_prefix ..⟩

/-- The policies agree, and differ where they should, exactly where nothing is to be declared or the
block can be laid out, and the formatter breaks on neither of the two bodies. -/
theorem policies_agree_iff (host : Host) (config : Config) (formatter : Option Formatter)
    (sql call : Text) : PoliciesAgree host config formatter sql call ↔
      (references (config.statement sql) = [] ∨
        ∃ n, checkIndent host config.declareIndent = .ok n) ∧
      ∀ policy, ¬Breaks config formatter (plan { config with policy } sql call).body := by
  constructor
  · intro agree
    have finished (policy : DeclarePolicy) := (Plan.finish_ok_iff
      (plan { config with policy } sql call) host { config with policy } formatter).1
      ((generate_outcome host { config with policy } formatter sql call) ▸ agree.done policy)
    refine ⟨?_, fun policy => (finished policy).1⟩
    rcases (finished .variant).2 with inline | fits
    · rcases (ParsedCall.mode_eq_inline_iff ..).1 inline with none | ⟨strict, _⟩
      · exact .inl none
      · contradiction
    · exact .inr fits
  · rintro ⟨possible, unbroken⟩
    have done (policy : DeclarePolicy) : ∃ script,
        (generate host { config with policy } formatter sql call).outcome = .ok script := by
      rw [generate_outcome, Plan.finish_ok_iff]
      refine ⟨unbroken policy, possible.imp_left fun none => ?_⟩
      exact (ParsedCall.mode_eq_inline_iff ..).2 (.inl none)
    exact ⟨fun none => agree_unplaced none (done .variant),
      fun some settled => agree_settled some settled (done .variant),
      fun unsettled => differ_unsettled unsettled done⟩

end

/-- Where the spaces of an indent cannot be built, the variant policy gives no script, though the
block of a single declaration needs none of them; the strict one leaves the placeholder in place. -/
theorem policies_disagree_wide_indent :
    (generate .roomy { policy := .variant, declareIndent := 2 ^ 63 } none "SELECT @0"
        "exec p").outcome = .error (.layout .indentNotIndexable) ∧
      (∃ script, (generate .roomy { policy := .strict, declareIndent := 2 ^ 63 } none "SELECT @0"
        "exec p").outcome = .ok script ∧ script.mode = .inline) ∧
      ¬PoliciesAgree .roomy { declareIndent := 2 ^ 63 } none "SELECT @0" "exec p" := by
  have used : references "SELECT @0" = [⟨"@0", "@0"⟩] := by cbv
  have params : (parseCall "exec p").params = [] := by cbv
  have unsettled : ∃ r ∈ references "SELECT @0", ¬(parseCall "exec p").params.Declares r := by
    rw [used, params]
    exact ⟨_, List.mem_singleton_self _, by simp [Registry.Declares, Registry.get?]⟩
  have unfit : checkIndent .roomy ((2 ^ 63 : Nat) : Int) = .error .indentNotIndexable := by rfl
  have unbroken (config : Config) (body : Text) :
      ∃ text, (formatBody config none body).text = .ok text :=
    formatBody_unbroken (not_breaks_none config body)
  have variant : (generate .roomy { policy := .variant, declareIndent := 2 ^ 63 } none "SELECT @0"
      "exec p").outcome = .error (.layout .indentNotIndexable) := by
    rw [generate_outcome]
    obtain ⟨text, formatted⟩ := unbroken { declareIndent := 2 ^ 63 } _
    refine Plan.finish_unfit ((ParsedCall.mode_eq_declare_iff ..).2 ⟨?_, .inl rfl⟩) unfit formatted
    obtain ⟨r, member, _⟩ := unsettled
    exact List.ne_nil_of_mem member
  refine ⟨variant, ?_, ?_⟩
  · rw [generate_outcome]
    have inline := (ParsedCall.mode_eq_inline_iff (parseCall "exec p") .strict
      (references "SELECT @0")).2 (.inr ⟨rfl, unsettled⟩)
    obtain ⟨text, formatted⟩ := unbroken { policy := .strict, declareIndent := 2 ^ 63 } _
    exact ⟨_, Plan.finish_inline inline formatted, inline⟩
  · intro agree
    obtain ⟨script, done⟩ := agree.done .variant
    have none := variant.symm.trans done
    contradiction

end SqlReplay
