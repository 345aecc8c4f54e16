import SqlReplay.Proofs.Exec.Pieces
import SqlReplay.Proofs.Script.Policy

/-! What a script reports. Each guess about a value, each parameter that nothing refers to and each
repeated assignment has its warning, and nothing else has one: a script without warnings was made
without a guess. -/

namespace SqlReplay

/-- What a warning is about. -/
inductive Topic
  | call | repetition | value | parameter | rendering | formatting
  deriving DecidableEq

namespace Warning

def topic : Warning → Topic
  | emptyCall | noAssignments => .call
  | duplicateAssignment _ => .repetition
  | missingValue _ | noLiteral _ | uncertainType _ _ => .value
  | unreferencedParam _ => .parameter
  | declaredUninitialized _ | declaredVariant _ | unresolved _ | leftUnchanged _ | bestEffort _ _ =>
    .rendering
  | formatterUnavailable | formatterFailed _ => .formatting

/-- The value of the placeholder with this name, or its type, is a guess. -/
def Doubts (name : Text) : Warning → Prop
  | missingValue n | noLiteral n | uncertainType n _ => n = name
  | _ => False

theorem topic_of_doubts {w : Warning} (doubts : w.Doubts name) : w.topic = .value := by
  cases w with
  | missingValue | noLiteral | uncertainType => rfl
  | _ => contradiction

theorem eq_of_doubts {w : Warning} (first : w.Doubts m) (second : w.Doubts n) : m = n := by
  cases w with
  | missingValue | noLiteral | uncertainType => exact first.symm.trans second
  | _ => contradiction

theorem planned_of_doubts {w : Warning} (name : IsName n) (doubts : w.Doubts n) : w.Planned := by
  cases w with
  | missingValue | noLiteral | uncertainType =>
    cases doubts
    exact name
  | _ => contradiction

end Warning

theorem isName_of_isReference (reference : IsReference r) : IsName r.name := by
  obtain ⟨name, rfl, nonempty, named⟩ := reference
  exact ⟨name, rfl, nonempty, named⟩

theorem eq_of_name_eq (first : IsReference r) (second : IsReference s) (same : r.name = s.name) :
    r = s := by
  obtain ⟨m, rfl, _⟩ := first
  obtain ⟨n, rfl, _⟩ := second
  exact congrArg Reference.ofName same

namespace Registry

theorem doubts_of_mem_checkReference (params : Registry) (member : w ∈ params.checkReference r) :
    w.Doubts r.name := by
  unfold checkReference at member
  split at member
  · rw [List.mem_singleton.1 member]
    rfl
  · next p _ =>
    rcases List.mem_append.1 member with literal | issue
    · split at literal
      · rw [List.mem_singleton.1 literal]
        rfl
      · contradiction
    · obtain ⟨i, _, rfl⟩ := Option.map_eq_some_iff.1 (Option.mem_toList.1 issue)
      rfl

theorem mem_unreferenced_iff (params : Registry) (refs : List Reference) :
    w ∈ params.unreferenced refs ↔
      ∃ p ∈ params, p.key ∉ refs.map Reference.key ∧ w = .unreferencedParam p.name := by
  unfold unreferenced
  simp only [List.mem_map, List.mem_filter, Bool.not_eq_true', List.any_eq_false, beq_iff_eq,
    not_exists, not_and]
  constructor
  · rintro ⟨p, ⟨member, unused⟩, rfl⟩
    exact ⟨p, member, unused, rfl⟩
  · rintro ⟨p, member, unused, rfl⟩
    exact ⟨p, ⟨member, unused⟩, rfl⟩

theorem unreferenced_eq_nil_iff (params : Registry) (refs : List Reference) :
    params.unreferenced refs = [] ↔ ∀ p ∈ params, p.key ∈ refs.map Reference.key := by
  rw [List.eq_nil_iff_forall_not_mem]
  simp only [mem_unreferenced_iff, not_exists, not_and]
  constructor
  · intro none p member
    by_contra unused
    exact none _ p member unused rfl
  · intro used w p member unused
    exact absurd (used p member) unused

/-- A warning about what stands for a placeholder names it. -/
theorem mem_modeWarnings (params : Registry) (refs : List Reference) (mode : Mode)
    (member : w ∈ params.modeWarnings refs mode) :
    w.topic = .rendering ∧ ((∀ r ∈ refs, IsName r.name) → w.Planned) := by
  cases mode with
  | declare =>
    obtain ⟨r, among, warned⟩ := List.mem_filterMap.1 member
    have found := (declarationOrder_perm refs).mem_iff.1 among
    unfold declaration at warned
    split at warned
    all_goals cases warned
    all_goals exact ⟨rfl, fun names => names r found⟩
  | inline =>
    obtain ⟨r, found, warned⟩ := List.mem_filterMap.1 member
    unfold inlineWarning? at warned
    split at warned
    · cases warned
      exact ⟨rfl, fun names => names r found⟩
    · split at warned
      all_goals cases warned
      all_goals exact ⟨rfl, fun names => names r found⟩

theorem modeWarnings_eq_nil {params : Registry} (settled : ∀ r ∈ refs, params.Declares r)
    (mode : Mode) : params.modeWarnings refs mode = [] := by
  cases mode with
  | declare =>
    refine List.filterMap_eq_nil_iff.2 fun r member => ?_
    obtain ⟨type, literal, declared⟩ :=
      declaration_of_declares (settled r ((declarationOrder_perm refs).mem_iff.1 member))
    rw [declared]
    rfl
  | inline =>
    refine List.filterMap_eq_nil_iff.2 fun r member => ?_
    obtain ⟨p, found, declarable⟩ := settled r member
    cases value : p.value with
    | typed => simp [inlineWarning?, found, value, Classification.literal?, Classification.issue?]
    | untyped => simp [value, Classification.isDeclarable, Classification.type?] at declarable

end Registry

section

variable {call sql : Text} {mode : Mode}

theorem mem_plan_iff : w ∈ ((parseCall call).plan sql mode).warnings ↔
    w ∈ (parseCall call).warnings ∨ w ∈ (parseCall call).params.check (references sql) ∨
      w ∈ (parseCall call).params.unreferenced (references sql) ∨
      w ∈ (parseCall call).params.modeWarnings (references sql) mode := by
  simp only [ParsedCall.plan, ParsedCall.findings, List.mem_append, or_assoc]

theorem mem_warnings (member : w ∈ (parseCall call).warnings) :
    w.topic = .call ∧ w.Planned ∨
      ∃ a ∈ repeated [] (assignments call), w = .duplicateAssignment a.name := by
  rw [warnings_parseCall] at member
  rcases List.mem_append.1 member with again | nothing
  · obtain ⟨a, among, rfl⟩ := List.mem_map.1 again
    exact .inr ⟨a, among, rfl⟩
  · split at nothing
    · rw [List.mem_singleton.1 nothing]
      split <;> exact .inl ⟨rfl, trivial⟩
    · contradiction

theorem topic_of_mem_check {params : Registry} (member : w ∈ params.check refs) :
    w.topic = .value := by
  obtain ⟨r, _, warned⟩ := List.mem_flatMap.1 member
  exact Warning.topic_of_doubts (params.doubts_of_mem_checkReference warned)

/-- The topic of a warning tells which part of a plan raised it. -/
theorem raised_by_topic (member : w ∈ ((parseCall call).plan sql mode).warnings) :
    match w.topic with
    | .call => w ∈ (parseCall call).warnings
    | .repetition => ∃ a ∈ repeated [] (assignments call), w = .duplicateAssignment a.name
    | .value => w ∈ (parseCall call).params.check (references sql)
    | .parameter => w ∈ (parseCall call).params.unreferenced (references sql)
    | .rendering => w ∈ (parseCall call).params.modeWarnings (references sql) mode
    | .formatting => False := by
  rcases mem_plan_iff.1 member with about | value | unused | rendered
  · rcases mem_warnings about with ⟨topic, _⟩ | ⟨a, again, rfl⟩
    · rw [topic]
      exact about
    · exact ⟨a, again, rfl⟩
  · rw [topic_of_mem_check value]
    exact value
  · obtain ⟨_, _, _, rfl⟩ := (Registry.mem_unreferenced_iff ..).1 unused
    exact unused
  · rw [(Registry.mem_modeWarnings _ _ _ rendered).1]
    exact rendered

theorem planned_of_mem_plan (member : w ∈ ((parseCall call).plan sql mode).warnings) :
    w.Planned := by
  have names : ∀ r ∈ references sql, IsName r.name := fun r found =>
    isName_of_isReference (isReference_of_mem_references found)
  rcases mem_plan_iff.1 member with about | value | unused | rendered
  · rcases mem_warnings about with ⟨_, planned⟩ | ⟨a, again, rfl⟩
    · exact planned
    · exact isName_of_mem_assignments (mem_of_mem_repeated again)
  · obtain ⟨r, found, warned⟩ := List.mem_flatMap.1 value
    exact Warning.planned_of_doubts (names r found)
      (Registry.doubts_of_mem_checkReference _ warned)
  · obtain ⟨p, given, _, rfl⟩ := (Registry.mem_unreferenced_iff ..).1 unused
    rw [params_parseCall_eq] at given
    obtain ⟨a, among, rfl⟩ := Registry.mem_ofAssignments given
    exact isName_of_mem_assignments among
  · exact (Registry.mem_modeWarnings _ _ _ rendered).2 names

/-- A value is doubted exactly where the call does not settle it. -/
theorem doubted_iff (referenced : r ∈ references sql) :
    (∃ w : Warning, w.Doubts r.name ∧ w ∈ ((parseCall call).plan sql mode).warnings) ↔
      ¬(parseCall call).params.Declares r := by
  rw [← Registry.checkReference_eq_nil_iff]
  constructor
  · rintro ⟨w, doubts, member⟩ none
    have raised := raised_by_topic member
    rw [Warning.topic_of_doubts doubts] at raised
    obtain ⟨s, found, warned⟩ := List.mem_flatMap.1 raised
    have other := Registry.doubts_of_mem_checkReference _ warned
    have same : s = r := eq_of_name_eq (isReference_of_mem_references found)
      (isReference_of_mem_references referenced) (Warning.eq_of_doubts other doubts)
    rw [same, none] at warned
    contradiction
  · intro some
    obtain ⟨w, warned⟩ := List.exists_mem_of_ne_nil _ some
    exact ⟨w, Registry.doubts_of_mem_checkReference _ warned,
      mem_plan_iff.2 (.inr (.inl (List.mem_flatMap.2 ⟨r, referenced, warned⟩)))⟩

theorem unused_iff (given : p ∈ (parseCall call).params) :
    .unreferencedParam p.name ∈ ((parseCall call).plan sql mode).warnings ↔
      p.key ∉ (references sql).map Reference.key := by
  constructor
  · intro member
    obtain ⟨q, _, unused, same⟩ := (Registry.mem_unreferenced_iff ..).1 (raised_by_topic member)
    have key : p.key = q.key := congrArg Text.lower (Warning.unreferencedParam.inj same)
    rwa [key]
  · intro unused
    exact mem_plan_iff.2
      (.inr (.inr (.inl ((Registry.mem_unreferenced_iff ..).2 ⟨p, given, unused, rfl⟩))))

theorem repetition_iff :
    (∃ w ∈ ((parseCall call).plan sql mode).warnings, w.topic = .repetition) ↔
      ¬((assignments call).map fun a => Text.lower a.name).Nodup := by
  have distinct := repeated_eq_nil_iff [] (assignments call)
  simp only [List.not_mem_nil, not_false_eq_true, implies_true, and_true] at distinct
  rw [← distinct]
  constructor
  · rintro ⟨w, member, topic⟩ none
    have raised := raised_by_topic member
    rw [topic] at raised
    obtain ⟨a, again, _⟩ := raised
    rw [none] at again
    contradiction
  · intro some
    obtain ⟨a, again⟩ := List.exists_mem_of_ne_nil _ some
    refine ⟨.duplicateAssignment a.name, mem_plan_iff.2 (.inl ?_), rfl⟩
    rw [warnings_parseCall]
    exact List.mem_append_left _ (List.mem_map_of_mem again)

/-- Nothing is reported exactly where nothing is guessed. -/
theorem warnings_eq_nil_iff : ((parseCall call).plan sql mode).warnings = [] ↔
    assignments call ≠ [] ∧ ((assignments call).map fun a => Text.lower a.name).Nodup ∧
      (∀ p ∈ (parseCall call).params, p.key ∈ (references sql).map Reference.key) ∧
      ∀ r ∈ references sql, (parseCall call).params.Declares r := by
  simp only [ParsedCall.plan, ParsedCall.findings, List.append_eq_nil_iff,
    warnings_parseCall_eq_nil_iff, Registry.check_eq_nil_iff, Registry.unreferenced_eq_nil_iff]
  constructor
  · rintro ⟨⟨⟨⟨some, distinct⟩, settled⟩, used⟩, _⟩
    exact ⟨some, distinct, used, settled⟩
  · rintro ⟨some, distinct, used, settled⟩
    exact ⟨⟨⟨⟨some, distinct⟩, settled⟩, used⟩, Registry.modeWarnings_eq_nil settled mode⟩

end

/-- What a script reports about the values, the parameters and the assignments of its call. -/
structure Reported (config : Config) (sql call : Text) (script : Script) : Prop where
  doubted : ∀ r ∈ references (config.statement sql),
    (∃ w : Warning, w.Doubts r.name ∧ w.message ∈ script.messages) ↔
      ¬(parseCall call).params.Declares r
  unused : ∀ p ∈ (parseCall call).params,
    (Warning.unreferencedParam p.name).message ∈ script.messages ↔
      p.key ∉ (references (config.statement sql)).map Reference.key
  repetition : (∃ name, (Warning.duplicateAssignment name).message ∈ script.messages) ↔
    ¬((assignments call).map fun a => Text.lower a.name).Nodup
  once : script.messages.Nodup
  silent : script.messages = [] ↔
    assignments call ≠ [] ∧ ((assignments call).map fun a => Text.lower a.name).Nodup ∧
      (∀ p ∈ (parseCall call).params,
        p.key ∈ (references (config.statement sql)).map Reference.key) ∧
      ∀ r ∈ references (config.statement sql), (parseCall call).params.Declares r
  certain : script.messages = [] → script.DeclaresTyped (references (config.statement sql))

section

variable {config : Config} {sql call : Text}

theorem topic_of_stem {w : Warning} (stem : w.stem = "Duplic") : w.topic = .repetition := by
  cases w with
  | duplicateAssignment => rfl
  | _ => simp [Warning.stem] at stem

theorem exists_repetition_iff {ws : List Warning} :
    (∃ name, (Warning.duplicateAssignment name).message ∈ distinctTexts (ws.map Warning.message)) ↔
      ∃ w ∈ ws, w.topic = .repetition := by
  constructor
  · rintro ⟨name, reported⟩
    obtain ⟨w, member, same⟩ := (mem_distinctTexts_iff ..).1 reported
    exact ⟨w, member, topic_of_stem (Warning.stem_of_message same)⟩
  · rintro ⟨w, member, topic⟩
    cases w with
    | duplicateAssignment name => exact ⟨name, (mem_distinctTexts_iff ..).2 ⟨_, member, rfl⟩⟩
    | _ => contradiction

/-- Where parameters are given and each is referenced, there are placeholders to declare. -/
theorem references_ne_nil (assigned : assignments call ≠ [])
    (used : ∀ p ∈ (parseCall call).params, p.key ∈ (references sql).map Reference.key) :
    references sql ≠ [] := by
  intro none
  have params : (parseCall call).params ≠ [] := by
    rwa [params_parseCall_eq, ne_eq, ofAssignments_eq_nil_iff]
  obtain ⟨p, given⟩ := List.exists_mem_of_ne_nil _ params
  have found := used p given
  rw [none] at found
  contradiction

theorem reported_of_done (unformatted : config.formatOutput = false)
    (done : (generate host config formatter sql call).outcome = .ok script) :
    Reported config sql call script := by
  rw [generate_outcome] at done
  obtain ⟨_, output, _, rfl, laid⟩ := Plan.of_finish done
  rw [formatBody_off unformatted]
  have messages : ((plan config sql call).script output none).messages =
      distinctTexts ((plan config sql call).warnings.map Warning.message) := by
    simp [Script.messages, Plan.script]
  have planned : ∀ w ∈ (plan config sql call).warnings, w.Planned := fun w member =>
    planned_of_mem_plan member
  constructor
  · intro r referenced
    have name := isName_of_isReference (isReference_of_mem_references referenced)
    rw [messages, ← doubted_iff referenced]
    constructor
    · rintro ⟨w, doubts, reported⟩
      have planned' := Warning.planned_of_doubts name doubts
      exact ⟨w, doubts, (message_mem_iff planned planned').1 reported⟩
    · rintro ⟨w, doubts, member⟩
      exact ⟨w, doubts, (message_mem_iff planned (planned w member)).2 member⟩
  · intro p given
    have name : IsName p.name := by
      rw [params_parseCall_eq] at given
      obtain ⟨a, among, rfl⟩ := Registry.mem_ofAssignments given
      exact isName_of_mem_assignments among
    have reported := message_mem_iff (v := .unreferencedParam p.name) planned name
    rw [messages, reported]
    exact unused_iff given
  · rw [messages, exists_repetition_iff]
    exact repetition_iff
  · rw [messages]
    exact nodup_distinctTexts _
  · rw [messages, distinctTexts_eq_nil_iff]
    exact warnings_eq_nil_iff
  · intro silent
    rw [messages, distinctTexts_eq_nil_iff] at silent
    obtain ⟨assigned, _, used, settled⟩ := warnings_eq_nil_iff.1 silent
    have mode : (plan config sql call).mode = .declare :=
      (ParsedCall.mode_eq_declare_iff ..).2 ⟨references_ne_nil assigned used, .inr settled⟩
    obtain ⟨n, rfl⟩ := laid mode
    exact declaresTyped_of_settled mode settled n _ _

/-- A call that settles the only placeholder. -/
theorem settled_single : references "SELECT @0" = [⟨"@0", "@0"⟩] ∧
    ∀ r ∈ references "SELECT @0", (parseCall "exec p,@0=1").params.Declares r := by
  have used : references "SELECT @0" = [⟨"@0", "@0"⟩] := by cbv
  have found : (parseCall "exec p,@0=1").params.get? "@0" = some ⟨"@0", "1", .typed "1" .int⟩ := by
    cbv
  refine ⟨used, ?_⟩
  intro r member
  rw [used, List.mem_singleton] at member
  subst member
  exact ⟨_, found, rfl⟩

/-- Without formatting a run ends in a script that reports every guess and nothing else, exactly
where nothing is declared or the block can be laid out. -/
theorem reported_iff (host : Host) (config : Config) (formatter : Option Formatter)
    (sql call : Text) (unformatted : config.formatOutput = false) :
    (∃ script, (generate host config formatter sql call).outcome = .ok script ∧
        Reported config sql call script) ↔
      references (config.statement sql) = [] ∨
        (config.policy = .strict ∧ ∃ r ∈ references (config.statement sql),
          ¬(parseCall call).params.Declares r) ∨
        ∃ n, checkIndent host config.declareIndent = .ok n := by
  have finished := Plan.finish_ok_iff (plan config sql call) host config formatter
  have inline : (plan config sql call).mode = .inline ↔ _ := ParsedCall.mode_eq_inline_iff ..
  rw [and_iff_right (not_breaks_off unformatted _ _), inline, or_assoc,
    ← generate_outcome] at finished
  rw [← finished]
  constructor
  · rintro ⟨script, done, _⟩
    exact ⟨script, done⟩
  · rintro ⟨script, done⟩
    exact ⟨script, done, reported_of_done unformatted done⟩

theorem reported_single : ∃ script,
    (generate .roomy { formatOutput := false } none "SELECT @0" "exec p,@0=1").outcome =
        .ok script ∧
      script.messages = [] ∧ script.DeclaresTyped [⟨"@0", "@0"⟩] := by
  obtain ⟨used, settled⟩ := settled_single
  have assigned : assignments "exec p,@0=1" = [⟨"@0", "1"⟩] := by cbv
  have keys : ∀ p ∈ (parseCall "exec p,@0=1").params,
      p.key ∈ (references "SELECT @0").map Reference.key := by
    have params : (parseCall "exec p,@0=1").params = [⟨"@0", "1", .typed "1" .int⟩] := by cbv
    rw [params, used]
    intro p given
    rw [List.mem_singleton.1 given]
    have key : Text.lower "@0" = "@0" := by cbv
    exact List.mem_singleton.2 key
  have distinct : ((assignments "exec p,@0=1").map fun a => Text.lower a.name).Nodup := by
    rw [assigned]
    exact List.nodup_singleton _
  obtain ⟨script, done, reported⟩ := (reported_iff .roomy { formatOutput := false } none "SELECT @0"
    "exec p,@0=1" rfl).2 (.inr (.inr ⟨8, rfl⟩))
  have silent := reported.silent.2
    ⟨assigned ▸ List.cons_ne_nil _ _, distinct, keys, settled⟩
  exact ⟨script, done, silent, used ▸ reported.certain silent⟩

/-- Where the spaces of an indent cannot be built, a call without a guess gives no script at all. -/
theorem unreported_wide_indent :
    (∀ r ∈ references "SELECT @0", (parseCall "exec p,@0=1").params.Declares r) ∧
      (generate .roomy { formatOutput := false, declareIndent := 2 ^ 63 } none "SELECT @0"
        "exec p,@0=1").outcome = .error (.layout .indentNotIndexable) ∧
      ¬∃ script, (generate .roomy { formatOutput := false, declareIndent := 2 ^ 63 } none
          "SELECT @0" "exec p,@0=1").outcome = .ok script ∧
        Reported { formatOutput := false, declareIndent := 2 ^ 63 } "SELECT @0" "exec p,@0=1"
          script := by
  obtain ⟨used, settled⟩ := settled_single
  have some : references "SELECT @0" ≠ [] := used ▸ List.cons_ne_nil _ _
  have refused : (generate .roomy { formatOutput := false, declareIndent := 2 ^ 63 } none
      "SELECT @0" "exec p,@0=1").outcome = .error (.layout .indentNotIndexable) := by
    rw [generate_outcome]
    exact Plan.finish_unfit ((ParsedCall.mode_eq_declare_iff ..).2 ⟨some, .inl rfl⟩) rfl
      (by rw [formatBody_off rfl])
  refine ⟨settled, refused, ?_⟩
  rintro ⟨script, done, _⟩
  have none := refused.symm.trans done
  contradiction

end

end SqlReplay
