import SqlReplay.Proofs.Script.DeclareBlock

/-! A run as a plan and what formatting makes of it. The policy decides the mode of a plan and
nothing else, the formatter gets its body and nothing else, and a run has no script only where the
formatter fails with an error that cannot be quoted, or a block cannot be laid out. -/

namespace SqlReplay

namespace Registry

/-- The call gives the placeholder a value that can be declared with its own type. -/
def Declares (params : Registry) (r : Reference) : Prop :=
  ∃ p, params.get? r.key = some p ∧ p.value.isDeclarable = true

/-- Warnings about what stands for the placeholders of a script. -/
def modeWarnings (params : Registry) (refs : List Reference) : Mode → List Warning
  | .declare => (Reference.declarationOrder refs).filterMap fun r => (params.declaration r).warning?
  | .inline => refs.filterMap params.inlineWarning?

def body (params : Registry) (sql : Text) : Mode → Text
  | .declare => Text.trim sql
  | .inline => substitute params.literal? sql

theorem checkReference_eq_nil_iff (params : Registry) (r : Reference) :
    params.checkReference r = [] ↔ params.Declares r := by
  unfold checkReference Declares
  cases found : params.get? r.key with
  | none => simp
  | some p => cases value : p.value <;>
      simp [value, Classification.issue?, Classification.isDeclarable, Classification.literal?,
        Classification.type?]

theorem check_eq_nil_iff (params : Registry) (refs : List Reference) :
    params.check refs = [] ↔ ∀ r ∈ refs, params.Declares r := by
  simp only [check, List.flatMap_eq_nil_iff, checkReference_eq_nil_iff]

theorem declaration_of_declares {params : Registry} (declares : params.Declares r) :
    ∃ type literal, params.declaration r = .typed r.name type literal := by
  obtain ⟨p, found, declarable⟩ := declares
  cases value : p.value with
  | typed literal type => exact ⟨type, literal, by simp [declaration, found, value]⟩
  | untyped => simp [value, Classification.isDeclarable, Classification.type?] at declarable

end Registry

theorem formatBody_off (off : config.formatOutput = false) (formatter : Option Formatter)
    (body : Text) : formatBody config formatter body = { text := .ok body } := by
  rw [formatBody, if_neg (by simp [off])]

/-- The formatter is called on this text, and fails with an error whose text cannot be had because
asking for it raises another one. -/
def Breaks (config : Config) (formatter : Option Formatter) (body : Text) : Prop :=
  config.formatOutput = true ∧ Text.IsBlank body = false ∧ ∃ f error escaped,
    formatter = some f ∧ (f.run body config.formatOptions).answer = .error error ∧
      error.text = .error escaped

theorem not_breaks_off (off : config.formatOutput = false) (formatter : Option Formatter)
    (body : Text) : ¬Breaks config formatter body := by
  rintro ⟨on, _⟩
  rw [off] at on
  contradiction

theorem not_breaks_none (config : Config) (body : Text) : ¬Breaks config none body := by
  rintro ⟨_, _, f, error, escaped, given, _⟩
  contradiction

/-- An error escapes from formatting exactly where the formatter breaks. -/
theorem formatBody_escapes_iff (config : Config) (formatter : Option Formatter) (body : Text) :
    (∃ escaped, (formatBody config formatter body).text = .error escaped) ↔
      Breaks config formatter body := by
  unfold formatBody applyFormatter Breaks
  cases config.formatOutput with
  | false => simp
  | true =>
    cases Text.IsBlank body with
    | true => simp
    | false =>
      cases formatter with
      | none => simp
      | some f =>
        cases answer : (f.run body config.formatOptions).answer with
        | ok formatted => simp [answer]
        | error error => cases text : error.text <;> simp [answer, text]

theorem formatBody_unbroken (unbroken : ¬Breaks config formatter body) :
    ∃ text, (formatBody config formatter body).text = .ok text := by
  cases formatted : (formatBody config formatter body).text with
  | ok text => exact ⟨text, rfl⟩
  | error escaped => exact absurd ((formatBody_escapes_iff ..).1 ⟨escaped, formatted⟩) unbroken

/-- What a run settles before its statement is formatted. -/
structure Plan where
  mode : Mode
  references : List Reference
  params : Registry
  warnings : List Warning
  body : Text

namespace ParsedCall

/-- Warnings about the call and about the values of placeholders, whatever the mode. -/
def findings (parsed : ParsedCall) (refs : List Reference) : List Warning :=
  parsed.warnings ++ parsed.params.check refs ++ parsed.params.unreferenced refs

def mode (parsed : ParsedCall) (policy : DeclarePolicy) (refs : List Reference) : Mode :=
  modeFor policy refs (parsed.params.check refs)

def plan (parsed : ParsedCall) (sql : Text) (mode : Mode) : Plan where
  mode := mode
  references := references sql
  params := parsed.params
  warnings := parsed.findings (references sql) ++ parsed.params.modeWarnings (references sql) mode
  body := parsed.params.body sql mode

/-- The variant policy declares wherever there are placeholders, the strict one only where each of
them is settled. -/
theorem mode_eq_declare_iff (parsed : ParsedCall) (policy : DeclarePolicy)
    (refs : List Reference) : parsed.mode policy refs = .declare ↔
      refs ≠ [] ∧ (policy = .variant ∨ ∀ r ∈ refs, parsed.params.Declares r) := by
  rw [← Registry.check_eq_nil_iff]
  unfold mode modeFor
  split <;> simp_all

theorem mode_eq_inline_iff (parsed : ParsedCall) (policy : DeclarePolicy)
    (refs : List Reference) : parsed.mode policy refs = .inline ↔
      refs = [] ∨ (policy = .strict ∧ ∃ r ∈ refs, ¬parsed.params.Declares r) := by
  have other : parsed.mode policy refs = .inline ↔ ¬parsed.mode policy refs = .declare := by
    cases parsed.mode policy refs <;> simp
  rw [other, mode_eq_declare_iff]
  constructor
  · intro refused
    by_cases none : refs = []
    · exact .inl none
    · cases policy with
      | variant => exact absurd ⟨none, .inl rfl⟩ refused
      | strict =>
        refine .inr ⟨rfl, ?_⟩
        by_contra settled
        push Not at settled
        exact refused ⟨none, .inr settled⟩
  · rintro (none | ⟨rfl, r, member, unsettled⟩) ⟨some, allowed⟩
    · exact some none
    · rcases allowed with impossible | settled
      · contradiction
      · exact unsettled (settled r member)

end ParsedCall

namespace Plan

def block (p : Plan) (indent : Nat) : Text :=
  declareBlock indent
    ((Reference.declarationOrder p.references).map fun r => (p.params.declaration r).text)

def layOut (p : Plan) (host : Host) (indent : Int) (body : Text) : Except LayoutFault Text :=
  match p.mode with
  | .declare => (checkIndent host indent).map fun n => p.block n ++ Text.trim body
  | .inline => .ok body

def script (p : Plan) (output : Text) (warning? : Option Warning) : Script :=
  ⟨p.mode, output, p.warnings ++ warning?.toList, p.params⟩

/-- The script of a plan, if no error escapes from formatting and it can be laid out with what
formatting made of the body. -/
def finish (p : Plan) (host : Host) (config : Config) (formatter : Option Formatter) :
    Except RunFault Script :=
  let formatted := formatBody config formatter p.body
  match formatted.text with
  | .error error => .error (.escaped error)
  | .ok text => match p.layOut host config.declareIndent text with
    | .error fault => .error (.layout fault)
    | .ok output => .ok (p.script output formatted.warning?)

section

variable {p : Plan} {host : Host} {config : Config} {formatter : Option Formatter} {text : Text}

theorem finish_escaped (formatted : (formatBody config formatter p.body).text = .error error) :
    p.finish host config formatter = .error (.escaped error) := by
  simp only [finish, formatted]

theorem finish_inline (inline : p.mode = .inline)
    (formatted : (formatBody config formatter p.body).text = .ok text) :
    p.finish host config formatter =
      .ok (p.script text (formatBody config formatter p.body).warning?) := by
  simp only [finish, formatted, layOut, inline]

theorem finish_declare (declare : p.mode = .declare)
    (fits : checkIndent host config.declareIndent = .ok n)
    (formatted : (formatBody config formatter p.body).text = .ok text) :
    p.finish host config formatter = .ok (p.script (p.block n ++ Text.trim text)
      (formatBody config formatter p.body).warning?) := by
  simp only [finish, formatted, layOut, declare, fits, Except.map]

theorem finish_unfit (declare : p.mode = .declare)
    (unfit : checkIndent host config.declareIndent = .error fault)
    (formatted : (formatBody config formatter p.body).text = .ok text) :
    p.finish host config formatter = .error (.layout fault) := by
  simp only [finish, formatted, layOut, declare, unfit, Except.map]

theorem of_finish (done : p.finish host config formatter = .ok s) :
    ∃ text output, (formatBody config formatter p.body).text = .ok text ∧
      s = p.script output (formatBody config formatter p.body).warning? ∧
      (p.mode = .declare → ∃ n, output = p.block n ++ Text.trim text) := by
  cases formatted : (formatBody config formatter p.body).text with
  | error error =>
    rw [finish_escaped formatted] at done
    contradiction
  | ok text =>
    cases mode : p.mode with
    | inline =>
      rw [finish_inline mode formatted] at done
      exact ⟨text, _, rfl, (Except.ok.inj done).symm, nofun⟩
    | declare =>
      cases laid : checkIndent host config.declareIndent with
      | ok n =>
        rw [finish_declare mode laid formatted] at done
        exact ⟨text, _, rfl, (Except.ok.inj done).symm, fun _ => ⟨n, rfl⟩⟩
      | error fault =>
        rw [finish_unfit mode laid formatted] at done
        contradiction

/-- A plan has a script exactly where the formatter does not break on its body, and it declares
nothing or its block can be laid out. -/
theorem finish_ok_iff (p : Plan) (host : Host) (config : Config) (formatter : Option Formatter) :
    (∃ script, p.finish host config formatter = .ok script) ↔
      ¬Breaks config formatter p.body ∧
        (p.mode = .inline ∨ ∃ n, checkIndent host config.declareIndent = .ok n) := by
  cases formatted : (formatBody config formatter p.body).text with
  | error error =>
    have breaks := (formatBody_escapes_iff ..).1 ⟨error, formatted⟩
    simp [finish_escaped formatted, breaks]
  | ok text =>
    have unbroken : ¬Breaks config formatter p.body := by
      rw [← formatBody_escapes_iff, formatted]
      simp
    rw [and_iff_right unbroken]
    cases mode : p.mode with
    | inline => exact iff_of_true ⟨_, finish_inline mode formatted⟩ (.inl rfl)
    | declare =>
      cases laid : checkIndent host config.declareIndent with
      | ok n => exact iff_of_true ⟨_, finish_declare mode laid formatted⟩ (.inr ⟨n, rfl⟩)
      | error fault => simp [finish_unfit mode laid formatted]

end

end Plan

def plan (config : Config) (sql call : Text) : Plan :=
  let parsed := parseCall call
  let sql := config.statement sql
  parsed.plan sql (parsed.mode config.policy (references sql))

/-- A run is its plan finished. -/
theorem generate_outcome (host : Host) (config : Config) (formatter : Option Formatter)
    (sql call : Text) : (generate host config formatter sql call).outcome =
      (plan config sql call).finish host config formatter := by
  simp only [generate, config.statement_eq, plan, ParsedCall.mode]
  generalize modeFor config.policy (references (config.statement sql))
    ((parseCall call).params.check (references (config.statement sql))) = mode
  cases mode with
  | inline =>
    simp only [Plan.finish, Plan.layOut, ParsedCall.plan, Registry.body]
    cases (formatBody config formatter
      (substitute (parseCall call).params.literal? (config.statement sql))).text <;> rfl
  | declare =>
    simp only [Plan.finish, Plan.layOut, ParsedCall.plan, Registry.body]
    cases (formatBody config formatter (Text.trim (config.statement sql))).text with
    | error => rfl
    | ok text =>
      simp only [assemble, declareStatement_eq]
      cases checkIndent host config.declareIndent with
      | error => rfl
      | ok n =>
        simp only [Except.map, Except.mapError, List.map_map, List.filterMap_map]
        rfl

end SqlReplay
