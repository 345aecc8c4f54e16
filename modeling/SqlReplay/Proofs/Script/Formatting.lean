import SqlReplay.Proofs.Script.Report
import SqlReplay.Proofs.Sql.Blank

/-! What a formatter can change of a script. It is handed the statement and nothing else, so it
chooses the text of the statement and adds at most one warning after all others; where it gives no
text the script is the one of a run without formatting. Only an error that cannot be quoted goes
further: then there is no script. -/

namespace SqlReplay

section

variable {config : Config} {formatter : Option Formatter} {sql body : Text}

/-- The text that is given for this one, if there is a formatter and it does not fail. -/
def formatted? (formatter : Option Formatter) (options : FormatOptions) (text : Text) :
    Option Text :=
  formatter.bind fun f => (f.run text options).answer.toOption

/-- Formatting is asked for and gives no text. -/
def Refused (config : Config) (formatter : Option Formatter) (body : Text) : Prop :=
  config.formatOutput = true ∧ Text.IsBlank body = false ∧
    formatted? formatter config.formatOptions body = none

theorem formatBody_blank (blank : Text.IsBlank body = true) (config : Config)
    (formatter : Option Formatter) : formatBody config formatter body = { text := .ok body } := by
  unfold formatBody applyFormatter
  rw [if_pos blank, ite_self]

/-- Formatting that is asked for comes to the text that is given, or to a warning. -/
theorem formatBody_asked (on : config.formatOutput = true) (ink : Text.IsBlank body = false)
    (unbroken : ¬Breaks config formatter body) :
    match formatted? formatter config.formatOptions body with
    | some text => (formatBody config formatter body).text = .ok text ∧
        (formatBody config formatter body).warning? = none
    | none => (formatBody config formatter body).text = .ok body ∧
        ∃ w : Warning, w.topic = .formatting ∧
          (formatBody config formatter body).warning? = some w := by
  rw [formatBody, if_pos on]
  unfold applyFormatter formatted?
  rw [if_neg (by simp [ink])]
  cases formatter with
  | none => exact ⟨rfl, _, rfl, rfl⟩
  | some f =>
    dsimp only [Option.bind_some]
    cases answer : (f.run body config.formatOptions).answer with
    | ok given => exact ⟨rfl, rfl⟩
    | error error =>
      cases text : error.text with
      | error escaped => exact absurd ⟨on, ink, f, error, escaped, rfl, answer, text⟩ unbroken
      | ok message => simp [Except.toOption, text, Warning.topic]

theorem formatBody_done (on : config.formatOutput = true) (ink : Text.IsBlank body = false)
    (done : formatted? formatter config.formatOptions body = some text) :
    (formatBody config formatter body).text = .ok text ∧
      (formatBody config formatter body).warning? = none := by
  have unbroken : ¬Breaks config formatter body := by
    rintro ⟨_, _, f, error, escaped, rfl, answer, _⟩
    rw [formatted?, Option.bind_some, answer] at done
    contradiction
  have asked := formatBody_asked on ink unbroken
  rwa [done] at asked

theorem formatBody_refused (refused : Refused config formatter body)
    (unbroken : ¬Breaks config formatter body) :
    (formatBody config formatter body).text = .ok body ∧
      ∃ w : Warning, w.topic = .formatting ∧
        (formatBody config formatter body).warning? = some w := by
  obtain ⟨on, ink, none⟩ := refused
  have asked := formatBody_asked on ink unbroken
  rwa [none] at asked

/-- Formatting is passed over, gives a text, or is refused. -/
theorem formatBody_cases (config : Config) (formatter : Option Formatter) (body : Text) :
    (config.formatOutput = false ∨ Text.IsBlank body = true) ∨
      (∃ text, config.formatOutput = true ∧ Text.IsBlank body = false ∧
        formatted? formatter config.formatOptions body = some text) ∨
      Refused config formatter body := by
  unfold Refused
  cases config.formatOutput <;> cases Text.IsBlank body <;>
    cases formatted? formatter config.formatOptions body <;> simp

theorem formatBody_kept (kept : config.formatOutput = false ∨ Text.IsBlank body = true ∨
    formatted? formatter config.formatOptions body = none)
    (unbroken : ¬Breaks config formatter body) :
    (formatBody config formatter body).text = .ok body := by
  rcases formatBody_cases config formatter body with (off | blank) | ⟨text, on, ink, done⟩ | refused
  · rw [formatBody_off off]
  · rw [formatBody_blank blank]
  · simp [on, ink, done] at kept
  · exact (formatBody_refused refused unbroken).1

theorem formatBody_silent (passed : ¬Refused config formatter body) :
    (formatBody config formatter body).warning? = none := by
  rcases formatBody_cases config formatter body with (off | blank) | ⟨text, on, ink, done⟩ | refused
  · rw [formatBody_off off]
  · rw [formatBody_blank blank]
  · exact (formatBody_done on ink done).2
  · contradiction

section

variable (unbroken : ¬Breaks config formatter body)
include unbroken

theorem topic_of_formatBody (raised : (formatBody config formatter body).warning? = some w) :
    w.topic = .formatting := by
  by_cases refused : Refused config formatter body
  · obtain ⟨_, v, topic, same⟩ := formatBody_refused refused unbroken
    obtain rfl := Option.some.inj (raised.symm.trans same)
    exact topic
  · rw [formatBody_silent refused] at raised
    contradiction

/-- A warning is raised exactly where formatting is refused. -/
theorem formatBody_warns_iff : (formatBody config formatter body).warning?.isSome ↔
    Refused config formatter body := by
  constructor
  · intro raised
    by_contra passed
    rw [formatBody_silent passed] at raised
    contradiction
  · intro refused
    obtain ⟨_, w, _, raised⟩ := formatBody_refused refused unbroken
    rw [raised]
    rfl

end

theorem blank_statement (blank : Blank sql) (config : Config) : Blank (config.statement sql) := by
  unfold Config.statement
  split
  · exact blank_collapseLineBreaks blank
  · exact blank

theorem blank_body (blank : Blank sql) (params : Registry) (mode : Mode) :
    Blank (params.body sql mode) := by
  cases mode with
  | inline => exact blank_substitute blank _
  | declare =>
    have nothing : Blank [] := by simp [Blank]
    rwa [Registry.body, trim_of_blank blank]

end

namespace Plan

def front (p : Plan) (indent : Nat) : Text :=
  match p.mode with
  | .declare => p.block indent
  | .inline => []

/-- The statement as a script shows it: a block is followed by no blanks of the statement. -/
def shown (p : Plan) (text : Text) : Text :=
  match p.mode with
  | .declare => Text.trim text
  | .inline => text

theorem finish_fits {p : Plan}
    (formatted : (formatBody config formatter p.body).text = .ok text)
    (fits : checkIndent host config.declareIndent = .ok n) :
    p.finish host config formatter = .ok (p.script (p.front n ++ p.shown text)
      (formatBody config formatter p.body).warning?) := by
  cases mode : p.mode with
  | inline => simp only [finish_inline mode formatted, front, shown, mode, List.nil_append]
  | declare => simp only [finish_declare mode fits formatted, front, shown, mode]

end Plan

theorem shown_body (config : Config) (sql call : Text) :
    (plan config sql call).shown (plan config sql call).body = (plan config sql call).body := by
  cases mode : (plan config sql call).mode with
  | inline => simp only [Plan.shown, mode]
  | declare =>
    have body : (plan config sql call).body = Text.trim (config.statement sql) := by
      change (parseCall call).params.body _ (plan config sql call).mode = _
      rw [mode]
      rfl
    simp only [Plan.shown, mode, body, trim_trim]

theorem Warning.stem_of_planned {w v : Warning} (planned : w.Planned)
    (formatting : v.topic = .formatting) : w.stem ≠ v.stem := by
  cases v with
  | formatterUnavailable | formatterFailed =>
    cases w with
    | formatterUnavailable | formatterFailed => contradiction
    | _ => simp [Warning.stem]
  | _ => contradiction

/-- The messages of a script that formatting adds a warning to. -/
theorem messages_script {p : Plan} (planned : ∀ w ∈ p.warnings, w.Planned)
    (warning : ∀ w ∈ warning?, Warning.topic w = .formatting) (output plain : Text) :
    (p.script output warning?).messages =
      (p.script plain none).messages ++ (warning?.map Warning.message).toList := by
  cases warning? with
  | none => simp [Script.messages, Plan.script]
  | some w =>
    -- no planned message starts like this one, so it is reported, and last
    have fresh : ∀ v ∈ p.warnings, v.stem ≠ w.stem := fun v member =>
      Warning.stem_of_planned (planned v member) (warning w rfl)
    simpa [Script.messages, Plan.script] using distinctTexts_concat fresh

/-- What a formatter may change of a script, whose statement is `body` and stands after `front`. -/
structure Formats (config : Config) (formatter : Option Formatter) (front body : Text)
    (plain script : Script) : Prop where
  mode : script.mode = plain.mode
  params : script.params = plain.params
  warning : ∃ warning? : Option Warning,
    script.messages = plain.messages ++ (warning?.map Warning.message).toList ∧
      (∀ w ∈ warning?, w.topic = .formatting) ∧
      (warning?.isSome ↔ Refused config formatter body)
  starts : front <+: script.output
  kept : config.formatOutput = false ∨ Text.IsBlank body = true ∨
    formatted? formatter config.formatOptions body = none → script.output = plain.output
  given : ∀ text, config.formatOutput = true → Text.IsBlank body = false →
    formatted? formatter config.formatOptions body = some text →
      script.output = front ++ if script.mode = .declare then Text.trim text else text

theorem formats_of_plan (sql call : Text) (n : Nat)
    (unbroken : ¬Breaks config formatter (plan config sql call).body)
    (formatted : (formatBody config formatter (plan config sql call).body).text = .ok text) :
    let p := plan config sql call
    Formats config formatter (p.front n) p.body (p.script (p.front n ++ p.body) none)
      (p.script (p.front n ++ p.shown text) (formatBody config formatter p.body).warning?) := by
  intro p
  have planned : ∀ w ∈ p.warnings, w.Planned := fun w member => planned_of_mem_plan member
  have warning : ∀ w ∈ (formatBody config formatter p.body).warning?, w.topic = .formatting :=
    fun w raised => topic_of_formatBody unbroken raised
  constructor
  · rfl
  · rfl
  · exact ⟨_, messages_script planned warning _ _, warning, formatBody_warns_iff unbroken⟩
  · exact List.prefix_append _ _
  · intro kept
    obtain rfl := Except.ok.inj (formatted.symm.trans (formatBody_kept kept unbroken))
    change p.front n ++ p.shown p.body = p.front n ++ p.body
    rw [shown_body]
  · intro given on ink done
    obtain rfl := Except.ok.inj (formatted.symm.trans (formatBody_done on ink done).1)
    change p.front n ++ p.shown _ = p.front n ++ if p.mode = .declare then _ else _
    cases mode : p.mode <;> simp [Plan.shown, mode]

/-- Two runs that differ in their formatters alone, beside a run without formatting: they give
scripts with one mode, one set of parameters and one text in front of the statement. -/
structure Isolated (host : Host) (config : Config) (first second : Option Formatter)
    (sql call : Text) (n : Nat) (front body : Text) (plain s t : Script) : Prop where
  unformatted : ∀ formatter,
    (generate host { config with formatOutput := false } formatter sql call).outcome = .ok plain
  first_done : (generate host config first sql call).outcome = .ok s
  second_done : (generate host config second sql call).outcome = .ok t
  mode : s.mode = t.mode
  params : s.params = t.params
  first_formats : Formats config first front body plain s
  second_formats : Formats config second front body plain t
  body_eq : body = (parseCall call).params.body (config.statement sql) plain.mode
  plain_output : plain.output = front ++ body
  declares : plain.mode = .declare → ∃ declarations, front = declareBlock n declarations
  inlines : plain.mode = .inline → front = []
  blank : Text.IsBlank sql = true → Text.IsBlank body = true

/-- Formatters are isolated exactly where neither fails, on the statement that it is handed, with an
error that cannot be quoted. -/
theorem formatter_isolated_iff (host : Host) (config : Config) (first second : Option Formatter)
    (sql call : Text) (fits : checkIndent host config.declareIndent = .ok n) :
    (∃ front body plain s t, Isolated host config first second sql call n front body plain s t) ↔
      ¬Breaks config first (plan config sql call).body ∧
        ¬Breaks config second (plan config sql call).body := by
  have unbroken_of_done {formatter : Option Formatter} {s : Script}
      (done : (generate host config formatter sql call).outcome = .ok s) :
      ¬Breaks config formatter (plan config sql call).body :=
    ((Plan.finish_ok_iff ..).1 ⟨s, generate_outcome host config formatter sql call ▸ done⟩).1
  constructor
  · rintro ⟨front, body, plain, s, t, isolated⟩
    exact ⟨unbroken_of_done isolated.first_done, unbroken_of_done isolated.second_done⟩
  · rintro ⟨unbroken, unbroken'⟩
    let p := plan config sql call
    obtain ⟨text, formatted⟩ := formatBody_unbroken unbroken
    obtain ⟨text', formatted'⟩ := formatBody_unbroken unbroken'
    have run {formatter : Option Formatter} {text : Text}
        (formatted : (formatBody config formatter p.body).text = .ok text) :=
      (generate_outcome host config formatter sql call).trans (Plan.finish_fits formatted fits)
    refine ⟨p.front n, p.body, p.script (p.front n ++ p.body) none, _, _, ?_, run formatted,
      run formatted', rfl, rfl, formats_of_plan sql call n unbroken formatted,
      formats_of_plan sql call n unbroken' formatted', rfl, rfl, ?_, ?_, ?_⟩
    · intro formatter
      have off : (formatBody { config with formatOutput := false } formatter p.body).text =
          .ok p.body := by rw [formatBody_off rfl]
      rw [generate_outcome]
      refine (Plan.finish_fits off fits).trans ?_
      rw [formatBody_off rfl, shown_body]
    · intro declare
      exact ⟨_, by simp only [Plan.front, show p.mode = .declare from declare]; rfl⟩
    · intro inline
      simp only [Plan.front, show p.mode = .inline from inline]
    · intro blank
      exact List.all_eq_true.2 (blank_body (blank_statement (blank_of_isBlank blank) config)
        (parseCall call).params p.mode)

def capitalizing : Formatter := ⟨"capitals", fun text _ => ⟨[], .ok (text.map Char.toUpper)⟩⟩

def refusing : Formatter :=
  ⟨"refusing", fun _ _ => ⟨[], .error ⟨.library, "FormattingError", .ok "refused"⟩⟩⟩

theorem formatter_isolated_refusing : checkIndent .roomy ({} : Config).declareIndent = .ok 8 ∧
    ∃ plain s t : Script,
      (generate .roomy { formatOutput := false } none "SELECT @0" "exec p,@0=1").outcome =
        .ok plain ∧
      (generate .roomy {} (some capitalizing) "SELECT @0" "exec p,@0=1").outcome = .ok s ∧
      (generate .roomy {} (some refusing) "SELECT @0" "exec p,@0=1").outcome = .ok t ∧
      s.mode = t.mode ∧ s.params = t.params ∧ s.messages = plain.messages ∧
      t.output = plain.output := by
  have fits : checkIndent .roomy ({} : Config).declareIndent = .ok 8 := rfl
  have capitals (body : Text) : ¬Breaks {} (some capitalizing) body := by
    rintro ⟨_, _, f, error, escaped, given, answer, _⟩
    obtain rfl := Option.some.inj given
    contradiction
  have refuses (body : Text) : ¬Breaks {} (some refusing) body := by
    rintro ⟨_, _, f, error, escaped, given, answer, text⟩
    obtain rfl := Option.some.inj given
    obtain rfl := Except.error.inj answer
    contradiction
  obtain ⟨front, body, plain, s, t, isolated⟩ := (formatter_isolated_iff .roomy {}
    (some capitalizing) (some refusing) "SELECT @0" "exec p,@0=1" fits).2 ⟨capitals _, refuses _⟩
  refine ⟨fits, plain, s, t, isolated.unformatted none, isolated.first_done, isolated.second_done,
    isolated.mode, isolated.params, ?_, isolated.second_formats.kept (.inr (.inr rfl))⟩
  obtain ⟨warning?, messages, _, raised⟩ := isolated.first_formats.warning
  cases warning? with
  | none => simpa using messages
  | some w =>
    have given : formatted? (some capitalizing) ({} : Config).formatOptions body =
        some (body.map Char.toUpper) := rfl
    exact absurd (given.symm.trans (raised.1 rfl).2.2) nofun

/-- A formatter whose error has a number for its detail, so that it cannot be put in words. -/
def unquotable : Formatter :=
  ⟨"unquotable", fun _ _ => ⟨[], .error (.ofFault ⟨.general, .int 5, ["x"]⟩)⟩⟩

/-- The error can be made, and its text is no text of its own but an error. Beside a run without a
formatter, which is not harmed, a run with this one has no script at all. -/
theorem formatter_intrudes_unquotable :
    Fault.create .general [.str "x"] (some (.int 5)) = .ok ⟨.general, .int 5, ["x"]⟩ ∧
      checkIndent .roomy ({} : Config).declareIndent = .ok 8 ∧
      (∃ s, (generate .roomy {} none "SELECT 1" []).outcome = .ok s) ∧
      (∃ error, (generate .roomy {} (some unquotable) "SELECT 1" []).outcome =
        .error (.escaped error) ∧ error.kind = "TypeError".toList ∧
        error.text = .ok "sequence item 1: expected str instance, int found") ∧
      ¬∃ front body plain s t,
        Isolated .roomy {} (some unquotable) none "SELECT 1" [] 8 front body plain s t := by
  have fits : checkIndent .roomy ({} : Config).declareIndent = .ok 8 := rfl
  have body : (plan {} "SELECT 1" []).body = "SELECT 1" := by cbv
  have breaks : Breaks {} (some unquotable) (plan {} "SELECT 1" []).body := by
    rw [body]
    exact ⟨rfl, by decide, unquotable, _, _, rfl, rfl, rfl⟩
  refine ⟨rfl, fits, ?_, ?_, ?_⟩
  · rw [generate_outcome, Plan.finish_ok_iff]
    exact ⟨not_breaks_none _ _, .inr ⟨8, fits⟩⟩
  · rw [generate_outcome]
    have message : (ArgumentFault.notText 1 "int").message =
        "sequence item 1: expected str instance, int found" := by decide
    refine ⟨.ofArgumentFault (.notText 1 "int"), Plan.finish_escaped ?_, rfl,
      congrArg Except.ok message⟩
    rw [body]
    rfl
  · rw [formatter_isolated_iff .roomy {} (some unquotable) none "SELECT 1" [] fits]
    exact fun unbroken => unbroken.1 breaks

end SqlReplay
