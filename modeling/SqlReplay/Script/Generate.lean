import SqlReplay.Config.Basic
import SqlReplay.Exec.Parse
import SqlReplay.Format.Formatter
import SqlReplay.Script.Declare
import SqlReplay.Sql.Collapse

/-! A traced statement and its call become one script that can be run. Where every value has a type,
or the policy allows values of no certain type, the script declares the placeholders; otherwise the
values are written in their places. -/

namespace SqlReplay

inductive Mode
  | declare | inline
  deriving DecidableEq

def Mode.text : Mode → Text
  | .declare => "declare"
  | .inline => "inline"

/-- The script with every warning that was raised, in order, and all parameters of the call. -/
structure Script where
  mode : Mode
  output : Text
  warnings : List Warning
  params : Registry
  deriving DecidableEq

/-- What is reported: each warning once. -/
def Script.messages (s : Script) : List Text := distinctTexts (s.warnings.map Warning.message)

namespace Registry

def checkReference (params : Registry) (r : Reference) : List Warning :=
  match params.get? r.key with
  | none => [.missingValue r.name]
  | some p =>
    (if p.value.literal?.isNone then [.noLiteral r.name] else []) ++
      (p.value.issue?.map (Warning.uncertainType r.name)).toList

def check (params : Registry) (refs : List Reference) : List Warning :=
  refs.flatMap params.checkReference

def unreferenced (params : Registry) (refs : List Reference) : List Warning :=
  (params.filter fun p => !refs.any (·.key == p.key)).map fun p => .unreferencedParam p.name

def inlineWarning? (params : Registry) (r : Reference) : Option Warning :=
  match params.get? r.key with
  | none => some (.unresolved r.name)
  | some p =>
    match p.value.literal?, p.value.issue? with
    | none, _ => some (.leftUnchanged r.name)
    | some _, some issue => some (.bestEffort r.name issue)
    | some _, none => none

end Registry

/-- There are placeholders, and either anything can be declared or nothing was found wrong. -/
def modeFor (policy : DeclarePolicy) (refs : List Reference) (found : List Warning) : Mode :=
  if !refs.isEmpty && (policy = .variant || found.isEmpty) then .declare else .inline

/-- Why a run has no script: an error escaped from formatting, or the block cannot be laid out. -/
inductive RunFault
  | escaped (error : Raised)
  | layout (fault : LayoutFault)

/-- What a run came to: the script unless there is none, what was logged, and what was asked of the
outside. -/
structure Run where
  outcome : Except RunFault Script
  events : List Log.Event
  requests : List Request

def generatorLogger : Text := "sqltrace.core.generator"

def Script.event (s : Script) (refs : List Reference) : Log.Event :=
  ⟨.debug, generatorLogger, "Generated trace statement",
    some [("mode", .str s.mode.text), ("placeholder_count", .int refs.length),
      ("parameter_count", .int s.params.length), ("warning_count", .int s.messages.length)], none⟩

def formatBody (config : Config) (formatter : Option Formatter) (text : Text) : Formatted :=
  if config.formatOutput then applyFormatter formatter config.formatOptions text
  else { text := .ok text }

/-- The script as a whole, from the statement after formatting. -/
def assemble (host : Host) (mode : Mode) (declarations : List Declaration) (indent : Int)
    (body : Except Raised Text) : Except RunFault Text :=
  match body, mode with
  | .error error, _ => .error (.escaped error)
  | .ok body, .declare =>
    (declareStatement host (declarations.map Declaration.text) body indent).mapError .layout
  | .ok body, .inline => .ok body

def generate (host : Host) (config : Config) (formatter : Option Formatter) (sql call : Text) :
    Run :=
  let sql := if config.collapseLineBreaks then collapseLineBreaks sql else sql
  let parsed := parseCall call
  let refs := references sql
  let found := parsed.params.check refs
  let common := parsed.warnings ++ found ++ parsed.params.unreferenced refs
  let mode := modeFor config.policy refs found
  let declarations := (Reference.declarationOrder refs).map parsed.params.declaration
  let modeWarnings := match mode with
    | .declare => declarations.filterMap Declaration.warning?
    | .inline => refs.filterMap parsed.params.inlineWarning?
  let body := match mode with
    | .declare => formatBody config formatter (Text.trim sql)
    | .inline => formatBody config formatter (substitute parsed.params.literal? sql)
  match assemble host mode declarations config.declareIndent body.text with
  | .error fault => ⟨.error fault, parsed.events ++ body.events, body.requests⟩
  | .ok output =>
    let script : Script :=
      ⟨mode, output, common ++ modeWarnings ++ body.warning?.toList, parsed.params⟩
    ⟨.ok script, parsed.events ++ body.events ++ [script.event refs], body.requests⟩

end SqlReplay
