import SqlReplay.Config.Basic
import SqlReplay.Log.Event

/-! The configuration that environment variables describe. A number that cannot be read is logged
and left at its default; every other bad value is an error. -/

namespace SqlReplay

abbrev Environment := List (Text × Text)

def Environment.get? (env : Environment) (name : Text) : Option Text := env.lookup name

def truthWords : List Text := ["true", "1", "yes", "on", "enabled"]

def readBool (value : Text) : Bool := truthWords.contains (Text.lower (Text.trim value))

def readIndent (default : Nat) (value : Text) : Int × List Log.Event :=
  match Numeral.read? value with
  | some n => (n, [])
  | none => (default, [⟨.warning, "sqltrace.config",
      "Invalid integer value for SQLTRACE_DECLARE_INDENT: " ++ value ++ ", using default " ++
        Text.ofNat default, none, none⟩])

/-- The settings of an environment, with what is logged while they are read. -/
def Settings.ofEnvironment (env : Environment) : Settings × List Log.Event :=
  let defaults : Config := {}
  let (declareIndent, events) := match env.get? "SQLTRACE_DECLARE_INDENT" with
    | some value => readIndent defaults.declareIndent value
    | none => (defaults.declareIndent, [])
  (defaults.settings.apply
    { policy := (env.get? "SQLTRACE_DECLARE_POLICY").map .str
      dialect := env.get? "SQLTRACE_DIALECT"
      keywordCase := (env.get? "SQLTRACE_KEYWORD_CASE").map .str
      formatOutput := (env.get? "SQLTRACE_FORMAT_OUTPUT").map readBool
      collapseLineBreaks := (env.get? "SQLTRACE_COLLAPSE_LINE_BREAKS").map readBool
      declareIndent := some declareIndent }, events)

/-- The default settings are checked before any variable is read. -/
def loadConfig (dialects : Dialects) (env : Environment) :
    Except SettingsFault Config × List Log.Event :=
  match ({} : Config).settings.check dialects with
  | .error fault => (.error fault, [])
  | .ok _ =>
    let (settings, events) := Settings.ofEnvironment env
    (settings.check dialects, events)

end SqlReplay
