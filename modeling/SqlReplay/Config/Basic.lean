import SqlReplay.Config.Options
import SqlReplay.Fault
import SqlReplay.Text.CaseMap

/-! Settings of the generation. Raw settings are checked in a fixed order, and a `Config` holds only
what passed: its indent is a natural number. Which dialects there are is known elsewhere. -/

namespace SqlReplay

/-- What becomes of parameters without a certain type: `variant` declares them with the type that
takes any value, `strict` gives up declaring. -/
inductive DeclarePolicy
  | variant | strict
  deriving DecidableEq

def DeclarePolicy.text : DeclarePolicy → Text
  | .variant => "variant"
  | .strict => "strict"

def DeclarePolicy.all : List DeclarePolicy := [.variant, .strict]

structure Config where
  policy : DeclarePolicy := .variant
  dialect : Text := "tsql"
  keywordCase : KeywordCase := .upper
  formatOutput : Bool := true
  collapseLineBreaks : Bool := false
  declareIndent : Nat := 8
  deriving DecidableEq

def Config.isStrict (c : Config) : Bool := c.policy = .strict

def Config.formatOptions (c : Config) : FormatOptions := ⟨c.dialect, c.keywordCase⟩

inductive ConfigFault
  | badChoice (value : Json) (setting : Text) (choices : List Text)
  | negativeIndent (n : Int)
  | unknownDialect (dialect : Text)

def ConfigFault.message : ConfigFault → Text
  | .badChoice value setting choices =>
    "Invalid value " ++ value.quoted ++ " for " ++ setting ++ "; expected one of: " ++
      Text.join [',', ' '] choices
  | .negativeIndent n => "declare_indent must not be negative, got " ++ Text.ofInt n
  | .unknownDialect dialect => "Unknown SQL dialect " ++ dialect.quoted

/-- What the tool that knows SQL dialects makes of the name of one. -/
inductive DialectAnswer
  | known
  | unknown
  /-- Looking for the dialect failed otherwise. -/
  | failed (error : Raised)

abbrev Dialects := Text → DialectAnswer

/-- Why settings make no configuration: one is wrong, or the dialect could not be checked. -/
inductive SettingsFault
  | improper (fault : ConfigFault)
  | escaped (error : Raised)

/-- Settings before they are checked; choices may be given as any value. -/
structure Settings where
  policy : Json
  dialect : Text
  keywordCase : Json
  formatOutput : Bool
  collapseLineBreaks : Bool
  declareIndent : Int

namespace Settings

/-- The choice that a value names, without regard to case and to blanks around. -/
def choose (choices : List α) (text : α → Text) (setting : Text) (value : Json) :
    Except ConfigFault α :=
  match choices.find? fun c => text c = Text.lower (Text.trim value.shown) with
  | some c => .ok c
  | none => .error (.badChoice value setting (choices.map text))

def checkDialect (dialects : Dialects) (dialect : Text) : Except SettingsFault Unit :=
  match dialects dialect with
  | .known => .ok ()
  | .unknown => .error (.improper (.unknownDialect dialect))
  | .failed error => .error (.escaped error)

def check (dialects : Dialects) (s : Settings) : Except SettingsFault Config := do
  let policy ← (choose DeclarePolicy.all DeclarePolicy.text "declare_policy" s.policy).mapError
    .improper
  let keywordCase ← (choose KeywordCase.all KeywordCase.text "keyword_case" s.keywordCase).mapError
    .improper
  if s.declareIndent < 0 then throw (.improper (.negativeIndent s.declareIndent))
  checkDialect dialects s.dialect
  return ⟨policy, s.dialect, keywordCase, s.formatOutput, s.collapseLineBreaks,
    s.declareIndent.toNat⟩

end Settings

def Config.settings (c : Config) : Settings :=
  ⟨.str c.policy.text, c.dialect, .str c.keywordCase.text, c.formatOutput, c.collapseLineBreaks,
    c.declareIndent⟩

/-- New values for some settings. -/
structure Changes where
  policy : Option Json := none
  dialect : Option Text := none
  keywordCase : Option Json := none
  formatOutput : Option Bool := none
  collapseLineBreaks : Option Bool := none
  declareIndent : Option Int := none

def Settings.apply (s : Settings) (changes : Changes) : Settings :=
  ⟨changes.policy.getD s.policy, changes.dialect.getD s.dialect,
    changes.keywordCase.getD s.keywordCase, changes.formatOutput.getD s.formatOutput,
    changes.collapseLineBreaks.getD s.collapseLineBreaks,
    changes.declareIndent.getD s.declareIndent⟩

/-- The configuration with some settings changed, checked as a whole. -/
def Config.replace (dialects : Dialects) (c : Config) (changes : Changes) :
    Except SettingsFault Config :=
  (c.settings.apply changes).check dialects

end SqlReplay
