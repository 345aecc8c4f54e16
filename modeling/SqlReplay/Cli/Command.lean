import SqlReplay.Cli.Toolkit
import SqlReplay.Config.Basic
import SqlReplay.Log.Session

/-! The commands with their options, and what is asked for where an option is not given. -/

namespace SqlReplay

structure LogOptions where
  level : Text
  style : Text

def LogOptions.ofGiven (g : Given) : LogOptions :=
  ⟨(g.text .logLevel).getD (Log.Level.name .warning),
    (g.text .logFormat).getD Log.Style.simple.text⟩

/-- What a script is made of and how: texts given themselves come before those of sources. -/
structure GenerateOptions where
  sql : Option Text := none
  sqlSource : Option TextSource := none
  exec : Option Text := none
  execSource : Option TextSource := none
  strict : Option Bool := none
  formatOutput : Option Bool := none
  keywordCase : Option Text := none
  joinLines : Bool := false
  remember : Bool := true
  stateFile : Option Text := none
  deriving DecidableEq

namespace GenerateOptions

def ofGiven (g : Given) : GenerateOptions where
  sql := g.text .sql
  sqlSource := g.source .sqlFile
  exec := g.text .exec
  execSource := g.source .execFile
  strict := g.switch .strict
  formatOutput := g.switch .format
  keywordCase := g.text .keywordCase
  joinLines := (g.switch .joinLines).getD false
  remember := (g.switch .remember).getD true
  stateFile := g.text .stateFile

/-- Joining lines can only be asked for. -/
def changes (o : GenerateOptions) : Changes where
  policy := o.strict.map fun on => .str (if on then DeclarePolicy.strict else .variant).text
  formatOutput := o.formatOutput
  keywordCase := o.keywordCase.map .str
  collapseLineBreaks := if o.joinLines then some true else none

end GenerateOptions

/-- A command with what its own arguments ask for. -/
inductive Command
  | generate (options : GenerateOptions)
  | clear (stateFile : Option Text)

namespace Command

def sharedOptions : List OptionSpelling :=
  [⟨"--log-level", .logLevel, .choice ["DEBUG", "INFO", "WARNING", "ERROR"] true⟩,
    ⟨"--log-format", .logFormat, .choice ["simple", "structured"] false⟩]

def stateFileOption : OptionSpelling := ⟨"--state-file", .stateFile, .file⟩

def generateOptions : List OptionSpelling :=
  [⟨"--sql", .sql, .text⟩, ⟨"--sql-file", .sqlFile, .source⟩,
    ⟨"--exec", .exec, .text⟩, ⟨"--exec-file", .execFile, .source⟩,
    ⟨"--strict", .strict, .switch true⟩, ⟨"--variant", .strict, .switch false⟩,
    ⟨"--format", .format, .switch true⟩, ⟨"--no-format", .format, .switch false⟩,
    ⟨"--keyword-case", .keywordCase, .choice (KeywordCase.all.map KeywordCase.text) false⟩,
    ⟨"--join-lines", .joinLines, .switch true⟩,
    ⟨"--remember", .remember, .switch true⟩, ⟨"--no-remember", .remember, .switch false⟩,
    stateFileOption]

def clearOptions : List OptionSpelling := [stateFileOption]

def read (tools : Toolkit) (tree : FileTree) (arguments : List Text) :
    CommandName → Except Refusal Command
  | .generate => do
    return .generate (.ofGiven (← tools.readOwn tree generateOptions arguments))
  | .clear => do
    return .clear ((← tools.readOwn tree clearOptions arguments).text .stateFile)

end Command

end SqlReplay
