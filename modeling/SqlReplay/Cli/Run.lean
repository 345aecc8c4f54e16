import SqlReplay.Cli.Command
import SqlReplay.Script.Generate
import SqlReplay.Store.FileStore

/-! Runs of the command line. A run that generates uses, for each of its two texts, the one that is
given, else the one of the source, else the remembered one; unless told not to, it then remembers
both. -/

namespace SqlReplay

/-- What one run leaves to the next. -/
structure World where
  tree : FileTree
  session : Log.Session

/-- What a run finds. -/
structure Occasion where
  tools : Toolkit
  dialects : Dialects
  formatter : Option Formatter
  home : FilePath
  env : Environment
  input : Text
  here : Log.Surroundings

/-- An error that a run does not deal with. -/
inductive Crash
  | arguments (error : Raised)
  | logging (fault : Log.SetupFault)
  | settings (error : Raised)
  | unknownHome
  | undecodable (fault : Utf8.Fault)
  | state (fault : StateFault)
  /-- A remembered text has half of a pair in it. What then comes of it is not told here. -/
  | halfCharacter
  | generation (fault : RunFault)

/-- How a run ends: with all done, with a failure that was told, with its arguments or settings
refused, or with a crash. -/
inductive Ending
  | done
  | failed
  | refused (message : Text)
  | crashed (crash : Crash)

namespace Ending

def code : Ending → Nat
  | .done => 0
  | .failed => 1
  | .refused _ => 2
  | .crashed _ => 1

def ofRefusal : Refusal → Ending
  | .usage message => .refused message
  | .answered _ => .done
  | .escaped error => .crashed (.arguments error)

def ofSettings : SettingsFault → Ending
  | .improper fault => .refused fault.message
  | .escaped error => .crashed (.settings error)

end Ending

/-- The world with what was printed and asked so far. -/
structure Desk where
  world : World
  output : Text := []
  console : Text := []
  requests : List Request := []

def Toolkit.report (tools : Toolkit) (mode : Mode) (messages : List Text) : Text :=
  let style : Text := match mode with
    | .declare => "green"
    | .inline => "yellow"
  tools.marked ("[bold " ++ style ++ "]MODE: " ++ Text.upper mode.text ++ "[/]") ++
    if messages.isEmpty then tools.marked "No warnings."
    else tools.marked (if messages.length = 1 then "1 warning:"
        else Text.ofNat messages.length ++ " warnings:") ++
      messages.flatMap fun message => tools.unmarked ("  - " ++ message)

namespace Desk

def log (o : Occasion) (d : Desk) (events : List Log.Event) : Desk :=
  let (session, heard) := d.world.session.emit o.here events
  { d with world := { d.world with session }, console := d.console ++ heard.console }

def setUp (o : Occasion) (d : Desk) (options : LogOptions) : Except Log.SetupFault Desk := do
  let (session, heard) ← d.world.session.configure o.here
    { level := options.level, style := options.style }
  return { d with world := { d.world with session }, console := d.console ++ heard.console }

def tell (d : Desk) (shown : Text) : Desk := { d with console := d.console ++ shown }

def tellFault (o : Occasion) (d : Desk) (style what : Text) (fault : StateFault) : Desk :=
  d.tell (o.tools.marked
    ('[' :: style ++ ']' :: what ++ o.tools.escape fault.message ++ "[/]".toList))

def print (d : Desk) (shown : Text) : Desk := { d with output := d.output ++ shown }

def refuse (d : Desk) (refusal : Refusal) : Desk × Ending :=
  match refusal with
  | .answered output => (d.print output, .ofRefusal refusal)
  | _ => (d, .ofRefusal refusal)

end Desk

/-- The text of a source, and the standard input that is left. -/
def TextSource.read (input : Text) : TextSource → Except Utf8.Fault Text × Text
  | .standardInput => (.ok (Text.unifyNewlines input), [])
  | .file octets => (Text.unifyNewlines <$> Utf8.decode octets, input)

namespace GenerateOptions

/-- The configuration of the environment with the changes that the options make. Where they make
none, this checks again what has passed. -/
def config (o : GenerateOptions) (dialects : Dialects) (env : Environment) :
    Except SettingsFault Config × List Log.Event :=
  let (config, events) := loadConfig dialects env
  (config >>= (·.replace dialects o.changes), events)

def readText (given : Option Text) (source : Option TextSource) (input : Text) :
    Except Utf8.Fault (Option Text) × Text :=
  match given, source with
  | some t, _ => (.ok (some t), input)
  | none, none => (.ok none, input)
  | none, some s =>
    let (text, input) := s.read input
    (some <$> text, input)

def readTexts (o : GenerateOptions) (input : Text) :
    Except Utf8.Fault (Option Text × Option Text) :=
  let (sql, input) := readText o.sql o.sqlSource input
  let (exec, _) := readText o.exec o.execSource input
  return (← sql, ← exec)

end GenerateOptions

/-- Fills in remembered texts. Those that cannot be had are told of and count as empty, unless
content cannot be read at all. -/
def complete (o : Occasion) (store : FileStore) (sql exec : Option Text) (d : Desk) :
    Except Crash (InputState × Desk) :=
  match sql, exec with
  | some sql, some exec => .ok (⟨sql, exec⟩, d)
  | sql, exec =>
    match store.load o.here.host d.world.tree with
    | .ok s =>
      match sql <|> CodePoint.text? s.sql, exec <|> CodePoint.text? s.exec with
      | some sql, some exec => .ok (⟨sql, exec⟩, d)
      | _, _ => .error .halfCharacter
    | .error fault =>
      if fault.isFatal then .error (.state fault)
      else .ok (⟨sql.getD [], exec.getD []⟩,
        d.tellFault o "yellow" "Ignoring remembered inputs: " fault)

/-- Generates within a run of its own in the log. -/
def produce (o : Occasion) (config : Config) (s : InputState) (d : Desk) :
    Desk × Except RunFault Script :=
  let (session, _) := d.world.session.enter o.here none
  let made := generate o.here.host config o.formatter s.sql s.exec
  let d := { d with world := { d.world with session } }.log o made.events
  ({ d with
      world := { d.world with session := d.world.session.leave }
      requests := d.requests ++ made.requests }, made.outcome)

def keep (o : Occasion) (store : FileStore) (s : InputState) (d : Desk) : Desk × Ending :=
  let (tree, saved) := store.save o.here.host s d.world.tree
  let d := { d with world := { d.world with tree } }
  match saved with
  | .ok events => (d.log o events, .done)
  | .error fault =>
    if fault.isFatal then (d, .crashed (.state fault))
    else (d.tellFault o "yellow" "Could not remember inputs: " fault, .done)

def runGenerate (o : Occasion) (options : GenerateOptions) (d : Desk) : Desk × Ending :=
  let (config, events) := options.config o.dialects o.env
  let d := d.log o events
  match config with
  | .error fault => (d, .ofSettings fault)
  | .ok config =>
    match options.readTexts o.input with
    | .error fault => (d, .crashed (.undecodable fault))
    | .ok (sql, exec) =>
      match FileStore.open? o.home o.env options.stateFile with
      | none => (d, .crashed .unknownHome)
      | some store =>
        match complete o store sql exec d with
        | .error crash => (d, .crashed crash)
        | .ok (s, d) =>
          match produce o config s d with
          | (d, .error fault) => (d, .crashed (.generation fault))
          | (d, .ok script) =>
            let d := (d.print (o.tools.echo script.output)).tell
              (o.tools.report script.mode script.messages)
            if options.remember then keep o store s d else (d, .done)

def runClear (o : Occasion) (stateFile : Option Text) (d : Desk) : Desk × Ending :=
  match FileStore.open? o.home o.env stateFile with
  | none => (d, .crashed .unknownHome)
  | some store =>
    let (tree, cleared) := store.clear d.world.tree
    let d := { d with world := { d.world with tree } }
    match cleared with
    | .ok () => (d.tell (o.tools.marked "Remembered inputs cleared."), .done)
    | .error fault =>
      if fault.isFatal then (d, .crashed (.state fault))
      else (d.tellFault o "red" [] fault, .failed)

structure Report where
  ending : Ending
  output : Text
  console : Text
  requests : List Request

def Report.ofDesk (d : Desk) (ending : Ending) : Report :=
  ⟨ending, d.output, d.console, d.requests⟩

/-- Logging is set up once the command is known, before its own arguments are read. -/
def perform (o : Occasion) (arguments : List Text) (d : Desk) : Desk × Ending :=
  match o.tools.readShared Command.sharedOptions CommandName.all arguments with
  | .error refusal => d.refuse refusal
  | .ok (given, name, arguments) =>
    match d.setUp o (.ofGiven given) with
    | .error fault => (d, .crashed (.logging fault))
    | .ok d =>
      match Command.read o.tools d.world.tree arguments name with
      | .error refusal => d.refuse refusal
      | .ok (.generate options) => runGenerate o options d
      | .ok (.clear stateFile) => runClear o stateFile d

def run (o : Occasion) (arguments : List Text) (w : World) : World × Report :=
  let (d, ending) := perform o arguments { world := w }
  (d.world, .ofDesk d ending)

end SqlReplay
