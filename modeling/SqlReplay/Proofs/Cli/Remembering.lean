import Mathlib.Data.List.Chain
import SqlReplay.Proofs.Cli.Asking
import SqlReplay.Proofs.Script.Plan
import SqlReplay.Proofs.Store.Loading

/-! The command line remembers two texts from run to run. Each run that generates takes what it is
not given from them and leaves them as it used them, each run that clears leaves none, and whatever
else a run may come to leaves them alone. This holds for whatever reads the arguments. -/

namespace SqlReplay

/-- Any host that loads the state file gets these texts. -/
def FileStore.Holds (store : FileStore) (tree : FileTree) (s : InputState) : Prop :=
  ∀ host, store.load host tree = .ok s.coded

namespace Desk

end Desk

section Generating

variable {o : Occasion} {options : GenerateOptions} {d : Desk} {config : Config}
  {store : FileStore} {s : InputState}

section Texts

variable {sql exec : Option Text} (configured : (options.config o.dialects o.env).1 = .ok config)
  (read : options.readTexts o.input = .ok (sql, exec))
  (opened : FileStore.open? o.home o.env options.stateFile = some store)
  (holds : store.Holds d.world.tree s)

include configured read opened holds

end Texts

end Generating

def Command.stateFile : Command → Option Text
  | .generate options => options.stateFile
  | .clear stateFile => stateFile

structure Round where
  occasion : Occasion
  arguments : List Text
  found : World

namespace Round

def left (r : Round) : World := (run r.occasion r.arguments r.found).1

def report (r : Round) : Report := (run r.occasion r.arguments r.found).2

/-- The command that is read from the arguments, unless the run ends before. -/
def command (r : Round) : Except Ending Command := do
  let (given, name, arguments) ← (r.occasion.tools.readShared Command.sharedOptions CommandName.all
    r.arguments).mapError .ofRefusal
  let desk : Desk := { world := r.found }
  let _ ← (desk.setUp r.occasion (.ofGiven given)).mapError fun fault => .crashed (.logging fault)
  (Command.read r.occasion.tools r.found.tree arguments name).mapError .ofRefusal

variable {r : Round}

end Round

section

variable {r : Round} {store : FileStore} {s : InputState}

section Texts

variable {options : GenerateOptions} {config : Config} {sql exec : Option Text}
  (asked : r.command = .ok (.generate options))
  (configured : (options.config r.occasion.dialects r.occasion.env).1 = .ok config)
  (read : options.readTexts r.occasion.input = .ok (sql, exec))
  (opened : FileStore.open? r.occasion.home r.occasion.env options.stateFile = some store)
  (holds : store.Holds r.found.tree s)

include asked configured read opened holds

end Texts

end

namespace Round

end Round

section

variable {r again : Round} {s next after : InputState}

end

namespace Plainly

def nothing : Given := ⟨fun _ => none, fun _ => none, fun _ => none⟩

/-- Options that take a text or none, each spelled out, with a text in the argument behind it. -/
def readOwn (spellings : List OptionSpelling) : Given → List Text → Except Refusal Given
  | given, [] => .ok given
  | given, option :: rest =>
    match spellings.find? (·.text = option), rest with
    | some ⟨_, p, .switch on⟩, rest =>
      readOwn spellings
        { given with switch := fun q => if q = p then some on else given.switch q } rest
    | some ⟨_, p, .text⟩, t :: rest =>
      readOwn spellings { given with text := fun q => if q = p then some t else given.text q } rest
    | _, _ => .error (.usage option)

def readShared (names : List CommandName) :
    List Text → Except Refusal (Given × CommandName × List Text)
  | [] => .error (.usage [])
  | argument :: rest =>
    match names.find? (·.text = argument) with
    | some name => .ok (nothing, name, rest)
    | none => .error (.usage argument)

/-- A text without the colors in it: an escape and a bracket, digits and semicolons, a letter. -/
def uncolored (within : Bool) : Text → Text
  | [] => []
  | '\x1b' :: '[' :: rest => uncolored true rest
  | c :: rest =>
    if within then uncolored (c.isDigit || c = ';') rest else c :: uncolored false rest

/-- A line without the marks in it. -/
def unmarked (within : Bool) : Text → Text
  | [] => ['\n']
  | c :: rest =>
    if within then unmarked (c ≠ ']') rest
    else if c = '[' then unmarked true rest
    else c :: unmarked false rest

def tools : Toolkit where
  readShared _ names arguments := readShared names arguments
  readOwn _ spellings arguments := readOwn spellings nothing arguments
  echo t := uncolored false t ++ ['\n']
  marked := unmarked false
  unmarked t := t ++ ['\n']
  escape := id

end Plainly

end SqlReplay
