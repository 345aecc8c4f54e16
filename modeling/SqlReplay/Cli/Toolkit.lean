import SqlReplay.Fault
import SqlReplay.Store.FileTree

/-! What the command line is made with. One tool is told which options there are and reads
arguments; another one prints. What they do is settled elsewhere. -/

namespace SqlReplay

inductive CommandName
  | generate | clear
  deriving DecidableEq

def CommandName.text : CommandName → Text
  | .generate => "generate"
  | .clear => "clear"

def CommandName.all : List CommandName := [.generate, .clear]

/-- What an option sets. -/
inductive Parameter
  | logLevel | logFormat
  | sql | sqlFile | exec | execFile
  | strict | format | keywordCase | joinLines | remember
  | stateFile
  deriving DecidableEq

inductive OptionKind
  | text
  | choice (choices : List Text) (anyCase : Bool)
  /-- A file that is opened for reading, or a dash for standard input. -/
  | source
  /-- A path, which must not lead to a directory. -/
  | file
  | switch (on : Bool)
  deriving DecidableEq

structure OptionSpelling where
  text : Text
  parameter : Parameter
  kind : OptionKind

/-- Where a text comes from that is not given itself. -/
inductive TextSource
  | standardInput
  | file (octets : Octets)
  deriving DecidableEq

/-- What the arguments give for each parameter. -/
structure Given where
  text : Parameter → Option Text
  switch : Parameter → Option Bool
  source : Parameter → Option TextSource

/-- How the arguments alone end a run. -/
inductive Refusal
  | usage (message : Text)
  /-- Something is shown instead, such as help. -/
  | answered (output : Text)
  | escaped (error : Raised)

structure Toolkit where
  /-- Reads arguments up to the name of a command, and leaves those of the command. -/
  readShared : List OptionSpelling → List CommandName → List Text →
    Except Refusal (Given × CommandName × List Text)
  readOwn : FileTree → List OptionSpelling → List Text → Except Refusal Given
  /-- What arrives at standard output where a text is printed. -/
  echo : Text → Text
  /-- What the console shows of a line with marks for styles in it. -/
  marked : Text → Text
  /-- What the console shows of a line without marks. -/
  unmarked : Text → Text
  /-- Keeps a text within a marked line from being taken for marks. -/
  escape : Text → Text

end SqlReplay
