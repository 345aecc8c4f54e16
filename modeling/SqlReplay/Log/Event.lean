import SqlReplay.Fault

/-! What happens is told by events, each from a named logger. They are part of the answer of the
function in which they happen; who listens is decided elsewhere. -/

namespace SqlReplay.Log

abbrev Level := Int

namespace Level

def debug : Level := 10

def info : Level := 20

def warning : Level := 30

def error : Level := 40

def critical : Level := 50

def name (level : Level) : Text :=
  if level = debug then "DEBUG"
  else if level = info then "INFO"
  else if level = warning then "WARNING"
  else if level = error then "ERROR"
  else if level = critical then "CRITICAL"
  else if level = 0 then "NOTSET"
  else "Level " ++ Text.ofInt level

end Level

def rootLogger : Text := "sqltrace"

/-- The logger of a name, which is put under the root logger where it is not there already. -/
def loggerName : Option Text → Text
  | none => rootLogger
  | some name =>
    if name = rootLogger ∨ Text.startsWith name (rootLogger ++ ['.']) then name
    else rootLogger ++ '.' :: name

structure Event where
  level : Level
  logger : Text
  message : Text
  fields : Option Fields := none
  failure : Option Failure := none

end SqlReplay.Log
