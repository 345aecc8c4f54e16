import SqlReplay.Log.Entry
import SqlReplay.Store.FileTree
import SqlReplay.Text.CaseMap

/-! Logging over time. Nothing is heard before the first set-up, and each set-up replaces the one
before. Runs are scopes that open and close like brackets; the id of the innermost open one is
stamped on every entry. -/

namespace SqlReplay.Log

def Level.named? (name : Text) : Option Level :=
  [("DEBUG".toList, debug), ("INFO".toList, info), ("WARNING".toList, warning),
    ("WARN".toList, warning), ("ERROR".toList, error), ("CRITICAL".toList, critical),
    ("FATAL".toList, critical), ("NOTSET".toList, 0)].lookup name

/-- Level zero is no threshold of its own. -/
def Level.threshold (level : Level) : Level := if level = 0 then warning else level

structure Wish where
  level : Text
  style : Text
  file : Option Text := none
  recorders : Nat := 0

/-- Who listens, and from which level on: the console, perhaps a file, and recorders. -/
structure Setup where
  threshold : Level
  style : Style
  file : Option FilePath
  recorders : Nat
  deriving DecidableEq

inductive SetupFault
  | unknownLevel (name : Text)
  /-- The name is that of a text, which should be the name of a level in turn. -/
  | levelOfText (text : Text)
  /-- The name is that of something else. -/
  | notALevel (shown : Text)
  deriving DecidableEq

namespace SetupFault

def message : SetupFault → Text
  | .unknownLevel name => "module 'logging' has no attribute '" ++ name ++ "'"
  | .levelOfText text => "Unknown level: " ++ text.quoted
  | .notALevel shown => "Level not an integer or a valid string: " ++ shown

def basicLayout : Text := "%(levelname)s:%(name)s:%(message)s"

def layouts : Text :=
  "\x7b'%': (<class 'logging.PercentStyle'>, '" ++ basicLayout ++
    "'), '\x7b': (<class 'logging.StrFormatStyle'>, '\x7blevelname\x7d:\x7bname\x7d:" ++
    "\x7bmessage\x7d'), '$': (<class 'logging.StringTemplateStyle'>, " ++
    "'$\x7blevelname\x7d:$\x7bname\x7d:$\x7bmessage\x7d')\x7d"

/-- Two names are not those of levels but there all the same. -/
def ofName (name : Text) : SetupFault :=
  if name = "BASIC_FORMAT".toList then .levelOfText basicLayout
  else if name = "_STYLES".toList then .notALevel layouts
  else .unknownLevel name

end SetupFault

namespace Setup

def ofWish (w : Wish) : Except SetupFault Setup :=
  match Level.named? (Text.upper w.level) with
  | some level =>
    .ok ⟨level.threshold, .named w.style,
      (w.file.filter (!·.isEmpty)).map fun t => (FilePath.ofText t).collapsed, w.recorders⟩
  | none => .error (.ofName (Text.upper w.level))

def listeners (s : Setup) : Nat := 1 + s.file.toList.length + s.recorders

end Setup

structure Surroundings where
  host : Host
  time : Timestamp
  site : Site
  /-- The id for the n-th run that has none of its own. -/
  freshId : Nat → Text

structure Session where
  setup : Option Setup := none
  /-- The ids of the open runs, the innermost first. -/
  scopes : List Text := []
  generated : Nat := 0
  files : FileTree := .empty

structure Heard where
  console : Text := []
  recorded : List Entry := []

namespace Session

def currentId (s : Session) : Option Text := s.scopes.head?

def recorders (s : Session) : Nat := (s.setup.map Setup.recorders).getD 0

def enter (here : Surroundings) (s : Session) (id : Option Text) : Session × Text :=
  match id with
  | some (c :: rest) => ({ s with scopes := (c :: rest) :: s.scopes }, c :: rest)
  | _ =>
    let id := here.freshId (s.generated + 1)
    ({ s with scopes := id :: s.scopes, generated := s.generated + 1 }, id)

def leave (s : Session) : Session := { s with scopes := s.scopes.tail }

def entry (here : Surroundings) (s : Session) (event : Event) : Entry :=
  ⟨event, here.time, here.site, .ofActive s.currentId⟩

/-- An entry that has no line is skipped. -/
def lines (host : Host) (style : Style) (active : Option Text) (entries : List Entry) : Text :=
  (entries.filterMap fun e => (e.line host style active).toOption).flatMap (· ++ ['\n'])

def emit (here : Surroundings) (s : Session) (events : List Event) : Session × Heard :=
  match s.setup with
  | none => (s, {})
  | some setup =>
    let entries := (events.filter (setup.threshold ≤ ·.level)).map (s.entry here)
    let files := match setup.file with
      | none => s.files
      | some path =>
        s.files.append path (Utf8.encode (lines here.host .structured s.currentId entries))
    ({ s with files }, ⟨lines here.host setup.style s.currentId entries, entries⟩)

def configuredEvent (setup : Setup) (level style : Text) : Event :=
  ⟨.debug, rootLogger, "sqltrace logging configured",
    some [("configured_level", .str level), ("format_style", .str style),
      ("handler_count", .int setup.listeners)], none⟩

/-- Replaces the set-up and tells the new listeners of it, by the names it was given by. -/
def install (here : Surroundings) (s : Session) (setup : Setup) (level style : Text) :
    Session × Heard :=
  emit here { s with setup := some setup } [configuredEvent setup level style]

def configure (here : Surroundings) (s : Session) (w : Wish) :
    Except SetupFault (Session × Heard) :=
  match Setup.ofWish w with
  | .error fault => .error fault
  | .ok setup => .ok (s.install here setup (Text.upper w.level) w.style)

def listeners (s : Session) : Nat := (s.setup.map Setup.listeners).getD 0

@[simp] theorem scopes_emit (here : Surroundings) (s : Session) (events : List Event) :
    (s.emit here events).1.scopes = s.scopes := by
  unfold emit; split <;> rfl

end Session

/-- An event with fields of its own cannot have fields of these names. -/
def reservedNames : List Text := ["logger", "level", "message"]

inductive FieldFault
  | reserved (name : Text)
  deriving DecidableEq

def FieldFault.message : FieldFault → Text
  | .reserved name =>
    "log_with_context() got multiple values for argument '" ++ name ++ "'"

def Event.withFields (level : Level) (logger message : Text) (fields : Fields) :
    Except FieldFault Event :=
  match fields.find? (reservedNames.contains ·.1) with
  | some (name, _) => .error (.reserved name)
  | none => .ok ⟨level, logger, message, some fields, none⟩

end SqlReplay.Log
