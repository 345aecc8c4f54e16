import SqlReplay.Config.Environment
import SqlReplay.Store.InputState

/-! Remembered inputs in a file. Loading reads the files; saving and clearing give the files as they
are afterwards, also when they fail. -/

namespace SqlReplay

structure FileStore where
  path : FilePath
  deriving DecidableEq

def storageLogger : Text := "sqltrace.storage"

namespace FileStore

/-- The file of the environment, or the default one in the home directory. -/
def defaultPath (env : Environment) : FilePath :=
  match env.get? "SQLTRACE_STATE_PATH" with
  | some (c :: rest) => .ofText (c :: rest)
  | _ => .ofText "~/.sqltrace/state.json"

/-- The store at a path, or at the default one. There is none in the home of another user. -/
def open? (home : FilePath) (env : Environment) (path : Option Text) : Option FileStore :=
  (((path.map FilePath.ofText).getD (defaultPath env)).expandHome? home).map (⟨·⟩)

def homeMessage : Text := "Could not determine home directory."

def load (host : Host) (store : FileStore) (tree : FileTree) :
    Except StateFault (InputStateOf CodePoint) :=
  match tree.leadsAnywhere store.path with
  | .error cause => .error (.unreachable cause)
  | .ok false => .ok {}
  | .ok true =>
    match tree.read store.path with
    | .error cause => .error (.unreadable store.path cause)
    | .ok octets => InputState.ofContent host store.path octets

def save (host : Host) (store : FileStore) (s : InputState) (tree : FileTree) :
    FileTree × Except StateFault (List Log.Event) :=
  if host.directoryDepth < tree.missingAbove store.path then (tree, .error .tooManyDirectories)
  else match tree.makeDirectories store.path.parent with
  | (tree, some cause) => (tree, .error (.ofFile cause (.unwritable store.path)))
  | (tree, none) =>
    match tree.write store.path s.content with
    | .error cause => (tree, .error (.ofFile cause (.unwritable store.path)))
    | .ok tree => (tree, .ok [⟨.debug, storageLogger,
        "Saved input state to " ++ store.path.text, none, none⟩])

/-- A file that is not there is as good as removed. -/
def clear (store : FileStore) (tree : FileTree) : FileTree × Except StateFault Unit :=
  match tree.remove store.path with
  | .ok tree => (tree, .ok ())
  | .error cause =>
    (tree, if cause.error = .notFound then .ok ()
      else .error (.ofFile cause (.unremovable store.path)))

end FileStore

end SqlReplay
