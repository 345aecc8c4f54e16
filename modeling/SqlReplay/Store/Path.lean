import SqlReplay.Text.Basic

/-! Paths as the names they pass through. Empty names and single dots are dropped, but for an empty
first name, which is the root; double dots stay, because what they lead to depends on the files. -/

namespace SqlReplay

structure FilePath where
  names : List Text
  deriving DecidableEq

namespace FilePath

def ofText (t : Text) : FilePath :=
  let names := (Text.splitAt '/' t).filter fun name => !name.isEmpty && name != ['.']
  ⟨if t.head? = some '/' then [] :: names else names⟩

def text (p : FilePath) : Text :=
  match p.names with
  | [] => ['.']
  | [[]] => ['/']
  | names => Text.join ['/'] names

/-- The path of a text that must lead to a directory if it ends like one. -/
def literal (t : Text) : FilePath :=
  let p := ofText t
  match (Text.splitAt '/' t).getLast? with
  | some [] | some ['.'] => ⟨p.names ++ [['.']]⟩
  | _ => p

/-- The path without double dots, each of which takes back the name before it. -/
def collapsed (p : FilePath) : FilePath :=
  ⟨p.names.foldl (fun names name =>
    if name = ['.', '.'] then names.dropLast else names ++ [name]) []⟩

def parent (p : FilePath) : FilePath := ⟨p.names.dropLast⟩

/-- A leading tilde is the home directory; nothing is known of another user's. -/
def expandHome? (p home : FilePath) : Option FilePath :=
  match p.names with
  | ['~'] :: rest => some ⟨home.names ++ rest⟩
  | ('~' :: _) :: _ => none
  | _ => some p

end FilePath

end SqlReplay
