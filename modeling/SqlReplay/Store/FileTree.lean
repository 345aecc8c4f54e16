import SqlReplay.Store.Path
import SqlReplay.Text.Utf8

/-! Files below a working directory. Entries are listed by the names that lead to them from the
root, which is always there; a path is followed name by name, a dot stays, and double dots go up.
Names and whole paths are limited by the octets they take. -/

namespace SqlReplay

inductive Entry
  | file (octets : Octets)
  | directory
  deriving DecidableEq

inductive FileError
  | notFound | alreadyExists | notDirectory | isDirectory | nameTooLong
  /-- A null character ends a path before its end, so the path is not even looked up. -/
  | nullCharacter
  deriving DecidableEq

def FileError.number? : FileError → Option Nat
  | .notFound => some 2
  | .alreadyExists => some 17
  | .notDirectory => some 20
  | .isDirectory => some 21
  | .nameTooLong => some 36
  | .nullCharacter => none

def FileError.reason : FileError → Text
  | .notFound => "No such file or directory"
  | .alreadyExists => "File exists"
  | .notDirectory => "Not a directory"
  | .isDirectory => "Is a directory"
  | .nameTooLong => "File name too long"
  | .nullCharacter => "embedded null byte"

structure FileFault where
  error : FileError
  path : FilePath
  deriving DecidableEq

def FileFault.message (f : FileFault) : Text :=
  match f.error.number? with
  | some number =>
    "[Errno " ++ Text.ofNat number ++ "] " ++ f.error.reason ++ ": " ++ f.path.text.quoted
  | none => f.error.reason

/-- What is done one after the other is done when each part is. -/
theorem bind_ok {x : Except ε α} {f : α → Except ε β} {b : β} (ran : x >>= f = .ok b) :
    ∃ a, x = .ok a ∧ f a = .ok b := by
  cases x with
  | error => cases ran
  | ok a => exact ⟨a, rfl, ran⟩

theorem lookup_filter_self [BEq α] [LawfulBEq α] (k : α) (xs : List (α × β)) :
    (xs.filter (·.1 != k)).lookup k = none := by
  simpa [List.lookup_eq_none_iff] using fun a _ _ h => Ne.symm h

theorem lookup_filter_ne [BEq α] [LawfulBEq α] {k m : α} (h : k ≠ m) (xs : List (α × β)) :
    (xs.filter (·.1 != m)).lookup k = xs.lookup k := by
  induction xs with
  | nil => rfl
  | cons x xs ih =>
    obtain ⟨j, v⟩ := x
    by_cases hj : j = m
    · subst hj; simp [ih, List.lookup_cons, beq_eq_false_iff_ne.2 h]
    · simp [hj, List.lookup_cons, ih]

abbrev Location := List Text

structure FileTree where
  entries : List (Location × Entry)

namespace FileTree

def empty : FileTree := ⟨[]⟩

def get? (tree : FileTree) (l : Location) : Option Entry :=
  if l.isEmpty then some .directory else tree.entries.lookup l

def set (tree : FileTree) (l : Location) (e : Entry) : FileTree :=
  ⟨tree.entries.filter (·.1 != l) ++ [(l, e)]⟩

def erase (tree : FileTree) (l : Location) : FileTree := ⟨tree.entries.filter (·.1 != l)⟩

theorem get?_set_self (tree : FileTree) (e : Entry) {l : Location} (h : l ≠ []) :
    (tree.set l e).get? l = some e := by
  simp [set, get?, h, List.lookup_append, lookup_filter_self]

theorem get?_set_of_ne (tree : FileTree) (e : Entry) {l m : Location} (h : m ≠ l) :
    (tree.set l e).get? m = tree.get? m := by
  simp [set, get?, List.lookup_append, lookup_filter_ne h, List.lookup_cons,
    beq_eq_false_iff_ne.2 h]

theorem get?_erase_self (tree : FileTree) {l : Location} (h : l ≠ []) :
    (tree.erase l).get? l = none := by
  simp [erase, get?, h, lookup_filter_self]

theorem get?_erase_of_ne (tree : FileTree) {l m : Location} (h : m ≠ l) :
    (tree.erase l).get? m = tree.get? m := by
  simp [erase, get?, lookup_filter_ne h]

def nameLimit : Nat := 255

def pathLimit : Nat := 4095

/-- Why a path cannot be looked up, whatever files there are. -/
def pathError? (path : Text) : Option FileError :=
  if '\x00' ∈ path then some .nullCharacter
  else if pathLimit < (Utf8.encode path).length then some .nameTooLong
  else none

/-- Where names lead from a place; all but the last must lead to directories. -/
def follow (tree : FileTree) (here : Location) : List Text → Except FileError Location
  | [] => .ok here
  | name :: rest =>
    match tree.get? here with
    | none => .error .notFound
    | some (.file _) => .error .notDirectory
    | some .directory =>
      if nameLimit < (Utf8.encode name).length then .error .nameTooLong
      else tree.follow (if name = ['.'] then here
        else if name = ['.', '.'] then here.dropLast
        else here ++ [name]) rest

def locate (tree : FileTree) (p : FilePath) : Except FileFault Location :=
  match pathError? p.text with
  | some e => .error ⟨e, p⟩
  | none => match tree.follow [] p.names with
    | .ok l => .ok l
    | .error e => .error ⟨e, p⟩

def entry? (tree : FileTree) (p : FilePath) : Option Entry :=
  match tree.locate p with
  | .ok l => tree.get? l
  | .error _ => none

def isDirectory (tree : FileTree) (p : FilePath) : Bool := tree.entry? p = some .directory

/-- Whether a path leads to anything. It does not if the way there is blocked by a file, or if it
cannot be looked up at all; a name that is too long is an error even so. -/
def leadsAnywhere (tree : FileTree) (p : FilePath) : Except FileFault Bool :=
  match tree.locate p with
  | .ok l => .ok (tree.get? l).isSome
  | .error fault => if fault.error = .nameTooLong then .error fault else .ok false

/-- Whether nothing is there, and nothing is in the way. -/
def isMissing (tree : FileTree) (p : FilePath) : Bool :=
  match tree.locate p with
  | .ok l => (tree.get? l).isNone
  | .error fault => fault.error = .notFound

/-- How many directories are missing at the end of the way to a path. -/
def missingAbove (tree : FileTree) (p : FilePath) : Nat :=
  ((List.range p.names.length).reverse.takeWhile fun n => tree.isMissing ⟨p.names.take n⟩).length

def read (tree : FileTree) (p : FilePath) : Except FileFault Octets := do
  match tree.get? (← tree.locate p) with
  | some (.file octets) => return octets
  | some .directory => throw ⟨.isDirectory, p⟩
  | none => throw ⟨.notFound, p⟩

/-- Reads the file of a path as it is written; no path at all leads nowhere. -/
def readWritten (tree : FileTree) (path : Text) : Except FileFault Octets :=
  match if path.isEmpty then some .notFound else pathError? path with
  | some e => .error ⟨e, .literal path⟩
  | none => tree.read (.literal path)

def write (tree : FileTree) (p : FilePath) (octets : Octets) : Except FileFault FileTree := do
  let l ← tree.locate p
  if tree.get? l = some .directory then throw ⟨.isDirectory, p⟩
  return tree.set l (.file octets)

def remove (tree : FileTree) (p : FilePath) : Except FileFault FileTree := do
  let l ← tree.locate p
  match tree.get? l with
  | some (.file _) => return tree.erase l
  | some .directory => throw ⟨.isDirectory, p⟩
  | none => throw ⟨.notFound, p⟩

def makeDirectory (tree : FileTree) (p : FilePath) : Except FileFault FileTree := do
  let l ← tree.locate p
  if (tree.get? l).isSome then throw ⟨.alreadyExists, p⟩
  return tree.set l .directory

/-- The tree after an attempt to make a directory; a directory that is there will do. -/
def settle (tree : FileTree) (p : FilePath) (fault : FileFault) : FileTree × Option FileFault :=
  (tree, if tree.isDirectory p then none else some fault)

/-- Makes a directory and those above it. What was made stays when a later one fails. -/
def makeDirectories (tree : FileTree) (p : FilePath) : FileTree × Option FileFault :=
  match tree.makeDirectory p with
  | .ok tree => (tree, none)
  | .error fault =>
    if _h : fault.error = .notFound ∧ p.names ≠ [] then
      match tree.makeDirectories p.parent with
      | (tree, some fault) => (tree, some fault)
      | (tree, none) =>
        match tree.makeDirectory p with
        | .ok tree => (tree, none)
        | .error fault => tree.settle p fault
    else tree.settle p fault
termination_by p.names.length
decreasing_by
  have := List.length_pos_iff.2 _h.2
  simp only [FilePath.parent, List.length_dropLast]
  omega

/-- Puts an entry in its place, with the directories above it. -/
def put (tree : FileTree) (p : FilePath) : Entry → FileTree
  | .directory => (tree.makeDirectories p).1
  | .file octets =>
    let tree := (tree.makeDirectories p.parent).1
    (tree.write p octets).toOption.getD tree

/-- Adds to the end of a file, which is made if it is not there. -/
def append (tree : FileTree) (p : FilePath) (octets : Octets) : FileTree :=
  tree.put p (.file ((tree.read p).toOption.getD [] ++ octets))

def list (tree : FileTree) (l : Location) : List Text :=
  ((tree.entries.filter fun (k, _) => k != [] && k.dropLast == l).filterMap
    fun (k, _) => k.getLast?).mergeSort fun a b => !List.lex b a

end FileTree

end SqlReplay
