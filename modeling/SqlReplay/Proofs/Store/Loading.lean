import SqlReplay.Proofs.Json.Reading
import SqlReplay.Proofs.Text.Utf8
import SqlReplay.Store.FileStore

/-! What is saved is loaded, and nothing is after a clear. Neither changes where paths lead, since
the way to a path goes through directories only, and those stay. -/

namespace SqlReplay

namespace InputState

theorem textField_of_text {key : Text} {s : List CodePoint} {fields : FieldsOf CodePoint}
    (found : fields.lookup key.coded = some (.str s)) : textField key (.obj fields) = .ok s := by
  rw [textField, JsonOf.field?, found]
  cases s with
  | nil => rfl
  | cons => rfl

theorem plain_toJson (s : InputState) : Json.Plain s.toJson := by
  refine .obj ?_ fun f mem => ?_
  · simp only [List.map_cons, List.map_nil]
    decide
  · obtain rfl | later := List.mem_cons.1 mem
    · exact .str s.sql
    · obtain rfl := List.mem_singleton.1 later
      exact .str s.exec

theorem ofContent_content (host : Host) (path : FilePath) (s : InputState) :
    ofContent host path s.content = .ok s.coded := by
  have written : s.toJson.encodeIndented 2 = s.toJson.write (.ordered (some 2)) 0 := rfl
  have shallow : s.toJson.depth ≤ host.readDepth := by
    have one : s.toJson.depth = 1 := by simp [toJson, JsonOf.depth, JsonOf.depthFields]
    rw [one]
    exact host.readDepth_pos
  have read := Json.decode_write (plain_toJson s) shallow (some 2)
  have feeds : '\r' ∉ s.toJson.write (.ordered (some 2)) 0 := by
    intro mem
    obtain visible | ⟨feed, -⟩ := Json.shows_write (plain_toJson s) 0 '\r' mem
    · exact absurd visible (by decide)
    · exact absurd feed (by decide)
  have ink : Text.IsBlank (s.toJson.write (.ordered (some 2)) 0) = false := rfl
  have told (key : Text) : (Fields.coded [("sql", .str s.sql), ("exec", .str s.exec)]).lookup
      key.coded = (List.lookup key [("sql", .str s.sql), ("exec", .str s.exec)]).map Json.coded :=
    Fields.lookup_coded _ key
  have sql := textField_of_text (told "sql")
  have exec := textField_of_text (told "exec")
  rw [ofContent, content, written, Utf8.decode_encode]
  simp only [Text.unifyNewlines_of_not_mem feeds, ink, read, Bool.false_eq_true, if_false]
  rw [toJson, Fields.coded_obj, ofJson, sql, exec]
  rfl

end InputState

namespace FileTree

/-- Every directory of one tree is one of the other. -/
def KeepsDirectories (before after : FileTree) : Prop :=
  ∀ l, before.get? l = some .directory → after.get? l = some .directory

theorem follow_of_keepsDirectories {before after : FileTree} (keeps : before.KeepsDirectories after)
    {here l : Location} {names : List Text} (led : before.follow here names = .ok l) :
    after.follow here names = .ok l := by
  fun_induction follow before here names with
  | case1 => exact led
  | case2 => contradiction
  | case3 => contradiction
  | case4 => contradiction
  | case5 here name rest directory short ih =>
    rw [follow, keeps here directory]
    simp only [if_neg short]
    exact ih led

theorem locate_of_keepsDirectories {before after : FileTree} (keeps : before.KeepsDirectories after)
    {p : FilePath} {l : Location} (led : before.locate p = .ok l) : after.locate p = .ok l := by
  unfold locate at led ⊢
  split at led
  next => contradiction
  next =>
    split at led
    next followed =>
      rw [follow_of_keepsDirectories keeps followed]
      exact led
    next => contradiction

theorem keepsDirectories_set {tree : FileTree} {l : Location} (e : Entry)
    (free : tree.get? l ≠ some .directory) : tree.KeepsDirectories (tree.set l e) := by
  intro m directory
  rw [get?_set_of_ne tree e (by rintro rfl; exact free directory), directory]

theorem keepsDirectories_erase {tree : FileTree} {l : Location}
    (free : tree.get? l ≠ some .directory) : tree.KeepsDirectories (tree.erase l) := by
  intro m directory
  rw [get?_erase_of_ne tree (by rintro rfl; exact free directory), directory]

theorem ne_nil_of_free {tree : FileTree} {l : Location} (free : tree.get? l ≠ some .directory) :
    l ≠ [] := by
  rintro rfl
  exact free rfl

theorem write_inv {tree after : FileTree} {p : FilePath} {octets : Octets}
    (written : tree.write p octets = .ok after) :
    ∃ l, tree.locate p = .ok l ∧ tree.get? l ≠ some .directory ∧
      after = tree.set l (.file octets) := by
  obtain ⟨l, led, set⟩ := bind_ok written
  split at set
  next => cases set
  next free => exact ⟨l, led, free, (Except.ok.inj set).symm⟩

theorem remove_inv {tree after : FileTree} {p : FilePath} (removed : tree.remove p = .ok after) :
    ∃ l octets, tree.locate p = .ok l ∧ tree.get? l = some (.file octets) ∧
      after = tree.erase l := by
  obtain ⟨l, led, erased⟩ := bind_ok removed
  split at erased
  next octets found => exact ⟨l, octets, led, found, (Except.ok.inj erased).symm⟩
  next => cases erased
  next => cases erased

theorem leadsAnywhere_of_remove {tree : FileTree} {p : FilePath} {fault : FileFault}
    (failed : tree.remove p = .error fault) (gone : fault.error = .notFound) :
    tree.leadsAnywhere p = .ok false := by
  unfold remove at failed
  unfold leadsAnywhere
  cases led : tree.locate p with
  | error cause =>
    rw [led] at failed
    obtain rfl := Except.error.inj failed
    simp [gone]
  | ok l =>
    rw [led] at failed
    simp only [bind, Except.bind] at failed
    split at failed
    next => contradiction
    next => cases failed; contradiction
    next none => simp [none]

end FileTree

namespace FileStore

variable {host : Host} {store : FileStore} {tree : FileTree} {s : InputState}

theorem load_of_file {l : Location} {octets : Octets} (led : tree.locate store.path = .ok l)
    (found : tree.get? l = some (.file octets)) :
    store.load host tree = InputState.ofContent host store.path octets := by
  have there : tree.leadsAnywhere store.path = .ok true := by
    simp only [FileTree.leadsAnywhere, led, found, Option.isSome_some]
  have read : tree.read store.path = .ok octets := by
    simp only [FileTree.read, led, bind, Except.bind, found]
    rfl
  rw [load, there, read]

theorem load_of_read {octets : Octets} (read : tree.read store.path = .ok octets) :
    store.load host tree = InputState.ofContent host store.path octets := by
  obtain ⟨l, led, found⟩ := bind_ok read
  split at found
  next octets' file =>
    obtain rfl := Except.ok.inj found
    exact load_of_file led file
  next => contradiction
  next => contradiction

theorem load_of_absent (absent : tree.leadsAnywhere store.path = .ok false) :
    store.load host tree = .ok {} := by
  rw [load, absent]

/-- What is saved is loaded, by any host. -/
theorem load_save {reader : Host} {events : List Log.Event}
    (saved : (store.save host s tree).2 = .ok events) :
    store.load reader (store.save host s tree).1 = .ok s.coded := by
  unfold save at saved ⊢
  split at saved
  next => contradiction
  next few =>
    rw [if_neg few]
    split at saved
    next => contradiction
    next parents made =>
      split at saved
      next => contradiction
      next after written =>
        dsimp only
        obtain ⟨l, led, free, rfl⟩ := FileTree.write_inv written
        rw [load_of_file (FileTree.locate_of_keepsDirectories
            (FileTree.keepsDirectories_set _ free) led)
          (FileTree.get?_set_self _ _ (FileTree.ne_nil_of_free free)),
          InputState.ofContent_content]

theorem load_clear (cleared : (store.clear tree).2 = .ok ()) :
    store.load host (store.clear tree).1 = .ok {} := by
  apply load_of_absent
  unfold clear at cleared ⊢
  split at cleared
  next after removed =>
    dsimp only
    obtain ⟨l, octets, led, found, rfl⟩ := FileTree.remove_inv removed
    have free : tree.get? l ≠ some .directory := by simp [found]
    rw [FileTree.leadsAnywhere, FileTree.locate_of_keepsDirectories
      (FileTree.keepsDirectories_erase free) led]
    simp only [FileTree.get?_erase_self _ (FileTree.ne_nil_of_free free), Option.isSome_none]
  next cause failed =>
    dsimp only
    split at cleared
    next gone => exact FileTree.leadsAnywhere_of_remove failed gone
    next => contradiction

end FileStore

end SqlReplay
