import Mathlib
import SqlReplay.Proofs.Json.Depth
import SqlReplay.Proofs.Store.Loading

/-! What loading makes of a state file, whatever octets are in it. A file that says a state is
loaded as that state. Most others are refused as remembered inputs that cannot be had; the
exceptions are those that are no text, that nest too deep, or that hold a value which counts as not
given where a text is due. -/

namespace SqlReplay

/-- The octets of a file that is read as this text: UTF-8, with its line ends unified. -/
def Reads (octets : Octets) (text : Text) : Prop :=
  ∃ t, octets = Utf8.encode t ∧ text = Text.unifyNewlines t

/-- What a field says: nothing where it is missing or null, else its text. -/
inductive FieldSays (fields : FieldsOf CodePoint) (key : Text) : List CodePoint → Prop
  | missing : fields.lookup key.coded = none → FieldSays fields key []
  | null : fields.lookup key.coded = some .null → FieldSays fields key []
  | text (s : List CodePoint) : fields.lookup key.coded = some (.str s) → FieldSays fields key s

/-- Neither null nor a text. -/
def IsForeign (j : JsonOf CodePoint) : Prop := j ≠ .null ∧ ∀ s, j ≠ .str s

/-- False, zero or an empty container in the place of a text. -/
def FieldIgnored (fields : FieldsOf CodePoint) (key : Text) : Prop :=
  ∃ j, fields.lookup key.coded = some j ∧ IsForeign j ∧ j.isTruthy = false

def FieldRefused (fields : FieldsOf CodePoint) (key : Text) : Prop :=
  ∃ j, fields.lookup key.coded = some j ∧ IsForeign j ∧ j.isTruthy = true

/-- The state that a file says: none in a blank one, else that of the object that the text is read
as, however deep that is. -/
inductive Says : Text → InputStateOf CodePoint → Prop
  | blank : Text.IsBlank text = true → Says text {}
  | object (limit : Nat) : Text.IsBlank text = false → Json.decode limit text = .ok (.obj fields) →
      FieldSays fields "sql" sql → FieldSays fields "exec" exec → Says text ⟨sql, exec⟩

/-- The outcome is the state that the octets say, and where they say none it is a fault that is
reported as a matter of remembered inputs. -/
structure Honours (octets : Octets) (outcome : Except StateFault (InputStateOf CodePoint)) :
    Prop where
  loaded : ∀ text s, Reads octets text → Says text s → outcome = .ok s
  refused : (∀ text s, Reads octets text → ¬Says text s) →
    ∃ fault, outcome = .error fault ∧ fault.isFatal = false

/-- No nesting too deep, and no object with a field that is ignored and none that is refused. -/
structure Regular (host : Host) (text : Text) : Prop where
  shallow : ¬Json.IsTooDeep (Json.decode host.readDepth text)
  heeded : ∀ fields, Json.decode host.readDepth text = .ok (.obj fields) →
    FieldIgnored fields "sql" ∨ FieldIgnored fields "exec" →
      FieldRefused fields "sql" ∨ FieldRefused fields "exec"

section

variable {host : Host} {octets : Octets} {text : Text} {fields : FieldsOf CodePoint} {key : Text}

theorem Reads.unique (first : Reads octets s) (second : Reads octets t) : s = t := by
  obtain ⟨u, rfl, rfl⟩ := first
  obtain ⟨v, same, rfl⟩ := second
  have read := Utf8.decode_encode u
  rw [same, Utf8.decode_encode] at read
  rw [Except.ok.inj read]

theorem reads_encode (noReturn : '\r' ∉ text) : Reads (Utf8.encode text) text :=
  ⟨text, rfl, (Text.unifyNewlines_of_not_mem noReturn).symm⟩

theorem field_cases (fields : FieldsOf CodePoint) (key : Text) :
    (∃ s, FieldSays fields key s) ∨ FieldIgnored fields key ∨ FieldRefused fields key := by
  cases found : fields.lookup key.coded with
  | none => exact .inl ⟨_, .missing found⟩
  | some j =>
    by_cases null : j = .null
    · exact .inl ⟨_, .null (null ▸ found)⟩
    by_cases text : ∃ s, j = .str s
    · obtain ⟨s, rfl⟩ := text
      exact .inl ⟨s, .text s found⟩
    have foreign : IsForeign j := ⟨null, fun s same => text ⟨s, same⟩⟩
    cases truthy : j.isTruthy with
    | false => exact .inr (.inl ⟨j, found, foreign, truthy⟩)
    | true => exact .inr (.inr ⟨j, found, foreign, truthy⟩)

theorem FieldSays.not_foreign (told : FieldSays fields key s)
    (found : fields.lookup key.coded = some j) : ¬IsForeign j := by
  rintro ⟨null, text⟩
  cases told with
  | missing none => rw [none] at found; contradiction
  | null value => exact null (Option.some.inj (found.symm.trans value))
  | text s value => exact text s (Option.some.inj (found.symm.trans value))

theorem textField_of_told (told : FieldSays fields key s) :
    InputState.textField key (.obj fields) = .ok s := by
  cases told with
  | missing none => rw [InputState.textField, JsonOf.field?, none]; rfl
  | null value => rw [InputState.textField, JsonOf.field?, value]; rfl
  | text s value => exact InputState.textField_of_text value

theorem textField_of_ignored (ignored : FieldIgnored fields key) :
    InputState.textField key (.obj fields) = .ok [] := by
  obtain ⟨j, found, _, falsy⟩ := ignored
  rw [InputState.textField, JsonOf.field?, found, Option.filter_some_neg (by simp [falsy])]

theorem textField_of_refused (refused : FieldRefused fields key) :
    InputState.textField key (.obj fields) = .error .notTexts := by
  obtain ⟨j, found, ⟨_, text⟩, truthy⟩ := refused
  rw [InputState.textField, JsonOf.field?, found, Option.filter_some_pos truthy]
  cases j with
  | str s => exact absurd rfl (text s)
  | _ => rfl

theorem ofJson_of_told (sql : FieldSays fields "sql" s) (exec : FieldSays fields "exec" e) :
    InputState.ofJson (.obj fields) = .ok ⟨s, e⟩ := by
  rw [InputState.ofJson, textField_of_told sql, textField_of_told exec]
  rfl

theorem textField_of_not_refused (heard : ¬FieldRefused fields key) :
    ∃ s, InputState.textField key (.obj fields) = .ok s := by
  rcases field_cases fields key with ⟨s, told⟩ | ignored | refused
  · exact ⟨s, textField_of_told told⟩
  · exact ⟨[], textField_of_ignored ignored⟩
  · exact absurd refused heard

theorem ofJson_of_refused (refused : FieldRefused fields "sql" ∨ FieldRefused fields "exec") :
    InputState.ofJson (.obj fields) = .error .notTexts := by
  rw [InputState.ofJson]
  by_cases sql : FieldRefused fields "sql"
  · rw [textField_of_refused sql]
    rfl
  · obtain ⟨s, read⟩ := textField_of_not_refused sql
    rw [read, textField_of_refused (refused.resolve_left sql)]
    rfl

theorem ofJson_of_not_refused (heard : ¬(FieldRefused fields "sql" ∨ FieldRefused fields "exec")) :
    ∃ s, InputState.ofJson (.obj fields) = .ok s := by
  obtain ⟨sql, first⟩ := textField_of_not_refused (mt Or.inl heard)
  obtain ⟨exec, second⟩ := textField_of_not_refused (mt Or.inr heard)
  rw [InputState.ofJson, first, second]
  exact ⟨⟨sql, exec⟩, rfl⟩

theorem says_iff (ink : Text.IsBlank text = false) {s : InputStateOf CodePoint} : Says text s ↔
    ∃ limit fields, Json.decode limit text = .ok (.obj fields) ∧ FieldSays fields "sql" s.sql ∧
      FieldSays fields "exec" s.exec := by
  constructor
  · intro told
    cases told with
    | blank blank => rw [ink] at blank; contradiction
    | object limit _ read sql exec => exact ⟨limit, _, read, sql, exec⟩
  · rintro ⟨limit, fields, read, sql, exec⟩
    exact .object limit ink read sql exec

/-- What a text says is seen by every reader that does not come to its limit. -/
theorem fields_of_says (ink : Text.IsBlank text = false) {s : InputStateOf CodePoint}
    (told : Says text s) (within : ¬Json.IsTooDeep (Json.decode limit text)) :
    ∃ fields, Json.decode limit text = .ok (.obj fields) ∧ FieldSays fields "sql" s.sql ∧
      FieldSays fields "exec" s.exec := by
  obtain ⟨other, fields, read, sql, exec⟩ := (says_iff ink).1 told
  have same := Json.decode_unique within (Json.not_isTooDeep read)
  exact ⟨fields, same.trans read, sql, exec⟩

theorem not_says_of_ignored (ink : Text.IsBlank text = false)
    (read : Json.decode limit text = .ok (.obj fields))
    (ignored : FieldIgnored fields "sql" ∨ FieldIgnored fields "exec") : ¬Says text s := by
  intro told
  obtain ⟨others, same, sql, exec⟩ := fields_of_says ink told (Json.not_isTooDeep read)
  obtain rfl := JsonOf.obj.inj (Except.ok.inj (read.symm.trans same))
  rcases ignored with ⟨j, found, foreign, _⟩ | ⟨j, found, foreign, _⟩
  · exact sql.not_foreign found foreign
  · exact exec.not_foreign found foreign

theorem honours_iff (reads : Reads octets text)
    (outcome : Except StateFault (InputStateOf CodePoint)) :
    Honours octets outcome ↔ (∀ s, Says text s → outcome = .ok s) ∧
      ((∀ s, ¬Says text s) → ∃ fault, outcome = .error fault ∧ fault.isFatal = false) := by
  constructor
  · rintro ⟨loaded, refused⟩
    refine ⟨fun s => loaded text s reads, fun unsaid => refused fun other s reads' => ?_⟩
    rw [reads'.unique reads]
    exact unsaid s
  · rintro ⟨loaded, refused⟩
    refine ⟨fun other s reads' told => ?_, fun unsaid => refused fun s => unsaid text s reads⟩
    rw [reads'.unique reads] at told
    exact loaded s told

theorem ofContent_of_blank (reads : Reads octets text) (blank : Text.IsBlank text = true)
    (path : FilePath) : InputState.ofContent host path octets = .ok {} := by
  obtain ⟨t, rfl, rfl⟩ := reads
  rw [InputState.ofContent, Utf8.decode_encode]
  exact if_pos blank

theorem ofContent_of_ink (reads : Reads octets text) (ink : Text.IsBlank text = false)
    (path : FilePath) : InputState.ofContent host path octets =
      match Json.decode host.readDepth text with
      | .error (.tooDeep inArray) => .error (.tooDeep inArray)
      | .error fault => .error (.malformed path text fault)
      | .ok j => InputState.ofJson j := by
  obtain ⟨t, rfl, rfl⟩ := reads
  rw [InputState.ofContent, Utf8.decode_encode]
  exact if_neg (by rw [ink]; exact Bool.false_ne_true)

theorem honours_of_regular (reads : Reads octets text) (ink : Text.IsBlank text = false)
    (regular : Regular host text) (path : FilePath) :
    Honours octets (InputState.ofContent host path octets) := by
  rw [honours_iff reads, ofContent_of_ink reads ink]
  cases read : Json.decode host.readDepth text with
  | error fault =>
    refine ⟨fun s told => ?_, fun _ => ?_⟩
    · obtain ⟨fields, other, _⟩ := fields_of_says ink told regular.shallow
      exact nomatch read.symm.trans other
    · cases fault with
      | tooDeep inArray => exact absurd ⟨inArray, read⟩ regular.shallow
      | malformed complaint position => exact ⟨_, rfl, rfl⟩
      | numberTooLong digits => exact ⟨_, rfl, rfl⟩
  | ok j =>
    refine ⟨fun s told => ?_, fun unsaid => ?_⟩
    · obtain ⟨fields, same, sql, exec⟩ := fields_of_says ink told regular.shallow
      obtain rfl := Except.ok.inj (read.symm.trans same)
      exact ofJson_of_told sql exec
    · cases j with
      | obj fields =>
        refine ⟨.notTexts, ofJson_of_refused ?_, rfl⟩
        rcases field_cases fields "sql" with ⟨sql, told⟩ | ignored | refused
        · rcases field_cases fields "exec" with ⟨exec, told'⟩ | ignored | refused
          · exact absurd (.object host.readDepth ink read told told') (unsaid ⟨sql, exec⟩)
          · exact regular.heeded fields read (.inr ignored)
          · exact .inr refused
        · exact regular.heeded fields read (.inl ignored)
        · exact .inl refused
      | _ => exact ⟨_, rfl, rfl⟩

theorem regular_of_honours (reads : Reads octets text) (ink : Text.IsBlank text = false)
    (path : FilePath) (honours : Honours octets (InputState.ofContent host path octets)) :
    Regular host text := by
  obtain ⟨loaded, refused⟩ := (honours_iff reads _).1 honours
  rw [ofContent_of_ink reads ink] at loaded refused
  constructor
  · rintro ⟨inArray, read⟩
    rw [read] at loaded refused
    -- nothing else is lost: a text that says a state is not loaded, another one is not reported
    by_cases told : ∃ s, Says text s
    · obtain ⟨s, told⟩ := told
      exact nomatch loaded s told
    · obtain ⟨fault, failed, reported⟩ := refused fun s told' => told ⟨s, told'⟩
      obtain rfl := Except.error.inj failed
      contradiction
  · intro fields read ignored
    refine Classical.byContradiction fun heard => ?_
    obtain ⟨fault, failed, _⟩ := refused fun s => not_says_of_ignored ink read ignored
    obtain ⟨s, done⟩ := ofJson_of_not_refused heard
    rw [read] at failed
    exact nomatch done.symm.trans failed

theorem not_reads_of_undecodable {fault : Utf8.Fault} (decoded : Utf8.decode octets = .error fault)
    (text : Text) : ¬Reads octets text := by
  rintro ⟨t, rfl, _⟩
  have read := (Utf8.decode_encode t).symm.trans decoded
  contradiction

/-- Octets that are no text say nothing, and their fault is not reported. -/
theorem not_honours_of_undecodable {fault : Utf8.Fault}
    (decoded : Utf8.decode octets = .error fault) :
    ¬Honours octets (.error (.undecodable fault)) := by
  intro honours
  obtain ⟨cause, failed, reported⟩ := honours.refused fun text _ reads =>
    absurd reads (not_reads_of_undecodable decoded text)
  obtain rfl := Except.error.inj failed
  contradiction

/-- Loading honours what the octets of the file say exactly where they are a text that is blank or
regular. -/
theorem load_honours_iff (host : Host) {store : FileStore} {tree : FileTree}
    (read : tree.read store.path = .ok octets) : Honours octets (store.load host tree) ↔
      ∃ text, Reads octets text ∧ (Text.IsBlank text = true ∨ Regular host text) := by
  rw [FileStore.load_of_read read]
  cases decoded : Utf8.decode octets with
  | error fault =>
    rw [InputState.ofContent, decoded]
    refine iff_of_false (not_honours_of_undecodable decoded) ?_
    rintro ⟨text, reads, _⟩
    exact not_reads_of_undecodable decoded text reads
  | ok t =>
    have reads : Reads octets (Text.unifyNewlines t) := ⟨t, Utf8.decode_eq_ok_iff.1 decoded, rfl⟩
    constructor
    · intro honours
      refine ⟨_, reads, ?_⟩
      cases ink : Text.IsBlank (Text.unifyNewlines t) with
      | true => exact .inl rfl
      | false => exact .inr (regular_of_honours reads ink _ honours)
    · rintro ⟨text, reads', fine⟩
      cases ink : Text.IsBlank text with
      | true =>
        rw [honours_iff reads', ofContent_of_blank reads' ink]
        refine ⟨fun s told => ?_, fun unsaid => absurd (.blank ink) (unsaid {})⟩
        cases told with
        | blank => rfl
        | object _ other => rw [ink] at other; contradiction
      | false =>
        have regular := fine.resolve_left (by rw [ink]; exact Bool.false_ne_true)
        exact honours_of_regular reads' ink regular store.path

end

def stateTree (octets : Octets) : FileTree := FileTree.empty.set ["s.json"] (.file octets)

theorem read_stateTree (octets : Octets) :
    (stateTree octets).read (.ofText "s.json") = .ok octets := by cbv

/-- Half of a pair and a letter beyond ASCII in one field, and no other field. -/
def halvedText : Text := "\x7b\"sql\": \"\\ud800é\"\x7d"

theorem load_honours_halved :
    let store : FileStore := ⟨.ofText "s.json"⟩
    let octets := Utf8.encode halvedText
    let s : InputStateOf CodePoint := ⟨[.half 0, .char 'é'], []⟩
    (stateTree octets).read store.path = .ok octets ∧
      (∃ text, Reads octets text ∧ Says text s) ∧
      store.load .roomy (stateTree octets) = .ok s ∧
      Honours octets (store.load .roomy (stateTree octets)) := by
  intro store octets s
  have reads : Reads octets halvedText := reads_encode (by decide)
  have ink : Text.IsBlank halvedText = false := by decide
  have read : Json.decode Host.roomy.readDepth halvedText =
      .ok (.obj [(Text.coded "sql", .str [.half 0, .char 'é'])]) := by cbv
  have told : Says halvedText s := .object _ ink read (.text _ rfl) (.missing rfl)
  have regular : Regular .roomy halvedText := by
    refine ⟨Json.not_isTooDeep read, fun fields same ignored => ?_⟩
    obtain rfl := JsonOf.obj.inj (Except.ok.inj (read.symm.trans same))
    exact absurd told (not_says_of_ignored ink read ignored)
  have honours := (load_honours_iff .roomy (read_stateTree octets)).2
    ⟨halvedText, reads, .inr regular⟩
  exact ⟨read_stateTree octets, ⟨halvedText, reads, told⟩, honours.loaded _ s reads told, honours⟩

/-- An octet that is no text is not reported, and an empty list passes for a text. -/
theorem load_dishonours :
    let store : FileStore := ⟨.ofText "s.json"⟩
    let empty := Utf8.encode "\x7b\"sql\": []\x7d"
    (store.load .roomy (stateTree [0xFF]) = .error (.undecodable ⟨0, [0xFF], .invalidStart⟩) ∧
      (∀ text s, Reads [0xFF] text → ¬Says text s) ∧
      ¬Honours [0xFF] (store.load .roomy (stateTree [0xFF]))) ∧
    store.load .roomy (stateTree empty) = .ok {} ∧
      (∀ text s, Reads empty text → ¬Says text s) ∧
      ¬Honours empty (store.load .roomy (stateTree empty)) := by
  intro store empty
  have decoded : Utf8.decode [0xFF] = .error ⟨0, [0xFF], .invalidStart⟩ := by cbv
  have failed : store.load .roomy (stateTree [0xFF]) =
      .error (.undecodable ⟨0, [0xFF], .invalidStart⟩) := by cbv
  refine ⟨⟨failed, fun text _ reads => absurd reads (not_reads_of_undecodable decoded text),
    failed ▸ not_honours_of_undecodable decoded⟩, ?_⟩
  have reads : Reads empty "\x7b\"sql\": []\x7d" := reads_encode (by simp)
  have ink : Text.IsBlank "\x7b\"sql\": []\x7d" = false := by cbv
  have read : Json.decode Host.roomy.readDepth "\x7b\"sql\": []\x7d" =
      .ok (.obj [(Text.coded "sql", .arr [])]) := by cbv
  have ignored : FieldIgnored [(Text.coded "sql", .arr [])] "sql" :=
    ⟨.arr [], rfl, by simp [IsForeign], rfl⟩
  have loaded : store.load .roomy (stateTree empty) = .ok {} := by
    refine (FileStore.load_of_read (read_stateTree empty)).trans ?_
    rw [ofContent_of_ink reads ink, read]
    rfl
  have unsaid (text : Text) (s : InputStateOf CodePoint) (reads' : Reads empty text) :
      ¬Says text s := by
    rw [reads'.unique reads]
    exact not_says_of_ignored ink read (.inl ignored)
  refine ⟨loaded, unsaid, fun honours => ?_⟩
  obtain ⟨fault, other, _⟩ := honours.refused unsaid
  rw [loaded] at other
  contradiction

end SqlReplay
