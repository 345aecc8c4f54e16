import Mathlib
import SqlReplay.Proofs.Exec.Registry
import SqlReplay.Proofs.Literal.Form
import SqlReplay.Proofs.Sql.References
import SqlReplay.Script.Generate

/-! The script that declares its placeholders. Each piece of its block is read by itself whatever
follows it, so the block shows the declared names and the statement after it is read as it is. -/

namespace SqlReplay

/-- In front of every text this one is read by itself. -/
def Separate (t : Text) : Prop := ∀ rest, lexemes (t ++ rest) = lexemes t ++ lexemes rest

theorem separate_of_inert (inert : Inert t) : Separate t := by
  intro rest
  rw [lexemes_inert inert, lexemes_of_inert inert]

theorem Separate.append (first : Separate s) (second : Separate t) : Separate (s ++ t) := by
  intro rest
  rw [List.append_assoc, first, second, first, List.append_assoc]

theorem Separate.names (first : Separate s) (t : Text) :
    names (lexemes (s ++ t)) = names (lexemes s) ++ names (lexemes t) := by
  rw [first, names_append]

/-- A text that is read by itself and shows these placeholders. -/
def Shows (t : Text) (rs : List Reference) : Prop := Separate t ∧ names (lexemes t) = rs

theorem Shows.append (first : Shows s rs) (second : Shows t ts) : Shows (s ++ t) (rs ++ ts) :=
  ⟨first.1.append second.1, by rw [first.1.names, first.2, second.2]⟩

theorem shows_inert (inert : Inert t) : Shows t [] :=
  ⟨separate_of_inert inert, names_of_inert inert⟩

theorem shows_name (reference : IsReference r) : Shows (r.name ++ [' ']) [r] := by
  obtain ⟨name, rfl, nonempty, named⟩ := reference
  have space : Inert [' '] := inert_singleton rfl
  have read (rest : Text) : lexemes (('@' :: name) ++ [' '] ++ rest) =
      [⟨.placeholder, '@' :: name⟩, Span.plainChar ' '] ++ lexemes rest := by
    have stops : Named name ([' '] ++ rest) := ⟨named, by rintro c ⟨⟩; rfl⟩
    have precedes : Precedes ⟨.placeholder, '@' :: name⟩ ([' '] ++ rest) :=
      .placeholder nonempty stops (by simp)
    have taken := lexemes_of_precedes precedes
    rw [lexemes_inert space, lexemes_of_ne (by simp)] at taken
    rw [List.append_assoc]
    exact taken
  have alone := read []
  rw [List.append_nil, lexemes_nil, List.append_nil] at alone
  constructor
  · intro rest
    rw [Reference.ofName, read, alone]
  · rw [Reference.ofName, alone]
    rfl

theorem shows_literal (written : Written literal) (inert : Span.isSpecial c = false) :
    Shows (literal ++ [c]) [] := by
  have ends : Inert [c] := inert_singleton inert
  have read (rest : Text) :
      lexemes (literal ++ ([c] ++ rest)) = lexemes literal ++ lexemes ([c] ++ rest) := by
    refine lexemes_written written ?_
    rintro _ ⟨⟩
    contradiction
  have alone := read []
  rw [List.append_nil] at alone
  constructor
  · intro rest
    rw [List.append_assoc, read, alone, separate_of_inert ends, List.append_assoc]
  · rw [alone, names_append, names_written written, names_of_inert ends]
    rfl

theorem inert_ofNat (n : Nat) : Inert (Text.ofNat n) := by
  intro c member
  have digit : c.isDigit = true := Nat.isDigit_of_mem_toDigits (by decide) (by decide) member
  exact isSpecial_of_isNumberChar (isNumberChar_of_isDigit digit)

theorem inert_size (size : Size) : Inert size.text := by
  cases size with
  | exactly n => exact inert_ofNat n
  | unbounded => simp [Inert, Size.text, Span.isSpecial]

theorem inert_sized (opening : Inert t) (size : Size) : Inert (t ++ size.text ++ [')']) :=
  inert_append (inert_append opening (inert_size size)) (inert_singleton rfl)

theorem inert_type (type : SqlType) : Inert type.text := by
  cases type with
  | nvarchar size =>
    have opening : Inert "nvarchar(" := by simp [Inert, Span.isSpecial]
    exact inert_sized opening size
  | varchar size =>
    have opening : Inert "varchar(" := by simp [Inert, Span.isSpecial]
    exact inert_sized opening size
  | varbinary size =>
    have opening : Inert "varbinary(" := by simp [Inert, Span.isSpecial]
    exact inert_sized opening size
  | decimal precision scale =>
    have opening : Inert "decimal(" := by simp [Inert, Span.isSpecial]
    have comma : Inert "," := inert_singleton rfl
    have first := inert_append (inert_append opening (inert_ofNat precision)) comma
    exact inert_append (inert_append first (inert_ofNat scale)) (inert_singleton rfl)
  | datetime => change Inert "datetime"; simp [Inert, Span.isSpecial]
  | date => change Inert "date"; simp [Inert, Span.isSpecial]
  | time => change Inert "time"; simp [Inert, Span.isSpecial]
  | int => change Inert "int"; simp [Inert, Span.isSpecial]
  | bigint => change Inert "bigint"; simp [Inert, Span.isSpecial]

/-- A declaration with a type, up to the character that ends it. -/
theorem shows_typed (type : SqlType) (reference : IsReference r) (written : Written literal)
    (inert : Span.isSpecial c = false) :
    Shows ((Declaration.typed r.name type literal).text ++ [c]) [r] := by
  have equals : Inert " = " := by simp [Inert, Span.isSpecial]
  have parts := ((shows_name reference).append
    (shows_inert (inert_append (inert_type type) equals))).append (shows_literal written inert)
  simpa [Declaration.text] using parts

/-- The call settles the value and the type of a placeholder. -/
def Settled (params : Registry) (r : Reference) : Prop :=
  ∃ type literal, params.declaration r = .typed r.name type literal ∧ Written literal

theorem inert_spaces (n : Nat) : Inert (Text.spaces n) := by
  intro c member
  obtain rfl := List.eq_of_mem_replicate member
  rfl

theorem shows_declarations (params : Registry) (indent : Nat) (nonempty : rs ≠ [])
    (settled : ∀ r ∈ rs, IsReference r ∧ Settled params r) :
    Shows (joinDeclarations indent (rs.map fun r => (params.declaration r).text) ++ [';']) rs := by
  induction rs with
  | nil => contradiction
  | cons r rs ih =>
    obtain ⟨reference, type, literal, typed, written⟩ := settled r (List.mem_cons_self ..)
    cases rs with
    | nil =>
      rw [List.map_singleton, typed]
      exact shows_typed type reference written rfl
    | cons next rs =>
      have later := ih (List.cons_ne_nil _ _) fun s member =>
        settled s (List.mem_cons_of_mem _ member)
      have line : Inert ('\n' :: Text.spaces indent) :=
        inert_append (inert_singleton (c := '\n') rfl) (inert_spaces indent)
      have parts := ((shows_typed type reference written
        (show Span.isSpecial ',' = false from rfl)).append (shows_inert line)).append later
      rw [List.map_cons, List.map_cons, typed, joinDeclarations]
      · simpa using parts
      · simp

theorem shows_declareBlock (params : Registry) (indent : Nat) (nonempty : rs ≠ [])
    (settled : ∀ r ∈ rs, IsReference r ∧ Settled params r) :
    Shows (declareBlock indent (rs.map fun r => (params.declaration r).text)) rs := by
  have keyword : Inert "DECLARE " := by simp [Inert, Span.isSpecial]
  have lines : Inert ['\n', '\n'] := by simp [Inert, Span.isSpecial]
  have parts := ((shows_inert keyword).append
    (shows_declarations params indent nonempty settled)).append (shows_inert lines)
  change Shows ("DECLARE " ++ joinDeclarations indent _ ++ [';', '\n', '\n']) rs
  simpa only [List.nil_append, List.append_nil, List.append_assoc,
    List.singleton_append] using parts

/-- Where nothing is wrong with a placeholder, its value has a type. -/
theorem settled_of_check (checked : (Registry.ofAssignments as).checkReference r = []) :
    Settled (Registry.ofAssignments as) r := by
  unfold Registry.checkReference at checked
  split at checked
  · contradiction
  · next p found =>
    obtain ⟨a, _, rfl⟩ := Registry.mem_ofAssignments (List.mem_of_find?_eq_some found)
    cases value : classify a.value with
    | typed literal type =>
      have declared : (Registry.ofAssignments as).declaration r = .typed r.name type literal := by
        simp [Registry.declaration, found, Assignment.param, value]
      exact ⟨type, literal, declared, written_of_classify value⟩
    | untyped literal issue =>
      simp [Assignment.param, value, Classification.issue?] at checked

theorem modeFor_strict (declares : modeFor .strict refs found = .declare) :
    refs ≠ [] ∧ found = [] := by
  unfold modeFor at declares
  split at declares
  · next allowed => simpa using allowed
  · contradiction

def Config.statement (config : Config) (sql : Text) : Text :=
  if config.collapseLineBreaks then SqlReplay.collapseLineBreaks sql else sql

theorem Config.statement_eq (config : Config) (sql : Text) :
    (if config.collapseLineBreaks then SqlReplay.collapseLineBreaks sql else sql) =
      config.statement sql := rfl

theorem declareStatement_eq (host : Host) (declarations : List Text) (sql : Text)
    (indent : Int) : declareStatement host declarations sql indent =
      (checkIndent host indent).map fun n => declareBlock n declarations ++ Text.trim sql := by
  unfold declareStatement
  cases checkIndent host indent <;> rfl

theorem assemble_declare_ok {body : Text}
    (written : assemble host .declare declarations indent (.ok body) = .ok output) :
    ∃ n, output = declareBlock n (declarations.map Declaration.text) ++ Text.trim body := by
  simp only [assemble, declareStatement_eq] at written
  cases laid : checkIndent host indent with
  | error => rw [laid] at written; contradiction
  | ok n =>
    rw [laid] at written
    exact ⟨n, (Except.ok.inj written).symm⟩

/-- A script that declares is a block and the trimmed statement. -/
theorem generate_declare (unformatted : config.formatOutput = false)
    (done : (generate host config formatter sql call).outcome = .ok script)
    (declares : script.mode = .declare) :
    modeFor config.policy (references (config.statement sql))
        ((parseCall call).params.check (references (config.statement sql))) = .declare ∧
      ∃ n, script.output = declareBlock n
        ((Reference.declarationOrder (references (config.statement sql))).map
          fun r => ((parseCall call).params.declaration r).text) ++
        Text.trim (config.statement sql) := by
  simp only [generate, config.statement_eq] at done
  split at done
  · contradiction
  · next output written =>
    obtain rfl := Except.ok.inj done
    have mode : modeFor config.policy (references (config.statement sql))
        ((parseCall call).params.check (references (config.statement sql))) = .declare := declares
    refine ⟨mode, ?_⟩
    simp only [mode, formatBody, unformatted] at written
    obtain ⟨n, block⟩ := assemble_declare_ok written
    rw [List.map_map, trim_trim] at block
    exact ⟨n, block⟩

/-- A script declares where there are placeholders, nothing is wrong with any of them and the indent
can be laid out. -/
theorem generate_settled (host : Host) (config : Config) (formatter : Option Formatter)
    (sql call : Text) (unformatted : config.formatOutput = false)
    (some : references (config.statement sql) ≠ [])
    (checked : (parseCall call).params.check (references (config.statement sql)) = [])
    (fits : checkIndent host config.declareIndent = .ok n) : ∃ script,
      (generate host config formatter sql call).outcome = .ok script ∧ script.mode = .declare := by
  have mode : modeFor config.policy (references (config.statement sql)) [] = .declare := by
    simp [modeFor, some]
  have laid (declarations : List Declaration) (body : Text) :
      assemble host .declare declarations config.declareIndent (.ok body) =
        .ok (declareBlock n (declarations.map Declaration.text) ++ Text.trim body) := by
    rw [assemble, declareStatement_eq, fits]
    rfl
  simp only [generate, config.statement_eq, checked, mode, formatBody, unformatted,
    Bool.false_eq_true, if_false, laid]
  exact ⟨_, rfl, rfl⟩

/-- A strict script that declares is closed: read again it shows each placeholder of the statement
declared once, in the order of declaration, and after the block the statement as it is read
alone. -/
theorem declare_script_closed (host : Host) (config : Config) (formatter : Option Formatter)
    (sql call : Text) (script : Script) (strict : config.policy = .strict)
    (unformatted : config.formatOutput = false)
    (done : (generate host config formatter sql call).outcome = .ok script)
    (declares : script.mode = .declare) :
    let body := config.statement sql
    let declared := Reference.declarationOrder (references body)
    references script.output = declared ∧
      (occurrences script.output).map Occurrence.reference =
        declared ++ (occurrences body).map Occurrence.reference ∧
      (∀ o ∈ occurrences body, (declared.map Reference.key).count o.reference.key = 1) ∧
      (declared.map Reference.key).Nodup ∧
      (occurrences (Text.trim body)).map Occurrence.reference =
        (occurrences body).map Occurrence.reference ∧
      ∃ block, script.output = block ++ Text.trim body ∧
        lexemes script.output = lexemes block ++ lexemes (Text.trim body) := by
  intro body declared
  obtain ⟨mode, n, output⟩ := generate_declare unformatted done declares
  rw [strict] at mode
  obtain ⟨nonempty, checked⟩ := modeFor_strict mode
  obtain ⟨as, params⟩ := params_parseCall call
  rw [params] at checked output
  have permuted : declared.Perm (references body) := declarationOrder_perm _
  have settled : ∀ r ∈ declared, IsReference r ∧ Settled (Registry.ofAssignments as) r := by
    intro r member
    have among := permuted.mem_iff.1 member
    exact ⟨isReference_of_mem_references among,
      settled_of_check (List.flatMap_eq_nil_iff.1 checked r among)⟩
  have some : declared ≠ [] := by
    intro none
    rw [none] at permuted
    exact nonempty permuted.nil_eq.symm
  obtain ⟨separate, shown⟩ := shows_declareBlock (Registry.ofAssignments as) n some settled
  have distinct : (declared.map Reference.key).Nodup := declarationOrder_distinct body
  have seen : ∀ r ∈ names (lexemes body), r.key ∈ declared.map Reference.key := by
    intro r member
    have known := key_mem_distinctBy Reference.key _ member
    rw [← references_eq_names] at known
    exact (permuted.map Reference.key).mem_iff.2 known
  have whole : names (lexemes script.output) = declared ++ names (lexemes body) := by
    rw [output, separate.names, shown, names_trim]
  refine ⟨?_, ?_, ?_, distinct, ?_, _, output, ?_⟩
  · rw [references_eq_names, whole]
    exact distinctBy_append_seen Reference.key distinct seen
  · rw [occurrences_eq_names, whole, occurrences_eq_names]
  · intro o member
    have named : o.reference ∈ names (lexemes body) := by
      rw [← occurrences_eq_names]
      exact List.mem_map_of_mem member
    rw [distinct.count, if_pos (seen _ named)]
  · rw [occurrences_eq_names, names_trim, occurrences_eq_names]
  · rw [output, separate]

/-- Quotes, signs and comment marks inside a declared value stay there. -/
theorem declare_script_closed_quotes :
    ∃ script, (generate .roomy { policy := .strict, formatOutput := false } none
        "SELECT @B, @1, @b -- @c" "EXEC p, @1 = -5, @b = N'x''--@1,'").outcome = .ok script ∧
      script.mode = .declare ∧ references script.output = [⟨"@1", "@1"⟩, ⟨"@B", "@b"⟩] := by
  have used : references "SELECT @B, @1, @b -- @c" = [⟨"@B", "@b"⟩, ⟨"@1", "@1"⟩] := by cbv
  have some : references "SELECT @B, @1, @b -- @c" ≠ [] := used ▸ List.cons_ne_nil _ _
  obtain ⟨script, done, declares⟩ := generate_settled .roomy
    { policy := .strict, formatOutput := false } none "SELECT @B, @1, @b -- @c"
    "EXEC p, @1 = -5, @b = N'x''--@1,'" rfl some (by cbv) (n := 8) (by decide)
  have closed := declare_script_closed .roomy _ none _ _ script rfl rfl done declares
  refine ⟨script, done, declares, closed.1.trans ?_⟩
  cbv

end SqlReplay
