import SqlReplay.Config.Environment
import SqlReplay.Proofs.Exec.Bindings
import SqlReplay.Proofs.Literal.Spelling
import SqlReplay.Proofs.Text.Numeral
import SqlReplay.Store.FileTree

/-! Configurations written into environment variables. Which settings check to a configuration is
said field by field; variables with the fields of a configuration, however they are spelled, are
read as such settings. -/

namespace SqlReplay

/-- A word with each letter small or capital and blanks around it. -/
inductive Spelled (blank : Char → Bool) (word : Text) : Text → Prop
  | intro {before written after : Text} : (∀ c ∈ before, blank c = true) → AnyCase written word →
      (∀ c ∈ after, blank c = true) → Spelled blank word (before ++ written ++ after)

section Words

variable {word t : Text}

def Lettered (word : Text) : Prop := ∀ letter ∈ word, 97 ≤ letter.toNat ∧ letter.toNat ≤ 122

-- Left to search, the instance found would run through every character there is.
instance (word : Text) : Decidable (Lettered word) := List.decidableBAll _ word

theorem lower_trim_of_spelled (lettered : Lettered word) (spelled : Spelled isBlank word t) :
    Text.lower (Text.trim t) = word := by
  obtain @⟨before, middle, after, left, written, right⟩ := spelled
  have lowered := (map_toLower_eq_iff lettered).2 written
  have bounds : ∀ c ∈ middle, 65 ≤ c.toNat ∧ c.toNat ≤ 122 := by
    intro c member
    have letter := lettered c.toLower (lowered ▸ List.mem_map_of_mem member)
    rw [toNat_toLower] at letter
    split at letter <;> omega
  have ink : ∀ c ∈ middle, isBlank c = false := by
    intro c member
    obtain ⟨low, high⟩ := bounds c member
    exact isBlank_of_visible (by omega) (by omega)
  have trimmed : Trimmed middle :=
    ⟨fun c first => ink c (List.mem_of_mem_head? first),
      fun c last => ink c (List.mem_of_getLast? last)⟩
  have ascii : ∀ c ∈ middle, CaseMap.isAscii c = true := by
    intro c member
    have high := (bounds c member).2
    exact decide_eq_true (by omega)
  rw [trim_append left trimmed right, lower_of_ascii ascii, lowered]

theorem eq_of_anyCase_digits (written : AnyCase t word) (digits : Digits word) : t = word := by
  induction written with
  | nil => rfl
  | @cons c digit t word same _ ih =>
    have bounds := toNat_of_isDigit (digits digit (List.mem_cons_self ..))
    have capital : digit.toUpper = digit := by
      rw [← Char.toNat_inj, toNat_toUpper, if_neg (by omega)]
    rw [capital, or_self] at same
    rw [same, ih fun d member => digits d (List.mem_cons_of_mem _ member)]

end Words

section Settings

variable {dialects : Dialects} {s : Settings} {c : Config}

/-- The settings say what the configuration holds. -/
structure Settings.Describes (s : Settings) (c : Config) : Prop where
  policy : Text.lower (Text.trim s.policy.shown) = c.policy.text
  dialect : s.dialect = c.dialect
  keywordCase : Text.lower (Text.trim s.keywordCase.shown) = c.keywordCase.text
  formatOutput : s.formatOutput = c.formatOutput
  collapseLineBreaks : s.collapseLineBreaks = c.collapseLineBreaks
  declareIndent : s.declareIndent = c.declareIndent

theorem choose_eq_ok_iff {choices : List α} {text : α → Text} {setting : Text} {value : Json}
    {choice : α} (found : choices.find? (fun d => text d = text choice) = some choice) :
    Settings.choose choices text setting value = .ok choice ↔
      Text.lower (Text.trim value.shown) = text choice := by
  unfold Settings.choose
  constructor
  · intro chosen
    split at chosen
    · next named =>
      cases chosen
      have same := List.find?_some named
      exact (of_decide_eq_true same).symm
    · contradiction
  · intro named
    rw [named, found]

theorem choose_policy_iff {setting : Text} {value : Json} (p : DeclarePolicy) :
    Settings.choose DeclarePolicy.all DeclarePolicy.text setting value = .ok p ↔
      Text.lower (Text.trim value.shown) = p.text :=
  choose_eq_ok_iff (by cases p <;> rfl)

theorem choose_keywordCase_iff {setting : Text} {value : Json} (k : KeywordCase) :
    Settings.choose KeywordCase.all KeywordCase.text setting value = .ok k ↔
      Text.lower (Text.trim value.shown) = k.text :=
  choose_eq_ok_iff (by cases k <;> rfl)

theorem checkDialect_eq_ok_iff (dialects : Dialects) (dialect : Text) :
    Settings.checkDialect dialects dialect = .ok () ↔ dialects dialect = .known := by
  unfold Settings.checkDialect
  cases dialects dialect <;> simp

theorem mapError_eq_ok_iff {e : Except ε α} {f : ε → δ} {a : α} :
    e.mapError f = .ok a ↔ e = .ok a := by
  cases e <;> simp [Except.mapError]

/-- The settings that check to a configuration are those that describe it, with a dialect that is
known. -/
theorem check_eq_ok_iff (dialects : Dialects) (s : Settings) (c : Config) :
    s.check dialects = .ok c ↔ s.Describes c ∧ dialects c.dialect = .known := by
  unfold Settings.check
  constructor
  · intro checked
    obtain ⟨policy, policyChosen, checked⟩ := bind_ok checked
    obtain ⟨keywordCase, keywordChosen, checked⟩ := bind_ok checked
    rw [mapError_eq_ok_iff] at policyChosen keywordChosen
    dsimp only at checked
    split at checked
    · cases checked
    · next natural =>
      obtain ⟨_, found, made⟩ := bind_ok checked
      cases made
      exact ⟨⟨(choose_policy_iff policy).1 policyChosen, rfl,
        (choose_keywordCase_iff keywordCase).1 keywordChosen, rfl, rfl,
        (Int.toNat_of_nonneg (Int.not_lt.1 natural)).symm⟩,
        (checkDialect_eq_ok_iff dialects s.dialect).1 found⟩
  · rintro ⟨⟨policy, dialect, keywordCase, formatOutput, collapseLineBreaks, declareIndent⟩, known⟩
    have natural : ¬(c.declareIndent : Int) < 0 := by omega
    have found := (checkDialect_eq_ok_iff dialects c.dialect).2 known
    rw [(choose_policy_iff c.policy).2 policy, (choose_keywordCase_iff c.keywordCase).2 keywordCase]
    simp only [Except.mapError, bind, Except.bind, dialect, formatOutput, collapseLineBreaks,
      declareIndent, if_neg natural, found, Int.toNat_natCast]
    rfl

theorem lower_trim_policy (p : DeclarePolicy) : Text.lower (Text.trim p.text) = p.text := by
  cases p <;> rfl

theorem lower_trim_keywordCase (k : KeywordCase) : Text.lower (Text.trim k.text) = k.text := by
  cases k <;> rfl

theorem describes_settings (c : Config) : c.settings.Describes c :=
  ⟨lower_trim_policy c.policy, rfl, lower_trim_keywordCase c.keywordCase, rfl, rfl, rfl⟩

theorem check_settings (known : dialects c.dialect = .known) : c.settings.check dialects = .ok c :=
  (check_eq_ok_iff dialects c.settings c).2 ⟨describes_settings c, known⟩

/-- The configurations that can be had: made of settings, or of another one with changes. -/
inductive Accepted (dialects : Dialects) : Config → Prop
  | made {s : Settings} {c : Config} (checked : s.check dialects = .ok c) : Accepted dialects c
  | replaced {c d : Config} {changes : Changes} (earlier : Accepted dialects c)
      (replaced : c.replace dialects changes = .ok d) : Accepted dialects d

theorem Accepted.known (accepted : Accepted dialects c) : dialects c.dialect = .known := by
  cases accepted with
  | made checked => exact ((check_eq_ok_iff dialects _ c).1 checked).2
  | replaced _ replaced => exact ((check_eq_ok_iff dialects _ c).1 replaced).2

end Settings

section Variables

def boolWord (b : Bool) : Text := if b then "true" else "false"

/-- The variables hold the fields of the configuration as words, the name of the dialect to the
letter. Blanks around a number are those that reading it passes over. -/
structure Config.WrittenIn (c : Config) (env : Environment) : Prop where
  policy : ∃ t, env.get? "SQLTRACE_DECLARE_POLICY" = some t ∧ Spelled isBlank c.policy.text t
  dialect : env.get? "SQLTRACE_DIALECT" = some c.dialect
  keywordCase : ∃ t, env.get? "SQLTRACE_KEYWORD_CASE" = some t ∧
    Spelled isBlank c.keywordCase.text t
  formatOutput : ∃ t, env.get? "SQLTRACE_FORMAT_OUTPUT" = some t ∧
    Spelled isBlank (boolWord c.formatOutput) t
  collapseLineBreaks : ∃ t, env.get? "SQLTRACE_COLLAPSE_LINE_BREAKS" = some t ∧
    Spelled isBlank (boolWord c.collapseLineBreaks) t
  declareIndent : ∃ t, env.get? "SQLTRACE_DECLARE_INDENT" = some t ∧
    Spelled Numeral.isSurround (Text.ofNat c.declareIndent) t

variable {c : Config} {env : Environment} {t : Text}

theorem lettered_policy (p : DeclarePolicy) : Lettered p.text := by
  cases p <;> decide

theorem lettered_keywordCase (k : KeywordCase) : Lettered k.text := by
  cases k <;> decide

theorem lettered_boolWord (b : Bool) : Lettered (boolWord b) := by
  cases b <;> decide

theorem readBool_of_spelled {b : Bool} (spelled : Spelled isBlank (boolWord b) t) :
    readBool t = b := by
  rw [readBool, lower_trim_of_spelled (lettered_boolWord b) spelled]
  cases b <;> decide

theorem read?_of_spelled {n : Nat} (spelled : Spelled Numeral.isSurround (Text.ofNat n) t) :
    Numeral.read? t = if (Text.ofNat n).length ≤ Numeral.digitLimit then some (n : Int)
      else none := by
  obtain ⟨left, written, right⟩ := spelled
  rw [eq_of_anyCase_digits written (Numeral.digits_ofNat n)]
  exact Numeral.read?_ofNat n left right

theorem readIndent_eq_iff {n : Nat} (default : Nat)
    (spelled : Spelled Numeral.isSurround (Text.ofNat n) t) :
    readIndent default t = ((n : Int), []) ↔ (Text.ofNat n).length ≤ Numeral.digitLimit := by
  rw [readIndent, read?_of_spelled spelled]
  split <;> simp_all

/-- Variables with a configuration in them are read as settings that describe it, its indent
apart. -/
theorem ofEnvironment_of_writtenIn (written : c.WrittenIn env) : ∃ (s : Settings) (t : Text),
    Settings.ofEnvironment env =
      ({ s with declareIndent := (readIndent 8 t).1 }, (readIndent 8 t).2) ∧
    s.Describes c ∧ Spelled Numeral.isSurround (Text.ofNat c.declareIndent) t := by
  obtain ⟨policyText, policySet, policy⟩ := written.policy
  obtain ⟨keywordText, keywordSet, keywordCase⟩ := written.keywordCase
  obtain ⟨formatText, formatSet, formatOutput⟩ := written.formatOutput
  obtain ⟨collapseText, collapseSet, collapseLineBreaks⟩ := written.collapseLineBreaks
  obtain ⟨indentText, indentSet, declareIndent⟩ := written.declareIndent
  refine ⟨⟨.str policyText, c.dialect, .str keywordText, c.formatOutput, c.collapseLineBreaks,
    c.declareIndent⟩, indentText, ?_, ⟨?_, rfl, ?_, rfl, rfl, rfl⟩, declareIndent⟩
  · simp only [Settings.ofEnvironment, policySet, written.dialect, keywordSet, formatSet,
      collapseSet, indentSet, Settings.apply, Option.map_some, Option.getD_some,
      readBool_of_spelled formatOutput, readBool_of_spelled collapseLineBreaks]
  · exact lower_trim_of_spelled (lettered_policy c.policy) policy
  · exact lower_trim_of_spelled (lettered_keywordCase c.keywordCase) keywordCase

/-- Environment variables can say every configuration. It is what its own fields check to and what
is left of it without changes; and variables with its fields in them are read as it, without a
warning, exactly when its indent has no more digits than are converted. -/
theorem environment_expresses {dialects : Dialects} (tsql : dialects "tsql" = .known)
    (accepted : Accepted dialects c) :
    c.settings.check dialects = .ok c ∧ c.replace dialects {} = .ok c ∧
      ∀ env, c.WrittenIn env →
        (loadConfig dialects env = (.ok c, []) ↔ (Text.ofNat c.declareIndent).length ≤ 4300) := by
  have own := check_settings accepted.known
  refine ⟨own, own, ?_⟩
  intro env written
  obtain ⟨s, t, read, describes, declareIndent⟩ := ofEnvironment_of_writtenIn written
  have short := readIndent_eq_iff 8 declareIndent
  have defaults : ({} : Config).settings.check dialects = .ok {} := check_settings tsql
  rw [loadConfig, defaults, read, ← show _ ↔ (Text.ofNat c.declareIndent).length ≤ 4300 from short]
  constructor
  · intro loaded
    obtain ⟨checked, -⟩ := (check_eq_ok_iff dialects _ c).1 (congrArg Prod.fst loaded)
    have silent : (readIndent 8 t).2 = [] := congrArg Prod.snd loaded
    exact Prod.ext checked.declareIndent silent
  · intro indent
    rw [indent]
    exact Prod.ext ((check_eq_ok_iff dialects _ c).2
      ⟨{ describes with declareIndent := rfl }, accepted.known⟩) rfl

/-- A name with a setting of its own behind it. -/
def settledDialect : Text := "tsql, normalization_strategy=case_sensitive"

/-- What is known of two names. -/
def twoDialects : Dialects := fun name =>
  if name = "tsql" ∨ name = settledDialect then .known else .unknown

/-- Every field but the dialect stands among blanks, and the words have capitals. -/
theorem environment_expresses_spelled :
    let c : Config :=
      { policy := .strict, dialect := settledDialect, keywordCase := .lower, formatOutput := false,
        collapseLineBreaks := true, declareIndent := 4096 }
    let env : Environment :=
      [("SQLTRACE_DECLARE_POLICY", [' '] ++ "STRICT" ++ [' ']),
        ("SQLTRACE_DIALECT", settledDialect),
        ("SQLTRACE_KEYWORD_CASE", [' '] ++ "Lower" ++ ['\n']),
        ("SQLTRACE_FORMAT_OUTPUT", ['\t'] ++ "False" ++ [' ']),
        ("SQLTRACE_COLLAPSE_LINE_BREAKS", [' '] ++ "tRUE" ++ [' ']),
        ("SQLTRACE_DECLARE_INDENT", [' '] ++ "4096" ++ ['\n'])]
    twoDialects "tsql" = .known ∧ Accepted twoDialects c ∧ c.WrittenIn env ∧
      (Text.ofNat c.declareIndent).length ≤ 4300 ∧ loadConfig twoDialects env = (.ok c, []) := by
  intro c env
  have tsql : twoDialects "tsql" = .known := if_pos (.inl rfl)
  have known : twoDialects c.dialect = .known := if_pos (.inr rfl)
  have accepted : Accepted twoDialects c := .made (check_settings known)
  have short : (Text.ofNat c.declareIndent).length ≤ 4300 := by decide
  have policy : Spelled isBlank "strict" ([' '] ++ "STRICT" ++ [' ']) :=
    .intro (by simp [isBlank]) (by simp [AnyCase]) (by simp [isBlank])
  have keywordCase : Spelled isBlank "lower" ([' '] ++ "Lower" ++ ['\n']) :=
    .intro (by simp [isBlank]) (by simp [AnyCase]) (by simp [isBlank])
  have formatOutput : Spelled isBlank "false" (['\t'] ++ "False" ++ [' ']) :=
    .intro (by simp [isBlank]) (by simp [AnyCase]) (by simp [isBlank])
  have collapseLineBreaks : Spelled isBlank "true" ([' '] ++ "tRUE" ++ [' ']) :=
    .intro (by simp [isBlank]) (by simp [AnyCase]) (by simp [isBlank])
  have digits : Text.ofNat c.declareIndent = "4096" := by cbv
  have declareIndent :
      Spelled Numeral.isSurround (Text.ofNat c.declareIndent) ([' '] ++ "4096" ++ ['\n']) := by
    rw [digits]
    exact .intro (by simp [Numeral.isSurround, isBlank]) (by simp [AnyCase])
      (by simp [Numeral.isSurround, isBlank])
  have written : c.WrittenIn env := ⟨⟨_, rfl, policy⟩, rfl, ⟨_, rfl, keywordCase⟩,
    ⟨_, rfl, formatOutput⟩, ⟨_, rfl, collapseLineBreaks⟩, ⟨_, rfl, declareIndent⟩⟩
  exact ⟨tsql, accepted, written, short,
    ((environment_expresses tsql accepted).2.2 env written).2 short⟩

end Variables

end SqlReplay
