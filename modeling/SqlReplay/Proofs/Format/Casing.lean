import SqlReplay.Format.PrettyPrinter
import SqlReplay.Proofs.Text.Run

/-! What lower-casing the keywords of a statement leaves alone. The result is the statement with the
ranges of some tokens in lower case, and none of these is of a kind that the formatter knows to hold
a value. A literal of another kind is one of them when what it says spells a keyword. -/

namespace SqlReplay

def Lexeme.within (sql : Text) (t : Lexeme) : Text := Text.between sql t.first (t.last + 1)

namespace PrettyPrinter

def literalKinds : List Text :=
  ["STRING", "NATIONAL_STRING", "RAW_STRING", "HEREDOC_STRING", "UNICODE_STRING", "BYTE_STRING",
    "BIT_STRING", "HEX_STRING", "NUMBER"]

def nameKinds : List Text := ["IDENTIFIER", "VAR", "PARAMETER"]

/-- Kinds of literals that are not among the kinds which the formatter knows. -/
def overlookedKinds : List Text :=
  ["RAW_STRING", "HEREDOC_STRING", "UNICODE_STRING", "BYTE_STRING", "BIT_STRING"]

/-- Tokens in increasing order that do not overlap and lie within a text. -/
structure InOrder (sql : Text) (tokens : List Lexeme) : Prop where
  apart : tokens.Pairwise fun a b => a.last < b.first
  inside : ∀ t ∈ tokens, t.first ≤ t.last + 1 ∧ t.last < sql.length

/-- The text from `position` on with something else in place of each token. -/
def replaced (sql : Text) (shown : Lexeme → Text) (position : Nat) : List Lexeme → Text
  | [] => Text.between sql position sql.length
  | t :: rest =>
    Text.between sql position t.first ++ shown t ++ replaced sql shown (t.last + 1) rest

/-- A text with the ranges of some of its tokens in lower case, none of which is to be kept, and
with every other character as it is. -/
def LowersSome (sql : Text) (tokens : List Lexeme) (kept : Lexeme → Prop) (result : Text) : Prop :=
  ∃ shown : Lexeme → Text, result = replaced sql shown 0 tokens ∧
    ∀ t ∈ tokens, shown t = t.within sql ∨ (¬ kept t ∧ shown t = Text.lower (t.within sql))

section Lower

/-- Where lower-casing changes a text, it changes a character for another. -/
theorem lowerAfter_eq_of_append {s : Text} {before x y : Text}
    (same : CaseMap.lowerAfter before s ++ x = s ++ y) : CaseMap.lowerAfter before s = s := by
  induction s generalizing before with
  | nil => rfl
  | cons c s ih =>
    rw [CaseMap.lowerAfter] at same ⊢
    split at same
    next sigma =>
      subst sigma
      split at same <;> cases same
    next other =>
      rw [if_neg other]
      unfold CaseMap.lowerChar at same ⊢
      split at same
      next ascii =>
        obtain ⟨first, rest⟩ := List.cons_eq_cons.1 same
        rw [if_pos ascii, ih rest, first, List.singleton_append]
      next beyond =>
        rw [if_neg beyond]
        split at same
        next dotted =>
          subst dotted
          cases same
        next single =>
          obtain ⟨first, rest⟩ := List.cons_eq_cons.1 same
          rw [if_neg single, ih rest, first, List.singleton_append]

theorem lower_eq_of_append {s x y : Text} (same : Text.lower s ++ x = s ++ y) : Text.lower s = s :=
  lowerAfter_eq_of_append same

end Lower

section Replaced

variable {sql : Text} {tokens : List Lexeme} {position : Nat}

theorem InOrder.tail {t : Lexeme} (ordered : InOrder sql (t :: tokens)) : InOrder sql tokens :=
  ⟨(List.pairwise_cons.1 ordered.apart).2,
    fun u later => ordered.inside u (List.mem_cons_of_mem t later)⟩

/-- What comes after a token starts behind it. -/
theorem InOrder.behind {t : Lexeme} (ordered : InOrder sql (t :: tokens)) :
    ∀ u ∈ tokens, t.last + 1 ≤ u.first :=
  (List.pairwise_cons.1 ordered.apart).1

/-- With every token in its own place the text is as it was. -/
theorem replaced_within (ordered : InOrder sql tokens)
    (before : ∀ t ∈ tokens, position ≤ t.first) (inside : position ≤ sql.length) :
    replaced sql (Lexeme.within sql) position tokens = Text.between sql position sql.length := by
  induction tokens generalizing position with
  | nil => rfl
  | cons t tokens ih =>
    have start : position ≤ t.first := before t List.mem_cons_self
    obtain ⟨range, stop⟩ := ordered.inside t List.mem_cons_self
    rw [replaced, ih ordered.tail ordered.behind stop, Lexeme.within,
      between_between sql start range, between_between sql (Nat.le_trans start range) stop]

theorem lowerRanges_nil (sql : Text) (position : Nat) :
    lowerRanges sql position [] = Text.between sql position sql.length := by
  rw [lowerRanges, Text.between, List.take_length]

theorem lowerRanges_cons (sql : Text) (position : Nat) (t : Lexeme) (tokens : List Lexeme) :
    lowerRanges sql position (t :: tokens) =
      Text.between sql position t.first ++ Text.lower (t.within sql) ++
        lowerRanges sql (t.last + 1) tokens := rfl

/-- What stands before the first of the ranges is left as it is. -/
theorem lowerRanges_between {middle : Nat} (start : position ≤ middle)
    (before : ∀ t ∈ tokens, middle ≤ t.first) (inside : middle ≤ sql.length) :
    lowerRanges sql position tokens =
      Text.between sql position middle ++ lowerRanges sql middle tokens := by
  cases tokens with
  | nil => rw [lowerRanges_nil, lowerRanges_nil, between_between sql start inside]
  | cons t tokens =>
    have whole := between_between sql start (before t List.mem_cons_self)
    rw [lowerRanges_cons, lowerRanges_cons, ← whole, List.append_assoc, List.append_assoc,
      List.append_assoc]

/-- Lower-casing the ranges of some tokens leaves the others in their own places. -/
theorem lowerRanges_filter (lowered : Lexeme → Bool) (ordered : InOrder sql tokens)
    (before : ∀ t ∈ tokens, position ≤ t.first) :
    lowerRanges sql position (tokens.filter lowered) =
      replaced sql (fun t => if lowered t then Text.lower (t.within sql) else t.within sql) position
        tokens := by
  induction tokens generalizing position with
  | nil => rw [List.filter_nil, lowerRanges_nil, replaced]
  | cons t tokens ih =>
    obtain ⟨range, stop⟩ := ordered.inside t List.mem_cons_self
    have rest := ih ordered.tail ordered.behind
    rw [List.filter_cons, replaced, ← rest]
    split
    next => rfl
    next =>
      have start : position ≤ t.first := before t List.mem_cons_self
      have later : ∀ u ∈ tokens.filter lowered, t.last + 1 ≤ u.first :=
        fun u chosen => ordered.behind u ((List.mem_filter.1 chosen).1)
      rw [lowerRanges_between (Nat.le_trans start range) later stop, Lexeme.within,
        between_between sql start range]

/-- A result shows by itself which of the tokens are in lower case in it. -/
theorem shown_unique {shown other : Lexeme → Text}
    (these : ∀ t ∈ tokens, shown t = t.within sql ∨ shown t = Text.lower (t.within sql))
    (those : ∀ t ∈ tokens, other t = t.within sql ∨ other t = Text.lower (t.within sql))
    (same : replaced sql shown position tokens = replaced sql other position tokens) :
    ∀ t ∈ tokens, shown t = other t := by
  induction tokens generalizing position with
  | nil => exact nofun
  | cons t tokens ih =>
    simp only [replaced, List.append_assoc, List.append_cancel_left_eq] at same
    have here : shown t = other t := by
      obtain kept | lower := these t List.mem_cons_self <;>
        obtain kept' | lower' := those t List.mem_cons_self
      · rw [kept, kept']
      · rw [kept, lower'] at same ⊢
        exact (lower_eq_of_append same.symm).symm
      · rw [lower, kept'] at same ⊢
        exact lower_eq_of_append same
      · rw [lower, lower']
    rw [here, List.append_cancel_left_eq] at same
    have rest := ih (fun u later => these u (List.mem_cons_of_mem t later))
      (fun u later => those u (List.mem_cons_of_mem t later)) same
    exact List.forall_mem_cons.2 ⟨here, rest⟩

end Replaced

section Keywords

variable {sql : Text} {tokens : List Lexeme}

def cased (sql : Text) (keywords : List Text) (t : Lexeme) : Text :=
  if isKeyword keywords t then Text.lower (t.within sql) else t.within sql

theorem lowerKeywords_eq (ordered : InOrder sql tokens) (keywords : List Text) :
    lowerKeywords sql keywords tokens =
      replaced sql (cased sql keywords) 0 tokens :=
  lowerRanges_filter _ ordered fun _ _ => Nat.zero_le _

/-- Tokens are kept exactly when none of them is changed as a keyword. -/
theorem lowersSome_iff (ordered : InOrder sql tokens) (keywords : List Text)
    (kept : Lexeme → Prop) : LowersSome sql tokens kept (lowerKeywords sql keywords tokens) ↔
      ∀ t ∈ tokens, kept t → isKeyword keywords t = true →
        Text.lower (t.within sql) = t.within sql := by
  have cases (t : Lexeme) : cased sql keywords t = t.within sql ∨
      cased sql keywords t = Text.lower (t.within sql) := by
    unfold cased
    split
    next => exact .inr rfl
    next => exact .inl rfl
  rw [lowerKeywords_eq ordered]
  constructor
  · rintro ⟨shown, same, chosen⟩ t token keep keyword
    have unique := shown_unique (fun t _ => cases t)
      (fun t token => (chosen t token).imp_right And.right) same t token
    rw [cased, if_pos keyword] at unique
    obtain unchanged | ⟨lowered, -⟩ := chosen t token
    · rw [unique, unchanged]
    · exact absurd keep lowered
  · intro unchanged
    refine ⟨cased sql keywords, rfl, fun t token => ?_⟩
    unfold cased
    split
    next keyword =>
      by_cases keep : kept t
      · exact .inl (unchanged t token keep keyword)
      · exact .inr ⟨keep, rfl⟩
    next => exact .inl rfl

theorem isKeyword_iff (keywords : List Text) (t : Lexeme) :
    isKeyword keywords t = true ↔
      t.kind ∉ valueKinds ∧ Text.upper t.text ∈ keywords := by
  simp [isKeyword]

theorem kind_cases (kind : Text) : kind ∈ literalKinds ++ nameKinds ↔
    kind ∈ valueKinds ∨ kind ∈ overlookedKinds := by
  have same : (literalKinds ++ nameKinds).Perm (valueKinds ++ overlookedKinds) := by
    decide
  rw [same.mem_iff, List.mem_append]

theorem not_valueKind_of_overlooked : ∀ kind ∈ overlookedKinds, kind ∉ valueKinds := by
  decide

/-- Lower-casing the keywords of a statement changes the ranges of some tokens and nothing else, and
no token of a kind that the formatter knows to hold a value. It keeps all literals and names exactly
when no literal of an overlooked kind spells a keyword and has a letter to change. -/
theorem values_kept_iff (sql : Text) (keywords : List Text) (tokens : List Lexeme)
    (ordered : InOrder sql tokens) :
    replaced sql (Lexeme.within sql) 0 tokens = sql ∧
      LowersSome sql tokens (·.kind ∈ valueKinds)
        (lowerKeywords sql keywords tokens) ∧
      (LowersSome sql tokens (·.kind ∈ literalKinds ++ nameKinds)
          (lowerKeywords sql keywords tokens) ↔
        ∀ t ∈ tokens, t.kind ∈ overlookedKinds → Text.upper t.text ∈ keywords →
          Text.lower (t.within sql) = t.within sql) := by
  refine ⟨?_, ?_, ?_⟩
  · rw [replaced_within ordered (fun _ _ => Nat.zero_le _) (Nat.zero_le _), Text.between,
      List.take_length, List.drop_zero]
  · refine (lowersSome_iff ordered keywords _).2 fun t _ value keyword => ?_
    exact absurd value ((isKeyword_iff keywords t).1 keyword).1
  · rw [lowersSome_iff ordered keywords]
    refine forall₂_congr fun t _ => ?_
    rw [kind_cases, isKeyword_iff]
    constructor
    · exact fun unchanged overlooked keyword =>
        unchanged (.inr overlooked) ⟨not_valueKind_of_overlooked _ overlooked, keyword⟩
    · rintro unchanged (value | overlooked) ⟨other, keyword⟩
      · exact absurd value other
      · exact unchanged overlooked keyword

end Keywords

/-- A name in brackets and a string that spell keywords, and a byte string that spells none. -/
theorem values_kept_spelled :
    let sql : Text := "SELECT 'Select', b'X' AS [FROM]"
    let tokens : List Lexeme :=
      [⟨"SELECT", "SELECT", 0, 5⟩, ⟨"STRING", "Select", 7, 14⟩, ⟨"COMMA", ",", 15, 15⟩,
        ⟨"BYTE_STRING", "X", 17, 20⟩, ⟨"ALIAS", "AS", 22, 23⟩, ⟨"IDENTIFIER", "FROM", 25, 30⟩]
    let keywords : List Text := ["SELECT", "AS", "FROM"]
    InOrder sql tokens ∧
      lowerKeywords sql keywords tokens = "select 'Select', b'X' as [FROM]".toList ∧
      LowersSome sql tokens (·.kind ∈ literalKinds ++ nameKinds)
        (lowerKeywords sql keywords tokens) := by
  intro sql tokens keywords
  have ordered : InOrder sql tokens := ⟨by decide, by decide⟩
  refine ⟨ordered, by decide, ?_⟩
  exact (values_kept_iff sql keywords tokens ordered).2.2.2 (by decide)

/-- The data of a byte string is lower-cased when it spells a keyword. -/
theorem byteString_lowered :
    let sql : Text := "SELECT\n  b'SELECT'"
    let tokens : List Lexeme := [⟨"SELECT", "SELECT", 0, 5⟩, ⟨"BYTE_STRING", "SELECT", 9, 17⟩]
    InOrder sql tokens ∧
      lowerKeywords sql ["SELECT"] tokens = "select\n  b'select'".toList ∧
      ¬ LowersSome sql tokens (·.kind ∈ literalKinds ++ nameKinds)
        (lowerKeywords sql ["SELECT"] tokens) := by
  intro sql tokens
  have ordered : InOrder sql tokens := ⟨by decide, by decide⟩
  refine ⟨ordered, by decide, fun kept => ?_⟩
  have unchanged := (lowersSome_iff ordered ["SELECT"] _).1 kept
    ⟨"BYTE_STRING", "SELECT", 9, 17⟩ (by decide) (by decide) (by decide)
  exact absurd unchanged (by decide)

end PrettyPrinter

end SqlReplay
