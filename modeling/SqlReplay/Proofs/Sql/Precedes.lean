import SqlReplay.Proofs.Text.Run
import SqlReplay.Sql.Span

/-! What may follow a span. `Precedes` lists, one constructor a form of span, how a span is written
and what the text after it must not begin with so that the span ends there. It depends on the text
after the span through its first character alone, and every text is read as such a span and what
it precedes. -/

namespace SqlReplay

/-- The body of quoted text up to its closing character, and the text after it. -/
inductive Quoted (k : Char) : Text → Text → Prop
  | unclosed : Quoted k [] []
  | closed : rest.head? ≠ some k → Quoted k [k] rest
  | doubled : Quoted k body rest → Quoted k (k :: k :: body) rest
  | inside : c ≠ k → Quoted k body rest → Quoted k (c :: body) rest

/-- The body of a block comment up to its closing mark, and the text after it. -/
inductive Commented : Text → Text → Prop
  | unclosed : Commented [] []
  | closed : Commented ['*', '/'] rest
  | inside : (c = '*' → body.head? ≠ some '/') → Commented body rest → Commented (c :: body) rest

/-- A name, and the text after it where it ends. -/
def Named (name rest : Text) : Prop :=
  (∀ c ∈ name, Cursor.isNameChar c = true) ∧ ∀ c, rest.head? = some c → Cursor.isNameChar c = false

def Inert (t : Text) : Prop := ∀ c ∈ t, Span.isSpecial c = false

theorem inert_singleton (plain : Span.isSpecial c = false) : Inert [c] := by
  simpa [Inert] using plain

theorem inert_append (first : Inert s) (second : Inert t) : Inert (s ++ t) := by
  intro c member
  exact (List.mem_append.1 member).elim (first c) (second c)

/-- The kinds of quoted text with their first and last characters. -/
inductive Quotes : SpanKind → Char → Char → Prop
  | stringLiteral : Quotes .stringLiteral '\'' '\''
  | quotedIdentifier : Quotes .quotedIdentifier '"' '"'
  | bracketIdentifier : Quotes .bracketIdentifier '[' ']'

/-- Read in front of the text, the span is the first one. -/
inductive Precedes : Span → Text → Prop
  | quoted : Quotes kind opening closing → Quoted closing body rest →
      Precedes ⟨kind, opening :: body⟩ rest
  | lineComment : '\n' ∉ body → (∀ c, rest.head? = some c → c = '\n') →
      Precedes ⟨.lineComment, '-' :: '-' :: body⟩ rest
  | blockComment : Commented body rest → Precedes ⟨.blockComment, '/' :: '*' :: body⟩ rest
  | systemVariable : Named name rest → Precedes ⟨.systemVariable, '@' :: '@' :: name⟩ rest
  | placeholder : name ≠ [] → Named name rest → rest.head? ≠ some '@' →
      Precedes ⟨.placeholder, '@' :: name⟩ rest
  | refused : name ≠ [] → Named name rest → rest.head? = some '@' →
      Precedes ⟨.plain, '@' :: name⟩ rest
  | sign : Inert tail → (tail ++ rest).head? ≠ some '@' →
      (∀ c, (tail ++ rest).head? = some c → Cursor.isNameChar c = false) →
      Precedes ⟨.plain, '@' :: tail⟩ rest
  | plain : c ≠ '\'' → c ≠ '"' → c ≠ '[' → c ≠ '@' → Inert tail →
      (c = '-' → (tail ++ rest).head? ≠ some '-') → (c = '/' → (tail ++ rest).head? ≠ some '*') →
      Precedes ⟨.plain, c :: tail⟩ rest

theorem quoted_congr (quoted : Quoted k body rest) (same : other.head? = rest.head?) :
    Quoted k body other := by
  induction quoted with
  | unclosed =>
    obtain rfl : other = [] := by simpa using same
    exact .unclosed
  | closed apart => exact .closed (same ▸ apart)
  | doubled _ ih => exact .doubled (ih same)
  | inside differs _ ih => exact .inside differs (ih same)

theorem commented_congr (commented : Commented body rest) (same : other.head? = rest.head?) :
    Commented body other := by
  induction commented with
  | unclosed =>
    obtain rfl : other = [] := by simpa using same
    exact .unclosed
  | closed => exact .closed
  | inside apart _ ih => exact .inside apart (ih same)

theorem named_congr (named : Named name rest) (same : other.head? = rest.head?) :
    Named name other :=
  ⟨named.1, same ▸ named.2⟩

theorem head?_append_congr (tail : Text) (same : other.head? = rest.head?) :
    (tail ++ other).head? = (tail ++ rest).head? := by
  simp [same]

/-- Only the first character after a span matters. -/
theorem Precedes.congr (precedes : Precedes s rest) (same : other.head? = rest.head?) :
    Precedes s other := by
  cases precedes with
  | quoted quotes quoted => exact .quoted quotes (quoted_congr quoted same)
  | lineComment body ends => exact .lineComment body (same ▸ ends)
  | blockComment commented => exact .blockComment (commented_congr commented same)
  | systemVariable named => exact .systemVariable (named_congr named same)
  | placeholder nonempty named apart =>
    exact .placeholder nonempty (named_congr named same) (same ▸ apart)
  | refused nonempty named follows =>
    exact .refused nonempty (named_congr named same) (same ▸ follows)
  | sign inert apart unnamed =>
    rw [← head?_append_congr _ same] at apart unnamed
    exact .sign inert apart unnamed
  | plain single double bracket sign inert line block =>
    rw [← head?_append_congr _ same] at line block
    exact .plain single double bracket sign inert line block

theorem quoted_quotedLength (k : Char) (t : Text) :
    Quoted k (t.take (Cursor.quotedLength k t)) (t.drop (Cursor.quotedLength k t)) := by
  fun_induction Cursor.quotedLength k t with
  | case1 => exact .unclosed
  | case2 => exact .closed (by simp)
  | case3 more ih => exact .doubled ih
  | case4 d more other => exact .closed (by simpa using other)
  | case5 c rest other ih => exact .inside other ih

theorem commented_blockLength (t : Text) :
    Commented (t.take (Cursor.blockLength t)) (t.drop (Cursor.blockLength t)) := by
  fun_induction Cursor.blockLength t with
  | case1 => exact .closed
  | case2 c rest inside ih =>
    refine .inside ?_ ih
    rintro rfl head
    rw [List.head?_take] at head
    split at head
    · contradiction
    · obtain ⟨more, rfl⟩ := List.head?_eq_some_iff.1 head
      exact inside more rfl rfl
  | case3 => exact .unclosed

theorem named_takeWhile (t : Text) :
    Named (t.takeWhile Cursor.isNameChar) (t.dropWhile Cursor.isNameChar) :=
  ⟨fun _ member => List.mem_takeWhile_imp member, fun _ first => head?_dropWhile_false first⟩

theorem inert_takeWhile (t : Text) : Inert (t.takeWhile (!Span.isSpecial ·)) := by
  intro c member
  simpa using List.mem_takeWhile_imp member

theorem placeholderLength?_eq (t : Text) : Span.placeholderLength? t =
    if t.takeWhile Cursor.isNameChar = [] ∨ (t.dropWhile Cursor.isNameChar).head? = some '@'
    then none
    else some (t.takeWhile Cursor.isNameChar).length := by
  unfold Span.placeholderLength? Cursor.nameLength
  split
  next empty => rw [if_pos (.inl (List.eq_nil_of_length_eq_zero empty))]
  next follows _ => rw [if_pos (.inr (by rw [follows]; rfl))]
  next nonempty apart =>
    rw [if_neg]
    rintro (empty | first)
    · exact nonempty (by simp [empty])
    · obtain ⟨more, follows⟩ := List.head?_eq_some_iff.1 first
      exact apart more follows

theorem isSpecial_eq_false_iff : Span.isSpecial c = false ↔
    c ≠ '\'' ∧ c ≠ '"' ∧ c ≠ '[' ∧ c ≠ '-' ∧ c ≠ '/' ∧ c ≠ '@' := by
  simp [Span.isSpecial, and_assoc]

theorem isSpecial_of_isNameChar (named : Cursor.isNameChar c = true) :
    Span.isSpecial c = false := by
  refine isSpecial_eq_false_iff.2 ⟨?_, ?_, ?_, ?_, ?_, ?_⟩
  all_goals rintro rfl; contradiction

theorem toNat_of_isNameChar (name : Cursor.isNameChar c = true) :
    33 ≤ c.toNat ∧ c.toNat ≤ 122 := by
  delta Cursor.isNameChar Char.isAlphanum Char.isAlpha Char.isUpper Char.isLower at name
  delta Char.isDigit at name
  simp only [Bool.or_eq_true, Bool.and_eq_true, decide_eq_true_eq, beq_iff_eq, ge_iff_le,
    UInt32.le_iff_toNat_le] at name
  rcases name with ((((⟨low, high⟩ | ⟨low, high⟩) | ⟨low, high⟩) | rfl) | rfl) | rfl
  · exact ⟨Nat.le_trans (by decide) low, Nat.le_trans high (by decide)⟩
  · exact ⟨Nat.le_trans (by decide) low, Nat.le_trans high (by decide)⟩
  · exact ⟨Nat.le_trans (by decide) low, Nat.le_trans high (by decide)⟩
  all_goals decide

theorem isBlank_of_isNameChar (name : Cursor.isNameChar c = true) : isBlank c = false := by
  obtain ⟨low, high⟩ := toNat_of_isNameChar name
  exact isBlank_of_visible low (by omega)

theorem isNameChar_of_isBlank (blank : isBlank c = true) : Cursor.isNameChar c = false := by
  cases name : Cursor.isNameChar c with
  | false => rfl
  | true => rw [isBlank_of_isNameChar name] at blank; contradiction

theorem isSpecial_of_isBlank (blank : isBlank c = true) : Span.isSpecial c = false := by
  refine isSpecial_eq_false_iff.2 ⟨?_, ?_, ?_, ?_, ?_, ?_⟩
  all_goals rintro rfl; contradiction

theorem isBlank_of_isSpecial (special : Span.isSpecial c = true) : isBlank c = false := by
  cases blank : isBlank c with
  | false => rfl
  | true => rw [isSpecial_of_isBlank blank] at special; contradiction

theorem inert_of_named (named : Named name rest) : Inert name :=
  fun c member => isSpecial_of_isNameChar (named.1 c member)

/-- Plain text that starts like a name ends where the name ends if an at sign follows there. -/
theorem plainLength_of_sign (t : Text) (first : (t.dropWhile Cursor.isNameChar).head? = some '@') :
    Span.plainLength t = Cursor.nameLength t := by
  obtain ⟨more, follows⟩ := List.head?_eq_some_iff.1 first
  have split := List.takeWhile_append_dropWhile (p := Cursor.isNameChar) (l := t)
  have inert : ∀ c ∈ t.takeWhile Cursor.isNameChar, (!Span.isSpecial c) = true := by
    intro c member
    simp [isSpecial_of_isNameChar (List.mem_takeWhile_imp member)]
  have runs : t.takeWhile (!Span.isSpecial ·) = t.takeWhile Cursor.isNameChar := by
    conv => lhs; rw [← split, List.takeWhile_append_of_pos inert, follows]
    simp [Span.isSpecial]
  rw [Span.plainLength, runs, Cursor.nameLength]

theorem precedes_next (c : Char) (rest : Text) :
    Precedes ⟨(Span.next c rest).1, c :: rest.take (Span.next c rest).2⟩
      (rest.drop (Span.next c rest).2) := by
  fun_cases Span.next c rest with
  | case1 rest => exact .quoted .stringLiteral (quoted_quotedLength ..)
  | case2 rest => exact .quoted .quotedIdentifier (quoted_quotedLength ..)
  | case3 rest => exact .quoted .bracketIdentifier (quoted_quotedLength ..)
  | case4 more =>
    simp only [Cursor.lineLength, List.take_succ_cons, List.drop_succ_cons, take_length_takeWhile,
      drop_length_takeWhile]
    refine .lineComment ?_ ?_
    · intro member
      simpa using List.mem_takeWhile_imp member
    · intro d first
      simpa using head?_dropWhile_false first
  | case5 more => exact .blockComment (commented_blockLength more)
  | case6 more =>
    simp only [Cursor.nameLength, List.take_succ_cons, List.drop_succ_cons, take_length_takeWhile,
      drop_length_takeWhile]
    exact .systemVariable (named_takeWhile more)
  | case7 rest n found single =>
    rw [found]
    rw [placeholderLength?_eq] at found
    split at found
    · contradiction
    · next accepted =>
      obtain rfl := Option.some.inj found
      simp only [take_length_takeWhile, drop_length_takeWhile]
      exact .placeholder (fun empty => accepted (.inl empty)) (named_takeWhile rest)
        fun first => accepted (.inr first)
  | case8 rest found single =>
    rw [found]
    rw [placeholderLength?_eq] at found
    split at found
    · next refused =>
      by_cases empty : rest.takeWhile Cursor.isNameChar = []
      · simp only [Span.plainLength, take_length_takeWhile, drop_length_takeWhile]
        refine .sign (inert_takeWhile rest) ?_ ?_
        all_goals rw [List.takeWhile_append_dropWhile]
        · intro first
          obtain ⟨more, rfl⟩ := List.head?_eq_some_iff.1 first
          exact single more rfl
        · intro c first
          obtain ⟨more, rfl⟩ := List.head?_eq_some_iff.1 first
          by_contra named
          simp [named] at empty
      · have first := refused.resolve_left empty
        simp only [plainLength_of_sign rest first, Cursor.nameLength, take_length_takeWhile,
          drop_length_takeWhile]
        exact .refused empty (named_takeWhile rest) first
    · contradiction
  | case9 c rest h1 h2 h3 h4 h5 h6 =>
    simp only [Span.plainLength, take_length_takeWhile, drop_length_takeWhile]
    refine .plain h1 h2 h3 h4 (inert_takeWhile rest) ?_ ?_
    · rintro rfl first
      rw [List.takeWhile_append_dropWhile] at first
      obtain ⟨more, rfl⟩ := List.head?_eq_some_iff.1 first
      exact h5 more rfl rfl
    · rintro rfl first
      rw [List.takeWhile_append_dropWhile] at first
      obtain ⟨more, rfl⟩ := List.head?_eq_some_iff.1 first
      exact h6 more rfl rfl

/-- Texts by their first spans. -/
theorem spans_induction {motive : Text → Prop} (nil : motive [])
    (span : ∀ s rest, Precedes s rest → spans (s.text ++ rest) = s :: spans rest → motive rest →
      motive (s.text ++ rest)) (t : Text) : motive t := by
  fun_induction spans t with
  | case1 => exact nil
  | case2 c rest kind length found ih =>
    have precedes := precedes_next c rest
    have scanned := spans_cons c rest
    simp only [found] at precedes scanned
    have whole : c :: rest = (c :: rest.take length) ++ rest.drop length := by simp
    rw [whole] at scanned ⊢
    exact span ⟨kind, c :: rest.take length⟩ _ precedes scanned ih

theorem quotedLength_cons_of_ne (differs : c ≠ k) (t : Text) :
    Cursor.quotedLength k (c :: t) = Cursor.quotedLength k t + 1 := by
  cases t <;> simp [Cursor.quotedLength, differs]

theorem quotedLength_append (quoted : Quoted k body rest) :
    Cursor.quotedLength k (body ++ rest) = body.length := by
  induction quoted with
  | unclosed => rfl
  | @closed rest apart =>
    cases rest with
    | nil => simp [Cursor.quotedLength]
    | cons d more =>
      have other : d ≠ k := by simpa using apart
      simp [Cursor.quotedLength, other]
  | doubled _ ih => simp [Cursor.quotedLength, ih]
  | inside differs _ ih => simp [quotedLength_cons_of_ne differs, ih]

theorem not_closed_of_inside (commented : Commented body rest)
    (apart : c = '*' → body.head? ≠ some '/') :
    ∀ more, c = '*' → body ++ rest = '/' :: more → False := by
  rintro more rfl same
  cases body with
  | nil => cases commented; simp at same
  | cons d tail => exact apart rfl (by simpa using (List.cons.inj same).1)

theorem blockLength_append (commented : Commented body rest) :
    Cursor.blockLength (body ++ rest) = body.length := by
  induction commented with
  | unclosed => rfl
  | closed => simp [Cursor.blockLength]
  | @inside c body rest apart commented ih =>
    rw [List.cons_append, Cursor.blockLength, ih]
    · rfl
    · exact not_closed_of_inside commented apart

theorem next_sign (apart : rest.head? ≠ some '@') :
    Span.next '@' rest =
      if rest.takeWhile Cursor.isNameChar = [] ∨ (rest.dropWhile Cursor.isNameChar).head? = some '@'
      then (.plain, Span.plainLength rest)
      else (.placeholder, (rest.takeWhile Cursor.isNameChar).length) := by
  have single : ∀ more, rest = '@' :: more → False := by
    rintro more rfl
    exact apart rfl
  rw [Span.next, placeholderLength?_eq]
  · by_cases refused : rest.takeWhile Cursor.isNameChar = [] ∨
        (rest.dropWhile Cursor.isNameChar).head? = some '@'
    · simp only [if_pos refused]
    · simp only [if_neg refused]
  · exact single

theorem head?_name_ne (nonempty : name ≠ []) (named : Named name rest) :
    (name ++ rest).head? ≠ some '@' := by
  cases name with
  | nil => contradiction
  | cons d more =>
    intro first
    obtain rfl : d = '@' := by simpa using first
    have sign := named.1 '@' (List.mem_cons_self ..)
    contradiction

/-- A span that is not plain text is found in front of everything that it precedes. -/
theorem next_of_precedes (precedes : Precedes ⟨kind, c :: body⟩ rest) (marked : kind ≠ .plain) :
    Span.next c (body ++ rest) = (kind, body.length) := by
  cases precedes with
  | quoted quotes quoted =>
    cases quotes <;> simp [Span.next, quotedLength_append quoted]
  | @lineComment body _ inside ends =>
    have unbroken : ∀ c ∈ body, decide (c ≠ '\n') = true := by
      rintro c member
      simp only [ne_eq, decide_eq_true_eq]
      rintro rfl
      exact inside member
    have line := takeWhile_append_stop unbroken fun c first => by simpa using ends c first
    simp only [List.cons_append, Span.next, Cursor.lineLength, line, List.length_cons]
  | blockComment commented => simp [Span.next, blockLength_append commented]
  | systemVariable named =>
    simp [Span.next, Cursor.nameLength, takeWhile_append_stop named.1 named.2]
  | placeholder nonempty named apart =>
    have single := head?_name_ne nonempty named
    rw [next_sign single, takeWhile_append_stop named.1 named.2,
      dropWhile_append_stop named.1 named.2, if_neg (by simp [nonempty, apart])]
  | refused | sign | plain => contradiction

/-- Plain text is found wherever it precedes what follows. -/
theorem next_plain_of_precedes (precedes : Precedes ⟨.plain, c :: tail⟩ rest) :
    (Span.next c (tail ++ rest)).1 = .plain := by
  cases precedes with
  | quoted quotes => cases quotes
  | refused nonempty named follows =>
    have single := head?_name_ne nonempty named
    rw [next_sign single, dropWhile_append_stop named.1 named.2, if_pos (.inr follows)]
  | sign inert apart unnamed =>
    rw [next_sign apart, if_pos (.inl (takeWhile_eq_nil unnamed))]
  | plain single double bracket sign inert line block =>
    rw [Span.next]
    · exact single
    · exact double
    · exact bracket
    · exact sign
    · rintro more rfl follows
      exact line rfl (by rw [follows]; rfl)
    · rintro more rfl follows
      exact block rfl (by rw [follows]; rfl)
    · rintro more rfl
      exact absurd rfl sign

end SqlReplay
