import SqlReplay.Proofs.Sql.Blank
import SqlReplay.Proofs.Sql.Boundary

/-! A statement put on one line. Its spans are those of the statement one by one, and only blanks of
plain text differ. So the line feed that ends a comment stays where code follows, and nothing that
blanks keep apart is read together. -/

namespace SqlReplay

/-- The same text, except that any of its runs of blanks may be another run of blanks. -/
inductive Reblanked : Text → Text → Prop
  | nil : Reblanked [] []
  | ink : isBlank c = false → Reblanked s t → Reblanked (c :: s) (c :: t)
  | run : Blank run → run ≠ [] → Blank other → other ≠ [] →
      (∀ c, s.head? = some c → isBlank c = false) → Reblanked s t →
      Reblanked (run ++ s) (other ++ t)

/-- The same span, except for the blanks of plain text. -/
inductive Recast : Span → Span → Prop
  | plain : Reblanked s t → Recast ⟨.plain, s⟩ ⟨.plain, t⟩
  | marked : s.kind ≠ .plain → Recast s s

/-- Texts that begin with the same character, or both with a blank, or are both empty. -/
structure BeginsLike (s t : Text) : Prop where
  ink : ∀ c, isBlank c = false → (s.head? = some c ↔ t.head? = some c)
  empty : s = [] ↔ t = []

theorem BeginsLike.refl (t : Text) : BeginsLike t t := ⟨fun _ _ => Iff.rfl, Iff.rfl⟩

theorem BeginsLike.cons (c : Char) : BeginsLike (c :: s) (c :: t) :=
  ⟨fun _ _ => Iff.rfl, by simp⟩

theorem BeginsLike.of_blank (first : isBlank c = true) (second : isBlank d = true) :
    BeginsLike (c :: s) (d :: t) := by
  constructor
  · intro e ink
    constructor
    all_goals
      intro same
      obtain rfl : _ = e := by simpa using same
      simp_all
  · simp

theorem BeginsLike.append (first : Reblanked a b) (rest : BeginsLike s t) :
    BeginsLike (a ++ s) (b ++ t) := by
  cases first with
  | nil => exact rest
  | ink => exact .cons _
  | @run run other _ _ blank nonempty blank' nonempty' =>
    obtain ⟨c, more, rfl⟩ := List.exists_cons_of_ne_nil nonempty
    obtain ⟨d, more', rfl⟩ := List.exists_cons_of_ne_nil nonempty'
    exact .of_blank (blank c (List.mem_cons_self ..)) (blank' d (List.mem_cons_self ..))

theorem inert_of_reblanked (reblanked : Reblanked s t) (inert : Inert s) : Inert t := by
  induction reblanked with
  | nil => exact inert
  | ink _ _ ih =>
    intro c member
    rcases List.mem_cons.1 member with rfl | later
    · exact inert _ (List.mem_cons_self ..)
    · exact ih (fun d inside => inert d (List.mem_cons_of_mem _ inside)) c later
  | run _ _ blank _ _ _ ih =>
    exact inert_append (inert_of_blank blank) (ih fun d inside =>
      inert d (List.mem_append_right _ inside))

theorem eq_of_reblanked (reblanked : Reblanked s t) (ink : ∀ c ∈ s, isBlank c = false) : t = s := by
  induction reblanked with
  | nil => rfl
  | ink _ _ ih => rw [ih fun c member => ink c (List.mem_cons_of_mem _ member)]
  | @run run _ _ _ blank nonempty =>
    obtain ⟨c, more, rfl⟩ := List.exists_cons_of_ne_nil nonempty
    have first := ink c (List.mem_append_left _ (List.mem_cons_self ..))
    rw [blank c (List.mem_cons_self ..)] at first
    contradiction

section

variable {rest other : Text}

theorem unnamed_of_beginsLike (like : BeginsLike rest other)
    (unnamed : ∀ c, rest.head? = some c → Cursor.isNameChar c = false) :
    ∀ c, other.head? = some c → Cursor.isNameChar c = false := by
  intro c first
  by_cases blank : isBlank c = true
  · exact isNameChar_of_isBlank blank
  · exact unnamed c ((like.ink c (by simpa using blank)).2 first)

theorem named_of_beginsLike (named : Named name rest) (like : BeginsLike rest other) :
    Named name other :=
  ⟨named.1, unnamed_of_beginsLike like named.2⟩

theorem head?_ne_of_beginsLike (like : BeginsLike rest other) (ink : isBlank c = false)
    (apart : rest.head? ≠ some c) : other.head? ≠ some c :=
  fun first => apart ((like.ink c ink).2 first)

theorem quoted_of_beginsLike (quoted : Quoted k body rest) (ink : isBlank k = false)
    (like : BeginsLike rest other) : Quoted k body other := by
  induction quoted with
  | unclosed => rw [like.empty.1 rfl]; exact .unclosed
  | closed apart => exact .closed (head?_ne_of_beginsLike like ink apart)
  | doubled _ ih => exact .doubled (ih like)
  | inside differs _ ih => exact .inside differs (ih like)

theorem commented_of_beginsLike (commented : Commented body rest) (like : BeginsLike rest other) :
    Commented body other := by
  induction commented with
  | unclosed => rw [like.empty.1 rfl]; exact .unclosed
  | closed => exact .closed
  | inside apart _ ih => exact .inside apart (ih like)

/-- Behind a span that is not plain text blanks may change, but for those right after a comment. -/
theorem precedes_of_beginsLike (precedes : Precedes s rest) (marked : s.kind ≠ .plain)
    (like : BeginsLike rest other) (line : s.kind = .lineComment → other.head? = rest.head?) :
    Precedes s other := by
  cases precedes with
  | quoted quotes quoted =>
    refine .quoted quotes (quoted_of_beginsLike quoted ?_ like)
    cases quotes <;> rfl
  | lineComment inside ends => exact .lineComment inside (line rfl ▸ ends)
  | blockComment commented => exact .blockComment (commented_of_beginsLike commented like)
  | systemVariable named => exact .systemVariable (named_of_beginsLike named like)
  | placeholder nonempty named apart =>
    exact .placeholder nonempty (named_of_beginsLike named like)
      (head?_ne_of_beginsLike like rfl apart)
  | refused | sign | plain => contradiction

theorem reblanked_of_ink (reblanked : Reblanked (c :: tail) text) (ink : isBlank c = false) :
    ∃ tail', text = c :: tail' ∧ Reblanked tail tail' := by
  generalize same : c :: tail = t at reblanked
  cases reblanked with
  | nil => contradiction
  | ink _ later =>
    obtain ⟨rfl, rfl⟩ := List.cons.inj same
    exact ⟨_, rfl, later⟩
  | run blank nonempty =>
    obtain ⟨d, more, rfl⟩ := List.exists_cons_of_ne_nil nonempty
    obtain ⟨rfl, _⟩ := List.cons.inj same
    rw [blank c (List.mem_cons_self ..)] at ink
    contradiction

theorem reblanked_of_blank (reblanked : Reblanked (c :: tail) text) (blank : isBlank c = true) :
    ∃ d tail', text = d :: tail' ∧ isBlank d = true := by
  generalize same : c :: tail = t at reblanked
  cases reblanked with
  | nil => contradiction
  | ink ink =>
    obtain ⟨rfl, _⟩ := List.cons.inj same
    rw [blank] at ink
    contradiction
  | run _ _ blank' nonempty =>
    obtain ⟨d, more, rfl⟩ := List.exists_cons_of_ne_nil nonempty
    exact ⟨d, _, rfl, blank' d (List.mem_cons_self ..)⟩

/-- Plain text may have other blanks, and so may what follows it. -/
theorem precedes_reblanked (precedes : Precedes ⟨.plain, text⟩ rest)
    (reblanked : Reblanked text text') (like : BeginsLike rest other) :
    Precedes ⟨.plain, text'⟩ other := by
  cases precedes with
  | quoted quotes => cases quotes
  | refused nonempty named follows =>
    obtain ⟨tail', rfl, later⟩ := reblanked_of_ink reblanked rfl
    obtain rfl := eq_of_reblanked later fun c member => isBlank_of_isNameChar (named.1 c member)
    exact .refused nonempty (named_of_beginsLike named like) ((like.ink '@' rfl).1 follows)
  | sign inert apart unnamed =>
    obtain ⟨tail', rfl, later⟩ := reblanked_of_ink reblanked rfl
    have after := like.append later
    exact .sign (inert_of_reblanked later inert) (head?_ne_of_beginsLike after rfl apart)
      (unnamed_of_beginsLike after unnamed)
  | @plain c tail _ single double bracket sign inert line block =>
    by_cases blank : isBlank c = true
    · obtain ⟨d, tail', rfl, blank'⟩ := reblanked_of_blank reblanked blank
      have start := isSpecial_of_isBlank blank
      have whole : Inert (d :: tail') :=
        inert_of_reblanked reblanked (inert_append (inert_singleton start) inert)
      obtain ⟨single', double', bracket', minus', slash', sign'⟩ :=
        isSpecial_eq_false_iff.1 (whole d (List.mem_cons_self ..))
      exact .plain single' double' bracket' sign'
        (fun e member => whole e (List.mem_cons_of_mem _ member))
        (absurd · minus') (absurd · slash')
    · obtain ⟨tail', rfl, later⟩ := reblanked_of_ink reblanked (by simpa using blank)
      have after := like.append later
      exact .plain single double bracket sign (inert_of_reblanked later inert)
        (fun minus => head?_ne_of_beginsLike after rfl (line minus))
        (fun slash => head?_ne_of_beginsLike after rfl (block slash))

end

theorem next_eq_of_plain (plain : (Span.next c rest).1 = .plain) :
    Span.next c rest = (.plain, Span.plainLength rest) := by
  fun_cases Span.next c rest <;> simp_all [Span.next]

theorem special_of_beginsLike (like : BeginsLike rest other)
    (stops : ∀ c, rest.head? = some c → Span.isSpecial c = true) :
    ∀ c, other.head? = some c → Span.isSpecial c = true := by
  intro c first
  cases rest with
  | nil =>
    rw [like.empty.1 rfl] at first
    contradiction
  | cons d rest =>
    have special := stops d rfl
    have same := (like.ink d (isBlank_of_isSpecial special)).1 rfl
    rw [first] at same
    rwa [Option.some.inj same]

/-- Plain text is one span up to where a special character follows. -/
theorem spans_plain (precedes : Precedes ⟨.plain, text⟩ rest)
    (stops : ∀ c, rest.head? = some c → Span.isSpecial c = true) :
    spans (text ++ rest) = ⟨.plain, text⟩ :: spans rest := by
  obtain ⟨c, tail, same⟩ := text_eq_cons_of_precedes precedes
  obtain rfl : text = c :: tail := same
  have passes : ∀ d ∈ tail, (!Span.isSpecial d) = true := by
    intro d member
    simp [inert_of_precedes_plain precedes d member]
  have run : (tail ++ rest).takeWhile (!Span.isSpecial ·) = tail :=
    takeWhile_append_stop passes fun d first => by simp [stops d first]
  rw [List.cons_append, spans_cons, next_eq_of_plain (next_plain_of_precedes precedes),
    Span.plainLength, run, List.take_append_length, List.drop_append_length]

theorem stops_of_scanned (scanned : spans (text ++ rest) = ⟨.plain, text⟩ :: spans rest)
    (precedes : Precedes ⟨.plain, text⟩ rest) :
    ∀ c, rest.head? = some c → Span.isSpecial c = true := by
  obtain ⟨c, tail, same⟩ := text_eq_cons_of_precedes precedes
  obtain rfl : text = c :: tail := same
  rw [List.cons_append, spans_cons, next_eq_of_plain (next_plain_of_precedes precedes),
    List.cons.injEq, Span.plainLength, take_length_takeWhile] at scanned
  have run : (tail ++ rest).takeWhile (!Span.isSpecial ·) = tail := by simpa using scanned.1
  have left := List.takeWhile_append_dropWhile (p := (!Span.isSpecial ·)) (l := tail ++ rest)
  rw [run] at left
  intro d first
  rw [← List.append_cancel_left left] at first
  simpa using head?_dropWhile_false first

namespace Collapse

theorem blankRun_ne_nil (afterComment : Bool) (nonempty : run ≠ []) :
    blankRun afterComment run ≠ [] := by
  unfold blankRun
  split
  · split <;> simp
  · exact nonempty

theorem reblanked_plain (afterComment : Bool) (t : Text) : Reblanked t (plain afterComment t) := by
  induction t using runs_induction generalizing afterComment with
  | nil =>
    rw [plain_nil]
    exact .nil
  | ink c t ink ih =>
    rw [plain_ink afterComment ink]
    exact .ink ink (ih false)
  | run run t blank nonempty ends ih =>
    rw [plain_run afterComment blank nonempty ends]
    exact .run blank nonempty (blank_blankRun afterComment blank)
      (blankRun_ne_nil afterComment nonempty) ends (ih false)

/-- After a comment the line feed that ends it stays. -/
theorem head?_fromSpans_feed (rest : Text) :
    (fromSpans true (spans ('\n' :: rest))).head? = some '\n' := by
  have inert : Span.isSpecial '\n' = false := rfl
  have blank : isBlank '\n' = true := rfl
  rw [spans_cons, next_of_inert inert, fromSpans, if_pos rfl, plain, if_pos blank]
  simp [blankRun, breaksLine]

theorem head?_fromSpans_comment (precedes : Precedes ⟨.lineComment, text⟩ rest) :
    (fromSpans true (spans rest)).head? = rest.head? := by
  cases precedes with
  | quoted quotes => cases quotes
  | lineComment _ ends =>
    cases rest with
    | nil => simp [fromSpans]
    | cons c rest =>
      obtain rfl := ends c rfl
      exact head?_fromSpans_feed rest

def onSpan (afterComment : Bool) (s : Span) : Span :=
  if s.kind = .plain then ⟨.plain, plain afterComment s.text⟩ else s

/-- What collapsing makes of each span. -/
def onSpans (afterComment : Bool) : List Span → List Span
  | [] => []
  | s :: rest => onSpan afterComment s :: onSpans (s.kind = .lineComment) rest

theorem recast_onSpan (afterComment : Bool) (s : Span) : Recast s (onSpan afterComment s) := by
  obtain ⟨kind, text⟩ := s
  unfold onSpan
  split
  · next unmarked =>
    obtain rfl : kind = .plain := unmarked
    exact .plain (reblanked_plain afterComment text)
  · next marked => exact .marked marked

theorem forall₂_onSpans {related : Span → Span → Prop}
    (each : ∀ afterComment s, related s (onSpan afterComment s)) (afterComment : Bool)
    (ss : List Span) : List.Forall₂ related ss (onSpans afterComment ss) := by
  induction ss generalizing afterComment with
  | nil => exact .nil
  | cons s ss ih => exact .cons (each afterComment s) (ih _)

/-- The spans of a text with its line breaks collapsed, whether or not a comment comes before it. -/
theorem spans_fromSpans (afterComment : Bool) (t : Text) :
    BeginsLike t (fromSpans afterComment (spans t)) ∧
      spans (fromSpans afterComment (spans t)) = onSpans afterComment (spans t) := by
  induction t using spans_induction generalizing afterComment with
  | nil => simp [fromSpans, onSpans, BeginsLike.refl]
  | span s rest precedes scanned ih =>
    obtain ⟨kind, text⟩ := s
    by_cases unmarked : kind = .plain
    · subst unmarked
      obtain ⟨like, again⟩ := ih false
      have reblanked := reblanked_plain afterComment text
      have stops := special_of_beginsLike like (stops_of_scanned scanned precedes)
      rw [scanned, fromSpans, if_pos rfl,
        spans_plain (precedes_reblanked precedes reblanked like) stops, again]
      exact ⟨like.append reblanked, rfl⟩
    · obtain ⟨like, again⟩ := ih (kind = .lineComment)
      have line : kind = .lineComment →
          (fromSpans (kind = .lineComment) (spans rest)).head? = rest.head? := by
        rintro rfl
        exact head?_fromSpans_comment precedes
      have follows := precedes_of_beginsLike precedes unmarked like line
      rw [scanned, fromSpans, if_neg unmarked, spans_of_precedes follows unmarked, again, onSpans,
        onSpan, if_neg unmarked]
      obtain ⟨c, body, start⟩ := text_eq_cons_of_precedes precedes
      refine ⟨?_, rfl⟩
      rw [show text = c :: body from start]
      exact .cons c

theorem recast_fromSpans (afterComment : Bool) (t : Text) :
    BeginsLike t (fromSpans afterComment (spans t)) ∧
      List.Forall₂ Recast (spans t) (spans (fromSpans afterComment (spans t))) := by
  obtain ⟨like, again⟩ := spans_fromSpans afterComment t
  exact ⟨like, again ▸ forall₂_onSpans recast_onSpan afterComment (spans t)⟩

end Collapse

theorem kept_of_recast (p : SpanKind → Bool) (unmarked : p .plain = false)
    (recast : List.Forall₂ Recast ss ts) :
    ts.filter (fun s => p s.kind) = ss.filter fun s => p s.kind := by
  induction recast with
  | nil => rfl
  | cons first _ ih =>
    cases first with
    | plain => simp [unmarked, ih]
    | marked => rw [List.filter_cons, List.filter_cons, ih]

/-- A statement on one line has the spans of the statement, each of them the same but for blanks in
plain text, and so the same references. -/
theorem collapse_recasts (sql : Text) :
    (spans (collapseLineBreaks sql)).filter (·.kind ≠ .plain) =
        (spans sql).filter (·.kind ≠ .plain) ∧
      List.Forall₂ Recast (spans sql) (spans (collapseLineBreaks sql)) ∧
      references (collapseLineBreaks sql) = references sql := by
  have recast := (Collapse.recast_fromSpans false sql).2
  refine ⟨kept_of_recast (· ≠ .plain) rfl recast, recast, ?_⟩
  have same := kept_of_recast (· = .placeholder) rfl recast
  rw [references, references, collapseLineBreaks, same]

/-- The line feed after the comment stays, the others become blanks. -/
example : collapseLineBreaks "a\r\n --b\n \n c" = "a --b\nc" := by cbv

end SqlReplay
