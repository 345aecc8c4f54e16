import Mathlib.Data.List.Forall2
import SqlReplay.Proofs.Sql.References
import SqlReplay.Sql.Rebuild

/-! Spans and the places between them. The spans of a text tile it, each can be found again from its
own first character, and one that is not plain text is found again by itself. A text that is rebuilt
placeholder by placeholder is the same everywhere else. -/

namespace SqlReplay

/-- Stretches that are not empty, each starting where the one before stops. -/
inductive Tiles : Nat → Nat → List (SpanKind × Nat × Nat) → Prop
  | nil : Tiles start start []
  | cons : start < stop → Tiles stop finish rest → Tiles start finish ((kind, start, stop) :: rest)

theorem Tiles.append (first : Tiles start middle before) (second : Tiles middle finish after) :
    Tiles start finish (before ++ after) := by
  induction first with
  | nil => exact second
  | cons advances _ ih => exact .cons advances (ih second)

theorem Tiles.finish_eq (first : Tiles start finish items) (second : Tiles start other items) :
    finish = other := by
  induction first generalizing other with
  | nil => cases second; rfl
  | cons _ _ ih => cases second with | cons _ rest => exact ih rest

theorem located_append (start : Nat) (ss ts : List Span) :
    located start (ss ++ ts) =
      located start ss ++ located (start + (ss.flatMap Span.text).length) ts := by
  induction ss generalizing start with
  | nil => simp [located]
  | cons s ss ih => simp [located, ih, Nat.add_assoc]

theorem length_located (start : Nat) (ss : List Span) : (located start ss).length = ss.length := by
  induction ss generalizing start with
  | nil => rfl
  | cons s ss ih => simp [located, ih]

theorem tiles_located (start : Nat) (ss : List Span) (nonempty : ∀ s ∈ ss, s.text ≠ []) :
    Tiles start (start + (ss.flatMap Span.text).length) (located start ss) := by
  induction ss generalizing start with
  | nil => exact .nil
  | cons s ss ih =>
    have positive := List.length_pos_iff.2 (nonempty s (List.mem_cons_self ..))
    have later := ih (start + s.text.length) fun r member =>
      nonempty r (List.mem_cons_of_mem _ member)
    rw [List.flatMap_cons, List.length_append, ← Nat.add_assoc]
    exact .cons (by omega) later

/-- A part of the stretches is the stretches of a part of the spans. -/
theorem located_eq_append (parts : located start ss = before ++ after) :
    ∃ firsts others, ss = firsts ++ others ∧ before = located start firsts ∧
      after = located (start + (firsts.flatMap Span.text).length) others := by
  have split : ss = ss.take before.length ++ ss.drop before.length :=
    (List.take_append_drop ..).symm
  refine ⟨_, _, split, ?_⟩
  rw [split, located_append] at parts
  have length : (located start (ss.take before.length)).length = before.length := by
    have total := congrArg List.length parts
    rw [List.length_append, List.length_append, length_located, length_located] at total
    rw [length_located, List.length_take]
    rw [List.length_take, List.length_drop] at total
    omega
  have cut := List.append_inj parts length
  exact ⟨cut.1.symm, cut.2.symm⟩

/-- What is left of a text after its first spans is read as the other ones. -/
theorem spans_suffix (whole : spans t = firsts ++ others) :
    spans (others.flatMap Span.text) = others := by
  induction firsts generalizing t with
  | nil => rw [← (show spans t = others from whole), flatMap_text_spans]
  | cons first firsts ih =>
    cases t with
    | nil => simp at whole
    | cons c rest =>
      rw [spans_cons, List.cons_append, List.cons.injEq] at whole
      exact ih whole.2

/-- Reading on from the end of any first spans shows the other ones where they are. -/
theorem located_resumed (whole : located 0 (spans t) = before ++ after) (tiles : Tiles 0 k before) :
    located k (spans (t.drop k)) = after := by
  obtain ⟨firsts, others, split, rfl, rfl⟩ := located_eq_append whole
  have nonempty : ∀ s ∈ firsts, s.text ≠ [] := fun s member =>
    text_ne_nil_of_mem_spans (split ▸ List.mem_append_left _ member)
  have ends : k = (firsts.flatMap Span.text).length := by
    simpa using tiles.finish_eq (tiles_located 0 firsts nonempty)
  have left : t.drop k = others.flatMap Span.text := by
    have text := flatMap_text_spans t
    rw [split, List.flatMap_append] at text
    rw [← text, ends, List.drop_append_length]
  rw [left, spans_suffix split, Nat.zero_add, ends]

theorem quoted_alone (quoted : Quoted k body rest) : Quoted k body [] := by
  induction quoted with
  | unclosed => exact .unclosed
  | closed => exact .closed (by simp)
  | doubled _ ih => exact .doubled ih
  | inside differs _ ih => exact .inside differs ih

theorem commented_alone (commented : Commented body rest) : Commented body [] := by
  induction commented with
  | unclosed => exact .unclosed
  | closed => exact .closed
  | inside apart _ ih => exact .inside apart ih

theorem named_alone (named : Named name rest) : Named name [] := ⟨named.1, nofun⟩

/-- Nothing needs to follow a span that is not plain text. -/
theorem Precedes.alone (precedes : Precedes s rest) (marked : s.kind ≠ .plain) :
    Precedes s [] := by
  cases precedes with
  | quoted quotes quoted => exact .quoted quotes (quoted_alone quoted)
  | lineComment inside => exact .lineComment inside nofun
  | blockComment commented => exact .blockComment (commented_alone commented)
  | systemVariable named => exact .systemVariable (named_alone named)
  | placeholder nonempty named => exact .placeholder nonempty (named_alone named) nofun
  | refused | sign | plain => contradiction

/-- In front of what it precedes, a span that is not plain text is found. -/
theorem spans_of_precedes (precedes : Precedes s rest) (marked : s.kind ≠ .plain) :
    spans (s.text ++ rest) = s :: spans rest := by
  obtain ⟨c, body, text⟩ := text_eq_cons_of_precedes precedes
  obtain ⟨kind, _⟩ := s
  obtain rfl := text
  rw [List.cons_append, spans_cons, next_of_precedes precedes marked, List.take_append_length,
    List.drop_append_length]

theorem spans_alone (member : s ∈ spans t) (marked : s.kind ≠ .plain) : spans s.text = [s] := by
  obtain ⟨rest, precedes⟩ := precedes_of_mem_spans member
  simpa using spans_of_precedes (precedes.alone marked) marked

theorem between_of_mem_located (before : Text) (ss : List Span)
    (member : (kind, start, stop) ∈ located before.length ss) :
    ⟨kind, Text.between (before ++ ss.flatMap Span.text) start stop⟩ ∈ ss ∧
      (Text.between (before ++ ss.flatMap Span.text) start stop).length = stop - start := by
  induction ss generalizing before with
  | nil => simp [located] at member
  | cons s ss ih =>
    rcases List.mem_cons.1 member with here | later
    · simp only [Prod.mk.injEq] at here
      obtain ⟨rfl, rfl, rfl⟩ := here
      rw [List.flatMap_cons, between_append]
      exact ⟨List.mem_cons_self .., by omega⟩
    · have found := ih (before ++ s.text) (by rwa [List.length_append])
      rw [List.append_assoc, ← List.flatMap_cons] at found
      exact ⟨List.mem_cons_of_mem _ found.1, found.2⟩

theorem located_alone (member : (kind, start, stop) ∈ located 0 (spans t))
    (marked : kind ≠ .plain) :
    located 0 (spans (Text.between t start stop)) = [(kind, 0, stop - start)] := by
  obtain ⟨among, length⟩ := between_of_mem_located [] (spans t) member
  rw [List.nil_append, flatMap_text_spans] at among length
  rw [spans_alone among marked]
  simp [located, length]

section

variable {m : Type → Type} [Monad m] [LawfulMonad m]

/-- The text of every span, where placeholders take the answers in turn. -/
def answered : List Span → List (Option Text) → List Text
  | [], _ => []
  | s :: rest, answers =>
    if s.kind = .placeholder then
      (answers.head?.join.getD s.text) :: answered rest answers.tail
    else s.text :: answered rest answers

/-- Whatever the answers are, other spans keep their text. -/
theorem answered_kept (ss : List Span) (answers : List (Option Text)) :
    List.Forall₂ (fun s text => s.kind ≠ .placeholder → text = s.text) ss
      (answered ss answers) := by
  induction ss generalizing answers with
  | nil => exact .nil
  | cons s ss ih =>
    unfold answered
    split
    · next kind => exact .cons (absurd kind) (ih _)
    · exact .cons (fun _ => rfl) (ih _)

theorem answered_none (ss : List Span) (answers : List (Option Text))
    (silent : ∀ a ∈ answers, a = none) : (answered ss answers).flatten = ss.flatMap Span.text := by
  induction ss generalizing answers with
  | nil => rfl
  | cons s ss ih =>
    have first : answers.head?.join = none := by
      cases answers with
      | nil => rfl
      | cons a answers => simp [silent a (List.mem_cons_self ..)]
    have later := ih answers.tail fun a member => silent a (List.mem_of_mem_tail member)
    unfold answered
    split
    · simp [first, later]
    · simp [ih answers silent]

theorem rebuildFrom_eq (visit : Occurrence → m (Option Text)) (before : Text) (ss : List Span) :
    rebuildFrom visit before.length ss = (fun answers => (answered ss answers).flatten) <$>
      ((located before.length ss).filterMap fun (kind, start, stop) =>
        if kind = .placeholder then
          some ⟨.ofName (Text.between (before ++ ss.flatMap Span.text) start stop), start, stop⟩
        else none).mapM visit := by
  induction ss generalizing before with
  | nil => simp [rebuildFrom, located, answered]
  | cons s ss ih =>
    have later := ih (before ++ s.text)
    rw [List.length_append, List.append_assoc, ← List.flatMap_cons] at later
    have here := between_append before s.text (ss.flatMap Span.text)
    rw [List.flatMap_cons] at later ⊢
    rw [rebuildFrom, later, located, List.filterMap_cons]
    by_cases placeholder : s.kind = .placeholder
    · simp [placeholder, here, answered]
    · simp [placeholder, answered]

/-- A statement is rebuilt by asking about its placeholders in order, each once, and putting the
answers in their places. -/
theorem rebuild_eq (visit : Occurrence → m (Option Text)) (sql : Text) :
    rebuild visit sql =
      (fun answers => (answered (spans sql) answers).flatten) <$> (occurrences sql).mapM visit := by
  have asked := rebuildFrom_eq visit [] (spans sql)
  rwa [List.nil_append, flatMap_text_spans] at asked

theorem rebuildFrom_none (start : Nat) (ss : List Span) :
    rebuildFrom (fun _ => (pure none : m (Option Text))) start ss =
      pure (ss.flatMap Span.text) := by
  induction ss generalizing start with
  | nil => rfl
  | cons s ss ih => simp [rebuildFrom, ih]

theorem rebuild_none (sql : Text) :
    rebuild (fun _ => (pure none : m (Option Text))) sql = pure sql := by
  rw [rebuild, rebuildFrom_none, flatMap_text_spans]

end

theorem rebuildFrom_value (value? : Text → Option Text) (start : Nat) (ss : List Span) :
    Id.run (rebuildFrom (fun o => pure (value? o.reference.key)) start ss) =
      ss.flatMap fun s =>
        if s.kind = .placeholder then (value? (Text.lower s.text)).getD s.text else s.text := by
  induction ss generalizing start with
  | nil => rfl
  | cons s ss ih =>
    by_cases placeholder : s.kind = .placeholder
    · simp [rebuildFrom, placeholder, ← ih (start + s.text.length), Reference.ofName]
    · simp [rebuildFrom, placeholder, ← ih (start + s.text.length)]

/-- Replacing placeholders by their values is one way to rebuild a statement. -/
theorem rebuild_value (value? : Text → Option Text) (sql : Text) :
    Id.run (rebuild (fun o => pure (value? o.reference.key)) sql) = substitute value? sql :=
  rebuildFrom_value value? 0 (spans sql)

theorem mapM_note (os noted : List Occurrence) :
    (os.mapM Occurrence.note).run noted = pure (os.map fun _ => none, noted ++ os) := by
  induction os generalizing noted with
  | nil => simp
  | cons o os ih => simp [Occurrence.note, ih]

/-- A visitor that notes what it is shown leaves the statement alone and is shown every placeholder
once, in order. -/
theorem rebuild_note (sql : Text) :
    (rebuild Occurrence.note sql).run [] = pure (sql, occurrences sql) := by
  have kept := answered_none (spans sql) ((occurrences sql).map fun _ => none) (by simp)
  rw [flatMap_text_spans] at kept
  rw [rebuild_eq, StateT.run_map, mapM_note, map_pure, kept, List.nil_append]

/-- A text and its spans: they lose nothing, each can be found again from where it starts and,
unless it is plain text, by itself, and whoever rebuilds the text can change placeholders only. -/
structure Tokenized (t : Text) : Prop where
  tiles : Tiles 0 t.length (located 0 (spans t))
  resumed : ∀ before after k, located 0 (spans t) = before ++ after → Tiles 0 k before →
    located k (spans (t.drop k)) = after
  alone : ∀ kind start stop, (kind, start, stop) ∈ located 0 (spans t) → kind ≠ .plain →
    located 0 (spans (Text.between t start stop)) = [(kind, 0, stop - start)]
  unchanged : ∀ (m : Type → Type) [Monad m] [LawfulMonad m],
    rebuild (fun _ => (pure none : m (Option Text))) t = pure t
  elsewhere : ∀ (m : Type → Type) [Monad m] [LawfulMonad m] (visit : Occurrence → m (Option Text)),
    ∃ texts : List (Option Text) → List Text,
      (∀ answers, List.Forall₂ (fun s text => s.kind ≠ .placeholder → text = s.text) (spans t)
        (texts answers)) ∧
      rebuild visit t = (fun answers => (texts answers).flatten) <$> (occurrences t).mapM visit

theorem tokenized (t : Text) : Tokenized t where
  tiles := by
    have tiles := tiles_located 0 (spans t) fun _ member => text_ne_nil_of_mem_spans member
    rwa [flatMap_text_spans, Nat.zero_add] at tiles
  resumed _ _ _ := located_resumed
  alone _ _ _ := located_alone
  unchanged _ _ _ := rebuild_none t
  elsewhere _ _ _ visit := ⟨answered (spans t), answered_kept (spans t), rebuild_eq visit t⟩

end SqlReplay
