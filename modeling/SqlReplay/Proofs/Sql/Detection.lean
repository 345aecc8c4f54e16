import SqlReplay.Proofs.Distinct
import SqlReplay.Proofs.Sql.Modes

/-! Which characters of a statement are placeholders, told by its modes alone. -/

namespace SqlReplay

def signRun (t : Text) : Nat := (t.reverse.takeWhile (· == '@')).length

/-- A reader of single characters finds a placeholder from `start` up to `stop`: a sign in code that
no sign before it takes, and the whole name after it, which no further sign ends. -/
structure PlaceholderAt (t : Text) (start stop : Nat) : Prop where
  code : (modes .code t)[start]? = some .code
  sign : t[start]? = some '@'
  odd : signRun (t.take (start + 1)) % 2 = 1
  name : stop = start + 1 + ((t.drop (start + 1)).takeWhile Cursor.isNameChar).length
  nonempty : start + 1 < stop
  apart : t[stop]? ≠ some '@'

@[simp] theorem signRun_concat_sign (t : Text) : signRun (t ++ ['@']) = signRun t + 1 := by
  simp [signRun]

theorem signRun_pair (t : Text) : signRun (t ++ ['@', '@']) = signRun t + 2 := by
  have apart : t ++ ['@', '@'] = t ++ ['@'] ++ ['@'] := by simp
  rw [apart, signRun_concat_sign, signRun_concat_sign]

theorem signRun_eq_zero (last : t.getLast? ≠ some '@') : signRun t = 0 := by
  rw [← List.head?_reverse] at last
  cases reversed : t.reverse with
  | nil => simp [signRun, reversed]
  | cons c more =>
    have other : c ≠ '@' := by simpa [reversed] using last
    simp [signRun, reversed, other]

theorem getLast?_quoted (quoted : Quoted k body rest) (follows : rest ≠ []) :
    body.getLast? = some k := by
  induction quoted with
  | unclosed => contradiction
  | closed => rfl
  | doubled _ ih => simp [List.getLast?_cons, ih follows]
  | inside _ _ ih => simp [List.getLast?_cons, ih follows]

theorem getLast?_commented (commented : Commented body rest) (follows : rest ≠ []) :
    body.getLast? = some '/' := by
  induction commented with
  | unclosed => contradiction
  | closed => rfl
  | inside _ _ ih => simp [List.getLast?_cons, ih follows]

theorem getLast?_inert (inert : Inert tail) (nonempty : tail ≠ []) :
    (c :: tail).getLast? ≠ some '@' := by
  intro last
  obtain ⟨d, more, rfl⟩ := List.exists_cons_of_ne_nil nonempty
  rw [List.getLast?_cons_cons] at last
  have special := inert '@' (List.mem_of_getLast? last)
  contradiction

/-- A sign right after a span continues a run only after two signs without a name. -/
theorem text_of_sign (precedes : Precedes s rest) (follows : rest.head? = some '@')
    (last : s.text.getLast? = some '@') : s.text = ['@', '@'] := by
  have nonempty : rest ≠ [] := by rintro rfl; simp at follows
  cases precedes with
  | quoted quotes quoted =>
    cases quotes <;> simp [List.getLast?_cons, getLast?_quoted quoted nonempty] at last
  | lineComment inside ends => simpa using ends '@' follows
  | blockComment commented =>
    simp [List.getLast?_cons, getLast?_commented commented nonempty] at last
  | @systemVariable name _ named =>
    by_cases empty : name = []
    · rw [empty]
    · exact absurd last (by simpa using getLast?_inert (inert_of_named named) empty)
  | placeholder _ _ apart => contradiction
  | refused name named => exact absurd last (getLast?_inert (inert_of_named named) name)
  | @sign tail _ inert apart =>
    by_cases empty : tail = []
    · simp [empty, follows] at apart
    · exact absurd last (getLast?_inert inert empty)
  | @plain c tail _ _ _ _ sign inert =>
    by_cases empty : tail = []
    · simp [empty, sign] at last
    · exact absurd last (getLast?_inert inert empty)

theorem text_ne_nil_of_precedes (precedes : Precedes s rest) : s.text ≠ [] := by
  cases precedes <;> simp

theorem getElem?_inert (inert : Inert tail) (i : Nat) : tail[i]? ≠ some '@' := by
  intro found
  have special := inert '@' (List.mem_of_getElem? found)
  contradiction

theorem getElem?_length_append (a rest : List α) : (a ++ rest)[a.length]? = rest.head? := by
  cases rest <;> simp

theorem signRun_of_precedes (precedes : Precedes s rest) (follows : rest.head? = some '@')
    (aligned : (s.text ++ rest).head? = some '@' → signRun before % 2 = 0) :
    signRun (before ++ s.text) % 2 = 0 := by
  by_cases last : s.text.getLast? = some '@'
  · have pair := text_of_sign precedes follows last
    have even := aligned (by simp [pair])
    rw [pair, signRun_pair, Nat.add_mod_right]
    exact even
  · have ends : (before ++ s.text).getLast? ≠ some '@' := by
      obtain ⟨c, more, text⟩ := List.exists_cons_of_ne_nil (text_ne_nil_of_precedes precedes)
      rw [text] at last ⊢
      simpa [List.getLast?_cons] using last
    rw [signRun_eq_zero ends]

theorem placeholderAt_append_iff (reads : modes .code (before ++ t) = ms ++ modes .code t)
    (length : ms.length = before.length) :
    PlaceholderAt (before ++ t) (before.length + q) stop ↔
      (modes .code t)[q]? = some .code ∧ t[q]? = some '@' ∧
      signRun (before ++ t.take (q + 1)) % 2 = 1 ∧
      stop = before.length + q + 1 + ((t.drop (q + 1)).takeWhile Cursor.isNameChar).length ∧
      before.length + q + 1 < stop ∧ (before ++ t)[stop]? ≠ some '@' := by
  have mode : (modes .code (before ++ t))[before.length + q]? = (modes .code t)[q]? := by
    rw [reads, ← length, List.getElem?_append_right (Nat.le_add_right ..), Nat.add_sub_cancel_left]
  have char : (before ++ t)[before.length + q]? = t[q]? := by
    rw [List.getElem?_append_right (Nat.le_add_right ..), Nat.add_sub_cancel_left]
  have run : (before ++ t).take (before.length + q + 1) = before ++ t.take (q + 1) :=
    List.take_length_add_append (q + 1)
  have after : (before ++ t).drop (before.length + q + 1) = t.drop (q + 1) :=
    List.drop_length_add_append (q + 1)
  constructor
  · rintro ⟨code, sign, odd, name, nonempty, apart⟩
    exact ⟨mode ▸ code, char ▸ sign, run ▸ odd, after ▸ name, nonempty, apart⟩
  · rintro ⟨code, sign, odd, name, nonempty, apart⟩
    exact ⟨mode ▸ code, char ▸ sign, run ▸ odd, after ▸ name, nonempty, apart⟩

/-- Inside a span no placeholder starts, and at its start one does if the span is one. -/
theorem placeholderAt_within (precedes : Precedes s rest)
    (reads : modes .code (before ++ (s.text ++ rest)) = ms ++ modes .code (s.text ++ rest))
    (length : ms.length = before.length)
    (aligned : (s.text ++ rest).head? = some '@' → signRun before % 2 = 0)
    (inside : q < s.text.length)
    (found : PlaceholderAt (before ++ (s.text ++ rest)) (before.length + q) stop) :
    s.kind = .placeholder ∧ q = 0 := by
  obtain ⟨code, sign, odd, name, nonempty, apart⟩ := (placeholderAt_append_iff reads length).1 found
  rw [modes_of_precedes precedes, List.getElem?_append_left (by simpa using inside)] at code
  rw [List.getElem?_append_left inside] at sign
  have mode : s.kind.mode = .code := by simpa [inside] using code
  cases precedes with
  | quoted quotes => cases quotes <;> contradiction
  | lineComment | blockComment => contradiction
  | systemVariable named =>
    match q with
    | 0 =>
      rw [List.cons_append, List.drop_succ_cons, List.cons_append, List.drop_zero,
        List.takeWhile_cons_of_neg (by decide)] at name
      exact absurd nonempty (by simp [name])
    | 1 =>
      have even := aligned rfl
      simp [signRun_pair, even] at odd
    | q + 2 => exact absurd sign (getElem?_inert (inert_of_named named) q)
  | placeholder _ named =>
    cases q with
    | zero => exact ⟨rfl, rfl⟩
    | succ q => exact absurd sign (getElem?_inert (inert_of_named named) q)
  | @refused run _ _ named follows =>
    cases q with
    | zero =>
      rw [List.cons_append, List.drop_succ_cons, List.drop_zero,
        takeWhile_append_stop named.1 named.2] at name
      have ends : before.length + 0 + 1 + run.length = (before ++ '@' :: run).length := by
        simp; omega
      rw [name, ends, ← List.append_assoc, getElem?_length_append] at apart
      contradiction
    | succ q => exact absurd sign (getElem?_inert (inert_of_named named) q)
  | sign inert _ unnamed =>
    cases q with
    | zero =>
      rw [List.cons_append, List.drop_succ_cons, List.drop_zero, takeWhile_eq_nil unnamed] at name
      exact absurd nonempty (by simp [name])
    | succ q => exact absurd sign (getElem?_inert inert q)
  | plain _ _ _ other inert =>
    cases q with
    | zero => exact absurd (by simpa using sign) other
    | succ q => exact absurd sign (getElem?_inert inert q)

theorem placeholderAt_start (precedes : Precedes ⟨.placeholder, text⟩ rest)
    (reads : modes .code (before ++ (text ++ rest)) = ms ++ modes .code (text ++ rest))
    (length : ms.length = before.length)
    (aligned : (text ++ rest).head? = some '@' → signRun before % 2 = 0) :
    PlaceholderAt (before ++ (text ++ rest)) before.length stop ↔
      stop = before.length + text.length := by
  have found : PlaceholderAt (before ++ (text ++ rest)) (before.length + 0) stop ↔ _ :=
    placeholderAt_append_iff reads length
  rw [Nat.add_zero] at found
  rw [found]
  cases precedes with
  | quoted quotes => cases quotes
  | @placeholder name _ nonempty named apart =>
    have whole : ((name ++ rest).takeWhile Cursor.isNameChar).length = name.length := by
      rw [takeWhile_append_stop named.1 named.2]
    constructor
    · rintro ⟨_, _, _, stops, _, _⟩
      simp only [List.cons_append, Nat.zero_add, List.drop_succ_cons, List.drop_zero,
        whole] at stops
      simp only [List.length_cons]
      omega
    · rintro rfl
      have ends : before.length + ('@' :: name).length = (before ++ '@' :: name).length := by simp
      refine ⟨by simp [modes_sign], rfl, ?_, ?_, ?_, ?_⟩
      · have even := aligned rfl
        simp only [List.cons_append, Nat.zero_add, List.take_succ_cons, List.take_zero,
          signRun_concat_sign]
        omega
      · simp only [List.cons_append, Nat.zero_add, List.drop_succ_cons, List.drop_zero, whole,
          List.length_cons]
        omega
      · have positive := List.length_pos_iff.2 nonempty
        simp only [List.length_cons]
        omega
      · rwa [ends, ← List.append_assoc, getElem?_length_append]

/-- The spans of what is left of a text show the placeholders that are left. -/
theorem mem_located_iff (before t : Text) (ms : List ReaderMode)
    (length : ms.length = before.length) (reads : modes .code (before ++ t) = ms ++ modes .code t)
    (aligned : t.head? = some '@' → signRun before % 2 = 0) (start stop : Nat) :
    (.placeholder, start, stop) ∈ located before.length (spans t) ↔
      before.length ≤ start ∧ PlaceholderAt (before ++ t) start stop := by
  induction t using spans_induction generalizing before ms with
  | nil =>
    constructor
    · simp [located]
    · rintro ⟨late, found⟩
      have sign := found.sign
      rw [List.append_nil, List.getElem?_eq_none late] at sign
      contradiction
  | span s rest precedes scanned ih =>
    have next := modes_of_precedes precedes
    have later := ih (before ++ s.text) (ms ++ List.replicate s.text.length s.kind.mode)
      (by simp [length]) (by rw [List.append_assoc, reads, next, List.append_assoc])
      fun follows => signRun_of_precedes precedes follows aligned
    rw [List.length_append, List.append_assoc] at later
    rw [scanned, located, List.mem_cons, later]
    have positive := List.length_pos_iff.2 (text_ne_nil_of_precedes precedes)
    constructor
    · rintro (here | ⟨late, found⟩)
      · obtain ⟨kind, text⟩ := s
        simp only [Prod.mk.injEq] at here
        obtain ⟨rfl, rfl, rfl⟩ := here
        exact ⟨Nat.le_refl _, (placeholderAt_start precedes reads length aligned).2 rfl⟩
      · exact ⟨by omega, found⟩
    · rintro ⟨late, found⟩
      obtain ⟨q, rfl⟩ := Nat.exists_eq_add_of_le late
      by_cases inside : q < s.text.length
      · obtain ⟨placeholder, rfl⟩ := placeholderAt_within precedes reads length aligned inside found
        obtain ⟨kind, text⟩ := s
        obtain rfl : kind = .placeholder := placeholder
        have ends := (placeholderAt_start precedes reads length aligned).1 found
        exact .inl (by simp [ends])
      · exact .inr ⟨by omega, found⟩

theorem mem_located_spans_iff (t : Text) (start stop : Nat) :
    (.placeholder, start, stop) ∈ located 0 (spans t) ↔ PlaceholderAt t start stop := by
  simpa using mem_located_iff [] t [] rfl rfl (fun _ => rfl) start stop

theorem mem_occurrences_iff (t : Text) (o : Occurrence) : o ∈ occurrences t ↔
    PlaceholderAt t o.start o.stop ∧ o.reference = .ofName (Text.between t o.start o.stop) := by
  rw [← mem_located_spans_iff, occurrences, List.mem_filterMap]
  constructor
  · rintro ⟨⟨kind, start, stop⟩, member, found⟩
    dsimp only at found
    split at found
    · next placeholder =>
      obtain rfl := Option.some.inj found
      exact ⟨placeholder ▸ member, rfl⟩
    · contradiction
  · rintro ⟨member, reference⟩
    refine ⟨_, member, ?_⟩
    obtain ⟨r, start, stop⟩ := o
    exact congrArg (fun r => some (Occurrence.mk r start stop)) reference.symm

theorem located_sorted (start : Nat) (ss : List Span) (nonempty : ∀ s ∈ ss, s.text ≠ []) :
    (∀ item ∈ located start ss, start ≤ item.2.1) ∧
      (located start ss).Pairwise fun a b => a.2.1 < b.2.1 := by
  induction ss generalizing start with
  | nil => simp [located]
  | cons s ss ih =>
    have positive := List.length_pos_iff.2 (nonempty s (List.mem_cons_self ..))
    obtain ⟨late, sorted⟩ := ih (start + s.text.length)
      fun other member => nonempty other (List.mem_cons_of_mem _ member)
    constructor
    · intro item member
      rcases List.mem_cons.1 member with rfl | member
      · exact Nat.le_refl _
      · have := late item member
        omega
    · rw [located, List.pairwise_cons]
      refine ⟨?_, sorted⟩
      intro item member
      have := late item member
      simp only
      omega

theorem occurrences_sorted (t : Text) : (occurrences t).Pairwise (·.start < ·.start) := by
  rw [occurrences, List.pairwise_filterMap]
  have sorted := (located_sorted 0 (spans t) fun _ member => text_ne_nil_of_mem_spans member).2
  refine sorted.imp ?_
  rintro ⟨kind, start, stop⟩ ⟨kind', start', stop'⟩ lt o first o' second
  dsimp only at first second
  split at first
  · split at second
    · obtain rfl := Option.some.inj first
      obtain rfl := Option.some.inj second
      exact lt
    · contradiction
  · contradiction

theorem filterMap_located (before : Text) (ss : List Span) :
    ((located before.length ss).filterMap fun (kind, start, stop) =>
      if kind = .placeholder then
        some (Text.between (before ++ ss.flatMap Span.text) start stop)
      else none) =
      (ss.filter (·.kind = .placeholder)).map Span.text := by
  induction ss generalizing before with
  | nil => rfl
  | cons s ss ih =>
    have later := ih (before ++ s.text)
    rw [List.length_append, List.append_assoc] at later
    have here := between_append before s.text (ss.flatMap Span.text)
    rw [located, List.flatMap_cons, List.filterMap_cons]
    by_cases placeholder : s.kind = .placeholder
    · simp [placeholder, here, later]
    · simp [placeholder, later]

theorem occurrences_reference (t : Text) : (occurrences t).map Occurrence.reference =
    ((spans t).filter (·.kind = .placeholder)).map fun s => Reference.ofName s.text := by
  have names := congrArg (List.map Reference.ofName) (filterMap_located [] (spans t))
  rw [List.map_filterMap, List.map_map, flatMap_text_spans] at names
  rw [occurrences, List.map_filterMap]
  refine Eq.trans ?_ names
  refine congrArg (List.filterMap · _) (funext ?_)
  rintro ⟨kind, start, stop⟩
  by_cases placeholder : kind = .placeholder <;> simp [placeholder, Text.between]

/-- Placeholders are found exactly: the spans of that kind are where a reader of single characters
finds one, and the references are those of them that come first with their keys, in order. -/
theorem placeholders_exact (sql : Text) :
    (∀ start stop, (.placeholder, start, stop) ∈ located 0 (spans sql) ↔
      PlaceholderAt sql start stop) ∧
    ∃ firsts : List (Nat × Nat), firsts.Pairwise (fun a b => a.1 < b.1) ∧
      (∀ start stop, (start, stop) ∈ firsts ↔ PlaceholderAt sql start stop ∧
        ∀ start' stop', start' < start → PlaceholderAt sql start' stop' →
          Text.lower (Text.between sql start' stop') ≠ Text.lower (Text.between sql start stop)) ∧
      references sql = firsts.map fun (start, stop) => .ofName (Text.between sql start stop) := by
  refine ⟨mem_located_spans_iff sql, ?_⟩
  let isFirst (o : Occurrence) : Bool := ∀ o' ∈ occurrences sql, o'.start < o.start →
    o'.reference.key ≠ o.reference.key
  have named (o : Occurrence) (member : o ∈ occurrences sql) :
      o.reference = .ofName (Text.between sql o.start o.stop) :=
    ((mem_occurrences_iff sql o).1 member).2
  refine ⟨((occurrences sql).filter isFirst).map fun o => (o.start, o.stop), ?_, ?_, ?_⟩
  · rw [List.pairwise_map]
    exact (occurrences_sorted sql).filter _
  · intro start stop
    simp only [List.mem_map, List.mem_filter, isFirst, decide_eq_true_eq, Prod.mk.injEq]
    constructor
    · rintro ⟨o, ⟨member, first⟩, rfl, rfl⟩
      refine ⟨((mem_occurrences_iff sql o).1 member).1, fun start' stop' earlier found => ?_⟩
      let other : Occurrence := ⟨.ofName (Text.between sql start' stop'), start', stop'⟩
      have apart := first other ((mem_occurrences_iff sql other).2 ⟨found, rfl⟩) earlier
      rwa [named o member] at apart
    · rintro ⟨found, first⟩
      let here : Occurrence := ⟨.ofName (Text.between sql start stop), start, stop⟩
      refine ⟨here, ⟨(mem_occurrences_iff sql here).2 ⟨found, rfl⟩, ?_⟩, rfl, rfl⟩
      intro o' member earlier
      rw [named o' member]
      exact first _ _ earlier ((mem_occurrences_iff sql o').1 member).1
  · rw [references_eq_distinctBy, ← occurrences_reference, distinctBy_map,
      distinctBy_eq_filter _ Occurrence.start _ (occurrences_sorted sql), List.map_map]
    exact List.map_congr_left fun o member => named o (List.mem_filter.1 member).1

end SqlReplay
