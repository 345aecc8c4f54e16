import Mathlib
import SqlReplay.Proofs.Exec.Registry
import SqlReplay.Proofs.Exec.Split

/-! Calls as they are printed: something in front, and assignments with a comma before each.
Reading a printed call gives its assignments back. -/

namespace SqlReplay

/-- A printed value: trimmed, no terminator at its end, and every comma inside a string of it. -/
structure IsValue (v : Text) : Prop where
  trimmed : Text.trim v = v
  unterminated : v.getLast? ≠ some ';'
  even : v.count '\'' % 2 = 0
  enclosed : ∀ before after, v = before ++ ',' :: after → before.count '\'' % 2 = 1

/-- An at sign and the characters of a name, at least one. -/
def IsName (name : Text) : Prop :=
  ∃ rest, name = '@' :: rest ∧ rest ≠ [] ∧ ∀ c ∈ rest, Cursor.isNameChar c = true

theorem isName_singleton (named : Cursor.isNameChar c = true) : IsName ['@', c] :=
  ⟨[c], rfl, by simp, by simpa using named⟩

def Assignment.text (a : Assignment) : Text := a.name ++ '=' :: a.value

def printAssignments (as : List Assignment) : Text := as.flatMap fun a => ',' :: a.text

theorem count_quote_name (name : IsName n) : n.count '\'' = 0 := by
  obtain ⟨rest, rfl, _, named⟩ := name
  refine List.count_eq_zero.2 ?_
  intro member
  rcases List.mem_cons.1 member with quote | member
  · contradiction
  · exact absurd (named _ member) (by decide)

theorem not_comma_mem_name (name : IsName n) : ',' ∉ n := by
  obtain ⟨rest, rfl, _, named⟩ := name
  intro member
  rcases List.mem_cons.1 member with comma | member
  · contradiction
  · exact absurd (named _ member) (by decide)

/-- Text that stays in one piece and leaves the reading of pieces outside of strings. -/
structure OnePiece (v : Text) : Prop where
  even : v.count '\'' % 2 = 0
  enclosed : ∀ before after, v = before ++ ',' :: after → before.count '\'' % 2 = 1

theorem IsValue.onePiece (value : IsValue v) : OnePiece v := ⟨value.even, value.enclosed⟩

theorem enclosed_assignment (name : IsName n) (value : OnePiece v) :
    Enclosed false (n ++ '=' :: v) := by
  intro before after whole
  rcases List.append_eq_append_iff.1 whole with ⟨more, rfl, rest⟩ | ⟨more, rfl, rest⟩
  · cases more with
    | nil => simp at rest
    | cons c more =>
      obtain ⟨rfl, rfl⟩ := List.cons.inj rest
      have odd := value.enclosed more after rfl
      simp [quotes, count_quote_name name, odd]
  · cases more with
    | nil => simp at rest
    | cons c more =>
      obtain rfl := (List.cons.inj rest).1
      exact absurd (by simp) (not_comma_mem_name name)

theorem even_assignment (name : IsName n) (value : OnePiece v) :
    (n ++ '=' :: v).count '\'' % 2 = 0 := by
  simp [count_quote_name name, value.even]

/-- The pieces of a printed call are those of its start and one for each assignment. -/
theorem splitAssignments_print (each : ∀ a ∈ as, IsName a.name ∧ OnePiece a.value) (start : Text)
    (balanced : start.count '\'' % 2 = 0) :
    splitAssignments (start ++ printAssignments as) =
      splitAssignments start ++ as.map Assignment.text := by
  induction as generalizing start with
  | nil => simp [printAssignments]
  | cons a as ih =>
    obtain ⟨name, value⟩ := each a (List.mem_cons_self ..)
    have later := ih (fun b member => each b (List.mem_cons_of_mem _ member)) a.text
      (even_assignment name value)
    have whole := enclosed_assignment name value
    have printed : printAssignments (a :: as) = ',' :: (a.text ++ printAssignments as) := rfl
    simp only [splitAssignments_eq_pieces] at later ⊢
    rw [printed, pieces_append_comma (by simpa [quotes] using balanced), later, Assignment.text,
      pieces_enclosed whole]
    rfl

theorem trim_assignment (name : IsName n) (ends : ∀ c, v.getLast? = some c → isBlank c = false) :
    Text.trim (n ++ '=' :: v) = n ++ '=' :: v := by
  obtain ⟨rest, rfl, _, _⟩ := name
  refine trim_of_trimmed ⟨?_, ?_⟩
  · rintro c ⟨⟩
    rfl
  · intro c last
    rw [List.getLast?_append, List.getLast?_cons] at last
    cases final : v.getLast? with
    | none =>
      rw [final] at last
      obtain rfl : '=' = c := by simpa using last
      rfl
    | some d =>
      rw [final] at last
      obtain rfl : d = c := by simpa using last
      exact ends d final

/-- A piece that assigns, by its name and by what is left after the equals sign. -/
theorem ofPiece?_eq (name : IsName n) (ends : ∀ c, v.getLast? = some c → isBlank c = false) :
    Assignment.ofPiece? (n ++ '=' :: v) = some ⟨n, dropTerminator (Text.trim v)⟩ := by
  have trimmed := trim_assignment name ends
  obtain ⟨rest, rfl, nonempty, named⟩ := name
  have stops : ∀ c, ('=' :: v).head? = some c → Cursor.isNameChar c = false := by
    rintro c ⟨⟩
    rfl
  have kept : Text.trimLeft ('=' :: v) = '=' :: v := rfl
  obtain ⟨c, more, rfl⟩ := List.exists_cons_of_ne_nil nonempty
  unfold Assignment.ofPiece?
  rw [trimmed]
  simp only [List.cons_append]
  rw [← List.cons_append, takeWhile_append_stop named stops, dropWhile_append_stop named stops,
    kept]
  rfl

theorem ofPiece?_text (name : IsName a.name) (value : IsValue a.value) :
    Assignment.ofPiece? a.text = some a := by
  have ends := (trimmed_of_trim_eq value.trimmed).2
  rw [Assignment.text, ofPiece?_eq name ends, value.trimmed, dropTerminator,
    if_neg value.unterminated]

/-- The terminator of the call is not part of the last value. -/
theorem ofPiece?_terminated (name : IsName n) (value : IsValue v) :
    Assignment.ofPiece? (n ++ '=' :: (v ++ [';'])) = some ⟨n, v⟩ := by
  have ends : ∀ c, (v ++ [';']).getLast? = some c → isBlank c = false := by
    intro c last
    obtain rfl : ';' = c := by simpa using last
    rfl
  have trimmed := trimmed_of_trim_eq value.trimmed
  have whole : Text.trim (v ++ [';']) = v ++ [';'] := by
    refine trim_of_trimmed ⟨?_, ends⟩
    intro c first
    cases v with
    | nil =>
      obtain rfl : ';' = c := by simpa using first
      rfl
    | cons d v => exact trimmed.1 c first
  have nothing : Blank [] := by simp [Blank]
  have kept := trimRight_append nothing trimmed.2
  rw [List.append_nil] at kept
  rw [ofPiece?_eq name ends, whole, dropTerminator, if_pos (by simp), List.dropLast_concat, kept]

theorem onePiece_terminated (value : IsValue v) : OnePiece (v ++ [';']) := by
  refine ⟨by simpa using value.even, ?_⟩
  intro before after whole
  rcases List.append_eq_append_iff.1 whole with ⟨more, rfl, rest⟩ | ⟨more, rfl, rest⟩
  · cases more with
    | nil => simp at rest
    | cons c more => simp at rest
  · cases more with
    | nil => simp at rest
    | cons c more =>
      obtain ⟨rfl, rfl⟩ := List.cons.inj rest
      exact value.enclosed before more rfl

def Printable (as : List Assignment) : Prop := ∀ a ∈ as, IsName a.name ∧ IsValue a.value

theorem filterMap_ofPiece?_text (printable : Printable as) :
    (as.map Assignment.text).filterMap Assignment.ofPiece? = as := by
  induction as with
  | nil => rfl
  | cons a as ih =>
    obtain ⟨name, value⟩ := printable a (List.mem_cons_self ..)
    rw [List.map_cons, List.filterMap_cons_some (ofPiece?_text name value),
      ih fun b member => printable b (List.mem_cons_of_mem _ member)]

theorem assignments_print (printable : Printable as) (balanced : start.count '\'' % 2 = 0)
    (none : assignments start = []) : assignments (start ++ printAssignments as) = as := by
  have split := splitAssignments_print (fun a member => (printable a member).imp_right
    IsValue.onePiece) start balanced
  rw [assignments, split, List.filterMap_append, filterMap_ofPiece?_text printable,
    show (splitAssignments start).filterMap Assignment.ofPiece? = [] from none, List.nil_append]

/-- A semicolon after the last assignment changes nothing. -/
theorem assignments_print_terminated (printable : Printable as) (some : as ≠ [])
    (balanced : start.count '\'' % 2 = 0) (none : assignments start = []) :
    assignments (start ++ printAssignments as ++ [';']) = as := by
  obtain ⟨init, last, rfl⟩ : ∃ init last, as = init ++ [last] :=
    ⟨as.dropLast, as.getLast some, (List.dropLast_concat_getLast some).symm⟩
  have before : Printable init := fun a member => printable a (List.mem_append_left _ member)
  obtain ⟨name, value⟩ := printable last (by simp)
  have moved : start ++ printAssignments (init ++ [last]) ++ [';'] =
      start ++ printAssignments (init ++ [⟨last.name, last.value ++ [';']⟩]) := by
    simp [printAssignments, Assignment.text]
  have each : ∀ a ∈ init ++ [⟨last.name, last.value ++ [';']⟩],
      IsName a.name ∧ OnePiece a.value := by
    intro a member
    rcases List.mem_append.1 member with member | member
    · exact (before a member).imp_right IsValue.onePiece
    · obtain rfl := List.mem_singleton.1 member
      exact ⟨name, onePiece_terminated value⟩
  rw [assignments, moved, splitAssignments_print each start balanced, List.filterMap_append,
    List.map_append, List.filterMap_append, filterMap_ofPiece?_text before, List.map_singleton,
    Assignment.text, List.filterMap_cons_some (ofPiece?_terminated name value),
    show (splitAssignments start).filterMap Assignment.ofPiece? = [] from none]
  rfl

def repeatedNames (names : List Text) : List Text :=
  (names.zipIdx.filter fun p =>
    (names.take p.2).any fun name => Text.lower name == Text.lower p.1).map Prod.fst

theorem map_name_repeated (before : List Text) (seen : List Text)
    (same : ∀ key, key ∈ seen ↔ key ∈ before.map Text.lower) (as : List Assignment) :
    (repeated seen as).map Assignment.name =
      (((as.map Assignment.name).zipIdx before.length).filter fun p =>
        ((before ++ as.map Assignment.name).take p.2).any fun name =>
          Text.lower name == Text.lower p.1).map Prod.fst := by
  induction as generalizing before seen with
  | nil => rfl
  | cons a as ih =>
    have later (seen : List Text)
        (same : ∀ key, key ∈ seen ↔ key ∈ (before ++ [a.name]).map Text.lower) :=
      ih (before ++ [a.name]) seen same
    simp only [List.length_append, List.length_singleton, List.append_assoc,
      List.singleton_append] at later
    have earlier : (before.any fun name => Text.lower name == Text.lower a.name) =
        decide (Text.lower a.name ∈ seen) := by
      rw [Bool.eq_iff_iff, decide_eq_true_eq, same, List.any_eq_true, List.mem_map]
      simp only [beq_iff_eq]
    rw [List.map_cons, List.zipIdx_cons, List.filter_cons]
    simp only [List.take_left, earlier, decide_eq_true_eq, repeated]
    by_cases known : Text.lower a.name ∈ seen
    · rw [if_pos known, if_pos known, List.map_cons, List.map_cons, later seen]
      intro key
      rw [List.map_append, List.mem_append, ← same]
      constructor
      · exact .inl
      · rintro (member | member)
        · exact member
        · exact List.mem_singleton.1 member ▸ known
    · rw [if_neg known, if_neg known, later (Text.lower a.name :: seen)]
      intro key
      rw [List.map_append, List.mem_append, ← same, List.mem_cons, List.map_singleton,
        List.mem_singleton, or_comm]

theorem repeated_eq_repeatedNames (as : List Assignment) :
    (repeated [] as).map Assignment.name = repeatedNames (as.map Assignment.name) :=
  map_name_repeated [] [] (by simp) as

theorem message_duplicate_injective (m n : Text)
    (same : (Warning.duplicateAssignment m).message = (Warning.duplicateAssignment n).message) :
    m = n := by
  change "Duplicate assignment for ".toList ++ m ++ "; last value wins.".toList =
    "Duplicate assignment for ".toList ++ n ++ "; last value wins.".toList at same
  exact List.append_cancel_left (List.append_cancel_right same)

/-- No message is empty, so only repeated ones are dropped. -/
theorem distinctTexts_messages (ws : List Warning) :
    distinctTexts (ws.map Warning.message) = (ws.map Warning.message).eraseDups := by
  rw [distinctTexts, List.filter_eq_self.2]
  intro text member
  obtain ⟨w, _, rfl⟩ := List.mem_map.1 member
  have nonempty := w.message_ne_nil
  simpa using nonempty

/-- Repeated assignments are reported once for each spelling. -/
theorem distinctTexts_duplicates (names : List Text) :
    distinctTexts ((names.map Warning.duplicateAssignment).map Warning.message) =
      names.eraseDups.map fun name => (Warning.duplicateAssignment name).message := by
  rw [distinctTexts_messages, List.map_map]
  exact eraseDups_map_of_injective message_duplicate_injective names

def doubleQuotes (s : Text) : Text := s.flatMap fun c => if c = '\'' then ['\'', '\''] else [c]

def quoteString (s : Text) : Text := '\'' :: (doubleQuotes s ++ ['\''])

theorem doubleQuotes_quote (s : Text) :
    doubleQuotes ('\'' :: s) = '\'' :: '\'' :: doubleQuotes s := rfl

theorem doubleQuotes_other (other : c ≠ '\'') (s : Text) :
    doubleQuotes (c :: s) = c :: doubleQuotes s := by
  simp [doubleQuotes, other]

theorem decodeString_doubleQuotes (s : Text) : Shape.decodeString (doubleQuotes s) = s := by
  induction s with
  | nil => rfl
  | cons c s ih =>
    by_cases quote : c = '\''
    · subst quote
      rw [doubleQuotes_quote, Shape.decodeString, ih]
    · rw [doubleQuotes_other quote, Shape.decodeString, ih]
      rintro _ rfl
      contradiction

theorem body_quoteString (s : Text) : Shape.body 1 (quoteString s) = s := by
  rw [Shape.body, quoteString, List.drop_succ_cons, List.drop_zero, List.dropLast_concat,
    decodeString_doubleQuotes]

theorem count_doubleQuotes (s : Text) : (doubleQuotes s).count '\'' = 2 * s.count '\'' := by
  induction s with
  | nil => rfl
  | cons c s ih =>
    by_cases quote : c = '\''
    · subst quote
      rw [doubleQuotes_quote, List.count_cons_self, List.count_cons_self, List.count_cons_self, ih]
      omega
    · rw [doubleQuotes_other quote, List.count_cons_of_ne quote, List.count_cons_of_ne quote, ih]

theorem even_doubleQuotes (s : Text) : (doubleQuotes s).count '\'' % 2 = 0 := by
  rw [count_doubleQuotes]
  omega

/-- Before a comma of a text apostrophes stand in pairs. -/
theorem even_before_comma (s before after : Text)
    (whole : doubleQuotes s ++ ['\''] = before ++ ',' :: after) : before.count '\'' % 2 = 0 := by
  induction s generalizing before with
  | nil =>
    cases before with
    | nil => simp [doubleQuotes] at whole
    | cons c before => simp [doubleQuotes] at whole
  | cons c s ih =>
    by_cases quote : c = '\''
    · subst quote
      rw [doubleQuotes_quote] at whole
      match before with
      | [] => simp at whole
      | [d] => simp at whole
      | d :: e :: before =>
        simp only [List.cons_append, List.cons.injEq] at whole
        obtain ⟨rfl, rfl, rest⟩ := whole
        have even := ih before rest
        rw [List.count_cons_self, List.count_cons_self]
        omega
    · rw [doubleQuotes_other quote] at whole
      cases before with
      | nil => rfl
      | cons d before =>
        obtain ⟨rfl, rest⟩ := List.cons.inj whole
        rw [List.count_cons_of_ne quote]
        exact ih before rest

theorem isValue_quoteString (s : Text) : IsValue (quoteString s) := by
  refine ⟨trim_of_trimmed ⟨?_, ?_⟩, by simp [quoteString, List.getLast?_cons], ?_, ?_⟩
  · rintro c ⟨⟩
    rfl
  · intro c last
    obtain rfl : '\'' = c := by simpa [quoteString, List.getLast?_cons] using last
    rfl
  · have even := even_doubleQuotes s
    rw [quoteString, List.count_cons_self, List.count_append, List.count_singleton_self]
    omega
  · intro before after whole
    cases before with
    | nil => simp [quoteString] at whole
    | cons c before =>
      obtain ⟨rfl, rest⟩ := List.cons.inj whole
      have even := even_before_comma s before after rest
      rw [List.count_cons_self]
      omega

theorem isValue_national (s : Text) : IsValue ('N' :: quoteString s) := by
  obtain ⟨trimmed, unterminated, even, enclosed⟩ := isValue_quoteString s
  have ends := (trimmed_of_trim_eq trimmed).2
  refine ⟨trim_of_trimmed ⟨?_, ?_⟩, ?_, ?_, ?_⟩
  · rintro c ⟨⟩
    rfl
  · simpa [quoteString, List.getLast?_cons] using ends
  · simp [quoteString, List.getLast?_cons]
  · rwa [List.count_cons_of_ne (by decide)]
  · intro before after whole
    cases before with
    | nil => simp [quoteString] at whole
    | cons c before =>
      obtain ⟨rfl, rest⟩ := List.cons.inj whole
      rw [List.count_cons_of_ne (by decide)]
      exact enclosed before after rest

theorem isBlank_print (some : as ≠ []) (start : Text) (after : Text) :
    Text.IsBlank (start ++ printAssignments as ++ after) = false := by
  obtain ⟨a, as, rfl⟩ := List.exists_cons_of_ne_nil some
  refine List.all_eq_false.2 ⟨',', ?_, by decide⟩
  simp [printAssignments]

/-- Reading undoes printing: the keys come in the order of their first assignments, each with its
last value, and every spelling that repeats a key is reported once. Every string can be printed as a
value, plain or national, and is read back from it. -/
theorem parseCall_print (start : Text) (as : List Assignment) (call : Text)
    (balanced : start.count '\'' % 2 = 0)
    (none : ∀ piece ∈ splitAssignments start, Assignment.ofPiece? piece = none)
    (some : as ≠ []) (printable : ∀ a ∈ as, IsName a.name ∧ IsValue a.value)
    (printed : call = start ++ printAssignments as ∨
      call = start ++ printAssignments as ++ [';']) :
    (parseCall call).params.map Param.key = (as.map fun a => Text.lower a.name).eraseDups ∧
      (∀ key, (parseCall call).params.get? key =
        (as.reverse.find? fun a => Text.lower a.name = key).map fun a =>
          ⟨a.name, a.value, classify a.value⟩) ∧
      distinctTexts ((parseCall call).warnings.map Warning.message) =
        (repeatedNames (as.map Assignment.name)).eraseDups.map
          (fun name => (Warning.duplicateAssignment name).message) ∧
      ∀ s, IsValue (quoteString s) ∧ IsValue ('N' :: quoteString s) ∧
        Shape.body 1 (quoteString s) = s ∧ Shape.body 2 ('N' :: quoteString s) = s := by
  have nothing : assignments start = [] := List.filterMap_eq_nil_iff.2 none
  have ink : Text.IsBlank call = false := by
    rcases printed with rfl | rfl
    · simpa using isBlank_print some start []
    · exact isBlank_print some start [';']
  have assigned : assignments call = as := by
    rcases printed with rfl | rfl
    · exact assignments_print printable balanced nothing
    · exact assignments_print_terminated printable some balanced nothing
  have params : (parseCall call).params = Registry.ofAssignments as := by
    simp [parseCall, ink, assigned]
  have nonempty : Registry.ofAssignments as ≠ [] := by
    obtain ⟨a, rest, rfl⟩ := List.exists_cons_of_ne_nil some
    intro empty
    have keys := Registry.keys_ofAssignments (a :: rest)
    rw [empty, List.map_cons, List.eraseDups_cons] at keys
    contradiction
  have warnings : (parseCall call).warnings =
      ((repeated [] as).map Assignment.name).map Warning.duplicateAssignment := by
    simp [parseCall, ink, assigned, nonempty]
  refine ⟨?_, ?_, ?_, fun s => ⟨isValue_quoteString s, isValue_national s, ?_, ?_⟩⟩
  · rw [params]
    exact Registry.keys_ofAssignments as
  · intro key
    rw [params]
    exact Registry.get?_ofAssignments as key
  · rw [warnings, ← repeated_eq_repeatedNames, ← distinctTexts_duplicates]
  · exact body_quoteString s
  · exact body_quoteString s

theorem parseCall_print_repeated :
    (parseCall "exec p,@0=N'R,HWL',@a=5,@A='O''Brien;';").params.map Param.key =
        [['@', '0'], ['@', 'a']] ∧
      (parseCall "exec p,@0=N'R,HWL',@a=5,@A='O''Brien;';").params.get? "@a" =
        some ⟨['@', 'A'], "'O''Brien;'", classify "'O''Brien;'"⟩ ∧
      distinctTexts ((parseCall "exec p,@0=N'R,HWL',@a=5,@A='O''Brien;';").warnings.map
        Warning.message) = [(Warning.duplicateAssignment ['@', 'A']).message] := by
  have start : splitAssignments "exec p" = [['e', 'x', 'e', 'c', ' ', 'p']] := by cbv
  have five : IsValue "5" := by
    refine ⟨by decide, by decide, by decide, ?_⟩
    intro before after whole
    cases before <;> simp at whole
  let as : List Assignment :=
    [⟨['@', '0'], 'N' :: quoteString "R,HWL"⟩, ⟨['@', 'a'], "5"⟩,
      ⟨['@', 'A'], quoteString "O'Brien;"⟩]
  have printable : Printable as := by
    simp only [Printable, as, List.mem_cons, List.not_mem_nil, or_false, forall_eq_or_imp,
      forall_eq]
    exact ⟨⟨isName_singleton rfl, isValue_national _⟩, ⟨isName_singleton rfl, five⟩,
      ⟨isName_singleton rfl, isValue_quoteString _⟩⟩
  have names : (repeatedNames (as.map Assignment.name)).eraseDups = [['@', 'A']] := by cbv
  have read := parseCall_print "exec p" as "exec p,@0=N'R,HWL',@a=5,@A='O''Brien;';" (by decide)
    (by rw [start]; simp; cbv) (by simp [as]) printable (.inr (by cbv))
  have keys : (as.map fun a => Text.lower a.name).eraseDups = [['@', '0'], ['@', 'a']] := by cbv
  have last : as.reverse.find? (fun a => Text.lower a.name = "@a".toList) =
      some ⟨['@', 'A'], quoteString "O'Brien;"⟩ := by cbv
  have value : quoteString "O'Brien;" = "'O''Brien;'" := by cbv
  obtain ⟨first, entry, warned, _⟩ := read
  have entry := entry "@a"
  rw [keys] at first
  rw [last, value] at entry
  rw [names] at warned
  exact ⟨first, entry, warned⟩

end SqlReplay
