import Mathlib.Tactic.TFAE
import SqlReplay.Proofs.Exec.Bindings
import SqlReplay.Proofs.Exec.Pieces
import SqlReplay.Proofs.Sql.Detection

/-! Names of placeholders as their readers know them: the test of a whole name, the spans of a
statement, and the assignments of a call. Spans and assignments take the same texts for names; the
test takes a name with a line feed behind it as well. -/

namespace SqlReplay

theorem isPlaceholderName_sign (rest : Text) : isPlaceholderName ('@' :: rest) = true ↔
    rest.takeWhile Cursor.isNameChar ≠ [] ∧
      (rest.dropWhile Cursor.isNameChar = [] ∨ rest.dropWhile Cursor.isNameChar = ['\n']) := by
  rw [isPlaceholderName, Cursor.nameLength, ← List.length_pos_iff]
  split
  next empty => simp only [empty, Nat.lt_irrefl, false_and, Bool.false_eq_true]
  next whole filled => simp only [whole, Nat.pos_of_ne_zero filled, true_and, true_or]
  next filled more =>
    simp only [Nat.pos_of_ne_zero filled, true_and, beq_iff_eq]
    exact (or_iff_right more).symm

/-- The test takes names, and names with one line feed behind them. -/
theorem isPlaceholderName_iff (s : Text) :
    isPlaceholderName s = true ↔ IsName s ∨ ∃ name, IsName name ∧ s = name ++ ['\n'] := by
  constructor
  · intro taken
    unfold isPlaceholderName at taken
    split at taken
    · next rest =>
      obtain ⟨filled, ends⟩ := (isPlaceholderName_sign rest).1 taken
      have split := List.takeWhile_append_dropWhile (p := Cursor.isNameChar) (l := rest)
      have name : IsName ('@' :: rest.takeWhile Cursor.isNameChar) :=
        ⟨_, rfl, filled, fun _ member => List.mem_takeWhile_imp member⟩
      rcases ends with whole | feed
      · rw [whole, List.append_nil] at split
        exact .inl (split ▸ name)
      · rw [feed] at split
        exact .inr ⟨_, name, by rw [List.cons_append, split]⟩
    · contradiction
  · have taken {rest more : Text} (filled : rest ≠ [])
        (named : ∀ c ∈ rest, Cursor.isNameChar c = true) (ends : more = [] ∨ more = ['\n']) :
        isPlaceholderName ('@' :: (rest ++ more)) = true := by
      have stops : ∀ c, more.head? = some c → Cursor.isNameChar c = false := by
        rcases ends with rfl | rfl
        · nofun
        · rintro c ⟨⟩
          rfl
      rw [isPlaceholderName_sign, takeWhile_append_stop named stops,
        dropWhile_append_stop named stops]
      exact ⟨filled, ends⟩
    rintro (⟨rest, rfl, filled, named⟩ | ⟨_, ⟨rest, rfl, filled, named⟩, rfl⟩)
    · simpa using taken filled named (.inl rfl)
    · exact taken filled named (.inr rfl)

theorem spans_name (name : IsName s) : spans s = [⟨.placeholder, s⟩] := by
  obtain ⟨rest, rfl, filled, named⟩ := name
  have precedes : Precedes ⟨.placeholder, '@' :: rest⟩ [] :=
    .placeholder filled ⟨named, nofun⟩ nofun
  have next := next_of_precedes precedes nofun
  rw [List.append_nil] at next
  rw [spans_cons, next]
  simp

theorem located_eq_singleton_iff (s : Text) :
    located 0 (spans s) = [(.placeholder, 0, s.length)] ↔ IsName s := by
  constructor
  · intro single
    have found : PlaceholderAt s 0 s.length := by
      rw [← mem_located_spans_iff, single]
      exact List.mem_singleton_self _
    obtain ⟨rest, rfl⟩ := List.head?_eq_some_iff.1 (List.head?_eq_getElem? ▸ found.sign)
    have length : rest.length + 1 = 0 + 1 + (rest.takeWhile Cursor.isNameChar).length := found.name
    have whole : rest.takeWhile Cursor.isNameChar = rest :=
      (List.takeWhile_sublist _).eq_of_length (by omega)
    refine ⟨rest, rfl, ?_, List.takeWhile_eq_self_iff.1 whole⟩
    rintro rfl
    exact absurd found.nonempty (by simp)
  · intro name
    simp [spans_name name, located]

/-- What is assigned to under every value is a name. -/
theorem assigned_iff (s : Text) :
    (∀ v, ∃ a, Assignment.ofPiece? (s ++ '=' :: v) = some a ∧ a.name = s) ↔ IsName s := by
  constructor
  · intro assigned
    obtain ⟨a, assigns, rfl⟩ := assigned []
    exact isName_of_ofPiece? assigns
  · rintro ⟨rest, rfl, filled, named⟩ v
    have ink : ∀ c, (['='] : Text).getLast? = some c → isBlank c = false := by
      rintro c ⟨⟩
      rfl
    have equals : Text.trimRight ('=' :: v) = '=' :: Text.trimRight v :=
      trimRight_append_ink ink v
    have stops : ¬Cursor.isNameChar '=' = true := by decide
    have unindented : Blank [] := nofun
    have read := ofPiece?_start unindented named ('=' :: v)
    simp only [equals, List.takeWhile_cons_of_neg stops, List.dropWhile_cons_of_neg stops,
      List.append_nil, List.nil_append, if_neg filled] at read
    exact ⟨_, read, rfl⟩

theorem not_feed_mem_name (name : IsName n) : '\n' ∉ n := by
  obtain ⟨rest, rfl, _, named⟩ := name
  intro member
  rcases List.mem_cons.1 member with feed | member
  · contradiction
  · exact absurd (named _ member) (by decide)

/-- The readers agree on every text that is no name with a line feed behind it. -/
theorem names_agree_iff (s : Text) :
    [isPlaceholderName s = true,
      located 0 (spans s) = [(.placeholder, 0, s.length)],
      ∀ v, ∃ a, Assignment.ofPiece? (s ++ '=' :: v) = some a ∧ a.name = s,
      IsName s].TFAE ↔
    ¬∃ name, IsName name ∧ s = name ++ ['\n'] := by
  constructor
  · rintro agree ⟨name, isName, rfl⟩
    have taken := (isPlaceholderName_iff _).2 (.inr ⟨name, isName, rfl⟩)
    exact not_feed_mem_name ((agree.out 0 3).1 taken) (by simp)
  · intro other
    have test : isPlaceholderName s = true ↔ IsName s := by
      rw [isPlaceholderName_iff, or_iff_left other]
    tfae_have 1 ↔ 4 := test
    tfae_have 2 ↔ 4 := located_eq_singleton_iff s
    tfae_have 3 ↔ 4 := assigned_iff s
    tfae_finish

/-- The test takes a name that ends in a line feed, which is no name to the other readers. -/
theorem names_disagree_line_feed :
    ¬[isPlaceholderName "@a\n" = true,
      located 0 (spans "@a\n") = [(.placeholder, 0, ("@a\n" : Text).length)],
      ∀ v, ∃ a, Assignment.ofPiece? ("@a\n" ++ '=' :: v) = some a ∧ a.name = "@a\n",
      IsName "@a\n"].TFAE := by
  intro agree
  have taken : isPlaceholderName "@a\n" = true := by decide
  exact not_feed_mem_name ((agree.out 0 3).1 taken) (by decide)

end SqlReplay
