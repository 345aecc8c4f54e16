import SqlReplay.Exec.Assignment
import SqlReplay.Proofs.Sql.Precedes

/-! How a call is cut into pieces. A comma cuts where an even number of apostrophes stands before
it, so the pieces of a text before such a comma do not depend on what follows. -/

namespace SqlReplay

theorem joinFirst_ne_nil (start : Text) (pieces : List Text) : joinFirst start pieces ≠ [] := by
  cases pieces <;> exact List.cons_ne_nil _ _

theorem joinFirst_joinFirst (first second : Text) (pieces : List Text) :
    joinFirst first (joinFirst second pieces) = joinFirst (first ++ second) pieces := by
  cases pieces <;> simp [joinFirst]

theorem joinFirst_append (start : Text) (nonempty : pieces ≠ []) (others : List Text) :
    joinFirst start (pieces ++ others) = joinFirst start pieces ++ others := by
  cases pieces with
  | nil => contradiction
  | cons => rfl

/-- The pieces read one character at a time, inside a string or outside. -/
def pieces (inside : Bool) : Text → List Text
  | [] => [[]]
  | c :: rest =>
    if c = '\'' then joinFirst [c] (pieces (!inside) rest)
    else if c = ',' ∧ inside = false then [] :: pieces false rest
    else joinFirst [c] (pieces inside rest)

/-- Whether a reader is inside a string after a character. -/
def insideAfter (inside : Bool) (c : Char) : Bool := if c = '\'' then !inside else inside

theorem pieces_cons (inside : Bool) (c : Char) (rest : Text) : pieces inside (c :: rest) =
    if c = ',' ∧ inside = false then [] :: pieces false rest
    else joinFirst [c] (pieces (insideAfter inside c) rest) := by
  rw [pieces, insideAfter]
  by_cases quote : c = '\''
  · subst quote
    simp
  · simp [quote]

theorem pieces_ne_nil (inside : Bool) (t : Text) : pieces inside t ≠ [] := by
  cases t with
  | nil => exact List.cons_ne_nil _ _
  | cons c rest =>
    unfold pieces
    split
    · exact joinFirst_ne_nil _ _
    · split
      · exact List.cons_ne_nil _ _
      · exact joinFirst_ne_nil _ _

theorem pieces_quoted (quoted : Quoted '\'' body rest) :
    pieces true (body ++ rest) = joinFirst body (pieces false rest) := by
  induction quoted with
  | unclosed => rfl
  | closed => rfl
  | @doubled body rest _ ih =>
    have twice : pieces true ('\'' :: '\'' :: body ++ rest) =
        joinFirst ['\''] (joinFirst ['\''] (pieces true (body ++ rest))) := rfl
    rw [twice, ih, joinFirst_joinFirst, joinFirst_joinFirst]
    rfl
  | @inside c body rest differs _ ih =>
    rw [List.cons_append, pieces, if_neg differs, if_neg (by simp), ih, joinFirst_joinFirst]
    rfl

/-- Strings are skipped as a whole, which reads the same pieces. -/
theorem splitAssignments_eq_pieces (t : Text) : splitAssignments t = pieces false t := by
  fun_induction splitAssignments t with
  | case1 => rfl
  | case2 rest length ih =>
    have quoted := pieces_quoted (quoted_quotedLength '\'' rest)
    rw [List.take_append_drop] at quoted
    rw [ih, pieces, if_pos rfl, Bool.not_false, quoted, joinFirst_joinFirst]
    rfl
  | case3 rest apart ih => rw [ih, pieces, if_neg apart, if_pos ⟨rfl, rfl⟩]
  | case4 c rest other apart ih => rw [ih, pieces, if_neg other, if_neg (by simp [apart])]

/-- Apostrophes of a text, one more where it is read inside a string. -/
def quotes (inside : Bool) (t : Text) : Nat := t.count '\'' + inside.toNat

theorem quotes_cons (inside : Bool) (c : Char) (t : Text) :
    quotes inside (c :: t) % 2 = quotes (insideAfter inside c) t % 2 := by
  by_cases quote : c = '\''
  · subst quote
    cases inside with
    | false => simp [quotes, insideAfter]
    | true =>
      simp [quotes, insideAfter]
      omega
  · simp [quotes, insideAfter, quote]

theorem pieces_append_comma (even : quotes inside start % 2 = 0) (rest : Text) :
    pieces inside (start ++ ',' :: rest) = pieces inside start ++ pieces false rest := by
  induction start generalizing inside with
  | nil =>
    cases inside with
    | false => rfl
    | true => contradiction
  | cons c start ih =>
    rw [quotes_cons] at even
    have later := ih even
    rw [List.cons_append, pieces_cons, pieces_cons]
    by_cases cut : c = ',' ∧ inside = false
    · obtain ⟨rfl, rfl⟩ := cut
      exact congrArg ([] :: ·) later
    · rw [if_neg cut, if_neg cut, later, joinFirst_append _ (pieces_ne_nil _ _)]

/-- Every comma has an odd number of apostrophes before it. -/
def Enclosed (inside : Bool) (t : Text) : Prop :=
  ∀ before after, t = before ++ ',' :: after → quotes inside before % 2 = 1

theorem enclosed_iff (t : Text) : Enclosed false t ↔
    ∀ before after, t = before ++ ',' :: after → before.count '\'' % 2 = 1 := by
  simp only [Enclosed, quotes, Bool.toNat_false, Nat.add_zero]

theorem enclosed_nil (inside : Bool) : Enclosed inside [] := by simp [Enclosed]

theorem enclosed_cons_iff : Enclosed inside (c :: t) ↔
    ¬(c = ',' ∧ inside = false) ∧ Enclosed (insideAfter inside c) t := by
  constructor
  · intro enclosed
    constructor
    · rintro ⟨rfl, rfl⟩
      exact absurd (enclosed [] t rfl) (by decide)
    · rintro before after rfl
      rw [← quotes_cons]
      exact enclosed (c :: before) after rfl
  · rintro ⟨whole, enclosed⟩ before after split
    cases before with
    | nil =>
      obtain rfl : c = ',' := (List.cons.inj split).1
      simp_all [quotes]
    | cons d before =>
      obtain ⟨rfl, rest⟩ := List.cons.inj split
      rw [quotes_cons]
      exact enclosed before after rest

theorem pieces_enclosed (enclosed : Enclosed inside t) : pieces inside t = [t] := by
  induction t generalizing inside with
  | nil => rfl
  | cons c rest ih =>
    obtain ⟨whole, later⟩ := enclosed_cons_iff.1 enclosed
    rw [pieces_cons, if_neg whole, ih later]
    rfl

/-- A text with its pieces: commas stand inside strings, but for one behind every piece that is not
the last. -/
inductive PiecesOf : Bool → Text → List Text → Prop
  | last : Enclosed inside t → PiecesOf inside t [t]
  | comma : Enclosed inside piece → quotes inside piece % 2 = 0 → PiecesOf false rest ps →
      PiecesOf inside (piece ++ ',' :: rest) (piece :: ps)

theorem PiecesOf.eq (of : PiecesOf inside t ps) : pieces inside t = ps := by
  induction of with
  | last enclosed => exact pieces_enclosed enclosed
  | comma enclosed even _ ih =>
    rw [pieces_append_comma even, pieces_enclosed enclosed, ih]
    rfl

theorem PiecesOf.cons (whole : ¬(c = ',' ∧ inside = false))
    (of : PiecesOf (insideAfter inside c) t ps) :
    PiecesOf inside (c :: t) (joinFirst [c] ps) := by
  cases of with
  | last enclosed => exact .last (enclosed_cons_iff.2 ⟨whole, enclosed⟩)
  | comma enclosed even later =>
    rw [← quotes_cons] at even
    exact .comma (enclosed_cons_iff.2 ⟨whole, enclosed⟩) even later

theorem piecesOf_pieces (inside : Bool) (t : Text) : PiecesOf inside t (pieces inside t) := by
  induction t generalizing inside with
  | nil => exact .last (enclosed_nil inside)
  | cons c rest ih =>
    rw [pieces_cons]
    by_cases cut : c = ',' ∧ inside = false
    · rw [if_pos cut]
      obtain ⟨rfl, rfl⟩ := cut
      exact .comma (enclosed_nil false) rfl (ih false)
    · rw [if_neg cut]
      exact .cons cut (ih _)

theorem join_comma (some : ps ≠ []) (piece : Text) :
    Text.join [','] (piece :: ps) = piece ++ ',' :: Text.join [','] ps := by
  obtain ⟨next, ps, rfl⟩ := List.exists_cons_of_ne_nil some
  simp [Text.join]

theorem piecesOf_join (some : ps ≠ []) (even : ∀ piece ∈ ps.dropLast, quotes false piece % 2 = 0)
    (enclosed : ∀ piece ∈ ps, Enclosed false piece) : PiecesOf false (Text.join [','] ps) ps := by
  induction ps with
  | nil => contradiction
  | cons piece ps ih =>
    have first := enclosed piece (List.mem_cons_self ..)
    by_cases none : ps = []
    · subst none
      exact .last first
    · rw [List.dropLast_cons_of_ne_nil none] at even
      have later := ih none (fun p member => even p (List.mem_cons_of_mem _ member))
        fun p member => enclosed p (List.mem_cons_of_mem _ member)
      rw [join_comma none]
      exact .comma first (even piece (List.mem_cons_self ..)) later

end SqlReplay
