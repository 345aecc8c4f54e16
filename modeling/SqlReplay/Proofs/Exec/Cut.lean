import SqlReplay.Proofs.Exec.Split
import SqlReplay.Proofs.Sql.Detection

/-! Where a call is cut. The cuts are the commas with an even number of apostrophes before them in
the whole call, and a piece is what stands between two of them. No other pieces give the call back
and leave no such comma inside one of them. -/

namespace SqlReplay

/-- The commas outside strings; `inside` says that the text starts in one. -/
def cuts (inside : Bool) (t : Text) : List Nat :=
  (List.range t.length).filter fun i => t[i]? = some ',' ∧ quotes inside (t.take i) % 2 = 0

/-- What stands between separators of one character at these offsets. -/
def cutAt (offsets : List Nat) (t : Text) : List Text :=
  List.zipWith (Text.between t) (0 :: offsets.map (· + 1)) (offsets ++ [t.length])

theorem cuts_cons (inside : Bool) (c : Char) (rest : Text) : cuts inside (c :: rest) =
    (if c = ',' ∧ inside = false then [0] else []) ++
      (cuts (insideAfter inside c) rest).map (· + 1) := by
  have first : (c = ',' ∧ quotes inside [] % 2 = 0) ↔ (c = ',' ∧ inside = false) := by
    cases inside <;> simp [quotes]
  unfold cuts
  rw [List.length_cons, List.range_succ_eq_map, List.filter_cons, List.filter_map]
  simp only [List.getElem?_cons_zero, List.take_zero, Option.some.injEq, first, decide_eq_true_eq,
    Function.comp_def, List.getElem?_cons_succ, List.take_succ_cons, quotes_cons]
  split <;> rfl

theorem mem_cuts_iff : i ∈ cuts false t ↔ t[i]? = some ',' ∧ (t.take i).count '\'' % 2 = 0 := by
  rw [cuts, List.mem_filter, List.mem_range, decide_eq_true_eq, quotes, Bool.toNat_false,
    Nat.add_zero]
  constructor
  · rintro ⟨_, comma, even⟩
    exact ⟨comma, even⟩
  · rintro ⟨comma, even⟩
    exact ⟨(List.getElem?_eq_some_iff.1 comma).1, comma, even⟩

theorem cuts_sorted (inside : Bool) (t : Text) : (cuts inside t).Pairwise (· < ·) :=
  List.pairwise_lt_range.filter _

theorem zipWith_between_cons (c : Char) (rest : Text) (starts stops : List Nat) :
    List.zipWith (Text.between (c :: rest)) (starts.map (· + 1)) (stops.map (· + 1)) =
      List.zipWith (Text.between rest) starts stops := by
  rw [List.zipWith_map]
  rfl

/-- A character in front of a text moves the cuts on and belongs to the first piece. -/
theorem cutAt_moved (offsets : List Nat) (c : Char) (rest : Text) :
    cutAt (offsets.map (· + 1)) (c :: rest) = joinFirst [c] (cutAt offsets rest) := by
  have stops : offsets.map (· + 1) ++ [(c :: rest).length] =
      (offsets ++ [rest.length]).map (· + 1) := by simp
  have some : offsets ++ [rest.length] ≠ [] := by simp
  obtain ⟨stop, more, split⟩ := List.exists_cons_of_ne_nil some
  rw [cutAt, stops, cutAt, split, List.map_cons, List.zipWith_cons_cons, zipWith_between_cons]
  rfl

theorem cutAt_first (offsets : List Nat) (c : Char) (rest : Text) :
    cutAt (0 :: offsets.map (· + 1)) (c :: rest) = [] :: cutAt offsets rest := by
  have stops : offsets.map (· + 1) ++ [(c :: rest).length] =
      (offsets ++ [rest.length]).map (· + 1) := by simp
  rw [cutAt, List.cons_append, List.zipWith_cons_cons, stops, zipWith_between_cons]
  rfl

/-- Read one character at a time, the pieces are those between the cuts. -/
theorem pieces_eq_cutAt (inside : Bool) (t : Text) : pieces inside t = cutAt (cuts inside t) t := by
  induction t generalizing inside with
  | nil => rfl
  | cons c rest ih =>
    rw [pieces_cons, cuts_cons]
    by_cases cut : c = ',' ∧ inside = false
    · obtain ⟨rfl, rfl⟩ := cut
      rw [if_pos ⟨rfl, rfl⟩, if_pos ⟨rfl, rfl⟩, List.singleton_append, cutAt_first, ih]
      rfl
    · rw [if_neg cut, if_neg cut, List.nil_append, cutAt_moved, ih]

/-- Pieces by what can be seen of them from outside. -/
theorem piecesOf_iff : PiecesOf false t ps ↔ ps ≠ [] ∧ Text.join [','] ps = t ∧
    (∀ piece ∈ ps.dropLast, quotes false piece % 2 = 0) ∧ ∀ piece ∈ ps, Enclosed false piece := by
  constructor
  · intro of
    generalize outside : false = inside at of
    induction of with
    | last enclosed =>
      subst outside
      simpa [Text.join] using enclosed
    | @comma _ piece rest ps enclosed even _ ih =>
      subst outside
      obtain ⟨some, joined, evens, others⟩ := ih rfl
      rw [join_comma some, joined, List.dropLast_cons_of_ne_nil some]
      exact ⟨List.cons_ne_nil _ _, rfl, List.forall_mem_cons.2 ⟨even, evens⟩,
        List.forall_mem_cons.2 ⟨enclosed, others⟩⟩
  · rintro ⟨some, rfl, even, enclosed⟩
    exact piecesOf_join some even enclosed

/-- A call is cut exactly at its commas with an even number of apostrophes before them. Its pieces
are the only ones that joined by commas give the call back, where apostrophes stand in pairs in
every piece but the last one and no comma of a piece has an even number of them before it there. -/
theorem splitAssignments_exact (call : Text) :
    (∃ offsets : List Nat, offsets.Pairwise (· < ·) ∧
      (∀ i, i ∈ offsets ↔ call[i]? = some ',' ∧ (call.take i).count '\'' % 2 = 0) ∧
      splitAssignments call = cutAt offsets call) ∧
    ∀ ps, splitAssignments call = ps ↔ ps ≠ [] ∧ Text.join [','] ps = call ∧
      (∀ piece ∈ ps.dropLast, piece.count '\'' % 2 = 0) ∧
      ∀ piece ∈ ps, ∀ before after, piece = before ++ ',' :: after →
        before.count '\'' % 2 = 1 := by
  rw [splitAssignments_eq_pieces]
  constructor
  · exact ⟨cuts false call, cuts_sorted false call, fun _ => mem_cuts_iff,
      pieces_eq_cutAt false call⟩
  · intro ps
    have seen : PiecesOf false call ps ↔ _ := piecesOf_iff
    simp only [enclosed_iff] at seen
    refine Iff.trans ?_ seen
    constructor
    · rintro rfl
      exact piecesOf_pieces false call
    · exact PiecesOf.eq

/-- Neither a comma in a string nor one after a string that is left open cuts. -/
example : splitAssignments "a,'b,''c',d',e" = [['a'], "'b,''c'", "d',e"] := by cbv

end SqlReplay
