import SqlReplay.Sql.Position

/-! Where quoted text ends, told by the runs of its closing character alone. The reading goes on by
one or two characters and looks one ahead, so it may stand inside a run. What is left of the run
then has the same parity as the whole, and the reading ends with the first run of odd length. -/

namespace SqlReplay.Cursor

/-- The character at a position; positions below zero count from the end. -/
def charAt? (t : Text) : Int → Option Char
  | .ofNat n => t[n]?
  | .negSucc n => t.reverse[n]?

@[simp] theorem charAt?_natCast (t : Text) (n : Nat) : charAt? t n = t[n]? := rfl

@[simp] theorem charAt?_negSucc (t : Text) (n : Nat) : charAt? t (.negSucc n) = t.reverse[n]? := rfl

theorem charAt?_eq_none {t : Text} {p : Int} (beyond : t.length ≤ p) : charAt? t p = none := by
  obtain ⟨n, rfl⟩ := Int.eq_ofNat_of_zero_le (show 0 ≤ p by omega)
  rw [charAt?_natCast, List.getElem?_eq_none_iff]
  omega

/-- A longest run of closing characters among the positions from `start` on. A run that reaches
further back counts from there. -/
structure ClosingRun (closing : Char) (t : Text) (start first stop : Int) : Prop where
  late : start ≤ first
  nonempty : first < stop
  inside : ∀ p, first ≤ p → p < stop → charAt? t p = some closing
  before : first = start ∨ charAt? t (first - 1) ≠ some closing
  after : charAt? t stop ≠ some closing

/-- A run of odd length ends at `stop`. -/
def OddRunEnds (closing : Char) (t : Text) (start stop : Int) : Prop :=
  ∃ first, ClosingRun closing t start first stop ∧ (stop - first) % 2 = 1

/-- The end of the first run of odd length, and without one the end of the text. -/
inductive ClosesAt (closing : Char) (t : Text) (start : Int) : Int → Prop
  | closed {stop : Int} : OddRunEnds closing t start stop →
      (∀ other, OddRunEnds closing t start other → stop ≤ other) → ClosesAt closing t start stop
  | unclosed : (∀ stop, ¬OddRunEnds closing t start stop) → ClosesAt closing t start t.length

section

variable {closing : Char} {t rest : Text} {start p stop : Int}

theorem ClosesAt.unique {other : Int} (one : ClosesAt closing t start stop)
    (two : ClosesAt closing t start other) : stop = other := by
  cases one with
  | closed ends least =>
    cases two with
    | closed ends' least' => exact Int.le_antisymm (least _ ends') (least' _ ends)
    | unclosed none => exact absurd ends (none _)
  | unclosed none =>
    cases two with
    | closed ends' => exact absurd ends' (none _)
    | unclosed => rfl

theorem ClosesAt.congr {other : Int} (closes : ClosesAt closing t other stop)
    (same : ∀ e, OddRunEnds closing t start e ↔ OddRunEnds closing t other e) :
    ClosesAt closing t start stop := by
  cases closes with
  | closed ends least => exact .closed ((same _).2 ends) fun e odd => least e ((same e).1 odd)
  | unclosed none => exact .unclosed fun e odd => none e ((same e).1 odd)

theorem ClosingRun.first_char {first : Int} (run : ClosingRun closing t start first stop) :
    charAt? t first = some closing :=
  run.inside first (Int.le_refl _) run.nonempty

/-- A run that does not go on to the left is one from every start up to it. -/
theorem ClosingRun.restart {first other : Int} (run : ClosingRun closing t start first stop)
    (apart : charAt? t (first - 1) ≠ some closing) (late : other ≤ first) :
    ClosingRun closing t other first stop :=
  ⟨late, run.nonempty, run.inside, .inr apart, run.after⟩

/-- Another character at the start belongs to no run. -/
theorem oddRunEnds_skip (other : charAt? t p ≠ some closing) (e : Int) :
    OddRunEnds closing t p e ↔ OddRunEnds closing t (p + 1) e := by
  constructor
  · rintro ⟨first, run, odd⟩
    have moved : first ≠ p := by
      rintro rfl
      exact other run.first_char
    have late := run.late
    exact ⟨first, run.restart (run.before.resolve_left moved) (by omega), odd⟩
  · rintro ⟨first, run, odd⟩
    have late := run.late
    have apart : charAt? t (first - 1) ≠ some closing := by
      rcases run.before with rfl | before
      · rwa [Int.add_sub_cancel]
      · exact before
    exact ⟨first, run.restart apart (by omega), odd⟩

/-- Two closing characters at the start leave the parity of their run as it is. -/
theorem oddRunEnds_skip_pair (one : charAt? t p = some closing)
    (two : charAt? t (p + 1) = some closing) (e : Int) :
    OddRunEnds closing t p e ↔ OddRunEnds closing t (p + 2) e := by
  constructor
  · rintro ⟨first, run, odd⟩
    have late := run.late
    have nonempty := run.nonempty
    by_cases touches : first = p
    · subst touches
      have second : e ≠ first + 1 := by
        rintro rfl
        exact run.after two
      exact ⟨first + 2, ⟨Int.le_refl _, by omega, fun q low => run.inside q (by omega), .inl rfl,
        run.after⟩, by omega⟩
    · have before := run.before.resolve_left touches
      have second : first ≠ p + 1 := by
        rintro rfl
        exact before (by rwa [Int.add_sub_cancel])
      exact ⟨first, run.restart before (by omega), odd⟩
  · rintro ⟨first, run, odd⟩
    have late := run.late
    have nonempty := run.nonempty
    rcases run.before with rfl | before
    · refine ⟨p, ⟨Int.le_refl _, by omega, ?_, .inl rfl, run.after⟩, by omega⟩
      intro q low high
      by_cases here : q = p
      · rwa [here]
      · by_cases next : q = p + 1
        · rwa [next]
        · exact run.inside q (by omega) high
    · exact ⟨first, run.restart before (by omega), odd⟩

/-- One closing character at the start, and no second one, closes. -/
theorem closesAt_single (one : charAt? t p = some closing)
    (apart : charAt? t (p + 1) ≠ some closing) : ClosesAt closing t p (p + 1) := by
  refine .closed ⟨p, ⟨Int.le_refl _, by omega, ?_, .inl rfl, apart⟩, by omega⟩ ?_
  · intro q low high
    obtain rfl : q = p := by omega
    exact one
  · rintro e ⟨first, run, _⟩
    have late := run.late
    have nonempty := run.nonempty
    omega

theorem closesAt_of_length_le (beyond : t.length ≤ p) : ClosesAt closing t p t.length := by
  refine .unclosed ?_
  rintro e ⟨first, run, _⟩
  have char := run.first_char
  rw [charAt?_eq_none (Int.le_trans beyond run.late)] at char
  contradiction

/-- The text that is left has the characters of the positions from `p` on. -/
structure Leaves (t : Text) (p : Int) (rest : Text) : Prop where
  chars : ∀ k : Nat, charAt? t (p + k) = rest[k]?
  length : p + rest.length = t.length

theorem Leaves.head (leaves : Leaves t p rest) : charAt? t p = rest.head? := by
  simpa [List.head?_eq_getElem?] using leaves.chars 0

theorem Leaves.tail {c : Char} (leaves : Leaves t p (c :: rest)) : Leaves t (p + 1) rest := by
  refine ⟨fun k => ?_, ?_⟩
  · have char := leaves.chars (k + 1)
    rw [List.getElem?_cons_succ] at char
    rw [← char]
    congr 1
    omega
  · have length := leaves.length
    rw [List.length_cons] at length
    omega

/-- Reading what is left ends where the runs say, by the cases of the reading. -/
theorem closesAt_quotedLength (leaves : Leaves t p rest) :
    ClosesAt closing t p (p + quotedLength closing rest) := by
  fun_induction quotedLength closing rest generalizing p with
  | case1 =>
    have ends : p + (0 : Nat) = t.length := leaves.length
    rw [ends]
    exact closesAt_of_length_le (by omega)
  | case2 => exact closesAt_single leaves.head (by simp [leaves.tail.head])
  | case3 more ih =>
    have closes := ih leaves.tail.tail
    have two : p + 1 + 1 = p + 2 := by omega
    rw [two] at closes
    have far : p + (quotedLength closing more + 2 : Nat) = p + 2 + quotedLength closing more := by
      omega
    rw [far]
    exact closes.congr (oddRunEnds_skip_pair leaves.head leaves.tail.head)
  | case4 d more other =>
    refine closesAt_single leaves.head ?_
    simpa [leaves.tail.head] using other
  | case5 c rest other ih =>
    have far : p + (quotedLength closing rest + 1 : Nat) = p + 1 + quotedLength closing rest := by
      omega
    rw [far]
    refine (ih leaves.tail).congr (oddRunEnds_skip ?_)
    simpa [leaves.head] using other

theorem readFrom?_isSome_iff (t : Text) (p : Int) :
    (readFrom? t p).isSome = true ↔ -(t.length : Int) ≤ p := by
  cases p with
  | ofNat n => simp [readFrom?]
  | negSucc n =>
    have bound : -(t.length : Int) ≤ Int.negSucc n ↔ n < t.length := by omega
    simp [readFrom?, bound]

theorem leaves_of_readFrom? (read : readFrom? t p = some rest) (inside : p ≤ t.length) :
    Leaves t p rest := by
  cases p with
  | ofNat n =>
    obtain rfl := Option.some.inj read
    rw [Int.ofNat_eq_natCast] at inside
    refine ⟨fun k => ?_, ?_⟩
    · rw [List.getElem?_drop]
      rfl
    · rw [Int.ofNat_eq_natCast, List.length_drop]
      omega
  | negSucc n =>
    simp only [readFrom?] at read
    split at read
    · next within =>
      obtain rfl := Option.some.inj read
      refine ⟨fun k => ?_, ?_⟩
      · -- The reading passes from the last position below zero on to the first of the text.
        by_cases back : k ≤ n
        · have here : Int.negSucc n + k = Int.negSucc (n - k) := by omega
          rw [here, charAt?_negSucc, List.getElem?_reverse (by omega), List.getElem?_append_left,
            List.getElem?_drop]
          · congr 1
            omega
          · rw [List.length_drop]
            omega
        · have here : Int.negSucc n + k = (k - (n + 1) : Nat) := by omega
          rw [here, charAt?_natCast, List.getElem?_append_right]
          · rw [List.length_drop]
            congr 1
            omega
          · rw [List.length_drop]
            omega
      · rw [List.length_append, List.length_drop]
        omega
    · contradiction

theorem closesAt_of_quotedEnd? (ends : quotedEnd? closing t start = some stop) :
    -(t.length : Int) ≤ start + 1 ∧ ClosesAt closing t (start + 1) stop := by
  obtain ⟨rest, read, rfl⟩ := Option.map_eq_some_iff.1 ends
  refine ⟨(readFrom?_isSome_iff t _).1 (by rw [read]; rfl), ?_⟩
  by_cases inside : start + 1 ≤ t.length
  · rw [Int.min_eq_left inside]
    exact closesAt_quotedLength (leaves_of_readFrom? read inside)
  · obtain ⟨n, here⟩ := Int.eq_ofNat_of_zero_le (show 0 ≤ start + 1 by omega)
    rw [here] at read inside ⊢
    obtain rfl : t.drop n = rest := Option.some.inj read
    have nothing : t.drop n = [] := List.drop_eq_nil_of_le (by omega)
    rw [nothing, Int.min_eq_right (by omega), quotedLength]
    exact closesAt_of_length_le (by omega)

end

/-- Quoted text that opens at `start` ends with the first run of odd length among the closing
characters behind its opener, and with the text where there is no such run. Positions below zero
count from the end; before the beginning of the text nothing is read. -/
theorem quoted_closesAt (closing : Char) (t : Text) :
    (∀ start : Nat, ClosesAt closing t (start + 1) (quotedEnd closing t start)) ∧
    ∀ start stop : Int, quotedEnd? closing t start = some stop ↔
      -(t.length : Int) ≤ start + 1 ∧ ClosesAt closing t (start + 1) stop := by
  refine ⟨fun start => (closesAt_of_quotedEnd? (quotedEnd?_natCast closing t start)).2, ?_⟩
  intro start stop
  refine ⟨closesAt_of_quotedEnd?, ?_⟩
  rintro ⟨readable, closes⟩
  obtain ⟨rest, read⟩ := Option.isSome_iff_exists.1 ((readFrom?_isSome_iff t _).2 readable)
  have ends : quotedEnd? closing t start = some _ := congrArg (Option.map _) read
  rw [ends, closes.unique (closesAt_of_quotedEnd? ends).2]

end SqlReplay.Cursor
