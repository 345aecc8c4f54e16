import SqlReplay.Json.Reader

/-! How deep a reader goes decides nothing but how deep it goes: what it reads without coming to its
limit, a deeper reader reads alike. -/

namespace SqlReplay

namespace Json

/-- The reader came to its limit. -/
def IsTooDeep (outcome : Except ReadFault α) : Prop :=
  ∃ inArray, outcome = .error (.tooDeep inArray)

theorem not_isTooDeep {outcome : Except ReadFault α} {a : α} (read : outcome = .ok a) :
    ¬IsTooDeep outcome := by
  rintro ⟨inArray, deep⟩
  have same := read.symm.trans deep
  contradiction

variable {m n : Nat}

theorem push_mono (deeper : m ≤ n) (stack : List Frame) (frame : Frame) (expects : Expects)
    (inArray : Bool) (within : ¬IsTooDeep (push m stack frame expects inArray)) :
    push n stack frame expects inArray = push m stack frame expects inArray := by
  unfold push at within ⊢
  by_cases room : stack.length < m
  · rw [if_pos room, if_pos (Nat.lt_of_lt_of_le room deeper)]
  · rw [if_neg room] at within
    exact absurd ⟨inArray, rfl⟩ within

theorem stepValue_mono (deeper : m ≤ n) (stack : List Frame) (misfit : Except ReadFault Reading)
    (token : Token) (within : ¬IsTooDeep (stepValue m stack misfit token)) :
    stepValue n stack misfit token = stepValue m stack misfit token := by
  cases token with
  | openArray => exact push_mono deeper _ _ _ _ within
  | openObject => exact push_mono deeper _ _ _ _ within
  | _ => rfl

theorem step_mono (deeper : m ≤ n) (position : Nat) (token : Token) (reading : Reading)
    (within : ¬IsTooDeep (step m position token reading)) :
    step n position token reading = step m position token reading := by
  obtain ⟨stack, expects⟩ := reading
  unfold step at within ⊢
  dsimp only at within ⊢
  split at within
  case h_2 => exact stepValue_mono deeper _ _ _ within
  case h_3 => exact stepValue_mono deeper _ _ _ within
  all_goals rfl

theorem run_mono (deeper : m ≤ n) (finish : Nat) (tokens : List (Nat × Token)) (reading : Reading)
    (within : ¬IsTooDeep (run m finish tokens reading)) :
    run n finish tokens reading = run m finish tokens reading := by
  induction tokens generalizing reading with
  | nil => obtain ⟨_ | _, _ | _⟩ := reading <;> rfl
  | cons token tokens ih =>
    obtain ⟨position, token⟩ := token
    rw [run] at within
    have first : ¬IsTooDeep (step m position token reading) := by
      rintro ⟨inArray, deep⟩
      rw [deep] at within
      exact within ⟨inArray, rfl⟩
    rw [run, run, step_mono deeper position token reading first]
    cases stepped : step m position token reading with
    | error fault => rfl
    | ok next =>
      rw [stepped] at within
      exact ih next within

/-- What is read without coming to the limit is read alike with a higher one. -/
theorem decode_mono (deeper : m ≤ n) (t : Text) (within : ¬IsTooDeep (decode m t)) :
    decode n t = decode m t := by
  unfold decode at within ⊢
  split
  next => rfl
  next plain =>
    rw [if_neg plain] at within
    exact run_mono deeper _ _ _ within

/-- Two readers that do not come to their limits read the same. -/
theorem decode_unique {t : Text} (first : ¬IsTooDeep (decode m t))
    (second : ¬IsTooDeep (decode n t)) : decode m t = decode n t := by
  rw [← decode_mono (Nat.le_max_left m n) t first, decode_mono (Nat.le_max_right m n) t second]

end Json

end SqlReplay
