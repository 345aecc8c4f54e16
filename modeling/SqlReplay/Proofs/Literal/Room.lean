import SqlReplay.Proofs.Literal.Sizing

/-! What the types of the server have room for. The server counts a national string in units of
two bytes and a `bigint` has 64 bits; the classification counts characters, and gives `bigint` to
every whole number that is no `int`. -/

namespace SqlReplay

/-- The two-byte units of a text: a pair of them for a character beyond the basic plane. -/
def units (t : Text) : Nat := (t.map fun c => if c.toNat < 0x10000 then 1 else 2).sum

def Size.Holds : Size → Nat → Prop
  | .exactly n, length => length ≤ n
  | .unbounded, _ => True

/-- A variable of the type can be given the value with nothing cut off and nothing out of range. -/
def SqlType.Holds : SqlType → Literal → Prop
  | .nvarchar size, .national s => size.Holds (units s)
  | .varbinary size, .binary digits => size.Holds ((digits.length + 1) / 2)
  | .int, .integer sign digits =>
    -2 ^ 31 ≤ signedValue sign digits ∧ signedValue sign digits ≤ 2 ^ 31 - 1
  | .bigint, .integer sign digits =>
    -2 ^ 63 ≤ signedValue sign digits ∧ signedValue sign digits ≤ 2 ^ 63 - 1
  | .decimal precision scale, .decimal _ whole fraction =>
    whole.length ≤ precision - scale ∧ fraction.length ≤ scale
  | _, _ => False

/-- The types with a size or a range that the value has to keep to. -/
def SqlType.IsMeasured : SqlType → Prop
  | .nvarchar _ | .varbinary _ | .int | .bigint | .decimal _ _ => True
  | .varchar _ | .datetime | .date | .time => False

/-- The characters that are counted are units each, and a whole number is one of 64 bits. -/
def Literal.IsOrdinary : Literal → Prop
  | .national s => 4000 < s.length ∨ ∀ c ∈ s, c.toNat < 0x10000
  | .integer sign digits =>
    -2 ^ 63 ≤ signedValue sign digits ∧ signedValue sign digits ≤ 2 ^ 63 - 1
  | _ => True

theorem length_le_units (t : Text) : t.length ≤ units t := by
  induction t with
  | nil => exact Nat.le_refl 0
  | cons c t ih =>
    unfold units at ih ⊢
    rw [List.length_cons, List.map_cons, List.sum_cons]
    split <;> omega

theorem units_le_length_iff : units t ≤ t.length ↔ ∀ c ∈ t, c.toNat < 0x10000 := by
  induction t with
  | nil => simp [units]
  | cons c t ih =>
    have least := length_le_units t
    have more : units (c :: t) = (if c.toNat < 0x10000 then 1 else 2) + units t := by
      rw [units, List.map_cons, List.sum_cons, ← units]
    rw [more, List.length_cons, List.forall_mem_cons, ← ih]
    split
    · next basic => simp only [basic, true_and]; omega
    · next beyond => simp only [beyond, false_and, iff_false]; omega

theorem ofLength_holds_iff (positive : 1 ≤ limit) :
    (Size.ofLength limit n).Holds length ↔ limit < n ∨ length ≤ max 1 n := by
  rw [ofLength_eq positive]
  split
  · next within => exact ⟨.inr, fun either => either.resolve_left (by omega)⟩
  · next beyond => exact iff_of_true trivial (.inl (by omega))

theorem national_holds_iff (s : Text) :
    (Size.ofLength SqlType.nvarcharLimit s.length).Holds (units s) ↔
      (Literal.national s).IsOrdinary := by
  rw [ofLength_holds_iff (by decide), Literal.IsOrdinary, ← units_le_length_iff]
  cases s with
  | nil => simp [units]
  | cons c s =>
    have some : 1 ≤ (c :: s).length := Nat.succ_pos s.length
    rw [Nat.max_eq_right some, SqlType.nvarcharLimit]

theorem not_isMeasured_stringType (s : Text) : ¬(stringType s).IsMeasured := by
  unfold stringType
  split_ifs
  all_goals exact id

/-- A measured type has room for its value exactly where the value is an ordinary one. -/
theorem holds_iff_isOrdinary (typed : classifyTrimmed t = .typed literal type)
    (measured : type.IsMeasured) (spells : Spells value t) :
    type.Holds value ↔ value.IsOrdinary := by
  cases spells with
  | null null =>
    rw [classifyTrimmed_null null] at typed
    contradiction
  | national s =>
    rw [classifyTrimmed_national] at typed
    obtain ⟨-, rfl⟩ := Classification.typed.inj typed
    exact national_holds_iff s
  | string s =>
    rw [classifyTrimmed_string] at typed
    obtain ⟨-, rfl⟩ := Classification.typed.inj typed
    exact absurd measured (not_isMeasured_stringType s)
  | @binary digits hex =>
    rw [classifyTrimmed_binary hex] at typed
    split at typed
    · next even =>
      obtain ⟨-, rfl⟩ := Classification.typed.inj typed
      exact iff_of_true ((ofLength_holds_iff (by decide)).2 (.inr (by omega))) trivial
    · contradiction
  | @integer sign digits signed filled inside =>
    rw [classifyTrimmed_integer signed filled inside] at typed
    split at typed
    · obtain ⟨-, rfl⟩ := Classification.typed.inj typed
      rw [ofInteger_eq]
      split
      · next small =>
        refine iff_of_true small ?_
        unfold Literal.IsOrdinary
        omega
      · exact Iff.rfl
    · contradiction
  | @decimal sign whole fraction signed filled digits =>
    rw [classifyTrimmed_decimal signed filled digits] at typed
    split at typed
    · obtain ⟨-, rfl⟩ := Classification.typed.inj typed
      refine iff_of_true ⟨?_, Nat.le_refl _⟩ trivial
      omega
    · contradiction

/-- What is given an `int` is an ordinary value. -/
theorem isOrdinary_of_int (typed : classifyTrimmed t = .typed literal .int)
    (spells : Spells value t) : value.IsOrdinary := by
  cases spells with
  | national s =>
    rw [classifyTrimmed_national] at typed
    obtain ⟨-, same⟩ := Classification.typed.inj typed
    contradiction
  | @integer sign digits signed filled inside =>
    rw [classifyTrimmed_integer signed filled inside] at typed
    split at typed
    · obtain ⟨-, same⟩ := Classification.typed.inj typed
      rw [ofInteger_eq] at same
      split at same
      · next small =>
        unfold Literal.IsOrdinary
        omega
      · contradiction
    · contradiction
  | _ => trivial

theorem holds_length_of_national (typed : classifyTrimmed t = .typed literal (.nvarchar size))
    (spells : Spells (.national s) t) : size.Holds s.length := by
  cases spells
  rw [classifyTrimmed_national] at typed
  obtain ⟨-, same⟩ := Classification.typed.inj typed
  obtain rfl := SqlType.nvarchar.inj same
  exact (ofLength_holds_iff (by decide)).2 (.inr (Nat.le_max_right 1 s.length))

theorem literal_of_typed (typed : classifyTrimmed t = .typed literal type) : literal = t := by
  have found : (classifyTrimmed t).literal? = some literal := by rw [typed]; rfl
  have filled : t ≠ [] := by
    rintro rfl
    contradiction
  have other : ¬AnyCase t "null" := by
    intro null
    rw [classifyTrimmed_null null] at typed
    contradiction
  rw [literal?_classifyTrimmed filled other, Option.some.injEq] at found
  exact found.symm

/-- A confident literal spells a value, and a variable of its measured type can be given it: an
ordinary value and what is given an `int` with nothing lost, and the characters of a national string
in any case. -/
theorem declared_type_holds (typed : classify token = .typed literal type)
    (measured : type.IsMeasured) : (∃ value, Spells value literal) ∧
      ∀ value, Spells value literal → (value.IsOrdinary ∨ type = .int → type.Holds value) ∧
        ∀ size s, type = .nvarchar size → value = .national s → size.Holds s.length := by
  obtain rfl := literal_of_typed typed
  have sized := sized_classifyTrimmed (Text.trim token)
  have found : (classifyTrimmed (Text.trim token)).type? = some type := by
    rw [← classify, typed]
    rfl
  refine ⟨sized.spelled type found, fun value spells => ⟨?_, ?_⟩⟩
  · intro fits
    refine (holds_iff_isOrdinary typed measured spells).2 (fits.elim id ?_)
    rintro rfl
    exact isOrdinary_of_int typed spells
  · rintro size s rfl rfl
    exact holds_length_of_national typed spells

theorem declared_type_holds_name :
    classify "N'O''Brien'" = .typed "N'O''Brien'" (.nvarchar (.exactly 7)) ∧
      (∃ value, Spells value "N'O''Brien'") ∧ ∀ value, Spells value "N'O''Brien'" →
        (value.IsOrdinary ∨ SqlType.nvarchar (.exactly 7) = .int →
          (SqlType.nvarchar (.exactly 7)).Holds value) ∧
          ∀ size s, SqlType.nvarchar (.exactly 7) = .nvarchar size → value = .national s →
            size.Holds s.length := by
  have typed : classify "N'O''Brien'" = .typed "N'O''Brien'" (.nvarchar (.exactly 7)) := by cbv
  exact ⟨typed, declared_type_holds typed trivial⟩

/-- One character of two units in the room of one, and a number of 77 bits in 64. -/
theorem declared_type_exceeded :
    (classify "N'😀'" = .typed "N'😀'" (.nvarchar (.exactly 1)) ∧
      Spells (.national "😀") "N'😀'" ∧
      ¬(SqlType.nvarchar (.exactly 1)).Holds (.national "😀")) ∧
    classify "99999999999999999999999" = .typed "99999999999999999999999" .bigint ∧
      Spells (.integer [] "99999999999999999999999") "99999999999999999999999" ∧
      ¬SqlType.bigint.Holds (.integer [] "99999999999999999999999") := by
  have spelled : ("N'😀'" : Text) = 'N' :: quoteString "😀" := by cbv
  have value : signedValue [] "99999999999999999999999" = 99999999999999999999999 := by cbv
  have digits : Digits "99999999999999999999999" := by simp [Digits]
  refine ⟨⟨by cbv, spelled ▸ .national _, ?_⟩, by cbv, ?_, ?_⟩
  · change ¬units "😀" ≤ 1
    decide
  · exact .integer (.inl rfl) (by simp) digits
  · rintro ⟨_, most⟩
    rw [value] at most
    contradiction

end SqlReplay
