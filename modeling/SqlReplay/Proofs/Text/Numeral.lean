import SqlReplay.Proofs.Json.Lexing
import SqlReplay.Proofs.Sql.Ordering
import SqlReplay.Text.Numeral

/-! Whole numbers as people type them, written in plain decimal digits. A number is read back from
its digits, with blanks around them too, as long as it has no more digits than are converted. -/

namespace SqlReplay.Numeral

theorem trim_append {before t after : Text} (left : ∀ c ∈ before, isSurround c = true)
    (filled : t ≠ []) (inside : ∀ c ∈ t, isSurround c = false)
    (right : ∀ c ∈ after, isSurround c = true) : trim (before ++ t ++ after) = t := by
  have first : ∀ c, (t ++ after).head? = some c → isSurround c = false := by
    intro c starts
    rw [List.head?_append_of_ne_nil _ filled] at starts
    exact inside c (List.mem_of_mem_head? starts)
  have last : ∀ c, t.reverse.head? = some c → isSurround c = false := by
    intro c starts
    exact inside c (List.mem_reverse.1 (List.mem_of_mem_head? starts))
  have behind : ∀ c ∈ after.reverse, isSurround c = true := by simpa using right
  rw [trim, List.append_assoc, dropWhile_append_stop left first, List.reverse_append,
    dropWhile_append_stop behind last, List.reverse_reverse]

theorem digitValue_of_isDigit (digit : Char.isDigit c = true) :
    digitValue c = some (c.toNat - '0'.toNat) := by
  have bounds := toNat_of_isDigit digit
  have here : (decide (0x30 ≤ c.toNat) && decide (c.toNat < 0x30 + 10)) = true := by
    simp
    omega
  have first : digitZeros.find? (fun start => start ≤ c.toNat && c.toNat < start + 10) =
      some 0x30 := List.find?_cons_of_pos here
  rw [digitValue, first]
  rfl

/-- Digits without underscores are read one by one. -/
theorem digits?_of_digits (filled : t ≠ []) (digits : Digits t) :
    digits? t = some (asciiDigits t) := by
  fun_induction digits? t with
  | case1 => contradiction
  | case2 c => simp [digitValue_of_isDigit (digits c (by simp)), asciiDigits]
  | case3 c rest ih => exact absurd (digits '_' (by simp)) (by decide)
  | case4 c rest more _ ih =>
    have later := ih (by simpa using more) fun d member => digits d (List.mem_cons_of_mem _ member)
    simp [digitValue_of_isDigit (digits c (by simp)), later, asciiDigits]

theorem digits_ofNat (n : Nat) : Digits (Text.ofNat n) := fun _ => Json.isDigit_of_mem_ofNat

theorem natural?_ofNat (n : Nat) : natural? (Text.ofNat n) =
    if (Text.ofNat n).length ≤ digitLimit then some n else none := by
  have length : (asciiDigits (Text.ofNat n)).length = (Text.ofNat n).length := List.length_map ..
  rw [natural?, digits?_of_digits (Json.ofNat_ne_nil n) (digits_ofNat n)]
  simp [length, Json.ofDigits_ofNat]

theorem isSurround_of_isDigit (digit : Char.isDigit c = true) : isSurround c = false := by
  obtain ⟨low, high⟩ := toNat_of_isDigit digit
  rw [isSurround, isBlank_of_visible (by omega) (by omega), Bool.false_and]

/-- A number is read from its digits and blanks around them. -/
theorem read?_ofNat (n : Nat) {before after : Text} (left : ∀ c ∈ before, isSurround c = true)
    (right : ∀ c ∈ after, isSurround c = true) : read? (before ++ Text.ofNat n ++ after) =
      if (Text.ofNat n).length ≤ digitLimit then some (n : Int) else none := by
  have digits := digits_ofNat n
  have trimmed := trim_append left (Json.ofNat_ne_nil n)
    (fun c member => isSurround_of_isDigit (digits c member)) right
  rw [read?, trimmed]
  split
  next signed => exact absurd (digits '-' (by simp [signed])) (by decide)
  next signed => exact absurd (digits '+' (by simp [signed])) (by decide)
  next =>
    rw [natural?_ofNat]
    split <;> rfl

end SqlReplay.Numeral
