import SqlReplay.Text.Newline
import SqlReplay.Text.Utf8

/-! Files give back what was written to them: the octets of a text, and no others, are read as that
text, and line ends are left alone where there is no carriage return. -/

namespace SqlReplay

namespace Utf8

section

variable {b x : UInt8} {p : Begun}

theorem toNat_octet {n : Nat} (small : n < 256) : (UInt8.ofNat n).toNat = n :=
  UInt8.toNat_ofNat_of_lt' small

/-- An octet that carries on a character holds six bits. -/
theorem toNat_tail (n : Nat) : (UInt8.ofNat (n % 64 + 128)).toNat = n % 64 + 128 :=
  toNat_octet (by omega)

theorem start?_two (low : 0xC2 ≤ b.toNat) (high : b.toNat ≤ 0xDF) :
    start? b = some ⟨[b], b.toNat % 0x20, 1, 0x80, 0xBF⟩ := by
  simp [start?, low, high]

/-- The octet after the first of three has narrower bounds after two of the first octets. -/
theorem start?_three (low : 0xE0 ≤ b.toNat) (high : b.toNat ≤ 0xEF)
    (least : 0x80 ≤ x.toNat) (most : x.toNat ≤ 0xBF)
    (shortest : b.toNat = 0xE0 → 0xA0 ≤ x.toNat) (whole : b.toNat = 0xED → x.toNat ≤ 0x9F) :
    ∃ low high, start? b = some ⟨[b], b.toNat % 0x10, 2, low, high⟩ ∧
      low ≤ x.toNat ∧ x.toNat ≤ high := by
  unfold start?
  rw [if_neg (by omega)]
  by_cases first : b.toNat = 0xE0
  · exact ⟨0xA0, 0xBF, by simp [first], shortest first, most⟩
  · rw [if_neg first]
    by_cases second : b.toNat = 0xED
    · exact ⟨0x80, 0x9F, by simp [second], least, whole second⟩
    · rw [if_neg second, if_pos (by omega)]
      exact ⟨0x80, 0xBF, rfl, least, most⟩

theorem start?_four (low : 0xF0 ≤ b.toNat) (high : b.toNat ≤ 0xF4)
    (least : 0x80 ≤ x.toNat) (most : x.toNat ≤ 0xBF)
    (shortest : b.toNat = 0xF0 → 0x90 ≤ x.toNat) (valid : b.toNat = 0xF4 → x.toNat ≤ 0x8F) :
    ∃ low high, start? b = some ⟨[b], b.toNat % 8, 3, low, high⟩ ∧
      low ≤ x.toNat ∧ x.toNat ≤ high := by
  unfold start?
  rw [if_neg (by omega), if_neg (by omega), if_neg (by omega), if_neg (by omega)]
  by_cases first : b.toNat = 0xF0
  · exact ⟨0x90, 0xBF, by simp [first], shortest first, most⟩
  · rw [if_neg first]
    by_cases last : b.toNat = 0xF4
    · exact ⟨0x80, 0x8F, by simp [last], least, valid last⟩
    · rw [if_neg last, if_pos (by omega)]
      exact ⟨0x80, 0xBF, rfl, least, most⟩

theorem decodeFrom_start (high : 0x80 ≤ b.toNat) (found : start? b = some p) (position : Nat)
    (rest : Octets) :
    decodeFrom position none (b :: rest) = decodeFrom (position + 1) (some p) rest := by
  rw [decodeFrom, if_neg (by omega), found]

theorem decodeFrom_more (low : p.low ≤ b.toNat) (high : b.toNat ≤ p.high) (owed : 1 < p.owed)
    (position : Nat) (rest : Octets) : decodeFrom position (some p) (b :: rest) =
      decodeFrom (position + 1) (some (p.extend b)) rest := by
  have more : (p.extend b).owed ≠ 0 := by simp only [Begun.extend]; omega
  simp only [decodeFrom, low, high, more, and_self, if_true, if_false]

theorem decodeFrom_last (low : p.low ≤ b.toNat) (high : b.toNat ≤ p.high) (owed : p.owed = 1)
    (position : Nat) (rest : Octets) : decodeFrom position (some p) (b :: rest) =
      (Char.ofNat (p.bits * 0x40 + b.toNat % 0x40) :: ·) <$>
        decodeFrom (position + 1) none rest := by
  have last : (p.extend b).owed = 0 := by simp only [Begun.extend]; omega
  simp only [decodeFrom, low, high, last, and_self, if_true]
  rfl

end

/-- The octets of a character are read as it, whatever follows them. -/
theorem decodeFrom_encodeChar (position : Nat) (c : Char) (rest : Octets) :
    decodeFrom position none (String.utf8EncodeChar c ++ rest) =
      (c :: ·) <$> decodeFrom (position + (String.utf8EncodeChar c).length) none rest := by
  have valid := c.valid
  simp only [UInt32.isValidChar, Nat.isValidChar] at valid
  have back : Char.ofNat c.val.toNat = c := Char.ofNat_toNat c
  fun_cases String.utf8EncodeChar c with
  | case1 v one =>
    have octet : (UInt8.ofNat v).toNat = v := toNat_octet (by omega)
    rw [List.singleton_append, decodeFrom, octet, if_pos (by omega), back]
    rfl
  | case2 v one two =>
    have first : (UInt8.ofNat (v / 64 % 32 + 192)).toNat = v / 64 + 192 := by
      rw [toNat_octet (by omega)]; omega
    have second := toNat_tail v
    have bits : (v / 64 + 192) % 0x20 * 0x40 + (v % 64 + 128) % 0x40 = v := by omega
    rw [List.cons_append, List.singleton_append,
      decodeFrom_start (by omega) (start?_two (by omega) (by omega)),
      decodeFrom_last (by simp only; omega) (by simp only; omega) rfl, first, second, bits, back]
    rfl
  | case3 v one two three =>
    have first : (UInt8.ofNat (v / 4096 % 16 + 224)).toNat = v / 4096 + 224 := by
      rw [toNat_octet (by omega)]; omega
    have second := toNat_tail (v / 64)
    have third := toNat_tail v
    have bits : ((v / 4096 + 224) % 0x10 * 0x40 + (v / 64 % 64 + 128) % 0x40) * 0x40 +
        (v % 64 + 128) % 0x40 = v := by omega
    obtain ⟨low, high, started, least, most⟩ := start?_three
      (b := UInt8.ofNat (v / 4096 % 16 + 224)) (x := UInt8.ofNat (v / 64 % 64 + 128))
      (by omega) (by omega) (by omega) (by omega) (by omega) (by omega)
    simp only [List.cons_append, List.nil_append]
    rw [decodeFrom_start (by omega) started, decodeFrom_more least most Nat.one_lt_two,
      decodeFrom_last (by simp only [Begun.extend]; omega) (by simp only [Begun.extend]; omega) rfl]
    simp only [Begun.extend]
    rw [first, second, third, bits, back]
    rfl
  | case4 v one two three =>
    have first : (UInt8.ofNat (v / 262144 % 8 + 240)).toNat = v / 262144 + 240 := by
      rw [toNat_octet (by omega)]; omega
    have second := toNat_tail (v / 4096)
    have third := toNat_tail (v / 64)
    have fourth := toNat_tail v
    have bits : (((v / 262144 + 240) % 8 * 0x40 + (v / 4096 % 64 + 128) % 0x40) * 0x40 +
        (v / 64 % 64 + 128) % 0x40) * 0x40 + (v % 64 + 128) % 0x40 = v := by omega
    obtain ⟨low, high, started, least, most⟩ := start?_four
      (b := UInt8.ofNat (v / 262144 % 8 + 240)) (x := UInt8.ofNat (v / 4096 % 64 + 128))
      (by omega) (by omega) (by omega) (by omega) (by omega) (by omega)
    simp only [List.cons_append, List.nil_append]
    rw [decodeFrom_start (by omega) started, decodeFrom_more least most (by simp),
      decodeFrom_more (by simp only [Begun.extend]; omega) (by simp only [Begun.extend]; omega)
        (by simp [Begun.extend]),
      decodeFrom_last (by simp only [Begun.extend]; omega) (by simp only [Begun.extend]; omega) rfl]
    simp only [Begun.extend]
    rw [first, second, third, fourth, bits, back]
    rfl

theorem decodeFrom_encode (position : Nat) (t : Text) :
    decodeFrom position none (encode t) = .ok t := by
  induction t generalizing position with
  | nil => rfl
  | cons c t ih =>
    rw [encode, List.flatMap_cons, decodeFrom_encodeChar, ← encode, ih]
    rfl

theorem decode_encode (t : Text) : decode (encode t) = .ok t := decodeFrom_encode 0 t

theorem ofNat_of_eq {n : Nat} {b : UInt8} (same : n = b.toNat) : UInt8.ofNat n = b := by
  rw [same, UInt8.ofNat_toNat]

theorem toNat_ofNat_of_valid {n : Nat} (valid : n < 0xD800 ∨ 0xDFFF < n ∧ n < 0x110000) :
    (Char.ofNat n).val.toNat = n := by
  rw [Char.ofNat, dif_pos valid]
  rfl

/-- The first octet of a character with more than one, by how many there are. -/
inductive Starts (b : UInt8) : Begun → Prop
  | two : 0xC2 ≤ b.toNat → b.toNat ≤ 0xDF → Starts b ⟨[b], b.toNat % 0x20, 1, 0x80, 0xBF⟩
  | three : 0xE0 ≤ b.toNat → b.toNat ≤ 0xEF → 0x80 ≤ low → high ≤ 0xBF →
      (b.toNat = 0xE0 → 0xA0 ≤ low) → (b.toNat = 0xED → high ≤ 0x9F) →
      Starts b ⟨[b], b.toNat % 0x10, 2, low, high⟩
  | four : 0xF0 ≤ b.toNat → b.toNat ≤ 0xF4 → 0x80 ≤ low → high ≤ 0xBF →
      (b.toNat = 0xF0 → 0x90 ≤ low) → (b.toNat = 0xF4 → high ≤ 0x8F) →
      Starts b ⟨[b], b.toNat % 8, 3, low, high⟩

theorem starts_of_start? {b : UInt8} (found : start? b = some p) : Starts b p := by
  unfold start? at found
  simp only at found
  split at found
  next two =>
    cases found
    exact .two two.1 two.2
  split at found
  next first =>
    cases found
    have bits : 0 = b.toNat % 0x10 := by omega
    rw [bits]
    exact .three (by omega) (by omega) (by omega) (by omega) (by omega) (by omega)
  split at found
  next second =>
    cases found
    have bits : 0xD = b.toNat % 0x10 := by omega
    rw [bits]
    exact .three (by omega) (by omega) (by omega) (by omega) (by omega) (by omega)
  split at found
  next three =>
    cases found
    exact .three (by omega) (by omega) (by omega) (by omega) (by omega) (by omega)
  split at found
  next least =>
    cases found
    have bits : 0 = b.toNat % 8 := by omega
    rw [bits]
    exact .four (by omega) (by omega) (by omega) (by omega) (by omega) (by omega)
  split at found
  next last =>
    cases found
    have bits : 4 = b.toNat % 8 := by omega
    rw [bits]
    exact .four (by omega) (by omega) (by omega) (by omega) (by omega) (by omega)
  split at found
  next four =>
    cases found
    exact .four (by omega) (by omega) (by omega) (by omega) (by omega) (by omega)
  next => contradiction

theorem cons_of_map {c : Char} {read : Except Fault Text} (mapped : (c :: ·) <$> read = .ok t) :
    ∃ more, read = .ok more ∧ t = c :: more := by
  cases read with
  | error => contradiction
  | ok more => exact ⟨more, rfl, (Except.ok.inj mapped).symm⟩

/-- What a character begun goes on with. -/
theorem decodeFrom_begun_ok {p : Begun} (read : decodeFrom position (some p) octets = .ok t) :
    ∃ b rest, octets = b :: rest ∧ p.low ≤ b.toNat ∧ b.toNat ≤ p.high ∧
      if (p.extend b).owed = 0 then
        ∃ more, decodeFrom (position + 1) none rest = .ok more ∧
          t = Char.ofNat (p.extend b).bits :: more
      else decodeFrom (position + 1) (some (p.extend b)) rest = .ok t := by
  cases octets with
  | nil => contradiction
  | cons b rest =>
    rw [decodeFrom] at read
    split at read
    next within =>
      refine ⟨b, rest, rfl, within.1, within.2, ?_⟩
      dsimp only at read
      split at read
      next done =>
        rw [if_pos done]
        exact cons_of_map read
      next more =>
        rw [if_neg more]
        exact read
    next => contradiction

theorem encodeChar_ofNat {n : Nat} (valid : n < 0xD800 ∨ 0xDFFF < n ∧ n < 0x110000) :
    String.utf8EncodeChar (Char.ofNat n) =
      if n ≤ 0x7F then [UInt8.ofNat n]
      else if n ≤ 0x7FF then [UInt8.ofNat (n / 64 % 32 + 192), UInt8.ofNat (n % 64 + 128)]
      else if n ≤ 0xFFFF then [UInt8.ofNat (n / 4096 % 16 + 224),
        UInt8.ofNat (n / 64 % 64 + 128), UInt8.ofNat (n % 64 + 128)]
      else [UInt8.ofNat (n / 262144 % 8 + 240), UInt8.ofNat (n / 4096 % 64 + 128),
        UInt8.ofNat (n / 64 % 64 + 128), UInt8.ofNat (n % 64 + 128)] := by
  rw [String.utf8EncodeChar, toNat_ofNat_of_valid valid]

/-- A character is read from its octets only. -/
theorem decodeFrom_cons_ok {b : UInt8} (read : decodeFrom position none (b :: rest) = .ok t) :
    ∃ c more position' rest', t = c :: more ∧ b :: rest = String.utf8EncodeChar c ++ rest' ∧
      decodeFrom position' none rest' = .ok more := by
  rw [decodeFrom] at read
  split at read
  next one =>
    obtain ⟨more, after, rfl⟩ := cons_of_map read
    refine ⟨_, more, _, rest, rfl, ?_, after⟩
    rw [encodeChar_ofNat (by omega), if_pos (by omega), ofNat_of_eq rfl]
    rfl
  next long =>
    split at read
    next => contradiction
    next p found =>
      cases starts_of_start? found with
      | two low high =>
        obtain ⟨x, rest, rfl, xLow, xHigh, last⟩ := decodeFrom_begun_ok read
        obtain ⟨more, after, rfl⟩ := last
        simp only [Begun.extend] at xLow xHigh ⊢
        refine ⟨_, more, _, rest, rfl, ?_, after⟩
        rw [encodeChar_ofNat (by omega), if_neg (by omega), if_pos (by omega),
          ofNat_of_eq (b := b) (by omega), ofNat_of_eq (b := x) (by omega)]
        rfl
      | three low high least most shortest whole =>
        obtain ⟨x, rest, rfl, xLow, xHigh, next⟩ := decodeFrom_begun_ok read
        obtain ⟨y, rest, rfl, yLow, yHigh, last⟩ := decodeFrom_begun_ok next
        obtain ⟨more, after, rfl⟩ := last
        simp only [Begun.extend] at xLow xHigh yLow yHigh ⊢
        refine ⟨_, more, _, rest, rfl, ?_, after⟩
        rw [encodeChar_ofNat (by omega), if_neg (by omega), if_neg (by omega), if_pos (by omega),
          ofNat_of_eq (b := b) (by omega), ofNat_of_eq (b := x) (by omega),
          ofNat_of_eq (b := y) (by omega)]
        rfl
      | four low high least most shortest valid =>
        obtain ⟨x, rest, rfl, xLow, xHigh, next⟩ := decodeFrom_begun_ok read
        obtain ⟨y, rest, rfl, yLow, yHigh, next⟩ := decodeFrom_begun_ok next
        obtain ⟨z, rest, rfl, zLow, zHigh, last⟩ := decodeFrom_begun_ok next
        obtain ⟨more, after, rfl⟩ := last
        simp only [Begun.extend] at xLow xHigh yLow yHigh zLow zHigh ⊢
        refine ⟨_, more, _, rest, rfl, ?_, after⟩
        rw [encodeChar_ofNat (by omega), if_neg (by omega), if_neg (by omega), if_neg (by omega),
          ofNat_of_eq (b := b) (by omega), ofNat_of_eq (b := x) (by omega),
          ofNat_of_eq (b := y) (by omega), ofNat_of_eq (b := z) (by omega)]
        rfl

theorem encode_of_decodeFrom (read : decodeFrom position none octets = .ok t) :
    octets = encode t := by
  induction t generalizing position octets with
  | nil =>
    cases octets with
    | nil => rfl
    | cons b rest =>
      obtain ⟨c, more, _, _, same, _⟩ := decodeFrom_cons_ok read
      contradiction
  | cons d t ih =>
    cases octets with
    | nil => simp [decodeFrom] at read
    | cons b rest =>
      obtain ⟨c, more, _, rest, same, octets, after⟩ := decodeFrom_cons_ok read
      obtain ⟨rfl, rfl⟩ := List.cons.inj same
      rw [octets, ih after]
      rfl

/-- Only the octets of a text are read as it. -/
theorem decode_eq_ok_iff : decode octets = .ok t ↔ octets = encode t :=
  ⟨encode_of_decodeFrom, fun same => same ▸ decode_encode t⟩

end Utf8

theorem Text.unifyNewlines_of_not_mem {t : Text} (noReturn : '\r' ∉ t) : unifyNewlines t = t := by
  fun_induction unifyNewlines t with
  | case1 => simp at noReturn
  | case2 => simp at noReturn
  | case3 c rest _ _ ih => rw [ih (List.not_mem_of_not_mem_cons noReturn)]
  | case4 => rfl

end SqlReplay
