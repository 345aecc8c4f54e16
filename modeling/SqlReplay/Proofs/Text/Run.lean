import Mathlib.Data.List.TakeWhile
import SqlReplay.Text.Basic

/-! Runs of characters: how the run at the start of a text is told from what follows it, what a text
is cut into, and what trimming leaves of a text with blanks around. -/

namespace SqlReplay

theorem take_length_takeWhile (p : α → Bool) (t : List α) :
    t.take (t.takeWhile p).length = t.takeWhile p :=
  (List.prefix_iff_eq_take.1 (List.takeWhile_prefix p)).symm

theorem drop_length_takeWhile (p : α → Bool) (t : List α) :
    t.drop (t.takeWhile p).length = t.dropWhile p := by
  induction t with
  | nil => rfl
  | cons c rest ih => by_cases h : p c <;> simp [h, ih]

theorem head?_dropWhile_false {p : α → Bool} {t : List α} (first : (t.dropWhile p).head? = some c) :
    p c = false := by
  have stops := List.head?_dropWhile_not p t
  simpa [first] using stops

theorem takeWhile_eq_nil {p : α → Bool} {t : List α} (ends : ∀ c, t.head? = some c → p c = false) :
    t.takeWhile p = [] := by
  cases t with
  | nil => rfl
  | cons c rest => simp [ends c rfl]

theorem takeWhile_append_stop {p : α → Bool} {name rest : List α} (inside : ∀ c ∈ name, p c = true)
    (ends : ∀ c, rest.head? = some c → p c = false) : (name ++ rest).takeWhile p = name := by
  rw [List.takeWhile_append_of_pos inside, takeWhile_eq_nil ends, List.append_nil]

theorem dropWhile_eq_self {p : α → Bool} {t : List α} (ends : ∀ c, t.head? = some c → p c = false) :
    t.dropWhile p = t := by
  cases t with
  | nil => rfl
  | cons c rest => simp [ends c rfl]

theorem dropWhile_append_stop {p : α → Bool} {name rest : List α} (inside : ∀ c ∈ name, p c = true)
    (ends : ∀ c, rest.head? = some c → p c = false) : (name ++ rest).dropWhile p = rest := by
  rw [List.dropWhile_append_of_pos inside, dropWhile_eq_self ends]

theorem cut_append (before : sep ∉ whole) (after : Text) :
    Text.cut sep (whole ++ sep :: after) = (whole, some after) := by
  have inside : ∀ c ∈ whole, decide (c ≠ sep) = true := by
    intro c member
    exact decide_eq_true fun same => before (same ▸ member)
  have ends : ∀ c, (sep :: after).head? = some c → decide (c ≠ sep) = false := by
    rintro c ⟨⟩
    simp
  rw [Text.cut, takeWhile_append_stop inside ends, dropWhile_append_stop inside ends]

theorem eq_of_cut (cut : Text.cut sep t = (whole, some after)) : t = whole ++ sep :: after := by
  simp only [Text.cut, Prod.mk.injEq] at cut
  have parts := List.takeWhile_append_dropWhile (p := (· ≠ sep)) (l := t)
  obtain ⟨rfl, found⟩ := cut
  split at found
  · contradiction
  · next c rest follows =>
    obtain rfl := Option.some.inj found
    have stops := head?_dropWhile_false (c := c) (congrArg List.head? follows)
    obtain rfl : c = sep := by simpa using stops
    rw [follows] at parts
    exact parts.symm

def Text.between (t : Text) (start stop : Nat) : Text := (t.take stop).drop start

theorem between_append (before middle after : Text) :
    Text.between (before ++ (middle ++ after)) before.length (before.length + middle.length) =
      middle := by
  rw [Text.between, List.take_length_add_append, List.take_append_length, List.drop_append_length]

/-- What stands between two offsets is cut in two by an offset between them. -/
theorem between_between {start middle stop : Nat} (t : Text) (before : start ≤ middle)
    (after : middle ≤ stop) :
    Text.between t start middle ++ Text.between t middle stop = Text.between t start stop := by
  have head : Text.between t start middle = (t.between start stop).take (middle - start) := by
    simp only [Text.between, List.take_drop, List.take_take]
    congr 2
    omega
  have tail : Text.between t middle stop = (t.between start stop).drop (middle - start) := by
    simp only [Text.between, List.drop_drop, Nat.add_sub_cancel' before]
  rw [head, tail, List.take_append_drop]

def Blank (t : Text) : Prop := ∀ c ∈ t, isBlank c = true

/-- The visible characters of ASCII are no blanks. -/
theorem isBlank_of_visible (low : 33 ≤ c.toNat) (high : c.toNat ≤ 126) : isBlank c = false := by
  simp only [isBlank, Bool.or_eq_false_iff, Bool.and_eq_false_iff, decide_eq_false_iff_not,
    beq_eq_false_iff_ne]
  omega

theorem blank_cons (first : isBlank c = true) (rest : Blank t) : Blank (c :: t) := by
  intro d member
  rcases List.mem_cons.1 member with rfl | later
  · exact first
  · exact rest d later

theorem blank_append (first : Blank s) (second : Blank t) : Blank (s ++ t) := by
  intro c member
  exact (List.mem_append.1 member).elim (first c) (second c)

/-- No blank at either end. -/
def Trimmed (t : Text) : Prop :=
  (∀ c, t.head? = some c → isBlank c = false) ∧ ∀ c, t.getLast? = some c → isBlank c = false

theorem blank_takeWhile (t : Text) : Blank (t.takeWhile isBlank) :=
  fun _ member => List.mem_takeWhile_imp member

/-- Texts by their runs of blanks. -/
theorem runs_induction {motive : Text → Prop} (nil : motive [])
    (ink : ∀ c t, isBlank c = false → motive t → motive (c :: t))
    (run : ∀ run t, Blank run → run ≠ [] → (∀ c, t.head? = some c → isBlank c = false) →
      motive t → motive (run ++ t)) (t : Text) : motive t := by
  -- Blanks that were read wait in front of the text until their run ends.
  have behind : ∀ before, Blank before → motive (before ++ t) := by
    induction t with
    | nil =>
      intro before blank
      by_cases empty : before = []
      · rwa [empty]
      · exact run before [] blank empty nofun nil
    | cons c t ih =>
      intro before blank
      by_cases more : isBlank c = true
      · have longer := ih (before ++ [c]) (blank_append blank (blank_cons more nofun))
        rwa [List.append_assoc] at longer
      · have stops : isBlank c = false := by simpa using more
        have start := ink c t stops (ih [] nofun)
        by_cases empty : before = []
        · rwa [empty]
        · refine run before (c :: t) blank empty ?_ start
          rintro d ⟨⟩
          exact stops
  exact behind [] nofun

theorem trimLeft_append (blank : Blank left) (ends : ∀ c, t.head? = some c → isBlank c = false) :
    Text.trimLeft (left ++ t) = t :=
  dropWhile_append_stop blank ends

theorem trimRight_append (blank : Blank right)
    (ends : ∀ c, t.getLast? = some c → isBlank c = false) : Text.trimRight (t ++ right) = t := by
  have reversed : Blank right.reverse := fun c member => blank c (List.mem_reverse.1 member)
  rw [Text.trimRight, List.reverse_append,
    dropWhile_append_stop reversed (by simpa using ends), List.reverse_reverse]

theorem trimRight_append_ink {ink : Text}
    (ends : ∀ c, ink.getLast? = some c → isBlank c = false) (t : Text) :
    Text.trimRight (ink ++ t) = ink ++ Text.trimRight t := by
  have kept : ink.reverse.dropWhile isBlank = ink.reverse := dropWhile_eq_self (by simpa using ends)
  rw [Text.trimRight, Text.trimRight, List.reverse_append, List.dropWhile_append]
  split
  · next nothing => simp [kept, List.isEmpty_iff.1 nothing]
  · simp

theorem trim_append (left : Blank before) (trimmed : Trimmed t) (right : Blank after) :
    Text.trim (before ++ t ++ after) = t := by
  by_cases empty : t = []
  · subst empty
    have nothing := trimLeft_append (t := []) (blank_append left right) (by simp)
    rw [List.append_nil] at nothing
    rw [List.append_nil, Text.trim, nothing]
    rfl
  · have first : (t ++ after).head? = t.head? := by
      obtain ⟨c, rest, rfl⟩ := List.exists_cons_of_ne_nil empty
      rfl
    rw [Text.trim, List.append_assoc, trimLeft_append left (first ▸ trimmed.1),
      trimRight_append right trimmed.2]

theorem trim_of_trimmed (trimmed : Trimmed t) : Text.trim t = t := by
  have nothing : Blank [] := by simp [Blank]
  simpa using trim_append nothing trimmed nothing

/-- A text is what trimming leaves of it and the blanks around that. -/
theorem trim_spec (t : Text) : ∃ before after,
    t = before ++ Text.trim t ++ after ∧ Blank before ∧ Blank after ∧ Trimmed (Text.trim t) := by
  have left := List.takeWhile_append_dropWhile (p := isBlank) (l := t)
  have right := List.takeWhile_append_dropWhile (p := isBlank) (l := (Text.trimLeft t).reverse)
  have split : Text.trimLeft t =
      Text.trim t ++ ((Text.trimLeft t).reverse.takeWhile isBlank).reverse := by
    rw [Text.trim, Text.trimRight, ← List.reverse_append, right, List.reverse_reverse]
  refine ⟨t.takeWhile isBlank, ((Text.trimLeft t).reverse.takeWhile isBlank).reverse, ?_,
    blank_takeWhile t, ?_, ?_, ?_⟩
  · rw [List.append_assoc, ← split]
    exact left.symm
  · intro c member
    exact blank_takeWhile _ c (List.mem_reverse.1 member)
  · intro c first
    have start : (Text.trimLeft t).head? = some c := by
      rw [split, List.head?_append, first]
      rfl
    exact head?_dropWhile_false start
  · intro c last
    rw [Text.trim, Text.trimRight, List.getLast?_reverse] at last
    exact head?_dropWhile_false last

theorem trimmed_trim (t : Text) : Trimmed (Text.trim t) := by
  obtain ⟨_, _, _, _, _, trimmed⟩ := trim_spec t
  exact trimmed

@[simp] theorem trim_trim (t : Text) : Text.trim (Text.trim t) = Text.trim t :=
  trim_of_trimmed (trimmed_trim t)

theorem trimmed_of_trim_eq (same : Text.trim t = t) : Trimmed t := same ▸ trimmed_trim t

end SqlReplay
