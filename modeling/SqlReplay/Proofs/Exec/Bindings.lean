import SqlReplay.Proofs.Exec.Pieces

/-! What a call binds: the keys of its assignments, each with what its value stands for. A call that
is put together from pieces binds what the pieces bind, in whatever order they come and in whatever
letter case a name is spelled. -/

namespace SqlReplay

/-- A text without commas and apostrophes. -/
def Unbroken (t : Text) : Prop := ',' ∉ t ∧ '\'' ∉ t

/-- Unbroken text in front changes nothing about the pieces. -/
theorem onePiece_append_iff (unbroken : Unbroken u) : OnePiece (u ++ t) ↔ OnePiece t := by
  have none : u.count '\'' = 0 := List.count_eq_zero.2 unbroken.2
  constructor
  · rintro ⟨even, enclosed⟩
    refine ⟨by simpa [none] using even, ?_⟩
    rintro before after rfl
    simpa [none] using enclosed (u ++ before) after (by simp)
  · rintro ⟨even, enclosed⟩
    refine ⟨by simpa [none] using even, ?_⟩
    intro before after whole
    rcases List.append_eq_append_iff.1 whole with ⟨more, rfl, rest⟩ | ⟨more, rfl, rest⟩
    · simpa [none] using enclosed more after rest
    · cases more with
      | nil => exact absurd (enclosed [] after rest.symm) (by decide)
      | cons c more =>
        obtain rfl := (List.cons.inj rest).1
        exact absurd (by simp) unbroken.1

theorem onePiece_of_unbroken (unbroken : Unbroken t) : OnePiece t := by
  have nothing : OnePiece [] := ⟨rfl, by simp⟩
  simpa using (onePiece_append_iff unbroken).2 nothing

/-- The pieces of a call put together by commas are those it was made from. -/
theorem pieces_join (whole : ∀ piece ∈ ps, OnePiece piece) (some : ps ≠ []) :
    pieces false (Text.join [','] ps) = ps := by
  have even : ∀ piece ∈ ps.dropLast, quotes false piece % 2 = 0 := fun piece member =>
    (whole piece (List.mem_of_mem_dropLast member)).even
  have enclosed : ∀ piece ∈ ps, Enclosed false piece := fun piece member =>
    (enclosed_iff piece).2 (whole piece member).enclosed
  exact (piecesOf_join some even enclosed).eq

theorem assignments_join (whole : ∀ piece ∈ ps, OnePiece piece) :
    assignments (Text.join [','] ps) = ps.filterMap Assignment.ofPiece? := by
  by_cases none : ps = []
  · subst none
    exact assignments_of_blank (by simp [Blank, Text.join])
  · rw [assignments, splitAssignments_eq_pieces, pieces_join whole none]

/-- A comma is no blank, so a call of several pieces is not blank. -/
theorem isBlank_join_perm (perm : List.Perm ps qs) :
    Text.IsBlank (Text.join [','] ps) = Text.IsBlank (Text.join [','] qs) := by
  have several (first second : Text) (rest : List Text) :
      Text.IsBlank (Text.join [','] (first :: second :: rest)) = false := by
    refine List.all_eq_false.2 ⟨',', ?_, by decide⟩
    simp [Text.join]
  cases ps with
  | nil => rw [perm.nil_eq]
  | cons first ps =>
    cases ps with
    | nil => rw [List.singleton_perm.1 perm]
    | cons second rest =>
      have length := perm.length_eq
      cases qs with
      | nil => simp at length
      | cons third qs =>
        cases qs with
        | nil => simp at length
        | cons fourth others => rw [several, several]

/-- A piece and the piece with letters of its name in the other case. -/
inductive Recased : Text → Text → Prop
  | same (piece : Text) : Recased piece piece
  | name (blank : Blank before) (first : ∀ c ∈ m, Cursor.isNameChar c = true)
      (second : ∀ c ∈ n, Cursor.isNameChar c = true)
      (letters : m.map Char.toLower = n.map Char.toLower) (after : Text) :
      Recased (before ++ '@' :: (m ++ after)) (before ++ '@' :: (n ++ after))

theorem Unbroken.append (first : Unbroken s) (second : Unbroken t) : Unbroken (s ++ t) := by
  constructor
  · exact fun comma => (List.mem_append.1 comma).elim first.1 second.1
  · exact fun quote => (List.mem_append.1 quote).elim first.2 second.2

theorem unbroken_of_blank (blank : Blank t) : Unbroken t :=
  ⟨fun comma => absurd (blank _ comma) (by decide), fun quote => absurd (blank _ quote) (by decide)⟩

theorem unbroken_of_named (named : ∀ c ∈ t, Cursor.isNameChar c = true) : Unbroken t :=
  ⟨fun comma => absurd (named _ comma) (by decide), fun quote => absurd (named _ quote) (by decide)⟩

theorem unbroken_start (blank : Blank t) (named : ∀ c ∈ m, Cursor.isNameChar c = true) :
    Unbroken (t ++ '@' :: m) := by
  have sign : Unbroken ['@'] := by simp [Unbroken]
  exact (unbroken_of_blank blank).append (sign.append (unbroken_of_named named))

theorem onePiece_of_recased (recased : Recased p q) (whole : OnePiece p) : OnePiece q := by
  cases recased with
  | same => exact whole
  | @name before _ _ blank first second letters after =>
    have start (name : Text) : before ++ '@' :: (name ++ after) =
        (before ++ '@' :: name) ++ after := by simp
    rw [start] at whole ⊢
    exact (onePiece_append_iff (unbroken_start blank second)).2
      ((onePiece_append_iff (unbroken_start blank first)).1 whole)

/-- The value in a piece that goes on like this after its name. -/
def valueAfter? : Text → Option Text
  | '=' :: value => some (dropTerminator (Text.trim value))
  | _ => none

/-- A piece that starts like an assignment, by the start of its name. -/
theorem ofPiece?_start (blank : Blank before) (named : ∀ c ∈ m, Cursor.isNameChar c = true)
    (after : Text) :
    let rest := Text.trimRight after
    let name := m ++ rest.takeWhile Cursor.isNameChar
    Assignment.ofPiece? (before ++ '@' :: (m ++ after)) =
      if name = [] then none
      else (valueAfter? (Text.trimLeft (rest.dropWhile Cursor.isNameChar))).map
        (⟨'@' :: name, ·⟩) := by
  have ink : ∀ c, ('@' :: m).getLast? = some c → isBlank c = false := by
    intro c last
    rcases List.mem_cons.1 (List.mem_of_getLast? last) with rfl | inside
    · rfl
    · exact isBlank_of_isNameChar (named c inside)
  have trimmed : Text.trim (before ++ '@' :: (m ++ after)) =
      '@' :: (m ++ Text.trimRight after) := by
    rw [Text.trim, trimLeft_append blank (by rintro c ⟨⟩; rfl)]
    exact trimRight_append_ink ink after
  intro rest name
  unfold Assignment.ofPiece?
  rw [trimmed]
  simp only [List.takeWhile_append_of_pos named, List.dropWhile_append_of_pos named]
  split
  · next c more value read equals =>
    have some : name ≠ [] := ne_of_eq_of_ne read (List.cons_ne_nil c more)
    rw [if_neg some, equals]
    rfl
  · next other =>
    by_cases none : name = []
    · rw [if_pos none]
    · obtain ⟨c, more, read⟩ := List.exists_cons_of_ne_nil none
      rw [if_neg none]
      unfold valueAfter?
      split
      · next value equals => exact absurd equals (other c more value read)
      · rfl

theorem lower_of_ascii (ascii : ∀ c ∈ t, CaseMap.isAscii c = true) :
    Text.lower t = t.map Char.toLower := by
  have read (before : Text) : CaseMap.lowerAfter before t = t.map Char.toLower := by
    induction t generalizing before with
    | nil => rfl
    | cons c t ih =>
      have first := ascii c (List.mem_cons_self ..)
      have other : c ≠ 'Σ' := by
        rintro rfl
        contradiction
      rw [CaseMap.lowerAfter, if_neg other, CaseMap.lowerChar, if_pos first,
        ih fun d member => ascii d (List.mem_cons_of_mem _ member)]
      rfl
  exact read []

theorem lower_name (named : ∀ c ∈ name, Cursor.isNameChar c = true) :
    Text.lower ('@' :: name) = '@' :: name.map Char.toLower := by
  refine lower_of_ascii ?_
  intro c member
  rcases List.mem_cons.1 member with rfl | inside
  · rfl
  · have bounds := toNat_of_isNameChar (named c inside)
    exact decide_eq_true (by omega)

/-- The key of an assignment and what its value stands for. -/
def Assignment.binding (a : Assignment) : Text × Classification :=
  (Text.lower a.name, classify a.value)

theorem binding_of_recased (recased : Recased p q) :
    (Assignment.ofPiece? p).map Assignment.binding =
      (Assignment.ofPiece? q).map Assignment.binding := by
  cases recased with
  | same => rfl
  | @name _ m n blank first second letters after =>
    have named : ∀ c ∈ (Text.trimRight after).takeWhile Cursor.isNameChar,
        Cursor.isNameChar c = true := fun c member => List.mem_takeWhile_imp member
    rw [ofPiece?_start blank first, ofPiece?_start blank second]
    generalize (Text.trimRight after).takeWhile Cursor.isNameChar = tail at *
    have key : Text.lower ('@' :: (m ++ tail)) = Text.lower ('@' :: (n ++ tail)) := by
      rw [lower_name, lower_name, List.map_append, List.map_append, letters]
      · exact fun c member => (List.mem_append.1 member).elim (second c) (named c)
      · exact fun c member => (List.mem_append.1 member).elim (first c) (named c)
    have long : m ++ tail = [] ↔ n ++ tail = [] := by
      rw [List.append_eq_nil_iff, List.append_eq_nil_iff, ← List.map_eq_nil_iff (f := Char.toLower),
        letters, List.map_eq_nil_iff]
    by_cases none : m ++ tail = []
    · rw [if_pos none, if_pos (long.1 none)]
    · rw [if_neg none, if_neg (mt long.2 none), Option.map_map, Option.map_map]
      refine congrArg (Option.map · _) ?_
      funext value
      exact congrArg (·, classify value) key

def bindings (ps : List Text) : List (Text × Classification) :=
  (ps.filterMap Assignment.ofPiece?).map Assignment.binding

theorem mem_bindings_iff : b ∈ bindings ps ↔
    ∃ piece ∈ ps, ∃ a, Assignment.ofPiece? piece = some a ∧ a.binding = b := by
  simp only [bindings, List.mem_map, List.mem_filterMap]
  constructor
  · rintro ⟨a, ⟨piece, member, assigns⟩, bound⟩
    exact ⟨piece, member, a, assigns, bound⟩
  · rintro ⟨piece, member, a, assigns, bound⟩
    exact ⟨a, ⟨piece, member, assigns⟩, bound⟩

theorem bindings_cons (piece : Text) (ps : List Text) :
    bindings (piece :: ps) =
      ((Assignment.ofPiece? piece).map Assignment.binding).toList ++ bindings ps := by
  unfold bindings
  cases assigns : Assignment.ofPiece? piece with
  | none => rw [List.filterMap_cons_none assigns]; rfl
  | some a => rw [List.filterMap_cons_some assigns]; rfl

theorem bindings_recased (recased : List.Forall₂ Recased ps qs) : bindings qs = bindings ps := by
  induction recased with
  | nil => rfl
  | cons first _ ih => rw [bindings_cons, bindings_cons, ih, binding_of_recased first]

theorem onePiece_of_forall₂ (recased : List.Forall₂ Recased ps qs)
    (whole : ∀ piece ∈ ps, OnePiece piece) : ∀ piece ∈ qs, OnePiece piece := by
  induction recased with
  | nil => exact whole
  | cons first _ ih =>
    have later := ih fun piece member => whole piece (List.mem_cons_of_mem _ member)
    intro piece member
    rcases List.mem_cons.1 member with rfl | member
    · exact onePiece_of_recased first (whole _ (List.mem_cons_self ..))
    · exact later piece member

/-- Distinct keys are bound once. -/
theorem eq_of_mem_bindings
    (distinct : ((ps.filterMap Assignment.ofPiece?).map fun a => Text.lower a.name).Nodup)
    (first : (key, v) ∈ bindings ps) (second : (key, w) ∈ bindings ps) : v = w := by
  have keys : ((bindings ps).map Prod.fst).Nodup := by
    rw [bindings, List.map_map]
    exact distinct
  exact congrArg Prod.snd (List.inj_on_of_nodup_map keys first second rfl)

namespace Registry

def value? (params : Registry) (key : Text) : Option Classification :=
  (params.get? key).map Param.value

/-- A key that is bound once has the value that is bound to it. -/
theorem value?_ofAssignments_iff
    (once : ∀ v w, (key, v) ∈ as.map Assignment.binding → (key, w) ∈ as.map Assignment.binding →
      v = w) :
    (ofAssignments as).value? key = some v ↔ (key, v) ∈ as.map Assignment.binding := by
  have bound {a} (found : as.reverse.find? (fun a => Text.lower a.name = key) = some a) :
      (key, classify a.value) ∈ as.map Assignment.binding := by
    have same : Text.lower a.name = key := by simpa using List.find?_some found
    exact List.mem_map.2 ⟨a, List.mem_reverse.1 (List.mem_of_find?_eq_some found),
      congrArg (·, classify a.value) same⟩
  rw [value?, get?_ofAssignments, Option.map_map]
  constructor
  · intro value
    obtain ⟨a, found, rfl⟩ := Option.map_eq_some_iff.1 value
    exact bound found
  · intro member
    cases found : as.reverse.find? (fun a => Text.lower a.name = key) with
    | none =>
      -- the binding itself is an assignment to the key
      obtain ⟨a, among, same⟩ := List.mem_map.1 member
      have key : Text.lower a.name = key := congrArg Prod.fst same
      have other := List.find?_eq_none.1 found a (List.mem_reverse.2 among)
      simp [key] at other
    | some a => exact congrArg some (once _ _ (bound found) member)

theorem put_of_not_mem {r : Registry} (fresh : p.key ∉ r.keys) : r.put p = r ++ [p] := by
  induction r with
  | nil => rfl
  | cons q r ih =>
    rw [keys, List.map_cons, List.mem_cons, not_or] at fresh
    rw [put, if_neg fun same => fresh.1 same.symm, ih fresh.2]
    rfl

/-- Distinct keys stay in their order. -/
theorem ofAssignments_of_distinct (distinct : (as.map fun a => Text.lower a.name).Nodup) :
    ofAssignments as = as.map Assignment.param := by
  induction as using assignments_induction with
  | nil => rfl
  | concat as a ih =>
    rw [List.map_append, List.nodup_append] at distinct
    obtain ⟨before, _, apart⟩ := distinct
    rw [ofAssignments_concat, ih before, put_of_not_mem, List.map_append, List.map_singleton]
    intro known
    obtain ⟨p, among, same⟩ := List.mem_map.1 known
    obtain ⟨b, earlier, rfl⟩ := List.mem_map.1 among
    exact apart _ (List.mem_map_of_mem earlier) _ (List.mem_singleton_self _) same

end Registry

end SqlReplay
