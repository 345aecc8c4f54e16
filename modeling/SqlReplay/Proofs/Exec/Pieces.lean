import SqlReplay.Proofs.Exec.RoundTrip

/-! What is read from the pieces of a call, blank ones included: the names that are assigned, the
parameters, and the warnings about the call. -/

namespace SqlReplay

theorem isName_of_ofPiece? (assigns : Assignment.ofPiece? piece = some a) : IsName a.name := by
  unfold Assignment.ofPiece? at assigns
  split at assigns
  · next rest _ =>
    dsimp only at assigns
    split at assigns
    · next c name value read _ =>
      obtain rfl := Option.some.inj assigns
      refine ⟨rest.takeWhile Cursor.isNameChar, rfl, ?_, fun d member =>
        List.mem_takeWhile_imp member⟩
      rw [read]
      exact List.cons_ne_nil _ _
    · contradiction
  · contradiction

theorem isName_of_mem_assignments (member : a ∈ assignments call) : IsName a.name := by
  obtain ⟨piece, _, assigns⟩ := List.mem_filterMap.1 member
  exact isName_of_ofPiece? assigns

theorem blank_of_isBlank (blank : Text.IsBlank t = true) : Blank t := List.all_eq_true.1 blank

theorem trim_of_blank (blank : Blank t) : Text.trim t = [] := by
  have nothing : Trimmed [] ∧ Blank [] := by simp [Trimmed, Blank]
  simpa using trim_append blank nothing.1 nothing.2

theorem assignments_of_blank (blank : Blank call) : assignments call = [] := by
  have enclosed : Enclosed false call := by
    rintro before after rfl
    exact absurd (blank ',' (by simp)) (by decide)
  rw [assignments, splitAssignments_eq_pieces, pieces_enclosed enclosed]
  simp [Assignment.ofPiece?, trim_of_blank blank]

/-- A blank call has the parameters of its assignments too: none. -/
theorem params_parseCall_eq (call : Text) :
    (parseCall call).params = Registry.ofAssignments (assignments call) := by
  unfold parseCall
  split
  · next blank =>
    rw [assignments_of_blank (blank_of_isBlank blank)]
    rfl
  · rfl

theorem ofAssignments_eq_nil_iff (as : List Assignment) :
    Registry.ofAssignments as = [] ↔ as = [] := by
  constructor
  · intro none
    have keys := Registry.keys_ofAssignments as
    rw [none] at keys
    cases as with
    | nil => rfl
    | cons a as =>
      rw [List.map_cons, List.eraseDups_cons] at keys
      contradiction
  · rintro rfl
    rfl

theorem repeated_eq_nil_iff (seen : List Text) (as : List Assignment) : repeated seen as = [] ↔
    (as.map fun a => Text.lower a.name).Nodup ∧ ∀ a ∈ as, Text.lower a.name ∉ seen := by
  induction as generalizing seen with
  | nil => simp [repeated]
  | cons a as ih =>
    rw [repeated]
    by_cases known : Text.lower a.name ∈ seen
    · simp [known]
    · rw [if_neg known, ih, List.map_cons, List.nodup_cons]
      simp only [List.mem_cons, not_or, forall_eq_or_imp, known, not_false_eq_true, true_and,
        List.mem_map, not_exists, not_and]
      constructor
      · rintro ⟨distinct, apart⟩
        exact ⟨⟨fun b member => (apart b member).1, distinct⟩, fun b member => (apart b member).2⟩
      · rintro ⟨⟨fresh, distinct⟩, unseen⟩
        exact ⟨distinct, fun b member => ⟨fresh b member, unseen b member⟩⟩

theorem mem_of_mem_repeated (member : a ∈ repeated seen as) : a ∈ as := by
  induction as generalizing seen with
  | nil => contradiction
  | cons b as ih =>
    rw [repeated] at member
    split at member
    · rcases List.mem_cons.1 member with rfl | later
      · exact List.mem_cons_self ..
      · exact List.mem_cons_of_mem _ (ih later)
    · exact List.mem_cons_of_mem _ (ih member)

/-- The warnings about a call: one for each repeated key, or the one that nothing is assigned. -/
theorem warnings_parseCall (call : Text) : (parseCall call).warnings =
    ((repeated [] (assignments call)).map fun a => Warning.duplicateAssignment a.name) ++
      if assignments call = [] then
        [if Text.IsBlank call then .emptyCall else .noAssignments] else [] := by
  unfold parseCall
  split
  · next blank => simp [assignments_of_blank (blank_of_isBlank blank), repeated]
  · simp [ofAssignments_eq_nil_iff]

theorem warnings_parseCall_eq_nil_iff (call : Text) : (parseCall call).warnings = [] ↔
    assignments call ≠ [] ∧ ((assignments call).map fun a => Text.lower a.name).Nodup := by
  rw [warnings_parseCall, List.append_eq_nil_iff, List.map_eq_nil_iff, repeated_eq_nil_iff]
  by_cases none : assignments call = [] <;> simp [none]

end SqlReplay
