import SqlReplay.Exec.Parse
import SqlReplay.Proofs.Distinct

/-! The parameters of a call, made by putting one assignment after the other. -/

namespace SqlReplay.Registry

def keys (r : Registry) : List Text := r.map Param.key

theorem mem_put (member : q ∈ put p r) : q = p ∨ q ∈ r := by
  induction r with
  | nil => exact .inl (List.mem_singleton.1 member)
  | cons first r ih =>
    unfold put at member
    split at member
    · rcases List.mem_cons.1 member with rfl | member
      · exact .inl rfl
      · exact .inr (List.mem_cons_of_mem _ member)
    · rcases List.mem_cons.1 member with rfl | member
      · exact .inr (List.mem_cons_self ..)
      · exact (ih member).imp_right (List.mem_cons_of_mem _)

/-- A new key comes last, a known one stays where it is. -/
theorem keys_put (p : Param) (r : Registry) :
    (put p r).keys = if p.key ∈ r.keys then r.keys else r.keys ++ [p.key] := by
  induction r with
  | nil => rfl
  | cons first r ih =>
    unfold put
    by_cases same : first.key = p.key
    · rw [if_pos same]
      simp [keys, same]
    · rw [if_neg same]
      have other : p.key ≠ first.key := fun equal => same equal.symm
      simp only [keys, List.map_cons, List.mem_cons, other, false_or] at ih ⊢
      rw [ih]
      by_cases known : p.key ∈ r.map Param.key <;> simp [known]

theorem get?_put_self (p : Param) (r : Registry) : (put p r).get? p.key = some p := by
  induction r with
  | nil => simp [put, get?]
  | cons first r ih =>
    unfold put
    by_cases same : first.key = p.key
    · simp [same, get?]
    · rw [if_neg same, get?, List.find?_cons_of_neg (by simpa using same)]
      exact ih

theorem get?_put_of_ne (r : Registry) (differs : key ≠ p.key) :
    (put p r).get? key = r.get? key := by
  have apart : p.key ≠ key := fun equal => differs equal.symm
  induction r with
  | nil => simp [put, get?, apart]
  | cons first r ih =>
    unfold put
    by_cases same : first.key = p.key
    · rw [if_pos same, get?, get?, List.find?_cons_of_neg (by simpa using apart),
        List.find?_cons_of_neg (by simpa [same] using apart)]
    · rw [if_neg same]
      simp only [get?, List.find?_cons] at ih ⊢
      rw [ih]

theorem ofAssignments_concat (as : List Assignment) (a : Assignment) :
    ofAssignments (as ++ [a]) = put a.param (ofAssignments as) := by
  simp [ofAssignments]

/-- Assignments by the last one. -/
theorem assignments_induction {motive : List Assignment → Prop} (nil : motive [])
    (concat : ∀ as a, motive as → motive (as ++ [a])) (as : List Assignment) : motive as := by
  rw [← as.reverse_reverse]
  induction as.reverse with
  | nil => exact nil
  | cons a rest ih =>
    rw [List.reverse_cons]
    exact concat _ _ ih

theorem mem_ofAssignments (member : p ∈ ofAssignments as) : ∃ a ∈ as, p = a.param := by
  induction as using assignments_induction with
  | nil => contradiction
  | concat as a ih =>
    rw [ofAssignments_concat] at member
    rcases mem_put member with rfl | member
    · exact ⟨a, by simp, rfl⟩
    · obtain ⟨b, among, rfl⟩ := ih member
      exact ⟨b, List.mem_append_left _ among, rfl⟩

theorem keys_ofAssignments (as : List Assignment) :
    (ofAssignments as).keys = (as.map fun a => Text.lower a.name).eraseDups := by
  induction as using assignments_induction with
  | nil => rfl
  | concat as a ih =>
    rw [ofAssignments_concat, keys_put, ih, List.map_append, List.map_singleton, eraseDups_concat]
    simp only [List.mem_eraseDups]
    rfl

/-- A key has the parameter of the last assignment to it. -/
theorem get?_ofAssignments (as : List Assignment) (key : Text) : (ofAssignments as).get? key =
    (as.reverse.find? fun a => Text.lower a.name = key).map Assignment.param := by
  induction as using assignments_induction with
  | nil => rfl
  | concat as a ih =>
    rw [ofAssignments_concat, List.reverse_append, List.reverse_singleton, List.singleton_append]
    by_cases same : Text.lower a.name = key
    · rw [List.find?_cons_of_pos (by simpa using same)]
      subst same
      exact get?_put_self a.param _
    · rw [List.find?_cons_of_neg (by simpa using same), ← ih]
      exact get?_put_of_ne _ fun equal => same equal.symm

end SqlReplay.Registry

namespace SqlReplay

theorem params_parseCall (call : Text) :
    ∃ as, (parseCall call).params = Registry.ofAssignments as := by
  unfold parseCall
  split
  · exact ⟨[], rfl⟩
  · exact ⟨_, rfl⟩

end SqlReplay
