import SqlReplay.Json.Basic

/-! The fields of an object. Each name stands once, in the place where it came first, and what is
added as a default never takes the place of what is there. Fields that are read back are those that
were written, with code points for characters. -/

namespace SqlReplay

namespace FieldsOf

variable {α : Type} [DecidableEq α]

section Set

variable {key : List α} {fields : FieldsOf α}

theorem set_of_not_mem (fresh : key ∉ fields.map (·.1)) (v : JsonOf α) :
    fields.set key v = fields ++ [(key, v)] := by
  fun_induction set key v fields with
  | case1 => rfl
  | case2 => simp at fresh
  | case3 k w rest _ ih =>
    rw [ih fun again => fresh (List.mem_cons_of_mem k again), List.cons_append]

end Set

theorem foldl_set (done : FieldsOf α) {pairs : FieldsOf α}
    (distinct : ((done ++ pairs).map (·.1)).Nodup) :
    pairs.foldl (fun fields (key, value) => fields.set key value) done = done ++ pairs := by
  induction pairs generalizing done with
  | nil => rw [List.foldl_nil, List.append_nil]
  | cons pair pairs ih =>
    have fresh : pair.1 ∉ done.map (·.1) := by
      rw [List.map_append, List.map_cons] at distinct
      exact fun again => (List.nodup_append.1 distinct).2.2 _ again _ List.mem_cons_self rfl
    rw [List.append_cons] at distinct ⊢
    rw [← set_of_not_mem fresh pair.2] at distinct ⊢
    exact ih _ distinct

/-- Fields of different names keep their places. -/
theorem ofList_of_nodup {pairs : FieldsOf α} (distinct : (pairs.map (·.1)).Nodup) :
    ofList pairs = pairs :=
  foldl_set [] distinct

section Defaults

variable {key : List α} {fields : FieldsOf α}

theorem lookup_setDefault_of_ne {other : List α} (apart : other ≠ key) (v : JsonOf α) :
    (fields.setDefault key v).lookup other = fields.lookup other := by
  unfold setDefault
  split
  next => rfl
  next => simp [List.lookup_append, List.lookup_cons, beq_eq_false_iff_ne.2 apart]

/-- A default is looked up where there is no field of its name. -/
theorem lookup_foldl_setDefault (key : List α) (fields defaults : FieldsOf α) :
    (defaults.foldl (fun fields (key, value) => fields.setDefault key value) fields).lookup key =
      (fields.lookup key).or (defaults.lookup key) := by
  induction defaults generalizing fields with
  | nil => rw [List.foldl_nil, List.lookup_nil, Option.or_none]
  | cons field defaults ih =>
    obtain ⟨k, v⟩ := field
    simp only [List.foldl_cons, ih]
    by_cases same : key = k
    · subst same
      rw [lookup_setDefault, List.lookup_cons_self]
      cases fields.lookup key <;> rfl
    · rw [lookup_setDefault_of_ne same, List.lookup_cons, beq_eq_false_iff_ne.2 same]

end Defaults

end FieldsOf

namespace Json

theorem mapItems_eq {α β : Type} (f : α → β) (items : List (JsonOf α)) :
    JsonOf.mapItems f items = items.map (JsonOf.map f) := by
  induction items with
  | nil => rfl
  | cons item items ih => rw [JsonOf.mapItems, ih, List.map_cons]

theorem mapFields_eq {α β : Type} (f : α → β) (fields : FieldsOf α) :
    JsonOf.mapFields f fields = fields.map fun field => (field.1.map f, field.2.map f) := by
  induction fields with
  | nil => rfl
  | cons field fields ih => rw [JsonOf.mapFields, ih, List.map_cons]

theorem coded_arr (items : List Json) : coded (.arr items) = .arr (items.map coded) := by
  rw [coded, JsonOf.map, mapItems_eq]
  rfl

end Json

namespace Fields

def coded (fields : Fields) : FieldsOf CodePoint :=
  fields.map fun field => (Text.coded field.1, Json.coded field.2)

theorem coded_obj (fields : Fields) : Json.coded (.obj fields) = .obj fields.coded := by
  rw [Json.coded, JsonOf.map, Json.mapFields_eq]
  rfl

theorem names_coded (fields : Fields) :
    fields.coded.map (·.1) = (fields.map (·.1)).map Text.coded := by
  simp [coded]

theorem nodup_coded {fields : Fields} (distinct : (fields.map (·.1)).Nodup) :
    (fields.coded.map (·.1)).Nodup := by
  rw [names_coded]
  exact List.Pairwise.map _ (fun _ _ apart same => apart (Text.coded_inj.1 same)) distinct

theorem lookup_coded (fields : Fields) (key : Text) :
    fields.coded.lookup key.coded = (fields.lookup key).map Json.coded := by
  induction fields with
  | nil => rfl
  | cons field fields ih =>
    obtain ⟨k, v⟩ := field
    rw [coded, List.map_cons, List.lookup_cons, List.lookup_cons, ← coded, ih]
    by_cases same : key = k
    · simp [same]
    · simp [beq_eq_false_iff_ne.2 same, beq_eq_false_iff_ne.2 (mt Text.coded_inj.1 same)]

end Fields

end SqlReplay
