import SqlReplay.Sql.Placeholder

/-! Lists in which every key is kept once, where it comes first. -/

namespace SqlReplay

section

variable [BEq κ]

def distinctBy (key : α → κ) (l : List α) : List α := l.eraseDupsBy fun a b => key a == key b

theorem references_eq_distinctBy (sql : Text) : references sql =
    distinctBy Reference.key
      (((spans sql).filter (·.kind = .placeholder)).map fun s => Reference.ofName s.text) :=
  rfl

theorem eraseDups_eq_distinctBy (l : List κ) : l.eraseDups = distinctBy id l := rfl

theorem distinctBy_cons (key : α → κ) (a : α) (l : List α) :
    distinctBy key (a :: l) = a :: distinctBy key (l.filter fun b => !(key b == key a)) := by
  rw [distinctBy, List.eraseDupsBy_cons, distinctBy]
  simp

/-- Lists by their first elements, where the others with the same key are dropped. -/
theorem distinctBy_induction {motive : List α → Prop} (key : α → κ) (nil : motive [])
    (cons : ∀ a l, motive (l.filter fun b => !(key b == key a)) → motive (a :: l)) (l : List α) :
    motive l := by
  match l with
  | [] => exact nil
  | a :: l => exact cons a l (distinctBy_induction key nil cons _)
termination_by l.length
decreasing_by
  have := List.length_filter_le (fun b => !(key b == key a)) l
  rw [List.length_cons]
  omega

theorem distinctBy_map (key : β → κ) (f : α → β) (l : List α) :
    distinctBy key (l.map f) = (distinctBy (fun a => key (f a)) l).map f := by
  induction l using distinctBy_induction fun a => key (f a) with
  | nil => rfl
  | cons a l ih =>
    rw [List.map_cons, distinctBy_cons, distinctBy_cons, List.map_cons, ← ih, List.filter_map]
    rfl

theorem mem_of_mem_distinctBy (key : α → κ) (l : List α) (member : a ∈ distinctBy key l) :
    a ∈ l := by
  induction l using distinctBy_induction key with
  | nil => exact member
  | cons b l ih =>
    rw [distinctBy_cons] at member
    rcases List.mem_cons.1 member with rfl | member
    · exact List.mem_cons_self ..
    · exact List.mem_cons_of_mem _ (List.mem_filter.1 (ih member)).1

variable [LawfulBEq κ]

theorem nodup_distinctBy (key : α → κ) (l : List α) : ((distinctBy key l).map key).Nodup := by
  induction l using distinctBy_induction key with
  | nil => exact List.nodup_nil
  | cons a l ih =>
    rw [distinctBy_cons, List.map_cons, List.nodup_cons]
    refine ⟨?_, ih⟩
    intro member
    obtain ⟨b, among, same⟩ := List.mem_map.1 member
    have apart := (List.mem_filter.1 (mem_of_mem_distinctBy key _ among)).2
    simp [same] at apart

theorem key_mem_distinctBy (key : α → κ) (l : List α) (member : a ∈ l) :
    key a ∈ (distinctBy key l).map key := by
  induction l using distinctBy_induction key with
  | nil => contradiction
  | cons b l ih =>
    rw [distinctBy_cons, List.map_cons]
    by_cases same : key a = key b
    · exact same ▸ List.mem_cons_self ..
    · refine List.mem_cons_of_mem _ (ih ?_)
      rcases List.mem_cons.1 member with rfl | member
      · exact absurd rfl same
      · exact List.mem_filter.2 ⟨member, by simpa using same⟩

/-- Whether an element is kept depends on its key, so dropping keys commutes with keeping firsts. -/
theorem distinctBy_filter (key : α → κ) (p : κ → Bool) (l : List α) :
    distinctBy key (l.filter fun a => p (key a)) =
      (distinctBy key l).filter fun a => p (key a) := by
  induction l using distinctBy_induction key with
  | nil => rfl
  | cons a l ih =>
    rw [distinctBy_cons, List.filter_cons, List.filter_cons, ← ih]
    split
    · rw [distinctBy_cons, List.filter_filter, List.filter_filter]
      refine congrArg (fun l => a :: distinctBy key l) (List.filter_congr ?_)
      exact fun b _ => Bool.and_comm ..
    · next dropped =>
      rw [List.filter_filter]
      refine congrArg (distinctBy key) (List.filter_congr ?_)
      intro b _
      cases same : key b == key a with
      | false => simp
      | true => simp [eq_of_beq same, dropped]

/-- Elements whose keys came before are not kept. -/
theorem distinctBy_append_seen (key : α → κ) (distinct : (as.map key).Nodup)
    (seen : ∀ b ∈ bs, key b ∈ as.map key) : distinctBy key (as ++ bs) = as := by
  induction as generalizing bs with
  | nil =>
    cases bs with
    | nil => rfl
    | cons b bs => exact absurd (seen b (List.mem_cons_self ..)) (List.not_mem_nil)
  | cons a as ih =>
    rw [List.map_cons, List.nodup_cons] at distinct
    have kept : as.filter (fun b => !(key b == key a)) = as := by
      refine List.filter_eq_self.2 ?_
      intro b member
      have apart : key b ≠ key a := fun same => distinct.1 (same ▸ List.mem_map_of_mem member)
      simpa using apart
    rw [List.cons_append, distinctBy_cons, List.filter_append, kept, ih distinct.2]
    intro b member
    obtain ⟨among, apart⟩ := List.mem_filter.1 member
    rcases List.mem_cons.1 (seen b among) with same | later
    · simp [same] at apart
    · exact later

/-- Of elements in order of place, those are kept before which no other has their key. -/
theorem distinctBy_eq_filter [DecidableEq κ] (key : α → κ) (place : α → Nat) (l : List α)
    (sorted : l.Pairwise (place · < place ·)) :
    distinctBy key l = l.filter fun a => ∀ b ∈ l, place b < place a → key b ≠ key a := by
  induction l using distinctBy_induction key with
  | nil => rfl
  | cons a l ih =>
    obtain ⟨first, sorted⟩ := List.pairwise_cons.1 sorted
    rw [distinctBy_cons, ih (sorted.filter _), List.filter_cons_of_pos, List.filter_filter]
    · refine congrArg (a :: ·) (List.filter_congr ?_)
      intro b member
      have earlier := first b member
      rw [Bool.eq_iff_iff]
      simp only [List.mem_filter, List.mem_cons, decide_eq_true_eq, Bool.and_eq_true,
        Bool.not_eq_true', beq_eq_false_iff_ne]
      constructor
      · rintro ⟨kept, apart⟩ c (rfl | among) before
        · exact apart.symm
        · by_cases same : key c = key a
          · exact same ▸ apart.symm
          · exact kept c ⟨among, same⟩ before
      · intro kept
        exact ⟨fun c among before => kept c (.inr among.1) before, (kept a (.inl rfl) earlier).symm⟩
    · simp only [List.mem_cons, decide_eq_true_eq]
      rintro b (rfl | member) earlier
      · exact absurd earlier (Nat.lt_irrefl _)
      · have := first b member
        omega

theorem eraseDups_map_of_injective [BEq α] [LawfulBEq α] {f : α → κ}
    (injective : ∀ a b, f a = f b → a = b) (l : List α) :
    (l.map f).eraseDups = l.eraseDups.map f := by
  have same : (fun a b => f a == f b) = fun a b : α => a == b := by
    funext a b
    rw [Bool.eq_iff_iff, beq_iff_eq, beq_iff_eq]
    exact ⟨injective a b, congrArg f⟩
  rw [eraseDups_eq_distinctBy, distinctBy_map]
  exact congrArg (fun r => (l.eraseDupsBy r).map f) same

theorem eraseDups_concat [DecidableEq κ] (l : List κ) (a : κ) : (l ++ [a]).eraseDups =
    if a ∈ l then l.eraseDups else l.eraseDups ++ [a] := by
  rw [List.eraseDups_append]
  split
  · next known => simp [List.removeAll, known]
  · next fresh => simp [List.removeAll, fresh, List.eraseDups_cons]

end

end SqlReplay
