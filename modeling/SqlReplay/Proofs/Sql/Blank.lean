import SqlReplay.Proofs.Sql.References
import SqlReplay.Proofs.Sql.Substitution
import SqlReplay.Sql.Collapse

/-! Statements without ink. Neither collapsing nor replacing adds any to them. -/

namespace SqlReplay

theorem blank_of_mem_spans (blank : Blank sql) (member : s ∈ spans sql) : Blank s.text := by
  intro c inside
  refine blank c ?_
  rw [← flatMap_text_spans sql]
  exact List.mem_flatMap.2 ⟨s, member, inside⟩

namespace Collapse

@[simp] theorem plain_nil (afterComment : Bool) : plain afterComment [] = [] := by rw [plain]

theorem plain_ink (afterComment : Bool) (ink : isBlank c = false) (t : Text) :
    plain afterComment (c :: t) = c :: plain false t := by
  rw [plain, if_neg (by simp [ink])]

theorem plain_run (afterComment : Bool) (blank : Blank run) (nonempty : run ≠ [])
    (ends : ∀ c, t.head? = some c → isBlank c = false) :
    plain afterComment (run ++ t) = blankRun afterComment run ++ plain false t := by
  obtain ⟨c, more, rfl⟩ := List.exists_cons_of_ne_nil nonempty
  obtain ⟨first, later⟩ := List.forall_mem_cons.1 blank
  rw [List.cons_append, plain, if_pos first, takeWhile_append_stop later ends,
    dropWhile_append_stop later ends]

theorem blank_blankRun (afterComment : Bool) (blank : Blank run) :
    Blank (blankRun afterComment run) := by
  unfold blankRun
  split
  · split <;> simp [Blank, isBlank]
  · exact blank

theorem blank_plain (blank : Blank t) (afterComment : Bool) : Blank (plain afterComment t) := by
  by_cases empty : t = []
  · subst empty
    simp [Blank]
  · have whole := plain_run (t := []) afterComment blank empty (by simp)
    rw [List.append_nil] at whole
    rw [whole]
    exact blank_append (blank_blankRun afterComment blank) (by simp [Blank])

end Collapse

theorem Collapse.blank_fromSpans (blank : ∀ s ∈ ss, Blank (Span.text s)) (afterComment : Bool) :
    Blank (Collapse.fromSpans afterComment ss) := by
  induction ss generalizing afterComment with
  | nil => simp [Collapse.fromSpans, Blank]
  | cons s ss ih =>
    have first := blank s (List.mem_cons_self ..)
    have later := ih fun r member => blank r (List.mem_cons_of_mem _ member)
    unfold Collapse.fromSpans
    split
    · exact blank_append (Collapse.blank_plain first _) (later _)
    · exact blank_append first (later _)

theorem blank_collapseLineBreaks (blank : Blank sql) : Blank (collapseLineBreaks sql) :=
  Collapse.blank_fromSpans (fun _ member => blank_of_mem_spans blank member) _

theorem blank_substitute (blank : Blank sql) (value? : Text → Option Text) :
    Blank (substitute value? sql) := by
  intro c member
  obtain ⟨s, among, inside⟩ := List.mem_flatMap.1 member
  have plain := blank_of_mem_spans blank among
  split at inside
  · next kind =>
    obtain ⟨rest, precedes⟩ := precedes_of_mem_spans among
    have sign : '@' ∈ s.text := List.mem_of_mem_head? (head?_of_placeholder precedes kind)
    exact absurd (plain '@' sign) (by decide)
  · exact plain c inside

end SqlReplay
