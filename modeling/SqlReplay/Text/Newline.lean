import SqlReplay.Text.Basic

/-! Line ends of files: a carriage return, alone or before a line feed, reads as a line feed. -/

namespace SqlReplay.Text

def unifyNewlines : Text → Text
  | '\r' :: '\n' :: rest => '\n' :: unifyNewlines rest
  | '\r' :: rest => '\n' :: unifyNewlines rest
  | c :: rest => c :: unifyNewlines rest
  | [] => []

theorem not_mem_unifyNewlines (t : Text) : '\r' ∉ unifyNewlines t := by
  fun_induction unifyNewlines t with
  | case1 rest ih => simpa using ih
  | case2 rest _ ih => simpa using ih
  | case3 c rest _ hc ih =>
    have : c ≠ '\r' := fun h => hc h
    simp [ih, this.symm]
  | case4 => simp

end SqlReplay.Text
