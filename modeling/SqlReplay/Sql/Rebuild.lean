import SqlReplay.Sql.Placeholder

/-! A statement rebuilt by a visitor. It is shown every placeholder in its turn, and may remember
things, fail, or have other effects on the way; what it answers replaces the placeholder, and
without an answer the placeholder stays. -/

namespace SqlReplay

section

variable {m : Type → Type} [Monad m]

def rebuildFrom (visit : Occurrence → m (Option Text)) (start : Nat) : List Span → m Text
  | [] => return []
  | s :: rest => do
    let stop := start + s.text.length
    let answer ← if s.kind = .placeholder then visit ⟨.ofName s.text, start, stop⟩ else pure none
    return answer.getD s.text ++ (← rebuildFrom visit stop rest)

def rebuild (visit : Occurrence → m (Option Text)) (sql : Text) : m Text :=
  rebuildFrom visit 0 (spans sql)

end

/-- A visitor that notes what it is shown. -/
def Occurrence.note (o : Occurrence) : StateM (List Occurrence) (Option Text) := do
  modify (· ++ [o])
  return none

end SqlReplay
