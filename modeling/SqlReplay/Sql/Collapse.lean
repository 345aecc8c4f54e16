import SqlReplay.Sql.Span

/-! A statement on one line. Runs of blanks that break a line become one space, except that the
line break which ends a line comment stays; quoted text and comments are copied. -/

namespace SqlReplay

namespace Collapse

def breaksLine (run : Text) : Bool := run.any fun c => c == '\r' || c == '\n'

/-- A run of blanks; `afterComment` says that a line comment ends where it starts. -/
def blankRun (afterComment : Bool) (run : Text) : Text :=
  if breaksLine run then (if afterComment then ['\n'] else [' ']) else run

def plain (afterComment : Bool) : Text → Text
  | [] => []
  | c :: rest =>
    if isBlank c then
      blankRun afterComment (c :: rest.takeWhile isBlank) ++ plain false (rest.dropWhile isBlank)
    else c :: plain false rest
termination_by t => t.length
decreasing_by
  · exact Nat.lt_succ_of_le (List.dropWhile_sublist _).length_le
  · simp

def fromSpans (afterComment : Bool) : List Span → Text
  | [] => []
  | s :: rest =>
    if s.kind = .plain then plain afterComment s.text ++ fromSpans false rest
    else s.text ++ fromSpans (s.kind = .lineComment) rest

end Collapse

def collapseLineBreaks (sql : Text) : Text := Collapse.fromSpans false (spans sql)

end SqlReplay
