import SqlReplay.Sql.Cursor

/-! The assignments of a traced call. The call is cut at the commas outside its strings; a piece of
the form `@name = value` assigns, and every other piece is passed over. -/

namespace SqlReplay

def joinFirst (start : Text) : List Text → List Text
  | [] => [start]
  | piece :: pieces => (start ++ piece) :: pieces

/-- The pieces between the commas that stand outside single quotes; always at least one. -/
def splitAssignments : Text → List Text
  | [] => [[]]
  | c :: rest =>
    if c = '\'' then
      let length := Cursor.quotedLength '\'' rest
      joinFirst (c :: rest.take length) (splitAssignments (rest.drop length))
    else if c = ',' then [] :: splitAssignments rest
    else joinFirst [c] (splitAssignments rest)
termination_by t => t.length
decreasing_by all_goals simp only [List.length_drop, List.length_cons]; omega

structure Assignment where
  name : Text
  value : Text
  deriving DecidableEq

/-- The value without the semicolon that ends the call, if there is one. -/
def dropTerminator (value : Text) : Text :=
  if value.getLast? = some ';' then Text.trimRight value.dropLast else value

def Assignment.ofPiece? (piece : Text) : Option Assignment :=
  match Text.trim piece with
  | '@' :: rest =>
    let name := rest.takeWhile Cursor.isNameChar
    match name, Text.trimLeft (rest.dropWhile Cursor.isNameChar) with
    | _ :: _, '=' :: value => some ⟨'@' :: name, dropTerminator (Text.trim value)⟩
    | _, _ => none
  | _ => none

def assignments (call : Text) : List Assignment :=
  (splitAssignments call).filterMap Assignment.ofPiece?

end SqlReplay
