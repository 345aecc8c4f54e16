import SqlReplay.Literal.Classify

/-! Warnings about a call, about placeholders whose value or type is a guess, and about formatting
that did not happen. -/

namespace SqlReplay

inductive Warning
  | emptyCall
  | noAssignments
  | duplicateAssignment (name : Text)
  | missingValue (name : Text)
  | noLiteral (name : Text)
  | uncertainType (name : Text) (issue : LiteralIssue)
  | unreferencedParam (name : Text)
  | declaredUninitialized (name : Text)
  | declaredVariant (name : Text)
  | unresolved (name : Text)
  | leftUnchanged (name : Text)
  | bestEffort (name : Text) (issue : LiteralIssue)
  | formatterUnavailable
  | formatterFailed (message : Text)
  deriving DecidableEq

def variantType : Text := "sql_variant"

def Warning.message : Warning → Text
  | .emptyCall => "EXEC statement is empty."
  | .noAssignments => "No parameter assignments were parsed from EXEC statement."
  | .duplicateAssignment name => "Duplicate assignment for " ++ name ++ "; last value wins."
  | .missingValue name => "Missing value for " ++ name ++ " in EXEC statement."
  | .noLiteral name => "No literal value was parsed for " ++ name ++ "."
  | .uncertainType name issue =>
    "Type inference is not confident for " ++ name ++ " (" ++ issue.message ++ ")."
  | .unreferencedParam name =>
    "EXEC parameter " ++ name ++ " is not referenced in the SQL statement."
  | .declaredUninitialized name =>
    "Declaring " ++ name ++ " as uninitialized " ++ variantType ++
      " because no value was supplied."
  | .declaredVariant name =>
    "Declaring " ++ name ++ " using " ++ variantType ++ " because its type could not be inferred."
  | .unresolved name => "Unresolved placeholder " ++ name ++ " was left unchanged."
  | .leftUnchanged name =>
    "Placeholder " ++ name ++ " was left unchanged due to missing literal."
  | .bestEffort name issue => "Used best-effort value for " ++ name ++ ": " ++ issue.message
  | .formatterUnavailable => "SQL formatter is unavailable; output was left unformatted."
  | .formatterFailed message =>
    "SQL formatter failed; output was left unformatted." ++
      (if message.isEmpty then [] else ' ' :: '(' :: message ++ [')'])

/-- Each text once, where it comes first; empty ones are dropped. -/
def distinctTexts (texts : List Text) : List Text := (texts.filter (!·.isEmpty)).eraseDups

theorem Warning.message_ne_nil (w : Warning) : w.message ≠ [] := by
  cases w <;> exact List.cons_ne_nil _ _

end SqlReplay
