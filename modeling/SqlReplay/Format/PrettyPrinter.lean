import SqlReplay.Format.Formatter
import SqlReplay.Text.CaseMap

/-! The formatter that comes with the library. A tool that knows SQL dialects lays out the
statements; for lower-case keywords its tokens tell which parts of the result are keywords. -/

namespace SqlReplay

/-- A token of the tool: its kind, what it says, and its first and last character. -/
structure Lexeme where
  kind : Text
  text : Text
  first : Nat
  last : Nat
  deriving DecidableEq

/-- What the tool answers: the statements of a text laid out for a dialect, the keywords of a
dialect, and the tokens of a text. -/
structure DialectTool where
  transpile : Text → Text → Except Raised (List Text)
  keywords : Text → Except Raised (List Text)
  tokenize : Text → Text → Except Raised (List Lexeme)

namespace PrettyPrinter

/-- Kinds of tokens that hold values and names, whatever they spell. -/
def valueKinds : List Text :=
  ["STRING", "NATIONAL_STRING", "IDENTIFIER", "VAR", "PARAMETER", "HEX_STRING", "NUMBER"]

def isKeyword (keywords : List Text) (t : Lexeme) : Bool :=
  !valueKinds.contains t.kind && keywords.contains (Text.upper t.text)

/-- The text from `position` on with the ranges of the tokens in lower case. -/
def lowerRanges (sql : Text) (position : Nat) : List Lexeme → Text
  | [] => sql.drop position
  | t :: rest =>
    (sql.take t.first).drop position ++ Text.lower ((sql.take (t.last + 1)).drop t.first) ++
      lowerRanges sql (t.last + 1) rest

def lowerKeywords (sql : Text) (keywords : List Text) (tokens : List Lexeme) : Text :=
  lowerRanges sql 0 (tokens.filter (isKeyword keywords))

/-- Errors of the tool are reported as failures to do `what`, if they have a text; others pass as
they are. -/
def wrap (what : Text) (error : Raised) : Raised :=
  if error.origin = .tool then
    match error.text with
    | .ok message => .ofFault (.ofMessage .formatting (what ++ ':' :: ' ' :: message))
    | .error escaped => escaped
  else error

def joinStatements (statements : List Text) : Text :=
  Text.join [';', '\n', '\n'] (statements.filter fun s => !Text.IsBlank s)

def run (tool : DialectTool) (sql : Text) (options : FormatOptions) : Reply :=
  let asked := [Request.transpile sql options.dialect]
  match tool.transpile sql options.dialect with
  | .error error => ⟨asked, .error (wrap "Failed to format SQL" error)⟩
  | .ok statements =>
    let formatted := joinStatements statements
    match options.keywordCase with
    | .upper => ⟨asked, .ok formatted⟩
    | .lower =>
      let asked := asked ++ [.keywords options.dialect]
      match tool.keywords options.dialect with
      | .error error => ⟨asked, .error error⟩
      | .ok keywords =>
        let asked := asked ++ [.tokenize formatted]
        match tool.tokenize options.dialect formatted with
        | .error error => ⟨asked, .error (wrap "Failed to tokenize formatted SQL" error)⟩
        | .ok tokens => ⟨asked, .ok (lowerKeywords formatted keywords tokens)⟩

end PrettyPrinter

def prettyPrinter (tool : DialectTool) : Formatter := ⟨"SqlglotFormatter", PrettyPrinter.run tool⟩

end SqlReplay
