import SqlReplay.Text.Basic

/-! Choices that the configuration and the formatter share. -/

namespace SqlReplay

inductive KeywordCase
  | upper | lower
  deriving DecidableEq

def KeywordCase.text : KeywordCase → Text
  | .upper => "upper"
  | .lower => "lower"

def KeywordCase.all : List KeywordCase := [.upper, .lower]

structure FormatOptions where
  dialect : Text := "tsql"
  keywordCase : KeywordCase := .upper
  deriving DecidableEq

end SqlReplay
