import DocAudit.Builtin.Undocumented

/-!
# Warnings of the documentation tool

Two validators pick their warnings out of the same output of `yard stats`: unknown tags, each on
one line, and unknown parameter names, each on two lines.
-/

namespace DocAudit

namespace YardWarning

/-- The command that prints the warnings. -/
def command (ctx : CommandContext) : Command :=
  { program := "yard"
    args := ["stats", "--no-save", "--no-progress"] ++ ctx.toolOptions ++ ctx.files.getD [] }

/-- The patterns of the place that a warning is about. -/
def placePatterns : List (String × String) :=
  [(PatternSet.location, "in file [`']([^`']+)[`']"), (PatternSet.line, r"near line (\d+)")]

end YardWarning

namespace UnknownTag

def name : String := "Warnings/UnknownTag"

def patterns : PatternSet :=
  .builtin <|
    [(PatternSet.general, r"^\[warn\]: Unknown tag @\S+"),
     (PatternSet.message, r"Unknown tag (@\S+)")] ++ YardWarning.placePatterns

def parse (text : String) : List Record := Output.oneLine patterns text

/-- Reports unknown tags. -/
def validator : Validator where
  name := name
  description := "Reports tags that yard does not recognize"
  strategy := .shell
  command := fun ctx => .ok (YardWarning.command ctx)
  parse := parse
  kind :=
    { validatorName := name
      defaultSeverity := some .error
      message := fun r => "Unknown tag " ++ r.message.getD "" }

end UnknownTag

namespace UnknownParameter

def name : String := "Warnings/UnknownParameterName"

def patterns : PatternSet :=
  .builtin <|
    [(PatternSet.general, r"^\[warn\]: @param tag has unknown parameter name"),
     (PatternSet.message, r"unknown parameter name: (\S+)")] ++ YardWarning.placePatterns

def parse (text : String) : List Record := Output.twoLine patterns text

/-- Reports tags for parameters that do not exist. -/
def validator : Validator where
  name := name
  description := "Reports @param tags naming parameters the method does not have"
  strategy := .shell
  command := fun ctx => .ok (YardWarning.command ctx)
  parse := parse
  kind :=
    { validatorName := name
      defaultSeverity := some .error
      message := fun r => "@param tag has unknown parameter name: " ++ r.message.getD "" }

end UnknownParameter

end DocAudit
