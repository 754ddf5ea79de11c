import DocAudit.Builtin.TagOrder
import DocAudit.Builtin.YardWarning
import DocAudit.Validator.Set

/-!
# Presets

Named sets of built-in validators.
-/

namespace DocAudit

inductive Preset where
  /-- All validators. -/
  | standard
  /-- The validators that need no other program. -/
  | offline
  deriving DecidableEq, Repr

def Preset.builtins : List Validator :=
  [Undocumented.validator, TagOrder.validator, UnknownTag.validator, UnknownParameter.validator]

def Preset.validators : Preset → ValidatorSet
  | .standard => .ofList builtins
  | .offline => .ofList [Undocumented.validator, TagOrder.validator]

end DocAudit
