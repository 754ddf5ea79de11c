/-!
# Visibility of checked objects

A validator looks at public objects only or at all objects.  Options given to the documentation
tool decide: a validator's own option list settles the matter, present but without a privacy flag
it means public objects; without a list of its own a privacy flag in the global list means all
objects; otherwise the validator's default holds.
-/

namespace DocAudit

/-- Which objects a validator looks at. -/
inductive Visibility where
  | publicOnly
  | all
  deriving DecidableEq, Repr

namespace Visibility

def name : Visibility → String
  | publicOnly => "public"
  | all => "all"

/-- The options that widen the view to objects that are not public. -/
def privacyFlags : List String := ["--private", "--protected"]

def hasPrivacyFlag (options : List String) : Bool := options.any (privacyFlags.contains ·)

/-- The visibility from the default, the validator's own options and the global options. -/
def resolve (default : Visibility) (own global : Option (List String)) : Visibility :=
  match own with
  | some options => if hasPrivacyFlag options then all else publicOnly
  | none =>
    match global with
    | some options => if hasPrivacyFlag options then all else default
    | none => default

end Visibility

end DocAudit
