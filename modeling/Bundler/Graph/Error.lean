import Bundler.Text.Quoted

/-!
# Errors of a build

A build fails because a module cannot be read or parsed, because a reference leads to no file, or
because there are too many modules. Each error carries the reference and the referring module as far
as they are known.
-/

set_option autoImplicit false

namespace Bundler

/-- The reference that led to an error, and where it stands. -/
structure Origin where
  /-- The reference. -/
  reference : Option String := none
  /-- The location of the referring module. -/
  referrer : Option String := none
deriving DecidableEq, Repr

/-- The end of a message that tells where an error comes from. -/
def Origin.message (o : Origin) : String :=
  match o.reference, o.referrer with
  | none, _ => ""
  | some reference, none => " (reference " ++ Text.quoted reference ++ ")"
  | some reference, some referrer =>
    " (reference " ++ Text.quoted reference ++ " in " ++ referrer ++ ")"

/-- A module cannot be read or parsed. -/
structure FrontendError where
  /-- The location of the module. -/
  location : String
  /-- What is wrong with it. -/
  reason : String
  /-- The reference to it. -/
  origin : Origin := {}
deriving DecidableEq, Repr

/-- The same error, attributed to a reference. -/
def FrontendError.withReference (e : FrontendError) (reference referrer : String) :
    FrontendError :=
  { e with origin := ⟨some reference, some referrer⟩ }

/-- A reference leads to no file. -/
structure ResolutionError where
  /-- The reference. -/
  reference : String
  /-- The location of the referring module. -/
  referrer : String
  /-- The locations that were tried. -/
  candidates : List String
deriving DecidableEq, Repr

/-- A build would create more records than allowed. -/
structure GraphLimitError where
  /-- The number of records allowed. -/
  limit : Int
  /-- The reference that asked for one more. -/
  origin : Origin := {}
deriving DecidableEq, Repr

/-- Why a build fails. -/
inductive BuildError where
  /-- A module cannot be read or parsed. -/
  | frontend (e : FrontendError)
  /-- A reference leads to no file. -/
  | resolution (e : ResolutionError)
  /-- There are too many modules. -/
  | limit (e : GraphLimitError)
deriving DecidableEq, Repr

/-- The description of a module that cannot be compiled. -/
def FrontendError.message (e : FrontendError) : String :=
  e.location ++ ": " ++ e.reason ++ e.origin.message

/-- The description of a reference that leads to no file. -/
def ResolutionError.message (e : ResolutionError) : String :=
  "cannot resolve " ++ Text.quoted e.reference ++ " from " ++ e.referrer ++
    if e.candidates.isEmpty then "" else "; tried: " ++ ", ".intercalate e.candidates

/-- The description of too large a build. -/
def GraphLimitError.message (e : GraphLimitError) : String :=
  "module graph exceeds max_modules=" ++ toString e.limit ++ e.origin.message

/-- The description of a failed build. -/
def BuildError.message : BuildError → String
  | .frontend e => e.message
  | .resolution e => e.message
  | .limit e => e.message

end Bundler
