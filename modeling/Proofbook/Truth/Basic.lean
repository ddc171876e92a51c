/-!
# Three truth values

A statement holds, fails, or is undecidable. The connectives are those of strong Kleene logic,
except that an equivalence is undecidable as soon as one side is.
-/

namespace Proofbook

inductive Truth where
  | holds
  | fails
  | undecidable
deriving DecidableEq

namespace Truth

def ofBool (value : Bool) : Truth := if value then holds else fails

def name : Truth → String
  | holds => "true"
  | fails => "false"
  | undecidable => "undecidable"

def not : Truth → Truth
  | holds => fails
  | fails => holds
  | undecidable => undecidable

def and : Truth → Truth → Truth
  | fails, _ | _, fails => fails
  | holds, holds => holds
  | _, _ => undecidable

def or (a b : Truth) : Truth := not (and (not a) (not b))

def implies (a b : Truth) : Truth := or (not a) b

def iff : Truth → Truth → Truth
  | undecidable, _ | _, undecidable => undecidable
  | a, b => ofBool (a = b)

end Truth

end Proofbook
