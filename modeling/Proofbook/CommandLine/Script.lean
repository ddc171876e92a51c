import Proofbook.Binary64.Stepwise
import Proofbook.Json.Parser
import Proofbook.Session.Basic

/-!
# Scripts

A script is a JSON array of calls. A call is an object with the members `call` and, if there are
arguments, `args`, each of them once, or an array of the name of the call and at most one further
element, its arguments. Other members of the object are skipped. Numbers are read in steps.
-/

namespace Proofbook.CommandLine

/-- The values that are skipped: members of a call other than its name and its arguments. -/
def skipsMember (stack : List Json.Frame) : Bool :=
  match stack.reverse with
  | .array _ :: .member _ name :: _ => name != "call" && name != "args"
  | _ => false

def scriptRules : Json.ReadingRules where
  depth := 127
  skips := skipsMember
  denotes := Numeral.stepwise

def valuesOf (name : String) (members : List (String × Json)) : List Json :=
  (members.filter fun (other, _) => other == name).map Prod.snd

def invocationOf? : Json → Option Invocation
  | .object members =>
    match valuesOf "call" members, valuesOf "args" members with
    | [.string call], [] => some ⟨call, []⟩
    | [.string call], [.array args] => some ⟨call, args⟩
    | _, _ => none
  | .array [.string call] => some ⟨call, []⟩
  | .array [.string call, .array args] => some ⟨call, args⟩
  | _ => none

def parseScript (script : String) : Option (List Invocation) := do
  (← (← Json.parseWith scriptRules script).items?).mapM invocationOf?

end Proofbook.CommandLine
