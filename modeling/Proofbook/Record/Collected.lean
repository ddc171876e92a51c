import Proofbook.Json.Basic
import Proofbook.Record.Event

namespace Proofbook.Collected

def insertMember (name : String) (value : Json) : List (String × Json) → List (String × Json)
  | [] => [(name, value)]
  | (first, other) :: rest =>
    if name < first then (name, value) :: (first, other) :: rest
    else if name = first then (name, value) :: rest
    else (first, other) :: insertMember name value rest

def measureJson : Measure → Json
  | .integer value => .ofInt value
  | .decimal value => .ofBinary64 value
  | .text value => .string value

def memberName (key : String) : String :=
  String.ofList (key.toList.map fun c => if c = ' ' then '_' else c)

def add (members : List (String × Json)) : Event → List (String × Json)
  | .statistic key value => insertMember (memberName key) (measureJson value) members
  | _ => members

def object (events : List Event) : Json := .object (events.foldl add [])

end Proofbook.Collected
