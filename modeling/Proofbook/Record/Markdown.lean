import Proofbook.Formula.Display
import Proofbook.Record.Event
import Proofbook.Text.Numeral

namespace Proofbook.Markdown

def entry (index : Nat) (content : String) : String :=
  Text.numeral (index + 1) ++ ". " ++ content ++ "\n"

def derivedText : Option Formula → String
  | some derived => derived.display
  | none => "no conclusion"

def eventText : Event → String
  | .opening goal => "### Proof of `" ++ goal ++ "`\n\n"
  | .premise index justification => entry index ("**Premise** " ++ justification.display)
  | .step index statement justification =>
    entry index (statement.display ++ " *by* " ++ justification.display)
  | .inference index rule premises derived =>
    entry index ("**" ++ rule.name ++ "** (" ++ Formula.displayList premises ++ ") ⊢ " ++
      derivedText derived)
  | .conclusion index justification => entry index ("**Conclusion** " ++ justification.display)
  | .closing _ => "\n"
  | .statistic key value => "- " ++ key ++ ": " ++ value.display ++ "\n"

def listing (events : List Event) : String := String.join (events.map eventText)

end Proofbook.Markdown
