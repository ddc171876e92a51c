import Proofbook.Binary64.Shortest
import Proofbook.Record.Event
import Proofbook.Text.Numeral
import Proofbook.Text.Quoted

/-!
# Proofs as TSTP derivations

Each step becomes an annotated first-order formula on a line of its own. A name stands for itself
when it is a lower case word, and in single quotes otherwise.

Variables are renamed to `X0`, `X1` and so on in the order in which they are first printed, and
one numbering runs through the whole listing. A proposition inside a quantifier over its own name
is printed as that variable.
-/

namespace Proofbook.Tstp

/-! ## Names -/

def isLowerWord : List Char → Bool
  | [] => false
  | first :: rest => first.isLower && rest.all fun c => c.isAlphanum || c == '_'

def quoteChar (c : Char) : List Char := if c = '\'' ∨ c = '\\' then ['\\', c] else [c]

def nameChars (name : List Char) : List Char :=
  if isLowerWord name then name else '\'' :: name.flatMap quoteChar ++ ['\'']

def nameText (name : String) : String := String.ofList (nameChars name.toList)

/-! ## Variables -/

/-- The names that have a number, in the order of their numbers. -/
abbrev Numbering := List String

abbrev Printer := StateM Numbering

def Numbering.add (names : Numbering) (name : String) : Numbering :=
  if name ∈ names then names else names ++ [name]

def variableText (name : String) : Printer String := fun names =>
  ("X" ++ Text.numeral (names.idxOf name), names.add name)

/-! ## Formulas -/

def quantifierSymbol : Quantifier → String
  | .universal => "!"
  | .existential => "?"

def guardSymbol : Quantifier → String
  | .universal => " => "
  | .existential => " & "

def connectiveSymbol : Connective → String
  | .and => " & "
  | .or => " | "
  | .implies => " => "
  | .iff | .not => " <=> "

def comparisonName : Comparison → String
  | .less => "$less"
  | .atMost => "$lesseq"
  | .greater => "$greater"
  | .atLeast => "$greatereq"

mutual

def formulaText (scope : List String) : Formula → Printer String
  | .quantified kind name none body => do
    let variableName ← variableText name
    let body ← formulaText (name :: scope) body
    return quantifierSymbol kind ++ "[" ++ variableName ++ "]: " ++ body
  | .quantified kind name (some domain) body => do
    let variableName ← variableText name
    let domain ← formulaText (name :: scope) domain
    let body ← formulaText (name :: scope) body
    return quantifierSymbol kind ++ "[" ++ variableName ++ "]: (" ++ domain ++ guardSymbol kind ++
      body ++ ")"
  | .connective .not _ right => return "~" ++ (← formulaText scope right)
  | .connective kind none right => do
    let right ← formulaText scope right
    return "($true" ++ connectiveSymbol kind ++ right ++ ")"
  | .connective kind (some left) right => do
    let left ← formulaText scope left
    let right ← formulaText scope right
    return "(" ++ left ++ connectiveSymbol kind ++ right ++ ")"
  | .predicate name args => return nameText name ++ (← argumentsText scope args)
  | .function name args => return nameText name ++ (← argumentsText scope args)
  | .var name _ => variableText name
  | .proposition name _ => if name ∈ scope then variableText name else return nameText name
  | .equation left right => do
    let left ← formulaText scope left
    let right ← formulaText scope right
    return left ++ " = " ++ right
  | .inequality kind left right => do
    let left ← formulaText scope left
    let right ← formulaText scope right
    return comparisonName kind ++ "(" ++ left ++ "," ++ right ++ ")"
  | .number value => return value.toText
  | .text value => return Text.quoted value
  | .premise | .conclusion | .inference .. => return "$true"

def argumentsText (scope : List String) : List Formula → Printer String
  | [] => return ""
  | first :: rest => do
    let first ← formulaText scope first
    let rest ← furtherText scope rest
    return "(" ++ first ++ rest ++ ")"

def furtherText (scope : List String) : List Formula → Printer String
  | [] => return ""
  | next :: rest => do
    let next ← formulaText scope next
    let rest ← furtherText scope rest
    return "," ++ next ++ rest

end

/-! ## Events -/

def annotated (index : Nat) (role formula annotation : String) : String :=
  "fof(s" ++ Text.numeral index ++ ", " ++ role ++ ", " ++ formula ++ annotation ++ ").\n"

def inferenceText (rule : Rule) (status : String) : String :=
  ", inference(" ++ rule.name ++ ", [status(" ++ status ++ ")], [])"

def eventText : Event → Printer String
  | .opening goal => return "% SZS output begin Proof for " ++ goal ++ "\n"
  | .premise index justification =>
    return annotated index "axiom" (← formulaText [] justification) ""
  | .step index statement _ => return annotated index "plain" (← formulaText [] statement) ""
  | .inference index rule _ (some derived) =>
    return annotated index "plain" (← formulaText [] derived) (inferenceText rule "thm")
  | .inference index rule _ none =>
    return annotated index "plain" "$true" (inferenceText rule "unk")
  | .conclusion index justification =>
    return annotated index "theorem" (← formulaText [] justification) ""
  | .closing goal => return "% SZS output end Proof for " ++ goal ++ "\n"
  | .statistic key value => return "% " ++ key ++ "\t: " ++ value.display ++ "\n"

def eventTexts : List Event → Printer (List String)
  | [] => return []
  | event :: events => return (← eventText event) :: (← eventTexts events)

def listing (events : List Event) : String := String.join ((eventTexts events).run []).1

end Proofbook.Tstp
