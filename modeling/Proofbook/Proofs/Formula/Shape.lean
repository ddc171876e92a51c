import Proofbook.Formula.Display
import Proofbook.Proofs.Binary64.Text
import Proofbook.Proofs.Formula.Subformula

namespace Proofbook.Formula

/-! ## What is left out -/

mutual

/--
The formula without truth values, bound flags, left operands of negations and payloads of NaNs.
Variables, propositions and predicates without arguments become propositions, and predicates with
arguments become functions.
-/
def bare : Formula → Formula
  | quantified kind name domain body => quantified kind name (bareOption domain) (bare body)
  | connective .not _ right => negation (bare right)
  | connective kind left right => connective kind (bareOption left) (bare right)
  | predicate name [] => atom name
  | predicate name (arg :: args) => function name (bareList (arg :: args))
  | var name _ => atom name
  | proposition name _ => atom name
  | equation left right => equation (bare left) (bare right)
  | inequality kind left right => inequality kind (bare left) (bare right)
  | function name args => function name (bareList args)
  | premise => premise
  | conclusion => conclusion
  | inference rule premises => inference rule (bareList premises)
  | number value => number value.withoutPayload
  | text value => text value

def bareOption : Option Formula → Option Formula
  | none => none
  | some formula => some (bare formula)

def bareList : List Formula → List Formula
  | [] => []
  | formula :: formulas => bare formula :: bareList formulas

end

/-! ## Shapes -/

inductive Operator where
  | connective (kind : Connective)
  | equality
  | comparison (kind : Comparison)

namespace Operator

def symbol : Operator → Char
  | connective .and => '∧'
  | connective .or => '∨'
  | connective .implies => '→'
  | connective .iff => '↔'
  | connective .not => '¬'
  | equality => '='
  | comparison .less => '<'
  | comparison .atMost => '≤'
  | comparison .greater => '>'
  | comparison .atLeast => '≥'

def ofSymbol? : Char → Option Operator
  | '∧' => some (connective .and)
  | '∨' => some (connective .or)
  | '→' => some (connective .implies)
  | '↔' => some (connective .iff)
  | '¬' => some (connective .not)
  | '=' => some equality
  | '<' => some (comparison .less)
  | '≤' => some (comparison .atMost)
  | '>' => some (comparison .greater)
  | '≥' => some (comparison .atLeast)
  | _ => none

theorem ofSymbol?_symbol (operator : Operator) : ofSymbol? operator.symbol = some operator := by
  cases operator with
  | connective kind => cases kind <;> rfl
  | equality => rfl
  | comparison kind => cases kind <;> rfl

theorem symbol_injective {a b : Operator} (same : a.symbol = b.symbol) : a = b := by
  have read := ofSymbol?_symbol a
  rw [same, ofSymbol?_symbol] at read
  exact (Option.some.inj read).symm

def apply (left right : Formula) : Operator → Formula
  | connective kind => Formula.connective kind (some left) right
  | equality => equation left right
  | comparison kind => inequality kind left right

end Operator

inductive Token where
  | named (name : String)
  | number (value : Binary64)

namespace Token

def text : Token → String
  | named name => name
  | number value => value.toText

def bare : Token → Formula
  | named name => atom name
  | number value => Formula.number value.withoutPayload

end Token

inductive Marker where
  | premise
  | conclusion
  | inference (rule : Rule)

namespace Marker

def name : Marker → String
  | premise => "premise"
  | conclusion => "conclusion"
  | inference rule => rule.name

def ofName? : String → Option Marker
  | "premise" => some premise
  | "conclusion" => some conclusion
  | other => (Rule.ofName? other).map inference

theorem ofName?_name (marker : Marker) : ofName? marker.name = some marker := by
  cases marker with
  | premise => rfl
  | conclusion => rfl
  | inference rule => cases rule <;> rfl

theorem name_injective {a b : Marker} (same : a.name = b.name) : a = b := by
  have read := ofName?_name a
  rw [same, ofName?_name] at read
  exact (Option.some.inj read).symm

def apply (premises : List Formula) : Marker → Formula
  | premise => Formula.premise
  | conclusion => Formula.conclusion
  | inference rule => Formula.inference rule premises

end Marker

inductive Shape where
  | quantified (kind : Quantifier) (name : String) (domain : Option Formula) (body : Formula)
  | negation (operand : Formula)
  | infixed (operator : Operator) (left right : Formula)
  | dangling (kind : Connective) (right : Formula) (binary : kind ≠ .not)
  | word (token : Token)
  | application (name : String) (args : List Formula)
  | marker (kind : Marker) (premises : List Formula)
  | quoted (value : String)

def shape : Formula → Shape
  | quantified kind name domain body => .quantified kind name domain body
  | connective .not _ right => .negation right
  | connective kind (some left) right => .infixed (.connective kind) left right
  | connective .and none right => .dangling .and right nofun
  | connective .or none right => .dangling .or right nofun
  | connective .implies none right => .dangling .implies right nofun
  | connective .iff none right => .dangling .iff right nofun
  | predicate name [] => .word (.named name)
  | predicate name (arg :: args) => .application name (arg :: args)
  | var name _ => .word (.named name)
  | proposition name _ => .word (.named name)
  | equation left right => .infixed .equality left right
  | inequality kind left right => .infixed (.comparison kind) left right
  | function name args => .application name args
  | premise => .marker .premise []
  | conclusion => .marker .conclusion []
  | inference rule premises => .marker (.inference rule) premises
  | number value => .word (.number value)
  | text value => .quoted value

namespace Shape

def parts : Shape → List Formula
  | quantified _ _ domain body => domain.toList ++ [body]
  | negation operand => [operand]
  | infixed _ left right => [left, right]
  | dangling _ right _ => [right]
  | word _ => []
  | application _ args => args
  | marker _ premises => premises
  | quoted _ => []

def bare : Shape → Formula
  | quantified kind name domain body =>
    Formula.quantified kind name (bareOption domain) (Formula.bare body)
  | negation operand => Formula.negation (Formula.bare operand)
  | infixed operator left right => operator.apply (Formula.bare left) (Formula.bare right)
  | dangling kind right _ => Formula.connective kind none (Formula.bare right)
  | word token => token.bare
  | application name args => function name (bareList args)
  | marker kind premises => kind.apply (bareList premises)
  | quoted value => Formula.text value

def domainText : Option Formula → List Char
  | none => []
  | some domain => [' ', '∈', ' '] ++ domain.display.toList

def premisesText : List Formula → List Char
  | [] => []
  | first :: rest => '(' :: (displayList (first :: rest)).toList ++ [')']

def text : Shape → List Char
  | quantified kind name domain body =>
    kind.symbol.toList ++ name.toList ++ domainText domain ++ ['.', ' '] ++ body.display.toList
  | negation operand => '¬' :: operand.display.toList
  | infixed operator left right =>
    '(' :: left.display.toList ++ [' ', operator.symbol, ' '] ++ right.display.toList ++ [')']
  | dangling kind right _ =>
    '(' :: (Operator.connective kind).symbol :: [' ', '?', ' '] ++ right.display.toList ++ [')']
  | word token => token.text.toList
  | application name args => name.toList ++ '(' :: (displayList args).toList ++ [')']
  | marker kind premises => '[' :: kind.name.toList ++ premisesText premises ++ [']']
  | quoted value => (Text.quoted value).toList

end Shape

theorem bare_eq (f : Formula) : f.bare = f.shape.bare := by
  cases f with
  | connective kind left right =>
      cases left <;> cases kind <;> rfl
  | predicate name args => cases args <;> rfl
  | _ => rfl

theorem toList_display (f : Formula) : f.display.toList = f.shape.text := by
  cases f with
  | quantified kind name domain body =>
      cases domain <;> simp [display, shape, Shape.text, Shape.domainText]
  | connective kind left right =>
      cases left <;> cases kind <;>
        simp [display, shape, Shape.text, Connective.symbol, Operator.symbol]
  | predicate name args =>
      cases args <;> simp [display, shape, Shape.text, Token.text]
  | equation left right => simp [display, shape, Shape.text, Operator.symbol]
  | inequality kind left right =>
      cases kind <;> simp [display, shape, Shape.text, Comparison.symbol, Operator.symbol]
  | inference rule premises =>
      cases premises <;> simp [display, shape, Shape.text, Shape.premisesText, Marker.name]
  | _ => simp [display, shape, Shape.text, Shape.premisesText, Token.text, Marker.name]

theorem parts_subset (f : Formula) : f.shape.parts ⊆ f.children := by
  cases f with
  | connective kind left right =>
      cases left <;> cases kind <;> simp [shape, Shape.parts, children]
  | predicate name args => cases args <;> simp [shape, Shape.parts, children]
  | _ => simp [shape, Shape.parts, children]

end Proofbook.Formula
