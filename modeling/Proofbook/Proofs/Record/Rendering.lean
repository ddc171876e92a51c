import Proofbook.Proofs.Formula.Subformula
import Proofbook.Proofs.Text.FirstAppearance
import Proofbook.Record.Tstp

/-!
A listing can be made without a numbering that grows while it is printed. The first pass cuts it
into pieces, which are texts of their own and variables by their names; the second puts the numbers
of the variables in. The printer has at any time numbered the names printed so far in the order of
their first appearance (`printAll_run`), so one numbering of the names serves the whole listing.
-/

namespace Proofbook.Tstp

/-! ## Pieces -/

inductive Piece where
  | text (content : String)
  | var (name : String)

def Piece.var? : Piece → Option String
  | text _ => none
  | var name => some name

def printedNames (pieces : List Piece) : List String := pieces.filterMap Piece.var?

def Piece.render (number : String → Nat) : Piece → String
  | text content => content
  | var name => "X" ++ Text.numeral (number name)

def render (number : String → Nat) (pieces : List Piece) : String :=
  String.join (pieces.map (Piece.render number))

mutual

def pieces (scope : List String) : Formula → List Piece
  | .quantified kind name none body =>
    [.text (quantifierSymbol kind ++ "["), .var name, .text "]: "] ++ pieces (name :: scope) body
  | .quantified kind name (some domain) body =>
    [.text (quantifierSymbol kind ++ "["), .var name, .text "]: ("] ++
      pieces (name :: scope) domain ++ [.text (guardSymbol kind)] ++ pieces (name :: scope) body ++
      [.text ")"]
  | .connective .not _ right => .text "~" :: pieces scope right
  | .connective kind none right =>
    .text ("($true" ++ connectiveSymbol kind) :: pieces scope right ++ [.text ")"]
  | .connective kind (some left) right =>
    .text "(" :: pieces scope left ++ [.text (connectiveSymbol kind)] ++ pieces scope right ++
      [.text ")"]
  | .predicate name args => .text (nameText name) :: argumentsPieces scope args
  | .function name args => .text (nameText name) :: argumentsPieces scope args
  | .var name _ => [.var name]
  | .proposition name _ => [if name ∈ scope then .var name else .text (nameText name)]
  | .equation left right => pieces scope left ++ [.text " = "] ++ pieces scope right
  | .inequality kind left right =>
    .text (comparisonName kind ++ "(") :: pieces scope left ++ [.text ","] ++ pieces scope right ++
      [.text ")"]
  | .number value => [.text value.toText]
  | .text value => [.text (Text.quoted value)]
  | .premise | .conclusion | .inference .. => [.text "$true"]

def argumentsPieces (scope : List String) : List Formula → List Piece
  | [] => []
  | first :: rest => .text "(" :: pieces scope first ++ furtherPieces scope rest ++ [.text ")"]

def furtherPieces (scope : List String) : List Formula → List Piece
  | [] => []
  | next :: rest => .text "," :: pieces scope next ++ furtherPieces scope rest

end

section

variable (scope : List String) {kind : Connective} (right : Formula)

theorem pieces_negation (left : Option Formula) :
    pieces scope (.connective .not left right) = .text "~" :: pieces scope right := by
  simp [pieces]

theorem pieces_dangling (binary : kind ≠ .not) :
    pieces scope (.connective kind none right) =
      .text ("($true" ++ connectiveSymbol kind) :: pieces scope right ++ [.text ")"] := by
  cases kind with
  | not => exact absurd rfl binary
  | _ => simp [pieces]

theorem pieces_binary (binary : kind ≠ .not) (left : Formula) :
    pieces scope (.connective kind (some left) right) =
      .text "(" :: pieces scope left ++ [.text (connectiveSymbol kind)] ++ pieces scope right ++
        [.text ")"] := by
  cases kind with
  | not => exact absurd rfl binary
  | _ => simp [pieces]

end

def annotatedPieces (index : Nat) (role : String) (formula : List Piece) (trailer : String) :
    List Piece :=
  .text ("fof(s" ++ Text.numeral index ++ ", " ++ role ++ ", ") :: formula ++
    [.text (trailer ++ ").\n")]

def eventPieces : Event → List Piece
  | .premise index justification => annotatedPieces index "axiom" (pieces [] justification) ""
  | .step index statement _ => annotatedPieces index "plain" (pieces [] statement) ""
  | .inference index rule _ (some derived) =>
    annotatedPieces index "plain" (pieces [] derived) (inferenceText rule "thm")
  | .inference index rule _ none =>
    annotatedPieces index "plain" [.text "$true"] (inferenceText rule "unk")
  | .conclusion index justification => annotatedPieces index "theorem" (pieces [] justification) ""
  | .opening goal => [.text ("% SZS output begin Proof for " ++ goal ++ "\n")]
  | .closing goal => [.text ("% SZS output end Proof for " ++ goal ++ "\n")]
  | .statistic key value => [.text ("% " ++ key ++ "\t: " ++ value.display ++ "\n")]

/-! ## Printing pieces -/

@[simp]
theorem run_pure {α : Type} (a : α) (names : Numbering) : (pure a : Printer α) names = (a, names) :=
  rfl

@[simp]
theorem run_bind {α β : Type} (p : Printer α) (next : α → Printer β) (names : Numbering) :
    (p >>= next) names = next (p names).1 (p names).2 :=
  rfl

@[simp]
theorem run_map {α β : Type} (f : α → β) (p : Printer α) (names : Numbering) :
    (f <$> p) names = (f (p names).1, (p names).2) :=
  rfl

def Piece.print : Piece → Printer String
  | text content => pure content
  | var name => variableText name

def printAll : List Piece → Printer String
  | [] => pure ""
  | piece :: rest => do return (← piece.print) ++ (← printAll rest)

section

variable (ps qs : List Piece) (names : Numbering)

@[simp]
theorem printAll_nil : printAll [] names = ("", names) := rfl

@[simp]
theorem printAll_text (content : String) :
    printAll (.text content :: ps) names =
      (content ++ (printAll ps names).1, (printAll ps names).2) :=
  rfl

@[simp]
theorem printAll_var (name : String) :
    printAll (.var name :: ps) names =
      ((variableText name names).1 ++ (printAll ps (variableText name names).2).1,
        (printAll ps (variableText name names).2).2) :=
  rfl

@[simp]
theorem printAll_append :
    printAll (ps ++ qs) names =
      ((printAll ps names).1 ++ (printAll qs (printAll ps names).2).1,
        (printAll qs (printAll ps names).2).2) := by
  induction ps generalizing names with
  | nil => simp
  | cons piece ps ih => cases piece <;> simp [ih, String.append_assoc]

end

/-! ## The printer prints the pieces -/

section

variable {fs : List Formula}
  (parts : ∀ f ∈ fs, ∀ scope, formulaText scope f = printAll (pieces scope f))
  (scope : List String)

include parts

theorem furtherText_eq : furtherText scope fs = printAll (furtherPieces scope fs) := by
  funext names
  induction fs generalizing names with
  | nil => simp [furtherText, furtherPieces]
  | cons next rest ih =>
      have first := parts next List.mem_cons_self scope
      have others := ih fun f mem => parts f (List.mem_cons_of_mem next mem)
      simp [furtherText, furtherPieces, first, others, String.append_assoc]

theorem argumentsText_eq : argumentsText scope fs = printAll (argumentsPieces scope fs) := by
  funext names
  cases fs with
  | nil => simp [argumentsText, argumentsPieces]
  | cons first rest =>
      have leading := parts first List.mem_cons_self scope
      have others := furtherText_eq (fun f mem => parts f (List.mem_cons_of_mem first mem)) scope
      simp [argumentsText, argumentsPieces, leading, others, String.append_assoc]

end

theorem formulaText_eq (scope : List String) (f : Formula) :
    formulaText scope f = printAll (pieces scope f) := by
  induction f using Formula.inductionOnParts generalizing scope with
  | step f parts =>
      funext names
      cases f with
      | quantified kind name domain body =>
          have inner := parts body (by simp [Formula.children]) (name :: scope)
          cases domain with
          | none => simp [formulaText, pieces, inner, String.append_assoc]
          | some domain =>
              have ranging := parts domain (by simp [Formula.children]) (name :: scope)
              simp [formulaText, pieces, inner, ranging, String.append_assoc]
      | connective kind left right =>
          have second := parts right (by simp [Formula.children]) scope
          cases left with
          | none => cases kind <;> simp [formulaText, pieces, second, String.append_assoc]
          | some left =>
              have first := parts left (by simp [Formula.children]) scope
              cases kind <;> simp [formulaText, pieces, first, second, String.append_assoc]
      | predicate name args | function name args =>
          have arguments : argumentsText scope args = printAll (argumentsPieces scope args) :=
            argumentsText_eq parts scope
          simp [formulaText, pieces, arguments]
      | proposition name truth =>
          by_cases bound : name ∈ scope <;> simp [formulaText, pieces, bound]
      | equation left right | inequality kind left right =>
          have first := parts left (by simp [Formula.children]) scope
          have second := parts right (by simp [Formula.children]) scope
          simp [formulaText, pieces, first, second, String.append_assoc]
      | _ => simp [formulaText, pieces]

theorem printAll_annotated (index : Nat) (role trailer : String) (ps : List Piece)
    (names : Numbering) :
    printAll (annotatedPieces index role ps trailer) names =
      (annotated index role (printAll ps names).1 trailer, (printAll ps names).2) := by
  simp [annotatedPieces, annotated, String.append_assoc]

theorem eventText_eq (event : Event) : eventText event = printAll (eventPieces event) := by
  funext names
  cases event with
  | inference index rule premises derived =>
      cases derived <;> simp [eventText, eventPieces, printAll_annotated, formulaText_eq]
  | _ => simp [eventText, eventPieces, printAll_annotated, formulaText_eq]

theorem eventTexts_eq (events : List Event) (names : Numbering) :
    (String.join (eventTexts events names).1, (eventTexts events names).2) =
      printAll (events.flatMap eventPieces) names := by
  induction events generalizing names with
  | nil => simp [eventTexts]
  | cons event events ih =>
      simp [eventTexts, eventText_eq, ← ih]

theorem listing_eq (events : List Event) :
    listing events = (printAll (events.flatMap eventPieces) []).1 :=
  congrArg Prod.fst (eventTexts_eq events [])

/-! ## The numbering -/

@[simp]
theorem printedNames_nil : printedNames [] = [] := rfl

@[simp]
theorem printedNames_text (content : String) (ps : List Piece) :
    printedNames (.text content :: ps) = printedNames ps := rfl

@[simp]
theorem printedNames_var (name : String) (ps : List Piece) :
    printedNames (.var name :: ps) = name :: printedNames ps := rfl

@[simp]
theorem render_nil (number : String → Nat) : render number [] = "" := rfl

@[simp]
theorem render_cons (number : String → Nat) (piece : Piece) (ps : List Piece) :
    render number (piece :: ps) = piece.render number ++ render number ps := String.join_cons

theorem add_eraseDups (seen : List String) (name : String) :
    Numbering.add seen.eraseDups name = (seen ++ [name]).eraseDups := by
  rw [eraseDups_snoc, Numbering.add]
  simp only [List.mem_eraseDups]

/-- The variables of the pieces are printed under the numbers that they have when all pieces are. -/
theorem printAll_run (ps : List Piece) (seen : List String) :
    printAll ps seen.eraseDups =
      (render (seen ++ printedNames ps).eraseDups.idxOf ps,
        (seen ++ printedNames ps).eraseDups) := by
  induction ps generalizing seen with
  | nil => simp
  | cons piece ps ih =>
      cases piece with
      | text content => simp [ih seen, Piece.render]
      | var name =>
          have number : (seen ++ [name] ++ printedNames ps).eraseDups.idxOf name =
              seen.eraseDups.idxOf name := by
            rw [idxOf_eraseDups_append (by simp), idxOf_eraseDups_snoc]
          have rest := ih (seen ++ [name])
          rw [List.append_assoc, List.singleton_append] at number rest
          simp [variableText, add_eraseDups, rest, number, Piece.render]

theorem printAll_fresh (ps : List Piece) :
    (printAll ps []).1 = render (printedNames ps).eraseDups.idxOf ps :=
  congrArg Prod.fst (printAll_run ps [])

theorem numbering_is_consistent (events : List Event) :
    let ps := events.flatMap eventPieces
    ∃ (number : String → Nat) (count : Nat),
      Set.BijOn number {name | name ∈ printedNames ps} (Set.Iio count) ∧
      (∀ x ∈ printedNames ps, ∀ y ∈ printedNames ps,
        number x < number y ↔ (printedNames ps).idxOf x < (printedNames ps).idxOf y) ∧
      listing events = render number ps := by
  intro ps
  refine ⟨(printedNames ps).eraseDups.idxOf, _, bijOn_idxOf_eraseDups _, ?_, ?_⟩
  · intro x hx y hy
    exact idxOf_eraseDups_lt hx hy
  · rw [listing_eq, printAll_fresh]

end Proofbook.Tstp
