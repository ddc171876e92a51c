import Proofbook.Proof.Basic
import Proofbook.Proofs.Binary64.Text
import Proofbook.Proofs.Record.Rendering
import Proofbook.Proofs.Text.Quoted

namespace Proofbook

/-! ## Texts -/

namespace Text

def lineFeeds (s : String) : ℕ := s.toList.count '\n'

@[simp]
theorem lineFeeds_append (s t : String) : lineFeeds (s ++ t) = lineFeeds s + lineFeeds t := by
  simp [lineFeeds]

theorem lineFeeds_eq_zero {s : String} : lineFeeds s = 0 ↔ '\n' ∉ s.toList := List.count_eq_zero

@[simp]
theorem lineFeeds_numeral (n : ℕ) : lineFeeds (numeral n) = 0 := by
  apply lineFeeds_eq_zero.mpr
  intro mem
  exact absurd (isDigit_of_mem_numeral mem) (by decide)

@[simp]
theorem lineFeeds_quoted (s : String) : lineFeeds (quoted s) = 0 :=
  lineFeeds_eq_zero.mpr (noLineFeed_quoted s)

@[simp]
theorem lineFeeds_toText (x : Binary64) : lineFeeds x.toText = 0 := by
  apply lineFeeds_eq_zero.mpr
  intro mem
  exact absurd (x.isWord_toText.chars '\n' mem) (by decide)

@[simp]
theorem lineFeeds_join_cons (s : String) (rest : List String) :
    lineFeeds (String.join (s :: rest)) = lineFeeds s + lineFeeds (String.join rest) := by
  rw [String.join_cons, lineFeeds_append]

@[simp]
theorem lineFeeds_join_append (front rest : List String) :
    lineFeeds (String.join (front ++ rest)) =
      lineFeeds (String.join front) + lineFeeds (String.join rest) := by
  rw [String.join_append, lineFeeds_append]

theorem lineFeeds_join_eq_zero {parts : List String} :
    lineFeeds (String.join parts) = 0 ↔ ∀ s ∈ parts, '\n' ∉ s.toList := by
  induction parts with
  | nil => simp [lineFeeds]
  | cons s rest ih => simp [ih, lineFeeds_eq_zero]

end Text

namespace Tstp

open Text

/-! ## Formulas -/

@[simp]
theorem lineFeeds_nameText (name : String) : lineFeeds (nameText name) = lineFeeds name := by
  have escaped (chars : List Char) : (chars.flatMap quoteChar).count '\n' = chars.count '\n' := by
    induction chars with
    | nil => rfl
    | cons c chars ih =>
        have one : (quoteChar c).count '\n' = [c].count '\n' := by
          unfold quoteChar
          split <;> simp
        rw [List.flatMap_cons, List.count_append, one, ih, ← List.count_append,
          List.singleton_append]
  unfold lineFeeds nameText nameChars
  rw [String.toList_ofList]
  split
  · rfl
  · simp [escaped]

mutual

/-- The names in the formula that are printed as themselves, inside quantifiers over the scope. -/
def spelled (scope : List String) : Formula → List String
  | .quantified _ name none body => spelled (name :: scope) body
  | .quantified _ name (some domain) body =>
    spelled (name :: scope) domain ++ spelled (name :: scope) body
  | .connective .not _ right => spelled scope right
  | .connective _ none right => spelled scope right
  | .connective _ (some left) right => spelled scope left ++ spelled scope right
  | .predicate name args => name :: spelledList scope args
  | .function name args => name :: spelledList scope args
  | .proposition name _ => if name ∈ scope then [] else [name]
  | .equation left right => spelled scope left ++ spelled scope right
  | .inequality _ left right => spelled scope left ++ spelled scope right
  | .var .. | .number _ | .text _ | .premise | .conclusion | .inference .. => []

def spelledList (scope : List String) : List Formula → List String
  | [] => []
  | f :: fs => spelled scope f ++ spelledList scope fs

end

@[simp]
theorem lineFeeds_symbols :
    (∀ kind, lineFeeds (quantifierSymbol kind) = 0) ∧ (∀ kind, lineFeeds (guardSymbol kind) = 0) ∧
      (∀ kind, lineFeeds (connectiveSymbol kind) = 0) ∧
      ∀ kind, lineFeeds (comparisonName kind) = 0 := by
  refine ⟨?_, ?_, ?_, ?_⟩ <;> intro kind <;> cases kind <;> decide

@[simp]
theorem lineFeeds_marks :
    lineFeeds "[" = 0 ∧ lineFeeds "]: " = 0 ∧ lineFeeds "]: (" = 0 ∧ lineFeeds "(" = 0 ∧
      lineFeeds "," = 0 ∧ lineFeeds ")" = 0 ∧ lineFeeds "~" = 0 ∧ lineFeeds " = " = 0 ∧
      lineFeeds "($true" = 0 ∧ lineFeeds "$true" = 0 ∧ lineFeeds "X" = 0 ∧ lineFeeds "" = 0 := by
  decide

theorem render_append (number : String → ℕ) (ps qs : List Piece) :
    render number (ps ++ qs) = render number ps ++ render number qs := by
  simp [render]

section

variable (number : String → ℕ)

theorem lineFeeds_further {fs : List Formula}
    (parts : ∀ f ∈ fs, ∀ scope, lineFeeds (render number (pieces scope f)) =
      lineFeeds (String.join (spelled scope f))) (scope : List String) :
    lineFeeds (render number (furtherPieces scope fs)) =
      lineFeeds (String.join (spelledList scope fs)) := by
  induction fs with
  | nil => rfl
  | cons f fs ih =>
      rw [List.forall_mem_cons] at parts
      simp [furtherPieces, spelledList, render_append, Piece.render, parts.1, ih parts.2]

theorem lineFeeds_arguments {fs : List Formula}
    (parts : ∀ f ∈ fs, ∀ scope, lineFeeds (render number (pieces scope f)) =
      lineFeeds (String.join (spelled scope f))) (scope : List String) :
    lineFeeds (render number (argumentsPieces scope fs)) =
      lineFeeds (String.join (spelledList scope fs)) := by
  cases fs with
  | nil => rfl
  | cons f fs =>
      rw [List.forall_mem_cons] at parts
      simp [argumentsPieces, spelledList, render_append, Piece.render, parts.1,
        lineFeeds_further number parts.2]

theorem lineFeeds_render (scope : List String) (f : Formula) :
    lineFeeds (render number (pieces scope f)) = lineFeeds (String.join (spelled scope f)) := by
  induction f using Formula.inductionOnParts generalizing scope with
  | step f parts =>
      cases f with
      | quantified kind name domain body =>
          have inner := parts body (by simp [Formula.children]) (name :: scope)
          cases domain with
          | none => simp [pieces, spelled, Piece.render, inner]
          | some domain =>
              have ranging := parts domain (by simp [Formula.children]) (name :: scope)
              simp [pieces, spelled, render_append, Piece.render, inner, ranging]
      | connective kind left right =>
          have second := parts right (by simp [Formula.children]) scope
          cases left with
          | none => cases kind <;> simp [pieces, spelled, render_append, Piece.render, second]
          | some left =>
              have first := parts left (by simp [Formula.children]) scope
              cases kind <;> simp [pieces, spelled, render_append, Piece.render, first, second]
      | predicate name args | function name args =>
          have arguments := lineFeeds_arguments number parts scope
          simp only [Formula.children] at arguments
          simp [pieces, spelled, Piece.render, arguments]
      | proposition name truth =>
          by_cases bound : name ∈ scope <;> simp [pieces, spelled, Piece.render, bound]
      | equation left right | inequality kind left right =>
          have first := parts left (by simp [Formula.children]) scope
          have second := parts right (by simp [Formula.children]) scope
          simp [pieces, spelled, render_append, Piece.render, first, second]
      | _ => simp [pieces, spelled, Piece.render]

end

/-! ## Steps -/

def role : Formula → String
  | .premise => "axiom"
  | .conclusion => "theorem"
  | _ => "plain"

end Tstp

namespace Step

open Formula in
/-- The formula that is printed for a step. What follows from no premises is printed as a marker. -/
def printed (step : Step) : Formula :=
  match step.formula with
  | .premise | .conclusion => step.justification
  | .inference rule premises => (derive rule premises).getD step.formula
  | statement => statement

open Formula in
def trailer (step : Step) : String :=
  match step.formula with
  | .inference rule premises =>
    Tstp.inferenceText rule (if (derive rule premises).isSome then "thm" else "unk")
  | _ => ""

def spelled (step : Step) : List String := Tstp.spelled [] step.printed

end Step

namespace Tstp

open Text

theorem eventPieces_event (i : ℕ) (step : Step) :
    eventPieces (step.event i) =
      annotatedPieces i (role step.formula) (pieces [] step.printed) step.trailer := by
  obtain ⟨formula, justification⟩ := step
  cases formula with
  | inference rule premises =>
      cases derived : Formula.derive rule premises <;>
        simp [Step.event, Step.printed, Step.trailer, eventPieces, role, derived, pieces]
  | _ => rfl

theorem lineFeeds_role (formula : Formula) : lineFeeds (role formula) = 0 := by
  unfold role
  split <;> decide

theorem lineFeeds_trailer (step : Step) : lineFeeds step.trailer = 0 := by
  have marks : lineFeeds ", inference(" = 0 ∧ lineFeeds ", [status(" = 0 ∧
      lineFeeds ")], [])" = 0 := by decide
  have named (rule : Rule) : lineFeeds rule.name = 0 := by cases rule <;> decide
  have inner (rule : Rule) (status : String) :
      lineFeeds (inferenceText rule status) = lineFeeds status := by
    change lineFeeds (", inference(" ++ rule.name ++ ", [status(" ++ status ++ ")], [])") = _
    simp [marks, named]
  unfold Step.trailer
  split
  · rw [inner]
    split <;> decide
  · decide

def content (number : String → ℕ) (step : Step) : String :=
  render number (pieces [] step.printed) ++ step.trailer

theorem lineFeeds_content (number : String → ℕ) (step : Step) :
    lineFeeds (content number step) = lineFeeds (String.join step.spelled) := by
  rw [content, lineFeeds_append, lineFeeds_trailer, lineFeeds_render]
  rfl

end Tstp

end Proofbook
