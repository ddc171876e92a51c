import Proofbook.Proofs.Record.LineBreaks

namespace Proofbook.Tstp

open Text

/-! ## Rows -/

def openingRow (goal : String) : String :=
  String.join ["% SZS output begin Proof for ", goal, "\n"]

def closingRow (goal : String) : String := String.join ["% SZS output end Proof for ", goal, "\n"]

def stepRow (i : ℕ) (formula : Formula) (content : String) : String :=
  "fof(s" ++ numeral i ++ ", " ++ role formula ++ ", " ++ content ++ ").\n"

structure Rows (goal : String) (formulas : List Formula) (rows : List String) : Prop where
  length : rows.length = formulas.length + 2
  opening : rows.head? = some (openingRow goal)
  step : ∀ i formula, formulas[i]? = some formula →
    ∃ content, rows[i + 1]? = some (stepRow i formula content)
  closing : rows.getLast? = some (closingRow goal)

def IsLine (row : String) : Prop := ∃ content, row = content ++ "\n" ∧ '\n' ∉ content.toList

/-- The text consists of the rows, and each of them is a line of its own. -/
def Framed (goal : String) (formulas : List Formula) (text : String) : Prop :=
  ∃ rows, Rows goal formulas rows ∧ text = String.join rows ∧ ∀ row ∈ rows, IsLine row

theorem IsLine.lineFeeds {row : String} (isLine : IsLine row) : lineFeeds row = 1 := by
  obtain ⟨content, rfl, none⟩ := isLine
  have mark : Text.lineFeeds "\n" = 1 := by decide
  rw [lineFeeds_append, mark, lineFeeds_eq_zero.mpr none]

theorem isLine_of_lineFeeds {row : String} (content : String) (ends : row = content ++ "\n")
    (one : lineFeeds row = 1) : IsLine row := by
  have mark : lineFeeds "\n" = 1 := by decide
  rw [ends, lineFeeds_append, mark] at one
  exact ⟨content, ends, lineFeeds_eq_zero.mp (by omega)⟩

theorem lineFeeds_of_lines {rows : List String} (lines : ∀ row ∈ rows, IsLine row) :
    lineFeeds (String.join rows) = rows.length := by
  induction rows with
  | nil => rfl
  | cons row rows ih =>
      rw [List.forall_mem_cons] at lines
      rw [lineFeeds_join_cons, lines.1.lineFeeds, ih lines.2, List.length_cons, Nat.add_comm]

/-! ## The rows of a listing -/

def rows (number : String → ℕ) (goal : String) (steps : List Step) : List String :=
  openingRow goal :: steps.mapIdx (fun i step => stepRow i step.formula (content number step)) ++
    [closingRow goal]

theorem render_flatMap (number : String → ℕ) (events : List Event) :
    render number (events.flatMap eventPieces) =
      String.join (events.map fun event => render number (eventPieces event)) := by
  induction events with
  | nil => rfl
  | cons event events ih =>
      rw [List.flatMap_cons, render_append, ih, List.map_cons, String.join_cons]

theorem render_eventPieces (number : String → ℕ) (i : ℕ) (step : Step) :
    render number (eventPieces (step.event i)) =
      stepRow i step.formula (content number step) := by
  simp [eventPieces_event, annotatedPieces, stepRow, content, render_append, Piece.render,
    String.append_assoc]

theorem render_events (number : String → ℕ) (goal : String) (steps : List Step) :
    (Event.opening goal :: steps.mapIdx Step.event ++ [Event.closing goal]).map
        (fun event => render number (eventPieces event)) = rows number goal steps := by
  have opening : render number (eventPieces (.opening goal)) = openingRow goal := by
    simp [eventPieces, Piece.render, openingRow, String.append_assoc]
  have closing : render number (eventPieces (.closing goal)) = closingRow goal := by
    simp [eventPieces, Piece.render, closingRow, String.append_assoc]
  have middle : (steps.mapIdx Step.event).map (fun event => render number (eventPieces event)) =
      steps.mapIdx fun i step => stepRow i step.formula (content number step) := by
    apply List.ext_getElem?
    intro i
    rw [List.getElem?_map, List.getElem?_mapIdx, List.getElem?_mapIdx, Option.map_map]
    exact congrArg (Option.map · steps[i]?) (funext (render_eventPieces number i))
  rw [List.map_append, List.map_cons, List.map_singleton, opening, closing, middle, rows]

theorem listing_eq_join (goal : String) (steps : List Step) :
    ∃ number, listing (.opening goal :: steps.mapIdx Step.event ++ [.closing goal]) =
      String.join (rows number goal steps) := by
  rw [listing_eq, printAll_fresh, render_flatMap, render_events]
  exact ⟨_, rfl⟩

section

variable (number : String → ℕ) (goal : String) (steps : List Step)

theorem rows_rows : Rows goal (steps.map Step.formula) (rows number goal steps) where
  length := by simp [rows]
  opening := rfl
  step := by
    intro i formula here
    obtain ⟨step, found, rfl⟩ := Option.map_eq_some_iff.mp (List.getElem?_map ▸ here)
    refine ⟨content number step, ?_⟩
    have inside : i < steps.length := (List.getElem?_eq_some_iff.mp found).1
    have within :
        i < (steps.mapIdx fun i step => stepRow i step.formula (content number step)).length := by
      rwa [List.length_mapIdx]
    rw [rows, List.cons_append, List.getElem?_cons_succ, List.getElem?_append_left within,
      List.getElem?_mapIdx, found]
    rfl
  closing := by rw [rows, List.getLast?_concat]

theorem lineFeeds_stepRow (i : ℕ) (formula : Formula) (content : String) :
    lineFeeds (stepRow i formula content) = 1 + lineFeeds content := by
  have marks : lineFeeds "fof(s" = 0 ∧ lineFeeds ", " = 0 ∧ lineFeeds ").\n" = 1 := by
    decide +kernel
  simp [stepRow, marks, lineFeeds_role, Nat.add_comm]

theorem lineFeeds_openingRow : lineFeeds (openingRow goal) = 1 + lineFeeds goal := by
  have marks : lineFeeds "% SZS output begin Proof for " = 0 ∧ lineFeeds "\n" = 1 := by
    decide +kernel
  simp [openingRow, marks, Nat.add_comm]

theorem lineFeeds_closingRow : lineFeeds (closingRow goal) = 1 + lineFeeds goal := by
  have marks : lineFeeds "% SZS output end Proof for " = 0 ∧ lineFeeds "\n" = 1 := by
    decide +kernel
  simp [closingRow, marks, Nat.add_comm]

theorem lineFeeds_rows :
    lineFeeds (String.join (rows number goal steps)) =
      steps.length + 2 + 2 * lineFeeds goal +
        lineFeeds (String.join (steps.flatMap Step.spelled)) := by
  have inner (text : ℕ → Step → String)
      (each : ∀ i step, lineFeeds (text i step) = 1 + lineFeeds (String.join step.spelled)) :
      lineFeeds (String.join (steps.mapIdx text)) =
        steps.length + lineFeeds (String.join (steps.flatMap Step.spelled)) := by
    induction steps generalizing text with
    | nil => rfl
    | cons step steps ih =>
        have rest := ih (fun i => text (i + 1)) fun i => each (i + 1)
        simp only [List.mapIdx_cons, lineFeeds_join_cons, List.flatMap_cons, lineFeeds_join_append,
          List.length_cons, each, rest]
        omega
  have middle := inner (fun i step => stepRow i step.formula (content number step)) fun i step => by
    rw [lineFeeds_stepRow, lineFeeds_content]
  simp only [rows, List.cons_append, lineFeeds_join_cons, lineFeeds_join_append, middle,
    lineFeeds_openingRow, lineFeeds_closingRow, String.join_nil, lineFeeds_marks]
  omega

theorem framed_iff :
    Framed goal (steps.map Step.formula) (String.join (rows number goal steps)) ↔
      '\n' ∉ goal.toList ∧ ∀ step ∈ steps, ∀ name ∈ step.spelled, '\n' ∉ name.toList := by
  have spelled : (∀ step ∈ steps, ∀ name ∈ step.spelled, '\n' ∉ name.toList) ↔
      lineFeeds (String.join (steps.flatMap Step.spelled)) = 0 := by
    rw [lineFeeds_join_eq_zero]
    simp only [List.mem_flatMap, forall_exists_index, and_imp]
    exact ⟨fun all name step mem => all step mem name, fun all step mem name => all name step mem⟩
  rw [spelled, ← lineFeeds_eq_zero]
  constructor
  · rintro ⟨lines, frame, text, each⟩
    have total := lineFeeds_rows number goal steps
    have count := frame.length
    rw [text, lineFeeds_of_lines each] at total
    rw [List.length_map] at count
    omega
  · rintro ⟨noFeed, none⟩
    refine ⟨rows number goal steps, rows_rows number goal steps, rfl, ?_⟩
    intro row mem
    simp only [rows, List.mem_append, List.mem_cons, List.mem_mapIdx, List.not_mem_nil, or_false]
      at mem
    rcases mem with (rfl | ⟨i, inside, rfl⟩) | rfl
    · apply isLine_of_lineFeeds ("% SZS output begin Proof for " ++ goal)
      · simp [openingRow, String.append_assoc]
      · rw [lineFeeds_openingRow, noFeed]
    · have quiet : lineFeeds (content number steps[i]) = 0 := by
        rw [lineFeeds_content, lineFeeds_join_eq_zero]
        exact spelled.mpr none steps[i] (List.getElem_mem inside)
      apply isLine_of_lineFeeds ("fof(s" ++ numeral i ++ ", " ++ role steps[i].formula ++ ", " ++
        content number steps[i] ++ ").")
      · have stop : ").\n" = ")." ++ "\n" := by decide
        rw [stepRow, stop, ← String.append_assoc]
      · rw [lineFeeds_stepRow, quiet]
    · apply isLine_of_lineFeeds ("% SZS output end Proof for " ++ goal)
      · simp [closingRow, String.append_assoc]
      · rw [lineFeeds_closingRow, noFeed]

end

end Proofbook.Tstp
