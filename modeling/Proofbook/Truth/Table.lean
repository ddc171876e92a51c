import Proofbook.Truth.Evaluation

namespace Proofbook

namespace Formula

mutual

def propositionNames : Formula → List String
  | proposition name _ => [name]
  | quantified _ _ none body => propositionNames body
  | quantified _ _ (some domain) body => propositionNames domain ++ propositionNames body
  | connective _ none right => propositionNames right
  | connective _ (some left) right => propositionNames left ++ propositionNames right
  | predicate _ args => propositionNamesList args
  | equation left right => propositionNames left ++ propositionNames right
  | inequality _ left right => propositionNames left ++ propositionNames right
  | function _ args => propositionNamesList args
  | inference _ premises => propositionNamesList premises
  | var .. | premise | conclusion | number .. | text .. => []

def propositionNamesList : List Formula → List String
  | [] => []
  | formula :: formulas => propositionNames formula ++ propositionNamesList formulas

end

end Formula

namespace Truth

def insertName (name : String) : List String → List String
  | [] => [name]
  | first :: rest =>
    if name < first then name :: first :: rest
    else if name = first then first :: rest
    else first :: insertName name rest

def sortNames (names : List String) : List String := names.foldr insertName []

/-- All lists of truth values of a length, the first value varying slowest. -/
def valuations : Nat → List (List Bool)
  | 0 => [[]]
  | n + 1 => (valuations n).map (false :: ·) ++ (valuations n).map (true :: ·)

/--
The results of a function on all lists of truth values of a length, in their order. The first
fault ends the work, and no list behind it is formed.
-/
def forValuations {ε α : Type} (f : List Bool → Except ε α) : Nat → Except ε (List α)
  | 0 => return [← f []]
  | n + 1 => do
    let low ← forValuations (fun values => f (false :: values)) n
    let high ← forValuations (fun values => f (true :: values)) n
    return low ++ high

theorem forValuations_eq_mapM {ε α : Type} (f : List Bool → Except ε α) (n : Nat) :
    forValuations f n = (valuations n).mapM f := by
  induction n generalizing f with
  | zero => simp [forValuations, valuations]
  | succ n ih => simp [forValuations, valuations, ih, List.mapM_map, Function.comp_def]

def assign (names : List String) (values : List Bool) : Assignment :=
  fun name => (names.zip values).lookup name

structure Row where
  values : List Bool
  truth : Truth

structure Table where
  propositions : List String
  rows : List Row

/-- More propositions than this are never tabulated, whatever the limit. -/
def greatestTable : Nat := 63

def table (formula : Formula) (limit : Nat) : Except Error Table := do
  let names := sortNames formula.propositionNames
  if limit < names.length ∨ greatestTable < names.length then
    throw (.tableTooLarge names.length limit)
  let rows ← forValuations (fun values => do
    let truth ← formula.evaluate (assign names values)
    return { values, truth : Row }) names.length
  return { propositions := names, rows }

/-! ## Reservation -/

/-- The bytes of a row in a list of rows. -/
def rowSize : Nat := 32

/-- No block of memory has as many bytes. -/
def blockBound : Nat := Nat.pow 2 63

/--
The rows of a table are reserved in one block before the first of them is evaluated. A table that
the limit admits may still have too many rows for a block, and then there is no result.
-/
def overflows (formula : Formula) (limit : Nat) : Bool :=
  let count := (sortNames formula.propositionNames).length
  count ≤ limit && count ≤ greatestTable && blockBound ≤ Nat.pow 2 count * rowSize

/-! ## JSON form -/

def Row.toJson (row : Row) : Json :=
  .object [("assignment", .array (row.values.map .bool)), ("value", .string row.truth.name)]

def Table.toJson (table : Table) : Json :=
  .object [("propositions", .array (table.propositions.map .string)),
    ("rows", .array (table.rows.map Row.toJson))]

end Truth

end Proofbook
