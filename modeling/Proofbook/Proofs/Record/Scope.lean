import Proofbook.Proofs.Formula.Path
import Proofbook.Proofs.Record.Name
import Proofbook.Proofs.Record.Rendering

namespace Proofbook.Tstp

open Formula (IsPart)

/-! ## Places that are printed -/

def visitsPart : Formula → Nat → Bool
  | .connective kind (some _) _, 0 => kind ≠ .not
  | .inference .., _ => false
  | _, _ => true

def visits : Formula → List Nat → Bool
  | _, [] => true
  | f, i :: path => visitsPart f i && f.children[i]?.any (visits · path)

def entered (f : Formula) (i : Nat) : List String :=
  ((f.binder? i).map Formula.Binder.name).toList

/-- The names of the quantifiers that the path enters, the innermost first. -/
def stack (f : Formula) (path : List Nat) : List String :=
  ((f.binders path).map Formula.Binder.name).reverse

/-- Whatever stands at the end of the path is printed under the stack, between two texts that do not
depend on it. -/
def Reaches (f : Formula) (path : List Nat) (stack : List String) : Prop :=
  ∃ before after : Printer String, ∀ new,
    formulaText [] (f.put path new) = do
      return (← before) ++ (← formulaText stack new) ++ (← after)

variable {f g part : Formula} {i : Nat} {path : List Nat} (scope : List String)

theorem furtherPieces_set {fs : List Formula} (there : i < fs.length) :
    ∃ before after, ∀ new,
      furtherPieces scope (fs.set i new) = before ++ pieces scope new ++ after := by
  induction fs generalizing i with
  | nil => cases there
  | cons next rest ih =>
      cases i with
      | zero => exact ⟨[.text ","], furtherPieces scope rest, fun new => by simp [furtherPieces]⟩
      | succ i =>
          obtain ⟨before, after, printed⟩ := ih (Nat.lt_of_succ_lt_succ there)
          refine ⟨.text "," :: pieces scope next ++ before, after, fun new => ?_⟩
          simp [furtherPieces, printed]

theorem argumentsPieces_set {fs : List Formula} (there : i < fs.length) :
    ∃ before after, ∀ new,
      argumentsPieces scope (fs.set i new) = before ++ pieces scope new ++ after := by
  cases fs with
  | nil => cases there
  | cons first rest =>
      cases i with
      | zero =>
          refine ⟨[.text "("], furtherPieces scope rest ++ [.text ")"], fun new => ?_⟩
          simp [argumentsPieces]
      | succ i =>
          obtain ⟨before, after, printed⟩ := furtherPieces_set scope (Nat.lt_of_succ_lt_succ there)
          refine ⟨.text "(" :: pieces scope first ++ before, after ++ [.text ")"], fun new => ?_⟩
          simp [argumentsPieces, printed]

theorem pieces_setPart (isPart : IsPart f i part) (visited : visitsPart f i = true) :
    ∃ before after, ∀ new,
      pieces scope (f.setPart i new) =
        before ++ pieces (entered f i ++ scope) new ++ after := by
  cases isPart with
  | @domain kind name domain body =>
      refine ⟨[.text (quantifierSymbol kind ++ "["), .var name, .text "]: ("],
        .text (guardSymbol kind) :: pieces (name :: scope) body ++ [.text ")"], fun new => ?_⟩
      simp [Formula.setPart, entered, Formula.binder?, pieces]
  | @body kind name domain body =>
      refine ⟨[.text (quantifierSymbol kind ++ "["), .var name, .text "]: ("] ++
        pieces (name :: scope) domain ++ [.text (guardSymbol kind)], [.text ")"], fun new => ?_⟩
      simp [Formula.setPart, entered, Formula.binder?, pieces]
  | @onlyBody kind name body =>
      refine ⟨[.text (quantifierSymbol kind ++ "["), .var name, .text "]: "], [], fun new => ?_⟩
      simp [Formula.setPart, entered, Formula.binder?, pieces]
  | @leftOperand kind left right =>
      have binary : kind ≠ .not := of_decide_eq_true visited
      refine ⟨[.text "("], .text (connectiveSymbol kind) :: pieces scope right ++ [.text ")"],
        fun new => ?_⟩
      simp [Formula.setPart, entered, Formula.binder?, pieces_binary _ _ binary]
  | @rightOperand kind left right =>
      by_cases negates : kind = .not
      · subst negates
        refine ⟨[.text "~"], [], fun new => ?_⟩
        simp [Formula.setPart, entered, Formula.binder?, pieces_negation]
      · refine ⟨.text "(" :: pieces scope left ++ [.text (connectiveSymbol kind)], [.text ")"],
          fun new => ?_⟩
        simp [Formula.setPart, entered, Formula.binder?, pieces_binary _ _ negates]
  | @onlyOperand kind right =>
      by_cases negates : kind = .not
      · subst negates
        refine ⟨[.text "~"], [], fun new => ?_⟩
        simp [Formula.setPart, entered, Formula.binder?, pieces_negation]
      · refine ⟨[.text ("($true" ++ connectiveSymbol kind)], [.text ")"], fun new => ?_⟩
        simp [Formula.setPart, entered, Formula.binder?, pieces_dangling _ _ negates]
  | @equationLeft left right =>
      refine ⟨[], .text " = " :: pieces scope right, fun new => ?_⟩
      simp [Formula.setPart, entered, Formula.binder?, pieces]
  | @equationRight left right =>
      refine ⟨pieces scope left ++ [.text " = "], [], fun new => ?_⟩
      simp [Formula.setPart, entered, Formula.binder?, pieces]
  | @inequalityLeft kind left right =>
      refine ⟨[.text (comparisonName kind ++ "(")], .text "," :: pieces scope right ++ [.text ")"],
        fun new => ?_⟩
      simp [Formula.setPart, entered, Formula.binder?, pieces]
  | @inequalityRight kind left right =>
      refine ⟨.text (comparisonName kind ++ "(") :: pieces scope left ++ [.text ","], [.text ")"],
        fun new => ?_⟩
      simp [Formula.setPart, entered, Formula.binder?, pieces]
  | @predicateArgument name args i part there =>
      obtain ⟨before, after, printed⟩ :=
        argumentsPieces_set scope (List.getElem?_eq_some_iff.mp there).1
      refine ⟨.text (nameText name) :: before, after, fun new => ?_⟩
      simp [Formula.setPart, entered, Formula.binder?, pieces, printed]
  | @functionArgument name args i part there =>
      obtain ⟨before, after, printed⟩ :=
        argumentsPieces_set scope (List.getElem?_eq_some_iff.mp there).1
      refine ⟨.text (nameText name) :: before, after, fun new => ?_⟩
      simp [Formula.setPart, entered, Formula.binder?, pieces, printed]
  | inferencePremise => cases visited

theorem pieces_setPart_of_unvisited (isPart : IsPart f i part) (unvisited : visitsPart f i = false)
    (new : Formula) : pieces scope (f.setPart i new) = pieces scope f := by
  cases isPart with
  | @leftOperand kind left right =>
      obtain rfl : kind = .not := by simpa [visitsPart] using unvisited
      simp [Formula.setPart, pieces_negation]
  | inferencePremise => simp [Formula.setPart, pieces]
  | _ => cases unvisited

/-! ## Places at the end of a path -/

theorem visits_cons (isPart : IsPart f i part) (path : List Nat) :
    visits f (i :: path) = (visitsPart f i && visits part path) := by
  simp [visits, Formula.isPart_iff.mp isPart]

theorem stack_cons (isPart : IsPart f i part) (path : List Nat) :
    stack f (i :: path) = stack part path ++ entered f i := by
  rw [stack, stack, entered, Formula.binders_cons isPart]
  cases f.binder? i <;> simp

theorem pieces_put (found : f.at? path = some g) (visited : visits f path = true) :
    ∃ before after, ∀ new,
      pieces scope (f.put path new) = before ++ pieces (stack f path ++ scope) new ++ after := by
  induction path generalizing f scope with
  | nil => exact ⟨[], [], fun new => by simp [Formula.put, stack, Formula.binders]⟩
  | cons i path ih =>
      obtain ⟨part, isPart, below⟩ := Formula.isPart_of_at? found
      rw [visits_cons isPart, Bool.and_eq_true] at visited
      obtain ⟨before, after, outer⟩ := pieces_setPart scope isPart visited.1
      obtain ⟨before', after', inner⟩ := ih (entered f i ++ scope) below visited.2
      refine ⟨before ++ before', after' ++ after, fun new => ?_⟩
      rw [Formula.put_cons isPart, outer, inner, stack_cons isPart]
      simp

theorem pieces_put_of_unvisited (found : f.at? path = some g) (unvisited : visits f path = false)
    (new : Formula) : pieces scope (f.put path new) = pieces scope f := by
  induction path generalizing f scope with
  | nil => cases unvisited
  | cons i path ih =>
      obtain ⟨part, isPart, below⟩ := Formula.isPart_of_at? found
      rw [Formula.put_cons isPart]
      cases here : visitsPart f i with
      | false => exact pieces_setPart_of_unvisited scope isPart here _
      | true =>
          rw [visits_cons isPart, here, Bool.true_and] at unvisited
          obtain ⟨before, after, printed⟩ := pieces_setPart scope isPart here
          calc
            pieces scope (f.setPart i (part.put path new)) = pieces scope (f.setPart i part) := by
              rw [printed, printed, ih _ below unvisited]
            _ = pieces scope f := by rw [isPart.setPart_self]

/-! ## The stack with which the printer comes to a place -/

theorem reaches_stack (found : f.at? path = some g) (visited : visits f path = true) :
    Reaches f path (stack f path) := by
  obtain ⟨before, after, printed⟩ := pieces_put [] found visited
  refine ⟨printAll before, printAll after, fun new => ?_⟩
  funext names
  rw [List.append_nil] at printed
  simp [formulaText_eq, printed, String.append_assoc]

theorem eq_of_append_eq {b b' a₁ a₁' a₂ a₂' : List Char} {c d : Char} (differ : c ≠ d)
    (first : b ++ c :: a₁ = b' ++ c :: a₁') (second : b ++ d :: a₂ = b' ++ d :: a₂') : b = b' := by
  induction b generalizing b' with
  | nil => cases b' <;> grind
  | cons e b ih => cases b' <;> grind

section

variable {outer inner : List String} {x : String}

theorem Reaches.text (reached : Reaches f path inner) :
    ∃ (before : List Char) (names : Numbering), ∀ new, ∃ after : List Char,
      (formulaText [] (f.put path new) []).1.toList =
        before ++ ((formulaText inner new names).1.toList ++ after) := by
  obtain ⟨before, after, printed⟩ := reached
  refine ⟨(before []).1.toList, (before []).2, fun new => ?_⟩
  refine ⟨(after (formulaText inner new (before []).2).2).1.toList, ?_⟩
  simp [printed]

theorem Reaches.visits (reached : Reaches f path inner) (found : f.at? path = some g) :
    visits f path = true := by
  obtain ⟨before, names, printed⟩ := reached.text
  obtain ⟨after, marker⟩ := printed .premise
  obtain ⟨after', denied⟩ := printed (.negation .premise)
  rw [← Bool.not_eq_false]
  intro unvisited
  rw [formulaText_eq, pieces_put_of_unvisited [] found unvisited] at marker denied
  have texts := List.append_cancel_left (marker.symm.trans denied)
  simp [formulaText, Formula.negation] at texts

theorem Reaches.mem_of_mem (reached : Reaches f path inner) (again : Reaches f path outer)
    (mem : x ∈ inner) : x ∈ outer := by
  by_contra absent
  obtain ⟨before, names, printed⟩ := reached.text
  obtain ⟨before', names', printed'⟩ := again.text
  obtain ⟨_, marker⟩ := printed .premise
  obtain ⟨_, marker'⟩ := printed' .premise
  obtain ⟨_, denied⟩ := printed (.negation .premise)
  obtain ⟨_, denied'⟩ := printed' (.negation .premise)
  obtain ⟨_, named⟩ := printed (.proposition x none)
  obtain ⟨_, named'⟩ := printed' (.proposition x none)
  have same : before = before' := by
    apply eq_of_append_eq (c := '$') (d := '~') (by decide)
    · simpa [formulaText] using marker.symm.trans marker'
    · simpa [formulaText, Formula.negation] using denied.symm.trans denied'
  subst same
  have texts := List.append_cancel_left (named.symm.trans named')
  obtain ⟨first, rest, head, start⟩ := head_nameChars x.toList
  simp [formulaText, mem, absent, variableText, nameText, head] at texts
  rw [← texts.1] at start
  exact absurd start (by decide)

end

/-! ## Substitution -/

theorem stack_decides_outside_domains {n : Formula} {path : List Nat} {names : List String}
    {x : String} {bound : Bool} (found : n.at? path = some (.var x bound))
    (reached : Reaches n path names) :
    (∀ y, y ∈ names ↔ ∃ binder ∈ n.binders path, binder.name = y) ∧
    (n.Replaces x path ↔ ∀ binder ∈ n.binders path, binder.name = x → binder.inDomain = true) ∧
    (⟨x, true⟩ ∉ n.binders path → (n.Replaces x path ↔ x ∉ names)) := by
  have standard := reaches_stack found (reached.visits found)
  have stacked : ∀ y, y ∈ names ↔ ∃ binder ∈ n.binders path, binder.name = y := by
    intro y
    have same : y ∈ names ↔ y ∈ stack n path :=
      ⟨reached.mem_of_mem standard, standard.mem_of_mem reached⟩
    simp [same, stack]
  have replaces : n.Replaces x path ↔
      ∀ binder ∈ n.binders path, binder.name = x → binder.inDomain = true := by
    rw [Formula.replaces_iff found]
    constructor
    · rintro unshielded ⟨name, inDomain⟩ mem rfl
      cases inDomain with
      | true => rfl
      | false => exact absurd mem unshielded
    · intro ranging mem
      cases ranging _ mem rfl
  refine ⟨stacked, replaces, fun outside => ?_⟩
  rw [replaces, stacked]
  constructor
  · rintro ranging ⟨⟨name, inDomain⟩, mem, rfl⟩
    obtain rfl : inDomain = true := ranging _ mem rfl
    exact outside mem
  · intro absent binder mem same
    exact absurd ⟨binder, mem, same⟩ absent

theorem stack_decides_outside_domains_nested :
    let n := Formula.quantified .existential "x" none
      (.quantified .universal "y" (some (.var "x" true)) (.atom "P"))
    n.at? [0, 0] = some (.var "x" true) ∧ Reaches n [0, 0] ["y", "x"] ∧
      (∀ y, y ∈ ["y", "x"] ↔ ∃ binder ∈ n.binders [0, 0], binder.name = y) ∧
      (n.Replaces "x" [0, 0] ↔
        ∀ binder ∈ n.binders [0, 0], binder.name = "x" → binder.inDomain = true) ∧
      (⟨"x", true⟩ ∉ n.binders [0, 0] → (n.Replaces "x" [0, 0] ↔ "x" ∉ ["y", "x"])) := by
  intro n
  have found : n.at? [0, 0] = some (.var "x" true) := rfl
  have reached : Reaches n [0, 0] ["y", "x"] := reaches_stack found rfl
  exact ⟨found, reached, stack_decides_outside_domains found reached⟩

/-- In `∀x∈x. P` the variable is printed inside of the quantifier, and yet it is replaced. -/
theorem replaced_under_printed_quantifier :
    let n := Formula.quantified .universal "x" (some (.var "x" false)) (.atom "P")
    n.at? [0] = some (.var "x" false) ∧ Reaches n [0] ["x"] ∧
      ¬(n.Replaces "x" [0] ↔ "x" ∉ ["x"]) := by
  intro n
  have found : n.at? [0] = some (.var "x" false) := rfl
  have reached : Reaches n [0] ["x"] := reaches_stack found rfl
  have replaced : n.Replaces "x" [0] := by
    rw [Formula.replaces_iff found]
    decide
  exact ⟨found, reached, fun agree => agree.mp replaced List.mem_cons_self⟩

end Proofbook.Tstp
