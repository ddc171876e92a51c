import Proofbook.Proofs.Formula.Substitution

namespace Proofbook.Formula

/-! ## Numbered parts -/

inductive IsPart : Formula → Nat → Formula → Prop where
  | domain {kind name domain body} : IsPart (quantified kind name (some domain) body) 0 domain
  | body {kind name domain body} : IsPart (quantified kind name (some domain) body) 1 body
  | onlyBody {kind name body} : IsPart (quantified kind name none body) 0 body
  | leftOperand {kind left right} : IsPart (connective kind (some left) right) 0 left
  | rightOperand {kind left right} : IsPart (connective kind (some left) right) 1 right
  | onlyOperand {kind right} : IsPart (connective kind none right) 0 right
  | equationLeft {left right} : IsPart (equation left right) 0 left
  | equationRight {left right} : IsPart (equation left right) 1 right
  | inequalityLeft {kind left right} : IsPart (inequality kind left right) 0 left
  | inequalityRight {kind left right} : IsPart (inequality kind left right) 1 right
  | predicateArgument {name args i part} :
      args[i]? = some part → IsPart (predicate name args) i part
  | functionArgument {name args i part} : args[i]? = some part → IsPart (function name args) i part
  | inferencePremise {rule premises i part} :
      premises[i]? = some part → IsPart (inference rule premises) i part

/-- A quantifier over the name that is entered, through its domain or through its body. -/
structure Binder where
  name : String
  inDomain : Bool
deriving DecidableEq

def binder? : Formula → Nat → Option Binder
  | quantified _ name (some _) _, 0 => some ⟨name, true⟩
  | quantified _ name _ _, _ => some ⟨name, false⟩
  | _, _ => none

def setPart : Formula → Nat → Formula → Formula
  | quantified kind name (some _) body, 0, new => quantified kind name (some new) body
  | quantified kind name domain _, _, new => quantified kind name domain new
  | connective kind (some _) right, 0, new => connective kind (some new) right
  | connective kind left _, _, new => connective kind left new
  | predicate name args, i, new => predicate name (args.set i new)
  | function name args, i, new => function name (args.set i new)
  | equation _ right, 0, new => equation new right
  | equation left _, _, new => equation left new
  | inequality kind _ right, 0, new => inequality kind new right
  | inequality kind left _, _, new => inequality kind left new
  | inference rule premises, i, new => inference rule (premises.set i new)
  | leaf, _, _ => leaf

section

variable {f part : Formula} {i : Nat}

private theorem getElem?_one {a : Formula} (there : [a][i]? = some part) : i = 0 ∧ a = part := by
  rcases i with _ | i
  · exact ⟨rfl, Option.some.inj there⟩
  · cases there

private theorem getElem?_two {a b : Formula} (there : [a, b][i]? = some part) :
    (i = 0 ∧ a = part) ∨ (i = 1 ∧ b = part) := by
  rcases i with _ | i
  · exact .inl ⟨rfl, Option.some.inj there⟩
  · obtain ⟨rfl, same⟩ := getElem?_one there
    exact .inr ⟨rfl, same⟩

theorem isPart_iff : IsPart f i part ↔ f.children[i]? = some part := by
  constructor
  · intro isPart
    cases isPart with
    | predicateArgument there | functionArgument there | inferencePremise there => exact there
    | _ => rfl
  · intro there
    cases f with
    | quantified kind name domain body =>
        cases domain with
        | none =>
            obtain ⟨rfl, rfl⟩ := getElem?_one there
            exact .onlyBody
        | some domain =>
            rcases getElem?_two there with ⟨rfl, rfl⟩ | ⟨rfl, rfl⟩
            · exact .domain
            · exact .body
    | connective kind left right =>
        cases left with
        | none =>
            obtain ⟨rfl, rfl⟩ := getElem?_one there
            exact .onlyOperand
        | some left =>
            rcases getElem?_two there with ⟨rfl, rfl⟩ | ⟨rfl, rfl⟩
            · exact .leftOperand
            · exact .rightOperand
    | equation left right =>
        rcases getElem?_two there with ⟨rfl, rfl⟩ | ⟨rfl, rfl⟩
        · exact .equationLeft
        · exact .equationRight
    | inequality kind left right =>
        rcases getElem?_two there with ⟨rfl, rfl⟩ | ⟨rfl, rfl⟩
        · exact .inequalityLeft
        · exact .inequalityRight
    | predicate name args => exact .predicateArgument there
    | function name args => exact .functionArgument there
    | inference rule premises => exact .inferencePremise there
    | var | proposition | premise | conclusion | number | text => simp [children] at there

theorem IsPart.setPart_self (isPart : IsPart f i part) : f.setPart i part = f := by
  cases isPart with
  | predicateArgument there | functionArgument there | inferencePremise there =>
      obtain ⟨inside, rfl⟩ := List.getElem?_eq_some_iff.mp there
      simp [setPart]
  | _ => rfl

theorem IsPart.substitute (isPart : IsPart f i part) (x : String) (r : Formula) :
    IsPart (substitute x r f) i
      (if f.binder? i = some ⟨x, false⟩ then part else substitute x r part) := by
  rw [isPart_iff]
  have there := isPart_iff.mp isPart
  cases isPart with
  | predicateArgument | functionArgument | inferencePremise =>
      rw [children_substitute x r (by simp [kind]) (by simp [kind]), List.getElem?_map, there]
      simp [binder?]
  | _ => simp [Formula.substitute, substituteOption, children, binder?]

end

/-! ## Paths -/

def at? : Formula → List Nat → Option Formula
  | f, [] => some f
  | f, i :: path => f.children[i]?.bind (at? · path)

/-- The quantifiers that the path enters, the outermost first. -/
def binders : Formula → List Nat → List Binder
  | _, [] => []
  | f, i :: path => (f.binder? i).toList ++ f.children[i]?.elim [] (binders · path)

def put : Formula → List Nat → Formula → Formula
  | _, [], new => new
  | f, i :: path, new => f.children[i]?.elim f fun part => f.setPart i (part.put path new)

variable {f part g : Formula} {i : Nat} {path : List Nat}

theorem at?_cons (isPart : IsPart f i part) (path : List Nat) :
    f.at? (i :: path) = part.at? path := by
  simp [at?, isPart_iff.mp isPart]

theorem binders_cons (isPart : IsPart f i part) (path : List Nat) :
    f.binders (i :: path) = (f.binder? i).toList ++ part.binders path := by
  simp [binders, isPart_iff.mp isPart]

theorem put_cons (isPart : IsPart f i part) (path : List Nat) (new : Formula) :
    f.put (i :: path) new = f.setPart i (part.put path new) := by
  simp [put, isPart_iff.mp isPart]

theorem isPart_of_at? (found : f.at? (i :: path) = some g) :
    ∃ part, IsPart f i part ∧ part.at? path = some g := by
  obtain ⟨part, there, below⟩ := Option.bind_eq_some_iff.mp found
  exact ⟨part, isPart_iff.mpr there, below⟩

theorem at?_substitute (found : f.at? path = some g) (x : String) (r : Formula) :
    (substitute x r f).at? path =
      some (if ⟨x, false⟩ ∈ f.binders path then g else substitute x r g) := by
  induction path generalizing f with
  | nil =>
      cases found
      simp [at?, binders]
  | cons i path ih =>
      obtain ⟨part, isPart, below⟩ := isPart_of_at? found
      rw [at?_cons (isPart.substitute x r), binders_cons isPart]
      by_cases shielded : f.binder? i = some ⟨x, false⟩
      · simp [shielded, below]
      · have other : ⟨x, false⟩ ∉ (f.binder? i).toList := by
          simpa [Option.mem_toList] using shielded
        simp [shielded, other, ih below]

/-- Substitutions for the variable put the replacement at the end of the path. -/
def Replaces (x : String) (f : Formula) (path : List Nat) : Prop :=
  ∀ r, (substitute x r f).at? path = some r

theorem replaces_iff {x : String} {bound : Bool} (found : f.at? path = some (var x bound)) :
    Replaces x f path ↔ ⟨x, false⟩ ∉ f.binders path := by
  constructor
  · intro replaces shielded
    have kept := at?_substitute found x premise
    rw [replaces premise, if_pos shielded] at kept
    cases kept
  · intro unshielded r
    rw [at?_substitute found x r, if_neg unshielded, substitute_var, if_pos rfl]

end Proofbook.Formula
