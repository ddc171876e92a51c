import Proofbook.Proofs.Formula.Renaming
import Proofbook.Proofs.Record.Scope

namespace Proofbook.Tstp

open Formula (IsPart isPart_iff)

/-! ## Renaming pieces -/

def Piece.rename (change : String → String) : Piece → Piece
  | text content => text content
  | var name => var (change name)

variable {change : String → String} {scope : List String} {f part : Formula} {i : Nat}

/-- In the scope, the renaming is as a listing of the formula allows it. -/
structure Renames (change : String → String) (scope : List String) (f : Formula) : Prop where
  distinct : Set.InjOn change (f.names ∪ {name | name ∈ scope})
  fixed : ∀ name, f.Exposed name → name ∉ scope → change name = name

theorem Renames.inPart (renames : Renames change scope f) (isPart : IsPart f i part) :
    Renames change (entered f i ++ scope) part := by
  constructor
  · refine renames.distinct.mono (Set.union_subset ?_ ?_)
    · exact fun x mem => .inl (Formula.names_subset isPart.mem_children mem)
    · intro x mem
      rcases List.mem_append.mp mem with here | outer
      · simp only [entered, Option.mem_toList, Option.map_eq_some_iff] at here
        obtain ⟨binder, here, rfl⟩ := here
        exact .inl (Formula.mem_names_of_ownName? (Formula.name_of_binder? here))
      · exact .inr outer
  · rintro x ⟨path, truth, found, outside⟩ absent
    rw [List.mem_append, not_or] at absent
    refine renames.fixed x ⟨i :: path, truth, ?_, ?_⟩ absent.2
    · rw [Formula.at?_cons isPart, found]
    · intro binder mem
      rw [Formula.binders_cons isPart] at mem
      rcases List.mem_append.mp mem with here | below
      · rintro rfl
        apply absent.1
        simp [entered, Option.mem_toList.mp here]
      · exact outside binder below

def RenamesPieces (change : String → String) (scope : List String) (f : Formula) : Prop :=
  pieces (scope.map change) (f.rename change) = (pieces scope f).map (Piece.rename change)

section

variable {fs : List Formula} (parts : ∀ f ∈ fs, RenamesPieces change scope f)

include parts

theorem furtherPieces_rename :
    furtherPieces (scope.map change) (fs.map (Formula.rename change)) =
      (furtherPieces scope fs).map (Piece.rename change) := by
  induction fs with
  | nil => rfl
  | cons next rest ih =>
      have first : RenamesPieces change scope next := parts next List.mem_cons_self
      have others := ih fun f mem => parts f (List.mem_cons_of_mem next mem)
      rw [RenamesPieces] at first
      simp [furtherPieces, first, others, Piece.rename]

theorem argumentsPieces_rename :
    argumentsPieces (scope.map change) (Formula.renameList change fs) =
      (argumentsPieces scope fs).map (Piece.rename change) := by
  rw [Formula.renameList_eq_map]
  cases fs with
  | nil => rfl
  | cons first rest =>
      have leading : RenamesPieces change scope first := parts first List.mem_cons_self
      have others := furtherPieces_rename fun f mem => parts f (List.mem_cons_of_mem first mem)
      rw [RenamesPieces] at leading
      simp [argumentsPieces, leading, others, Piece.rename]

end

theorem pieces_rename (renames : Renames change scope f) : RenamesPieces change scope f := by
  induction f using Formula.inductionOnParts generalizing scope with
  | step f parts =>
      have renamed {i : Nat} {part : Formula} (isPart : IsPart f i part) :
          RenamesPieces change (entered f i ++ scope) part :=
        parts part isPart.mem_children (renames.inPart isPart)
      cases f with
      | quantified kind name domain body =>
          cases domain with
          | none =>
              have inner : RenamesPieces change (name :: scope) body := renamed .onlyBody
              simp only [RenamesPieces, List.map_cons] at inner
              simp [RenamesPieces, Formula.rename, Formula.renameOption, pieces, inner,
                Piece.rename]
          | some domain =>
              have ranging : RenamesPieces change (name :: scope) domain := renamed .domain
              have inner : RenamesPieces change (name :: scope) body := renamed .body
              simp only [RenamesPieces, List.map_cons] at ranging inner
              simp [RenamesPieces, Formula.rename, Formula.renameOption, pieces, ranging, inner,
                Piece.rename]
      | connective kind left right =>
          by_cases negates : kind = .not
          · subst negates
            have denied : RenamesPieces change scope right := by
              cases left with
              | none => exact renamed .onlyOperand
              | some left => exact renamed .rightOperand
            rw [RenamesPieces] at denied
            simp [RenamesPieces, Formula.rename, pieces_negation, denied, Piece.rename]
          · cases left with
            | none =>
                have second : RenamesPieces change scope right := renamed .onlyOperand
                rw [RenamesPieces] at second
                simp [RenamesPieces, Formula.rename, Formula.renameOption,
                  pieces_dangling _ _ negates, second, Piece.rename]
            | some left =>
                have first : RenamesPieces change scope left := renamed .leftOperand
                have second : RenamesPieces change scope right := renamed .rightOperand
                rw [RenamesPieces] at first second
                simp [RenamesPieces, Formula.rename, Formula.renameOption,
                  pieces_binary _ _ negates, first, second, Piece.rename]
      | predicate name args | function name args =>
          have arguments : ∀ f ∈ args, RenamesPieces change scope f := by
            intro f mem
            obtain ⟨i, there⟩ := List.getElem?_of_mem mem
            exact renamed (isPart_iff.mpr there)
          simp [RenamesPieces, Formula.rename, pieces, argumentsPieces_rename arguments,
            Piece.rename]
      | proposition name truth =>
          have own := Formula.mem_names_of_ownName? (f := .proposition name truth) rfl
          have known : change name ∈ scope.map change ↔ name ∈ scope :=
            mem_map_iff_of_injOn renames.distinct (fun other mem => .inr mem) (.inl own)
          unfold RenamesPieces
          by_cases bound : name ∈ scope
          · rw [Formula.rename, pieces, pieces, if_pos bound, if_pos (known.mpr bound)]
            rfl
          · have exposed : (Formula.proposition name truth).Exposed name :=
              ⟨[], truth, rfl, List.forall_mem_nil _⟩
            have same := renames.fixed name exposed bound
            rw [Formula.rename, pieces, pieces, if_neg bound, if_neg (mt known.mp bound), same]
            rfl
      | equation left right | inequality kind left right =>
          have first : RenamesPieces change scope left := renamed (i := 0) (isPart_iff.mpr rfl)
          have second : RenamesPieces change scope right := renamed (i := 1) (isPart_iff.mpr rfl)
          rw [RenamesPieces] at first second
          simp [RenamesPieces, Formula.rename, pieces, first, second, Piece.rename]
      | _ => simp [RenamesPieces, Formula.rename, pieces, Piece.rename]

/-! ## Names that are printed -/

@[simp]
theorem printedNames_append (ps qs : List Piece) :
    printedNames (ps ++ qs) = printedNames ps ++ printedNames qs := List.filterMap_append

theorem mem_furtherNames {x : String} {fs : List Formula} :
    x ∈ printedNames (furtherPieces scope fs) ↔ ∃ f ∈ fs, x ∈ printedNames (pieces scope f) := by
  induction fs with
  | nil => simp [furtherPieces]
  | cons next rest ih => simp [furtherPieces, ih]

theorem mem_argumentNames {x : String} {fs : List Formula} :
    x ∈ printedNames (argumentsPieces scope fs) ↔ ∃ f ∈ fs, x ∈ printedNames (pieces scope f) := by
  cases fs with
  | nil => simp [argumentsPieces]
  | cons first rest => simp [argumentsPieces, mem_furtherNames]

theorem mem_names_of_printed {x : String} (printed : x ∈ printedNames (pieces scope f)) :
    x ∈ f.names := by
  induction f using Formula.inductionOnParts generalizing scope with
  | step f parts =>
      have below : ∀ part ∈ f.children, ∀ scope, x ∈ printedNames (pieces scope part) →
          x ∈ f.names :=
        fun part mem scope printed => Formula.names_subset mem (parts part mem printed)
      cases f with
      | quantified kind name domain body =>
          have own := Formula.mem_names_of_ownName? (f := .quantified kind name domain body) rfl
          cases domain with
          | none =>
              have cases : x = name ∨ x ∈ printedNames (pieces (name :: scope) body) := by
                simpa [pieces] using printed
              rcases cases with rfl | inner
              · exact own
              · exact below body (by simp [Formula.children]) _ inner
          | some domain =>
              have cases : x = name ∨ x ∈ printedNames (pieces (name :: scope) domain) ∨
                  x ∈ printedNames (pieces (name :: scope) body) := by
                simpa [pieces] using printed
              rcases cases with rfl | ranging | inner
              · exact own
              · exact below domain (by simp [Formula.children]) _ ranging
              · exact below body (by simp [Formula.children]) _ inner
      | connective kind left right =>
          have second := below right (by simp [Formula.children]) scope
          by_cases negates : kind = .not
          · subst negates
            rw [pieces_negation] at printed
            exact second printed
          · cases left with
            | none => exact second (by simpa [pieces_dangling _ _ negates] using printed)
            | some left =>
                have first := below left (by simp [Formula.children]) scope
                rw [pieces_binary _ _ negates] at printed
                exact Or.elim (by simpa using printed) first second
      | predicate name args | function name args =>
          rw [pieces, printedNames_text, mem_argumentNames] at printed
          obtain ⟨part, mem, printed⟩ := printed
          exact below part mem scope printed
      | var name bound =>
          obtain rfl : x = name := by simpa [pieces] using printed
          exact Formula.mem_names_of_ownName? rfl
      | proposition name truth =>
          rw [pieces] at printed
          split at printed
          · obtain rfl : x = name := by simpa using printed
            exact Formula.mem_names_of_ownName? rfl
          · cases printed
      | equation left right | inequality kind left right =>
          have first := below left (by simp [Formula.children]) scope
          have second := below right (by simp [Formula.children]) scope
          exact Or.elim (by simpa [pieces] using printed) first second
      | _ => simp [pieces] at printed

/-! ## The text of a renamed formula -/

theorem printedNames_rename (change : String → String) (ps : List Piece) :
    printedNames (ps.map (Piece.rename change)) = (printedNames ps).map change := by
  induction ps with
  | nil => rfl
  | cons piece ps ih => cases piece <;> simp [Piece.rename, ih]

theorem render_rename {number number' : String → Nat} {ps : List Piece}
    (same : ∀ x ∈ printedNames ps, number (change x) = number' x) :
    render number (ps.map (Piece.rename change)) = render number' ps := by
  induction ps with
  | nil => rfl
  | cons piece ps ih =>
      cases piece with
      | text content => simp [Piece.rename, Piece.render, ih same]
      | var name =>
          obtain ⟨here, rest⟩ := List.forall_mem_cons.mp same
          simp [Piece.rename, Piece.render, here, ih rest]

theorem text_of_renaming (n : Formula) (change : String → String)
    (distinct : Set.InjOn change n.names) (fixed : ∀ name, n.Exposed name → change name = name) :
    ((formulaText [] (n.rename change)).run []).1 = ((formulaText [] n).run []).1 := by
  have renames : Renames change [] n := by
    constructor
    · simpa using distinct
    · exact fun name exposed _ => fixed name exposed
  have renamed : pieces [] (n.rename change) = (pieces [] n).map (Piece.rename change) :=
    pieces_rename renames
  have apart : Set.InjOn change {name | name ∈ printedNames (pieces [] n)} :=
    distinct.mono fun name mem => mem_names_of_printed mem
  rw [StateT.run, StateT.run, formulaText_eq, formulaText_eq, renamed, printAll_fresh,
    printAll_fresh, printedNames_rename]
  exact render_rename fun x mem => idxOf_eraseDups_map apart mem

theorem text_of_renaming_exchanged :
    let n := Formula.quantified .universal "p" (some (.var "x" false))
      (.disjunction (.atom "p") (.atom "q"))
    let exchange := fun name => if name = "p" then "x" else if name = "x" then "p" else name
    Set.InjOn exchange n.names ∧ (∀ name, n.Exposed name → exchange name = name) ∧
      ((formulaText [] (n.rename exchange)).run []).1 = ((formulaText [] n).run []).1 := by
  intro n exchange
  have distinct : Set.InjOn exchange n.names := by
    intro x _ y _ same
    grind
  have fixed : ∀ name, n.Exposed name → exchange name = name := by
    rintro name ⟨path, truth, found, outside⟩
    -- Propositions stand at the ends of two paths only, `p` under its quantifier, and `q`.
    rcases path with _ | ⟨_ | _ | i, _ | ⟨_ | _ | j, _ | ⟨k, path⟩⟩⟩ <;>
      simp [n, Formula.at?, Formula.children, Formula.disjunction, Formula.atom] at found
    · exact absurd found.1 (outside ⟨"p", false⟩ List.mem_cons_self)
    · rw [← found.1]
      decide
  exact ⟨distinct, fixed, text_of_renaming n exchange distinct fixed⟩

end Proofbook.Tstp
