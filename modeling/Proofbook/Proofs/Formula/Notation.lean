import Proofbook.Proofs.Formula.Shape
import Proofbook.Proofs.Text.Quoted

/-!
The text of a formula is read from left to right: its first character tells the shape, and the text
of each part ends where the character after it can follow no part (`Shape.append_inj`).
-/

namespace Proofbook.Formula

/-! ## Names -/

def isIdentifier (name : String) : Bool :=
  match name.toList with
  | [] => false
  | first :: rest =>
    (first.isAlpha || first == '_') && rest.all fun c => c.isAlphanum || c == '_'

def label? : Formula → Option String
  | quantified _ name .. | predicate name _ | var name _ | proposition name _ | function name _ =>
    some name
  | _ => none

structure IsName (name : String) : Prop where
  identifier : isIdentifier name = true
  notNaN : name ≠ "NaN"
  notInf : name ≠ "inf"

def Named (f : Formula) : Prop :=
  ∀ sub, Subformula sub f → ∀ name, sub.label? = some name → IsName name

theorem named_iff {f : Formula} :
    Named f ↔ (∀ name, f.label? = some name → IsName name) ∧ ∀ part ∈ f.children, Named part :=
  forall_subformula

theorem IsName.chars {name : String} (isName : IsName name) :
    ∃ first rest, name.toList = first :: rest ∧ (first.isAlpha = true ∨ first = '_') ∧
      ∀ c ∈ rest, c.isAlphanum = true ∨ c = '_' := by
  have identifier := isName.identifier
  unfold isIdentifier at identifier
  split at identifier
  · cases identifier
  · rename_i first rest chars
    simp only [Bool.and_eq_true, Bool.or_eq_true, beq_iff_eq, List.all_eq_true] at identifier
    exact ⟨first, rest, chars, identifier⟩

theorem IsName.ne_empty {name : String} (isName : IsName name) : name.toList ≠ [] := by
  obtain ⟨first, rest, chars, -⟩ := isName.chars
  exact chars ▸ List.cons_ne_nil first rest

theorem IsName.isWord {name : String} (isName : IsName name) : Text.IsWord name.toList := by
  obtain ⟨first, rest, chars, start, others⟩ := isName.chars
  have all : ∀ c ∈ name.toList, c.isAlphanum = true ∨ c = '_' := by
    rw [chars, List.forall_mem_cons]
    exact ⟨start.imp_left fun alpha => by simp [Char.isAlphanum, alpha], others⟩
  constructor
  · intro c mem
    rcases all c mem with alphanumeric | rfl
    · simp [Text.isWordChar, alphanumeric]
    · rfl
  · intro point
    exact absurd (all '.' (List.mem_of_getLast? point)) (by decide)

theorem IsName.ne_toText {name : String} (isName : IsName name) (x : Binary64) :
    name ≠ x.toText := by
  rintro rfl
  obtain ⟨first, rest, chars, start, -⟩ := isName.chars
  cases nan : x.isNaN with
  | true => exact isName.notNaN (Binary64.toText_of_isNaN nan)
  | false =>
      rcases Binary64.head_toText nan with infinite | ⟨first', rest', text, sign⟩
      · exact isName.notInf infinite
      · obtain rfl : first = first' := (List.cons.inj (chars.symm.trans text)).1
        rcases sign with rfl | digit
        · exact absurd start (by decide)
        · rcases start with alpha | rfl
          · exact Text.not_isDigit_of_isAlpha alpha digit
          · cases digit

/-! ## The first character -/

/-- What the first character of a formula tells about its shape. -/
inductive Lead where
  | quantifier (kind : Quantifier)
  | negation
  | bracket
  | word
  | marker
  | quote

def lead? : Char → Option Lead
  | '∀' => some (.quantifier .universal)
  | '∃' => some (.quantifier .existential)
  | '¬' => some .negation
  | '(' => some .bracket
  | '[' => some .marker
  | '"' => some .quote
  | c => if Text.isWordChar c then some .word else none

theorem lead?_of_isWordChar {c : Char} (char : Text.isWordChar c = true) :
    lead? c = some .word := by
  unfold lead?
  split
  case h_7 => exact if_pos char
  all_goals exact absurd char (by decide)

def Shape.lead : Shape → Lead
  | quantified kind .. => .quantifier kind
  | negation _ => .negation
  | infixed .. | dangling .. => .bracket
  | word _ | application .. => .word
  | marker .. => .marker
  | quoted _ => .quote

def Shape.name? : Shape → Option String
  | quantified _ name .. | word (.named name) | application name _ => some name
  | _ => none

structure Shape.Named (s : Shape) : Prop where
  name : ∀ name, s.name? = some name → IsName name
  parts : ∀ part ∈ s.parts, Formula.Named part

theorem name?_shape (f : Formula) : f.shape.name? = f.label? := by
  cases f with
  | connective kind left right => cases left <;> cases kind <;> rfl
  | predicate name args => cases args <;> rfl
  | _ => rfl

theorem Named.shape {f : Formula} (named : f.Named) : f.shape.Named := by
  obtain ⟨own, parts⟩ := named_iff.mp named
  constructor
  · rw [name?_shape]
    exact own
  · exact fun part mem => parts part (parts_subset f mem)

theorem Token.isWord {token : Token} (named : (Shape.word token).Named) :
    Text.IsWord token.text.toList ∧ token.text.toList ≠ [] := by
  cases token with
  | named name =>
      have isName := named.name name rfl
      exact ⟨isName.isWord, isName.ne_empty⟩
  | number value => exact ⟨value.isWord_toText, value.toText_ne_empty⟩

theorem exists_lead_of_isWord {word : List Char} (isWord : Text.IsWord word)
    (nonempty : word ≠ []) : ∃ first rest, word = first :: rest ∧ lead? first = some .word := by
  obtain ⟨first, rest, rfl⟩ := List.exists_cons_of_ne_nil nonempty
  exact ⟨first, rest, rfl, lead?_of_isWordChar (isWord.chars first List.mem_cons_self)⟩

theorem Shape.exists_lead {s : Shape} (named : s.Named) :
    ∃ first rest, s.text = first :: rest ∧ lead? first = some s.lead := by
  cases s with
  | quantified kind name domain body => cases kind <;> exact ⟨_, _, rfl, rfl⟩
  | word token =>
      obtain ⟨isWord, nonempty⟩ := Token.isWord named
      exact exists_lead_of_isWord isWord nonempty
  | application name args =>
      have isName := named.name name rfl
      obtain ⟨first, rest, chars, lead⟩ := exists_lead_of_isWord isName.isWord isName.ne_empty
      exact ⟨first, _, by rw [text, chars]; rfl, lead⟩
  | quoted value =>
      obtain ⟨rest, text⟩ := Text.exists_quoted value
      exact ⟨'"', rest, text, rfl⟩
  | _ => exact ⟨_, _, rfl, rfl⟩

theorem exists_lead {f : Formula} (named : f.Named) :
    ∃ first rest, f.display.toList = first :: rest ∧ lead? first = some f.shape.lead := by
  rw [toList_display]
  exact Shape.exists_lead named.shape

/-! ## Reading from left to right -/

/-- A text that can follow a formula. -/
structure Ends (rest : List Char) : Prop where
  halts : Text.Halts rest
  noArguments : rest.head? ≠ some '('

/-- Whatever follows it, the text of the formula is that of no formula with another text left. -/
def Reads (f : Formula) : Prop :=
  ∀ {g : Formula} {rest rest' : List Char}, g.Named → Ends rest → Ends rest' →
    f.display.toList ++ rest = g.display.toList ++ rest' → f.bare = g.bare ∧ rest = rest'

section

variable {c : Char} {rest rest' : List Char}

theorem ends_cons (noWord : Text.isWordChar c = false) (noBracket : c ≠ '(') : Ends (c :: rest) :=
  ⟨Text.halts_cons noWord, fun same => noBracket (Option.some.inj same)⟩

theorem ends_clause : Ends ('.' :: ' ' :: rest) := ⟨.inr ⟨rfl, rfl⟩, by simp⟩

/-! Lists of formulas -/

def furtherDisplay : List Formula → List Char
  | [] => []
  | next :: fs => ',' :: ' ' :: next.display.toList ++ furtherDisplay fs

theorem displayList_cons (f : Formula) (fs : List Formula) :
    (displayList (f :: fs)).toList = f.display.toList ++ furtherDisplay fs := by
  induction fs generalizing f with
  | nil => simp [displayList, furtherDisplay]
  | cons next fs ih => simp [displayList, furtherDisplay, ih]

theorem ends_further (fs : List Formula) : Ends (furtherDisplay fs ++ ')' :: rest) := by
  cases fs <;> exact ends_cons rfl (by decide)

variable {fs gs : List Formula}

theorem further_append_inj (reads : ∀ f ∈ fs, Reads f) (named : ∀ g ∈ gs, Named g)
    (same : furtherDisplay fs ++ ')' :: rest = furtherDisplay gs ++ ')' :: rest') :
    bareList fs = bareList gs ∧ rest = rest' := by
  induction fs generalizing gs with
  | nil =>
      cases gs with
      | nil => exact ⟨rfl, (List.cons.inj same).2⟩
      | cons g gs => exact absurd (List.cons.inj same).1 (by decide)
  | cons f fs ih =>
      cases gs with
      | nil => exact absurd (List.cons.inj same).1 (by decide)
      | cons g gs =>
          rw [List.forall_mem_cons] at reads named
          simp only [furtherDisplay, List.cons_append, List.append_assoc, List.cons.injEq, true_and]
            at same
          obtain ⟨firsts, others⟩ := reads.1 named.1 (ends_further fs) (ends_further gs) same
          obtain ⟨lists, rests⟩ := ih reads.2 named.2 others
          exact ⟨by rw [bareList, bareList, firsts, lists], rests⟩

theorem closing_ne_display {g : Formula} (named : g.Named) {text : List Char} :
    ')' :: rest ≠ g.display.toList ++ text := by
  obtain ⟨first, others, chars, lead⟩ := exists_lead named
  rw [chars]
  intro same
  rw [← (List.cons.inj same).1] at lead
  cases lead

theorem displayList_append_inj (reads : ∀ f ∈ fs, Reads f) (named : ∀ f ∈ fs, Named f)
    (named' : ∀ g ∈ gs, Named g)
    (same : (displayList fs).toList ++ ')' :: rest = (displayList gs).toList ++ ')' :: rest') :
    bareList fs = bareList gs ∧ rest = rest' := by
  cases fs with
  | nil =>
      cases gs with
      | nil => exact ⟨rfl, (List.cons.inj same).2⟩
      | cons g gs =>
          rw [displayList_cons, List.append_assoc] at same
          exact absurd same (closing_ne_display (named' g List.mem_cons_self))
  | cons f fs =>
      cases gs with
      | nil =>
          rw [displayList_cons, List.append_assoc] at same
          exact absurd same.symm (closing_ne_display (named f List.mem_cons_self))
      | cons g gs =>
          rw [List.forall_mem_cons] at reads named'
          rw [displayList_cons, displayList_cons, List.append_assoc, List.append_assoc] at same
          obtain ⟨firsts, others⟩ := reads.1 named'.1 (ends_further fs) (ends_further gs) same
          obtain ⟨lists, rests⟩ := further_append_inj reads.2 named'.2 others
          exact ⟨by rw [bareList, bareList, firsts, lists], rests⟩

theorem premisesText_append_inj (reads : ∀ f ∈ fs, Reads f) (named : ∀ f ∈ fs, Named f)
    (named' : ∀ g ∈ gs, Named g)
    (same : Shape.premisesText fs ++ ']' :: rest = Shape.premisesText gs ++ ']' :: rest') :
    bareList fs = bareList gs ∧ rest = rest' := by
  cases fs with
  | nil =>
      cases gs with
      | nil => exact ⟨rfl, (List.cons.inj same).2⟩
      | cons g gs => exact absurd (List.cons.inj same).1 (by decide)
  | cons f fs =>
      cases gs with
      | nil => exact absurd (List.cons.inj same).1 (by decide)
      | cons g gs =>
          simp only [Shape.premisesText, List.cons_append, List.nil_append, List.append_assoc,
            List.cons.injEq, true_and] at same
          obtain ⟨lists, rests⟩ := displayList_append_inj reads named named' same
          exact ⟨lists, (List.cons.inj rests).2⟩

theorem domainText_append_inj {domain domain' : Option Formula}
    (reads : ∀ d, domain = some d → Reads d) (named : ∀ d, domain' = some d → Named d)
    (same : Shape.domainText domain ++ '.' :: ' ' :: rest =
      Shape.domainText domain' ++ '.' :: ' ' :: rest') :
    bareOption domain = bareOption domain' ∧ rest = rest' := by
  cases domain with
  | none =>
      cases domain' with
      | none => exact ⟨rfl, (List.cons.inj (List.cons.inj same).2).2⟩
      | some d' => exact absurd (List.cons.inj same).1 (by decide)
  | some d =>
      cases domain' with
      | none => exact absurd (List.cons.inj same).1 (by decide)
      | some d' =>
          simp only [Shape.domainText, List.cons_append, List.nil_append, List.cons.injEq,
            true_and] at same
          obtain ⟨domains, clauses⟩ := reads d rfl (named d' rfl) ends_clause ends_clause same
          exact ⟨by rw [bareOption, bareOption, domains],
            (List.cons.inj (List.cons.inj clauses).2).2⟩

/-! Shapes -/

theorem Token.bare_eq_of_text {token token' : Token} (named : (Shape.word token).Named)
    (named' : (Shape.word token').Named) (same : token.text = token'.text) :
    token.bare = token'.bare := by
  cases token with
  | named name =>
      cases token' with
      | named name' => exact congrArg atom same
      | number value => exact absurd same ((named.name name rfl).ne_toText value)
  | number value =>
      cases token' with
      | named name => exact absurd same.symm ((named'.name name rfl).ne_toText value)
      | number value' => exact congrArg Formula.number (Binary64.toText_eq_iff.mp same)

theorem lead?_of_binary {kind : Connective} (binary : kind ≠ .not) :
    lead? (Operator.connective kind).symbol = none := by
  cases kind with
  | not => exact absurd rfl binary
  | _ => rfl

theorem Shape.lead_eq {s s' : Shape} (named : s.Named) (named' : s'.Named)
    (same : s.text ++ rest = s'.text ++ rest') : s.lead = s'.lead := by
  obtain ⟨first, others, text, lead⟩ := exists_lead named
  obtain ⟨first', others', text', lead'⟩ := exists_lead named'
  rw [text, text'] at same
  rw [(List.cons.inj same).1, lead'] at lead
  exact (Option.some.inj lead).symm

theorem display_ne_symbol {f : Formula} (named : f.Named) {kind : Connective}
    (binary : kind ≠ .not) :
    f.display.toList ++ rest ≠ (Operator.connective kind).symbol :: rest' := by
  obtain ⟨first, others, chars, lead⟩ := exists_lead named
  rw [chars]
  intro same
  rw [(List.cons.inj same).1, lead?_of_binary binary] at lead
  cases lead

theorem word_ne_application {token : Token} {name : String}
    (named : (Shape.word token).Named) (isName : IsName name) (ends : Ends rest) :
    token.text.toList ++ rest ≠ name.toList ++ '(' :: rest' := by
  intro same
  obtain ⟨-, rests⟩ := Text.word_append_inj (Token.isWord named).1 isName.isWord ends.halts
    (Text.halts_cons rfl) same
  exact ends.noArguments (congrArg List.head? rests)

theorem halts_domainText (domain : Option Formula) :
    Text.Halts (Shape.domainText domain ++ '.' :: ' ' :: rest) := by
  cases domain with
  | none => exact ends_clause.halts
  | some d => exact Text.halts_cons rfl

theorem quantified_append_inj {kind : Quantifier} {name name' : String}
    {domain domain' : Option Formula} {body body' : Formula}
    (reads : ∀ part ∈ domain.toList ++ [body], Reads part)
    (named : (Shape.quantified kind name domain body).Named)
    (named' : (Shape.quantified kind name' domain' body').Named)
    (ends : Ends rest) (ends' : Ends rest')
    (same : (Shape.quantified kind name domain body).text ++ rest =
      (Shape.quantified kind name' domain' body').text ++ rest') :
    (Shape.quantified kind name domain body).bare =
      (Shape.quantified kind name' domain' body').bare ∧ rest = rest' := by
  have partOf {d : Formula} {domain : Option Formula} {body : Formula} (present : domain = some d) :
      d ∈ domain.toList ++ [body] := by
    rw [present]
    exact List.mem_cons_self
  have isName := (named.name name rfl).isWord
  have isName' := (named'.name name' rfl).isWord
  simp only [Shape.text, List.append_assoc, List.cons_append, List.nil_append] at same
  obtain ⟨names, others⟩ := Text.word_append_inj isName isName' (halts_domainText domain)
    (halts_domainText domain') (List.append_cancel_left same)
  obtain ⟨domains, bodies⟩ := domainText_append_inj
    (fun d present => reads d (partOf present))
    (fun d present => named'.parts d (partOf present)) others
  have bodyPart {domain : Option Formula} {body : Formula} : body ∈ domain.toList ++ [body] :=
    List.mem_append_right _ List.mem_cons_self
  obtain ⟨bare, rests⟩ := reads body bodyPart (named'.parts body' bodyPart) ends ends' bodies
  refine ⟨?_, rests⟩
  rw [Shape.bare, Shape.bare, String.toList_inj.mp names, domains, bare]

theorem infixed_append_inj {operator operator' : Operator} {left left' right right' : Formula}
    (reads : ∀ part ∈ [left, right], Reads part)
    (named' : (Shape.infixed operator' left' right').Named)
    (same : (Shape.infixed operator left right).text ++ rest =
      (Shape.infixed operator' left' right').text ++ rest') :
    (Shape.infixed operator left right).bare = (Shape.infixed operator' left' right').bare ∧
      rest = rest' := by
  have named' : ∀ part ∈ [left', right'], part.Named := named'.parts
  simp only [List.forall_mem_cons, List.not_mem_nil, false_implies, implies_true, and_true]
    at reads named'
  simp only [Shape.text, List.append_assoc, List.cons_append, List.nil_append, List.cons.injEq,
    true_and] at same
  have blank {text : List Char} : Ends (' ' :: text) := ends_cons rfl (by decide)
  have closing {text : List Char} : Ends (')' :: text) := ends_cons rfl (by decide)
  obtain ⟨lefts, others⟩ := reads.1 named'.1 blank blank same
  simp only [List.cons.injEq, true_and] at others
  obtain ⟨rights, rests⟩ := reads.2 named'.2 closing closing others.2
  refine ⟨?_, (List.cons.inj rests).2⟩
  rw [Shape.bare, Shape.bare, lefts, rights, Operator.symbol_injective others.1]

theorem dangling_append_inj {kind kind' : Connective} {right right' : Formula}
    {binary : kind ≠ .not} {binary' : kind' ≠ .not} (reads : Reads right)
    (named' : (Shape.dangling kind' right' binary').Named)
    (same : (Shape.dangling kind right binary).text ++ rest =
      (Shape.dangling kind' right' binary').text ++ rest') :
    (Shape.dangling kind right binary).bare = (Shape.dangling kind' right' binary').bare ∧
      rest = rest' := by
  have closing {text : List Char} : Ends (')' :: text) := ends_cons rfl (by decide)
  simp only [Shape.text, List.append_assoc, List.cons_append, List.nil_append, List.cons.injEq,
    true_and] at same
  have kinds := Operator.connective.inj (Operator.symbol_injective same.1)
  obtain ⟨rights, rests⟩ :=
    reads (named'.parts right' List.mem_cons_self) closing closing same.2
  refine ⟨?_, (List.cons.inj rests).2⟩
  rw [Shape.bare, Shape.bare, rights, kinds]

theorem application_append_inj {name name' : String} {args args' : List Formula}
    (reads : ∀ arg ∈ args, Reads arg) (named : (Shape.application name args).Named)
    (named' : (Shape.application name' args').Named)
    (same : (Shape.application name args).text ++ rest =
      (Shape.application name' args').text ++ rest') :
    (Shape.application name args).bare = (Shape.application name' args').bare ∧ rest = rest' := by
  have isName := (named.name name rfl).isWord
  have isName' := (named'.name name' rfl).isWord
  have parts' : ∀ arg ∈ args', arg.Named := named'.parts
  simp only [Shape.text, List.append_assoc, List.cons_append, List.nil_append] at same
  obtain ⟨names, others⟩ := Text.word_append_inj isName isName' (Text.halts_cons rfl)
    (Text.halts_cons rfl) same
  obtain ⟨lists, rests⟩ :=
    displayList_append_inj reads named.parts parts' (List.cons.inj others).2
  refine ⟨?_, rests⟩
  rw [Shape.bare, Shape.bare, String.toList_inj.mp names, lists]

theorem Marker.isWord (kind : Marker) : Text.IsWord kind.name.toList := by
  cases kind with
  | premise | conclusion => exact ⟨List.all_eq_true.mp rfl, by decide⟩
  | inference rule => cases rule <;> exact ⟨List.all_eq_true.mp rfl, by decide⟩

theorem halts_premisesText (premises : List Formula) :
    Text.Halts (Shape.premisesText premises ++ ']' :: rest) := by
  cases premises <;> exact Text.halts_cons rfl

theorem marker_append_inj {kind kind' : Marker} {premises premises' : List Formula}
    (reads : ∀ f ∈ premises, Reads f) (named : (Shape.marker kind premises).Named)
    (named' : (Shape.marker kind' premises').Named)
    (same : (Shape.marker kind premises).text ++ rest =
      (Shape.marker kind' premises').text ++ rest') :
    (Shape.marker kind premises).bare = (Shape.marker kind' premises').bare ∧ rest = rest' := by
  have parts' : ∀ f ∈ premises', f.Named := named'.parts
  simp only [Shape.text, List.append_assoc, List.cons_append, List.nil_append, List.cons.injEq,
    true_and] at same
  obtain ⟨names, others⟩ := Text.word_append_inj kind.isWord kind'.isWord
    (halts_premisesText premises) (halts_premisesText premises') same
  obtain ⟨lists, rests⟩ := premisesText_append_inj reads named.parts parts' others
  refine ⟨?_, rests⟩
  rw [Shape.bare, Shape.bare, Marker.name_injective (String.toList_inj.mp names), lists]

theorem Shape.append_inj {s s' : Shape} (reads : ∀ part ∈ s.parts, Reads part) (named : s.Named)
    (named' : s'.Named) (ends : Ends rest) (ends' : Ends rest')
    (same : s.text ++ rest = s'.text ++ rest') : s.bare = s'.bare ∧ rest = rest' := by
  have leads := lead_eq named named' same
  cases s with
  | quantified kind name domain body =>
      cases s' with
      | quantified kind' name' domain' body' =>
          obtain rfl := Lead.quantifier.inj leads
          exact quantified_append_inj reads named named' ends ends' same
      | _ => cases leads
  | negation operand =>
      cases s' with
      | negation operand' =>
          obtain ⟨operands, rests⟩ := reads operand List.mem_cons_self
            (named'.parts operand' List.mem_cons_self) ends ends' (List.cons.inj same).2
          exact ⟨congrArg Formula.negation operands, rests⟩
      | _ => cases leads
  | infixed operator left right =>
      cases s' with
      | infixed operator' left' right' => exact infixed_append_inj reads named' same
      | dangling kind right' binary =>
          simp only [text, List.append_assoc, List.cons_append, List.cons.injEq, true_and] at same
          exact absurd same (display_ne_symbol (named.parts left List.mem_cons_self) binary)
      | _ => cases leads
  | dangling kind right binary =>
      cases s' with
      | infixed operator left' right' =>
          simp only [text, List.append_assoc, List.cons_append, List.cons.injEq, true_and] at same
          exact absurd same.symm (display_ne_symbol (named'.parts left' List.mem_cons_self) binary)
      | dangling kind' right' binary' =>
          exact dangling_append_inj (reads right List.mem_cons_self) named' same
      | _ => cases leads
  | word token =>
      cases s' with
      | word token' =>
          obtain ⟨texts, rests⟩ := Text.word_append_inj (Token.isWord named).1
            (Token.isWord named').1 ends.halts ends'.halts same
          exact ⟨Token.bare_eq_of_text named named' (String.toList_inj.mp texts), rests⟩
      | application name args =>
          simp only [text, List.append_assoc, List.cons_append] at same
          exact absurd same (word_ne_application named (named'.name name rfl) ends)
      | _ => cases leads
  | application name args =>
      cases s' with
      | word token =>
          simp only [text, List.append_assoc, List.cons_append] at same
          exact absurd same.symm (word_ne_application named' (named.name name rfl) ends')
      | application name' args' => exact application_append_inj reads named named' same
      | _ => cases leads
  | marker kind premises =>
      cases s' with
      | marker kind' premises' => exact marker_append_inj reads named named' same
      | _ => cases leads
  | quoted value =>
      cases s' with
      | quoted value' =>
          obtain ⟨texts, rests⟩ := Text.quoted_append_inj same
          exact ⟨congrArg Formula.text texts, rests⟩
      | _ => cases leads

end

/-! ## Whole texts -/

theorem reads_of_named {f : Formula} (named : f.Named) : Reads f := by
  induction f using inductionOnParts with
  | step f ih =>
      intro g rest rest' named' ends ends' same
      rw [toList_display, toList_display] at same
      rw [bare_eq f, bare_eq g]
      have parts := (named_iff.mp named).2
      have reads : ∀ part ∈ f.shape.parts, Reads part := fun part mem =>
        ih part (parts_subset f mem) (parts part (parts_subset f mem))
      exact Shape.append_inj reads named.shape named'.shape ends ends' same

/-! ## Texts that are the same -/

theorem displayList_bareList {fs : List Formula} (parts : ∀ f ∈ fs, f.bare.display = f.display) :
    displayList (bareList fs) = displayList fs := by
  apply String.toList_inj.mp
  have further (fs : List Formula) (parts : ∀ f ∈ fs, f.bare.display = f.display) :
      furtherDisplay (bareList fs) = furtherDisplay fs := by
    induction fs with
    | nil => rfl
    | cons f fs ih =>
        rw [List.forall_mem_cons] at parts
        rw [bareList, furtherDisplay, furtherDisplay, parts.1, ih parts.2]
  cases fs with
  | nil => rfl
  | cons f fs =>
      rw [List.forall_mem_cons] at parts
      rw [bareList, displayList_cons, displayList_cons, parts.1, further fs parts.2]

theorem display_bare (f : Formula) : f.bare.display = f.display := by
  induction f using inductionOnParts with
  | step f parts =>
      cases f with
      | quantified kind name domain body =>
          have inner := parts body (by simp [children])
          cases domain with
          | none => simp [bare, bareOption, display, inner]
          | some domain =>
              have ranging := parts domain (by simp [children])
              simp [bare, bareOption, display, inner, ranging]
      | connective kind left right =>
          have second := parts right (by simp [children])
          cases left with
          | none => cases kind <;> simp [bare, bareOption, negation, display, second]
          | some left =>
              have first := parts left (by simp [children])
              cases kind <;> simp [bare, bareOption, negation, display, first, second]
      | predicate name args =>
          cases args with
          | nil => simp [bare, atom, display]
          | cons arg args =>
              have arguments := displayList_bareList parts
              simp only [children] at arguments
              simp [bare, display, arguments]
      | function name args =>
          have arguments : displayList (bareList args) = displayList args :=
            displayList_bareList parts
          simp [bare, display, arguments]
      | inference rule premises =>
          cases premises with
          | nil => simp [bare, bareList, display]
          | cons first rest =>
              have arguments := displayList_bareList parts
              simp only [children, bareList] at arguments
              simp [bare, bareList, display, arguments]
      | equation left right | inequality kind left right =>
          have first := parts left (by simp [children])
          have second := parts right (by simp [children])
          simp [bare, display, first, second]
      | number value => exact value.toText_withoutPayload
      | _ => simp [bare, atom, display]

theorem display_eq_iff_bare_eq {a b : Formula} (named : a.Named) (named' : b.Named) :
    a.display = b.display ↔ a.bare = b.bare := by
  constructor
  · intro same
    have nothing : Ends [] := ⟨trivial, nofun⟩
    have chars : a.display.toList ++ [] = b.display.toList ++ [] := by rw [same]
    exact (reads_of_named named named' nothing nothing chars).1
  · intro same
    rw [← display_bare a, ← display_bare b, same]

theorem display_eq_iff_bare_eq_arguments :
    let a := forAll "x" (predicate "P" [var "x" true])
    let b := forAll "x" (function "P" [proposition "x" (some false)])
    a.Named ∧ b.Named ∧ a.display = "∀x. P(x)" ∧ b.display = "∀x. P(x)" ∧ a.bare = b.bare := by
  intro a b
  have isName {f : Formula} {name : String} (label : f.label? = some name)
      (isName : IsName name) : ∀ name, f.label? = some name → IsName name := by
    intro other same
    rw [← Option.some.inj (label.symm.trans same)]
    exact isName
  have x : IsName "x" := ⟨by decide, by decide, by decide⟩
  have p : IsName "P" := ⟨by decide, by decide, by decide⟩
  have named {inner leaf : Formula} (applied : inner.label? = some "P")
      (argument : inner.children = [leaf]) (last : leaf.label? = some "x")
      (bottom : leaf.children = []) : (forAll "x" inner).Named := by
    have leafNamed : leaf.Named := named_iff.mpr ⟨isName last x, bottom ▸ List.forall_mem_nil _⟩
    have innerNamed : inner.Named :=
      named_iff.mpr ⟨isName applied p, argument ▸ List.forall_mem_singleton.mpr leafNamed⟩
    exact named_iff.mpr ⟨isName rfl x, List.forall_mem_singleton.mpr innerNamed⟩
  have namedA : a.Named := named rfl rfl rfl rfl
  have namedB : b.Named := named rfl rfl rfl rfl
  have textA : a.display = "∀x. P(x)" := by
    simp [a, forAll, display, displayList, Quantifier.symbol]
  have textB : b.display = "∀x. P(x)" := by
    simp [b, forAll, display, displayList, Quantifier.symbol]
  exact ⟨namedA, namedB, textA, textB,
    (display_eq_iff_bare_eq namedA namedB).mp (textA.trans textB.symm)⟩

end Proofbook.Formula
