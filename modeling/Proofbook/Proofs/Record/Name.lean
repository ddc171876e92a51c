import Proofbook.Proofs.Binary64.Text
import Proofbook.Proofs.Text.Quoted
import Proofbook.Record.Tstp

namespace Proofbook.Tstp

/-! ## Lower case words -/

/-- A lower case letter of ASCII, and behind it letters and digits of ASCII and underscores. -/
inductive LowerWord : List Char → Prop
  | intro {first : Char} {rest : List Char} (lower : 'a' ≤ first ∧ first ≤ 'z')
      (others : ∀ c ∈ rest,
        'a' ≤ c ∧ c ≤ 'z' ∨ 'A' ≤ c ∧ c ≤ 'Z' ∨ '0' ≤ c ∧ c ≤ '9' ∨ c = '_') :
      LowerWord (first :: rest)

theorem isLower_iff {c : Char} : c.isLower = true ↔ 'a' ≤ c ∧ c ≤ 'z' := by
  have range : c.isLower = (decide ('a' ≤ c) && decide (c ≤ 'z')) := rfl
  rw [range, Bool.and_eq_true, decide_eq_true_iff, decide_eq_true_iff]

theorem isAlphanum_or_underscore_iff {c : Char} :
    (c.isAlphanum || c == '_') = true ↔
      'a' ≤ c ∧ c ≤ 'z' ∨ 'A' ≤ c ∧ c ≤ 'Z' ∨ '0' ≤ c ∧ c ≤ '9' ∨ c = '_' := by
  have ranges : (c.isAlphanum || c == '_') =
      (decide ('A' ≤ c ∧ c ≤ 'Z') || c.isLower ||
        (decide ('0' ≤ c) && decide (c ≤ '9')) || c == '_') := rfl
  simp only [ranges, Bool.or_eq_true, isLower_iff, Bool.and_eq_true, decide_eq_true_iff, beq_iff_eq]
  tauto

theorem isLowerWord_iff {name : List Char} : isLowerWord name = true ↔ LowerWord name := by
  constructor
  · intro word
    cases name with
    | nil => cases word
    | cons first rest =>
        rw [isLowerWord, Bool.and_eq_true, List.all_eq_true] at word
        exact .intro (isLower_iff.mp word.1) fun c mem =>
          isAlphanum_or_underscore_iff.mp (word.2 c mem)
  · rintro ⟨lower, others⟩
    rw [isLowerWord, Bool.and_eq_true, List.all_eq_true]
    exact ⟨isLower_iff.mpr lower, fun c mem => isAlphanum_or_underscore_iff.mpr (others c mem)⟩

theorem LowerWord.head {name : List Char} (word : LowerWord name) :
    ∃ first rest, name = first :: rest ∧ first.isLower = true := by
  obtain ⟨lower, -⟩ := word
  exact ⟨_, _, rfl, isLower_iff.mpr lower⟩

instance : DecidablePred LowerWord := fun _ => decidable_of_iff _ isLowerWord_iff

theorem nameChars_of_lowerWord {name : List Char} (word : LowerWord name) :
    nameChars name = name := if_pos (isLowerWord_iff.mpr word)

theorem nameChars_of_not_lowerWord {name : List Char} (noWord : ¬LowerWord name) :
    nameChars name = '\'' :: name.flatMap quoteChar ++ ['\''] :=
  if_neg fun word => noWord (isLowerWord_iff.mp word)

/-! ## Quoted names -/

/-- A backslash escapes the character behind it, unless it is escaped itself. -/
def EscapedAt (text : List Char) : ℕ → Prop
  | 0 => False
  | i + 1 => text[i]? = some '\\' ∧ ¬EscapedAt text i

/--
Between two quotes, every quote is escaped, and every backslash is escaped or escapes a quote or a
backslash. The second of the two quotes is not escaped.
-/
structure Escaped (body : List Char) : Prop where
  quote : ∀ i, body[i]? = some '\'' → EscapedAt body i
  backslash : ∀ i, body[i]? = some '\\' →
    EscapedAt body i ∨ body[i + 1]? = some '\'' ∨ body[i + 1]? = some '\\'
  closes : ¬EscapedAt body body.length

def unescape : List Char → List Char
  | [] => []
  | ['\\'] => []
  | '\\' :: c :: rest => c :: unescape rest
  | c :: rest => c :: unescape rest

def unquote : List Char → List Char
  | '\'' :: rest => unescape rest.dropLast
  | text => text

inductive Prints (name : List Char) : List Char → Prop
  | bare (word : LowerWord name) : Prints name name
  | quoted {body : List Char} (noWord : ¬LowerWord name) (escaped : Escaped body)
      (reads : unescape body = name) : Prints name ('\'' :: body ++ ['\''])

/-! ## Codes of characters -/

theorem quoteChar_mark {c : Char} (mark : c = '\'' ∨ c = '\\') : quoteChar c = ['\\', c] :=
  if_pos mark

theorem quoteChar_plain {c : Char} (plain : ¬(c = '\'' ∨ c = '\\')) : quoteChar c = [c] :=
  if_neg plain

theorem selfDelimiting_quoteChar : Text.SelfDelimiting quoteChar '\'' where
  head := by
    intro c
    by_cases mark : c = '\'' ∨ c = '\\'
    · exact ⟨'\\', [c], quoteChar_mark mark, by decide⟩
    · exact ⟨c, [], quoteChar_plain mark, fun same => mark (.inl same)⟩
  append_inj := by
    intro c d rest rest' same
    by_cases mark : c = '\'' ∨ c = '\\'
    · rw [quoteChar_mark mark] at same
      by_cases mark' : d = '\'' ∨ d = '\\'
      · rw [quoteChar_mark mark'] at same
        exact List.cons.inj (List.cons.inj same).2
      · rw [quoteChar_plain mark'] at same
        exact absurd (.inr (List.cons.inj same).1.symm) mark'
    · rw [quoteChar_plain mark] at same
      by_cases mark' : d = '\'' ∨ d = '\\'
      · rw [quoteChar_mark mark'] at same
        exact absurd (.inr (List.cons.inj same).1) mark
      · rw [quoteChar_plain mark'] at same
        exact List.cons.inj same

section

variable (c : Char) (rest : List Char)

theorem unescape_code : unescape (quoteChar c ++ rest) = c :: unescape rest := by
  by_cases mark : c = '\'' ∨ c = '\\'
  · rw [quoteChar_mark mark]
    rfl
  · rw [quoteChar_plain mark]
    have noBackslash : c ≠ '\\' := fun same => mark (.inr same)
    simp [unescape, noBackslash]

theorem getElem?_code (i : ℕ) : (quoteChar c ++ rest)[(quoteChar c).length + i]? = rest[i]? := by
  rw [List.getElem?_append_right (Nat.le_add_right _ i), Nat.add_sub_cancel_left]

theorem escapedAt_succ (text : List Char) (i : ℕ) :
    EscapedAt text (i + 1) ↔ text[i]? = some '\\' ∧ ¬EscapedAt text i := Iff.rfl

theorem escapedAt_code (i : ℕ) :
    EscapedAt (quoteChar c ++ rest) ((quoteChar c).length + i) ↔ EscapedAt rest i := by
  induction i with
  | zero =>
      by_cases mark : c = '\'' ∨ c = '\\'
      · simp [quoteChar_mark mark, EscapedAt]
      · have noBackslash : c ≠ '\\' := fun same => mark (.inr same)
        simp [quoteChar_plain mark, EscapedAt, noBackslash]
  | succ i ih => rw [← Nat.add_assoc, escapedAt_succ, escapedAt_succ, ih, getElem?_code]

theorem marks_code {i : ℕ} (inside : i < (quoteChar c).length) :
    let text := quoteChar c ++ rest
    (text[i]? = some '\'' → EscapedAt text i) ∧
      (text[i]? = some '\\' →
        EscapedAt text i ∨ text[i + 1]? = some '\'' ∨ text[i + 1]? = some '\\') := by
  by_cases mark : c = '\'' ∨ c = '\\'
  · rw [quoteChar_mark mark] at inside ⊢
    match i, inside with
    | 0, _ => simp [mark]
    | 1, _ => simp [EscapedAt]
  · rw [quoteChar_plain mark] at inside ⊢
    match i, inside with
    | 0, _ => simp_all

theorem escaped_code : Escaped (quoteChar c ++ rest) ↔ Escaped rest := by
  constructor
  · intro escaped
    constructor
    · intro i quote
      rw [← getElem?_code c] at quote
      exact (escapedAt_code c rest i).mp (escaped.quote _ quote)
    · intro i backslash
      rw [← getElem?_code c] at backslash
      have here := escaped.backslash _ backslash
      rwa [escapedAt_code, Nat.add_assoc, getElem?_code] at here
    · have closes := escaped.closes
      rwa [List.length_append, escapedAt_code] at closes
  · intro escaped
    constructor
    · intro i quote
      rcases Nat.lt_or_ge i (quoteChar c).length with inside | behind
      · exact (marks_code c rest inside).1 quote
      · obtain ⟨i, rfl⟩ := Nat.exists_eq_add_of_le behind
        rw [getElem?_code] at quote
        exact (escapedAt_code c rest i).mpr (escaped.quote i quote)
    · intro i backslash
      rcases Nat.lt_or_ge i (quoteChar c).length with inside | behind
      · exact (marks_code c rest inside).2 backslash
      · obtain ⟨i, rfl⟩ := Nat.exists_eq_add_of_le behind
        rw [getElem?_code] at backslash
        rw [escapedAt_code, Nat.add_assoc, getElem?_code]
        exact escaped.backslash i backslash
    · rw [List.length_append, escapedAt_code]
      exact escaped.closes

end

/-! ## Names and their printed forms -/

section

variable {name other text body : List Char}

theorem escaped_nil : Escaped [] where
  quote := nofun
  backslash := nofun
  closes := id

theorem escaped_flatMap (name : List Char) : Escaped (name.flatMap quoteChar) := by
  induction name with
  | nil => exact escaped_nil
  | cons c name ih =>
      rw [List.flatMap_cons]
      exact (escaped_code c _).mpr ih

theorem unescape_flatMap (name : List Char) : unescape (name.flatMap quoteChar) = name := by
  induction name with
  | nil => rfl
  | cons c name ih => rw [List.flatMap_cons, unescape_code, ih]

theorem Escaped.flatMap_unescape (escaped : Escaped body) :
    (unescape body).flatMap quoteChar = body := by
  fun_induction unescape body with
  | case1 => rfl
  | case2 => exact absurd ⟨rfl, id⟩ escaped.closes
  | case3 c rest ih =>
      have mark : c = '\'' ∨ c = '\\' := by
        simpa [EscapedAt] using escaped.backslash 0 rfl
      have code : '\\' :: c :: rest = quoteChar c ++ rest := by rw [quoteChar_mark mark]; rfl
      rw [code, escaped_code] at escaped
      rw [List.flatMap_cons, ih escaped, code]
  | case4 c rest single double ih =>
      have plain : ¬(c = '\'' ∨ c = '\\') := by
        rintro (rfl | rfl)
        · exact escaped.quote 0 rfl
        · cases rest with
          | nil => exact single rfl rfl
          | cons d rest => exact double d rest rfl rfl
      have code : c :: rest = quoteChar c ++ rest := by rw [quoteChar_plain plain]; rfl
      rw [code, escaped_code] at escaped
      rw [List.flatMap_cons, ih escaped, code]

theorem prints_iff : Prints name text ↔ text = nameChars name := by
  constructor
  · intro prints
    cases prints with
    | bare word => rw [nameChars_of_lowerWord word]
    | quoted noWord escaped reads =>
        rw [nameChars_of_not_lowerWord noWord, ← reads, escaped.flatMap_unescape]
  · rintro rfl
    by_cases word : LowerWord name
    · rw [nameChars_of_lowerWord word]
      exact .bare word
    · rw [nameChars_of_not_lowerWord word]
      exact .quoted word (escaped_flatMap name) (unescape_flatMap name)

theorem unquote_of_prints (prints : Prints name text) : unquote text = name := by
  cases prints with
  | bare word =>
      obtain ⟨first, rest, rfl, lower⟩ := word.head
      rw [unquote]
      rintro others same
      rw [(List.cons.inj same).1] at lower
      cases lower
  | quoted _ _ reads => rw [List.cons_append, unquote, List.dropLast_concat, reads]

theorem unquote_nameChars (name : List Char) : unquote (nameChars name) = name :=
  unquote_of_prints (prints_iff.mpr rfl)

theorem head_nameChars (name : List Char) :
    ∃ first rest, nameChars name = first :: rest ∧ (first = '\'' ∨ first.isLower = true) := by
  by_cases word : LowerWord name
  · obtain ⟨first, rest, chars, lower⟩ := word.head
    exact ⟨first, rest, (nameChars_of_lowerWord word).trans chars, .inr lower⟩
  · exact ⟨'\'', _, nameChars_of_not_lowerWord word, .inl rfl⟩

theorem eq_of_begins (noWord : ¬LowerWord name)
    (begins : nameChars other <+: nameChars name) : other = name := by
  obtain ⟨rest, same⟩ := begins
  rw [nameChars_of_not_lowerWord noWord] at same
  by_cases word : LowerWord other
  · rw [nameChars_of_lowerWord word] at same
    obtain ⟨first, others, rfl, lower⟩ := word.head
    rw [(List.cons.inj same).1] at lower
    cases lower
  · rw [nameChars_of_not_lowerWord word] at same
    simp only [List.cons_append, List.append_assoc, List.nil_append] at same
    exact (selfDelimiting_quoteChar.flatMap_append_inj (List.cons.inj same).2).1

end

/-! ## Printed names among other texts -/

theorem toList_nameText (name : String) : (nameText name).toList = nameChars name.toList :=
  String.toList_ofList

theorem nameText_injective : Function.Injective nameText := by
  intro name other same
  have texts := congrArg String.toList same
  rw [toList_nameText, toList_nameText] at texts
  rw [← String.toList_inj, ← unquote_nameChars name.toList, texts, unquote_nameChars]

theorem nameText_ne {name text : String} {first : Char} {rest : List Char}
    (chars : text.toList = first :: rest) (noQuote : first ≠ '\'')
    (noLower : ¬first.isLower = true) : nameText name ≠ text := by
  rintro rfl
  rw [toList_nameText] at chars
  obtain ⟨first', rest', head, start⟩ := head_nameChars name.toList
  rw [(List.cons.inj (head.symm.trans chars)).1] at start
  exact start.elim noQuote noLower

theorem nameText_ne_toText (name : String) {x : Binary64} (finite : x.isFinite = true) :
    nameText name ≠ x.toText := by
  obtain ⟨first, rest, chars, start⟩ := Binary64.head_toText_of_finite finite
  apply nameText_ne chars
  · rintro rfl
    exact absurd start (by decide)
  · intro lower
    rcases start with rfl | digit
    · cases lower
    · exact Text.not_isDigit_of_isAlpha (Bool.or_eq_true_iff.mpr (.inr lower)) digit

/-- A name has one printed form, which is told from every other token of a listing. -/
theorem quoting_is_lossless (name : String) :
    (∀ text : String, Prints name.toList text.toList ↔ text = nameText name) ∧
      unquote (nameText name).toList = name.toList ∧
      (∀ other, nameText other = nameText name → other = name) ∧
      (∀ other, ¬LowerWord name.toList → (nameText other).toList <+: (nameText name).toList →
        other = name) ∧
      (∀ rest, nameText name ≠ "X" ++ rest) ∧
      (∀ x : Binary64, x.isFinite = true → nameText name ≠ x.toText) ∧
      ∀ rest, nameText name ≠ "$" ++ rest := by
  refine ⟨?_, ?_, ?_, ?_, ?_, ?_, ?_⟩
  · intro text
    rw [prints_iff, ← toList_nameText, String.toList_inj]
  · rw [toList_nameText, unquote_nameChars]
  · intro other same
    exact nameText_injective same
  · intro other noWord begins
    rw [toList_nameText, toList_nameText] at begins
    exact String.toList_inj.mp (eq_of_begins noWord begins)
  · intro rest
    have chars : ("X" ++ rest).toList = 'X' :: rest.toList := String.toList_append
    exact nameText_ne chars (by decide) (by decide)
  · intro x finite
    exact nameText_ne_toText name finite
  · intro rest
    have chars : ("$" ++ rest).toList = '$' :: rest.toList := String.toList_append
    exact nameText_ne chars (by decide) (by decide)

theorem quoting_is_lossless_apostrophe :
    let name := "it's"
    let text := "'it\\'s'"
    ¬LowerWord name.toList ∧ Prints name.toList text.toList ∧
      unquote text.toList = name.toList ∧ nameText name = text ∧
      (nameText name).toList <+: text.toList ∧ ¬(nameText "it'").toList <+: text.toList ∧
      Binary64.zero.isFinite = true ∧ text ≠ Binary64.zero.toText := by
  intro name text
  have printed : nameText name = text := by decide
  have noWord : ¬LowerWord name.toList := by decide
  have finite : Binary64.zero.isFinite = true := by decide
  obtain ⟨form, reads, -, alone, -, noNumber, -⟩ := quoting_is_lossless name
  rw [printed] at form reads alone noNumber
  refine ⟨noWord, (form text).mpr rfl, reads, printed, printed ▸ List.prefix_refl _, ?_, finite,
    noNumber _ finite⟩
  intro begins
  exact absurd (alone "it'" noWord begins) (by decide)

end Proofbook.Tstp
