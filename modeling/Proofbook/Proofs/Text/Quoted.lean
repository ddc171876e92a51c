import Proofbook.Proofs.Text.Word
import Proofbook.Text.Quoted

namespace Proofbook.Text

/-! ## Codes -/

/-- No code of a character begins another one, and none begins with the closing quote. -/
structure SelfDelimiting (code : Char → List Char) (close : Char) : Prop where
  head : ∀ c, ∃ first tail, code c = first :: tail ∧ first ≠ close
  append_inj : ∀ c d {rest rest'}, code c ++ rest = code d ++ rest' → c = d ∧ rest = rest'

theorem SelfDelimiting.flatMap_append_inj {code : Char → List Char} {close : Char}
    (delimiting : SelfDelimiting code close) {cs ds rest rest' : List Char}
    (same : cs.flatMap code ++ close :: rest = ds.flatMap code ++ close :: rest') :
    cs = ds ∧ rest = rest' := by
  induction cs generalizing ds with
  | nil =>
      cases ds with
      | nil => exact ⟨rfl, (List.cons.inj same).2⟩
      | cons d ds =>
          obtain ⟨first, tail, code, noClose⟩ := delimiting.head d
          rw [List.flatMap_cons, code] at same
          exact absurd (List.cons.inj same).1.symm noClose
  | cons c cs ih =>
      cases ds with
      | nil =>
          obtain ⟨first, tail, code, noClose⟩ := delimiting.head c
          rw [List.flatMap_cons, code] at same
          exact absurd (List.cons.inj same).1 noClose
      | cons d ds =>
          rw [List.flatMap_cons, List.flatMap_cons, List.append_assoc, List.append_assoc] at same
          obtain ⟨firsts, others⟩ := delimiting.append_inj c d same
          obtain ⟨texts, rests⟩ := ih others
          exact ⟨by rw [firsts, texts], rests⟩

/-! ## Codes of characters between double quotes -/

def escaped? : Char → Option Char
  | '0' => some '\x00'
  | 't' => some '\t'
  | 'r' => some '\r'
  | 'n' => some '\n'
  | '"' => some '"'
  | '\\' => some '\\'
  | _ => none

inductive Coded (c : Char) : List Char → Prop where
  | self (printable : isPrintable c = true) (noQuote : c ≠ '"') (noBackslash : c ≠ '\\') :
      Coded c [c]
  | short {mark : Char} (stands : escaped? mark = some c) : Coded c ['\\', mark]
  | codePoint : Coded c (codePointEscape c)

theorem coded_quoteChar (c : Char) : Coded c (quoteChar c) := by
  unfold quoteChar
  -- Six characters have marks of their own.
  iterate 6
    split
    · rename_i same
      rw [same]
      exact .short rfl
  split
  · exact .codePoint
  · rename_i noQuote noBackslash visible
    rw [Bool.or_eq_true, not_or, Bool.not_eq_true', Bool.not_eq_false] at visible
    exact .self visible.2 noQuote noBackslash

section

variable {c d : Char} {code code' rest rest' : List Char}

theorem Coded.head (coded : Coded c code) : ∃ first tail, code = first :: tail ∧ first ≠ '"' := by
  cases coded with
  | self _ noQuote => exact ⟨c, [], rfl, noQuote⟩
  | short => exact ⟨'\\', _, rfl, by decide⟩
  | codePoint => exact ⟨'\\', _, rfl, by decide⟩

theorem codePointEscape_append_inj
    (same : codePointEscape c ++ rest = codePointEscape d ++ rest') : c = d ∧ rest = rest' := by
  unfold codePointEscape at same
  simp only [List.cons_append, List.nil_append, List.append_assoc, List.cons.injEq, true_and]
    at same
  -- The digits are a word, and the closing brace ends it.
  have isWord (c : Char) := @isWord_of_digits 16 c.toNat (by decide) (by decide)
  have halts (rest : List Char) : Halts ('\x7d' :: rest) := halts_cons rfl
  obtain ⟨digits, rests⟩ := word_append_inj (isWord c) (isWord d) (halts rest) (halts rest') same
  have codes : c.toNat = d.toNat := toDigits_injective (by decide) (by decide) digits
  exact ⟨Char.toNat_inj.mp codes, (List.cons.inj rests).2⟩

theorem Coded.append_inj (coded : Coded c code) (coded' : Coded d code')
    (same : code ++ rest = code' ++ rest') : c = d ∧ rest = rest' := by
  cases coded with
  | self _ _ noBackslash =>
      cases coded' with
      | self => exact List.cons.inj same
      | short => exact absurd (List.cons.inj same).1 noBackslash
      | codePoint => exact absurd (List.cons.inj same).1 noBackslash
  | @short mark stands =>
      cases coded' with
      | self _ _ noBackslash => exact absurd (List.cons.inj same).1.symm noBackslash
      | short stands' =>
          obtain ⟨marks, rests⟩ := List.cons.inj (List.cons.inj same).2
          rw [marks, stands'] at stands
          exact ⟨(Option.some.inj stands).symm, rests⟩
      | codePoint =>
          obtain ⟨marks, -⟩ := List.cons.inj (List.cons.inj same).2
          rw [marks] at stands
          cases stands
  | codePoint =>
      cases coded' with
      | self _ _ noBackslash => exact absurd (List.cons.inj same).1.symm noBackslash
      | short stands' =>
          obtain ⟨marks, -⟩ := List.cons.inj (List.cons.inj same).2
          rw [← marks] at stands'
          cases stands'
      | codePoint => exact codePointEscape_append_inj same

theorem Coded.noLineFeed (coded : Coded c code) : '\n' ∉ code := by
  cases coded with
  | self printable =>
      intro mem
      rw [← List.mem_singleton.mp mem] at printable
      exact absurd printable (by decide +kernel)
  | @short mark stands =>
      intro mem
      simp only [List.mem_cons, List.not_mem_nil, or_false, Char.reduceEq, false_or] at mem
      rw [← mem] at stands
      cases stands
  | codePoint =>
      have noDigit : '\n' ∉ Nat.toDigits 16 c.toNat := by
        intro mem
        exact forall_toDigits (· ≠ '\n') (by decide) (by decide) _ _ mem rfl
      simp [codePointEscape, noDigit]

end

/-! ## Texts -/

theorem selfDelimiting_quoteChar : SelfDelimiting quoteChar '"' where
  head := fun c => (coded_quoteChar c).head
  append_inj := fun c d => (coded_quoteChar c).append_inj (coded_quoteChar d)

theorem exists_quoted (s : String) : ∃ rest, (quoted s).toList = '"' :: rest :=
  ⟨_, String.toList_ofList⟩

theorem quoted_append_inj {s t : String} {rest rest' : List Char}
    (same : (quoted s).toList ++ rest = (quoted t).toList ++ rest') : s = t ∧ rest = rest' := by
  simp only [quoted, String.toList_ofList, List.cons_append, List.append_assoc, List.nil_append]
    at same
  obtain ⟨texts, rests⟩ := selfDelimiting_quoteChar.flatMap_append_inj (List.cons.inj same).2
  exact ⟨String.toList_inj.mp texts, rests⟩

theorem noLineFeed_quoted (s : String) : '\n' ∉ (quoted s).toList := by
  simp [quoted, (coded_quoteChar _).noLineFeed]

end Proofbook.Text
