import Proofbook.Proofs.Text.Digits

namespace Proofbook.Text

def isWordChar (c : Char) : Bool := c.isAlphanum || c == '_' || c == '.' || c == '-'

structure IsWord (word : List Char) : Prop where
  chars : ∀ c ∈ word, isWordChar c = true
  last : word.getLast? ≠ some '.'

/-- No word goes on into the text. A point before a blank is the end of a clause. -/
def Halts : List Char → Prop
  | [] => True
  | c :: rest => isWordChar c = false ∨ c = '.' ∧ rest.head? = some ' '

variable {word word' rest rest' : List Char} {c : Char}

theorem halts_cons (other : isWordChar c = false) : Halts (c :: rest) := .inl other

theorem IsWord.tail (isWord : IsWord (c :: word)) : IsWord word where
  chars := fun d mem => isWord.chars d (List.mem_cons_of_mem c mem)
  last := by
    intro point
    have last := isWord.last
    rw [List.getLast?_cons, point] at last
    exact last rfl

theorem IsWord.append_left {front : List Char} (isWord : IsWord word) (some : word ≠ [])
    (chars : ∀ c ∈ front, isWordChar c = true) : IsWord (front ++ word) where
  chars := List.forall_mem_append.mpr ⟨chars, isWord.chars⟩
  last := by
    have last := isWord.last
    rw [List.getLast?_eq_some_getLast some] at last
    rw [List.getLast?_append, List.getLast?_eq_some_getLast some]
    exact last

theorem isWord_of_isDigit (digits : ∀ c ∈ word, c.isDigit = true) : IsWord word where
  chars := by
    intro c mem
    simp [isWordChar, Char.isAlphanum, digits c mem]
  last := by
    intro point
    exact absurd (digits '.' (List.mem_of_getLast? point)) (by decide)

theorem isWord_of_digits {base n : Nat} (large : 1 < base) (small : base ≤ 16) :
    IsWord (base.toDigits n) := by
  have digit : ∀ d < 16, isWordChar d.digitChar = true ∧ d.digitChar ≠ '.' := by decide
  have each := forall_toDigits (fun c => isWordChar c = true ∧ c ≠ '.') large
    fun d below => digit d (Nat.lt_of_lt_of_le below small)
  constructor
  · exact fun c mem => (each n c mem).1
  · exact fun point => (each n '.' (List.mem_of_getLast? point)).2 rfl

theorem eq_nil_of_halts (isWord : IsWord word) (halts : Halts (word ++ rest)) : word = [] := by
  cases word with
  | nil => rfl
  | cons c word =>
      rcases halts with other | ⟨point, blank⟩
      · rw [isWord.chars c List.mem_cons_self] at other
        cases other
      · cases word with
        | nil => exact absurd (congrArg some point) isWord.last
        | cons d word =>
            have char := isWord.tail.chars d List.mem_cons_self
            rw [Option.some.inj blank] at char
            cases char

theorem word_append_inj (isWord : IsWord word) (isWord' : IsWord word') (halts : Halts rest)
    (halts' : Halts rest') (same : word ++ rest = word' ++ rest') :
    word = word' ∧ rest = rest' := by
  induction word generalizing word' with
  | nil =>
      rw [List.nil_append] at same
      rw [same] at halts ⊢
      rw [eq_nil_of_halts isWord' halts]
      exact ⟨rfl, rfl⟩
  | cons c word ih =>
      cases word' with
      | nil =>
          rw [List.nil_append] at same
          rw [← same] at halts'
          exact absurd (eq_nil_of_halts isWord halts') (List.cons_ne_nil c word)
      | cons d word' =>
          obtain ⟨rfl, others⟩ := List.cons.inj same
          obtain ⟨rfl, rests⟩ := ih isWord.tail isWord'.tail others
          exact ⟨rfl, rests⟩

end Proofbook.Text
