import Proofbook.Proofs.Binary64.Shortest
import Proofbook.Proofs.Text.Word

namespace Proofbook

/-! ## Values of decimals -/

namespace Decimal

def value (d : Decimal) : ℚ :=
  (Nat.ofDigitChars 10 d.digits 0 : ℕ) * 10 ^ (d.point - d.digits.length : ℤ)

def valueAt (whole decimals : List Char) : ℚ :=
  (Nat.ofDigitChars 10 (whole ++ decimals) 0 : ℕ) / 10 ^ decimals.length

theorem exists_zeros (n : ℕ) :
    ∃ k, Nat.toDigits 10 n = Binary64.significantDigits n ++ List.replicate k '0' := by
  let zeros := (Nat.toDigits 10 n).reverse.takeWhile (· == '0')
  have all : ∀ c ∈ zeros, c = '0' := by
    intro c mem
    exact beq_iff_eq.mp (List.all_eq_true.mp List.all_takeWhile c mem)
  have same : zeros = List.replicate zeros.length '0' := List.eq_replicate_of_mem all
  have parts : (Nat.toDigits 10 n).reverse =
      zeros ++ (Nat.toDigits 10 n).reverse.dropWhile (· == '0') :=
    List.takeWhile_append_dropWhile.symm
  rw [same] at parts
  refine ⟨zeros.length, ?_⟩
  rw [← List.reverse_inj, parts, List.reverse_append, List.reverse_replicate,
    Binary64.significantDigits, List.reverse_reverse]

theorem value_significant (n : ℕ) (exponent : ℤ) :
    value ⟨Binary64.significantDigits n, (Nat.toDigits 10 n).length + exponent⟩ =
      n * 10 ^ exponent := by
  obtain ⟨k, zeros⟩ := exists_zeros n
  have number : n = 10 ^ k * Nat.ofDigitChars 10 (Binary64.significantDigits n) 0 := by
    rw [← Nat.ofDigitChars_replicate_zero, ← Nat.ofDigitChars_append, ← zeros,
      Nat.ofDigitChars_ten_toDigits]
  have length : (Nat.toDigits 10 n).length = (Binary64.significantDigits n).length + k := by
    rw [zeros, List.length_append, List.length_replicate]
  have places : ((Nat.toDigits 10 n).length + exponent -
      (Binary64.significantDigits n).length : ℤ) = k + exponent := by
    rw [length]
    push_cast
    ring
  rw [value, places, zpow_add₀ (by norm_num), zpow_natCast]
  generalize Nat.ofDigitChars 10 (Binary64.significantDigits n) 0 = stripped at number
  rw [number]
  push_cast
  ring

theorem valueAt_positional (d : Decimal) : valueAt d.positional.1 d.positional.2 = d.value := by
  unfold positional value valueAt
  split
  · have zeros :
        Nat.ofDigitChars 10 (['0'] ++ (List.replicate (-d.point).toNat '0' ++ d.digits)) 0 =
          Nat.ofDigitChars 10 d.digits 0 := by
      rw [← List.append_assoc, Nat.ofDigitChars_append, ← List.replicate_one,
        List.replicate_append_replicate, Nat.ofDigitChars_replicate_zero, Nat.mul_zero]
    have places : d.point - d.digits.length = -((-d.point).toNat + d.digits.length : ℕ) := by
      push_cast
      omega
    rw [zeros, places, List.length_append, List.length_replicate, zpow_neg, zpow_natCast,
      div_eq_mul_inv]
  · dsimp only
    rcases le_total d.digits.length d.point.toNat with short | long
    · have places : d.point - d.digits.length = (d.point.toNat - d.digits.length : ℕ) := by omega
      rw [List.take_of_length_le short, List.drop_of_length_le short, List.append_nil,
        Nat.ofDigitChars_append, Nat.ofDigitChars_replicate_zero, places, zpow_natCast,
        List.length_nil, pow_zero, div_one]
      push_cast
      ring
    · have places : d.point - d.digits.length = -(d.digits.length - d.point.toNat : ℕ) := by omega
      rw [Nat.sub_eq_zero_of_le long, List.replicate_zero, List.append_nil, List.take_append_drop,
        List.length_drop, places, zpow_neg, zpow_natCast, div_eq_mul_inv]

theorem positional_ne_nil (d : Decimal) : d.positional.1 ≠ [] := by
  unfold positional
  split
  · exact List.cons_ne_nil _ _
  · intro none
    have length := congrArg List.length none
    rw [List.length_append, List.length_take, List.length_replicate, List.length_nil] at length
    omega

theorem isDigit_positional {d : Decimal} (digits : ∀ c ∈ d.digits, c.isDigit = true) :
    ∀ c ∈ d.positional.1 ++ d.positional.2, c.isDigit = true := by
  have zeros (n : ℕ) : ∀ c ∈ List.replicate n '0', c.isDigit = true := by
    intro c mem
    rw [List.eq_of_mem_replicate mem]
    rfl
  unfold positional
  split
  · simp only [List.singleton_append, List.forall_mem_cons, List.forall_mem_append]
    exact ⟨rfl, zeros _, digits⟩
  · simp only [List.forall_mem_append]
    refine ⟨⟨?_, zeros _⟩, ?_⟩
    · exact fun c mem => digits c (List.mem_of_mem_take mem)
    · exact fun c mem => digits c (List.mem_of_mem_drop mem)

end Decimal

namespace Binary64

/-! ## Values of texts -/

section

variable {x y : Binary64} (tie : Tie)

theorem value_shortest_of_zero (zero : x.isZero = true) : (x.shortest tie).value = 0 := by
  rw [shortest, if_pos zero]
  norm_num [Decimal.value, Nat.ofDigitChars]

theorem holds_shortest (nonzero : x.isZero = false) : x.interval.Holds (x.shortest tie).value := by
  obtain ⟨digits, exponent, holds, shortest⟩ := exists_holds tie nonzero
  rw [shortest, Decimal.value_significant]
  exact holds

theorem magnitudeBits_of_value (same : (x.shortest tie).value = (y.shortest tie).value) :
    x.magnitudeBits = y.magnitudeBits := by
  cases hx : x.isZero with
  | true =>
      cases hy : y.isZero with
      | true => exact (beq_iff_eq.mp hx).trans (beq_iff_eq.mp hy).symm
      | false =>
          have positive := (holds_shortest tie hy).pos hy
          rw [← same, value_shortest_of_zero tie hx] at positive
          exact absurd positive (lt_irrefl 0)
  | false =>
      have holds := holds_shortest tie hx
      cases hy : y.isZero with
      | true =>
          have positive := holds.pos hx
          rw [same, value_shortest_of_zero tie hy] at positive
          exact absurd positive (lt_irrefl 0)
      | false =>
          rw [same] at holds
          exact holds.unique (holds_shortest tie hy)

theorem ext_of_magnitudeBits (sign : x.isNegative = y.isNegative)
    (magnitude : x.magnitudeBits = y.magnitudeBits) : x = y := by
  have bounds (z : Binary64) : z.bits.toNat < 2 ^ 64 := z.bits.toNat_lt
  have hx := bounds x
  have hy := bounds y
  have sign : Nat.pow 2 63 ≤ x.bits.toNat ↔ Nat.pow 2 63 ≤ y.bits.toNat := decide_eq_decide.mp sign
  unfold magnitudeBits at magnitude
  rw [Nat.pow_eq] at sign magnitude
  have same : x.bits.toNat = y.bits.toNat := by omega
  obtain ⟨bits⟩ := x
  obtain ⟨bits'⟩ := y
  exact congrArg mk (UInt64.toNat_inj.mp same)

theorem isDigit_shortest (x : Binary64) : ∀ c ∈ (x.shortest tie).digits, c.isDigit = true := by
  cases zero : x.isZero with
  | true =>
      rw [shortest, if_pos zero]
      exact List.forall_mem_singleton.mpr rfl
  | false =>
      obtain ⟨digits, exponent, -, shortest⟩ := exists_holds tie zero
      obtain ⟨k, zeros⟩ := Decimal.exists_zeros digits
      rw [shortest]
      intro c mem
      have digit : c ∈ Nat.toDigits 10 digits := by
        rw [zeros]
        exact List.mem_append_left _ mem
      exact Nat.isDigit_of_mem_toDigits (by decide) (by decide) digit

end

/-! ## Texts -/

def fraction (decimals : List Char) : List Char :=
  if decimals.isEmpty then [] else '.' :: decimals

def unsignedText (x : Binary64) : List Char :=
  if x.isFinite then
    (x.shortest .upward).positional.1 ++ fraction (x.shortest .upward).positional.2
  else "inf".toList

section

variable {whole whole' decimals decimals' : List Char}

theorem fraction_injective (same : fraction decimals = fraction decimals') :
    decimals = decimals' := by
  cases decimals with
  | nil =>
      cases decimals' with
      | nil => rfl
      | cons => cases same
  | cons =>
      cases decimals' with
      | nil => cases same
      | cons => exact (List.cons.inj same).2

theorem takeWhile_digits (digits : ∀ c ∈ whole, c.isDigit = true) :
    (whole ++ fraction decimals).takeWhile Char.isDigit = whole := by
  have stops : (fraction decimals).takeWhile Char.isDigit = [] := by
    cases decimals <;> rfl
  rw [List.takeWhile_append_of_pos digits, stops, List.append_nil]

theorem append_fraction_inj (digits : ∀ c ∈ whole, c.isDigit = true)
    (digits' : ∀ c ∈ whole', c.isDigit = true)
    (same : whole ++ fraction decimals = whole' ++ fraction decimals') :
    whole = whole' ∧ decimals = decimals' := by
  have fronts := congrArg (List.takeWhile Char.isDigit) same
  rw [takeWhile_digits digits, takeWhile_digits digits'] at fronts
  rw [fronts] at same
  exact ⟨fronts, fraction_injective (List.append_cancel_left same)⟩

end

section

variable {x y : Binary64}

theorem toText_of_isNaN (nan : x.isNaN = true) : x.toText = "NaN" := by rw [toText, if_pos nan]

theorem toList_toText (number : x.isNaN = false) :
    x.toText.toList = x.signText ++ x.unsignedText := by
  unfold toText unsignedText signText
  rw [number, if_neg Bool.false_ne_true]
  cases x.isFinite with
  | true =>
      simp only [Bool.not_true, Bool.false_eq_true, if_false, if_true, String.toList_ofList,
        List.append_assoc]
      rfl
  | false =>
      have sign : "-inf".toList = ['-'] ++ "inf".toList := by decide
      cases x.isNegative with
      | true => exact sign
      | false => rfl

theorem unsignedText_of_finite (finite : x.isFinite = true) :
    x.unsignedText =
      (x.shortest .upward).positional.1 ++ fraction (x.shortest .upward).positional.2 :=
  if_pos finite

theorem unsignedText_of_infinite (infinite : x.isFinite = false) :
    x.unsignedText = ['i', 'n', 'f'] := by
  rw [unsignedText, infinite, if_neg Bool.false_ne_true]
  decide

theorem isDigit_head (finite : x.isFinite = true) :
    ∃ first rest, x.unsignedText = first :: rest ∧ first.isDigit = true := by
  obtain ⟨first, rest, whole⟩ := List.exists_cons_of_ne_nil
    (x.shortest .upward).positional_ne_nil
  have digits := Decimal.isDigit_positional (isDigit_shortest .upward x)
  rw [unsignedText_of_finite finite]
  rw [whole] at digits ⊢
  exact ⟨first, _, rfl, digits first List.mem_cons_self⟩

theorem head_unsignedText (x : Binary64) :
    ∃ first rest, x.unsignedText = first :: rest ∧ first ≠ '-' := by
  cases finite : x.isFinite with
  | true =>
      obtain ⟨first, rest, text, digit⟩ := isDigit_head finite
      refine ⟨first, rest, text, ?_⟩
      rintro rfl
      cases digit
  | false => exact ⟨'i', ['n', 'f'], unsignedText_of_infinite finite, by decide⟩

theorem sign_append_inj (same : x.signText ++ x.unsignedText = y.signText ++ y.unsignedText) :
    x.isNegative = y.isNegative ∧ x.unsignedText = y.unsignedText := by
  obtain ⟨first, rest, text, noSign⟩ := head_unsignedText x
  obtain ⟨first', rest', text', noSign'⟩ := head_unsignedText y
  rw [text, text'] at same ⊢
  unfold signText at same
  cases hx : x.isNegative <;> cases hy : y.isNegative <;> rw [hx, hy] at same
  · exact ⟨rfl, same⟩
  · exact absurd (List.cons.inj same).1 noSign
  · exact absurd (List.cons.inj same).1.symm noSign'
  · exact ⟨rfl, (List.cons.inj same).2⟩

theorem magnitudeBits_of_infinite (infinite : x.isFinite = false) (number : x.isNaN = false) :
    x.magnitudeBits = infinityBits := by
  have exponent : x.exponentBits = 2047 := by simpa [isFinite] using infinite
  have fraction : x.fractionBits = 0 := by simpa [isNaN, exponent] using number
  unfold exponentBits at exponent
  unfold fractionBits at fraction
  rw [Nat.pow_eq] at exponent fraction
  have bits : infinityBits = 2047 * 2 ^ 52 := rfl
  omega

theorem magnitudeBits_of_unsignedText (hx : x.isNaN = false) (hy : y.isNaN = false)
    (same : x.unsignedText = y.unsignedText) : x.magnitudeBits = y.magnitudeBits := by
  have noDigit : ¬Char.isDigit 'i' = true := by decide
  cases finite : x.isFinite with
  | true =>
      cases finite' : y.isFinite with
      | true =>
          have digits (z : Binary64) :=
            Decimal.isDigit_positional (isDigit_shortest .upward z)
          have front (z : Binary64) : ∀ c ∈ (z.shortest .upward).positional.1, c.isDigit = true :=
            fun c mem => digits z c (List.mem_append_left _ mem)
          rw [unsignedText_of_finite finite, unsignedText_of_finite finite'] at same
          obtain ⟨wholes, decimals⟩ := append_fraction_inj (front x) (front y) same
          apply magnitudeBits_of_value .upward
          rw [← Decimal.valueAt_positional, ← Decimal.valueAt_positional, wholes, decimals]
      | false =>
          obtain ⟨first, rest, text, digit⟩ := isDigit_head finite
          rw [text, unsignedText_of_infinite finite'] at same
          rw [(List.cons.inj same).1] at digit
          exact absurd digit noDigit
  | false =>
      cases finite' : y.isFinite with
      | true =>
          obtain ⟨first, rest, text, digit⟩ := isDigit_head finite'
          rw [text, unsignedText_of_infinite finite] at same
          rw [← (List.cons.inj same).1] at digit
          exact absurd digit noDigit
      | false => rw [magnitudeBits_of_infinite finite hx, magnitudeBits_of_infinite finite' hy]

theorem toText_injective (hx : x.isNaN = false) (hy : y.isNaN = false)
    (same : x.toText = y.toText) : x = y := by
  have chars := congrArg String.toList same
  rw [toList_toText hx, toList_toText hy] at chars
  obtain ⟨sign, unsigned⟩ := sign_append_inj chars
  exact ext_of_magnitudeBits sign (magnitudeBits_of_unsignedText hx hy unsigned)

theorem not_isNaN_of_finite (finite : x.isFinite = true) : x.isNaN = false := by
  rw [isFinite, bne_iff_ne] at finite
  rw [isNaN, beq_eq_false_iff_ne.mpr finite, Bool.false_and]

theorem head_toText_of_finite (finite : x.isFinite = true) :
    ∃ first rest, x.toText.toList = first :: rest ∧ (first = '-' ∨ first.isDigit = true) := by
  obtain ⟨first, rest, unsigned, digit⟩ := isDigit_head finite
  rw [toList_toText (not_isNaN_of_finite finite), unsigned, signText]
  split
  · exact ⟨'-', first :: rest, rfl, .inl rfl⟩
  · exact ⟨first, rest, rfl, .inr digit⟩

theorem head_toText (number : x.isNaN = false) :
    x.toText = "inf" ∨ ∃ first rest, x.toText.toList = first :: rest ∧
      (first = '-' ∨ first.isDigit = true) := by
  cases finite : x.isFinite with
  | true => exact .inr (head_toText_of_finite finite)
  | false =>
      have text := toList_toText number
      rw [unsignedText_of_infinite finite, signText] at text
      split at text
      · exact .inr ⟨'-', ['i', 'n', 'f'], text, .inl rfl⟩
      · exact .inl (String.toList_inj.mp text)

/-- The number itself, and one NaN in place of all. -/
def withoutPayload (x : Binary64) : Binary64 :=
  if x.isNaN then ofMagnitude false (infinityBits + 1) else x

theorem toText_ne_nan (number : x.isNaN = false) : x.toText ≠ "NaN" := by
  intro same
  rcases head_toText number with infinite | ⟨first, rest, text, start⟩
  · rw [same] at infinite
    exact absurd infinite (by decide)
  · rw [same] at text
    obtain rfl : 'N' = first := (List.cons.inj text).1
    exact absurd start (by decide)

theorem toText_eq_iff : x.toText = y.toText ↔ x.withoutPayload = y.withoutPayload := by
  have nan : (ofMagnitude false (infinityBits + 1)).isNaN = true := by decide +kernel
  unfold withoutPayload
  cases hx : x.isNaN <;> cases hy : y.isNaN
  · exact ⟨toText_injective hx hy, congrArg toText⟩
  · rw [toText_of_isNaN hy]
    refine iff_of_false (toText_ne_nan hx) ?_
    rintro rfl
    exact Bool.false_ne_true (hx.symm.trans nan)
  · rw [toText_of_isNaN hx]
    refine iff_of_false (toText_ne_nan hy).symm ?_
    rintro rfl
    exact Bool.false_ne_true (hy.symm.trans nan)
  · rw [toText_of_isNaN hx, toText_of_isNaN hy]
    exact iff_of_true rfl rfl

theorem toText_withoutPayload (x : Binary64) : x.withoutPayload.toText = x.toText := by
  have nan : (ofMagnitude false (infinityBits + 1)).isNaN = true := by decide +kernel
  unfold withoutPayload
  split
  · rw [toText_of_isNaN nan, toText_of_isNaN ‹_›]
  · rfl

theorem toText_ne_empty (x : Binary64) : x.toText.toList ≠ [] := by
  cases nan : x.isNaN with
  | true =>
      rw [toText_of_isNaN nan]
      decide
  | false =>
      obtain ⟨first, rest, text, -⟩ := head_unsignedText x
      rw [toList_toText nan, text]
      exact List.append_ne_nil_of_right_ne_nil _ (List.cons_ne_nil first rest)

theorem isWord_unsignedText (x : Binary64) : Text.IsWord x.unsignedText := by
  cases finite : x.isFinite with
  | true =>
      have digits := Decimal.isDigit_positional (isDigit_shortest .upward x)
      rw [List.forall_mem_append] at digits
      rw [unsignedText_of_finite finite]
      cases decimals : (x.shortest .upward).positional.2 with
      | nil =>
          rw [show fraction [] = [] from rfl, List.append_nil]
          exact Text.isWord_of_isDigit digits.1
      | cons c rest =>
          -- The word ends with the last decimal, which is not the point.
          rw [decimals] at digits
          rw [show fraction (c :: rest) = ['.'] ++ (c :: rest) from rfl, ← List.append_assoc]
          apply (Text.isWord_of_isDigit digits.2).append_left (List.cons_ne_nil c rest)
          rw [List.forall_mem_append, List.forall_mem_singleton]
          exact ⟨fun c mem => (Text.isWord_of_isDigit digits.1).chars c mem, by decide⟩
  | false =>
      rw [unsignedText_of_infinite finite]
      exact ⟨List.all_eq_true.mp rfl, by decide⟩

theorem isWord_toText (x : Binary64) : Text.IsWord x.toText.toList := by
  cases nan : x.isNaN with
  | true =>
      rw [toText_of_isNaN nan]
      exact ⟨List.all_eq_true.mp rfl, by decide⟩
  | false =>
      obtain ⟨first, rest, text, -⟩ := head_unsignedText x
      have some : x.unsignedText ≠ [] := text ▸ List.cons_ne_nil first rest
      rw [toList_toText nan]
      apply (isWord_unsignedText x).append_left some
      unfold signText
      split
      · exact List.forall_mem_singleton.mpr rfl
      · exact List.forall_mem_nil _

end

end Binary64

end Proofbook
