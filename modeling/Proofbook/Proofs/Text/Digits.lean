import Proofbook.Text.Numeral

namespace Proofbook.Text

variable {base m n : Nat}

theorem forall_toDigits (holds : Char → Prop) (large : 1 < base)
    (all : ∀ d, d < base → holds d.digitChar) (n : Nat) : ∀ c ∈ base.toDigits n, holds c := by
  induction n using Nat.strongRecOn with
  | ind n ih =>
      rw [Nat.toDigits_eq_if large]
      split
      · intro c mem
        rw [List.mem_singleton.mp mem]
        exact all n ‹_›
      · have smaller : n / base < n := Nat.div_lt_self (by omega) large
        intro c mem
        rcases List.mem_append.mp mem with front | last
        · exact ih (n / base) smaller c front
        · rw [List.mem_singleton.mp last]
          exact all (n % base) (Nat.mod_lt n (by omega))

theorem isDigit_of_mem_numeral {c : Char} (mem : c ∈ (numeral n).toList) : c.isDigit = true := by
  rw [numeral, String.toList_ofList] at mem
  exact Nat.isDigit_of_mem_toDigits (by decide) (by decide) mem

theorem not_isDigit_of_isAlpha {c : Char} (alpha : c.isAlpha = true) : ¬c.isDigit = true := by
  intro digit
  have most : c.val ≤ 57 := of_decide_eq_true (Bool.and_eq_true_iff.mp digit).2
  rcases Bool.or_eq_true_iff.mp alpha with upper | lower
  · have least : 65 ≤ c.val := (of_decide_eq_true upper).1
    exact absurd (UInt32.le_trans least most) (by decide)
  · have least : 97 ≤ c.val := of_decide_eq_true (Bool.and_eq_true_iff.mp lower).1
    exact absurd (UInt32.le_trans least most) (by decide)

theorem digitChar_injOn (hm : m < 16) (hn : n < 16) (same : m.digitChar = n.digitChar) :
    m = n := by
  have all : ∀ m < 16, ∀ n < 16, m.digitChar = n.digitChar → m = n := by decide
  exact all m hm n hn same

theorem toDigits_ne_of_lt_of_le (large : 1 < base) (lt : m < base) (le : base ≤ n) :
    base.toDigits m ≠ base.toDigits n := by
  rw [Nat.toDigits_of_lt_base lt, Nat.toDigits_of_base_le large le]
  intro same
  have lengths := congrArg List.length same
  rw [List.length_append, List.length_singleton, List.length_singleton] at lengths
  have some : 0 < (base.toDigits (n / base)).length := Nat.length_toDigits_pos
  omega

theorem toDigits_injective (large : 1 < base) (small : base ≤ 16)
    (same : base.toDigits m = base.toDigits n) : m = n := by
  induction m using Nat.strongRecOn generalizing n with
  | ind m ih =>
      have pos : 0 < base := by omega
      by_cases hm : m < base
      · by_cases hn : n < base
        · rw [Nat.toDigits_of_lt_base hm, Nat.toDigits_of_lt_base hn] at same
          exact digitChar_injOn (by omega) (by omega) (List.singleton_inj.mp same)
        · exact absurd same (toDigits_ne_of_lt_of_le large hm (by omega))
      · by_cases hn : n < base
        · exact absurd same.symm (toDigits_ne_of_lt_of_le large hn (by omega))
        · have smaller : m / base < m := Nat.div_lt_self (by omega) large
          have digit (k : Nat) : k % base < 16 := Nat.lt_of_lt_of_le (Nat.mod_lt k pos) small
          rw [Nat.toDigits_of_base_le large (Nat.not_lt.mp hm),
            Nat.toDigits_of_base_le large (Nat.not_lt.mp hn)] at same
          obtain ⟨front, last⟩ := List.append_inj' same rfl
          have quotients := ih (m / base) smaller front
          have rests := digitChar_injOn (digit m) (digit n) (List.singleton_inj.mp last)
          rw [← Nat.div_add_mod m base, ← Nat.div_add_mod n base, quotients, rests]

end Proofbook.Text
