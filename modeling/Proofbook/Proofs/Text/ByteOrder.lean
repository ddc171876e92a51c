import Mathlib.Algebra.Ring.Nat

/-!
The UTF-8 form of a character is a leading byte, larger the more bytes follow it, and then the
remaining digits of the code point to base 64. Hence the order of code points is that of the bytes.
-/

namespace Proofbook.Text

def bytes (s : String) : List UInt8 := s.toUTF8.data.toList

theorem bytes_eq (s : String) : bytes s = s.toList.flatMap String.utf8EncodeChar := by
  change s.toByteArray.data.toList = _
  rw [← String.utf8Encode_toList, List.utf8Encode, List.toList_data_toByteArray]

/-! ## Characters -/

def followers (code : Nat) : Nat :=
  if code ≤ 127 then 0 else if code ≤ 2047 then 1 else if code ≤ 65535 then 2 else 3

/-- The mark in a leading byte that says how many bytes follow. -/
def mark : Nat → Nat
  | 0 => 0
  | 1 => 192
  | 2 => 224
  | _ => 240

/-- The last digits of a code point to base 64, each with the mark of a byte that follows. -/
def digits (code : Nat) : Nat → List UInt8
  | 0 => []
  | n + 1 => UInt8.ofNat (code / 64 ^ n % 64 + 128) :: digits code n

def leading (code : Nat) : Nat := code / 64 ^ followers code + mark (followers code)

theorem toNat_val_lt (c : Char) : c.val.toNat < 1114112 := by
  rcases c.valid with low | ⟨-, high⟩
  · exact Nat.lt_trans low (by decide)
  · exact high

theorem utf8EncodeChar_eq (c : Char) :
    String.utf8EncodeChar c =
      UInt8.ofNat (leading c.val.toNat) :: digits c.val.toNat (followers c.val.toNat) := by
  have bound := toNat_val_lt c
  unfold String.utf8EncodeChar leading followers
  generalize c.val.toNat = code at bound
  by_cases one : code ≤ 127
  · simp only [if_pos one, digits, mark, Nat.pow_zero, Nat.div_one, Nat.add_zero]
  by_cases two : code ≤ 2047
  · have small : code / 64 % 32 = code / 64 := Nat.mod_eq_of_lt (by omega)
    simp only [if_neg one, if_pos two, digits, mark, small, Nat.pow_zero, Nat.pow_one, Nat.div_one]
  by_cases three : code ≤ 65535
  · have small : code / 4096 % 16 = code / 4096 := Nat.mod_eq_of_lt (by omega)
    simp only [if_neg one, if_neg two, if_pos three, digits, mark, small, Nat.pow_zero,
      Nat.pow_one, Nat.div_one, Nat.reducePow]
  · have small : code / 262144 % 8 = code / 262144 := Nat.mod_eq_of_lt (by omega)
    simp only [if_neg one, if_neg two, if_neg three, digits, mark, small, Nat.pow_zero,
      Nat.pow_one, Nat.div_one, Nat.reducePow]

theorem cons_lt_cons_of_lt {a b : Nat} (lt : a < b) (small : b < 256) (s t : List UInt8) :
    UInt8.ofNat a :: s < UInt8.ofNat b :: t := by
  refine List.cons_lt_cons_iff.mpr (.inl ?_)
  rw [UInt8.lt_iff_toNat_lt, UInt8.toNat_ofNat', UInt8.toNat_ofNat']
  omega

theorem digits_append_lt {a b n : Nat} (lt : a < b) (same : a / 64 ^ n = b / 64 ^ n)
    (s t : List UInt8) : digits a n ++ s < digits b n ++ t := by
  induction n with
  | zero =>
      rw [Nat.pow_zero, Nat.div_one, Nat.div_one] at same
      omega
  | succ n ih =>
      rw [Nat.pow_succ, ← Nat.div_div_eq_div_mul, ← Nat.div_div_eq_div_mul] at same
      rw [digits, digits, List.cons_append, List.cons_append]
      have le : a / 64 ^ n ≤ b / 64 ^ n := Nat.div_le_div_right (Nat.le_of_lt lt)
      rcases Nat.lt_or_eq_of_le le with less | equal
      · exact cons_lt_cons_of_lt (by omega) (by omega) _ _
      · rw [equal]
        exact List.cons_lt_cons_iff.mpr (.inr ⟨rfl, ih equal⟩)

theorem followers_cases (code : Nat) :
    code ≤ 127 ∧ followers code = 0 ∨ 127 < code ∧ code ≤ 2047 ∧ followers code = 1 ∨
      2047 < code ∧ code ≤ 65535 ∧ followers code = 2 ∨ 65535 < code ∧ followers code = 3 := by
  unfold followers
  split
  · omega
  · split
    · omega
    · split <;> omega

theorem leading_lt {a b : Nat} (lt : a < b) (bound : b < 1114112)
    (other : ¬(followers a = followers b ∧ a / 64 ^ followers a = b / 64 ^ followers b)) :
    leading a < leading b ∧ leading b < 256 := by
  unfold leading
  rcases followers_cases a with ⟨_, ha⟩ | ⟨_, _, ha⟩ | ⟨_, _, ha⟩ | ⟨_, ha⟩ <;>
    rcases followers_cases b with ⟨_, hb⟩ | ⟨_, _, hb⟩ | ⟨_, _, hb⟩ | ⟨_, hb⟩ <;>
    simp only [ha, hb, mark, Nat.reducePow, true_and] at other ⊢ <;> omega

theorem utf8EncodeChar_append_lt {c d : Char} (lt : c < d) (s t : List UInt8) :
    String.utf8EncodeChar c ++ s < String.utf8EncodeChar d ++ t := by
  have less : c.val.toNat < d.val.toNat := lt
  rw [utf8EncodeChar_eq, utf8EncodeChar_eq, List.cons_append, List.cons_append]
  generalize c.val.toNat = a at less
  have bound := toNat_val_lt d
  generalize d.val.toNat = b at less bound
  by_cases same : followers a = followers b ∧ a / 64 ^ followers a = b / 64 ^ followers b
  · obtain ⟨length, equal⟩ := same
    have first : leading a = leading b := by rw [leading, leading, equal, length]
    rw [first, length]
    exact List.cons_lt_cons_iff.mpr (.inr ⟨rfl, digits_append_lt less (length ▸ equal) s t⟩)
  · obtain ⟨first, small⟩ := leading_lt less bound same
    exact cons_lt_cons_of_lt first small _ _

/-! ## Texts -/

theorem flatMap_utf8EncodeChar_lt {s t : List Char} (lt : s < t) :
    s.flatMap String.utf8EncodeChar < t.flatMap String.utf8EncodeChar := by
  induction lt with
  | nil =>
      rw [List.flatMap_cons, utf8EncodeChar_eq]
      exact List.nil_lt_cons _ _
  | rel lt => exact utf8EncodeChar_append_lt lt _ _
  | cons _ ih => exact List.append_left_lt ih

theorem bytes_lt_bytes {s t : String} (lt : s < t) : bytes s < bytes t := by
  have characters : s.toList < t.toList := lt
  rw [bytes_eq, bytes_eq]
  exact flatMap_utf8EncodeChar_lt characters

end Proofbook.Text
