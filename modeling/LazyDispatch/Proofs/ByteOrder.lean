import Mathlib.Tactic.SplitIfs

/-! Texts in byte order. UTF-8 keeps the order of code points, so that texts compare by their letters
as they do by their bytes. -/

namespace LazyDispatch.Text

def bytes (text : String) : List UInt8 := text.toByteArray.data.toList

theorem bytes_eq (text : String) : bytes text = text.toList.flatMap String.utf8EncodeChar := by
  rw [bytes, ← String.utf8Encode_toList, List.utf8Encode]
  simp

theorem toNat_lt (c : Char) : c.val.toNat < 0x110000 := by
  rcases c.valid with low | ⟨-, high⟩
  · exact Nat.lt_trans low (by decide)
  · exact high

theorem exists_digits {v : Nat} (bound : v < 0x110000) :
    ∃ p q r s, v = p * 262144 + q * 4096 + r * 64 + s ∧ p < 8 ∧ q < 64 ∧ r < 64 ∧ s < 64 ∧
      v / 262144 % 8 = p ∧ v / 4096 % 64 = q ∧ v / 64 % 64 = r ∧ v % 64 = s := by
  refine ⟨_, _, _, _, ?_, ?_, ?_, ?_, ?_, rfl, rfl, rfl, rfl⟩
  · omega
  · exact Nat.mod_lt _ (by decide)
  · exact Nat.mod_lt _ (by decide)
  · exact Nat.mod_lt _ (by decide)
  · exact Nat.mod_lt _ (by decide)

theorem encode_lt {c d : Char} (before : c < d) (rest others : List UInt8) :
    String.utf8EncodeChar c ++ rest < String.utf8EncodeChar d ++ others := by
  have less : c.val.toNat < d.val.toNat := before
  have bound := toNat_lt d
  simp only [String.utf8EncodeChar]
  generalize c.val.toNat = v at less ⊢
  generalize d.val.toNat = w at less bound ⊢
  by_cases four : v ≤ 0xffff
  · split_ifs <;>
      simp only [List.cons_append, List.nil_append, List.cons_lt_cons_iff, UInt8.lt_iff_toNat_lt,
        ← UInt8.toNat_inj, UInt8.toNat_ofNat'] <;>
      omega
  · have large : ¬ w ≤ 0xffff := by omega
    obtain ⟨p, q, r, s, sum, _, _, _, _, first, second, third, fourth⟩ :=
      exists_digits (Nat.lt_trans less bound)
    obtain ⟨p', q', r', s', sum', _, _, _, _, first', second', third', fourth'⟩ :=
      exists_digits bound
    rw [if_neg (by omega), if_neg (by omega), if_neg four, if_neg (by omega), if_neg (by omega),
      if_neg large]
    simp only [List.cons_append, List.nil_append, List.cons_lt_cons_iff, UInt8.lt_iff_toNat_lt,
      ← UInt8.toNat_inj, UInt8.toNat_ofNat', first, second, third, fourth, first', second', third',
      fourth']
    clear first second third fourth first' second' third' fourth'
    omega

theorem bytes_lt {left right : String} (before : left < right) : bytes left < bytes right := by
  rw [bytes_eq, bytes_eq]
  have letters : left.toList < right.toList := before
  generalize left.toList = front at letters ⊢
  generalize right.toList = back at letters ⊢
  induction letters with
  | nil =>
      rename_i c back
      rw [List.flatMap_nil, List.flatMap_cons]
      obtain ⟨byte, bytes, some⟩ := List.exists_cons_of_ne_nil (@String.utf8EncodeChar_ne_nil c)
      rw [some]
      exact List.nil_lt_cons _ _
  | rel first => exact encode_lt first _ _
  | cons _ ih => exact List.append_left_lt ih

end LazyDispatch.Text
