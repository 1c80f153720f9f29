import Mathlib.Data.List.Induction
import Mathlib.Tactic.Ring
import Tabula.Postgres.Decoding

/-!
# Numbers and texts as bytes

What is written with the highest byte first is read so: naturals, integers in two's complement that
fit, and texts.

* `natOf_bytesOf`, `intOf?_intBytes`, `textOf?_toUTF8`: what is read.
-/

namespace Tabula.Postgres

/-! ## Numbers -/

@[simp] theorem length_bytesOf (width n : Nat) : (bytesOf width n).length = width := by
  induction width with
  | zero => rfl
  | succ width ih => rw [bytesOf, List.length_cons, ih]

/-- Bytes that follow others are worth less. -/
theorem natOf_append (as bs : List UInt8) :
    natOf (as ++ bs) = natOf as * 256 ^ bs.length + natOf bs := by
  induction bs using List.reverseRecOn generalizing as with
  | nil => simp [natOf]
  | append_singleton bs b ih =>
    have hlast (cs : List UInt8) : natOf (cs ++ [b]) = 256 * natOf cs + b.toNat := by
      rw [natOf, List.foldl_append]
      rfl
    rw [← List.append_assoc, hlast, hlast, ih, List.length_append, List.length_singleton, pow_succ]
    ring

/-- **A natural is read as it was written**, but for what is beyond the bytes. -/
theorem natOf_bytesOf (width n : Nat) : natOf (bytesOf width n) = n % 256 ^ width := by
  induction width with
  | zero => rw [pow_zero, Nat.mod_one]; rfl
  | succ width ih =>
    have hhead : natOf [UInt8.ofNat (n / Nat.pow 256 width)] = n / 256 ^ width % 256 := by
      simp [natOf]
    rw [bytesOf, ← List.singleton_append, natOf_append, hhead, length_bytesOf, ih, pow_succ,
      Nat.mod_mul, Nat.mul_comm, Nat.add_comm]

theorem wordOf?_bytesOf (width n : Nat) :
    wordOf? width (bytesOf width n) = some (n % 256 ^ width) := by
  rw [wordOf?, if_pos (length_bytesOf _ _), natOf_bytesOf]

/-- **An integer that fits is read as it was written.** -/
theorem intOf?_intBytes {width : Nat} {i : Int} (hpos : 0 < width)
    (h : fitsSigned (8 * width) i = true) : intOf? width (intBytes width i) = some i := by
  have hhalf : 256 ^ width = 2 * 2 ^ (8 * width - 1) := by
    rw [show 256 = 2 ^ 8 from rfl, ← pow_mul, ← pow_succ', Nat.sub_add_cancel (by omega)]
  have hne : ((256 ^ width : Nat) : Int) ≠ 0 := by
    exact_mod_cast (Nat.pow_pos (by decide : 0 < 256)).ne'
  have hnonneg : 0 ≤ i % ((256 ^ width : Nat) : Int) := Int.emod_nonneg _ hne
  have hlt : (i % ((256 ^ width : Nat) : Int)).toNat < 256 ^ width := by
    have := Int.emod_lt_of_pos i (lt_of_le_of_ne (Int.natCast_nonneg _) hne.symm)
    omega
  simp only [fitsSigned, Bool.and_eq_true, decide_eq_true_eq] at h
  obtain ⟨hle, hgt⟩ := h
  rw [intOf?, intBytes, if_pos (length_bytesOf _ _), natOf_bytesOf]
  simp only [Nat.pow_eq] at hle hgt ⊢
  rw [Nat.mod_eq_of_lt hlt, Int.toNat_of_nonneg hnonneg, Int.emod_bmod,
    Int.bmod_eq_of_le (by omega) (by omega)]

/-! ## Texts -/

theorem toList_loop (b : ByteArray) (i : Nat) (acc : List UInt8) :
    ByteArray.toList.loop b i acc = acc.reverse ++ b.data.toList.drop i := by
  fun_induction ByteArray.toList.loop b i acc with
  | case1 i acc hi ih =>
    have hsize : i < b.data.toList.length := hi
    have hget : b.get! i = b.data.toList[i] :=
      (getElem!_pos b.data i hi).trans (Array.getElem_toList hi).symm
    rw [ih, List.reverse_cons, List.append_assoc, List.drop_eq_getElem_cons hsize, hget]
    rfl
  | case2 i acc hi =>
    have hsize : b.data.toList.length ≤ i := Nat.le_of_not_lt hi
    rw [List.drop_eq_nil_of_le hsize, List.append_nil]

theorem toList_eq (b : ByteArray) : b.toList = b.data.toList := toList_loop b 0 []

/-- **A text is read as it was written.** -/
theorem textOf?_toUTF8 (s : String) : textOf? s.toUTF8.toList = some s := by
  have hbytes : s.toUTF8.toList.toByteArray = s.toUTF8 := by
    rw [toList_eq]
    exact ByteArray.ext List.data_toByteArray
  have hvalid : s.toUTF8.IsValidUTF8 := s.isValidUTF8
  rw [textOf?, hbytes, String.fromUTF8?, dif_pos hvalid]
  rfl

end Tabula.Postgres
