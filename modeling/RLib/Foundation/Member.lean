import RLib.Foundation.Bytes
import Mathlib.Data.BitVec

/-! Members that share a block of bytes, as those of a union do. -/

namespace Bytes

/-- A member of a block, `off` bytes from its start. -/
structure Member (α : Type*) where
  codec : Codec α
  off : Nat

variable {α β : Type*} {f : Member α} {g : Member β} {b : List Byte}

theorem number_append (low high : List Byte) : number (low ++ high) = number low + 256 ^ low.length * number high := by
  induction low with
  | nil => simp [number]
  | cons byte low ih =>
    rw [List.cons_append, number, number, ih, List.length_cons, Nat.pow_succ, Nat.mul_add, ← Nat.add_assoc,
      ← Nat.mul_assoc, Nat.mul_comm 256 (256 ^ low.length)]

namespace Member

def stop (f : Member α) : Nat := f.off + f.codec.size

def get (f : Member α) (b : List Byte) : α := f.codec.get (slice b f.off f.codec.size)

def set (f : Member α) (a : α) (b : List Byte) : List Byte := store b f.off (f.codec.put a)

def Apart (f : Member α) (g : Member β) : Prop := f.stop ≤ g.off ∨ g.stop ≤ f.off

instance (f : Member α) (g : Member β) : Decidable (f.Apart g) := inferInstanceAs (Decidable (_ ∨ _))

theorem set_length (inside : f.stop ≤ b.length) (a : α) : (f.set a b).length = b.length := by
  apply store_length
  simpa [stop] using inside

theorem get_set (inside : f.stop ≤ b.length) (a : α) : f.get (f.set a b) = a := by
  have stored := slice_store b f.off (f.codec.put a) (by simpa [stop] using inside)
  rw [Codec.put_length] at stored
  rw [get, set, stored, Codec.get_put_self]

theorem get_set_apart (inside : g.stop ≤ b.length) (apart : f.Apart g) (a : β) : f.get (g.set a b) = f.get b := by
  rw [get, get, set, slice_store_apart]
  · simpa [stop] using inside
  · simpa [Apart, stop] using apart

/-- A word that starts where a wider one does is its low part. -/
theorem get_low {off low wide : Nat} (fits : low ≤ wide) (inside : off + wide ≤ b.length) :
    ((⟨Codec.word wide, off⟩ : Member _).get b).setWidth (8 * low) = (⟨Codec.word low, off⟩ : Member _).get b := by
  have split : slice b off wide = slice b off low ++ slice b (off + low) (wide - low) := by
    simp only [slice, ← List.drop_drop]
    rw [← List.take_add, Nat.add_sub_cancel' fits]
  have lowLength := slice_length b off low (by omega)
  have bound := number_bound (slice b off low)
  rw [lowLength] at bound
  have base : 2 ^ (8 * low) = 256 ^ low := by rw [Nat.pow_mul]
  have wideBase : 2 ^ (8 * wide) = 256 ^ low * 256 ^ (wide - low) := by
    rw [Nat.pow_mul, ← Nat.pow_add, Nat.add_sub_cancel' fits]
  apply BitVec.eq_of_toNat_eq
  simp only [get, Codec.word, BitVec.toNat_setWidth, BitVec.toNat_ofNat]
  rw [List.take_of_length_le (by rw [slice_length _ _ _ inside]), List.take_of_length_le (by rw [lowLength]), split,
    number_append, lowLength, base, wideBase, Nat.mod_mul_right_mod, Nat.add_mul_mod_self_left]

end Member

end Bytes
