import Mathlib.Data.Vector.Basic

namespace Bytes

abbrev Byte := BitVec 8

/-- The `width` bytes of `value`, least significant first. -/
def littleEndian : Nat → Nat → List Byte
  | 0, _ => []
  | width + 1, value => BitVec.ofNat 8 value :: littleEndian width (value / 256)

def number : List Byte → Nat
  | [] => 0
  | low :: rest => low.toNat + 256 * number rest

@[simp] theorem littleEndian_length (width value : Nat) : (littleEndian width value).length = width := by
  induction width generalizing value with
  | zero => rfl
  | succ width ih => simp only [littleEndian, List.length_cons, ih]

theorem number_bound (bytes : List Byte) : number bytes < 256 ^ bytes.length := by
  induction bytes with
  | nil => decide
  | cons low rest ih =>
    have bound := low.isLt
    simp only [number, List.length_cons, Nat.pow_succ]
    omega

theorem number_littleEndian (width value : Nat) : number (littleEndian width value) = value % 256 ^ width := by
  induction width generalizing value with
  | zero => simp only [littleEndian, number, Nat.pow_zero, Nat.mod_one]
  | succ width ih =>
    have digits : value % 256 ^ (width + 1) = value % 256 + 256 * (value / 256 % 256 ^ width) := by
      rw [Nat.pow_succ, Nat.mul_comm, Nat.mod_mul]
    rw [littleEndian, number, ih, BitVec.toNat_ofNat, digits]

theorem littleEndian_number (bytes : List Byte) : littleEndian bytes.length (number bytes) = bytes := by
  induction bytes with
  | nil => rfl
  | cons low rest ih =>
    have bound := low.isLt
    have quotient : (low.toNat + 256 * number rest) / 256 = number rest := by omega
    have remainder : BitVec.ofNat 8 (low.toNat + 256 * number rest) = low := by
      apply BitVec.eq_of_toNat_eq
      rw [BitVec.toNat_ofNat]
      omega
    simp only [List.length_cons, number, littleEndian, quotient, remainder, ih]

/-- The `len` elements of `b` from index `off` on. -/
def slice {α : Type*} (b : List α) (off len : Nat) : List α := (b.drop off).take len

theorem slice_length {α : Type*} (b : List α) (off len : Nat) (inside : off + len ≤ b.length) :
    (slice b off len).length = len := by
  simp only [slice, List.length_take, List.length_drop]
  omega

theorem slice_zero {α : Type*} (b : List α) (off : Nat) : slice b off 0 = [] := rfl

theorem slice_slice {α : Type*} (b : List α) (off len : Nat) {off' len' : Nat} (inside : off' + len' ≤ len) :
    slice (slice b off len) off' len' = slice b (off + off') len' := by
  simp only [slice, List.drop_take, List.drop_drop, List.take_take]
  rw [Nat.min_eq_left (by omega)]

theorem slice_append_left {α : Type*} (left right : List α) (off len : Nat)
    (inside : off + len ≤ left.length) : slice (left ++ right) off len = slice left off len := by
  rw [slice, slice, List.drop_append_of_le_length (by omega),
    List.take_append_of_le_length (by rw [List.length_drop]; omega)]

theorem slice_middle {α : Type*} (left middle right : List α) :
    slice (left ++ (middle ++ right)) left.length middle.length = middle := by
  rw [slice, List.drop_left, List.take_left]

/-- The buffer `b` after the elements `w` were stored at index `off`. -/
def store {α : Type*} (b : List α) (off : Nat) (w : List α) : List α :=
  b.take off ++ w ++ b.drop (off + w.length)

theorem store_middle {α : Type*} (left old right w : List α) (same : w.length = old.length) :
    store (left ++ (old ++ right)) left.length w = left ++ (w ++ right) := by
  have rest : (left ++ (old ++ right)).drop (left.length + w.length) = right := by
    rw [← List.drop_drop, List.drop_left, same, List.drop_left]
  rw [store, List.take_left, rest, List.append_assoc]

theorem store_length {α : Type*} (b : List α) (off : Nat) (w : List α) (inside : off + w.length ≤ b.length) :
    (store b off w).length = b.length := by
  simp only [store, List.length_append, List.length_take, List.length_drop]
  omega

theorem store_getElem? {α : Type*} (b : List α) (off : Nat) (w : List α) (inside : off + w.length ≤ b.length)
    (i : Nat) :
    (store b off w)[i]? = if off ≤ i ∧ i < off + w.length then w[i - off]? else b[i]? := by
  have front : (b.take off).length = off := by
    rw [List.length_take]
    omega
  rw [store, List.append_assoc]
  by_cases before : i < off
  · rw [List.getElem?_append_left (by omega), List.getElem?_take_of_lt before, if_neg (by omega)]
  · rw [List.getElem?_append_right (by omega), front]
    by_cases behind : i < off + w.length
    · rw [List.getElem?_append_left (by omega), if_pos (by omega)]
    · rw [List.getElem?_append_right (by omega), if_neg (by omega), List.getElem?_drop]
      congr 1
      omega

theorem slice_getElem? {α : Type*} (b : List α) (off len i : Nat) :
    (slice b off len)[i]? = if i < len then b[off + i]? else none := by
  rw [slice, List.getElem?_take, List.getElem?_drop]

theorem slice_store {α : Type*} (b : List α) (off : Nat) (w : List α) (inside : off + w.length ≤ b.length) :
    slice (store b off w) off w.length = w := by
  apply List.ext_getElem?
  intro i
  rw [slice_getElem?]
  by_cases there : i < w.length
  · rw [if_pos there, store_getElem? b off w inside, if_pos (by omega), Nat.add_sub_cancel_left]
  · rw [if_neg there, List.getElem?_eq_none (Nat.not_lt.mp there)]

theorem slice_store_apart {α : Type*} (b : List α) (off : Nat) (w : List α) (inside : off + w.length ≤ b.length)
    {off' len : Nat} (apart : off' + len ≤ off ∨ off + w.length ≤ off') :
    slice (store b off w) off' len = slice b off' len := by
  apply List.ext_getElem?
  intro i
  rw [slice_getElem?, slice_getElem?]
  by_cases there : i < len
  · rw [if_pos there, if_pos there, store_getElem? b off w inside, if_neg (by omega)]
  · rw [if_neg there, if_neg there]

theorem drop_store {α : Type*} (b : List α) (off : Nat) (w : List α) (inside : off + w.length ≤ b.length) {k : Nat}
    (behind : off + w.length ≤ k) : (store b off w).drop k = b.drop k := by
  apply List.ext_getElem?
  intro i
  rw [List.getElem?_drop, List.getElem?_drop, store_getElem? b off w inside, if_neg (by omega)]

/-- What a buffer of fixed length holds after `d` was received into its front. -/
def overlay {α : Type*} (d old : List α) : List α := d.take old.length ++ old.drop d.length

theorem overlay_length {α : Type*} (d old : List α) : (overlay d old).length = old.length := by
  simp only [overlay, List.length_append, List.length_take, List.length_drop]
  omega

theorem overlay_of_le {α : Type*} (d old : List α) (fits : d.length ≤ old.length) :
    overlay d old = d ++ old.drop d.length := by
  rw [overlay, List.take_of_length_le fits]

/-- A fixed-size byte format: every value has one encoding and every encoding one value. -/
structure Codec (α : Type*) where
  size : Nat
  put : α → List Byte
  get : List Byte → α
  put_length : ∀ a, (put a).length = size
  get_put : ∀ a rest, get (put a ++ rest) = a
  put_get : ∀ b, size ≤ b.length → put (get b) = b.take size

attribute [simp] Codec.put_length Codec.get_put

namespace Codec

@[simp] theorem get_put_self {α : Type*} (c : Codec α) (a : α) : c.get (c.put a) = a := by
  simpa only [List.append_nil] using c.get_put a []

theorem get_take {α : Type*} (c : Codec α) (b : List Byte) (long : c.size ≤ b.length) :
    c.get (b.take c.size) = c.get b := by
  rw [← c.put_get b long, c.get_put_self]

/-- A little-endian machine word of `width` bytes. -/
def word (width : Nat) : Codec (BitVec (8 * width)) where
  size := width
  put w := littleEndian width w.toNat
  get b := BitVec.ofNat (8 * width) (number (b.take width))
  put_length w := littleEndian_length width w.toNat
  get_put w rest := by
    have bound : w.toNat < 256 ^ width := by
      have := w.isLt
      rwa [Nat.pow_mul] at this
    rw [List.take_left' (littleEndian_length width w.toNat), number_littleEndian, Nat.mod_eq_of_lt bound]
    exact BitVec.ofNat_toNat _ w |>.trans (BitVec.setWidth_eq w)
  put_get b long := by
    have taken : (b.take width).length = width := by rw [List.length_take]; omega
    have bound : number (b.take width) < 2 ^ (8 * width) := by
      have := number_bound (b.take width)
      rwa [taken, ← show (2 : Nat) ^ 8 = 256 from rfl, ← Nat.pow_mul] at this
    rw [BitVec.toNat_ofNat, Nat.mod_eq_of_lt bound]
    have exact' := littleEndian_number (b.take width)
    rwa [taken] at exact'

/-- A character array of `count` bytes. -/
def chars (count : Nat) : Codec (List.Vector Byte count) where
  size := count
  put v := v.toList
  get b := ⟨(b ++ List.replicate count 0).take count, by simp⟩
  put_length v := v.toList_length
  get_put v rest := by
    apply Subtype.ext
    show ((v.toList ++ rest) ++ List.replicate count 0).take count = v.toList
    rw [List.append_assoc, List.take_left' v.toList_length]
  put_get b long := by
    show (b ++ List.replicate count 0).take count = b.take count
    exact List.take_append_of_le_length long

/-- Two fields packed one behind the other. -/
def pair {α β : Type*} (first : Codec α) (second : Codec β) : Codec (α × β) where
  size := first.size + second.size
  put p := first.put p.1 ++ second.put p.2
  get b := (first.get b, second.get (b.drop first.size))
  put_length p := by rw [List.length_append, first.put_length, second.put_length]
  get_put p rest := by
    rw [List.append_assoc, first.get_put, List.drop_left' (first.put_length p.1), second.get_put]
  put_get b long := by
    have longFirst : first.size ≤ b.length := by omega
    have longSecond : second.size ≤ (b.drop first.size).length := by rw [List.length_drop]; omega
    rw [first.put_get b longFirst, second.put_get _ longSecond, List.take_add]

/-- A record laid out as the tuple of its fields. -/
def record {α β : Type*} (layout : Codec β) (fields : α → β) (make : β → α)
    (make_fields : ∀ a, make (fields a) = a) (fields_make : ∀ b, fields (make b) = b) : Codec α where
  size := layout.size
  put a := layout.put (fields a)
  get b := make (layout.get b)
  put_length a := layout.put_length (fields a)
  get_put a rest := by rw [layout.get_put, make_fields]
  put_get b long := by rw [fields_make, layout.put_get b long]

end Codec

end Bytes
