import RLib.Bootstrap.MultiMsgRoundTrip
import RLib.Bootstrap.ReceiveBuffer

namespace RLib.Bootstrap

open Bytes

section Table

variable {h : ByteBuffer} {count : Nat}

/-- A header whose table lays `count` messages one behind the other; whatever is in its free entries. -/
structure LaysOut (h : ByteBuffer) (count : Nat) : Prop where
  num : numAt h = count
  few : count ≤ kMaxMultiMsg
  linked : ∀ j < count, Linked h j
  whole : MsgsHeader.size ≤ h.length

theorem entryAt_inside {i : Nat} (few : i ≤ kMaxMultiMsg) : MsgsHeader.entryAt i ≤ MsgsHeader.size := by
  have size : MsgsHeader.size = 33 := rfl
  have eight : kMaxMultiMsg = 8 := rfl
  simp only [MsgsHeader.entryAt]
  omega

theorem LaysOut.passes (lays : LaysOut h count) : Passes h count :=
  ⟨lays.linked, Nat.le_trans (entryAt_inside lays.few) lays.whole⟩

theorem LaysOut.append (lays : LaysOut h count) (rest : ByteBuffer) : LaysOut (h ++ rest) count where
  num := by
    have whole := lays.whole
    have size : MsgsHeader.size = 33 := rfl
    rw [numAt_append h rest (by omega), lays.num]
  few := lays.few
  linked := (lays.passes.append rest).linked
  whole := by
    have whole := lays.whole
    rw [List.length_append]
    omega

def nextEntry (h : ByteBuffer) (count len : Nat) : ByteBuffer :=
  dump MsgEntry.format ⟨BitVec.ofNat 16 (runningEnd h count), BitVec.ofNat 16 len⟩

def withNextEntry (h : ByteBuffer) (count len : Nat) : ByteBuffer :=
  store h (MsgsHeader.entryAt count) (nextEntry h count len)

def nextNum (count : Nat) : ByteBuffer := (Codec.word 1).put (BitVec.ofNat 8 (count + 1))

def appended (h : ByteBuffer) (count len : Nat) : ByteBuffer := store (withNextEntry h count len) 0 (nextNum count)

theorem nextEntry_length (h : ByteBuffer) (count len : Nat) : (nextEntry h count len).length = 4 := dump_length _ _

theorem nextNum_length (count : Nat) : (nextNum count).length = 1 := Codec.put_length _ _

theorem LaysOut.nextOffset (lays : LaysOut h count) :
    MsgsHeader.nextOffset h count = .ok (BitVec.ofNat 16 (runningEnd h count)) := by
  cases count with
  | zero => rfl
  | succ count =>
    have table := lays.passes.inside
    have linked : offsetAt h count = BitVec.ofNat 16 (runningEnd h count) := lays.linked count (Nat.lt_succ_self count)
    have off := offset_inside h count (by simp only [MsgsHeader.entryAt] at table ⊢; omega)
    rw [MsgsHeader.nextOffset, if_neg (Nat.succ_ne_zero count), Nat.add_sub_cancel, off, sz_inside h count table]
    simp only [Bind.bind, Except.bind, Pure.pure, Except.pure, linked, runningEnd_next]

theorem LaysOut.num_read (lays : LaysOut h count) : MsgsHeader.num h = .ok (BitVec.ofNat 8 count) := by
  have whole := lays.whole
  have size : MsgsHeader.size = 33 := rfl
  rw [num_inside h (by omega), lays.num]

theorem LaysOut.num_toNat (lays : LaysOut h count) : (BitVec.ofNat 8 count).toNat = count := by
  have eight : kMaxMultiMsg = 8 := rfl
  have few := lays.few
  rw [BitVec.toNat_ofNat]
  omega

theorem LaysOut.appendOne_full (lays : LaysOut h count) (full : ¬ count < kMaxMultiMsg) (len : U16) :
    MsgsHeader.appendOne h len = .ok none := by
  simp only [MsgsHeader.appendOne, lays.num_read, lays.num_toNat, Nat.not_lt.mp full, Bind.bind, Except.bind,
    Pure.pure, Except.pure, ↓reduceIte]

section Free

variable (lays : LaysOut h count) (free : count < kMaxMultiMsg) (len : Nat)

include lays free

theorem entry_fits : MsgsHeader.entryAt count + (nextEntry h count len).length ≤ h.length := by
  have inside := entryAt_inside (i := count + 1) free
  have whole := lays.whole
  rw [nextEntry_length]
  simp only [MsgsHeader.entryAt] at inside ⊢
  omega

theorem withNextEntry_length : (withNextEntry h count len).length = h.length :=
  store_length _ _ _ (entry_fits lays free len)

theorem num_fits : 0 + (nextNum count).length ≤ (withNextEntry h count len).length := by
  have whole := lays.whole
  have size : MsgsHeader.size = 33 := rfl
  rw [withNextEntry_length lays free len, nextNum_length]
  omega

theorem appended_length : (appended h count len).length = h.length := by
  rw [appended, store_length _ _ _ (num_fits lays free len), withNextEntry_length lays free len]

theorem LaysOut.appendOne : MsgsHeader.appendOne h (BitVec.ofNat 16 len) = .ok (some (appended h count len)) := by
  have notFull : ¬ kMaxMultiMsg ≤ count := by omega
  have filled : write h (MsgsHeader.entryAt count) (nextEntry h count len) = .ok (withNextEntry h count len) :=
    if_pos (entry_fits lays free len)
  have counted : write (withNextEntry h count len) 0 ((Codec.word 1).put (BitVec.ofNat 8 count + 1)) =
      .ok (appended h count len) := by
    have one : BitVec.ofNat 8 count + 1 = BitVec.ofNat 8 (count + 1) := (BitVec.ofNat_add _ _).symm
    rw [one]
    exact if_pos (num_fits lays free len)
  rw [nextEntry] at filled
  simp only [MsgsHeader.appendOne, lays.num_read, lays.num_toNat, notFull, lays.nextOffset, filled, counted, Bind.bind,
    Except.bind, Pure.pure, Except.pure, ↓reduceIte]

theorem appended_slice {off' len' : Nat} (behind : 1 ≤ off')
    (apart : off' + len' ≤ MsgsHeader.entryAt count ∨ MsgsHeader.entryAt count + 4 ≤ off') :
    slice (appended h count len) off' len' = slice h off' len' := by
  rw [appended, slice_store_apart _ _ _ (num_fits lays free len) (by rw [nextNum_length]; omega), withNextEntry,
    slice_store_apart _ _ _ (entry_fits lays free len) (by rw [nextEntry_length]; exact apart)]

theorem appended_drop {k : Nat} (behind : MsgsHeader.size ≤ k) : (appended h count len).drop k = h.drop k := by
  have table := entryAt_inside (i := count + 1) free
  have size : MsgsHeader.size = 33 := rfl
  simp only [MsgsHeader.entryAt] at table
  rw [appended, drop_store _ _ _ (num_fits lays free len) (by rw [nextNum_length]; omega), withNextEntry,
    drop_store _ _ _ (entry_fits lays free len)
      (by rw [nextEntry_length]; simp only [MsgsHeader.entryAt]; omega)]

theorem appended_num : numAt (appended h count len) = count + 1 := by
  have few := lays.few
  have eight : kMaxMultiMsg = 8 := rfl
  have read := slice_store (withNextEntry h count len) 0 (nextNum count) (num_fits lays free len)
  rw [nextNum_length] at read
  rw [numAt, appended, read, nextNum, Codec.get_put_self, BitVec.toNat_ofNat]
  omega

theorem appended_entry : slice (appended h count len) (MsgsHeader.entryAt count) 4 = nextEntry h count len := by
  have read := slice_store h (MsgsHeader.entryAt count) (nextEntry h count len) (entry_fits lays free len)
  rw [nextEntry_length] at read
  rw [appended, slice_store_apart _ _ _ (num_fits lays free len)
    (by rw [nextNum_length]; simp only [MsgsHeader.entryAt]; omega), withNextEntry, read]

theorem appended_szAt {i : Nat} (earlier : i < count) : szAt (appended h count len) i = szAt h i := by
  rw [szAt, szAt, appended_slice lays free len (by omega) (.inl (by simp only [MsgsHeader.entryAt]; omega))]

theorem appended_runningEnd {i : Nat} (inTable : i ≤ count) :
    runningEnd (appended h count len) i = runningEnd h i := by
  induction i with
  | zero => rfl
  | succ i ih => rw [runningEnd, runningEnd, ih (by omega), appended_szAt lays free len (by omega)]

theorem appended_szAt_last : szAt (appended h count len) count = BitVec.ofNat 16 len := by
  have second := slice_slice (appended h count len) (MsgsHeader.entryAt count) 4 (show 2 + 2 ≤ 4 from Nat.le_refl _)
  rw [szAt, ← second, appended_entry lays free len, nextEntry, dump_entry]
  exact Codec.get_put_self _ _

theorem appended_linked_last : Linked (appended h count len) count := by
  have first := slice_slice (appended h count len) (MsgsHeader.entryAt count) 4 (show 0 + 2 ≤ 4 by omega)
  rw [Nat.add_zero] at first
  rw [Linked, offsetAt, ← first, appended_entry lays free len, nextEntry, dump_entry,
    appended_runningEnd lays free len (Nat.le_refl _)]
  exact Codec.get_put_self _ _

theorem appended_linked {i : Nat} (inTable : i < count + 1) : Linked (appended h count len) i := by
  rcases Nat.lt_succ_iff_lt_or_eq.mp inTable with earlier | rfl
  · have before : Linked h i := lays.linked i earlier
    rw [Linked, offsetAt, appended_slice lays free len (by simp only [MsgsHeader.entryAt]; omega)
      (.inl (by simp only [MsgsHeader.entryAt]; omega)), appended_runningEnd lays free len (by omega)]
    exact before
  · exact appended_linked_last lays free len

theorem LaysOut.appended : LaysOut (appended h count len) (count + 1) where
  num := appended_num lays free len
  few := free
  linked := fun _ inTable => appended_linked lays free len inTable
  whole := by
    rw [appended_length lays free len]
    exact lays.whole

end Free

end Table

section Grown

variable {h : ByteBuffer} {count len : Nat} (lays : LaysOut h count) (free : count < kMaxMultiMsg)

include lays free

theorem grown_laysOut (len : Nat) (rest : ByteBuffer) : LaysOut (appended h count len ++ rest) (count + 1) :=
  (lays.appended free len).append rest

theorem grown_szAt_eq (len : Nat) (rest : ByteBuffer) {i : Nat} (inTable : i < count + 1) :
    szAt (appended h count len ++ rest) i = szAt (appended h count len) i := by
  have table := (lays.appended free len).passes.inside
  apply szAt_append
  simp only [MsgsHeader.entryAt] at table ⊢
  omega

theorem grown_runningEnd (len : Nat) (rest : ByteBuffer) {i : Nat} (inTable : i ≤ count) :
    runningEnd (appended h count len ++ rest) i = runningEnd h i := by
  rw [(lays.appended free len).passes.runningEnd_append rest (by omega), appended_runningEnd lays free len inTable]

theorem grown_szAt (len : Nat) (rest : ByteBuffer) {i : Nat} (earlier : i < count) :
    szAt (appended h count len ++ rest) i = szAt h i := by
  rw [grown_szAt_eq lays free len rest (by omega), appended_szAt lays free len earlier]

theorem grown_szAt_last (rest : ByteBuffer) (short : len < 2 ^ 16) :
    (szAt (appended h count len ++ rest) count).toNat = len := by
  rw [grown_szAt_eq lays free len rest (Nat.lt_succ_self count), appended_szAt_last lays free len, BitVec.toNat_ofNat,
    Nat.mod_eq_of_lt short]

theorem grown_end (rest : ByteBuffer) (short : len < 2 ^ 16) :
    runningEnd (appended h count len ++ rest) (count + 1) = runningEnd h count + len := by
  rw [runningEnd, grown_runningEnd lays free len rest (Nat.le_refl _), grown_szAt_last lays free rest short]

theorem grown_slice (len : Nat) (rest : ByteBuffer) {off' len' : Nat} (behind : MsgsHeader.size ≤ off')
    (within : off' + len' ≤ h.length) : slice (appended h count len ++ rest) off' len' = slice h off' len' := by
  rw [slice_append_left _ _ _ _ (by rw [appended_length lays free len]; exact within), slice,
    appended_drop lays free len behind]
  rfl

theorem grown_drop (len : Nat) (rest : ByteBuffer) {k : Nat} (behind : MsgsHeader.size ≤ k) (within : k ≤ h.length) :
    (appended h count len ++ rest).drop k = h.drop k ++ rest := by
  rw [List.drop_append_of_le_length (by rw [appended_length lays free len]; exact within),
    appended_drop lays free len behind]

end Grown

end RLib.Bootstrap
