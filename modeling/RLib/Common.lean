import RLib.Foundation.Bytes

namespace RLib

open Bytes

abbrev U8 := BitVec 8
abbrev U16 := BitVec 16
abbrev U32 := BitVec 32
abbrev U64 := BitVec 64

/-- `std::string` as a value. -/
abbrev ByteBuffer := List U8

inductive IOCode where
  | Ok | Err | Timeout | NearOk | NotReady
deriving DecidableEq, Repr

structure Result (α : Type) where
  code : IOCode
  desc : α
deriving DecidableEq, Repr

/-- How a piece of the program is left other than by a value: a `std::exception`, a failed
    `RDMA_ASSERT`, an access outside the bytes of its object, or the end iterator of a map followed. -/
inductive Exit where
  | exception | abort | overread | badIterator
deriving DecidableEq, Repr

def value {α : Type} : Option α → Except Exit α
  | some a => .ok a
  | none => .error .exception

@[simp] theorem value_some {α : Type} (a : α) : value (some a) = .ok a := rfl
@[simp] theorem value_none {α : Type} : value (none : Option α) = .error .exception := rfl

/-- `try { body } catch (std::exception &)`: the other exits are not caught. -/
def catching {α : Type} (body : Except Exit α) (handler : Except Exit α) : Except Exit α :=
  match body with
  | .ok a => .ok a
  | .error .exception => handler
  | .error e => .error e

/-- The bytes a read at `off` finds; outside `mem` the read leaves its object. -/
def load (mem : ByteBuffer) (off len : Nat) : Except Exit ByteBuffer :=
  if off + len ≤ mem.length then .ok (slice mem off len) else .error .overread

def write (mem : ByteBuffer) (off : Nat) (w : ByteBuffer) : Except Exit ByteBuffer :=
  if off + w.length ≤ mem.length then .ok (store mem off w) else .error .overread

theorem load_inside (mem : ByteBuffer) (off len : Nat) (inside : off + len ≤ mem.length) :
    load mem off len = .ok (slice mem off len) := if_pos inside

theorem load_outside (mem : ByteBuffer) (off len : Nat) (outside : mem.length < off + len) :
    load mem off len = .error .overread := if_neg (by omega)

theorem load_middle (left middle right : ByteBuffer) :
    load (left ++ (middle ++ right)) left.length middle.length = .ok middle := by
  rw [load_inside _ _ _ (by simp only [List.length_append]; omega), slice_middle]

theorem write_middle (left old right w : ByteBuffer) (same : w.length = old.length) :
    write (left ++ (old ++ right)) left.length w = .ok (left ++ (w ++ right)) := by
  rw [write, if_pos (by simp only [List.length_append]; omega), store_middle left old right w same]

/-- How the capacity of a string grows when it has to move: at least to what is needed and at
    least to twice the old capacity. -/
structure StringGrowth where
  next : Nat → Nat → Nat
  enough : ∀ capacity needed, needed ≤ next capacity needed
  doubles : ∀ capacity needed, 2 * capacity ≤ next capacity needed

/-- `std::string::_M_create`. -/
def libstdcxx : StringGrowth where
  next capacity needed := max needed (2 * capacity)
  enough _ _ := Nat.le_max_left _ _
  doubles _ _ := Nat.le_max_right _ _

/-- A `std::string` with the storage it owns. -/
structure HeapString where
  bytes : ByteBuffer
  capacity : Nat
  fits : bytes.length ≤ capacity
deriving DecidableEq

namespace HeapString

/-- A freshly constructed string: up to 15 bytes stay in the object, more get storage of just their size. -/
def ofBytes (b : ByteBuffer) : HeapString := ⟨b, max b.length 15, Nat.le_max_left _ _⟩

@[simp] theorem ofBytes_bytes (b : ByteBuffer) : (ofBytes b).bytes = b := rfl

def reserve (growth : StringGrowth) (s : HeapString) (n : Nat) : HeapString :=
  if n ≤ s.capacity then s
  else ⟨s.bytes, growth.next s.capacity n,
    Nat.le_trans s.fits (Nat.le_trans (by omega) (growth.doubles s.capacity n))⟩

@[simp] theorem reserve_bytes (growth : StringGrowth) (s : HeapString) (n : Nat) :
    (s.reserve growth n).bytes = s.bytes := by
  unfold reserve
  split <;> rfl

theorem reserve_capacity (growth : StringGrowth) (s : HeapString) (n : Nat) :
    n ≤ (s.reserve growth n).capacity := by
  unfold reserve
  split
  · assumption
  · exact growth.enough _ _

theorem reserve_doubles (growth : StringGrowth) (s : HeapString) (n : Nat) (more : s.capacity < n) :
    2 * s.capacity ≤ (s.reserve growth n).capacity := by
  rw [reserve, if_neg (by omega)]
  exact growth.doubles _ _

def overwrite (s : HeapString) (b : ByteBuffer) : HeapString :=
  ⟨b, max s.capacity b.length, Nat.le_max_right _ _⟩

@[simp] theorem overwrite_bytes (s : HeapString) (b : ByteBuffer) : (s.overwrite b).bytes = b := rfl

theorem overwrite_capacity (s : HeapString) (b : ByteBuffer) (same : b.length = s.bytes.length) :
    (s.overwrite b).capacity = s.capacity :=
  Nat.max_eq_left (same ▸ s.fits)

def moves (s : HeapString) (n : Nat) : Bool := s.capacity < s.bytes.length + n

def append (growth : StringGrowth) (s : HeapString) (msg : ByteBuffer) : HeapString :=
  if fit : s.bytes.length + msg.length ≤ s.capacity then
    ⟨s.bytes ++ msg, s.capacity, by rw [List.length_append]; exact fit⟩
  else
    ⟨s.bytes ++ msg, growth.next s.capacity (s.bytes.length + msg.length), by
      rw [List.length_append]; exact growth.enough _ _⟩

@[simp] theorem append_bytes (growth : StringGrowth) (s : HeapString) (msg : ByteBuffer) :
    (s.append growth msg).bytes = s.bytes ++ msg := by
  unfold append
  split <;> rfl

theorem append_capacity (growth : StringGrowth) (s : HeapString) (msg : ByteBuffer)
    (fit : s.bytes.length + msg.length ≤ s.capacity) : (s.append growth msg).capacity = s.capacity := by
  rw [append, dif_pos fit]

end HeapString

def dump {α : Type} (format : Codec α) (t : α) : ByteBuffer := format.put t

def dedump {α : Type} (format : Codec α) (b : ByteBuffer) : Option α :=
  if format.size ≤ b.length then some (format.get b) else none

@[simp] theorem dump_length {α : Type} (format : Codec α) (t : α) : (dump format t).length = format.size :=
  format.put_length t

theorem dedump_dump {α : Type} (format : Codec α) (t : α) (rest : ByteBuffer) :
    dedump format (dump format t ++ rest) = some t := by
  rw [dedump, if_pos (by simp only [List.length_append, dump_length]; omega), dump, format.get_put]

theorem dedump_self {α : Type} (format : Codec α) (t : α) : dedump format (dump format t) = some t := by
  simpa only [List.append_nil] using dedump_dump format t []

theorem dedump_short {α : Type} (format : Codec α) (b : ByteBuffer) (short : b.length < format.size) :
    dedump format b = none := if_neg (by omega)

theorem dedump_long {α : Type} (format : Codec α) (b : ByteBuffer) (long : format.size ≤ b.length) :
    dedump format b = some (format.get b) := if_pos long

end RLib
