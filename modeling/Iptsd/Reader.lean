import Mathlib.Data.List.Basic
import Mathlib.Algebra.Order.Ring.Nat

/- `iptsd::Reader` (common/reader.hpp): a cursor over a borrowed byte span. Sizes and
indices are `usize`; they are kept as `Nat`, and the one product the reader computes,
`size * sizeof(T)` in `subspan<T>`, is reduced modulo `2^64` as the machine does. A call
either returns its value and the reader after it, or ends in a `Fault` and leaves the reader
as it was when the throw happened (`EStateM`). -/

set_option autoImplicit false

namespace Iptsd

/-- `impl::ReaderError`, with the arguments each throw site hands to `common::Error`. -/
inductive ReaderError where
  | endOfData (size : Nat)
  | invalidRead (size available : Nat)
  | invalidSeek (index max : Nat)
  deriving DecidableEq, Repr

/-- How a reader call ends without a value: a thrown `ReaderError`, or a failed `gsl`
precondition (`Expects`), which calls `std::terminate`. -/
inductive Fault where
  | reader (error : ReaderError)
  | contract
  deriving DecidableEq, Repr

/-- `gsl::span<u8>`: a run of bytes whose length is a `usize`. -/
@[ext] structure Span where
  bytes : List UInt8
  length_lt : bytes.length < 2 ^ 64

namespace Span

/-- `size()`. -/
def size (s : Span) : Nat := s.bytes.length

/-- `gsl::dynamic_extent`, the `usize` value `-1`. -/
def dynamicExtent : Nat := 2 ^ 64 - 1

/-- `subspan(offset, count)`: `Expects(offset <= size() && (count == dynamic_extent ||
count <= size() - offset))`, then the view of `count` bytes (or of the rest) at `offset`. -/
def subspan (s : Span) (offset count : Nat) : Option Span :=
  if offset ≤ s.size ∧ (count = dynamicExtent ∨ count ≤ s.size - offset) then
    some ⟨(s.bytes.drop offset).take (if count = dynamicExtent then s.size - offset else count),
      by have := s.length_lt; simp only [List.length_take, List.length_drop]; omega⟩
  else none

end Span

/-- `iptsd::Reader`: the span `m_data` and the cursor `m_index`, which never passes the end
of the span. -/
@[ext] structure Reader where
  data : Span
  index : Nat
  index_le : index ≤ data.size

/-- The outcome of a reader call. -/
abbrev ReaderM := EStateM Fault Reader

namespace Reader

/-- `Reader(gsl::span<u8>)`: a reader at the start of `data`. -/
def ofSpan (data : Span) : Reader := ⟨data, 0, Nat.zero_le _⟩

/-- `size()`: how many bytes are left. -/
def size (r : Reader) : Nat := r.data.size - r.index

/-- The `k` bytes at the cursor, `data[index, index + k)`. -/
def ahead (r : Reader) (k : Nat) : List UInt8 := (r.data.bytes.drop r.index).take k

/-- The cursor moved over `n` bytes that are left (`m_index += n`). -/
def advance (r : Reader) (n : Nat) (fits : n ≤ r.size) : Reader :=
  ⟨r.data, r.index + n, by unfold size at fits; have := r.index_le; omega⟩

/-- The checks `read`, `skip` and `subspan` open with: `EndOfData` when no byte is left,
`InvalidRead` when more bytes are asked for than are left. -/
def refusal (r : Reader) (size : Nat) : Option ReaderError :=
  if r.size = 0 then some (.endOfData size)
  else if size > r.size then some (.invalidRead size r.size)
  else none

theorem le_size_of_refusal_eq_none {r : Reader} {size : Nat} (passed : r.refusal size = none) :
    size ≤ r.size := by
  unfold refusal at passed
  split at passed
  · cases passed
  · split at passed
    · cases passed
    · omega

/-- `seek(index)`. -/
def seek (index : Nat) : ReaderM Unit := fun r =>
  if beyond : index > r.data.size then .error (.reader (.invalidSeek index r.data.size)) r
  else .ok () ⟨r.data, index, Nat.le_of_not_gt beyond⟩

/-- `skip(size)`. -/
def skip (size : Nat) : ReaderM Unit := fun r =>
  match passed : r.refusal size with
  | some error => .error (.reader error) r
  | none => .ok () (r.advance size (le_size_of_refusal_eq_none passed))

/-- `subspan<T>(size)` for a `T` of `sizeof(T) = elemSize`: the checks count elements, the
byte count is `size * sizeof(T)` in `usize`, and the result is the chunk `gsl` hands back. -/
def subspan (elemSize size : Nat) : ReaderM Span := fun r =>
  match r.refusal size with
  | some error => .error (.reader error) r
  | none =>
    let bytes := size * elemSize % 2 ^ 64
    match r.data.subspan r.index bytes with
    | none => .error .contract r
    | some sub => (skip bytes *> pure sub) r

/-- `read(dest)` for a `dest` of `size` bytes: the bytes copied into `dest`. -/
def read (size : Nat) : ReaderM (List UInt8) := fun r =>
  match r.refusal size with
  | some error => .error (.reader error) r
  | none => ((fun sub => sub.bytes) <$> subspan 1 size) r

/-- The layout of a packed wire struct `T`: `sizeof(T)` and how its bytes are read back. -/
structure Layout (α : Type) where
  size : Nat
  decode : List UInt8 → α

/-- `read<T>()`: `read` into the bytes of a `T`, then the `T` they hold. -/
def readAs {α : Type} (layout : Layout α) : ReaderM α :=
  layout.decode <$> read layout.size

/-- `sub(size)`: a new reader over the next `size` bytes. -/
def sub (size : Nat) : ReaderM Reader :=
  ofSpan <$> subspan 1 size

/-! ### One lemma per call -/

/-- The `k` bytes at the cursor as a span. -/
def aheadSpan (r : Reader) (k : Nat) : Span :=
  ⟨r.ahead k, by
    have := r.data.length_lt
    simp only [ahead, List.length_take, List.length_drop]
    omega⟩

@[simp] theorem aheadSpan_bytes (r : Reader) (k : Nat) : (r.aheadSpan k).bytes = r.ahead k := rfl

@[simp] theorem advance_data (r : Reader) (n : Nat) (fits : n ≤ r.size) :
    (r.advance n fits).data = r.data := rfl

@[simp] theorem advance_index (r : Reader) (n : Nat) (fits : n ≤ r.size) :
    (r.advance n fits).index = r.index + n := rfl

theorem refusal_eq_none_iff (r : Reader) (size : Nat) :
    r.refusal size = none ↔ 0 < r.size ∧ size ≤ r.size := by
  unfold refusal
  split
  · simp only [reduceCtorEq, false_iff]
    omega
  · split
    · simp only [reduceCtorEq, false_iff]
      omega
    · simp only [true_iff]
      omega

theorem seek_of_le {r : Reader} {index : Nat} (within : index ≤ r.data.size) :
    seek index r = .ok () ⟨r.data, index, within⟩ := by
  simp only [seek, dif_neg (Nat.not_lt.mpr within)]

theorem seek_of_gt {r : Reader} {index : Nat} (beyond : index > r.data.size) :
    seek index r = .error (.reader (.invalidSeek index r.data.size)) r := by
  simp only [seek, dif_pos beyond]

section Refused

variable {r : Reader} {size : Nat} {error : ReaderError} (refused : r.refusal size = some error)
include refused

theorem skip_of_refusal : skip size r = .error (.reader error) r := by
  simp only [skip]
  split <;> simp_all

theorem subspan_of_refusal (elemSize : Nat) :
    subspan elemSize size r = .error (.reader error) r := by
  simp only [subspan, refused]

theorem read_of_refusal : read size r = .error (.reader error) r := by
  simp only [read, refused]

theorem sub_of_refusal : sub size r = .error (.reader error) r := by
  simp only [sub, Functor.map, EStateM.map, subspan_of_refusal refused]

end Refused

section Passed

variable {r : Reader} {size : Nat} (passed : r.refusal size = none)
include passed

theorem skip_of_passed :
    skip size r = .ok () (r.advance size (le_size_of_refusal_eq_none passed)) := by
  simp only [skip]
  split <;> simp_all

/-- Counted in bytes, the chunk `gsl` hands back is the one the checks measured. -/
theorem subspan_one_of_passed :
    subspan 1 size r =
      .ok (r.aheadSpan size) (r.advance size (le_size_of_refusal_eq_none passed)) := by
  have fits := le_size_of_refusal_eq_none passed
  have bound := r.data.length_lt
  have small : size * 1 % 2 ^ 64 = size := by
    unfold Reader.size Span.size at fits
    rw [Nat.mul_one, Nat.mod_eq_of_lt (by omega)]
  have view : r.data.subspan r.index size = some (r.aheadSpan size) := by
    have count : (if size = Span.dynamicExtent then r.data.size - r.index else size) = size := by
      unfold Reader.size Span.size at fits
      unfold Span.dynamicExtent Span.size
      split <;> omega
    have accepted : r.index ≤ r.data.size ∧
        (size = Span.dynamicExtent ∨ size ≤ r.data.size - r.index) := ⟨r.index_le, Or.inr fits⟩
    simp only [Span.subspan, count, if_pos accepted]
    rfl
  simp only [subspan, passed, small, view, SeqRight.seqRight, EStateM.seqRight,
    skip_of_passed passed]
  rfl

theorem read_of_passed :
    read size r = .ok (r.ahead size) (r.advance size (le_size_of_refusal_eq_none passed)) := by
  simp only [read, passed, Functor.map, EStateM.map, subspan_one_of_passed passed,
    aheadSpan_bytes]

theorem sub_of_passed :
    sub size r =
      .ok (ofSpan (r.aheadSpan size)) (r.advance size (le_size_of_refusal_eq_none passed)) := by
  simp only [sub, Functor.map, EStateM.map, subspan_one_of_passed passed]

end Passed

/-- The checks of `subspan<T>` count elements, not bytes: when the count passes but the byte
count runs past the span (and is not `dynamic_extent`), the view handed to `gsl` breaks its
precondition and the process terminates. -/
theorem subspan_of_refusal_eq_none_of_size_lt {r : Reader} {elemSize size : Nat}
    (passed : r.refusal size = none) (overrun : r.size < size * elemSize % 2 ^ 64)
    (bounded : size * elemSize % 2 ^ 64 ≠ Span.dynamicExtent) :
    subspan elemSize size r = .error .contract r := by
  have refused : ¬ (r.index ≤ r.data.size ∧ (size * elemSize % 2 ^ 64 = Span.dynamicExtent ∨
      size * elemSize % 2 ^ 64 ≤ r.data.size - r.index)) := by
    unfold Reader.size at overrun
    omega
  simp only [subspan, passed, Span.subspan, if_neg refused]

/-- A reader at the start of a three-byte span. -/
def threeBytes : Reader := ofSpan ⟨[0, 0, 0], by decide⟩

theorem subspan_two_u16_of_three_bytes_terminates :
    threeBytes.refusal 2 = none ∧ subspan 2 2 threeBytes = .error .contract threeBytes :=
  have passed : threeBytes.refusal 2 = none := rfl
  ⟨passed, subspan_of_refusal_eq_none_of_size_lt passed (by decide) (by decide)⟩

end Reader

end Iptsd
