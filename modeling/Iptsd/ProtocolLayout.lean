import Iptsd.Protocol

/- The layouts of the wire structs, read the other way: the `T` that `read<T>()` makes of any
`sizeof(T)` bytes is written back as those very bytes. Every byte of a struct lands in a field
and none is invented, so together with the reading back of what is written the layout is a
bijection between `T` and `sizeof(T)` bytes. -/

set_option autoImplicit false

namespace Iptsd.Protocol

open Reader

/-- A value read from `n` little-endian bytes is below `256 ^ n`. -/
theorem decodeLE_lt (bytes : List UInt8) : decodeLE bytes < 256 ^ bytes.length := by
  induction bytes with
  | nil => decide
  | cons byte rest below =>
    have small : byte.toNat < 256 := byte.toNat_lt_size
    rw [decodeLE, List.length_cons, Nat.pow_succ]
    omega

/-- Writing a value read from bytes back at their length gives the bytes. -/
theorem encodeLE_decodeLE (bytes : List UInt8) : encodeLE bytes.length (decodeLE bytes) = bytes := by
  induction bytes with
  | nil => rfl
  | cons byte rest back =>
    have small : byte.toNat < 256 := byte.toNat_lt_size
    have low : UInt8.ofNat (byte.toNat + 256 * decodeLE rest) = byte :=
      UInt8.toNat.inj (by
        change (byte.toNat + 256 * decodeLE rest) % 256 = byte.toNat
        omega)
    have high : (byte.toNat + 256 * decodeLE rest) / 256 = decodeLE rest := by omega
    rw [List.length_cons, decodeLE, encodeLE, low, high, back]

/-- A field reader leaves the bytes after its own. -/
@[simp] theorem u8_snd (bytes : List UInt8) : (u8 bytes).2 = bytes.drop 1 := rfl
@[simp] theorem u16_snd (bytes : List UInt8) : (u16 bytes).2 = bytes.drop 2 := rfl
@[simp] theorem u32_snd (bytes : List UInt8) : (u32 bytes).2 = bytes.drop 4 := rfl

@[simp] theorem u8Array_snd (n : Nat) (bytes : List UInt8) : (u8Array n bytes).2 = bytes.drop n := rfl

/-- The bytes a field is read from are the field written back, followed by the rest. -/
theorem unsigned_reverse {α : Type} (width : Nat) (ofNat : Nat → α) (toNat : α → Nat)
    (back : ∀ n < 256 ^ width, toNat (ofNat n) = n) {bytes : List UInt8}
    (long : width ≤ bytes.length) :
    encodeLE width (toNat (unsigned width ofNat bytes).1) ++ (unsigned width ofNat bytes).2 =
      bytes := by
  have length : (bytes.take width).length = width := List.length_take_of_le long
  have below := decodeLE_lt (bytes.take width)
  rw [length] at below
  have written := encodeLE_decodeLE (bytes.take width)
  rw [length] at written
  simp only [unsigned, back _ below, written, List.take_append_drop]

theorem u8_reverse {bytes : List UInt8} (long : 1 ≤ bytes.length) :
    encodeLE 1 (u8 bytes).1.toNat ++ (u8 bytes).2 = bytes :=
  unsigned_reverse 1 _ _ (fun _ below => UInt8.toNat_ofNat_of_lt below) long

theorem u16_reverse {bytes : List UInt8} (long : 2 ≤ bytes.length) :
    encodeLE 2 (u16 bytes).1.toNat ++ (u16 bytes).2 = bytes :=
  unsigned_reverse 2 _ _ (fun _ below => UInt16.toNat_ofNat_of_lt below) long

theorem u32_reverse {bytes : List UInt8} (long : 4 ≤ bytes.length) :
    encodeLE 4 (u32 bytes).1.toNat ++ (u32 bytes).2 = bytes :=
  unsigned_reverse 4 _ _ (fun _ below => UInt32.toNat_ofNat_of_lt below) long

theorem u8Array_reverse {n : Nat} {bytes : List UInt8} (long : n ≤ bytes.length) :
    (u8Array n bytes).1.bytes ++ (u8Array n bytes).2 = bytes := by
  simp only [u8Array, List.take_append_of_le_length long, List.take_append_drop]

/-- Every `sizeof(T)` bytes are the encoding of the `T` `read<T>()` makes of them. -/
theorem encode_decode_of_unpack {α : Type} {size : Nat} {unpack : Unpack α}
    {encode : α → List UInt8}
    (reverse : ∀ bytes, size ≤ bytes.length → encode (unpack bytes).1 ++ (unpack bytes).2 = bytes)
    (consumed : ∀ bytes, (unpack bytes).2 = bytes.drop size) (bytes : List UInt8)
    (exact : bytes.length = size) : encode ((layoutOf size unpack).decode bytes) = bytes := by
  have whole := reverse bytes exact.ge
  rwa [consumed, List.drop_of_length_le exact.le, List.append_nil] at whole

/-- No byte of a wire struct is padding: each `sizeof(T)` bytes are the encoding of the `T`
`read<T>()` makes of them. -/
theorem Kind.encode_decode (kind : Kind) (bytes : List UInt8)
    (exact : bytes.length = kind.layout.size) : kind.encode (kind.layout.decode bytes) = bytes := by
  cases kind <;> refine encode_decode_of_unpack (fun bytes long => ?_) (fun bytes => ?_) bytes exact
  -- per struct: its fields written back over the bytes, and the bytes its reader leaves
  all_goals first
    | simp (disch := (try simp only [u8_snd, u16_snd, u32_snd, u8Array_snd, List.length_drop]); omega)
        only [Kind.encode, unpack_bind, unpack_pure, List.append_assoc, u8_reverse, u16_reverse,
          u32_reverse, u8Array_reverse, IptsData.encode, IptsPayload.encode, IptsPayloadFrame.encode,
          IptsReport.encode, IptsStylusReport.encode, IptsStylusDataV2.encode, IptsStylusDataV1.encode,
          IptsHeatmapDim.encode, IptsHeatmapTimestamp.encode]; done
    | simp only [unpack_bind, unpack_pure, u8_snd, u16_snd, u32_snd, u8Array_snd, List.drop_drop]

/-- `read<T>()` keeps every byte it takes: where `sizeof(T)` bytes are left it returns the `T`
whose encoding is exactly the next `sizeof(T)` bytes, and moves over them. -/
theorem readAs_encodes_bytes_ahead (kind : Kind) (r : Reader) (enough : kind.layout.size ≤ r.size) :
    ∃ value, readAs kind.layout r = .ok value (r.advance kind.layout.size enough) ∧
      kind.encode value = r.ahead kind.layout.size := by
  have passed : r.refusal kind.layout.size = none :=
    (refusal_eq_none_iff r _).mpr ⟨Nat.lt_of_lt_of_le kind.size_pos enough, enough⟩
  have exact : (r.ahead kind.layout.size).length = kind.layout.size := by
    simp only [ahead, List.length_take, List.length_drop]
    exact Nat.min_eq_left enough
  refine ⟨_, ?_, Kind.encode_decode kind _ exact⟩
  simp only [readAs, Functor.map, EStateM.map, read_of_passed passed]

/-- A report header followed by one more byte. -/
def reportHeader : Reader := ofSpan ⟨[0x60, 0x00, 0x10, 0x00, 0x01], by decide⟩

theorem report_header_read_whole :
    ∃ enough : Kind.report.layout.size ≤ reportHeader.size, ∃ value,
      readAs Kind.report.layout reportHeader =
          .ok value (reportHeader.advance Kind.report.layout.size enough) ∧
        Kind.report.encode value = reportHeader.ahead Kind.report.layout.size :=
  ⟨by decide, readAs_encodes_bytes_ahead .report reportHeader (by decide)⟩

end Iptsd.Protocol
