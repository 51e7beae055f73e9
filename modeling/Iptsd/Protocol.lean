import Iptsd.Reader

/- The packed wire structs of `protocol.h` (`__attribute__((__packed__))`), as `read<T>()` reads
them: it copies `sizeof(T)` bytes into a `T`, whose fields then lie back to back in
declaration order, each little-endian on the x86-64 targets `Android.mk` builds for. Each struct
is also written as section 6.1 of the spec lays it out; `Packed` says that what is written is
`sizeof(T)` bytes and reads back field for field. -/

set_option autoImplicit false

namespace Iptsd.Protocol

/-- The value of little-endian bytes. -/
def decodeLE : List UInt8 → Nat
  | [] => 0
  | byte :: bytes => byte.toNat + 256 * decodeLE bytes

/-- `value` in `width` little-endian bytes. -/
def encodeLE : Nat → Nat → List UInt8
  | 0, _ => []
  | width + 1, value => UInt8.ofNat value :: encodeLE width (value / 256)

@[simp] theorem length_encodeLE (width value : Nat) : (encodeLE width value).length = width := by
  induction width generalizing value with
  | zero => rfl
  | succ width next => simp [encodeLE, next]

theorem decodeLE_encodeLE (width value : Nat) :
    decodeLE (encodeLE width value) = value % 256 ^ width := by
  induction width generalizing value with
  | zero => simp [encodeLE, decodeLE, Nat.mod_one]
  | succ width next =>
    have byte : (UInt8.ofNat value).toNat = value % 256 := rfl
    rw [encodeLE, decodeLE, next, byte, Nat.pow_succ', Nat.mod_mul]

/-- `u8 name[n]`: `n` bytes. -/
@[ext] structure U8Array (n : Nat) where
  bytes : List UInt8
  length_eq : bytes.length = n
  deriving DecidableEq, Repr

@[simp] theorem U8Array.length_bytes {n : Nat} (array : U8Array n) : array.bytes.length = n :=
  array.length_eq

/-- Reading a packed struct front to back: the state is the bytes not read yet. A packed
struct's fields lie back to back in declaration order, so each is read at its offset. -/
abbrev Unpack := StateM (List UInt8)

@[simp] theorem unpack_bind {α β : Type} (x : Unpack α) (f : α → Unpack β) (bytes : List UInt8) :
    (x >>= f) bytes = f (x bytes).1 (x bytes).2 := rfl

@[simp] theorem unpack_pure {α : Type} (value : α) (bytes : List UInt8) :
    (pure value : Unpack α) bytes = (value, bytes) := rfl

/-- An unsigned field of `width` bytes, read little-endian as on the x86-64 target, as a value
of its type. -/
def unsigned {α : Type} (width : Nat) (ofNat : Nat → α) : Unpack α := fun bytes =>
  (ofNat (decodeLE (bytes.take width)), bytes.drop width)

/-- A `u8`, `u16` or `u32` field. -/
def u8 : Unpack UInt8 := unsigned 1 UInt8.ofNat
def u16 : Unpack UInt16 := unsigned 2 UInt16.ofNat
def u32 : Unpack UInt32 := unsigned 4 UInt32.ofNat

/-- A `u8 name[n]` field. `read<T>()` always hands over `sizeof(T)` bytes, so the zeros that
would fill a short read never occur there. -/
def u8Array (n : Nat) : Unpack (U8Array n) := fun bytes =>
  (⟨(bytes ++ List.replicate n 0).take n, by simp⟩, bytes.drop n)

theorem unsigned_encodeLE {α : Type} (width : Nat) (ofNat : Nat → α) {value : Nat}
    (small : value < 256 ^ width) (rest : List UInt8) :
    unsigned width ofNat (encodeLE width value ++ rest) = (ofNat value, rest) := by
  simp only [unsigned, List.take_left' (length_encodeLE width value),
    List.drop_left' (length_encodeLE width value), decodeLE_encodeLE, Nat.mod_eq_of_lt small]

@[simp] theorem u8_encode (value : UInt8) (rest : List UInt8) :
    u8 (encodeLE 1 value.toNat ++ rest) = (value, rest) := by
  rw [u8, unsigned_encodeLE 1 _ value.toNat_lt_size,
    UInt8.toNat.inj (UInt8.toNat_ofNat_of_lt value.toNat_lt_size)]

@[simp] theorem u16_encode (value : UInt16) (rest : List UInt8) :
    u16 (encodeLE 2 value.toNat ++ rest) = (value, rest) := by
  rw [u16, unsigned_encodeLE 2 _ value.toNat_lt_size,
    UInt16.toNat.inj (UInt16.toNat_ofNat_of_lt value.toNat_lt_size)]

@[simp] theorem u32_encode (value : UInt32) (rest : List UInt8) :
    u32 (encodeLE 4 value.toNat ++ rest) = (value, rest) := by
  rw [u32, unsigned_encodeLE 4 _ value.toNat_lt_size,
    UInt32.toNat.inj (UInt32.toNat_ofNat_of_lt value.toNat_lt_size)]

@[simp] theorem u8Array_encode {n : Nat} (array : U8Array n) (rest : List UInt8) :
    u8Array n (array.bytes ++ rest) = (array, rest) := by
  have length := array.length_eq
  simp only [u8Array, List.append_assoc, List.take_left' length, List.drop_left' length]

open Reader (Layout)

/-- The layout `read<T>()` uses for a packed struct read by `unpack`: `sizeof(T)` bytes, and
the value they hold. -/
def layoutOf {α : Type} (size : Nat) (unpack : Unpack α) : Layout α :=
  ⟨size, fun bytes => (unpack bytes).1⟩

/-- `encode` writes `sizeof(T)` bytes, which `read<T>()` reads back as the value written. -/
structure Packed {α : Type} (layout : Layout α) (encode : α → List UInt8) : Prop where
  length : ∀ value, (encode value).length = layout.size
  decode : ∀ value, layout.decode (encode value) = value

theorem packed_of_unpack {α : Type} {size : Nat} {unpack : Unpack α} {encode : α → List UInt8}
    (length : ∀ value, (encode value).length = size)
    (reads : ∀ value rest, unpack (encode value ++ rest) = (value, rest)) :
    Packed (layoutOf size unpack) encode :=
  ⟨length, fun value => by
    simpa only [layoutOf, List.append_nil] using congrArg Prod.fst (reads value [])⟩

/-! ### The structs of `protocol.h`

Each is read as the target lays it out (fields back to back in declaration order, little-endian)
and written as section 6.1 of the spec lays it out. -/

/-- `struct ipts_data`. -/
structure IptsData where
  type : UInt32
  size : UInt32
  buffer : UInt32
  reserved : U8Array 52
  deriving DecidableEq, Repr

def IptsData.layout : Layout IptsData := layoutOf 64 do
  let type ← u32
  let size ← u32
  let buffer ← u32
  let reserved ← u8Array 52
  pure ⟨type, size, buffer, reserved⟩

/-- `data: { type: u32; size: u32; buffer: u32; reserved[52]: u8 }`. -/
def IptsData.encode (value : IptsData) : List UInt8 :=
  encodeLE 4 value.type.toNat ++ encodeLE 4 value.size.toNat ++ encodeLE 4 value.buffer.toNat ++
    value.reserved.bytes

theorem IptsData.packed : Packed IptsData.layout IptsData.encode :=
  packed_of_unpack (fun _ => by simp [IptsData.encode]) fun _ _ => by
    simp only [IptsData.encode, List.append_assoc, unpack_bind, unpack_pure, u8_encode,
      u16_encode, u32_encode, u8Array_encode]

/-- `struct ipts_payload`. -/
structure IptsPayload where
  counter : UInt32
  frames : UInt32
  reserved : U8Array 4
  deriving DecidableEq, Repr

def IptsPayload.layout : Layout IptsPayload := layoutOf 12 do
  let counter ← u32
  let frames ← u32
  let reserved ← u8Array 4
  pure ⟨counter, frames, reserved⟩

/-- `payload: { counter: u32; frames: u32; reserved[4]: u8 }`. -/
def IptsPayload.encode (value : IptsPayload) : List UInt8 :=
  encodeLE 4 value.counter.toNat ++ encodeLE 4 value.frames.toNat ++ value.reserved.bytes

theorem IptsPayload.packed : Packed IptsPayload.layout IptsPayload.encode :=
  packed_of_unpack (fun _ => by simp [IptsPayload.encode]) fun _ _ => by
    simp only [IptsPayload.encode, List.append_assoc, unpack_bind, unpack_pure, u8_encode,
      u16_encode, u32_encode, u8Array_encode]

/-- `struct ipts_payload_frame`. -/
structure IptsPayloadFrame where
  index : UInt16
  type : UInt16
  size : UInt32
  reserved : U8Array 8
  deriving DecidableEq, Repr

def IptsPayloadFrame.layout : Layout IptsPayloadFrame := layoutOf 16 do
  let index ← u16
  let type ← u16
  let size ← u32
  let reserved ← u8Array 8
  pure ⟨index, type, size, reserved⟩

/-- `payload_frame: { index: u16; type: u16; size: u32; reserved[8]: u8 }`. -/
def IptsPayloadFrame.encode (value : IptsPayloadFrame) : List UInt8 :=
  encodeLE 2 value.index.toNat ++ encodeLE 2 value.type.toNat ++ encodeLE 4 value.size.toNat ++
    value.reserved.bytes

theorem IptsPayloadFrame.packed : Packed IptsPayloadFrame.layout IptsPayloadFrame.encode :=
  packed_of_unpack (fun _ => by simp [IptsPayloadFrame.encode]) fun _ _ => by
    simp only [IptsPayloadFrame.encode, List.append_assoc, unpack_bind, unpack_pure, u8_encode,
      u16_encode, u32_encode, u8Array_encode]

/-- `struct ipts_report`. -/
structure IptsReport where
  type : UInt16
  size : UInt16
  deriving DecidableEq, Repr

def IptsReport.layout : Layout IptsReport := layoutOf 4 do
  let type ← u16
  let size ← u16
  pure ⟨type, size⟩

/-- `report: { type: u16; size: u16 }`. -/
def IptsReport.encode (value : IptsReport) : List UInt8 :=
  encodeLE 2 value.type.toNat ++ encodeLE 2 value.size.toNat

theorem IptsReport.packed : Packed IptsReport.layout IptsReport.encode :=
  packed_of_unpack (fun _ => by simp [IptsReport.encode]) fun _ _ => by
    simp only [IptsReport.encode, List.append_assoc, unpack_bind, unpack_pure, u8_encode,
      u16_encode, u32_encode, u8Array_encode]

/-- `struct ipts_stylus_report`. -/
structure IptsStylusReport where
  elements : UInt8
  reserved : U8Array 3
  serial : UInt32
  deriving DecidableEq, Repr

def IptsStylusReport.layout : Layout IptsStylusReport := layoutOf 8 do
  let elements ← u8
  let reserved ← u8Array 3
  let serial ← u32
  pure ⟨elements, reserved, serial⟩

/-- `stylus_report_serial: { elements: u8; reserved[3]: u8; serial: u32 }`. -/
def IptsStylusReport.encode (value : IptsStylusReport) : List UInt8 :=
  encodeLE 1 value.elements.toNat ++ value.reserved.bytes ++ encodeLE 4 value.serial.toNat

theorem IptsStylusReport.packed : Packed IptsStylusReport.layout IptsStylusReport.encode :=
  packed_of_unpack (fun _ => by simp [IptsStylusReport.encode]) fun _ _ => by
    simp only [IptsStylusReport.encode, List.append_assoc, unpack_bind, unpack_pure, u8_encode,
      u16_encode, u32_encode, u8Array_encode]

/-- `struct ipts_stylus_data_v2`. -/
structure IptsStylusDataV2 where
  timestamp : UInt16
  mode : UInt16
  x : UInt16
  y : UInt16
  pressure : UInt16
  altitude : UInt16
  azimuth : UInt16
  reserved : U8Array 2
  deriving DecidableEq, Repr

def IptsStylusDataV2.layout : Layout IptsStylusDataV2 := layoutOf 16 do
  let timestamp ← u16
  let mode ← u16
  let x ← u16
  let y ← u16
  let pressure ← u16
  let altitude ← u16
  let azimuth ← u16
  let reserved ← u8Array 2
  pure ⟨timestamp, mode, x, y, pressure, altitude, azimuth, reserved⟩

/-- `stylus_data_v2: { timestamp: u16; mode: u16; x: u16; y: u16; pressure: u16; altitude: u16;
azimuth: u16; reserved[2]: u8 }`. -/
def IptsStylusDataV2.encode (value : IptsStylusDataV2) : List UInt8 :=
  encodeLE 2 value.timestamp.toNat ++ encodeLE 2 value.mode.toNat ++ encodeLE 2 value.x.toNat ++
    encodeLE 2 value.y.toNat ++ encodeLE 2 value.pressure.toNat ++
    encodeLE 2 value.altitude.toNat ++ encodeLE 2 value.azimuth.toNat ++ value.reserved.bytes

theorem IptsStylusDataV2.packed : Packed IptsStylusDataV2.layout IptsStylusDataV2.encode :=
  packed_of_unpack (fun _ => by simp [IptsStylusDataV2.encode]) fun _ _ => by
    simp only [IptsStylusDataV2.encode, List.append_assoc, unpack_bind, unpack_pure, u8_encode,
      u16_encode, u32_encode, u8Array_encode]

/-- `struct ipts_stylus_data_v1`. -/
structure IptsStylusDataV1 where
  reserved : U8Array 4
  mode : UInt8
  x : UInt16
  y : UInt16
  pressure : UInt16
  reserved2 : UInt8
  deriving DecidableEq, Repr

def IptsStylusDataV1.layout : Layout IptsStylusDataV1 := layoutOf 12 do
  let reserved ← u8Array 4
  let mode ← u8
  let x ← u16
  let y ← u16
  let pressure ← u16
  let reserved2 ← u8
  pure ⟨reserved, mode, x, y, pressure, reserved2⟩

/-- `stylus_data_v1: { reserved[4]: u8; mode: u8; x: u16; y: u16; pressure: u16;
reserved2: u8 }`. -/
def IptsStylusDataV1.encode (value : IptsStylusDataV1) : List UInt8 :=
  value.reserved.bytes ++ encodeLE 1 value.mode.toNat ++ encodeLE 2 value.x.toNat ++
    encodeLE 2 value.y.toNat ++ encodeLE 2 value.pressure.toNat ++ encodeLE 1 value.reserved2.toNat

theorem IptsStylusDataV1.packed : Packed IptsStylusDataV1.layout IptsStylusDataV1.encode :=
  packed_of_unpack (fun _ => by simp [IptsStylusDataV1.encode]) fun _ _ => by
    simp only [IptsStylusDataV1.encode, List.append_assoc, unpack_bind, unpack_pure, u8_encode,
      u16_encode, u32_encode, u8Array_encode]

/-- `struct ipts_heatmap_dim`. -/
structure IptsHeatmapDim where
  height : UInt8
  width : UInt8
  yMin : UInt8
  yMax : UInt8
  xMin : UInt8
  xMax : UInt8
  zMin : UInt8
  zMax : UInt8
  deriving DecidableEq, Repr

def IptsHeatmapDim.layout : Layout IptsHeatmapDim := layoutOf 8 do
  let height ← u8
  let width ← u8
  let yMin ← u8
  let yMax ← u8
  let xMin ← u8
  let xMax ← u8
  let zMin ← u8
  let zMax ← u8
  pure ⟨height, width, yMin, yMax, xMin, xMax, zMin, zMax⟩

/-- `heatmap_dim: { height: u8; width: u8; y_min: u8; y_max: u8; x_min: u8; x_max: u8;
z_min: u8; z_max: u8 }`. -/
def IptsHeatmapDim.encode (value : IptsHeatmapDim) : List UInt8 :=
  encodeLE 1 value.height.toNat ++ encodeLE 1 value.width.toNat ++ encodeLE 1 value.yMin.toNat ++
    encodeLE 1 value.yMax.toNat ++ encodeLE 1 value.xMin.toNat ++ encodeLE 1 value.xMax.toNat ++
    encodeLE 1 value.zMin.toNat ++ encodeLE 1 value.zMax.toNat

theorem IptsHeatmapDim.packed : Packed IptsHeatmapDim.layout IptsHeatmapDim.encode :=
  packed_of_unpack (fun _ => by simp [IptsHeatmapDim.encode]) fun _ _ => by
    simp only [IptsHeatmapDim.encode, List.append_assoc, unpack_bind, unpack_pure, u8_encode,
      u16_encode, u32_encode, u8Array_encode]

/-- `struct ipts_heatmap_timestamp`. -/
structure IptsHeatmapTimestamp where
  reserved : U8Array 2
  count : UInt16
  timestamp : UInt32
  deriving DecidableEq, Repr

def IptsHeatmapTimestamp.layout : Layout IptsHeatmapTimestamp := layoutOf 8 do
  let reserved ← u8Array 2
  let count ← u16
  let timestamp ← u32
  pure ⟨reserved, count, timestamp⟩

/-- `heatmap_timestamp: { reserved[2]; count: u16; timestamp: u32 }`. -/
def IptsHeatmapTimestamp.encode (value : IptsHeatmapTimestamp) : List UInt8 :=
  value.reserved.bytes ++ encodeLE 2 value.count.toNat ++ encodeLE 4 value.timestamp.toNat

theorem IptsHeatmapTimestamp.packed :
    Packed IptsHeatmapTimestamp.layout IptsHeatmapTimestamp.encode :=
  packed_of_unpack (fun _ => by simp [IptsHeatmapTimestamp.encode]) fun _ _ => by
    simp only [IptsHeatmapTimestamp.encode, List.append_assoc, unpack_bind, unpack_pure, u8_encode,
      u16_encode, u32_encode, u8Array_encode]

/-- The structs `read<T>()` is used on. -/
inductive Kind where
  | data
  | payload
  | payloadFrame
  | report
  | stylusReport
  | stylusDataV2
  | stylusDataV1
  | heatmapDim
  | heatmapTimestamp
  deriving DecidableEq, Repr

/-- The struct of each kind. -/
def Kind.Value : Kind → Type
  | .data => IptsData
  | .payload => IptsPayload
  | .payloadFrame => IptsPayloadFrame
  | .report => IptsReport
  | .stylusReport => IptsStylusReport
  | .stylusDataV2 => IptsStylusDataV2
  | .stylusDataV1 => IptsStylusDataV1
  | .heatmapDim => IptsHeatmapDim
  | .heatmapTimestamp => IptsHeatmapTimestamp

def Kind.layout : (kind : Kind) → Layout kind.Value
  | .data => IptsData.layout
  | .payload => IptsPayload.layout
  | .payloadFrame => IptsPayloadFrame.layout
  | .report => IptsReport.layout
  | .stylusReport => IptsStylusReport.layout
  | .stylusDataV2 => IptsStylusDataV2.layout
  | .stylusDataV1 => IptsStylusDataV1.layout
  | .heatmapDim => IptsHeatmapDim.layout
  | .heatmapTimestamp => IptsHeatmapTimestamp.layout

def Kind.encode : (kind : Kind) → kind.Value → List UInt8
  | .data => IptsData.encode
  | .payload => IptsPayload.encode
  | .payloadFrame => IptsPayloadFrame.encode
  | .report => IptsReport.encode
  | .stylusReport => IptsStylusReport.encode
  | .stylusDataV2 => IptsStylusDataV2.encode
  | .stylusDataV1 => IptsStylusDataV1.encode
  | .heatmapDim => IptsHeatmapDim.encode
  | .heatmapTimestamp => IptsHeatmapTimestamp.encode

theorem Kind.packed : (kind : Kind) → Packed kind.layout kind.encode
  | .data => IptsData.packed
  | .payload => IptsPayload.packed
  | .payloadFrame => IptsPayloadFrame.packed
  | .report => IptsReport.packed
  | .stylusReport => IptsStylusReport.packed
  | .stylusDataV2 => IptsStylusDataV2.packed
  | .stylusDataV1 => IptsStylusDataV1.packed
  | .heatmapDim => IptsHeatmapDim.packed
  | .heatmapTimestamp => IptsHeatmapTimestamp.packed

theorem Kind.size_pos (kind : Kind) : 0 < kind.layout.size := by
  cases kind <;> decide

end Iptsd.Protocol
