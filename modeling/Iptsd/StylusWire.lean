import Iptsd.Stylus
import Iptsd.ProtocolLayout

/- The Go daemon's records against the packed C structs of `protocol.h`. `stylus.go` declares its
own `IptsStylusReportData` and `IptsStylusReportDataNoTilt`; read packed, as `IptsUtilsRead`
fills them, they are `ipts_stylus_data_v2` and `ipts_stylus_data_v1` field for field, and the
serial header `IptsStylusReportSerial` is `ipts_stylus_report`. A stylus report written as
`protocol.h` lays it out is taken in whole by the Go handlers, which stop right after it. -/

set_option autoImplicit false

namespace Iptsd.Stylus

open Protocol (IptsStylusReport IptsStylusDataV2 IptsStylusDataV1)

/-- Two little-endian bytes, missing ones read as 0, are the Go `uint16` of them. -/
theorem decodeLE_take_two (l : List UInt8) :
    Protocol.decodeLE (l.take 2) = u16 (l.getD 0 0) (l.getD 1 0) := by
  rcases l with _ | ⟨lo, _ | ⟨hi, _⟩⟩ <;> rfl

theorem u16_lt (lo hi : UInt8) : u16 lo hi < 2 ^ 16 := by
  have lo_small : lo.toNat < 256 := lo.toNat_lt_size
  have hi_small : hi.toNat < 256 := hi.toNat_lt_size
  simp only [u16]
  omega

/-- A C `uint16_t` field is the Go `uint16` at the same offset. -/
theorem word_toNat (l : List UInt8) :
    (Protocol.u16 l).1.toNat = u16 (l.getD 0 0) (l.getD 1 0) := by
  rw [← decodeLE_take_two]
  exact UInt16.toNat_ofNat_of_lt (decodeLE_take_two l ▸ u16_lt _ _)

theorem decodeLE_take_one (l : List UInt8) : Protocol.decodeLE (l.take 1) = (l.getD 0 0).toNat := by
  rcases l with _ | ⟨b, _⟩ <;> rfl

/-- A C `uint8_t` field is the Go `uint8` at the same offset. -/
theorem byte_toNat (l : List UInt8) : (Protocol.u8 l).1.toNat = (l.getD 0 0).toNat := by
  rw [← decodeLE_take_one]
  exact UInt8.toNat_ofNat_of_lt (decodeLE_take_one l ▸ UInt8.toNat_lt_size _)

/-- Byte `i` of what follows byte `k` is byte `k + i`. -/
theorem getD_drop (l : List UInt8) (k i : Nat) : (l.drop k).getD i 0 = l.getD (k + i) 0 := by
  simp only [List.getD_eq_getElem?_getD, List.getElem?_drop]

/-- The fields of a C `ipts_stylus_data_v2` that the Go `IptsStylusReportData` has. -/
def StylusData.ofV2 (value : IptsStylusDataV2) : StylusData :=
  ⟨value.timestamp.toNat, value.mode.toNat, value.x.toNat, value.y.toNat, value.pressure.toNat,
    value.altitude.toNat, value.azimuth.toNat⟩

/-- The fields of a C `ipts_stylus_data_v1` that the Go `IptsStylusReportDataNoTilt` has. -/
def StylusDataNoTilt.ofV1 (value : IptsStylusDataV1) : StylusDataNoTilt :=
  ⟨value.mode.toNat, value.x.toNat, value.y.toNat, value.pressure.toNat⟩

theorem stylusData_decode_eq_ofV2 (bytes : List UInt8) :
    StylusData.decode bytes = .ofV2 (IptsStylusDataV2.layout.decode bytes) := by
  simp only [IptsStylusDataV2.layout, Protocol.layoutOf, Protocol.unpack_bind,
    Protocol.unpack_pure, Protocol.u16_snd, List.drop_drop, word_toNat, getD_drop,
    StylusData.decode, StylusData.ofV2]

theorem stylusDataNoTilt_decode_eq_ofV1 (bytes : List UInt8) :
    StylusDataNoTilt.decode bytes = .ofV1 (IptsStylusDataV1.layout.decode bytes) := by
  simp only [IptsStylusDataV1.layout, Protocol.layoutOf, Protocol.unpack_bind,
    Protocol.unpack_pure, Protocol.u8_snd, Protocol.u16_snd, Protocol.u8Array_snd, List.drop_drop,
    word_toNat, byte_toNat, getD_drop, StylusDataNoTilt.decode, StylusDataNoTilt.ofV1]

theorem elements_toNat (header : List UInt8) :
    (IptsStylusReport.layout.decode header).elements.toNat = (header.headD 0).toNat := by
  rcases header with _ | ⟨elements, _⟩ <;> exact byte_toNat _

/-- The Go handlers read what `read<T>()` of the C structs reads: the serial and no-tilt reports
open with an `ipts_stylus_report`, whose first field `elements` counts the records, and their
records are `ipts_stylus_data_v2` and `ipts_stylus_data_v1`, of those structs' sizes. -/
theorem stylus_handlers_read_c_structs (tilt : Nat → Nat → Int × Int) :
    iptsStylusHandleReportSerial tilt = handleReport tilt IptsStylusReport.layout.size
        IptsStylusDataV2.layout.size
        (fun bytes => .ofV2 (IptsStylusDataV2.layout.decode bytes)) ∧
      iptsStylusHandleReportTilt tilt = handleReport tilt tiltSize
        IptsStylusDataV2.layout.size
        (fun bytes => .ofV2 (IptsStylusDataV2.layout.decode bytes)) ∧
      iptsStylusHandleReportNoTilt tilt = handleReport tilt IptsStylusReport.layout.size
        IptsStylusDataV1.layout.size
        (fun bytes => (StylusDataNoTilt.ofV1 (IptsStylusDataV1.layout.decode bytes)).toData) ∧
      ∀ header : List UInt8,
        (IptsStylusReport.layout.decode header).elements.toNat = (header.headD 0).toNat := by
  refine ⟨?_, ?_, ?_, elements_toNat⟩ <;>
    simp only [iptsStylusHandleReportSerial, iptsStylusHandleReportTilt,
      iptsStylusHandleReportNoTilt, ← stylusData_decode_eq_ofV2, ← stylusDataNoTilt_decode_eq_ofV1] <;>
    rfl

/-- Records of `size` bytes written back to back are cut back into the records. -/
theorem chunks_flatMap {β : Type} {size : Nat} (encode : β → List UInt8)
    (sized : ∀ value, (encode value).length = size) (rest : List UInt8) :
    ∀ records : List β, chunks size records.length (records.flatMap encode ++ rest) =
      records.map encode
  | [] => rfl
  | record :: records => by
    rw [List.length_cons, chunks, List.flatMap_cons, List.append_assoc,
      List.take_left' (sized record), List.drop_left' (sized record),
      chunks_flatMap encode sized rest records, List.map_cons]

theorem length_flatMap_sized {β : Type} {size : Nat} (encode : β → List UInt8)
    (sized : ∀ value, (encode value).length = size) :
    ∀ records : List β, (records.flatMap encode).length = records.length * size
  | [] => (Nat.zero_mul size).symm
  | record :: records => by
    rw [List.flatMap_cons, List.length_append, sized, length_flatMap_sized encode sized records,
      List.length_cons, Nat.succ_mul, Nat.add_comm]

/-- A stylus report as `protocol.h` lays it out: an `ipts_stylus_report` header and `elements`
records of `size` bytes, handled by a Go handler that reads them with `decode`, emits the events
of the records and stops right after them. -/
theorem handleReport_of_encoded (tilt : Nat → Nat → Int × Int) (d : Device) {β : Type}
    {size : Nat} (encode : β → List UInt8) (sized : ∀ value, (encode value).length = size)
    (decode : List UInt8 → StylusData) (header : IptsStylusReport) (records : List β)
    (rest : List UInt8) (counted : records.length = header.elements.toNat)
    (written : d.buffer = header.encode ++ records.flatMap encode ++ rest) :
    handleReport tilt serialSize size decode d =
      .ok () ⟨rest, d.events ++ records.flatMap fun record => dataEvents tilt (decode (encode record))⟩ := by
  have headed : header.encode.length = serialSize := IptsStylusReport.packed.length header
  have first : (d.buffer.headD 0).toNat = records.length := by
    rw [written, counted]
    simp only [IptsStylusReport.encode, Protocol.encodeLE, List.cons_append, List.headD_cons]
    exact UInt8.toNat_ofNat_of_lt header.elements.toNat_lt_size
  have body := length_flatMap_sized encode sized records
  have fits : serialSize + (d.buffer.headD 0).toNat * size ≤ d.buffer.length := by
    rw [first, written, List.length_append, List.length_append, headed, body]
    omega
  have after : d.buffer.drop serialSize = records.flatMap encode ++ rest := by
    rw [written, List.append_assoc, List.drop_left' headed]
  rw [handleReport_of_le tilt d (by decide) size decode fits, recordEvents, first, after,
    chunks_flatMap encode sized rest, List.flatMap_map, ← List.drop_drop, after,
    List.drop_left' body]

/-- The Go handlers take in a stylus report written as `protocol.h` lays it out, an
`ipts_stylus_report` header and then `elements` records: the serial handler reads
`ipts_stylus_data_v2` records and the no-tilt one `ipts_stylus_data_v1` records. Each stops
right after the last record and emits the events of exactly the records written, in order. -/
theorem handlers_take_written_reports (tilt : Nat → Nat → Int × Int) (d : Device)
    (header : IptsStylusReport) (rest : List UInt8) :
    (∀ records : List IptsStylusDataV2, records.length = header.elements.toNat →
      d.buffer = header.encode ++ records.flatMap IptsStylusDataV2.encode ++ rest →
      iptsStylusHandleReportSerial tilt d =
        .ok () ⟨rest, d.events ++ records.flatMap fun record => dataEvents tilt (.ofV2 record)⟩) ∧
    (∀ records : List IptsStylusDataV1, records.length = header.elements.toNat →
      d.buffer = header.encode ++ records.flatMap IptsStylusDataV1.encode ++ rest →
      iptsStylusHandleReportNoTilt tilt d =
        .ok () ⟨rest, d.events ++ records.flatMap fun record =>
          dataEvents tilt (StylusDataNoTilt.ofV1 record).toData⟩) := by
  refine ⟨fun records counted written => ?_, fun records counted written => ?_⟩
  · rw [iptsStylusHandleReportSerial, @handleReport_of_encoded tilt d _ dataSize _
      IptsStylusDataV2.packed.length _ header records rest counted written]
    simp only [stylusData_decode_eq_ofV2, IptsStylusDataV2.packed.decode]
  · rw [iptsStylusHandleReportNoTilt, @handleReport_of_encoded tilt d _ dataNoTiltSize _
      IptsStylusDataV1.packed.length _ header records rest counted written]
    simp only [stylusDataNoTilt_decode_eq_ofV1, IptsStylusDataV1.packed.decode]

/-- A serial header announcing one record. -/
def oneRecordHeader : IptsStylusReport := ⟨1, ⟨[0, 0, 0], rfl⟩, 7⟩

/-- A record of a stylus in proximity and touching at (4800, 3600), tilted. -/
def tiltedTouch : IptsStylusDataV2 := ⟨1, 3, 4800, 3600, 2048, 4500, 9000, ⟨[0, 0], rfl⟩⟩

theorem tilted_touch_taken :
    [tiltedTouch].length = oneRecordHeader.elements.toNat ∧
      iptsStylusHandleReportSerial (fun _ _ => (5, -5))
          ⟨oneRecordHeader.encode ++ [tiltedTouch].flatMap IptsStylusDataV2.encode ++ [0xAA], []⟩ =
        .ok () ⟨[0xAA], [] ++ [tiltedTouch].flatMap fun record =>
          dataEvents (fun _ _ => (5, -5)) (.ofV2 record)⟩ ∧
      [tiltedTouch].flatMap (fun record => dataEvents (fun _ _ => (5, -5)) (.ofV2 record)) =
        [.key .btnTouch 1, .key .btnToolPen 1, .key .btnToolRubber 0, .key .btnStylus 0,
          .abs .x 4800, .abs .y 3600, .abs .pressure 2048, .abs .misc 1, .abs .tiltX 5,
          .abs .tiltY (-5), .synReport] :=
  ⟨rfl, (handlers_take_written_reports _ ⟨_, []⟩ oneRecordHeader _).1 _ rfl rfl, by decide⟩

end Iptsd.Stylus
