import Mathlib.Data.Nat.Bitwise
import Mathlib.Data.List.Basic
import Mathlib.Algebra.Order.Ring.Nat

/- The stylus side of the Go daemon, `stylus.go`: the handlers of the three stylus report types
and the events `IptsStylusHandleData` emits for each data record. A `bytes.Reader` is modelled by
the bytes it has not read, and the daemon's state by those bytes and the events emitted so far.
`IptsUtilsRead`, `IptsUtilsSkip`, `IptsReport`, `IptsPayloadFrame`, the report-type constants
and the evdev codes are not in the sources: reads and skips follow the spec's reader (a record is
its packed little-endian bytes, and a short read is an error that aborts the decode), the report
header is the spec's `{ type: u16; size: u16 }`, the type tags are parameters and the evdev codes
are named. The tilt `IptsStylusHandleData` computes in `float64` from a nonzero altitude is a
parameter too. -/

set_option autoImplicit false

namespace Iptsd.Stylus

/-- The evdev keys the stylus reports. -/
inductive Key where
  | btnTouch
  | btnToolPen
  | btnToolRubber
  | btnStylus
  deriving DecidableEq, Repr

/-- The evdev absolute axes the stylus reports. -/
inductive Axis where
  | x
  | y
  | pressure
  | misc
  | tiltX
  | tiltY
  deriving DecidableEq, Repr

/-- `ipts.Stylus.Emit(type, code, value)`: an `EV_KEY` or `EV_ABS` event, or `SYN_REPORT`. -/
inductive Event where
  | key (code : Key) (value : Int)
  | abs (code : Axis) (value : Int)
  | synReport
  deriving DecidableEq, Repr

/-- The daemon during a walk: the bytes the `bytes.Reader` has not read, and the events emitted
so far. -/
@[ext] structure Device where
  buffer : List UInt8
  events : List Event

/-- Stylus code over the device; an error is a failed read, which aborts the decode and keeps the
events already emitted. -/
abbrev StylusM := EStateM Unit Device

/-- Modelled from the spec: `IptsUtilsRead(buffer, &x)` reads the `size` bytes of the packed
record `x`; with fewer left it fails, which aborts the decode. -/
def iptsUtilsRead (size : Nat) : StylusM (List UInt8) := fun d =>
  if size ≤ d.buffer.length then .ok (d.buffer.take size) { d with buffer := d.buffer.drop size }
  else .error () d

/-- Modelled from the spec: `IptsUtilsSkip(buffer, size)`, failing as a read does. -/
def iptsUtilsSkip (size : Nat) : StylusM Unit := iptsUtilsRead size *> pure ()

/-- `ipts.Stylus.Emit(...)`. -/
def emit (event : Event) : StylusM Unit :=
  modify fun d => { d with events := d.events ++ [event] }

/-- A little-endian `uint16` from its two bytes. -/
def u16 (lo hi : UInt8) : Nat := lo.toNat + 256 * hi.toNat

/-- `IptsStylusReportData`, the fields the daemon reads, as `uint16` values. -/
structure StylusData where
  timestamp : Nat
  mode : Nat
  x : Nat
  y : Nat
  pressure : Nat
  altitude : Nat
  azimuth : Nat

/-- A packed `IptsStylusReportData`: its `uint16` words in field order. -/
def StylusData.decode (bytes : List UInt8) : StylusData :=
  let word (index : Nat) := u16 (bytes.getD (2 * index) 0) (bytes.getD (2 * index + 1) 0)
  ⟨word 0, word 1, word 2, word 3, word 4, word 5, word 6⟩

/-- `IptsStylusReportDataNoTilt`, the fields the daemon reads. -/
structure StylusDataNoTilt where
  mode : Nat
  x : Nat
  y : Nat
  pressure : Nat

/-- A packed `IptsStylusReportDataNoTilt`: four reserved bytes, the `uint8` `Mode`, then the
`uint16`s `X`, `Y` and `Pressure`. -/
def StylusDataNoTilt.decode (bytes : List UInt8) : StylusDataNoTilt :=
  ⟨(bytes.getD 4 0).toNat, u16 (bytes.getD 5 0) (bytes.getD 6 0),
    u16 (bytes.getD 7 0) (bytes.getD 8 0), u16 (bytes.getD 9 0) (bytes.getD 10 0)⟩

/-- The `IptsStylusReportData` `IptsStylusHandleReportNoTilt` builds: `Pressure * 4` in
`uint16`, and no timestamp, altitude or azimuth. -/
def StylusDataNoTilt.toData (data : StylusDataNoTilt) : StylusData :=
  ⟨0, data.mode, data.x, data.y, data.pressure * 4 % 2 ^ 16, 0, 0⟩

/-- `IPTS_STYLUS_REPORT_MODE_PROX`, `_TOUCH`, `_BUTTON` and `_RUBBER`. -/
def modeProx : Nat := 1 <<< 0
def modeTouch : Nat := 1 <<< 1
def modeButton : Nat := 1 <<< 2
def modeRubber : Nat := 1 <<< 3

/-- `IptsStylusHandleData`. The bits are 0 or 1, so its `uint16` products and difference are
those of `Nat`; `tilt altitude azimuth` stands for the two `int32` tilts it computes in `float64`
when the altitude is not zero. -/
def iptsStylusHandleData (tilt : Nat → Nat → Int × Int) (data : StylusData) : StylusM Unit := do
  let prox := (data.mode &&& modeProx) >>> 0
  let touch := (data.mode &&& modeTouch) >>> 1
  let button := (data.mode &&& modeButton) >>> 2
  let rubber := (data.mode &&& modeRubber) >>> 3
  let btnPen := prox * (1 - rubber)
  let btnRubber := prox * rubber
  let tilted := if data.altitude > 0 then tilt data.altitude data.azimuth else (0, 0)
  emit (.key .btnTouch touch)
  emit (.key .btnToolPen btnPen)
  emit (.key .btnToolRubber btnRubber)
  emit (.key .btnStylus button)
  emit (.abs .x data.x)
  emit (.abs .y data.y)
  emit (.abs .pressure data.pressure)
  emit (.abs .misc data.timestamp)
  emit (.abs .tiltX tilted.1)
  emit (.abs .tiltY tilted.2)
  emit .synReport

/-- The packed sizes of `IptsReport`, `IptsStylusReportSerial`, `IptsStylusReportTilt`,
`IptsStylusReportData` and `IptsStylusReportDataNoTilt`. -/
def reportHeaderSize : Nat := 4
def serialSize : Nat := 8
def tiltSize : Nat := 4
def dataSize : Nat := 16
def dataNoTiltSize : Nat := 12

/-- The `for` loop of a stylus report handler: `elements` records of `size` bytes, each read and
handed to `IptsStylusHandleData`. -/
def readElements (tilt : Nat → Nat → Int × Int) (size : Nat) (decode : List UInt8 → StylusData) :
    Nat → StylusM Unit
  | 0 => pure ()
  | elements + 1 => do
    let bytes ← iptsUtilsRead size
    iptsStylusHandleData tilt (decode bytes)
    readElements tilt size decode elements

/-- A stylus report handler: a header of `headerSize` bytes whose first byte is `Elements`, then
`Elements` data records of `recordSize` bytes. -/
def handleReport (tilt : Nat → Nat → Int × Int) (headerSize recordSize : Nat)
    (decode : List UInt8 → StylusData) : StylusM Unit := do
  let header ← iptsUtilsRead headerSize
  readElements tilt recordSize decode (header.headD 0).toNat

/-- `IptsStylusHandleReportSerial`. -/
def iptsStylusHandleReportSerial (tilt : Nat → Nat → Int × Int) : StylusM Unit :=
  handleReport tilt serialSize dataSize StylusData.decode

/-- `IptsStylusHandleReportTilt`. -/
def iptsStylusHandleReportTilt (tilt : Nat → Nat → Int × Int) : StylusM Unit :=
  handleReport tilt tiltSize dataSize StylusData.decode

/-- `IptsStylusHandleReportNoTilt`, whose header is an `IptsStylusReportSerial`. -/
def iptsStylusHandleReportNoTilt (tilt : Nat → Nat → Int × Int) : StylusM Unit :=
  handleReport tilt serialSize dataNoTiltSize fun bytes => (StylusDataNoTilt.decode bytes).toData

/-- The report types `IptsStylusHandleInput` dispatches on. -/
structure ReportTypes where
  noTilt : Nat
  tilt : Nat
  tiltSerial : Nat

/-- The `switch` on `report.Type`: the first matching stylus handler, or the report skipped. -/
def handleReportOfType (tilt : Nat → Nat → Int × Int) (types : ReportTypes) (type size : Nat) :
    StylusM Unit :=
  if type = types.noTilt then iptsStylusHandleReportNoTilt tilt
  else if type = types.tilt then iptsStylusHandleReportTilt tilt
  else if type = types.tiltSerial then iptsStylusHandleReportSerial tilt
  else iptsUtilsSkip size

/-! ### What each function does -/

/-- The events `IptsStylusHandleData` emits for a record: the mode bits as keys (the pen is the
proximity bit without the rubber bit, the rubber both), then the axes and `SYN_REPORT`. -/
def dataEvents (tilt : Nat → Nat → Int × Int) (data : StylusData) : List Event :=
  let tilted := if data.altitude > 0 then tilt data.altitude data.azimuth else (0, 0)
  [.key .btnTouch (data.mode.testBit 1).toNat,
    .key .btnToolPen (data.mode.testBit 0 && !data.mode.testBit 3).toNat,
    .key .btnToolRubber (data.mode.testBit 0 && data.mode.testBit 3).toNat,
    .key .btnStylus (data.mode.testBit 2).toNat,
    .abs .x data.x, .abs .y data.y, .abs .pressure data.pressure, .abs .misc data.timestamp,
    .abs .tiltX tilted.1, .abs .tiltY tilted.2, .synReport]

/-- `count` consecutive chunks of `size` bytes. -/
def chunks (size : Nat) : Nat → List UInt8 → List (List UInt8)
  | 0, _ => []
  | count + 1, bytes => bytes.take size :: chunks size count (bytes.drop size)

/-- The events a stylus handler emits for the report body `body`. -/
def recordEvents (tilt : Nat → Nat → Int × Int) (headerSize recordSize : Nat)
    (decode : List UInt8 → StylusData) (body : List UInt8) : List Event :=
  (chunks recordSize (body.headD 0).toNat (body.drop headerSize)).flatMap
    fun bytes => dataEvents tilt (decode bytes)

/-- The bytes the `switch` reads for a report of `type` and `size` whose body starts with
`first`. -/
def consumption (types : ReportTypes) (type size : Nat) (first : UInt8) : Nat :=
  if type = types.noTilt then serialSize + first.toNat * dataNoTiltSize
  else if type = types.tilt then tiltSize + first.toNat * dataSize
  else if type = types.tiltSerial then serialSize + first.toNat * dataSize
  else size

/-- The events the `switch` emits for a report of `type` with body `body`. -/
def reportEvents (tilt : Nat → Nat → Int × Int) (types : ReportTypes) (type : Nat)
    (body : List UInt8) : List Event :=
  if type = types.noTilt then recordEvents tilt serialSize dataNoTiltSize
    (fun bytes => (StylusDataNoTilt.decode bytes).toData) body
  else if type = types.tilt then recordEvents tilt tiltSize dataSize StylusData.decode body
  else if type = types.tiltSerial then recordEvents tilt serialSize dataSize StylusData.decode body
  else []

section Spec

variable (tilt : Nat → Nat → Int × Int) (d : Device)

theorem iptsUtilsRead_of_le {size : Nat} (fits : size ≤ d.buffer.length) :
    iptsUtilsRead size d = .ok (d.buffer.take size) { d with buffer := d.buffer.drop size } :=
  if_pos fits

theorem iptsUtilsRead_of_lt {size : Nat} (short : d.buffer.length < size) :
    iptsUtilsRead size d = .error () d :=
  if_neg (Nat.not_le_of_lt short)

@[simp] theorem emit_eq (event : Event) :
    emit event d = .ok () { d with events := d.events ++ [event] } := rfl

theorem mode_bit (mode index : Nat) :
    (mode &&& 1 <<< index) >>> index = (mode.testBit index).toNat := by
  rw [Nat.one_shiftLeft, Nat.and_two_pow, Nat.shiftRight_eq_div_pow,
    Nat.mul_div_cancel _ (Nat.two_pow_pos index)]

/-- `IptsStylusHandleData` emits `dataEvents`. -/
theorem iptsStylusHandleData_eq (data : StylusData) :
    iptsStylusHandleData tilt data d =
      .ok () { d with events := d.events ++ dataEvents tilt data } := by
  have pen : (data.mode.testBit 0).toNat * (1 - (data.mode.testBit 3).toNat) =
      (data.mode.testBit 0 && !data.mode.testBit 3).toNat := by
    cases data.mode.testBit 0 <;> cases data.mode.testBit 3 <;> rfl
  have rubber : (data.mode.testBit 0).toNat * (data.mode.testBit 3).toNat =
      (data.mode.testBit 0 && data.mode.testBit 3).toNat := by
    cases data.mode.testBit 0 <;> cases data.mode.testBit 3 <;> rfl
  simp only [iptsStylusHandleData, modeProx, modeTouch, modeButton, modeRubber, mode_bit, pen,
    rubber, bind, EStateM.bind, emit_eq, dataEvents, List.append_assoc, List.cons_append,
    List.nil_append]

theorem readElements_of_le (size : Nat) (decode : List UInt8 → StylusData) :
    ∀ (count : Nat) (d : Device), count * size ≤ d.buffer.length →
      readElements tilt size decode count d =
        .ok () ⟨d.buffer.drop (count * size), d.events ++
          (chunks size count d.buffer).flatMap fun bytes => dataEvents tilt (decode bytes)⟩
  | 0, d, _ => by simp [readElements, chunks, pure, EStateM.pure]
  | count + 1, d, fits => by
    have split : (count + 1) * size = size + count * size := by rw [Nat.succ_mul, Nat.add_comm]
    have first : size ≤ d.buffer.length := by omega
    have rest : count * size ≤ (d.buffer.drop size).length := by
      rw [List.length_drop]
      omega
    simp only [readElements, bind, EStateM.bind, iptsUtilsRead_of_le _ first,
      iptsStylusHandleData_eq, readElements_of_le size decode count
        ⟨d.buffer.drop size, d.events ++ dataEvents tilt (decode (d.buffer.take size))⟩ rest,
      chunks, List.flatMap_cons, List.append_assoc, List.drop_drop, split]

theorem readElements_of_lt (size : Nat) (decode : List UInt8 → StylusData) :
    ∀ (count : Nat) (d : Device), d.buffer.length < count * size →
      ∃ failed, readElements tilt size decode count d = .error () failed
  | 0, _, short => absurd short (by simp)
  | count + 1, d, short => by
    by_cases first : size ≤ d.buffer.length
    · have rest : (d.buffer.drop size).length < count * size := by
        rw [List.length_drop]
        rw [Nat.succ_mul] at short
        omega
      simp only [readElements, bind, EStateM.bind, iptsUtilsRead_of_le _ first,
        iptsStylusHandleData_eq]
      exact readElements_of_lt size decode count
        ⟨d.buffer.drop size, d.events ++ dataEvents tilt (decode (d.buffer.take size))⟩ rest
    · exact ⟨d, by simp only [readElements, bind, EStateM.bind,
        iptsUtilsRead_of_lt _ (Nat.lt_of_not_le first)]⟩

theorem take_headD {bytes : List UInt8} {count : Nat} (positive : 0 < count) :
    (bytes.take count).headD 0 = bytes.headD 0 := by
  cases bytes with
  | nil => simp
  | cons byte rest =>
    obtain ⟨n, rfl⟩ := Nat.exists_eq_succ_of_ne_zero positive.ne'
    rfl

theorem handleReport_of_le {headerSize : Nat} (positive : 0 < headerSize) (recordSize : Nat)
    (decode : List UInt8 → StylusData)
    (fits : headerSize + (d.buffer.headD 0).toNat * recordSize ≤ d.buffer.length) :
    handleReport tilt headerSize recordSize decode d =
      .ok () ⟨d.buffer.drop (headerSize + (d.buffer.headD 0).toNat * recordSize),
        d.events ++ recordEvents tilt headerSize recordSize decode d.buffer⟩ := by
  have records : (d.buffer.headD 0).toNat * recordSize ≤ (d.buffer.drop headerSize).length := by
    rw [List.length_drop]
    omega
  simp only [handleReport, bind, EStateM.bind,
    iptsUtilsRead_of_le _ (by omega : headerSize ≤ d.buffer.length), take_headD positive,
    readElements_of_le tilt recordSize decode _ ⟨d.buffer.drop headerSize, d.events⟩ records,
    List.drop_drop, recordEvents]

theorem handleReport_of_lt {headerSize : Nat} (positive : 0 < headerSize) (recordSize : Nat)
    (decode : List UInt8 → StylusData)
    (short : d.buffer.length < headerSize + (d.buffer.headD 0).toNat * recordSize) :
    ∃ failed, handleReport tilt headerSize recordSize decode d = .error () failed := by
  by_cases fits : headerSize ≤ d.buffer.length
  · have records : (d.buffer.drop headerSize).length < (d.buffer.headD 0).toNat * recordSize := by
      rw [List.length_drop]
      omega
    simp only [handleReport, bind, EStateM.bind, iptsUtilsRead_of_le _ fits, take_headD positive]
    exact readElements_of_lt tilt recordSize decode _ ⟨d.buffer.drop headerSize, d.events⟩ records
  · exact ⟨d, by simp only [handleReport, bind, EStateM.bind,
      iptsUtilsRead_of_lt _ (Nat.lt_of_not_le fits)]⟩

variable (types : ReportTypes) (type size : Nat)

/-- The `switch` reads `consumption` bytes and emits `reportEvents` when they are there. -/
theorem handleReportOfType_of_le
    (fits : consumption types type size (d.buffer.headD 0) ≤ d.buffer.length) :
    handleReportOfType tilt types type size d =
      .ok () ⟨d.buffer.drop (consumption types type size (d.buffer.headD 0)),
        d.events ++ reportEvents tilt types type d.buffer⟩ := by
  unfold handleReportOfType consumption reportEvents at *
  split_ifs at * with noTilt tilted serial
  · exact handleReport_of_le tilt d (by decide) _ _ fits
  · exact handleReport_of_le tilt d (by decide) _ _ fits
  · exact handleReport_of_le tilt d (by decide) _ _ fits
  · simp only [iptsUtilsSkip, SeqRight.seqRight, EStateM.seqRight, iptsUtilsRead_of_le _ fits,
      List.append_nil]
    rfl

/-- The `switch` fails when fewer than `consumption` bytes are left. -/
theorem handleReportOfType_of_lt
    (short : d.buffer.length < consumption types type size (d.buffer.headD 0)) :
    ∃ failed, handleReportOfType tilt types type size d = .error () failed := by
  unfold handleReportOfType consumption at *
  split_ifs at * with noTilt tilted serial
  · exact handleReport_of_lt tilt d (by decide) _ _ short
  · exact handleReport_of_lt tilt d (by decide) _ _ short
  · exact handleReport_of_lt tilt d (by decide) _ _ short
  · exact ⟨d, by simp only [iptsUtilsSkip, SeqRight.seqRight, EStateM.seqRight,
      iptsUtilsRead_of_lt _ short]⟩

/-- `IptsStylusHandleReportNoTilt` on a header announcing one record: the record's pressure is
emitted times four in `uint16`, with no timestamp and no tilt, whatever `tilt` computes. -/
theorem noTilt_record_emitted (header record rest : List UInt8) (events : List Event)
    (header_size : header.length = serialSize) (single : header.headD 0 = 1)
    (record_size : record.length = dataNoTiltSize) :
    iptsStylusHandleReportNoTilt tilt ⟨header ++ record ++ rest, events⟩ =
      .ok () ⟨rest, events ++ dataEvents (fun _ _ => (0, 0))
        ⟨0, (record.getD 4 0).toNat, u16 (record.getD 5 0) (record.getD 6 0),
          u16 (record.getD 7 0) (record.getD 8 0),
          u16 (record.getD 9 0) (record.getD 10 0) * 4 % 2 ^ 16, 0, 0⟩⟩ := by
  have first : (header ++ record ++ rest).headD 0 = 1 := by
    obtain ⟨byte, tail, rfl⟩ := List.exists_cons_of_length_pos
      (by rw [header_size]; decide : 0 < header.length)
    exact single
  have one : (1 : UInt8).toNat = 1 := rfl
  have body : (header ++ record ++ rest).drop serialSize = record ++ rest := by
    rw [List.append_assoc, List.drop_left' header_size]
  have both : (header ++ record).length = serialSize + dataNoTiltSize := by
    rw [List.length_append, header_size, record_size]
  unfold iptsStylusHandleReportNoTilt
  rw [handleReport_of_le tilt _ (by decide) _ _ (by
    rw [first, one, Nat.one_mul, List.length_append, both]
    omega)]
  simp only [first, one, Nat.one_mul, List.drop_left' both, recordEvents, chunks, body,
    List.take_left' record_size, List.flatMap_cons, List.flatMap_nil, List.append_nil]
  rfl

/-- One no-tilt record of a stylus in proximity and touching at (10, 20) with pressure 250. -/
theorem noTilt_touch_reported :
    ([1, 0, 0, 0, 0, 0, 0, 0] : List UInt8).length = serialSize ∧
      ([1, 0, 0, 0, 0, 0, 0, 0] : List UInt8).headD 0 = 1 ∧
      ([0, 0, 0, 0, 3, 10, 0, 20, 0, 250, 0, 0] : List UInt8).length = dataNoTiltSize ∧
      iptsStylusHandleReportNoTilt (fun _ _ => (0, 0))
          ⟨[1, 0, 0, 0, 0, 0, 0, 0] ++ [0, 0, 0, 0, 3, 10, 0, 20, 0, 250, 0, 0] ++ [], []⟩ =
        .ok () ⟨[], [] ++ [.key .btnTouch 1, .key .btnToolPen 1, .key .btnToolRubber 0,
          .key .btnStylus 0, .abs .x 10, .abs .y 20, .abs .pressure 1000, .abs .misc 0,
          .abs .tiltX 0, .abs .tiltY 0, .synReport]⟩ :=
  ⟨rfl, rfl, rfl, noTilt_record_emitted _ _ _ _ _ rfl rfl rfl⟩

/- A pressure above 16383 wraps around in `uint16`. -/
example : (StylusDataNoTilt.toData ⟨1, 0, 0, 20000⟩).pressure = 14464 := by decide

end Spec

end Iptsd.Stylus
