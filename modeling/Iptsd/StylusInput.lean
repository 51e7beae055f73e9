import Iptsd.Stylus

/- `IptsStylusHandleInput`, the walk over the reports of one stylus payload frame. Each turn reads
a report header, adds `report.Size + 4` to a running `uint32` count and dispatches; the walk stops
once the count reaches the frame's `Size`, whatever the handlers read. A frame whose reports are
well formed is walked to its end, emitting each report's events in turn; a report whose handler
reads more than its `Size` makes the walk read into the next frame. -/

set_option autoImplicit false

namespace Iptsd.Stylus

variable (tilt : Nat → Nat → Int × Int) (types : ReportTypes)

theorem length_lt_of_read {d d' : Device} {header : List UInt8}
    (read : iptsUtilsRead reportHeaderSize d = .ok header d') :
    d'.buffer.length < d.buffer.length := by
  by_cases fits : reportHeaderSize ≤ d.buffer.length
  · rw [iptsUtilsRead_of_le d fits] at read
    cases read
    simp only [List.length_drop, reportHeaderSize] at fits ⊢
    omega
  · rw [iptsUtilsRead_of_lt d (Nat.lt_of_not_le fits)] at read
    cases read

theorem length_le_of_handled {type size : Nat} {d d' : Device} {u : Unit}
    (handled : handleReportOfType tilt types type size d = .ok u d') :
    d'.buffer.length ≤ d.buffer.length := by
  by_cases fits : consumption types type size (d.buffer.headD 0) ≤ d.buffer.length
  · rw [handleReportOfType_of_le tilt d types type size fits] at handled
    cases handled
    exact List.length_drop _ _ ▸ Nat.sub_le _ _
  · obtain ⟨failed, fails⟩ := handleReportOfType_of_lt tilt d types type size
      (Nat.lt_of_not_le fits)
    rw [fails] at handled
    cases handled

/-- Modelled from the spec: `IptsPayloadFrame`, of which the walk reads the `uint32` `Size`. -/
structure PayloadFrame where
  size : Nat
  size_lt : size < 2 ^ 32

/-- The loop of `IptsStylusHandleInput` from the running `uint32` count `size`: while it is below
the frame's size, read a report header, add `report.Size + 4`, and dispatch. -/
def handleInputLoop (frame : PayloadFrame) (size : Nat) (d : Device) :
    EStateM.Result Unit Device Unit :=
  if size < frame.size then
    match read : iptsUtilsRead reportHeaderSize d with
    | .error e failed => .error e failed
    | .ok report d' =>
      let type := u16 (report.getD 0 0) (report.getD 1 0)
      let length := u16 (report.getD 2 0) (report.getD 3 0)
      match handled : handleReportOfType tilt types type length d' with
      | .error e failed => .error e failed
      | .ok () d'' => handleInputLoop frame ((size + (length + reportHeaderSize)) % 2 ^ 32) d''
  else .ok () d
termination_by d.buffer.length
decreasing_by
  have shorter := length_lt_of_read read
  have kept := length_le_of_handled tilt types handled
  simp_wf
  omega

/-- `IptsStylusHandleInput(ipts, buffer, frame)`. -/
def iptsStylusHandleInput (frame : PayloadFrame) : StylusM Unit :=
  handleInputLoop tilt types frame 0

variable {tilt types}

section Turn

variable {frame : PayloadFrame} {size : Nat} {d d' failed : Device} {report : List UInt8}
  {e : Unit}

/-- A turn whose header read fails ends the walk with that failure. -/
theorem handleInputLoop_of_read_error (below : size < frame.size)
    (read : iptsUtilsRead reportHeaderSize d = .error e failed) :
    handleInputLoop tilt types frame size d = .error e failed := by
  rw [handleInputLoop, if_pos below]
  split <;> simp_all

/-- A turn whose handler fails ends the walk with that failure. -/
theorem handleInputLoop_of_handle_error (below : size < frame.size)
    (read : iptsUtilsRead reportHeaderSize d = .ok report d')
    (handled : handleReportOfType tilt types (u16 (report.getD 0 0) (report.getD 1 0))
      (u16 (report.getD 2 0) (report.getD 3 0)) d' = .error e failed) :
    handleInputLoop tilt types frame size d = .error e failed := by
  rw [handleInputLoop, if_pos below]
  split <;> simp_all
  split <;> simp_all

/-- A turn whose handler returns goes on with the count grown by `report.Size + 4`. -/
theorem handleInputLoop_of_handled {d'' : Device} (below : size < frame.size)
    (read : iptsUtilsRead reportHeaderSize d = .ok report d')
    (handled : handleReportOfType tilt types (u16 (report.getD 0 0) (report.getD 1 0))
      (u16 (report.getD 2 0) (report.getD 3 0)) d' = .ok () d'') :
    handleInputLoop tilt types frame size d = handleInputLoop tilt types frame
      ((size + (u16 (report.getD 2 0) (report.getD 3 0) + reportHeaderSize)) % 2 ^ 32) d'' := by
  rw [handleInputLoop, if_pos below]
  split <;> simp_all
  split <;> simp_all

/-- One turn of the loop on a report header `type`, `size` (low byte first), when the handler
it dispatches to returns. -/
theorem handleInputLoop_of_ok (below : size < frame.size)
    {typeLo typeHi sizeLo sizeHi : UInt8} {rest : List UInt8} {events : List Event}
    (handled : handleReportOfType tilt types (u16 typeLo typeHi) (u16 sizeLo sizeHi)
      ⟨rest, events⟩ = .ok () d) :
    handleInputLoop tilt types frame size ⟨typeLo :: typeHi :: sizeLo :: sizeHi :: rest, events⟩ =
      handleInputLoop tilt types frame ((size + (u16 sizeLo sizeHi + reportHeaderSize)) % 2 ^ 32)
        d :=
  have read : iptsUtilsRead reportHeaderSize ⟨typeLo :: typeHi :: sizeLo :: sizeHi :: rest, events⟩ =
      .ok [typeLo, typeHi, sizeLo, sizeHi] ⟨rest, events⟩ := by
    simp [iptsUtilsRead, reportHeaderSize]
  (handleInputLoop_of_handled below read handled :)

theorem handleInputLoop_done (reached : frame.size ≤ size) (d : Device) :
    handleInputLoop tilt types frame size d = .ok () d := by
  rw [handleInputLoop, if_neg (by omega)]

end Turn

/-- A report as it stands in a frame: the bytes of its header, low byte first, and its body. -/
structure Report where
  typeLo : UInt8
  typeHi : UInt8
  sizeLo : UInt8
  sizeHi : UInt8
  body : List UInt8

/-- `report.Type` and `report.Size`. -/
def Report.type (report : Report) : Nat := u16 report.typeLo report.typeHi
def Report.size (report : Report) : Nat := u16 report.sizeLo report.sizeHi

/-- The bytes of a report in its frame. -/
def Report.encode (report : Report) : List UInt8 :=
  report.typeLo :: report.typeHi :: report.sizeLo :: report.sizeHi :: report.body

/-- The bytes a report takes in its frame, header included. -/
def Report.span (report : Report) : Nat := report.size + reportHeaderSize

/-- A handler that reads no record emits nothing. -/
theorem reportEvents_of_no_elements {type : Nat} {body : List UInt8} (empty : body.headD 0 = 0) :
    reportEvents tilt types type body = [] := by
  unfold reportEvents recordEvents
  rw [empty]
  split_ifs <;> rfl

/-- A frame with room for one report header only. -/
def oneHeaderFrame : PayloadFrame := ⟨4, by decide⟩

theorem stylus_walk_reads_past_frame (tilt : Nat → Nat → Int × Int) (types : ReportTypes)
    (next : List UInt8) :
    ∃ consumed, 8 ≤ consumed ∧
      iptsStylusHandleInput tilt types oneHeaderFrame
          ⟨[0, 0, 4, 0] ++ List.replicate 8 0 ++ next, []⟩ =
        .ok () ⟨([0, 0, 4, 0] ++ List.replicate 8 0 ++ next).drop consumed, []⟩ := by
  have first : (List.replicate 8 (0 : UInt8) ++ next).headD 0 = 0 := rfl
  have bounds : 4 ≤ consumption types 0 4 0 ∧ consumption types 0 4 0 ≤ 8 := by
    unfold consumption
    split_ifs <;> simp [serialSize, tiltSize]
  have handled := handleReportOfType_of_le tilt ⟨List.replicate 8 0 ++ next, []⟩ types 0 4 (by
    rw [first, List.length_append, List.length_replicate]
    omega)
  rw [first, reportEvents_of_no_elements first, List.append_nil] at handled
  refine ⟨4 + consumption types 0 4 0, by omega, ?_⟩
  rw [iptsStylusHandleInput, show [0, 0, 4, 0] ++ List.replicate 8 0 ++ next =
    (0 : UInt8) :: 0 :: 4 :: 0 :: (List.replicate 8 0 ++ next) from rfl,
    handleInputLoop_of_ok (by decide) handled, handleInputLoop_done (by decide), Nat.add_comm]
  rfl

end Iptsd.Stylus
