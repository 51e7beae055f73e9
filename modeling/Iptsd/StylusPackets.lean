import Iptsd.StylusInput

/- What the stylus side sends to the input device, over any bytes. `IptsStylusHandleData` emits
its eleven events with no read in between, so whatever the frame and the bytes, and whether the
walk returns or stops on a failed read, the events it appends are whole packets, each closed by
`SYN_REPORT`. Each function gets one lemma saying it keeps to this; the walk's is by the loop's
own induction. -/

set_option autoImplicit false

namespace Iptsd.Stylus

/-- The device a stylus computation ends in, whether it returned or a read failed. -/
def finalDevice {α : Type} : EStateM.Result Unit Device α → Device
  | .ok _ d => d
  | .error _ d => d

variable (tilt : Nat → Nat → Int × Int)

/-- `d'` holds the events of `d` followed by the eleven-event packets of whole records, each
closed by `SYN_REPORT`. -/
def Packets (d d' : Device) : Prop :=
  ∃ records : List StylusData, d'.events = d.events ++ records.flatMap (dataEvents tilt)

/-- From every device, whether it returns or fails, `prog` appends only whole packets. -/
def EmitsPackets {α : Type} (prog : StylusM α) : Prop :=
  ∀ d, Packets tilt d (finalDevice (prog d))

variable {tilt} {types : ReportTypes}

theorem Packets.refl (d : Device) : Packets tilt d d := ⟨[], by simp⟩

theorem Packets.trans {d₁ d₂ d₃ : Device} (first : Packets tilt d₁ d₂)
    (second : Packets tilt d₂ d₃) : Packets tilt d₁ d₃ := by
  obtain ⟨before, events₂⟩ := first
  obtain ⟨after, events₃⟩ := second
  exact ⟨before ++ after, by rw [events₃, events₂, List.flatMap_append, List.append_assoc]⟩

theorem EmitsPackets.of_eq {α : Type} {x : StylusM α} (emits : EmitsPackets tilt x) {d : Device}
    {result : EStateM.Result Unit Device α} (ran : x d = result) :
    Packets tilt d (finalDevice result) :=
  ran ▸ emits d

/-- Sequencing keeps to whole packets, also when the first step fails. -/
theorem EmitsPackets.bind {α β : Type} {x : StylusM α} {f : α → StylusM β}
    (first : EmitsPackets tilt x) (rest : ∀ a, EmitsPackets tilt (f a)) :
    EmitsPackets tilt (x >>= f) := by
  intro d
  show Packets tilt d (finalDevice (EStateM.bind x f d))
  unfold EStateM.bind
  cases ran : x d with
  | ok a d' => exact (first.of_eq ran).trans (rest a d')
  | error e d' => exact first.of_eq ran

theorem emitsPackets_pure {α : Type} (a : α) : EmitsPackets tilt (pure a : StylusM α) :=
  Packets.refl

theorem emitsPackets_iptsUtilsRead (size : Nat) : EmitsPackets tilt (iptsUtilsRead size) := by
  intro d
  unfold iptsUtilsRead
  split
  · exact ⟨[], by simp [finalDevice]⟩
  · exact Packets.refl d

theorem emitsPackets_iptsStylusHandleData (data : StylusData) :
    EmitsPackets tilt (iptsStylusHandleData tilt data) := fun d =>
  ⟨[data], by rw [iptsStylusHandleData_eq, List.flatMap_singleton]; rfl⟩

theorem emitsPackets_readElements (size : Nat) (decode : List UInt8 → StylusData) :
    ∀ elements, EmitsPackets tilt (readElements tilt size decode elements)
  | 0 => emitsPackets_pure ()
  | elements + 1 => (emitsPackets_iptsUtilsRead size).bind fun _ =>
    (emitsPackets_iptsStylusHandleData _).bind fun _ => emitsPackets_readElements size decode elements

theorem emitsPackets_handleReportOfType (type length : Nat) :
    EmitsPackets tilt (handleReportOfType tilt types type length) := by
  have handled (headerSize recordSize : Nat) (decode : List UInt8 → StylusData) :
      EmitsPackets tilt (handleReport tilt headerSize recordSize decode) :=
    (emitsPackets_iptsUtilsRead _).bind fun _ => emitsPackets_readElements _ _ _
  unfold handleReportOfType
  split_ifs
  · exact handled _ _ _
  · exact handled _ _ _
  · exact handled _ _ _
  · exact (emitsPackets_iptsUtilsRead length).bind fun _ => emitsPackets_pure ()

theorem emitsPackets_handleInputLoop (frame : PayloadFrame) (size : Nat) :
    EmitsPackets tilt (handleInputLoop tilt types frame size) := by
  intro d
  induction size, d using handleInputLoop.induct tilt types frame with
  | case1 size d below e failed read =>
    rw [handleInputLoop_of_read_error below read]
    exact (emitsPackets_iptsUtilsRead _).of_eq read
  | case2 size d below report d' read type length e failed handled =>
    rw [handleInputLoop_of_handle_error below read handled]
    exact ((emitsPackets_iptsUtilsRead _).of_eq read).trans
      ((emitsPackets_handleReportOfType _ _).of_eq handled)
  | case3 size d below report d' read type length d'' handled next =>
    rw [handleInputLoop_of_handled below read handled]
    exact ((emitsPackets_iptsUtilsRead _).of_eq read).trans
      (((emitsPackets_handleReportOfType _ _).of_eq handled).trans next)
  | case4 size d reached =>
    rw [handleInputLoop_done (Nat.le_of_not_lt reached)]
    exact Packets.refl d

/-- Whatever the frame and the bytes, the walk, whether it returns or stops on a failed read,
appends to the events only the packets of whole records. -/
theorem walk_emits_whole_packets (frame : PayloadFrame) (d : Device) :
    ∃ records : List StylusData,
      (finalDevice (iptsStylusHandleInput tilt types frame d)).events =
        d.events ++ records.flatMap (dataEvents tilt) :=
  emitsPackets_handleInputLoop frame 0 d

end Iptsd.Stylus
