import Mathlib.Order.MinMax
import Mathlib.Data.List.Basic

/- `iptsd::contacts::stability::Stabilizer<T>`. The scalar `T` is a floating-point type; it is
modelled by IEEE's comparisons, NaN included, and arithmetic left abstract: a NaN compares
below, above and equal to nothing, and the only laws assumed are those that tie `<` to `<=` on
the values that are not NaN. `Contact<T>`, `Config<T>` and
`Contact<T>::find_in_frame` live in headers that are not in the sources: the records keep the
fields the stabilizer reads and writes, and `find_in_frame` is modelled from the spec. The
deque `m_frames` is a list, oldest frame first. -/

set_option autoImplicit false

namespace Iptsd.Stability

/-- The scalar type `T` (`std::is_floating_point_v<T>`): IEEE's `<` and `<=`, with the
subtraction, division, `std::abs`, `std::hypot`, `M_PI` and literals the stabilizer uses. A
value that is not `<=` itself is NaN; any two others compare one way or the other, and `<=`
never holds against `>`. -/
class Scalar (T : Type) extends LT T, LE T, Zero T, One T, Sub T, Div T, OfScientific T where
  decLt : ∀ a b : T, Decidable (a < b)
  abs : T → T
  hypot : T → T → T
  pi : T
  not_lt_of_le : ∀ {a b : T}, a ≤ b → ¬ b < a
  le_of_not_lt : ∀ {a b : T}, a ≤ a → b ≤ b → ¬ a < b → b ≤ a

instance Scalar.decidableLt {T : Type} [Scalar T] (a b : T) : Decidable (a < b) := Scalar.decLt a b

/-- `a` is a number: not NaN, the one value IEEE does not find `<=` itself. -/
def Scalar.IsNum {T : Type} [Scalar T] (a : T) : Prop := a ≤ a

/-- `Vector2<T>`. -/
@[ext] structure Vector2 (T : Type) where
  x : T
  y : T

/-- `Contact<T>`: the fields the stabilizer reads or writes. -/
@[ext] structure Contact (T : Type) where
  mean : Vector2 T
  size : Vector2 T
  orientation : T
  normalized : Bool
  index : Option Nat
  stable : Bool

/-- `Config<T>`: the fields the stabilizer reads; each threshold is `(lower, upper)`. -/
structure Config (T : Type) where
  temporalWindow : Nat
  checkTemporalStability : Bool
  sizeThreshold : Option (Vector2 T)
  positionThreshold : Option (Vector2 T)
  orientationThreshold : Option (Vector2 T)

variable {T : Type}

section Coeff

variable [Scalar T]

/-- `v.maxCoeff()` of a `Vector2<T>`, Eigen's `std::max(x, y)`: `x < y ? y : x`. -/
def Vector2.maxCoeff (v : Vector2 T) : T := if v.x < v.y then v.y else v.x

/-- `v.minCoeff()`, Eigen's `std::min(x, y)`: `y < x ? y : x`. -/
def Vector2.minCoeff (v : Vector2 T) : T := if v.y < v.x then v.y else v.x

end Coeff

/-- Modelled from the spec: `Contact<T>::find_in_frame(index, frame)`, which looks up "the
prior Contact with the same index" in a frame; the first such contact. -/
def findInFrame (index : Nat) (frame : List (Contact T)) : Option (Contact T) :=
  frame.find? (·.index == some index)

/-- `Stabilizer<T>`: the configuration and `m_frames`, oldest first, which is built with
`max(temporal_window, 1)` frames and keeps that length. -/
structure Stabilizer (T : Type) where
  config : Config T
  frames : List (List (Contact T))
  length_frames : frames.length = max config.temporalWindow 1

namespace Stabilizer

/-- `Stabilizer(config)`: `max(temporal_window, 1)` empty frames. -/
def new (config : Config T) : Stabilizer T :=
  ⟨config, List.replicate (max config.temporalWindow 1) [], List.length_replicate _ _⟩

/-- `reset()`: every stored frame cleared. -/
def reset (s : Stabilizer T) : Stabilizer T :=
  ⟨s.config, s.frames.map fun _ => [], (List.length_map _ _).trans s.length_frames⟩

theorem frames_ne_nil (s : Stabilizer T) : s.frames ≠ [] :=
  List.ne_nil_of_length_pos (s.length_frames ▸ lt_max_of_lt_right Nat.one_pos)

/-- `m_frames.back()`, the newest stored frame. -/
def back (s : Stabilizer T) : List (Contact T) := s.frames.getLast s.frames_ne_nil

/-- `check_temporal(contact)`: the contact's index is found in every stored frame. -/
def checkTemporal (s : Stabilizer T) (contact : Contact T) : Bool :=
  match contact.index with
  | none => true
  | some index => s.frames.reverse.all fun frame => (findInFrame index frame).isSome

section Stages

variable [Scalar T]

/-- `stabilize_size(current, last)`. -/
def stabilizeSize (config : Config T) (current last : Contact T) : Contact T :=
  match config.sizeThreshold with
  | none => current
  | some thresh =>
    let delta : Vector2 T := ⟨Scalar.abs (current.size.x - last.size.x),
      Scalar.abs (current.size.y - last.size.y)⟩
    let current := if delta.x < thresh.x then { current with size.x := last.size.x }
      else if delta.x > thresh.y then { current with stable := false } else current
    if delta.y < thresh.x then { current with size.y := last.size.y }
    else if delta.y > thresh.y then { current with stable := false } else current

/-- `stabilize_position(current, last)`. -/
def stabilizePosition (config : Config T) (current last : Contact T) : Contact T :=
  match config.positionThreshold with
  | none => current
  | some thresh =>
    let distance := Scalar.hypot (current.mean.x - last.mean.x) (current.mean.y - last.mean.y)
    if distance < thresh.x then { current with mean := last.mean }
    else if distance > thresh.y then { current with stable := false } else current

/-- The angle between two orientations, the shorter way round a half turn of `max`:
`std::min(d1, d2)`, which is `d2 < d1 ? d2 : d1`. -/
def circularDelta (max a b : T) : T :=
  let d1 := Scalar.abs (a - b)
  let d2 := max - d1
  if d2 < d1 then d2 else d1

/-- `stabilize_orientation(current, last)`. -/
def stabilizeOrientation (config : Config T) (current last : Contact T) : Contact T :=
  match config.orientationThreshold with
  | none => current
  | some thresh =>
    let aspect := current.size.maxCoeff / current.size.minCoeff
    if aspect < 1.1 then { current with orientation := 0 }
    else
      let delta := circularDelta (if current.normalized then 1 else Scalar.pi)
        current.orientation last.orientation
      if delta < thresh.x then { current with orientation := last.orientation }
      else if delta > thresh.y then { current with stable := false } else current

/-- `stabilize_contact(contact, frame)`, `frame` being the newest stored frame. -/
def stabilizeContact (s : Stabilizer T) (contact : Contact T) (frame : List (Contact T)) :
    Contact T :=
  match contact.index with
  | none => contact
  | some index =>
    let contact := { contact with stable :=
      if s.config.checkTemporalStability && 2 ≤ s.config.temporalWindow then s.checkTemporal contact
      else true }
    if s.config.temporalWindow < 2 then contact
    else match findInFrame index frame with
      | none => contact
      | some last =>
        let contact := if s.config.sizeThreshold.isSome then stabilizeSize s.config contact last
          else contact
        let contact := if s.config.positionThreshold.isSome then
          stabilizePosition s.config contact last else contact
        if s.config.orientationThreshold.isSome then stabilizeOrientation s.config contact last
        else contact

/-- `stabilize(frame)`: every contact stabilized against the newest stored frame, then the
oldest stored frame dropped and a copy of the result stored as the newest. -/
def stabilize (s : Stabilizer T) (frame : List (Contact T)) : List (Contact T) × Stabilizer T :=
  let frame := frame.map fun contact => s.stabilizeContact contact s.back
  (frame, ⟨s.config, s.frames.tail ++ [frame], by
    have := s.length_frames
    simp only [List.length_append, List.length_tail, List.length_singleton]
    omega⟩)

@[simp] theorem stabilize_fst (s : Stabilizer T) (frame : List (Contact T)) :
    (s.stabilize frame).1 = frame.map fun contact => s.stabilizeContact contact s.back := rfl

@[simp] theorem stabilize_config (s : Stabilizer T) (frame : List (Contact T)) :
    (s.stabilize frame).2.config = s.config := rfl

/-- The newest stored frame after `stabilize` is the frame it returned. -/
theorem back_stabilize (s : Stabilizer T) (frame : List (Contact T)) :
    (s.stabilize frame).2.back = (s.stabilize frame).1 :=
  List.getLast_append_singleton _

end Stages

end Stabilizer

/-- The calls a client makes on a stabilizer. -/
inductive Call (T : Type) where
  | stabilize (frame : List (Contact T))
  | reset

variable [Scalar T]

/-- The calls in turn; for each, what the caller got back: the stabilized frame, or nothing
for a reset. -/
def run (s : Stabilizer T) : List (Call T) → List (Option (List (Contact T))) × Stabilizer T
  | [] => ([], s)
  | .stabilize frame :: calls =>
    let next := s.stabilize frame
    let rest := run next.2 calls
    (some next.1 :: rest.1, rest.2)
  | .reset :: calls =>
    let rest := run s.reset calls
    (none :: rest.1, rest.2)

end Iptsd.Stability
