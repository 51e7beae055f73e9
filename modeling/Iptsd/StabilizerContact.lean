import Iptsd.Stabilizer
import Mathlib.Algebra.Order.Field.Rat
import Mathlib.Tactic.NormNum

/- What `stabilize` does to one contact, said field by field from the contact and the
newest stored one with its index: each field is computed from the incoming contact, `stable`
only ever falls, and the orientation rule reads the size the size rule produced. -/

set_option autoImplicit false

namespace Iptsd.Stability

variable {T : Type} [Scalar T]

/-- The dead-band: a change `delta` below `lower` keeps the previous value. -/
def deadBand {β : Type} (lower delta : T) (current previous : β) : β :=
  if delta < lower then previous else current

/-- The break-band: a change `delta` outside the dead-band and above the upper threshold. -/
def breakBand (thresh : Vector2 T) (delta : T) : Bool :=
  !decide (delta < thresh.x) && decide (thresh.y < delta)

/-- `|current - last|`, per size axis. -/
def sizeDelta (current last : Contact T) : Vector2 T :=
  ⟨Scalar.abs (current.size.x - last.size.x), Scalar.abs (current.size.y - last.size.y)⟩

/-- The Euclidean distance `std::hypot` gives between the two means. -/
def meanDistance (current last : Contact T) : T :=
  Scalar.hypot (current.mean.x - last.mean.x) (current.mean.y - last.mean.y)

/-- The circular orientation delta, in the units the current contact's orientation uses. -/
def orientationDelta (current last : Contact T) : T :=
  Stabilizer.circularDelta (if current.normalized then 1 else Scalar.pi) current.orientation
    last.orientation

/-- `size.maxCoeff() / size.minCoeff()`. -/
def aspect (size : Vector2 T) : T := size.maxCoeff / size.minCoeff

/-- The size the size rule gives. -/
def snapSize (config : Config T) (current last : Contact T) : Vector2 T :=
  match config.sizeThreshold with
  | none => current.size
  | some thresh => ⟨deadBand thresh.x (sizeDelta current last).x current.size.x last.size.x,
      deadBand thresh.x (sizeDelta current last).y current.size.y last.size.y⟩

/-- Whether the size rule breaks stability. -/
def sizeBreaks (config : Config T) (current last : Contact T) : Bool :=
  match config.sizeThreshold with
  | none => false
  | some thresh => breakBand thresh (sizeDelta current last).x ||
      breakBand thresh (sizeDelta current last).y

/-- The mean the position rule gives. -/
def snapMean (config : Config T) (current last : Contact T) : Vector2 T :=
  match config.positionThreshold with
  | none => current.mean
  | some thresh => deadBand thresh.x (meanDistance current last) current.mean last.mean

/-- Whether the position rule breaks stability. -/
def meanBreaks (config : Config T) (current last : Contact T) : Bool :=
  match config.positionThreshold with
  | none => false
  | some thresh => breakBand thresh (meanDistance current last)

/-- The orientation the orientation rule gives a contact of the given (stabilized) size. -/
def snapOrientation (config : Config T) (size : Vector2 T) (current last : Contact T) : T :=
  match config.orientationThreshold with
  | none => current.orientation
  | some thresh => if aspect size < 1.1 then 0
      else deadBand thresh.x (orientationDelta current last) current.orientation last.orientation

/-- Whether the orientation rule breaks stability for a contact of the given size. -/
def orientationBreaks (config : Config T) (size : Vector2 T) (current last : Contact T) :
    Bool :=
  match config.orientationThreshold with
  | none => false
  | some thresh => !decide (aspect size < 1.1) && breakBand thresh (orientationDelta current last)

/-- The stability a contact starts with: `check_temporal`, or `true` when temporal checks are
off or the window is shorter than two frames. -/
def startStable (s : Stabilizer T) (contact : Contact T) : Bool :=
  if s.config.checkTemporalStability && 2 ≤ s.config.temporalWindow then s.checkTemporal contact
  else true

/-- What `stabilize` returns for `contact`, field by field: contacts without an index pass
unchanged; the others start from `startStable`, and when the window has two frames and the
newest stored frame holds `last` with their index, take the three rules against `last`. -/
def described (s : Stabilizer T) (contact : Contact T) : Contact T :=
  match contact.index with
  | none => contact
  | some index =>
    match (if 2 ≤ s.config.temporalWindow then findInFrame index s.back else none) with
    | none => { contact with stable := startStable s contact }
    | some last =>
      { contact with
        size := snapSize s.config contact last
        mean := snapMean s.config contact last
        orientation := snapOrientation s.config (snapSize s.config contact last) contact last
        stable := startStable s contact && !(sizeBreaks s.config contact last ||
          meanBreaks s.config contact last ||
          orientationBreaks s.config (snapSize s.config contact last) contact last) }

@[simp] theorem described_index (s : Stabilizer T) (contact : Contact T) :
    (described s contact).index = contact.index := by
  unfold described
  split
  · rfl
  · split <;> rfl

@[simp] theorem described_normalized (s : Stabilizer T) (contact : Contact T) :
    (described s contact).normalized = contact.normalized := by
  unfold described
  split
  · rfl
  · split <;> rfl

theorem described_of_index_eq_none (s : Stabilizer T) {contact : Contact T}
    (unindexed : contact.index = none) : described s contact = contact := by
  simp only [described, unindexed]

namespace Stabilizer

theorem stabilizeSize_eq (config : Config T) (current last : Contact T) :
    stabilizeSize config current last =
      { current with
        size := snapSize config current last
        stable := current.stable && !sizeBreaks config current last } := by
  unfold stabilizeSize snapSize sizeBreaks
  rcases config.sizeThreshold with _ | thresh
  · simp
  · simp only [deadBand, breakBand, sizeDelta, gt_iff_lt]
    by_cases x : Scalar.abs (current.size.x - last.size.x) < thresh.x <;>
      by_cases y : Scalar.abs (current.size.y - last.size.y) < thresh.x
    · simp [x, y]
    · by_cases large : thresh.y < Scalar.abs (current.size.y - last.size.y) <;> simp [x, y, large]
    · by_cases large : thresh.y < Scalar.abs (current.size.x - last.size.x) <;> simp [x, y, large]
    · by_cases large : thresh.y < Scalar.abs (current.size.x - last.size.x) <;>
        by_cases large' : thresh.y < Scalar.abs (current.size.y - last.size.y) <;>
        simp [x, y, large, large']

theorem stabilizePosition_eq (config : Config T) (current last : Contact T) :
    stabilizePosition config current last =
      { current with
        mean := snapMean config current last
        stable := current.stable && !meanBreaks config current last } := by
  unfold stabilizePosition snapMean meanBreaks
  rcases config.positionThreshold with _ | thresh
  · simp
  · simp only [deadBand, breakBand, meanDistance, gt_iff_lt]
    by_cases small : Scalar.hypot (current.mean.x - last.mean.x) (current.mean.y - last.mean.y) <
      thresh.x
    · simp [small]
    by_cases large : thresh.y <
      Scalar.hypot (current.mean.x - last.mean.x) (current.mean.y - last.mean.y) <;>
      simp [small, large]

theorem stabilizeOrientation_eq (config : Config T) (current last : Contact T) :
    stabilizeOrientation config current last =
      { current with
        orientation := snapOrientation config current.size current last
        stable := current.stable && !orientationBreaks config current.size current last } := by
  unfold stabilizeOrientation snapOrientation orientationBreaks
  rcases config.orientationThreshold with _ | thresh
  · simp
  · simp only [deadBand, breakBand, orientationDelta, aspect, gt_iff_lt]
    by_cases steep : current.size.maxCoeff / current.size.minCoeff < 1.1
    · simp [steep]
    by_cases small : Stabilizer.circularDelta (if current.normalized then 1 else Scalar.pi)
      current.orientation last.orientation < thresh.x
    · simp [steep, small]
    by_cases large : thresh.y < Stabilizer.circularDelta (if current.normalized then 1 else Scalar.pi)
      current.orientation last.orientation <;> simp [steep, small, large]

section Guards

variable (config : Config T) (current last : Contact T)

/-- The guards of `stabilize_contact` only repeat the stages' own. -/
theorem guarded_size :
    (if config.sizeThreshold.isSome then stabilizeSize config current last else current) =
      stabilizeSize config current last := by
  unfold stabilizeSize
  cases config.sizeThreshold <;> rfl

theorem guarded_position :
    (if config.positionThreshold.isSome then stabilizePosition config current last
      else current) = stabilizePosition config current last := by
  unfold stabilizePosition
  cases config.positionThreshold <;> rfl

theorem guarded_orientation :
    (if config.orientationThreshold.isSome then stabilizeOrientation config current last
      else current) = stabilizeOrientation config current last := by
  unfold stabilizeOrientation
  cases config.orientationThreshold <;> rfl

end Guards

/-- `stabilize_contact` against the newest stored frame is `described`. -/
theorem stabilizeContact_eq_described (s : Stabilizer T) (contact : Contact T) :
    s.stabilizeContact contact s.back = described s contact := by
  unfold stabilizeContact described
  rcases contact.index with _ | index
  · rfl
  · by_cases wide : 2 ≤ s.config.temporalWindow
    · simp only [Nat.not_lt.mpr wide, if_false, if_pos wide]
      rcases findInFrame index s.back with _ | last
      · rfl
      · dsimp only
        rw [guarded_size, guarded_position, guarded_orientation, stabilizeOrientation_eq,
          stabilizePosition_eq, stabilizeSize_eq]
        ext <;> simp [startStable, snapSize, sizeBreaks, sizeDelta, snapMean, meanBreaks,
          meanDistance, snapOrientation, orientationBreaks, orientationDelta, Bool.and_assoc]
    · simp only [Nat.lt_of_not_le wide, if_true, if_neg wide]
      rfl

end Stabilizer

/-- Rationals as a stabilizer scalar, for concrete runs: a float with no NaN. With no rational
square root, the distance is the taxicab one. -/
instance : Scalar ℚ where
  decLt a b := inferInstanceAs (Decidable (a < b))
  not_lt_of_le := not_lt.mpr
  le_of_not_lt _ _ := not_lt.mp
  abs q := |q|
  hypot a b := |a| + |b|
  pi := 355 / 113

/-- An unstable contact at the origin with the given index and size. -/
def sized (index : Nat) (width height : ℚ) : Contact ℚ :=
  ⟨⟨0, 0⟩, ⟨width, height⟩, 0, false, some index, false⟩

end Iptsd.Stability
