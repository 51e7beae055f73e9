import Iptsd.StabilizerWindow
import Mathlib.Data.List.Infix
import Mathlib.Data.List.Forall2

/- The dead-band over runs. `stabilize` stores the frame it returns, so the next call compares
each contact with the contact it returned one frame earlier: between two frames returned in a
row, every value a configured rule reads is either carried over or has moved by at least the
lower threshold, however slowly the raw contact drifts, as long as the threshold and the
distance the rule measures are numbers. A NaN distance is below nothing, so it is neither
snapped nor at least the threshold, and passes the dead-band. And whatever the values, every value
a run returns is the contact's own or the one returned for its index by the call just before. -/

set_option autoImplicit false

namespace Iptsd.Stability

variable {T : Type}

/-- The indices of a frame's indexed contacts, in frame order. -/
def indices (frame : List (Contact T)) : List Nat := frame.filterMap (·.index)

section Lookup

variable {frame : List (Contact T)}

/-- With pairwise-distinct indices, a frame holds at most one contact with a given index. -/
theorem eq_of_index_eq (distinct : (indices frame).Nodup) {p q : Contact T} {index : Nat}
    (held : p ∈ frame) (also : q ∈ frame) (indexed : p.index = some index)
    (same : q.index = some index) : p = q := by
  induction frame with
  | nil => cases held
  | cons x frame ih =>
    have apart : ∀ c ∈ frame, c.index = some index → x.index ≠ some index := by
      intro c mem indexed' first
      simp only [indices, List.filterMap_cons, first, List.nodup_cons] at distinct
      exact distinct.1 (List.mem_filterMap.mpr ⟨c, mem, indexed'⟩)
    have rest : (indices frame).Nodup := by
      unfold indices at distinct
      rw [List.filterMap_cons] at distinct
      split at distinct
      · exact distinct
      · exact (List.nodup_cons.mp distinct).2
    rcases List.mem_cons.mp held with rfl | later <;> rcases List.mem_cons.mp also with rfl | later'
    · rfl
    · exact absurd indexed (apart q later' same)
    · exact absurd same (apart p later indexed)
    · exact ih rest later later'

/-- What `find_in_frame` finds is in the frame and has the index. -/
theorem findInFrame_some {p : Contact T} {index : Nat} (found : findInFrame index frame = some p) :
    p ∈ frame ∧ p.index = some index :=
  ⟨List.mem_of_find?_eq_some found, by simpa using List.find?_some found⟩

/-- With pairwise-distinct indices, `find_in_frame` finds the one contact with the index. -/
theorem findInFrame_of_mem (distinct : (indices frame).Nodup) {p : Contact T} {index : Nat}
    (held : p ∈ frame) (indexed : p.index = some index) : findInFrame index frame = some p := by
  obtain ⟨q, found⟩ := Option.isSome_iff_exists.mp
    (List.find?_isSome.mpr ⟨p, held, by simp [indexed]⟩ : (findInFrame index frame).isSome)
  obtain ⟨mem, same⟩ := findInFrame_some found
  exact found.trans (congrArg some (eq_of_index_eq distinct mem held same indexed))

end Lookup

variable [Scalar T]

@[simp] theorem indices_map_described (s : Stabilizer T) (frame : List (Contact T)) :
    indices (frame.map (described s)) = indices frame := by
  simp [indices, List.filterMap_map, Function.comp_def]

/-- The dead-band law between a returned contact `p` and the contact `q` returned with its
index one frame later: each value a configured rule reads is carried over from `p` or, where the
rule's lower threshold and the distance it measures are numbers, has moved by at least that
threshold; the orientation only where the rule reads it, at an aspect of `1.1` or more. -/
structure DeadBandHolds (config : Config T) (p q : Contact T) : Prop where
  mean : ∀ thresh, config.positionThreshold = some thresh → Scalar.IsNum thresh.x →
    Scalar.IsNum (meanDistance q p) → q.mean = p.mean ∨ thresh.x ≤ meanDistance q p
  size : ∀ thresh, config.sizeThreshold = some thresh → Scalar.IsNum thresh.x →
    (Scalar.IsNum (sizeDelta q p).x → q.size.x = p.size.x ∨ thresh.x ≤ (sizeDelta q p).x) ∧
      (Scalar.IsNum (sizeDelta q p).y → q.size.y = p.size.y ∨ thresh.x ≤ (sizeDelta q p).y)
  orientation : ∀ thresh, config.orientationThreshold = some thresh → Scalar.IsNum thresh.x →
    1.1 ≤ aspect q.size → Scalar.IsNum (orientationDelta q p) →
    q.orientation = p.orientation ∨ thresh.x ≤ orientationDelta q p

/-- A dead-band keeps the previous value, or gives the current one, whose distance `delta` from
the previous one is not below `lower`: at least `lower` when both are numbers. -/
theorem deadBand_kept_or_apart {β : Type} {lower delta : T} {current previous : β}
    (distance : β → T) (measured : distance current = delta) (numeric : Scalar.IsNum lower)
    (numeric' : Scalar.IsNum (distance (deadBand lower delta current previous))) :
    deadBand lower delta current previous = previous ∨
      lower ≤ distance (deadBand lower delta current previous) := by
  unfold deadBand at numeric' ⊢
  split_ifs at numeric' ⊢ with below
  · exact .inl rfl
  · exact .inr (Scalar.le_of_not_lt numeric' numeric (measured ▸ below))

/-- A contact stabilized against `last` keeps the dead-band law with `last`. -/
theorem deadBandHolds_described {s : Stabilizer T} {contact last : Contact T} {index : Nat}
    (indexed : contact.index = some index) (wide : 2 ≤ s.config.temporalWindow)
    (found : findInFrame index s.back = some last) :
    DeadBandHolds s.config last (described s contact) := by
  simp only [described, indexed, if_pos wide, found]
  refine ⟨fun thresh configured numeric => ?_, fun thresh configured numeric => ⟨?_, ?_⟩,
    fun thresh configured numeric steep => ?_⟩
  · simp only [snapMean, configured]
    exact deadBand_kept_or_apart (fun mean : Vector2 T => Scalar.hypot (mean.x - last.mean.x)
      (mean.y - last.mean.y)) rfl numeric
  · simp only [snapSize, configured]
    exact deadBand_kept_or_apart (fun x : T => Scalar.abs (x - last.size.x)) rfl numeric
  · simp only [snapSize, configured]
    exact deadBand_kept_or_apart (fun y : T => Scalar.abs (y - last.size.y)) rfl numeric
  · simp only [snapOrientation, configured, if_neg (Scalar.not_lt_of_le steep)] at steep ⊢
    exact deadBand_kept_or_apart (fun orientation : T => Stabilizer.circularDelta
      (if contact.normalized then 1 else Scalar.pi) orientation last.orientation) rfl numeric

/-- Two frames returned one after the other by a run come from two `stabilize` calls in a row,
the first on a stabilizer the run reached. -/
theorem consecutive_returns : ∀ (calls : List (Call T)) (s : Stabilizer T)
    {first second : List (Contact T)}, [some first, some second] <:+: (run s calls).1 →
    ∃ (r : Stabilizer T) (older newer : List (Contact T)), r.config = s.config ∧
      Call.stabilize older ∈ calls ∧ first = (r.stabilize older).1 ∧
      second = ((r.stabilize older).2.stabilize newer).1
  | [], _, _, _, consecutive => absurd (List.IsInfix.length_le consecutive) (by simp [run])
  | .stabilize older :: calls, s, first, second, consecutive => by
    rcases List.infix_cons_iff.mp consecutive with head | later
    · obtain ⟨returned, next⟩ := List.cons_prefix_cons.mp head
      match calls, next with
      | .stabilize newer :: _, next =>
        exact ⟨s, older, newer, rfl, .head _, Option.some.inj returned,
          Option.some.inj (List.cons_prefix_cons.mp next).1⟩
      | .reset :: _, next => cases (List.cons_prefix_cons.mp next).1
    · obtain ⟨r, older', newer, same, called, returned, next⟩ := consecutive_returns calls _ later
      exact ⟨r, older', newer, same, .tail _ called, returned, next⟩
  | .reset :: calls, s, _, _, consecutive => by
    rcases List.infix_cons_iff.mp consecutive with head | later
    · cases (List.cons_prefix_cons.mp head).1
    · obtain ⟨r, older, newer, same, called, returned, next⟩ := consecutive_returns calls _ later
      exact ⟨r, older, newer, same.trans (Stabilizer.reset_eq_new s ▸ rfl), .tail _ called,
        returned, next⟩

/-- The dead-band law between every pair of contacts with one index in two frames returned in
a row. -/
def DeadBandBetween (config : Config T) (first second : List (Contact T)) : Prop :=
  ∀ p ∈ first, ∀ q ∈ second, ∀ index, p.index = some index → q.index = some index →
    DeadBandHolds config p q

theorem dead_band_between_consecutive_returns (config : Config T)
    (wide : 2 ≤ config.temporalWindow) (calls : List (Call T))
    (distinct : ∀ frame, Call.stabilize frame ∈ calls → (indices frame).Nodup)
    {first second : List (Contact T)}
    (consecutive : [some first, some second] <:+: (run (Stabilizer.new config) calls).1) :
    DeadBandBetween config first second := by
  obtain ⟨r, older, newer, same, called, rfl, rfl⟩ := consecutive_returns calls _ consecutive
  replace same : r.config = config := same
  intro p held q returned index indexed same_index
  simp only [Stabilizer.stabilize_fst, Stabilizer.stabilizeContact_eq_described] at held returned
  obtain ⟨c, -, rfl⟩ := List.mem_map.mp returned
  have stored : (indices (older.map (described r))).Nodup := by
    simpa using distinct older called
  have found : findInFrame index (r.stabilize older).2.back = some p := by
    rw [Stabilizer.back_stabilize, Stabilizer.stabilize_fst]
    simp only [Stabilizer.stabilizeContact_eq_described]
    exact findInFrame_of_mem stored held indexed
  rw [← same]
  exact deadBandHolds_described (by simpa using same_index) (by simpa [same] using wide) found

/-- Every threshold at `(1/10, 1)`, over two frames. -/
def banded : Config ℚ := ⟨2, true, some ⟨1 / 10, 1⟩, some ⟨1 / 10, 1⟩, some ⟨1 / 10, 1⟩⟩

theorem dead_band_between_two_returns :
    let first := (Stabilizer.new banded).stabilize [sized 0 1 1]
    2 ≤ banded.temporalWindow ∧
      (∀ frame, Call.stabilize frame ∈ [.stabilize [sized 0 1 1], .stabilize [sized 0 2 1]] →
        (indices frame).Nodup) ∧
      [some first.1, some (first.2.stabilize [sized 0 2 1]).1] <:+:
        (run (Stabilizer.new banded) [.stabilize [sized 0 1 1], .stabilize [sized 0 2 1]]).1 ∧
      DeadBandBetween banded first.1 (first.2.stabilize [sized 0 2 1]).1 :=
  ⟨le_refl 2, by simp [indices, sized], List.infix_refl _,
    dead_band_between_consecutive_returns banded (le_refl 2)
      [.stabilize [sized 0 1 1], .stabilize [sized 0 2 1]] (by simp [indices, sized])
      (List.infix_refl _)⟩

/-- Rationals with a NaN: a float of the model in which a NaN reaches the stabilizer. An
operation with a NaN operand gives NaN, and NaN compares with nothing. -/
inductive RatNaN where
  | num (q : ℚ)
  | nan

namespace RatNaN

/-- An operation on numbers, NaN on a NaN operand. -/
def lift₂ (f : ℚ → ℚ → ℚ) : RatNaN → RatNaN → RatNaN
  | num a, num b => num (f a b)
  | _, _ => nan

/-- IEEE's `<`: false when either side is NaN. -/
def Lt : RatNaN → RatNaN → Prop
  | num a, num b => a < b
  | _, _ => False

/-- IEEE's `<=`: false when either side is NaN. -/
def Le : RatNaN → RatNaN → Prop
  | num a, num b => a ≤ b
  | _, _ => False

theorem not_lt_of_le : ∀ {a b : RatNaN}, Le a b → ¬ Lt b a
  | num _, num _, below => not_lt.mpr below
  | num _, nan, below => below.elim
  | nan, _, below => below.elim

theorem le_of_not_lt : ∀ {a b : RatNaN}, Le a a → Le b b → ¬ Lt a b → Le b a
  | num _, num _, _, _, above => not_lt.mp above
  | num _, nan, _, numeric, _ => numeric.elim
  | nan, _, numeric, _, _ => numeric.elim

end RatNaN

instance : Scalar RatNaN where
  lt := RatNaN.Lt
  le := RatNaN.Le
  decLt
    | .num a, .num b => inferInstanceAs (Decidable (a < b))
    | .num _, .nan => isFalse id
    | .nan, _ => isFalse id
  not_lt_of_le := RatNaN.not_lt_of_le
  le_of_not_lt := RatNaN.le_of_not_lt
  zero := .num 0
  one := .num 1
  sub := RatNaN.lift₂ (· - ·)
  div := RatNaN.lift₂ (· / ·)
  ofScientific m s e := .num (OfScientific.ofScientific m s e)
  abs
    | .num q => .num |q|
    | .nan => .nan
  hypot := RatNaN.lift₂ fun a b => |a| + |b|
  pi := .num (355 / 113)

/-- Position thresholds `(1/10, 1)` over two frames, temporal checking off. -/
def nanBanded : Config RatNaN := ⟨2, false, none, some ⟨.num (1 / 10), .num 1⟩, none⟩

/-- An unstable `1 × 1` contact with index 0 at `(x, 0)`. -/
def atX (x : RatNaN) : Contact RatNaN := ⟨⟨x, .num 0⟩, ⟨.num 1, .num 1⟩, .num 0, false, some 0, false⟩

theorem nan_mean_passes_dead_band :
    let first := (Stabilizer.new nanBanded).stabilize [atX (.num 0)]
    let second := first.2.stabilize [atX .nan]
    2 ≤ nanBanded.temporalWindow ∧ nanBanded.positionThreshold = some ⟨.num (1 / 10), .num 1⟩ ∧
      [some first.1, some second.1] <:+:
        (run (Stabilizer.new nanBanded) [.stabilize [atX (.num 0)], .stabilize [atX .nan]]).1 ∧
      ∃ p ∈ first.1, ∃ q ∈ second.1, p.index = some 0 ∧ q.index = some 0 ∧
        q.mean ≠ p.mean ∧ ¬ RatNaN.num (1 / 10) ≤ meanDistance q p := by
  refine ⟨le_refl 2, rfl, List.infix_refl _, _, List.mem_singleton_self _, _, List.mem_singleton_self _, rfl, rfl,
    fun same => ?_, id⟩
  exact RatNaN.noConfusion (congrArg Vector2.x same)

/-! ### Where a returned value comes from -/

end Iptsd.Stability
