import Mathlib.Order.Basic
import Mathlib.Data.Int.Order.Basic

/- `iptsd::contacts::detection::maximas` (contacts/detection/algorithms/maximas.hpp). The
heatmap is read through `data(y, x)` with `Eigen::Index` (signed) coordinates; a read outside
the heatmap has no value, and a search that makes one returns `none`. The scalar type only
needs the two comparisons the kernel uses. -/

set_option autoImplicit false

namespace Iptsd.Maximas

/-- A heatmap of `rows × cols` cells, `value y x` being `data(y, x)`. -/
structure Heatmap (α : Type) where
  rows : Nat
  cols : Nat
  value : Nat → Nat → α

/-- `Point`, built as `Point(x, y)`. -/
@[ext] structure Point where
  x : Int
  y : Int
  deriving DecidableEq, Repr

variable {α : Type}

/-- `data(y, x)`, or `none` for a read outside the heatmap. -/
def Heatmap.get (data : Heatmap α) (y x : Int) : Option α :=
  if 0 ≤ y ∧ y < data.rows ∧ 0 ≤ x ∧ x < data.cols then some (data.value y.toNat x.toNat)
  else none

/-- The cell `p` lies in the heatmap. -/
def Heatmap.Contains (data : Heatmap α) (p : Point) : Prop :=
  0 ≤ p.y ∧ p.y < data.rows ∧ 0 ≤ p.x ∧ p.x < data.cols

instance (data : Heatmap α) (p : Point) : Decidable (data.Contains p) :=
  inferInstanceAs (Decidable (_ ∧ _ ∧ _ ∧ _))

/-- The value of the cell `p`. -/
def Heatmap.at (data : Heatmap α) (p : Point) : α := data.value p.y.toNat p.x.toNat

theorem Heatmap.get_of_contains {data : Heatmap α} {x y : Int} (inside : data.Contains ⟨x, y⟩) :
    data.get y x = some (data.at ⟨x, y⟩) :=
  if_pos inside

variable [LT α] [LE α] [DecidableRel (@LT.lt α _)] [DecidableRel (@LE.le α _)]

/-- One test of `check_point`: `max &= data(y, x) < value` (`<=` when not `strict`), made
only when the guard lets the neighbour in. -/
def neighbour (data : Heatmap α) (present : Bool) (y x : Int) (strict : Bool) (value : α) :
    Option Bool :=
  if present then (data.get y x).map fun n => if strict then decide (n < value) else decide (n ≤ value)
  else some true

/-- The test of `check_point(data, maximas, y, x, cols, rows)`, `cols` and `rows` being the
last column and row: every neighbour that exists passes the kernel. -/
def kernel (data : Heatmap α) (y x cols rows : Int) : Option Bool := do
  let value ← data.get y x
  let canUp := decide (y > 0)
  let canDown := decide (y < rows)
  let canLeft := decide (x > 0)
  let canRight := decide (x < cols)
  let left ← neighbour data canLeft y (x - 1) true value
  let right ← neighbour data canRight y (x + 1) false value
  let up ← neighbour data canUp (y - 1) x true value
  let upLeft ← neighbour data (canUp && canLeft) (y - 1) (x - 1) true value
  let upRight ← neighbour data (canUp && canRight) (y - 1) (x + 1) false value
  let down ← neighbour data canDown (y + 1) x false value
  let downLeft ← neighbour data (canDown && canLeft) (y + 1) (x - 1) true value
  let downRight ← neighbour data (canDown && canRight) (y + 1) (x + 1) false value
  pure (left && right && up && upLeft && upRight && down && downLeft && downRight)

/-- `check_point(data, maximas, y, x, cols, rows)`: `(x, y)` is appended when it passes. -/
def checkPoint (data : Heatmap α) (maximas : List Point) (y x cols rows : Int) :
    Option (List Point) := do
  let max ← kernel data y x cols rows
  pure (if max then maximas ++ [⟨x, y⟩] else maximas)

/-- `if (data(y, x) > threshold) check_point(data, maximas, y, x, cols, rows);` -/
def visit (data : Heatmap α) (threshold : α) (cols rows y x : Int) (maximas : List Point) :
    Option (List Point) := do
  let value ← data.get y x
  if value > threshold then checkPoint data maximas y x cols rows else pure maximas

/-- The `while (y_up < y_down)` loop of `find`: the two rows `y_up`, `y_down` are walked from
both ends by the columns `x_left`, `x_right`, and then the rows move one step inwards. -/
def findLoop (data : Heatmap α) (threshold : α) (cols rows yUp yDown xLeft xRight : Int)
    (maximas : List Point) : Option (List Point) :=
  if yUp < yDown then
    if xLeft ≥ xRight then findLoop data threshold cols rows (yUp + 1) (yDown - 1) 0 cols maximas
    else do
      let maximas ← visit data threshold cols rows yUp xLeft maximas
      let maximas ← visit data threshold cols rows yUp xRight maximas
      let maximas ← visit data threshold cols rows yDown xLeft maximas
      let maximas ← visit data threshold cols rows yDown xRight maximas
      findLoop data threshold cols rows yUp yDown (xLeft + 1) (xRight - 1) maximas
  else some maximas
termination_by ((yDown - yUp).toNat, (xRight - xLeft).toNat)
decreasing_by
  all_goals simp_wf
  · exact Prod.Lex.left _ _ (by omega)
  · exact Prod.Lex.right _ (by omega)

/-- `find(data, threshold, maximas)`. -/
def find (data : Heatmap α) (threshold : α) : Option (List Point) :=
  let cols : Int := data.cols - 1
  let rows : Int := data.rows - 1
  findLoop data threshold cols rows 0 rows 0 cols []

theorem neighbour_of_contains {data : Heatmap α} {present : Bool} {y x : Int} {strict : Bool}
    {value : α} (inside : present = true → data.Contains ⟨x, y⟩) :
    neighbour data present y x strict value =
      some (!present || if strict then decide (data.at ⟨x, y⟩ < value)
        else decide (data.at ⟨x, y⟩ ≤ value)) := by
  cases present
  · rfl
  · simp only [neighbour, Heatmap.get_of_contains (inside rfl), Option.map_some', if_true,
      Bool.not_true, Bool.false_or]

/-- `q` is one of the eight cells around `p`. -/
def Adjacent (p q : Point) : Prop :=
  p ≠ q ∧ p.x - 1 ≤ q.x ∧ q.x ≤ p.x + 1 ∧ p.y - 1 ≤ q.y ∧ q.y ≤ p.y + 1

/-- `p` comes before `q` column by column, each column top to bottom. -/
def Before (p q : Point) : Prop := p.x < q.x ∨ (p.x = q.x ∧ p.y < q.y)

/-- What the kernel asks of the neighbour `q` of `p`, when `q` is in the heatmap: lower than
`p` when it comes before `p`, not higher when it comes after. -/
def Passes (data : Heatmap α) (p q : Point) : Prop :=
  data.Contains q → (Before q p → data.at q < data.at p) ∧ (Before p q → data.at q ≤ data.at p)

section Tests

variable {data : Heatmap α} {p q : Point} {present : Bool}
  (guard : present = true ↔ data.Contains q)
include guard

omit [DecidableRel (@LE.le α _)] in
/-- A strict test of the kernel is `Passes` for a neighbour before the cell. -/
theorem strict_test_iff (before : Before q p) (not_after : ¬ Before p q) :
    (!present || decide (data.at q < data.at p)) = true ↔ Passes data p q := by
  unfold Passes
  rw [← guard]
  cases present <;> simp_all

omit [DecidableRel (@LT.lt α _)] in
/-- A lax test of the kernel is `Passes` for a neighbour after the cell. -/
theorem lax_test_iff (after : Before p q) (not_before : ¬ Before q p) :
    (!present || decide (data.at q ≤ data.at p)) = true ↔ Passes data p q := by
  unfold Passes
  rw [← guard]
  cases present <;> simp_all

end Tests

theorem adjacent_cases {p q : Point} (adjacent : Adjacent p q) :
    q = ⟨p.x - 1, p.y⟩ ∨ q = ⟨p.x + 1, p.y⟩ ∨ q = ⟨p.x, p.y - 1⟩ ∨ q = ⟨p.x - 1, p.y - 1⟩ ∨
      q = ⟨p.x + 1, p.y - 1⟩ ∨ q = ⟨p.x, p.y + 1⟩ ∨ q = ⟨p.x - 1, p.y + 1⟩ ∨
      q = ⟨p.x + 1, p.y + 1⟩ := by
  obtain ⟨distinct, left, right, up, down⟩ := adjacent
  obtain ⟨x, y⟩ := q
  dsimp only at left right up down
  have column : x = p.x - 1 ∨ x = p.x ∨ x = p.x + 1 := by omega
  have row : y = p.y - 1 ∨ y = p.y ∨ y = p.y + 1 := by omega
  rcases column with rfl | rfl | rfl <;> rcases row with rfl | rfl | rfl <;> simp_all

/-- `check_point`'s test at a cell of the heatmap reads only cells of the heatmap, and passes
exactly when every neighbour `Passes`. -/
theorem kernel_of_contains {data : Heatmap α} {p : Point} (inside : data.Contains p) :
    ∃ max, kernel data p.y p.x (data.cols - 1) (data.rows - 1) = some max ∧
      (max = true ↔ ∀ q, Adjacent p q → Passes data p q) := by
  obtain ⟨x, y⟩ := p
  have grid := inside
  unfold Heatmap.Contains at grid
  simp only at grid
  simp (disch := (intro present <;>
      simp only [Heatmap.Contains, Bool.and_eq_true, decide_eq_true_eq] at present ⊢ <;> omega))
    only [kernel, Heatmap.get_of_contains inside, neighbour_of_contains, Option.bind_eq_bind,
      Option.some_bind, Option.pure_def]
  refine ⟨_, rfl, ?_⟩
  simp only [if_true, Bool.false_eq_true, if_false, Bool.and_eq_true]
  simp (disch := (simp only [Before, Heatmap.Contains, Bool.and_eq_true, decide_eq_true_eq,
    true_and] <;> omega)) only [strict_test_iff, lax_test_iff]
  constructor
  · rintro ⟨⟨⟨⟨⟨⟨⟨left, right⟩, up⟩, upLeft⟩, upRight⟩, down⟩, downLeft⟩, downRight⟩ q adjacent
    rcases adjacent_cases adjacent with rfl | rfl | rfl | rfl | rfl | rfl | rfl | rfl <;>
      assumption
  · intro all
    have near : ∀ a b : Int, a ≠ x ∨ b ≠ y → x - 1 ≤ a → a ≤ x + 1 → y - 1 ≤ b → b ≤ y + 1 →
        Passes data ⟨x, y⟩ ⟨a, b⟩ := fun a b distinct l r u d =>
      all ⟨a, b⟩ ⟨by simp only [ne_eq, Point.ext_iff]; omega, l, r, u, d⟩
    refine ⟨⟨⟨⟨⟨⟨⟨?_, ?_⟩, ?_⟩, ?_⟩, ?_⟩, ?_⟩, ?_⟩, ?_⟩ <;>
      exact near _ _ (by omega) (by omega) (by omega) (by omega) (by omega)

end Iptsd.Maximas
