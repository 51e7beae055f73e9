import Iptsd.MaximasTraversal
import Mathlib.Data.Finset.Max

/- The comparison kernel of `check_point` on values that are linearly ordered. The kernel is
strict towards the neighbours that come before a cell column by column and lax towards those
after it, so two neighbours never both pass, and the first cell of a plateau always does. Over
the whole loop of `find`, what is reported are local maxima above the threshold, every strict one
off the middle lines is, at most one lies in each `2 × 2` block, and raising the threshold only
drops maxima. -/

set_option autoImplicit false

namespace Iptsd.Maximas

theorem before_or_before {p q : Point} (adjacent : Adjacent p q) : Before q p ∨ Before p q := by
  have distinct := adjacent.1
  simp only [ne_eq, Point.ext_iff] at distinct
  unfold Before
  omega

theorem adjacent_symm {p q : Point} (adjacent : Adjacent p q) : Adjacent q p := by
  obtain ⟨distinct, bounds⟩ := adjacent
  exact ⟨Ne.symm distinct, by omega⟩

variable {α : Type} [LinearOrder α]

/-- Two reported cells are never neighbours. -/
theorem reports_apart {data : Heatmap α} {threshold : α} {p q : Point}
    (inside : data.Contains p) (inside' : data.Contains q)
    (reported : reports data threshold p = true) (reported' : reports data threshold q = true) :
    ¬ Adjacent p q := by
  intro adjacent
  have passes := ((reports_iff threshold inside).mp reported).2 q adjacent inside'
  have passes' := ((reports_iff threshold inside').mp reported').2 p (adjacent_symm adjacent) inside
  rcases before_or_before adjacent with first | first
  · exact lt_irrefl _ ((passes'.2 first).trans_lt (passes.1 first))
  · exact lt_irrefl _ ((passes.2 first).trans_lt (passes'.1 first))

/-- The first cell of a plateau, column by column, is reported. -/
theorem reports_first_of_plateau {data : Heatmap α} {threshold value : α}
    {plateau : Finset Point} (nonempty : plateau.Nonempty) (above : threshold < value)
    (level : ∀ p ∈ plateau, data.Contains p ∧ data.at p = value)
    (rim : ∀ p ∈ plateau, ∀ q, Adjacent p q → data.Contains q → q ∉ plateau →
      data.at q < value) :
    ∃ p ∈ plateau, reports data threshold p = true := by
  obtain ⟨left, member, leftmost⟩ := plateau.exists_min_image (·.x) nonempty
  obtain ⟨p, column, top⟩ := (plateau.filter (·.x = left.x)).exists_min_image (·.y)
    ⟨left, Finset.mem_filter.mpr ⟨member, rfl⟩⟩
  obtain ⟨member', same⟩ := Finset.mem_filter.mp column
  obtain ⟨inside, height⟩ := level p member'
  refine ⟨p, member', (reports_iff threshold inside).mpr ⟨height ▸ above, fun q adjacent _ => ?_⟩⟩
  by_cases flat : q ∈ plateau
  · have first : ¬ Before q p := by
      have wide := leftmost q flat
      have tall : q.x = left.x → p.y ≤ q.y := fun aligned => top q (Finset.mem_filter.mpr ⟨flat, aligned⟩)
      unfold Before
      omega
    have level' := (level q flat).2
    exact ⟨fun before => absurd before first, fun _ => (level'.trans height.symm).le⟩
  · have lower := rim p member' q adjacent ‹_› flat
    exact ⟨fun _ => height ▸ lower, fun _ => (height ▸ lower).le⟩

theorem kernel_separates_and_covers_plateaus (data : Heatmap α) (threshold : α) :
    (∀ p q, data.Contains p → data.Contains q → reports data threshold p = true →
      reports data threshold q = true → ¬ Adjacent p q) ∧
    ∀ (plateau : Finset Point) (value : α), plateau.Nonempty → threshold < value →
      (∀ p ∈ plateau, data.Contains p ∧ data.at p = value) →
      (∀ p ∈ plateau, ∀ q, Adjacent p q → data.Contains q → q ∉ plateau → data.at q < value) →
      ∃ p ∈ plateau, reports data threshold p = true :=
  ⟨fun _ _ => reports_apart, fun _ _ => reports_first_of_plateau⟩

/-- The cells `find` visits in a `2 × 4` heatmap: both rows, from both ends inwards. -/
theorem order_two_by_four :
    order 3 0 1 0 3 = [⟨0, 0⟩, ⟨3, 0⟩, ⟨0, 1⟩, ⟨3, 1⟩, ⟨1, 0⟩, ⟨2, 0⟩, ⟨1, 1⟩, ⟨2, 1⟩] := by
  repeat (rw [order]; simp only [Int.reduceLT, Int.reduceAdd, Int.reduceSub, ge_iff_le,
    Int.reduceLE, ↓reduceIte])

/-- The `2 × 4` heatmap
```
1 1 0 1
1 1 0 0
```
a flat `2 × 2` plateau and, apart from it, a peak. -/
def plateauAndPeak : Heatmap Nat := ⟨2, 4, fun y x => if x < 2 ∨ (x = 3 ∧ y = 0) then 1 else 0⟩

theorem plateau_and_peak_reported_apart :
    find plateauAndPeak 0 = some [⟨0, 0⟩, ⟨3, 0⟩] ∧
      (reports plateauAndPeak 0 ⟨0, 0⟩ = true ∧ reports plateauAndPeak 0 ⟨3, 0⟩ = true ∧
        ¬ Adjacent ⟨0, 0⟩ ⟨3, 0⟩) ∧
      ∃ p ∈ ({⟨0, 0⟩, ⟨1, 0⟩, ⟨0, 1⟩, ⟨1, 1⟩} : Finset Point), reports plateauAndPeak 0 p = true := by
  have kernel := kernel_separates_and_covers_plateaus plateauAndPeak 0
  refine ⟨by rw [find_eq]; exact congrArg some (order_two_by_four ▸ by decide),
    ⟨by decide, by decide, kernel.1 _ _ (by decide) (by decide) (by decide) (by decide)⟩,
    kernel.2 _ 1 (Finset.insert_nonempty _ _) (by decide) (by decide) ?_⟩
  intro p member q adjacent inside outside
  obtain ⟨-, bounds⟩ := adjacent
  simp only [Finset.mem_insert, Finset.mem_singleton, Point.ext_iff] at member outside
  simp only [Heatmap.Contains, plateauAndPeak] at inside
  obtain ⟨column, row⟩ : q.x = 2 ∧ (q.y = 0 ∨ q.y = 1) := by omega
  rcases row with row | row <;> simp [Heatmap.at, plateauAndPeak, column, row]

/-- A neighbour that passes the kernel is not higher than the cell, whichever side it is on. -/
theorem Passes.le_of_adjacent {data : Heatmap α} {p q : Point} (passes : Passes data p q)
    (adjacent : Adjacent p q) (inside : data.Contains q) : data.at q ≤ data.at p := by
  obtain ⟨before, after⟩ := passes inside
  rcases before_or_before adjacent with first | first
  · exact (before first).le
  · exact after first

/-- What `find` reports are distinct local maxima above the threshold: no neighbour of a reported
cell is higher. And it misses no strict one: every cell above the threshold and above all its
neighbours is reported, unless it lies on the middle row of an odd number of rows or the middle
column of an odd number of columns. -/
theorem find_reports_local_maxima (data : Heatmap α) (threshold : α) :
    ∃ maximas, find data threshold = some maximas ∧ maximas.Nodup ∧
      (∀ p ∈ maximas, data.Contains p ∧ threshold < data.at p ∧
        ∀ q, Adjacent p q → data.Contains q → data.at q ≤ data.at p) ∧
      ∀ p, data.Contains p → 2 * p.y + 1 ≠ data.rows → 2 * p.x + 1 ≠ data.cols →
        threshold < data.at p → (∀ q, Adjacent p q → data.Contains q → data.at q < data.at p) →
        p ∈ maximas := by
  obtain ⟨maximas, found, distinct, members⟩ := find_spec data threshold
  refine ⟨maximas, found, distinct, fun p member => ?_, fun p inside row column above strict => ?_⟩
  · obtain ⟨inside, -, -, above, passes⟩ := (members p).mp member
    exact ⟨inside, above, fun q adjacent => (passes q adjacent).le_of_adjacent adjacent⟩
  · refine (members p).mpr ⟨inside, row, column, above, fun q adjacent inside' => ?_⟩
    have lower := strict q adjacent inside'
    exact ⟨fun _ => lower, fun _ => lower.le⟩

/-- Raising the threshold only drops maxima: `find` at a higher threshold reports, in the same
order, those maxima found at a lower one that are also above the higher. -/
theorem find_at_higher_threshold (data : Heatmap α) {low high : α} (raised : low ≤ high) :
    find data high = (find data low).map (List.filter fun p => decide (high < data.at p)) := by
  rw [find_eq, find_eq, Option.map_some', List.filter_filter]
  congr 1
  refine List.filter_congr fun p visited => ?_
  have inside := contains_of_mem_order visited
  rw [Bool.eq_iff_iff, Bool.and_eq_true, decide_eq_true_iff, reports_iff high inside,
    reports_iff low inside]
  exact ⟨fun ⟨above, passes⟩ => ⟨above, raised.trans_lt above, passes⟩,
    fun ⟨above, _, passes⟩ => ⟨above, passes⟩⟩

/-- The `2 × 4` heatmap
```
2 0 3 0
0 0 0 0
```
-/
def steps : Heatmap Nat := ⟨2, 4, fun y x => if y = 0 ∧ x = 0 then 2 else if y = 0 ∧ x = 2 then 3 else 0⟩

theorem steps_raised_threshold :
    0 ≤ 2 ∧ find steps 2 = (find steps 0).map (List.filter fun p => decide (2 < steps.at p)) ∧
      find steps 0 = some [⟨0, 0⟩, ⟨2, 0⟩] ∧ find steps 2 = some [⟨2, 0⟩] := by
  refine ⟨by decide, find_at_higher_threshold steps (by decide), ?_, ?_⟩ <;>
    rw [find_eq] <;> exact congrArg some (order_two_by_four ▸ by decide)

/-- Two cells in one `2 × 2` block are at most one apart. -/
theorem near_of_div_two_eq {a b : Int} (same : a / 2 = b / 2) : a - 1 ≤ b ∧ b ≤ a + 1 := by
  omega

theorem div_two_eq_of_toNat {a b : Int} (nonneg : 0 ≤ a) (nonneg' : 0 ≤ b)
    (same : a.toNat / 2 = b.toNat / 2) : a / 2 = b / 2 := by
  omega

/-- At most one maximum in each `2 × 2` block of cells: no two cells `find` reports share a block,
so it never reports more than `⌈rows / 2⌉ * ⌈cols / 2⌉` maxima. -/
theorem find_length_le_blocks (data : Heatmap α) (threshold : α) :
    ∃ maximas, find data threshold = some maximas ∧
      (∀ p ∈ maximas, ∀ q ∈ maximas, p.y / 2 = q.y / 2 → p.x / 2 = q.x / 2 → p = q) ∧
      maximas.length ≤ (data.rows + 1) / 2 * ((data.cols + 1) / 2) := by
  obtain ⟨maximas, found, distinct, members⟩ := find_spec data threshold
  have reported : ∀ p ∈ maximas, data.Contains p ∧ reports data threshold p = true :=
    fun p member =>
      have ⟨inside, _, _, passes⟩ := (members p).mp member
      ⟨inside, (reports_iff threshold inside).mpr passes⟩
  have oneBlock : ∀ p ∈ maximas, ∀ q ∈ maximas, p.y / 2 = q.y / 2 → p.x / 2 = q.x / 2 → p = q := by
    intro p member q member' row column
    obtain ⟨inside, first⟩ := reported p member
    obtain ⟨inside', second⟩ := reported q member'
    by_contra apart
    have ⟨up, down⟩ := near_of_div_two_eq row
    have ⟨left, right⟩ := near_of_div_two_eq column
    exact reports_apart inside inside' first second ⟨apart, left, right, up, down⟩
  refine ⟨maximas, found, oneBlock, ?_⟩
  rw [← List.toFinset_card_of_nodup distinct, ← Finset.card_range ((data.rows + 1) / 2),
    ← Finset.card_range ((data.cols + 1) / 2), ← Finset.card_product]
  refine Finset.card_le_card_of_injOn (fun p => (p.y.toNat / 2, p.x.toNat / 2))
    (fun p member => ?_) (fun p member q member' same => ?_)
  · obtain ⟨⟨_, below, _, right⟩, -⟩ := reported p (List.mem_toFinset.mp member)
    simp only [Finset.mem_product, Finset.mem_range]
    omega
  · rw [Finset.mem_coe, List.mem_toFinset] at member member'
    obtain ⟨row, column⟩ := Prod.mk.inj same
    have ⟨⟨up, _, left, _⟩, _⟩ := reported p member
    have ⟨⟨up', _, left', _⟩, _⟩ := reported q member'
    exact oneBlock p member q member' (div_two_eq_of_toNat up up' row)
      (div_two_eq_of_toNat left left' column)

end Iptsd.Maximas
