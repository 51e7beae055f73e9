import Iptsd.Maximas

/- Which cells the two-ended loop of `find` visits. The traversal is taken out of the loop as
`order`; the loop is a fold of `visit` over it, and `order` is characterised cell by cell. -/

set_option autoImplicit false

namespace Iptsd.Maximas

/-- The cells the loop of `find` visits from the given cursors, in the order it visits them. -/
def order (cols yUp yDown xLeft xRight : Int) : List Point :=
  if yUp < yDown then
    if xLeft ≥ xRight then order cols (yUp + 1) (yDown - 1) 0 cols
    else ⟨xLeft, yUp⟩ :: ⟨xRight, yUp⟩ :: ⟨xLeft, yDown⟩ :: ⟨xRight, yDown⟩ ::
      order cols yUp yDown (xLeft + 1) (xRight - 1)
  else []
termination_by ((yDown - yUp).toNat, (xRight - xLeft).toNat)
decreasing_by
  all_goals simp_wf
  · exact Prod.Lex.left _ _ (by omega)
  · exact Prod.Lex.right _ (by omega)

/-- A cell is visited by the rest of the loop when it lies on one of the two current rows
between the column cursors, off their midpoint, or on a later row off the rows' midpoint. -/
theorem mem_order (cols : Int) (p : Point) (yUp yDown xLeft xRight : Int) :
    p ∈ order cols yUp yDown xLeft xRight ↔
      ((p.y = yUp ∨ p.y = yDown) ∧ yUp < yDown ∧ xLeft ≤ p.x ∧ p.x ≤ xRight ∧
          2 * p.x ≠ xLeft + xRight) ∨
        (yUp < p.y ∧ p.y < yDown ∧ 2 * p.y ≠ yUp + yDown ∧ 0 ≤ p.x ∧ p.x ≤ cols ∧
          2 * p.x ≠ cols) := by
  induction yUp, yDown, xLeft, xRight using order.induct cols with
  | case1 yUp yDown xLeft xRight rows cols_done next =>
    rw [order, if_pos rows, if_pos cols_done, next]
    omega
  | case2 yUp yDown xLeft xRight rows cols_left next =>
    rw [order, if_pos rows, if_neg cols_left]
    simp only [List.mem_cons, next, Point.ext_iff, ← or_assoc]
    exact or_congr_left (by omega)
  | case3 yUp yDown xLeft xRight done =>
    rw [order, if_neg done]
    simp only [List.not_mem_nil, false_iff]
    omega

/-- The loop visits no cell twice. -/
theorem order_nodup (cols yUp yDown xLeft xRight : Int) :
    (order cols yUp yDown xLeft xRight).Nodup := by
  induction yUp, yDown, xLeft, xRight using order.induct cols with
  | case1 yUp yDown xLeft xRight rows cols_done next =>
    rwa [order, if_pos rows, if_pos cols_done]
  | case2 yUp yDown xLeft xRight rows cols_left next =>
    rw [order, if_pos rows, if_neg cols_left]
    simp only [List.nodup_cons, List.mem_cons, mem_order, Point.ext_iff, next, and_true]
    omega
  | case3 yUp yDown xLeft xRight done =>
    rw [order, if_neg done]
    exact List.nodup_nil

variable {α : Type} [LT α] [LE α] [DecidableRel (@LT.lt α _)] [DecidableRel (@LE.le α _)]

/-- The loop of `find` is `visit` folded over `order`. -/
theorem findLoop_eq_foldlM (data : Heatmap α) (threshold : α) (cols rows : Int)
    (yUp yDown xLeft xRight : Int) (maximas : List Point) :
    findLoop data threshold cols rows yUp yDown xLeft xRight maximas =
      (order cols yUp yDown xLeft xRight).foldlM
        (fun maximas p => visit data threshold cols rows p.y p.x maximas) maximas := by
  induction yUp, yDown, xLeft, xRight, maximas using findLoop.induct data threshold cols rows with
  | case1 yUp yDown xLeft xRight maximas rows cols_done next =>
    rw [findLoop, order, if_pos rows, if_pos cols_done, if_pos rows, if_pos cols_done, next]
  | case2 yUp yDown xLeft xRight maximas rows cols_left next =>
    rw [findLoop, order, if_pos rows, if_neg cols_left, if_pos rows, if_neg cols_left]
    simp only [List.foldlM_cons, next]
  | case3 yUp yDown xLeft xRight maximas done =>
    rw [findLoop, order, if_neg done, if_neg done]
    rfl

/-- Whether the loop of `find` reports the cell `p` when it visits it. -/
def reports (data : Heatmap α) (threshold : α) (p : Point) : Bool :=
  visit data threshold (data.cols - 1) (data.rows - 1) p.y p.x [] = some [p]

/-- At a cell of the heatmap, `visit` reads only cells of the heatmap, and appends the cell
exactly when it `reports` it. -/
theorem visit_of_contains {data : Heatmap α} (threshold : α) {p : Point}
    (inside : data.Contains p) (maximas : List Point) :
    visit data threshold (data.cols - 1) (data.rows - 1) p.y p.x maximas =
      some (if reports data threshold p then maximas ++ [p] else maximas) := by
  obtain ⟨max, tested, -⟩ := kernel_of_contains inside
  have read := @Heatmap.get_of_contains α data p.x p.y inside
  by_cases above : data.at p > threshold <;> cases max <;>
    simp [reports, visit, checkPoint, read, tested, above]

/-- A cell of the heatmap is reported when it is above the threshold and passes the kernel. -/
theorem reports_iff {data : Heatmap α} (threshold : α) {p : Point} (inside : data.Contains p) :
    reports data threshold p = true ↔
      threshold < data.at p ∧ ∀ q, Adjacent p q → Passes data p q := by
  obtain ⟨max, tested, passes⟩ := kernel_of_contains inside
  have read := @Heatmap.get_of_contains α data p.x p.y inside
  rw [← passes]
  by_cases above : data.at p > threshold <;> cases max <;>
    simp [reports, visit, checkPoint, read, tested, above]

theorem foldlM_visit (data : Heatmap α) (threshold : α) (cells : List Point)
    (inside : ∀ p ∈ cells, data.Contains p) (maximas : List Point) :
    cells.foldlM (fun maximas p => visit data threshold (data.cols - 1) (data.rows - 1) p.y p.x
      maximas) maximas = some (maximas ++ cells.filter (reports data threshold)) := by
  induction cells generalizing maximas with
  | nil => simp
  | cons p cells next =>
    rw [List.foldlM_cons, visit_of_contains threshold (inside p (List.mem_cons_self _ _))]
    simp only [Option.bind_eq_bind, Option.some_bind]
    rw [next (fun q member => inside q (List.mem_cons_of_mem _ member))]
    by_cases reported : reports data threshold p <;> simp [List.filter_cons, reported]

omit [LT α] [LE α] [DecidableRel (@LT.lt α _)] [DecidableRel (@LE.le α _)] in
/-- Every cell of the traversal of `find` lies in the heatmap, whatever its shape. -/
theorem contains_of_mem_order {data : Heatmap α} {p : Point}
    (visited : p ∈ order (data.cols - 1) 0 (data.rows - 1) 0 (data.cols - 1)) :
    data.Contains p := by
  rw [mem_order] at visited
  unfold Heatmap.Contains
  omega

/-- `find` reports, in the order it visits them, the reported cells of the traversal. -/
theorem find_eq (data : Heatmap α) (threshold : α) :
    find data threshold =
      some ((order (data.cols - 1) 0 (data.rows - 1) 0 (data.cols - 1)).filter
        (reports data threshold)) := by
  rw [find, findLoop_eq_foldlM, foldlM_visit, List.nil_append]
  exact fun p => contains_of_mem_order

/-- `find` reads only cells of the heatmap, reports no cell twice, and reports exactly the
cells above the threshold that pass the kernel, except those on the middle row of an odd
number of rows and on the middle column of an odd number of columns. -/
theorem find_spec (data : Heatmap α) (threshold : α) :
    ∃ maximas, find data threshold = some maximas ∧ maximas.Nodup ∧
      ∀ p, p ∈ maximas ↔ data.Contains p ∧ 2 * p.y + 1 ≠ data.rows ∧
        2 * p.x + 1 ≠ data.cols ∧ threshold < data.at p ∧ ∀ q, Adjacent p q → Passes data p q := by
  refine ⟨_, find_eq data threshold, (order_nodup _ _ _ _ _).filter _, fun p => ?_⟩
  rw [List.mem_filter]
  constructor
  · rintro ⟨visited, reported⟩
    have inside := contains_of_mem_order visited
    rw [mem_order] at visited
    exact ⟨inside, by omega, by omega, (reports_iff threshold inside).mp reported⟩
  · rintro ⟨inside, row, column, reported⟩
    have grid := inside
    unfold Heatmap.Contains at grid
    exact ⟨by rw [mem_order]; omega, (reports_iff threshold inside).mpr reported⟩

/-- `find` returns on every heatmap, of any shape, and every threshold. Every cell its loop
visits lies in the heatmap, and no read of a cell or of a neighbour falls outside it: such a read
has no value, and `find` would return `none`. -/
theorem find_reads_inside_heatmap (data : Heatmap α) (threshold : α) :
    (∃ maximas, find data threshold = some maximas) ∧
      ∀ p ∈ order (data.cols - 1) 0 (data.rows - 1) 0 (data.cols - 1), data.Contains p :=
  ⟨⟨_, find_eq data threshold⟩, fun _ => contains_of_mem_order⟩

/-- A 3 × 3 heatmap whose one raised cell is its centre. -/
def centre : Heatmap Nat := ⟨3, 3, fun y x => if y = 1 ∧ x = 1 then 1 else 0⟩

theorem find_centre_skips_peak : find centre 0 = some [] ∧ reports centre 0 ⟨1, 1⟩ = true := by
  obtain ⟨maximas, found, -, members⟩ := find_spec centre 0
  refine ⟨found.trans (congrArg some (List.eq_nil_iff_forall_not_mem.mpr fun p member => ?_)),
    by decide⟩
  obtain ⟨inside, row, -, raised, -⟩ := (members p).mp member
  simp only [Heatmap.Contains, centre] at inside row
  have off : p.y.toNat ≠ 1 := by omega
  simp [Heatmap.at, centre, off] at raised

end Iptsd.Maximas
