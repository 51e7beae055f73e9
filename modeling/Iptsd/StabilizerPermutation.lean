import Iptsd.StabilizerDeadBand
import Mathlib.Data.List.Forall2

/- Order independence. `stabilize` returns each contact as a function of the contact and the
stored history alone, and the history is read only through `find_in_frame`; with distinct
indices a lookup does not see the order of a frame, so two runs whose frames are reordered
return, call by call, the same contacts reordered alike. -/

set_option autoImplicit false

namespace Iptsd.Stability

variable {T : Type}

section Related

variable {α β : Type} {R : α → β → Prop}

theorem all_eq_of_forall₂ {p : α → Bool} {q : β → Bool} {l : List α} {l' : List β}
    (related : List.Forall₂ R l l') (same : ∀ a b, R a b → p a = q b) : l.all p = l'.all q := by
  induction related with
  | nil => rfl
  | cons head _ ih => simp only [List.all_cons, same _ _ head, ih]

theorem getLast_of_forall₂ : ∀ {l : List α} {l' : List β}, List.Forall₂ R l l' →
    ∀ (nonempty : l ≠ []) (nonempty' : l' ≠ []), R (l.getLast nonempty) (l'.getLast nonempty')
  | _, _, .nil, nonempty, _ => absurd rfl nonempty
  | _, _, .cons head .nil, _, _ => head
  | _, _, .cons _ (.cons head rest), _, _ => getLast_of_forall₂ (.cons head rest) _ _

end Related

/-- Two frames alike up to order: one a permutation of the other, with pairwise-distinct
indices. -/
def Reordered (frame frame' : List (Contact T)) : Prop :=
  frame.Perm frame' ∧ (indices frame).Nodup

theorem findInFrame_reordered {frame frame' : List (Contact T)} (reordered : Reordered frame frame')
    (index : Nat) : findInFrame index frame = findInFrame index frame' := by
  obtain ⟨perm, distinct⟩ := reordered
  cases found : findInFrame index frame with
  | none =>
    exact (List.find?_eq_none.mpr fun c held => List.find?_eq_none.mp found c
      (perm.symm.subset held)).symm
  | some p =>
    exact (findInFrame_of_mem ((perm.filterMap _).nodup_iff.mp distinct)
      (perm.subset (List.mem_of_find?_eq_some found)) (by simpa using List.find?_some found)).symm

/-- Two calls alike up to the order of a frame. -/
def Call.Permuted : Call T → Call T → Prop
  | .stabilize frame, .stabilize frame' => frame.Perm frame'
  | .reset, .reset => True
  | _, _ => False

/-- Two calls and their returns alike up to the order of the frames: both resets, or both
`stabilize`, with each returned frame its input frame mapped by one function of the contact. -/
def Agree : Call T × Option (List (Contact T)) → Call T × Option (List (Contact T)) → Prop
  | (.stabilize frame, some out), (.stabilize frame', some out') =>
    ∃ h : Contact T → Contact T, out = frame.map h ∧ out' = frame'.map h
  | (.reset, none), (.reset, none) => True
  | _, _ => False

namespace Stabilizer

/-- Two stabilizers alike up to the order within each stored frame. -/
structure Alike (s s' : Stabilizer T) : Prop where
  config : s.config = s'.config
  frames : List.Forall₂ Reordered s.frames s'.frames

variable {s s' : Stabilizer T}

theorem checkTemporal_alike (alike : Alike s s') (contact : Contact T) :
    s.checkTemporal contact = s'.checkTemporal contact := by
  unfold checkTemporal
  split
  · rfl
  · rw [List.all_reverse, List.all_reverse]
    exact all_eq_of_forall₂ alike.frames fun _ _ reordered => by
      rw [findInFrame_reordered reordered]

theorem findInFrame_back_alike (alike : Alike s s') (index : Nat) :
    findInFrame index s.back = findInFrame index s'.back :=
  findInFrame_reordered (getLast_of_forall₂ alike.frames _ _) index

theorem alike_new (config : Config T) : Alike (new config) (new config) :=
  ⟨rfl, List.forall₂_same.mpr fun _ empty => by
    rw [(List.eq_of_mem_replicate empty : _ = [])]
    exact ⟨.nil, List.nodup_nil⟩⟩

theorem alike_reset (alike : Alike s s') : Alike s.reset s'.reset := by
  rw [reset_eq_new, reset_eq_new, ← alike.config]
  exact alike_new s.config

variable [Scalar T]

theorem described_alike (alike : Alike s s') : described s = described s' := by
  funext contact
  simp only [described, startStable, alike.config, checkTemporal_alike alike,
    findInFrame_back_alike alike]

/-- Stabilizing two reordered frames returns them mapped by one function, and keeps the
stabilizers alike. -/
theorem alike_stabilize (alike : Alike s s') {frame frame' : List (Contact T)}
    (reordered : Reordered frame frame') :
    (s.stabilize frame).1 = frame.map (described s) ∧
      (s'.stabilize frame').1 = frame'.map (described s) ∧
      Alike (s.stabilize frame).2 (s'.stabilize frame').2 := by
  simp only [stabilize_fst, stabilizeContact_eq_described, ← described_alike alike]
  refine ⟨trivial, trivial, alike.config, ?_⟩
  simp only [stabilize, stabilizeContact_eq_described, ← described_alike alike,
    ← List.drop_one]
  exact List.rel_append (List.forall₂_drop 1 alike.frames)
    (.cons ⟨reordered.1.map _, by simpa using reordered.2⟩ .nil)

end Stabilizer

variable [Scalar T]

/-- Runs of calls alike up to the order of their frames, from alike stabilizers, return alike. -/
theorem agree_run {calls calls' : List (Call T)} (permuted : List.Forall₂ Call.Permuted calls calls')
    (distinct : ∀ frame, Call.stabilize frame ∈ calls → (indices frame).Nodup) :
    ∀ {s s' : Stabilizer T}, s.Alike s' →
      List.Forall₂ Agree (calls.zip (run s calls).1) (calls'.zip (run s' calls').1) := by
  induction permuted with
  | nil => intro _ _ _; exact .nil
  | @cons call call' calls calls' head _ ih =>
    intro s s' alike
    have later := fun frame called => distinct frame (List.mem_cons_of_mem call called)
    match call, call', head with
    | .stabilize frame, .stabilize frame', perm =>
      obtain ⟨out, out', next⟩ :=
        Stabilizer.alike_stabilize alike ⟨perm, distinct frame (.head _)⟩
      exact .cons ⟨described s, out, out'⟩ (ih later next)
    | .reset, .reset, _ => exact .cons trivial (ih later (Stabilizer.alike_reset alike))

/-- Two runs from construction whose frames differ by a permutation within each frame return,
call by call, both resets, or each frame mapped by one function of the contact. -/
def OrderFree (config : Config T) (calls calls' : List (Call T)) : Prop :=
  List.Forall₂ Agree (calls.zip (run (Stabilizer.new config) calls).1)
    (calls'.zip (run (Stabilizer.new config) calls').1)

theorem stabilize_commutes_with_permutations (config : Config T) (calls calls' : List (Call T))
    (permuted : List.Forall₂ Call.Permuted calls calls')
    (distinct : ∀ frame, Call.stabilize frame ∈ calls → (indices frame).Nodup) :
    (∀ s : Stabilizer T, ∃ h : Contact T → Contact T, ∀ frame, (s.stabilize frame).1 = frame.map h) ∧
      OrderFree config calls calls' :=
  ⟨fun s => ⟨described s, fun frame => by
      simp only [Stabilizer.stabilize_fst, Stabilizer.stabilizeContact_eq_described]⟩,
    agree_run permuted distinct (Stabilizer.alike_new config)⟩

theorem order_free_over_swapped_frames :
    List.Forall₂ Call.Permuted
        [.stabilize [sized 0 1 1, sized 1 2 2], .reset, .stabilize [sized 0 1 1, sized 1 2 2]]
        [.stabilize [sized 1 2 2, sized 0 1 1], .reset, .stabilize [sized 0 1 1, sized 1 2 2]] ∧
      (∀ frame, Call.stabilize frame ∈
          [.stabilize [sized 0 1 1, sized 1 2 2], .reset, .stabilize [sized 0 1 1, sized 1 2 2]] →
        (indices frame).Nodup) ∧
      (∀ s : Stabilizer ℚ, ∃ h : Contact ℚ → Contact ℚ, ∀ frame, (s.stabilize frame).1 = frame.map h) ∧
      OrderFree banded
        [.stabilize [sized 0 1 1, sized 1 2 2], .reset, .stabilize [sized 0 1 1, sized 1 2 2]]
        [.stabilize [sized 1 2 2, sized 0 1 1], .reset, .stabilize [sized 0 1 1, sized 1 2 2]] :=
  have permuted : List.Forall₂ Call.Permuted
      [.stabilize [sized 0 1 1, sized 1 2 2], .reset, .stabilize [sized 0 1 1, sized 1 2 2]]
      [.stabilize [sized 1 2 2, sized 0 1 1], .reset, .stabilize [sized 0 1 1, sized 1 2 2]] :=
    .cons (List.Perm.swap _ _ _) (.cons trivial (.cons (List.Perm.refl _) .nil))
  have distinct : ∀ frame, Call.stabilize frame ∈
      [.stabilize [sized 0 1 1, sized 1 2 2], .reset, .stabilize [sized 0 1 1, sized 1 2 2]] →
      (indices frame).Nodup := by
    simp [indices, sized]
  ⟨permuted, distinct, stabilize_commutes_with_permutations banded _ _ permuted distinct⟩

end Iptsd.Stability
