import Iptsd.StabilizerContact
import Mathlib.Data.List.DropRight

/- The history deque of the stabilizer against the frames its callers got back. Abstractly a
stabilizer remembers the frames `stabilize` returned since the last reset; `m_frames` holds
the last `max(temporal_window, 1)` of them, behind empty frames while there are fewer. -/

set_option autoImplicit false

namespace Iptsd.Stability

variable {T : Type}

/-- The frames returned since the last reset, oldest first: `log`, then those of `trace`. -/
def replay (log : List (List (Contact T))) :
    List (Option (List (Contact T))) → List (List (Contact T))
  | [] => log
  | none :: trace => replay [] trace
  | some frame :: trace => replay (log ++ [frame]) trace

/-- The frames a run returned since its last reset, or since construction. -/
def sinceReset (trace : List (Option (List (Contact T)))) : List (List (Contact T)) :=
  replay [] trace

/-- `s` stores the last `max(temporal_window, 1)` entries of as many empty frames followed by
`log`. -/
def Window (s : Stabilizer T) (log : List (List (Contact T))) : Prop :=
  s.frames = (List.replicate (max s.config.temporalWindow 1) [] ++ log).rtake
    (max s.config.temporalWindow 1)

theorem rtake_append_singleton {α : Type} (l : List α) (a : α) {k : Nat} (positive : 0 < k)
    (long : k ≤ l.length) : (l ++ [a]).rtake k = (l.rtake k).tail ++ [a] := by
  simp only [List.rtake, List.length_append, List.length_singleton, List.tail_drop]
  rw [show l.length + 1 - k = l.length - k + 1 by omega, List.drop_append_of_le_length (by omega)]

theorem rtake_replicate_append {α : Type} (l : List α) (a : α) (k : Nat) :
    (List.replicate k a ++ l).rtake k = List.replicate (k - l.length) a ++ l.rtake k := by
  simp only [List.rtake, List.length_append, List.length_replicate,
    List.drop_append_eq_append_drop, List.drop_replicate]
  congr 2 <;> omega

theorem replicate_rtake {α : Type} (a : α) (k : Nat) :
    (List.replicate k a ++ []).rtake k = List.replicate k a := by
  simp [rtake_replicate_append, List.rtake]

theorem getLast?_rtake_replicate_append {α : Type} (l : List α) (a : α) {k : Nat}
    (positive : 0 < k) : ((List.replicate k a ++ l).rtake k).getLast? = some (l.getLastD a) := by
  rw [List.rtake, List.getLast?_drop, if_neg (by simp; omega), List.getLast?_append,
    List.getLast?_replicate, if_neg (by omega), List.getLastD_eq_getLast?]
  cases l.getLast? <;> rfl

theorem mem_zip_map {α β : Type} {l : List α} {f : α → β} {a : α} {b : β}
    (mem : (a, b) ∈ l.zip (l.map f)) : b = f a := by
  have paired : l.zip (l.map f) = l.map fun a => (a, f a) := by simpa using List.zip_map' id f l
  obtain ⟨_, _, same⟩ := List.mem_map.mp (paired ▸ mem)
  cases same
  rfl

namespace Stabilizer

/-- `reset()` gives back the stabilizer as `new` built it. -/
theorem reset_eq_new (s : Stabilizer T) : s.reset = new s.config := by
  obtain ⟨config, frames, length⟩ := s
  simp only [reset, new, List.map_const', length]

theorem window_new (config : Config T) : Window (new config) [] :=
  (replicate_rtake _ _).symm

theorem window_reset (s : Stabilizer T) : Window s.reset [] := by
  rw [reset_eq_new]
  exact window_new s.config

variable [Scalar T]

theorem window_stabilize {s : Stabilizer T} {log : List (List (Contact T))} (window : Window s log)
    (frame : List (Contact T)) :
    Window (s.stabilize frame).2 (log ++ [(s.stabilize frame).1]) := by
  unfold Window at window ⊢
  rw [stabilize_config, ← List.append_assoc, rtake_append_singleton _ _ (lt_max_of_lt_right one_pos)
    (by simp), ← window]
  rfl

end Stabilizer

variable [Scalar T]

/-- Over any run, the configuration stays and the window follows the returned frames. -/
theorem window_run : ∀ (calls : List (Call T)) (s : Stabilizer T) (log : List (List (Contact T))),
    Window s log → (run s calls).2.config = s.config ∧
      Window (run s calls).2 (replay log (run s calls).1)
  | [], _, _, window => ⟨rfl, window⟩
  | .stabilize frame :: calls, _, _, window =>
    window_run calls _ _ (Stabilizer.window_stabilize window frame)
  | .reset :: calls, s, _, _ => window_run calls _ _ (Stabilizer.window_reset s)

theorem stabilizer_keeps_window (config : Config T) (calls : List (Call T)) :
    (run (Stabilizer.new config) calls).2.frames.length = max config.temporalWindow 1 ∧
      (run (Stabilizer.new config) calls).2.frames =
        (List.replicate (max config.temporalWindow 1) [] ++
          sinceReset (run (Stabilizer.new config) calls).1).rtake (max config.temporalWindow 1) ∧
      ∀ s : Stabilizer T, s.reset = Stabilizer.new s.config := by
  obtain ⟨same, window⟩ := window_run calls _ _ (Stabilizer.window_new config)
  refine ⟨?_, ?_, Stabilizer.reset_eq_new⟩
  · rw [(run _ calls).2.length_frames, same]
    rfl
  · rw [window, same]
    rfl

namespace Stabilizer

section Window

variable {s : Stabilizer T} {log : List (List (Contact T))}

omit [Scalar T] in
theorem back_of_window (window : Window s log) : s.back = log.getLastD [] := by
  have last : s.frames.getLast? = some s.back := List.getLast?_eq_getLast _ _
  rw [window, getLast?_rtake_replicate_append _ _ (lt_max_of_lt_right one_pos)] at last
  exact (Option.some.inj last).symm

omit [Scalar T] in
/-- With a window of `k` frames, `check_temporal` finds the index in all stored frames exactly
when `k` frames were returned since the last reset and the last `k` of them hold it. -/
theorem checkTemporal_of_window (window : Window s log) {contact : Contact T} {index : Nat}
    (indexed : contact.index = some index) :
    s.checkTemporal contact = true ↔ max s.config.temporalWindow 1 ≤ log.length ∧
      ∀ frame ∈ log.rtake (max s.config.temporalWindow 1), ∃ p ∈ frame, p.index = some index := by
  rw [checkTemporal, indexed, window, rtake_replicate_append]
  simp only [List.all_eq_true, List.mem_reverse, List.mem_append, List.mem_replicate,
    findInFrame, List.find?_isSome, beq_iff_eq]
  constructor
  · intro held
    refine ⟨Nat.le_of_not_lt fun short => ?_, fun frame mem => held frame (.inr mem)⟩
    obtain ⟨_, p, _⟩ := held [] (.inl ⟨by omega, rfl⟩)
    simp_all
  · rintro ⟨long, held⟩ frame (⟨empty, -⟩ | mem)
    · omega
    · exact held frame mem

/-- Over a window with temporal checks on and two frames or more, a contact with an index is
returned stable exactly when the window holds its index and no rule against the newest returned
contact with that index breaks stability. -/
theorem stable_of_window (window : Window s log) (check : s.config.checkTemporalStability = true)
    (wide : 2 ≤ s.config.temporalWindow) {contact : Contact T} {index : Nat}
    (indexed : contact.index = some index) :
    (described s contact).stable = true ↔ s.config.temporalWindow ≤ log.length ∧
      (∀ frame ∈ log.rtake s.config.temporalWindow, ∃ p ∈ frame, p.index = some index) ∧
      ∀ last, findInFrame index (log.getLastD []) = some last →
        (sizeBreaks s.config contact last || meanBreaks s.config contact last ||
          orientationBreaks s.config (snapSize s.config contact last) contact last) = false := by
  have window_size : max s.config.temporalWindow 1 = s.config.temporalWindow := max_eq_left (by omega)
  have start : startStable s contact = s.checkTemporal contact := by simp [startStable, check, wide]
  rw [← window_size, ← and_assoc, ← checkTemporal_of_window window indexed, ← back_of_window window,
    ← start]
  simp only [described, indexed, if_pos wide]
  rcases findInFrame index s.back with _ | last
  · simp
  · simp

end Window

end Stabilizer

/-- The contacts the next `stabilize` returns after `calls` from construction: one with an
index is stable exactly when the last `temporal_window` frames returned since the last reset
all hold its index and no rule against the newest of them breaks stability. -/
def StableExactlyWhenHeld (config : Config T) (calls : List (Call T)) (frame : List (Contact T)) :
    Prop :=
  let s := (run (Stabilizer.new config) calls).2
  let log := sinceReset (run (Stabilizer.new config) calls).1
  ∀ c out index, (c, out) ∈ frame.zip (s.stabilize frame).1 → c.index = some index →
    (out.stable = true ↔ config.temporalWindow ≤ log.length ∧
      (∀ f ∈ log.rtake config.temporalWindow, ∃ p ∈ f, p.index = some index) ∧
      ∀ last, findInFrame index (log.getLastD []) = some last →
        (sizeBreaks config c last || meanBreaks config c last ||
          orientationBreaks config (snapSize config c last) c last) = false)

theorem stable_exactly_when_window_holds_index (config : Config T)
    (check : config.checkTemporalStability = true) (wide : 2 ≤ config.temporalWindow)
    (calls : List (Call T)) (frame : List (Contact T)) :
    StableExactlyWhenHeld config calls frame := by
  intro c out index returned indexed
  obtain ⟨same, window⟩ := window_run calls _ _ (Stabilizer.window_new config)
  simp only [Stabilizer.stabilize_fst, Stabilizer.stabilizeContact_eq_described] at returned
  rw [mem_zip_map returned, Stabilizer.stable_of_window window (same ▸ check) (same ▸ wide) indexed,
    same]
  rfl

/-- Two frames with temporal checks on. -/
def temporalPair : Config ℚ := ⟨2, true, none, none, none⟩

theorem stable_exactly_when_held_after_two_frames :
    temporalPair.checkTemporalStability = true ∧ 2 ≤ temporalPair.temporalWindow ∧
      StableExactlyWhenHeld temporalPair [.stabilize [sized 0 1 1], .stabilize [sized 0 1 1]]
        [sized 0 1 1] :=
  ⟨rfl, le_refl 2, stable_exactly_when_window_holds_index temporalPair rfl (le_refl 2) _ _⟩

end Iptsd.Stability
