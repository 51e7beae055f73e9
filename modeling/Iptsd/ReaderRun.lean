import Iptsd.Reader

/- Runs of reader calls. A client holds the reader over the device buffer and every
sub-reader it has taken from it; each call goes to one of them, a thrown `ReaderError` is
caught and the run goes on. Where each reader's span starts in the device buffer is ghost
state: the reader does not store it. Two reads in a row are one read of both, as long as the
first stops short of the end. -/

set_option autoImplicit false

namespace Iptsd.Reader

/-- The calls a client makes: `seek`, `skip`, `read(dest)` into `size` bytes, `read<T>()` for
a `T` of `sizeof(T) = size` (seen as its bytes), `subspan<u8>` and `sub`. -/
inductive Call where
  | seek (index : Nat)
  | skip (size : Nat)
  | read (size : Nat)
  | readAs (size : Nat)
  | subspan (size : Nat)
  | sub (size : Nat)

/-- What a call hands back. -/
inductive Returned where
  | nothing
  | bytes (bytes : List UInt8)
  | reader (reader : Reader)

/-- `c` on the reader. -/
def Call.run : Call → ReaderM Returned
  | .seek index => (fun _ => .nothing) <$> Reader.seek index
  | .skip size => (fun _ => .nothing) <$> Reader.skip size
  | .read size => .bytes <$> Reader.read size
  | .readAs size => .bytes <$> Reader.readAs ⟨size, id⟩
  | .subspan size => (fun sub => .bytes sub.bytes) <$> Reader.subspan 1 size
  | .sub size => .reader <$> Reader.sub size

/-- The contract of a call that takes `size` bytes and hands back `give` of the span it
moved over: refused with the reader untouched, or the cursor moved by exactly `size`. -/
def takes (size : Nat) (give : Span → Returned) (r : Reader) :
    EStateM.Result Fault Reader Returned :=
  if r.size = 0 then .error (.reader (.endOfData size)) r
  else if fits : size ≤ r.size then .ok (give (r.aheadSpan size)) (r.advance size fits)
  else .error (.reader (.invalidRead size r.size)) r

/-- What each call is for, from the reader's contract rather than its code. -/
def Call.expected : Call → Reader → EStateM.Result Fault Reader Returned
  | .seek index, r =>
    if within : index ≤ r.data.size then .ok .nothing ⟨r.data, index, within⟩
    else .error (.reader (.invalidSeek index r.data.size)) r
  | .skip size, r => takes size (fun _ => .nothing) r
  | .read size, r => takes size (fun sub => .bytes sub.bytes) r
  | .readAs size, r => takes size (fun sub => .bytes sub.bytes) r
  | .subspan size, r => takes size (fun sub => .bytes sub.bytes) r
  | .sub size, r => takes size (fun sub => .reader (ofSpan sub)) r

section Takes

variable {r : Reader} {size : Nat} (give : Span → Returned)

theorem takes_of_refusal {error : ReaderError} (refused : r.refusal size = some error) :
    takes size give r = .error (.reader error) r := by
  unfold takes
  unfold refusal at refused
  by_cases empty : r.size = 0
  · simp_all
  · by_cases fits : size ≤ r.size
    · simp [empty, Nat.not_lt.mpr fits] at refused
    · simp_all

theorem takes_of_passed (passed : r.refusal size = none) :
    takes size give r = .ok (give (r.aheadSpan size)) (r.advance size (le_size_of_refusal_eq_none passed)) := by
  have open_ := (refusal_eq_none_iff r size).mp passed
  simp only [takes, Nat.pos_iff_ne_zero.mp open_.1, dif_pos open_.2, if_false]

end Takes

/-- Every call does what the contract says: the code refines `Call.expected`. -/
theorem Call.run_eq_expected (c : Call) (r : Reader) : c.run r = c.expected r := by
  cases c with
  | seek index =>
    by_cases within : index ≤ r.data.size
    · simp only [run, expected, dif_pos within, Functor.map, EStateM.map, seek_of_le within]
    · simp only [run, expected, dif_neg within, Functor.map, EStateM.map,
        seek_of_gt (Nat.lt_of_not_le within)]
  | skip size | read size | readAs size | subspan size | sub size =>
    rcases outcome : r.refusal size with _ | error
    · simp only [run, expected, Functor.map, EStateM.map, Reader.readAs, id, aheadSpan_bytes,
        takes_of_passed _ outcome, skip_of_passed outcome, read_of_passed outcome,
        subspan_one_of_passed outcome, sub_of_passed outcome]
    · simp only [run, expected, Functor.map, EStateM.map, Reader.readAs,
        takes_of_refusal _ outcome, skip_of_refusal outcome, read_of_refusal outcome,
        subspan_of_refusal outcome, sub_of_refusal outcome]

/-- Everything a call can do to `r`: throw and leave it, move its cursor inside its span, or
move the cursor over `k` bytes and hand them back, as bytes or as a sub-reader. -/
theorem Call.run_cases (c : Call) (r : Reader) :
    (∃ fault, c.run r = .error fault r) ∨
    (∃ after : Reader, after.data = r.data ∧ c.run r = .ok .nothing after) ∨
    (∃ k fits, c.run r = .ok (.bytes (r.ahead k)) (r.advance k fits)) ∨
    (∃ k fits, c.run r = .ok (.reader (ofSpan (r.aheadSpan k))) (r.advance k fits)) := by
  have taken : ∀ size give, (∃ fault, takes size give r = .error fault r) ∨
      ∃ fits, takes size give r = .ok (give (r.aheadSpan size)) (r.advance size fits) := by
    intro size give
    unfold takes
    split_ifs with empty fits
    exacts [.inl ⟨_, rfl⟩, .inr ⟨fits, rfl⟩, .inl ⟨_, rfl⟩]
  rw [run_eq_expected]
  cases c with
  | seek index =>
    by_cases within : index ≤ r.data.size
    · exact .inr (.inl ⟨⟨r.data, index, within⟩, rfl, by simp only [expected, dif_pos within]⟩)
    · exact .inl ⟨.reader (.invalidSeek index r.data.size), by simp only [expected, dif_neg within]⟩
  | skip size =>
    rcases taken size (fun _ => .nothing) with refused | ⟨fits, moved⟩
    exacts [.inl refused, .inr (.inl ⟨r.advance size fits, rfl, moved⟩)]
  | read size | readAs size | subspan size =>
    rcases taken size (fun sub => .bytes sub.bytes) with refused | ⟨fits, moved⟩
    exacts [.inl refused, .inr (.inr (.inl ⟨size, fits, moved⟩))]
  | sub size =>
    rcases taken size (fun sub => .reader (ofSpan sub)) with refused | ⟨fits, moved⟩
    exacts [.inl refused, .inr (.inr (.inr ⟨size, fits, moved⟩))]

/-! ### Two reads in a row -/

/-- A size the checks do not pass is refused with some error. -/
theorem refusal_eq_some (r : Reader) (size : Nat) (refused : ¬ (0 < r.size ∧ size ≤ r.size)) :
    ∃ error, r.refusal size = some error :=
  Option.ne_none_iff_exists'.mp fun passed => refused ((refusal_eq_none_iff r size).mp passed)

/-- Moving the cursor twice is moving it once over both. -/
theorem advance_advance (r : Reader) {n m : Nat} (fits : n ≤ r.size)
    (fits' : m ≤ (r.advance n fits).size) :
    (r.advance n fits).advance m fits' = r.advance (n + m) (by
      simp only [Reader.size, advance_data, advance_index] at fits fits' ⊢
      omega) :=
  Reader.ext rfl (Nat.add_assoc _ _ _)

/-- Reading `n` bytes and then `m` is reading `n + m` at once, when the first read stops short of
the end: both succeed together, with the same bytes and the same cursor after. -/
theorem read_then_read (r : Reader) {n m : Nat} (short : n < r.size) (bytes : List UInt8)
    (after : Reader) :
    (read n >>= fun first => read m >>= fun second => pure (first ++ second)) r = .ok bytes after ↔
      read (n + m) r = .ok bytes after := by
  have passed : r.refusal n = none := (refusal_eq_none_iff r n).mpr ⟨by omega, short.le⟩
  have left : (r.advance n short.le).size = r.size - n := by
    simp only [Reader.size, advance_data, advance_index]
    omega
  simp only [bind, EStateM.bind, read_of_passed passed]
  by_cases fits : n + m ≤ r.size
  · have passed' : (r.advance n short.le).refusal m = none :=
      (refusal_eq_none_iff _ m).mpr ⟨by omega, by omega⟩
    have whole : r.refusal (n + m) = none := (refusal_eq_none_iff r _).mpr ⟨by omega, fits⟩
    have joined : r.ahead n ++ (r.advance n short.le).ahead m = r.ahead (n + m) := by
      simp only [ahead, advance_data, advance_index, ← List.drop_drop, List.take_add]
    simp only [read_of_passed passed', read_of_passed whole, pure, EStateM.pure, joined,
      advance_advance]
  · obtain ⟨error, refused⟩ := refusal_eq_some (r.advance n short.le) m (by omega)
    obtain ⟨error', refused'⟩ := refusal_eq_some r (n + m) (by omega)
    simp only [read_of_refusal refused, read_of_refusal refused']
    exact ⟨nofun, nofun⟩

/-- A reader at the start of a four-byte span. -/
def fourBytes : Reader := ofSpan ⟨[1, 2, 3, 4], by decide⟩

theorem one_then_two_of_four_bytes :
    1 < fourBytes.size ∧ ∀ bytes after,
      (read 1 >>= fun first => read 2 >>= fun second => pure (first ++ second)) fourBytes =
          .ok bytes after ↔ read (1 + 2) fourBytes = .ok bytes after :=
  ⟨by decide, read_then_read fourBytes (by decide)⟩

/-! ### Runs over the reader of a buffer and its sub-readers -/

/-- A reader of the run, with where its span starts in the device buffer. -/
structure Handle where
  base : Nat
  reader : Reader

/-- Reader `who` was handed `bytes`, which start at `start` in the device buffer: the bytes of
a read, or the span of a sub-reader it gave out. -/
structure Sight where
  who : Nat
  start : Nat
  bytes : List UInt8

/-- Call `c` on reader `who`. A throw is caught, and the reader stays as the throw left it. -/
def step (pool : List Handle) (who : Nat) (c : Call) : List Handle × List Sight :=
  match pool[who]? with
  | none => (pool, [])
  | some h =>
    let start := h.base + h.reader.index
    match c.run h.reader with
    | .error _ after => (pool.set who ⟨h.base, after⟩, [])
    | .ok .nothing after => (pool.set who ⟨h.base, after⟩, [])
    | .ok (.bytes bytes) after => (pool.set who ⟨h.base, after⟩, [⟨who, start, bytes⟩])
    | .ok (.reader sub) after =>
      (pool.set who ⟨h.base, after⟩ ++ [⟨start, sub⟩], [⟨who, start, sub.data.bytes⟩])

/-- The calls in turn, and everything they handed back. -/
def run (pool : List Handle) : List (Nat × Call) → List Handle × List Sight
  | [] => (pool, [])
  | (who, c) :: rest =>
    let next := step pool who c
    let later := run next.1 rest
    (later.1, next.2 ++ later.2)

/-- `h`'s span is the run of the device buffer `B` that starts at `h.base`. -/
def Handle.Within (B : List UInt8) (h : Handle) : Prop :=
  h.base + h.reader.data.size ≤ B.length ∧
    h.reader.data.bytes = (B.drop h.base).take h.reader.data.size

/-- `s` lies in the span of the reader that saw it and holds the buffer's bytes there. -/
def Sight.Within (B : List UInt8) (pool : List Handle) (s : Sight) : Prop :=
  ∃ h, pool[s.who]? = some h ∧ h.base ≤ s.start ∧
    s.start + s.bytes.length ≤ h.base + h.reader.data.size ∧
    s.bytes = (B.drop s.start).take s.bytes.length

/-- `pool'` still holds every reader of `pool`, at the same place and over the same span. -/
def Keeps (pool pool' : List Handle) : Prop :=
  ∀ (i : Nat) (h : Handle), pool[i]? = some h →
    ∃ h', pool'[i]? = some h' ∧ h'.base = h.base ∧ h'.reader.data = h.reader.data

theorem Keeps.trans {pool pool' pool'' : List Handle} (first : Keeps pool pool')
    (second : Keeps pool' pool'') : Keeps pool pool'' := by
  intro i h found
  obtain ⟨h', found', base, data⟩ := first i h found
  obtain ⟨h'', found'', base', data'⟩ := second i h' found'
  exact ⟨h'', found'', base'.trans base, data'.trans data⟩

theorem Sight.Within.keep {B : List UInt8} {pool pool' : List Handle} {s : Sight}
    (seen : s.Within B pool) (keeps : Keeps pool pool') : s.Within B pool' := by
  obtain ⟨h, found, lower, upper, bytes⟩ := seen
  obtain ⟨h', found', base, data⟩ := keeps s.who h found
  exact ⟨h', found', base ▸ lower, base ▸ data ▸ upper, bytes⟩

/-- The bytes ahead of a reader whose span lies in `B` are the bytes of `B` at its cursor, and
lie in its span. -/
theorem ahead_of_within {B : List UInt8} {h : Handle} (within : h.Within B) {k : Nat}
    (fits : k ≤ h.reader.size) :
    h.reader.ahead k = (B.drop (h.base + h.reader.index)).take k ∧
      (h.reader.ahead k).length = k ∧ h.base + h.reader.index + k ≤ h.base + h.reader.data.size := by
  have inside := h.reader.index_le
  unfold Reader.size at fits
  refine ⟨?_, ?_, by omega⟩
  · rw [ahead, within.2, List.drop_take, List.drop_drop, List.take_take, Nat.min_eq_left (by omega)]
  · simp only [ahead, List.length_take, List.length_drop]
    unfold Span.size at fits
    omega

theorem Keeps.refl (pool : List Handle) : Keeps pool pool :=
  fun _ h found => ⟨h, found, rfl, rfl⟩

theorem keeps_append (pool extra : List Handle) : Keeps pool (pool ++ extra) :=
  fun _ h found => ⟨h, by rw [List.getElem?_append_left (List.getElem?_eq_some.mp found).1]; exact found, rfl, rfl⟩

section Step

variable {B : List UInt8} {pool : List Handle} {who : Nat} {h : Handle} {after : Reader}

/-- Writing back the reader a call left, over the same span, keeps the pool's readers. -/
theorem set_after (found : pool[who]? = some h) (same : after.data = h.reader.data)
    (within : ∀ h ∈ pool, h.Within B) :
    (∀ h' ∈ pool.set who ⟨h.base, after⟩, h'.Within B) ∧
      Keeps pool (pool.set who ⟨h.base, after⟩) ∧
      (pool.set who ⟨h.base, after⟩)[who]? = some ⟨h.base, after⟩ := by
  have bound : who < pool.length := (List.getElem?_eq_some.mp found).1
  have kept : (⟨h.base, after⟩ : Handle).Within B := by
    have := within h (List.getElem?_mem found)
    unfold Handle.Within at this ⊢
    rwa [same]
  refine ⟨fun h' member => ?_, fun i g there => ?_, List.getElem?_set_self bound⟩
  · rcases List.mem_or_eq_of_mem_set member with old | rfl
    exacts [within h' old, kept]
  · by_cases here : who = i
    · subst here
      rw [found] at there
      cases there
      exact ⟨_, List.getElem?_set_self bound, rfl, same⟩
    · exact ⟨g, by rw [List.getElem?_set_ne here]; exact there, rfl, rfl⟩

end Step

/-- One call keeps every span inside `B`, keeps the pool's readers, and hands back only
bytes of the calling reader's span. -/
theorem step_within {B : List UInt8} {pool : List Handle} (within : ∀ h ∈ pool, h.Within B)
    (who : Nat) (c : Call) :
    (∀ h ∈ (step pool who c).1, h.Within B) ∧ Keeps pool (step pool who c).1 ∧
      ∀ s ∈ (step pool who c).2, s.Within B (step pool who c).1 := by
  unfold step
  rcases found : pool[who]? with _ | h
  · exact ⟨within, Keeps.refl pool, fun _ none => nomatch none⟩
  have hw := within h (List.getElem?_mem found)
  have seen : ∀ k (fits : k ≤ h.reader.size) (pool' : List Handle),
      pool'[who]? = some ⟨h.base, h.reader.advance k fits⟩ →
      Sight.Within B pool' ⟨who, h.base + h.reader.index, h.reader.ahead k⟩ := by
    intro k fits pool' there
    obtain ⟨bytes, length, room⟩ := ahead_of_within hw fits
    refine ⟨_, there, Nat.le_add_right _ _, ?_, ?_⟩ <;> simp only [length, advance_data]
    exacts [room, bytes]
  rcases Call.run_cases c h.reader with
    ⟨fault, threw⟩ | ⟨after, same, moved⟩ | ⟨k, fits, taken⟩ | ⟨k, fits, taken⟩
  · obtain ⟨inside, keeps, -⟩ := set_after found rfl within
    simp only [threw]
    exact ⟨inside, keeps, fun _ none => nomatch none⟩
  · obtain ⟨inside, keeps, -⟩ := set_after found same within
    simp only [moved]
    exact ⟨inside, keeps, fun _ none => nomatch none⟩
  · obtain ⟨inside, keeps, there⟩ := set_after found (advance_data h.reader k fits) within
    simp only [taken, List.mem_singleton, forall_eq]
    exact ⟨inside, keeps, seen k fits _ there⟩
  · obtain ⟨inside, keeps, there⟩ := set_after found (advance_data h.reader k fits) within
    have bound : who < (pool.set who ⟨h.base, h.reader.advance k fits⟩).length :=
      (List.getElem?_eq_some.mp there).1
    have fresh : Handle.Within B ⟨h.base + h.reader.index, ofSpan (h.reader.aheadSpan k)⟩ := by
      obtain ⟨bytes, length, room⟩ := ahead_of_within hw fits
      refine ⟨?_, ?_⟩ <;> simp only [ofSpan, Span.size, aheadSpan_bytes, length]
      · exact room.trans hw.1
      · exact bytes
    simp only [taken, List.mem_singleton, forall_eq]
    refine ⟨fun h' member => ?_, keeps.trans (keeps_append _ _),
      seen k fits _ (by rw [List.getElem?_append_left bound]; exact there)⟩
    rcases List.mem_append.mp member with old | new
    exacts [inside h' old, List.mem_singleton.mp new ▸ fresh]

/-- Over a whole run, every span stays inside `B`, and each reader is handed only bytes of its
own span, which are the buffer's bytes there. -/
theorem run_within {B : List UInt8} : ∀ (calls : List (Nat × Call)) (pool : List Handle),
    (∀ h ∈ pool, h.Within B) →
    (∀ h ∈ (run pool calls).1, h.Within B) ∧ Keeps pool (run pool calls).1 ∧
      ∀ s ∈ (run pool calls).2, s.Within B (run pool calls).1
  | [], pool, within => ⟨within, Keeps.refl pool, fun _ none => nomatch none⟩
  | (who, c) :: rest, pool, within => by
    obtain ⟨inside, keeps, seen⟩ := step_within within who c
    obtain ⟨inside', keeps', seen'⟩ := run_within rest _ inside
    simp only [run]
    refine ⟨inside', keeps.trans keeps', fun s member => ?_⟩
    rcases List.mem_append.mp member with now | later
    exacts [(seen s now).keep keeps', seen' s later]

theorem reader_calls_stay_in_span :
    (∀ (c : Call) (r : Reader), c.run r = c.expected r) ∧
    ∀ (B : Span) (calls : List (Nat × Call)),
      (∀ h ∈ (run [⟨0, ofSpan B⟩] calls).1,
        h.reader.index ≤ h.reader.data.size ∧ h.Within B.bytes) ∧
      ∀ s ∈ (run [⟨0, ofSpan B⟩] calls).2, s.Within B.bytes (run [⟨0, ofSpan B⟩] calls).1 := by
  refine ⟨Call.run_eq_expected, fun B calls => ?_⟩
  have root : ∀ h ∈ [(⟨0, ofSpan B⟩ : Handle)], h.Within B.bytes := by
    simp only [List.mem_singleton, forall_eq, Handle.Within, ofSpan, Span.size, Nat.zero_add,
      le_refl, List.drop_zero, List.take_length, and_self]
  obtain ⟨inside, -, seen⟩ := run_within calls _ root
  exact ⟨fun h member => ⟨h.reader.index_le, inside h member⟩, seen⟩

end Iptsd.Reader
