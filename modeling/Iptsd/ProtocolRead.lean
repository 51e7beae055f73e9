import Iptsd.Protocol

/- Reading wire structs written back to back: `read<T>()` once per struct, for the type of each
in turn. Each read finds the bytes it needs, takes exactly `sizeof(T)` of them, and gets back the
struct written there; a run of them ends with the cursor after the last struct. -/

set_option autoImplicit false

namespace Iptsd.Protocol

open Reader

/-- `read<T>()` for each `T` of `kinds` in turn, collecting what is read. -/
def readEach : List Kind → ReaderM (List (Σ kind : Kind, kind.Value))
  | [] => pure []
  | kind :: kinds => do
    let value ← readAs kind.layout
    let values ← readEach kinds
    pure (⟨kind, value⟩ :: values)

/-- `read<T>()` at a cursor where the bytes of a `T` begin reads that `T` and moves over
`sizeof(T)` bytes. -/
theorem readAs_of_encoded {kind : Kind} {value : kind.Value} {r : Reader} {more : List UInt8}
    (encoded : r.data.bytes.drop r.index = kind.encode value ++ more) :
    ∃ fits, readAs kind.layout r = .ok value (r.advance kind.layout.size fits) := by
  have length := (kind.packed).length value
  have left : r.size = kind.layout.size + more.length := by
    rw [Reader.size, Span.size, ← List.length_drop, encoded, List.length_append, length]
  have passed : r.refusal kind.layout.size = none :=
    (refusal_eq_none_iff r _).mpr ⟨by have := kind.size_pos; omega, by omega⟩
  refine ⟨le_size_of_refusal_eq_none passed, ?_⟩
  simp only [readAs, Functor.map, EStateM.map, read_of_passed passed, Reader.ahead, encoded,
    List.take_left' length, (kind.packed).decode]

/-- Reading the structs of `values`, written back to back at the cursor, reads each back and
leaves the cursor after the last, over the same span. -/
theorem readEach_of_encoded : ∀ (values : List (Σ kind : Kind, kind.Value)) (r : Reader)
    (rest : List UInt8),
    r.data.bytes.drop r.index = values.flatMap (fun value => value.1.encode value.2) ++ rest →
    ∃ after : Reader, readEach (values.map Sigma.fst) r = .ok values after ∧
      after.data = r.data ∧ after.index = r.index + (values.map fun value => value.1.layout.size).sum
  | [], r, _, _ => ⟨r, rfl, rfl, rfl⟩
  | ⟨kind, value⟩ :: values, r, rest, encoded => by
    rw [List.flatMap_cons, List.append_assoc] at encoded
    obtain ⟨fits, read⟩ := readAs_of_encoded encoded
    have next : (r.advance kind.layout.size fits).data.bytes.drop
        (r.advance kind.layout.size fits).index =
          values.flatMap (fun value => value.1.encode value.2) ++ rest := by
      rw [advance_data, advance_index, ← List.drop_drop, encoded,
        List.drop_left' ((kind.packed).length value)]
    obtain ⟨after, reads, same, index⟩ := readEach_of_encoded values _ rest next
    refine ⟨after, ?_, same, ?_⟩
    · simp only [List.map_cons, readEach, bind, EStateM.bind, read, reads]
      rfl
    · rw [index, advance_index, List.map_cons, List.sum_cons, Nat.add_assoc]

theorem read_back_wire_structs (values : List (Σ kind : Kind, kind.Value)) (rest : List UInt8)
    (span : Span) (written : span.bytes = values.flatMap (fun value => value.1.encode value.2) ++ rest) :
    ∃ after : Reader, readEach (values.map Sigma.fst) (ofSpan span) = .ok values after ∧
      after.data = span ∧ after.index = (values.map fun value => value.1.layout.size).sum := by
  obtain ⟨after, reads, same, index⟩ := readEach_of_encoded values (ofSpan span) rest written
  exact ⟨after, reads, same, index.trans (Nat.zero_add _)⟩

/-- A stylus record of a pen touching the middle of the screen. -/
def touchRecord : IptsStylusDataV2 := ⟨1, 3, 4800, 3600, 2048, 0, 0, ⟨[0, 0], rfl⟩⟩

/-- A stylus report as a device lays it out: the report header (type `0x60`, 24 bytes), the
serial header of one element, and the record. -/
def touchReport : List (Σ kind : Kind, kind.Value) :=
  [⟨.report, (⟨0x60, 24⟩ : IptsReport)⟩,
    ⟨.stylusReport, (⟨1, ⟨[0, 0, 0], rfl⟩, 7⟩ : IptsStylusReport)⟩, ⟨.stylusDataV2, touchRecord⟩]

/-- The report read back from a span that holds it and one more byte. -/
def touchSpan : Span := ⟨touchReport.flatMap (fun value => value.1.encode value.2) ++ [0xAA], by decide⟩

theorem touch_report_read_back :
    touchSpan.bytes = touchReport.flatMap (fun value => value.1.encode value.2) ++ [0xAA] ∧
      ∃ after : Reader, readEach [.report, .stylusReport, .stylusDataV2] (ofSpan touchSpan) =
          .ok touchReport after ∧ after.data = touchSpan ∧ after.index = 28 :=
  have written : touchSpan.bytes = touchReport.flatMap (fun value => value.1.encode value.2) ++
      [0xAA] := rfl
  ⟨written, read_back_wire_structs _ _ _ written⟩

end Iptsd.Protocol
