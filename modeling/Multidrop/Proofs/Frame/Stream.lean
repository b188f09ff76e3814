import Multidrop.Basic
import Multidrop.Proofs.Frame.Decoder
import Multidrop.Proofs.Frame.RoundTrip

/-!
# Streams of frames

Frames that are written one after another, with bytes between them that hold no header, are found
again in order, each behind the bytes that stand in front of it (`Transcript.ofChunks_of_stream`).
This holds wherever the stream is cut, whatever the payloads contain, and also where a gap ends in
the first byte of a header.
-/
namespace Multidrop.Frame

/-- Bytes in which the second byte of the header never follows the first. -/
def Headless (bytes : List UInt8) : Prop := ¬[headerFirst, headerSecond] <:+: bytes

instance (bytes : List UInt8) : Decidable (Headless bytes) := inferInstanceAs (Decidable (¬_))

/-- Written frames, each behind the bytes of a gap. -/
def stream : List (List UInt8 × Frame) → Except Error (List UInt8)
  | [] => .ok []
  | (gap, frame) :: rest => do
    let bytes ← frame.encode
    let more ← stream rest
    .ok (gap ++ bytes ++ more)

/-- Frames that can be written make up a stream. -/
theorem exists_stream {stretches : List (List UInt8 × Frame)}
    (ids : ∀ stretch ∈ stretches, stretch.2.source ≤ maxId)
    (short : ∀ stretch ∈ stretches, stretch.2.payload.length < Word.bound 32) :
    ∃ bytes, stream stretches = .ok bytes := by
  induction stretches with
  | nil => exact ⟨[], rfl⟩
  | cons stretch rest ih =>
    obtain ⟨small, smalls⟩ := List.forall_mem_cons.1 ids
    obtain ⟨few, fews⟩ := List.forall_mem_cons.1 short
    obtain ⟨more, later⟩ := ih smalls fews
    have encoded := encode_eq_ok.2 ⟨small, few, rfl⟩
    exact ⟨_, bind_eq_ok.2 ⟨_, encoded, bind_eq_ok.2 ⟨more, later, rfl⟩⟩⟩

variable {limit : Nat} {gap bytes : List UInt8} {frame : Frame}

/-- What follows the first byte of bytes without a header has none either. -/
theorem Headless.tail {first : UInt8} (headless : Headless (first :: gap)) : Headless gap :=
  fun within => headless (within.trans (List.suffix_cons first gap).isInfix)

/-- The search for a header passes over bytes that hold none, and stops at the first header behind
them. -/
theorem splitGap_of_headless (headless : Headless gap) (rest : List UInt8) :
    splitGap (gap ++ headerFirst :: headerSecond :: rest) =
      (gap, headerFirst :: headerSecond :: rest) := by
  induction gap with
  | nil => exact splitGap_header rest
  | cons first later ih =>
    have behind := ih headless.tail
    cases later with
    | nil =>
      -- The gap may end in the first byte of a header; its partner is not the first byte again.
      have apart : ¬(first = headerFirst ∧ headerFirst = headerSecond) :=
        fun header => absurd header.2 (by decide)
      rw [List.nil_append] at behind
      rw [List.singleton_append, splitGap, if_neg apart, behind]
    | cons second others =>
      have apart : ¬(first = headerFirst ∧ second = headerSecond) := by
        rintro ⟨rfl, rfl⟩
        exact headless (List.prefix_append [headerFirst, headerSecond] others).isInfix
      rw [List.cons_append] at behind
      rw [List.cons_append, List.cons_append, splitGap, if_neg apart, behind]

/-- A pass finds a written frame behind a gap, and skips the gap. -/
theorem pass_of_headless (headless : Headless gap) (written : frame.encode = .ok bytes)
    (fits : frame.payload.length ≤ limit) (more : List UInt8) :
    pass limit (gap ++ bytes ++ more) =
      { skipped := gap, outcome := .frame frame, consumed := bytes, rest := more } := by
  have found := pass_encode written fits more
  obtain ⟨_, _, rfl⟩ := encode_eq_ok.1 written
  have split := splitGap_of_headless headless
    (frame.sourceByte :: frame.destination ::
      (frame.field ++ Word.bytes16 (Checksum.ofBody frame.body)) ++ more)
  have front : splitGap (withChecksum frame.body ++ more) = ([], withChecksum frame.body ++ more) :=
    splitGap_header _
  have whole : splitGap (gap ++ withChecksum frame.body ++ more) =
      (gap, withChecksum frame.body ++ more) := by
    rw [List.append_assoc]
    exact split
  simp only [pass, front] at found
  simp only [pass, whole]
  injection found with _ outcome consumed rest
  rw [outcome, consumed, rest]

/-- A scan of a stream gives its receiver every gap and the frame behind it, and leaves nothing. -/
theorem scan_stretches {α : Type} (sink : Sink α) {stretches : List (List UInt8 × Frame)}
    (gaps : ∀ stretch ∈ stretches, Headless stretch.1)
    (fit : ∀ stretch ∈ stretches, stretch.2.payload.length ≤ limit)
    (written : stream stretches = .ok bytes) (state : α) :
    scan sink limit state bytes =
      (stretches.foldl (fun state stretch => sink.find (.frame stretch.2) (sink.skip stretch.1 state))
        state, []) := by
  induction stretches generalizing bytes state with
  | nil =>
    cases written
    rw [scan_nil, List.foldl_nil]
  | cons stretch rest ih =>
    obtain ⟨gap, frame⟩ := stretch
    obtain ⟨headless, others⟩ := List.forall_mem_cons.1 gaps
    obtain ⟨short, shorts⟩ := List.forall_mem_cons.1 fit
    simp only [stream, bind_eq_ok, Except.ok.injEq] at written
    obtain ⟨front, encoded, more, later, rfl⟩ := written
    have looked := pass_of_headless headless encoded short []
    have going := @scan_of_found _ sink limit (gap ++ front ++ []) state more
      (by rw [looked]; nofun)
    rw [looked, List.append_nil, List.nil_append] at going
    rw [going, List.foldl_cons]
    exact ih others shorts later _

namespace Transcript

/-- Chunks give what one scan of all their bytes gives. -/
theorem ofChunks_eq_scan (limit : Nat) (chunks : List (List UInt8)) :
    ofChunks limit chunks = scan sink limit {} chunks.flatten := by
  have cut := scan_chunks sink limit {} [] chunks
  rw [scan_nil] at cut
  exact cut

/-- A scan of a stream writes down its frames, each with its gap, and leaves nothing. -/
theorem scan_stream {stretches : List (List UInt8 × Frame)}
    (gaps : ∀ stretch ∈ stretches, Headless stretch.1)
    (fit : ∀ stretch ∈ stretches, stretch.2.payload.length ≤ limit)
    (written : stream stretches = .ok bytes) (found : List (List UInt8 × Outcome)) :
    scan sink limit { found } bytes =
      ({ found := found ++ stretches.map fun (gap, frame) => (gap, .frame frame) }, []) := by
  rw [scan_stretches sink gaps fit written]
  clear gaps fit written
  congr 1
  induction stretches generalizing found with
  | nil => rw [List.foldl_nil, List.map_nil, List.append_nil]
  | cons stretch rest ih =>
    rw [List.foldl_cons]
    exact (ih _).trans (by rw [List.append_assoc]; rfl)

/-- Frames that can be written are found again in order wherever their stream is cut, each behind
the bytes of its gap, with no fault between them and no byte left over. -/
theorem ofChunks_of_stream (limit : Nat) (stretches : List (List UInt8 × Frame))
    (gaps : ∀ stretch ∈ stretches, Headless stretch.1)
    (ids : ∀ stretch ∈ stretches, stretch.2.source ≤ maxId)
    (fit : ∀ stretch ∈ stretches,
      stretch.2.payload.length ≤ limit ∧ stretch.2.payload.length < Word.bound 32) :
    ∃ bytes, stream stretches = .ok bytes ∧
      ∀ chunks : List (List UInt8), chunks.flatten = bytes →
        ofChunks limit chunks =
          ({ found := stretches.map fun (gap, frame) => (gap, .frame frame) }, []) := by
  obtain ⟨bytes, written⟩ := exists_stream ids fun stretch there => (fit stretch there).2
  refine ⟨bytes, written, fun chunks whole => ?_⟩
  rw [ofChunks_eq_scan, whole]
  exact scan_stream gaps (fun stretch there => (fit stretch there).1) written []

/-- Two frames, the first of which carries a header as its payload, behind gaps that end in the
first byte of a header, are found in a stream that is cut into single bytes. -/
theorem ofChunks_of_stream_of_bytes :
    let first : Frame := { source := 2, destination := 255, payload := [headerFirst, headerSecond] }
    let second : Frame :=
      { source := 127, responseRequested := true, destination := 1, payload := [] }
    let stretches := [([headerSecond, headerFirst], first), ([headerFirst], second)]
    ∃ bytes, stream stretches = .ok bytes ∧
      ofChunks 2 (bytes.map fun byte => [byte]) =
        ({ found := [([headerSecond, headerFirst], .frame first), ([headerFirst], .frame second)] },
          []) := by
  intro first second stretches
  obtain ⟨bytes, written, found⟩ :=
    ofChunks_of_stream 2 stretches (by decide +kernel) (by decide +kernel) (by decide +kernel)
  exact ⟨bytes, written, found _ (by rw [← List.flatMap_def, List.flatMap_singleton'])⟩

end Transcript

end Multidrop.Frame
