import Multidrop.Proofs.Frame.Stream
import Multidrop.Proofs.Node.Listening

/-!
# Bytes that a node overhears

A node captures what it hears that is not for it: bytes that belong to no frame, as they come, and
frames for other nodes, written out again. One look adds what it overhears to the capture
(`Station.unknown_receive`), and scanning with the receiver that only does this
(`Node.overhearing`) foretells the capture however the bytes are cut and whenever captured bytes are
read. Of a stream of written frames the capture has the gaps and the foreign frames, byte by byte
and in order, and nothing of the node's own frames (`Station.overheard_of_stream`).
-/
namespace Multidrop

/-- The bytes of a frame on the line. A frame that cannot be written has none. -/
def Frame.wire (frame : Frame) : List UInt8 :=
  match frame.encode with
  | .ok bytes => bytes
  | .error _ => []

/-- Nothing enters a ring without room. -/
theorem Ring.push_of_closed {ring : Ring} (closed : ring.capacity = 0) (bytes : List UInt8) :
    (ring.push bytes).2 = ring := by
  have none : ring.room bytes.length = 0 := by
    rw [room, closed, Nat.zero_sub, Nat.min_zero]
  cases ring
  simp only [push, none, List.take_zero, store, Nat.add_zero]

namespace Node

variable {σ : Type} {node other : Node} {frame : Frame}

/-- What a node captures of a frame: a foreign one as a whole, and nothing of any other. -/
def ofOthers (node : Node) (frame : Frame) : List UInt8 :=
  if node.Foreign frame then frame.wire else []

/-- What a node captures of something that a pass finds. -/
def overheard (node : Node) : Frame.Outcome → List UInt8
  | .incomplete => []
  | .fault _ => []
  | .frame frame => node.ofOthers frame

/-- The receiver that collects what a node captures. -/
def overhearing (node : Node) : Frame.Sink (List UInt8) where
  skip bytes caught := caught ++ bytes
  find outcome caught := caught ++ node.overheard outcome
  skip_nil caught := List.append_nil caught
  skip_append front back caught := (List.append_assoc caught front back).symm

/-- What a node captures of frames depends on its id and its limits. -/
theorem overhearing_eq (id : node.id = other.id) (options : node.options = other.options) :
    node.overhearing = other.overhearing := by
  have foreign : ∀ frame, node.Foreign frame ↔ other.Foreign frame := by
    intro frame
    rw [Foreign, Foreign, id, options]
  have same : node.overheard = other.overheard := by
    funext outcome
    cases outcome with
    | incomplete | fault _ => rfl
    | frame frame => simp only [overheard, ofOthers, foreign]
  unfold overhearing
  simp only [same]

/-- The receiver of what is overheard collects every gap, and the frames for others behind their
gaps. -/
theorem foldl_overhearing (node : Node) (caught : List UInt8)
    (stretches : List (List UInt8 × Frame)) :
    stretches.foldl (fun caught stretch =>
        node.overhearing.find (.frame stretch.2) (node.overhearing.skip stretch.1 caught)) caught =
      caught ++ stretches.flatMap fun stretch => stretch.1 ++ node.ofOthers stretch.2 := by
  induction stretches generalizing caught with
  | nil => exact (List.append_nil caught).symm
  | cons stretch rest ih =>
    rw [List.foldl_cons, ih, List.flatMap_cons, ← List.append_assoc, ← List.append_assoc]
    rfl

/-- What is collected stays in front of what is still to come. -/
theorem prefix_scan_overhearing (node : Node) (limit : Nat) (caught buffer : List UInt8) :
    caught <+: (Frame.scan node.overhearing limit caught buffer).1 := by
  fun_induction Frame.scan node.overhearing limit caught buffer with
  | case1 caught buffer needs => exact List.prefix_append _ _
  | case2 caught buffer found ih =>
    refine List.IsPrefix.trans ?_ ih
    exact (List.prefix_append caught _).trans (List.prefix_append _ _)

/-- A captured frame enters the ring as it stands on the line. -/
theorem unknown_captureFrame (frame : Frame) (node : Node) :
    (node.captureFrame frame).unknown = (node.unknown.push frame.wire).2 := by
  unfold captureFrame Frame.wire
  by_cases closed : node.unknown.capacity = 0
  · rw [if_pos closed, Ring.push_of_closed closed]
  · rw [if_neg closed]
    cases frame.encode with
    | error error => exact (Ring.push_nil _).symm
    | ok bytes => rfl

/-- Handling a frame captures the frame if it is foreign, and nothing otherwise. -/
theorem unknown_process (service : RegisterService σ) (frame : Frame) (registers : σ)
    (node : Node) :
    (node.process service frame registers).node.unknown =
      (node.unknown.push (node.ofOthers frame)).2 := by
  unfold ofOthers
  by_cases foreign : node.Foreign frame
  · rw [process_of_foreign foreign, if_pos foreign]
    exact unknown_captureFrame frame node
  · rw [if_neg foreign, Ring.push_nil]
    cases planned : Dispatch.plan node.options.bufferSize frame.payload with
    | error error => rw [process_of_refused foreign planned, refuse]
    | ok plan => rw [process_of_planned foreign planned]

end Node

namespace Station

variable {σ : Type} {service : RegisterService σ}

/-- What the next look overhears: the bytes that it skips, and what it captures of what it finds. -/
def overhears (station : Station σ) : List UInt8 :=
  let pass := Frame.pass station.node.options.bufferSize station.buffer
  pass.skipped ++ station.node.overheard pass.outcome

/-- A look adds what it overhears to the capture, as far as there is room. -/
theorem unknown_receive (service : RegisterService σ) (station : Station σ) :
    (station.receive service).2.node.unknown =
      (station.node.unknown.push station.overhears).2 := by
  unfold receive overhears
  dsimp only
  rw [Ring.push_append]
  cases (Frame.pass station.node.options.bufferSize station.buffer).outcome with
  | incomplete | fault _ => exact (Ring.push_nil _).symm
  | frame frame => exact Node.unknown_process service frame station.registers _

/-- Looking for a frame keeps the id of a node. -/
theorem id_receive (service : RegisterService σ) (station : Station σ) :
    (station.receive service).2.node.id = station.node.id := by
  unfold receive
  dsimp only
  cases (Frame.pass station.node.options.bufferSize station.buffer).outcome with
  | incomplete | fault _ => rfl
  | frame frame => exact Node.id_process

/-! ## Runs of a station -/

/-- Something that happens at a station. -/
inductive Happening (σ : Type) where
  /-- Some bytes arrive. -/
  | feed (bytes : List UInt8)
  /-- One frame is looked for. -/
  | receive
  /-- The application reads captured bytes. -/
  | readUnknown (count : Nat)
  /-- A reply has been written. -/
  | replySent
  /-- The application uses its tunnels and its registers. -/
  | use (tunnels : Tunnels) (registers : σ)

/-- The bytes that arrive. -/
def Happening.fed : Happening σ → List UInt8
  | .feed bytes => bytes
  | .receive => []
  | .readUnknown _ => []
  | .replySent => []
  | .use .. => []

/-- A station, with the captured bytes that its application has read so far. -/
structure Watched (σ : Type) where
  /-- The station. -/
  station : Station σ
  /-- Captured bytes that were read. -/
  taken : List UInt8 := []

namespace Watched

/-- What something that happens leads to. -/
def after (service : RegisterService σ) (watched : Watched σ) :
    Happening σ → Watched σ
  | .feed bytes => { watched with station := watched.station.feed bytes }
  | .receive => { watched with station := (watched.station.receive service).2 }
  | .readUnknown count =>
    let (bytes, node) := watched.station.node.readUnknown count
    { station := { watched.station with node }, taken := watched.taken ++ bytes }
  | .replySent => { watched with station := watched.station.replySent }
  | .use tunnels registers =>
    { watched with
      station :=
        { watched.station with node := { watched.station.node with tunnels }, registers } }

/-- What a run of happenings leads to. -/
def afterAll (service : RegisterService σ) (watched : Watched σ)
    (happenings : List (Happening σ)) : Watched σ :=
  happenings.foldl (after service) watched

/-- The captured bytes: those that were read, and behind them those that are in the ring. -/
def caught (watched : Watched σ) : List UInt8 :=
  watched.taken ++ watched.station.node.unknown.toList

/-- There is room in the ring for what a look overhears. -/
def Fits (watched : Watched σ) : Happening σ → Prop
  | .receive =>
    watched.station.node.unknown.size + watched.station.overhears.length ≤
      watched.station.node.unknown.capacity
  | .feed _ | .readUnknown _ | .replySent | .use .. => True

/-- In a run, there always is room for what is overheard. This is so where the ring is never full
(`roomy_of_unfilled`). -/
def Roomy (service : RegisterService σ) : List (Happening σ) → Watched σ → Prop
  | [], _ => True
  | happening :: rest, watched =>
    watched.Fits happening ∧ Roomy service rest (watched.after service happening)

/-- In a run, the ring is never full. -/
def Unfilled (service : RegisterService σ) (happenings : List (Happening σ))
    (watched : Watched σ) : Prop :=
  ∀ front back, happenings = front ++ back →
    (watched.afterAll service front).station.node.unknown.size <
      (watched.afterAll service front).station.node.unknown.capacity

/-- What a station captures with its buffer and some bytes to come, and the bytes that this
leaves. -/
def prospect (more : List UInt8) (watched : Watched σ) : List UInt8 × List UInt8 :=
  Frame.scan watched.station.node.overhearing watched.station.node.options.bufferSize
    watched.caught (watched.station.buffer ++ more)

variable {watched : Watched σ} {happening : Happening σ} {happenings : List (Happening σ)}

/-- A ring that is never full has room for all that is overheard. -/
theorem roomy_of_unfilled (unfilled : Unfilled service happenings watched) :
    Roomy service happenings watched := by
  induction happenings generalizing watched with
  | nil => trivial
  | cons happening rest ih =>
    refine ⟨?_, ih fun front back split => ?_⟩
    · cases happening with
      | feed | readUnknown | replySent | use => trivial
      | receive =>
        have less := unfilled [.receive] rest rfl
        have ring : (watched.afterAll service [.receive]).station.node.unknown =
            (watched.station.node.unknown.push watched.station.overhears).2 :=
          unknown_receive service watched.station
        rw [ring, Ring.capacity_push] at less
        have size : (watched.station.node.unknown.push watched.station.overhears).2.size =
            watched.station.node.unknown.size +
              min watched.station.overhears.length
                (watched.station.node.unknown.capacity - watched.station.node.unknown.size) := rfl
        show watched.station.node.unknown.size + watched.station.overhears.length ≤ _
        omega
    · exact unfilled (happening :: front) back (by rw [split, List.cons_append])

/-- A look with room leaves what is captured in the end as it is. -/
theorem prospect_receive (fits : watched.Fits .receive) (more : List UInt8) :
    (watched.after service .receive).prospect more = watched.prospect more := by
  have caught : (watched.after service .receive).caught =
      watched.caught ++ watched.station.overhears := by
    have ring := (Ring.toList_push_of_room fits).2
    rw [← unknown_receive service] at ring
    show watched.taken ++ (watched.station.receive service).2.node.unknown.toList = _
    rw [ring, Watched.caught, List.append_assoc]
  have sink : (watched.after service .receive).station.node.overhearing =
      watched.station.node.overhearing :=
    Node.overhearing_eq (id_receive service watched.station)
      (options_receive service watched.station)
  have options : (watched.after service .receive).station.node.options =
      watched.station.node.options := options_receive service watched.station
  have buffer : (watched.after service .receive).station.buffer =
      (Frame.pass watched.station.node.options.bufferSize watched.station.buffer).rest :=
    buffer_receive service watched.station
  rw [prospect, prospect, caught, sink, options, buffer]
  by_cases needs :
      (Frame.pass watched.station.node.options.bufferSize watched.station.buffer).outcome =
        .incomplete
  · have gap : watched.station.overhears =
        (Frame.pass watched.station.node.options.bufferSize watched.station.buffer).skipped := by
      rw [overhears, needs]
      exact List.append_nil _
    rw [Frame.scan_append _ _ watched.caught, Frame.scan_of_incomplete _ needs, gap]
    rfl
  · rw [Frame.scan_of_found watched.caught more needs, overhears, ← List.append_assoc]
    rfl

/-- Whatever happens leaves what is captured in the end as it is. Bytes that arrive are no longer to
come. -/
theorem prospect_after (fits : watched.Fits happening) (more : List UInt8) :
    (watched.after service happening).prospect more = watched.prospect (happening.fed ++ more) := by
  cases happening with
  | feed bytes =>
    rw [prospect, prospect, ← List.append_assoc]
    rfl
  | receive => exact prospect_receive fits more
  | readUnknown count =>
    have caught : (watched.after service (.readUnknown count)).caught = watched.caught := by
      obtain ⟨front, back⟩ := watched.station.node.unknown.pop_eq count
      show (watched.taken ++ (watched.station.node.unknown.pop count).1) ++
        (watched.station.node.unknown.pop count).2.toList = _
      rw [front, back, List.append_assoc, List.take_append_drop, Watched.caught]
    rw [prospect, prospect, caught]
    rfl
  | replySent =>
    have node : watched.station.replySent.node =
        { watched.station.node with phase := watched.station.node.replySent.phase } :=
      Node.replySent_eq watched.station.node
    show ({ watched with station := watched.station.replySent } : Watched σ).prospect more = _
    rw [prospect, prospect, Watched.caught, Watched.caught, node]
    rfl
  | use tunnels registers => rfl

/-- Whatever happens in a run leaves what is captured in the end as it is. -/
theorem prospect_afterAll (roomy : Roomy service happenings watched) (more : List UInt8) :
    (watched.afterAll service happenings).prospect more =
      watched.prospect (happenings.flatMap Happening.fed ++ more) := by
  induction happenings generalizing watched with
  | nil => rfl
  | cons happening rest ih =>
    obtain ⟨fits, later⟩ := roomy
    have all := ih later
    rw [List.flatMap_cons, List.append_assoc, ← prospect_after fits]
    exact all

end Watched

/-- Of a stream of written frames, a station captures the gaps and the foreign frames as they stand
on the line, in order, while its ring has room for them. -/
theorem overheard_of_stream (service : RegisterService σ) (start : Station σ)
    (fresh : start.buffer = []) (happenings : List (Happening σ))
    (roomy : Watched.Roomy service happenings { station := start })
    (stretches : List (List UInt8 × Frame)) (bytes more : List UInt8)
    (gaps : ∀ stretch ∈ stretches, Frame.Headless stretch.1)
    (fit : ∀ stretch ∈ stretches, stretch.2.payload.length ≤ start.node.options.bufferSize)
    (written : Frame.stream stretches = .ok bytes)
    (fed : happenings.flatMap Happening.fed ++ more = bytes) :
    let watched := Watched.afterAll service { station := start } happenings
    let all := start.node.unknown.toList ++ stretches.flatMap fun stretch =>
      stretch.1 ++ if start.node.Foreign stretch.2 then stretch.2.wire else []
    watched.taken ++ watched.station.node.unknown.toList <+: all ∧
      (more = [] → watched.station.buffer = [] →
        watched.taken ++ watched.station.node.unknown.toList = all) ∧
      (more = [] → (watched.station.receive service).1 = .incomplete →
        (watched.station.receive service).2.buffer = []) := by
  intro watched all
  have begins : ({ station := start } : Watched σ).prospect bytes = (all, []) := by
    rw [Watched.prospect, fresh, List.nil_append, Frame.scan_stretches _ gaps fit written,
      Node.foldl_overhearing]
    rfl
  have scanned : watched.prospect more = (all, []) := by
    rw [← begins, ← fed]
    exact Watched.prospect_afterAll roomy more
  refine ⟨?_, ?_, ?_⟩
  · have front := Node.prefix_scan_overhearing watched.station.node
      watched.station.node.options.bufferSize watched.caught (watched.station.buffer ++ more)
    rw [Watched.prospect] at scanned
    rw [scanned] at front
    exact front
  · rintro rfl empty
    rw [Watched.prospect, empty, List.append_nil, Frame.scan_nil] at scanned
    exact congrArg Prod.fst scanned
  · rintro rfl needs
    rw [Watched.prospect, List.append_nil,
      Frame.scan_of_incomplete _ (receive_eq_incomplete_iff.1 needs)] at scanned
    rw [buffer_receive]
    exact congrArg Prod.snd scanned

/-- Two foreign frames with a request of the node's own between them, cut inside the first: the gaps
and the foreign frames come out, and neither the request nor its answer. -/
theorem overheard_of_stream_of_three :
    let service : RegisterService Unit :=
      { read := fun registers _ _ => (.ok (.int8 1), registers)
        write := fun registers _ _ => (.ok (), registers) }
    let start : Station Unit := { node := .ofConfig { bufferSize := 32 } .default, registers := () }
    let watched := Watched.afterAll service { station := start }
      [.feed [9, 84, 84, 171, 2], .receive,
        .feed [7, 1, 1, 7, 214, 84, 171, 130, 1, 0, 242, 232, 8, 84, 171, 3, 7, 0, 234, 71],
        .receive, .readUnknown 3, .receive, .replySent, .receive, .readUnknown 4]
    watched.taken = [9, 84, 84, 171, 2, 7, 1] ∧
      watched.taken ++ watched.station.node.unknown.toList =
        [9, 84] ++ [84, 171, 2, 7, 1, 1, 7, 214] ++ [8] ++ [84, 171, 3, 7, 0, 234, 71] := by
  intro service start watched
  let first : Frame := { source := 2, destination := 7, payload := [1] }
  let own : Frame := { source := 2, responseRequested := true, destination := 1, payload := [] }
  let last : Frame := { source := 3, destination := 7, payload := [] }
  have front : first.encode = .ok [84, 171, 2, 7, 1, 1, 7, 214] :=
    Frame.encode_eq_ok.2 (by decide +kernel)
  have middle : own.encode = .ok [84, 171, 130, 1, 0, 242, 232] :=
    Frame.encode_eq_ok.2 (by decide +kernel)
  have back : last.encode = .ok [84, 171, 3, 7, 0, 234, 71] :=
    Frame.encode_eq_ok.2 (by decide +kernel)
  have written : Frame.stream [([9, 84], first), ([], own), ([8], last)] =
      .ok ([9, 84] ++ [84, 171, 2, 7, 1, 1, 7, 214] ++ ([] ++ [84, 171, 130, 1, 0, 242, 232] ++
        ([8] ++ [84, 171, 3, 7, 0, 234, 71] ++ []))) := by
    simp only [Frame.stream, front, middle, back]
    rfl
  have roomy : Watched.Roomy service
      [.feed [9, 84, 84, 171, 2], .receive,
        .feed [7, 1, 1, 7, 214, 84, 171, 130, 1, 0, 242, 232, 8, 84, 171, 3, 7, 0, 234, 71],
        .receive, .readUnknown 3, .receive, .replySent, .receive, .readUnknown 4]
      { station := start } := by
    simp only [Watched.Roomy, Watched.Fits]
    decide +kernel
  obtain ⟨_, whole, _⟩ := overheard_of_stream service start rfl _ roomy
    [([9, 84], first), ([], own), ([8], last)] _ [] (by decide +kernel) (by decide +kernel)
    written rfl
  have empty : watched.station.buffer = [] := by decide +kernel
  exact ⟨by decide +kernel, (whole rfl empty).trans (by decide +kernel)⟩

end Station

end Multidrop
