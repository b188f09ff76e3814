import Multidrop.Node.Linked
import Multidrop.Node.Streaming
import Multidrop.Proofs.Frame.Duplex
import Multidrop.Proofs.Node.Process

/-!
# Serving a line that cuts its bytes

A station that polls a line and a node on a stream take the same bytes apart differently: one keeps
a buffer and handles a frame in each poll, the other takes items from a queue. Both scan the bytes
with the same receiver (`Served.sink`), so what they still have to do (`outlook`) is the same at
every step, however the line cuts the bytes and whenever it pauses. Both therefore end as a station
does that has all bytes in its buffer at once (`serve_segments`).
-/
namespace Multidrop

variable {σ : Type}

/-- A node at work with everything it has sent. How far it is with a frame is left out. -/
structure Served (σ : Type) where
  /-- The node, idle. -/
  node : Node
  /-- The application's registers. -/
  registers : σ
  /-- All bytes sent. -/
  sent : List UInt8

namespace Served

/-- Handle what a pass has found. -/
def handle (service : RegisterService σ) (outcome : Frame.Outcome) (served : Served σ) :
    Served σ :=
  match outcome with
  | .incomplete => served
  | .fault error => { served with node := served.node.recordFault error }
  | .frame frame =>
    let handled := served.node.process service frame served.registers
    { node := { handled.node with phase := .idle }
      registers := handled.registers
      sent := served.sent ++ handled.reply.getD [] }

/-- The receiver that captures gaps and handles frames and faults. -/
def sink (service : RegisterService σ) : Frame.Sink (Served σ) where
  skip bytes served := { served with node := served.node.capture bytes }
  find := handle service
  skip_nil served := by
    rw [Node.capture, Ring.push_nil]
  skip_append front back served := by
    rw [Node.capture, Node.capture, Node.capture, Ring.push_append]

end Served

/-- Noting a reply as written changes only how far a node is. -/
theorem Node.idle_replySent (node : Node) :
    ({ node.replySent with phase := .idle } : Node) = { node with phase := .idle } := by
  unfold replySent
  by_cases sending : node.phase = .sending
  · rw [if_pos sending]
  · rw [if_neg sending]

/-! ## Stations -/

namespace Station

/-- A station with what it has sent, apart from its buffer. -/
def served (sent : List UInt8) (station : Station σ) : Served σ where
  node := { station.node with phase := .idle }
  registers := station.registers
  sent := sent

/-- What a station comes to with its buffer and some bytes to come, and the bytes that this
leaves. -/
def outlook (service : RegisterService σ) (sent more : List UInt8) (station : Station σ) :
    Served σ × List UInt8 :=
  Frame.scan (Served.sink service) station.node.options.bufferSize (station.served sent)
    (station.buffer ++ more)

/-- A station is what it serves, how far it is, and its buffer. -/
theorem ext_served (first second : Station σ) {sent : List UInt8}
    (served : first.served sent = second.served sent)
    (phase : first.node.phase = second.node.phase) (buffer : first.buffer = second.buffer) :
    first = second := by
  obtain ⟨⟨options, id, phase₁, stats, tunnels, unknown⟩, registers, bytes⟩ := first
  obtain ⟨⟨options₂, id₂, phase₂, stats₂, tunnels₂, unknown₂⟩, registers₂, bytes₂⟩ := second
  cases phase
  cases buffer
  cases served
  rfl

variable {service : RegisterService σ} {station after : Station σ} {received : Received}

/-- Received bytes are no longer to come. -/
theorem outlook_feed (sent bytes more : List UInt8) :
    (station.feed bytes).outlook service sent more =
      station.outlook service sent (bytes ++ more) := by
  rw [outlook, outlook, feed, List.append_assoc]
  rfl

/-- Where a pass finds something, it is handled. -/
theorem receive_of_found (sent : List UInt8)
    (found : (Frame.pass station.node.options.bufferSize station.buffer).outcome ≠ .incomplete)
    (looked : station.receive service = (received, after)) :
    received ≠ .incomplete ∧ after.node.options = station.node.options ∧
      after.buffer = (Frame.pass station.node.options.bufferSize station.buffer).rest ∧
      after.served (sent ++ received.reply?.getD []) =
        (Served.sink service).find
          (Frame.pass station.node.options.bufferSize station.buffer).outcome
          ((Served.sink service).skip
            (Frame.pass station.node.options.bufferSize station.buffer).skipped
            (station.served sent)) := by
  unfold receive at looked
  dsimp only at looked
  cases outcome : (Frame.pass station.node.options.bufferSize station.buffer).outcome with
  | incomplete => exact absurd outcome found
  | fault error =>
    rw [outcome] at looked
    cases looked
    refine ⟨nofun, rfl, rfl, ?_⟩
    rw [Received.reply?, Option.getD_none, List.append_nil]
    rfl
  | frame frame =>
    rw [outcome] at looked
    cases looked
    refine ⟨?_, Node.options_process, rfl, ?_⟩
    · cases (Node.process _ _ _ _).reply <;> nofun
    · have answers : ∀ reply : Option (List UInt8),
          (reply.elim .handled Received.reply).reply? = reply := by
        intro reply
        cases reply <;> rfl
      rw [answers]
      rfl

/-- Where more bytes are needed, the gap is captured. -/
theorem receive_of_incomplete
    (needs : (Frame.pass station.node.options.bufferSize station.buffer).outcome = .incomplete) :
    station.receive service =
      let rest := (Frame.pass station.node.options.bufferSize station.buffer).rest
      (.incomplete,
        { station with
          node :=
            { station.node.capture
                (Frame.pass station.node.options.bufferSize station.buffer).skipped with
              phase := if rest = [] then .idle else .accumulating }
          buffer := rest }) := by
  unfold receive
  dsimp only
  rw [needs]
  rfl

/-- Looking for a frame leaves what a station comes to as it is. -/
theorem outlook_receive (sent more : List UInt8)
    (looked : station.receive service = (received, after)) :
    after.outlook service (sent ++ received.reply?.getD []) more =
      station.outlook service sent more := by
  by_cases needs :
      (Frame.pass station.node.options.bufferSize station.buffer).outcome = .incomplete
  · rw [receive_of_incomplete needs] at looked
    cases looked
    rw [outlook, outlook, Frame.scan_append _ _ (station.served sent),
      Frame.scan_of_incomplete _ needs, Received.reply?, Option.getD_none, List.append_nil]
    rfl
  · obtain ⟨_, options, buffer, served⟩ := receive_of_found sent needs looked
    rw [outlook, outlook, options, buffer, served, Frame.scan_of_found _ more needs]

/-- Where nothing is answered, looking for a frame leaves what is sent as it is, too. -/
theorem outlook_receive_of_silent (sent more : List UInt8)
    (looked : station.receive service = (received, after)) (silent : received.reply? = none) :
    after.outlook service sent more = station.outlook service sent more := by
  have same := outlook_receive sent more looked
  rw [silent, Option.getD_none, List.append_nil] at same
  exact same

/-- A station that needs more bytes, and gets none, has what it comes to. -/
theorem outlook_of_incomplete (sent : List UInt8)
    (looked : station.receive service = (.incomplete, after)) :
    station.outlook service sent [] = (after.served sent, after.buffer) ∧
      after.node.phase = if after.buffer = [] then .idle else .accumulating := by
  by_cases needs :
      (Frame.pass station.node.options.bufferSize station.buffer).outcome = .incomplete
  · rw [receive_of_incomplete needs] at looked
    cases looked
    refine ⟨?_, rfl⟩
    rw [outlook, List.append_nil, Frame.scan_of_incomplete _ needs]
    rfl
  · exact absurd rfl (receive_of_found sent needs looked).1

/-- Noting a reply as written is not told apart. -/
theorem outlook_replySent (sent more : List UInt8) :
    station.replySent.outlook service sent more = station.outlook service sent more := by
  have options : station.replySent.node.options = station.node.options := by
    unfold replySent Node.replySent
    by_cases sending : station.node.phase = .sending
    · rw [if_pos sending]
    · rw [if_neg sending]
  rw [outlook, outlook, options, served, replySent, Node.idle_replySent]
  rfl

/-- A station that handles everything in its buffer at once comes to what it should. -/
theorem outlook_settle (service : RegisterService σ) (sent : List UInt8) (station : Station σ) :
    let settled := station.settle service id
    let replies := (settled.1.filterMap Received.reply?).flatten
    station.outlook service sent [] = (settled.2.served (sent ++ replies), settled.2.buffer) ∧
      settled.2.node.phase = if settled.2.buffer = [] then .idle else .accumulating := by
  dsimp only
  fun_induction settle service id station generalizing sent with
  | case1 station after looked =>
    rw [List.filterMap_nil, List.flatten_nil, List.append_nil]
    exact outlook_of_incomplete sent looked
  | case2 station after impossible => exact absurd rfl impossible
  | case3 station received after going looked found shorter replied more last =>
    rename_i settled ih
    have first : replied.outlook service (sent ++ received.reply?.getD []) [] =
        station.outlook service sent [] :=
      (outlook_replySent _ []).trans (outlook_receive sent [] looked)
    have replies : sent ++ received.reply?.getD [] ++ (more.filterMap Received.reply?).flatten =
        sent ++ ((received :: more).filterMap Received.reply?).flatten := by
      cases received <;> simp [Received.reply?, List.filterMap_cons]
    have rest := ih (sent ++ received.reply?.getD [])
    rw [settled, replies] at rest
    exact ⟨first.symm.trans rest.1, rest.2⟩

end Station

/-! ## Polling -/

/-- Polls of a station, one after another, until one reports the end of the line. None of the
others fails for a reason other than that nothing arrived in time. -/
inductive PollsOut (service : RegisterService σ) : Linked σ → Linked σ → Prop
  /-- The line has ended. -/
  | ended {linked after : Linked σ} {reason : String}
      (polled : linked.poll service = (.error (.disconnected reason), after)) :
      PollsOut service linked after
  /-- There is more. -/
  | going {linked between after : Linked σ} {result : Except NodeError Unit}
      (polled : linked.poll service = (result, between))
      (well : result = .ok () ∨ ∃ error, result = .error error ∧ error.isIdle)
      (later : PollsOut service between after) : PollsOut service linked after

namespace Linked

/-- What a station on a line comes to with some bytes to come, and the bytes that this leaves. -/
def outlook (service : RegisterService σ) (more : List UInt8) (linked : Linked σ) :
    Served σ × List UInt8 :=
  linked.station.outlook service linked.line.written more

/-- Bound on the polls that find something. -/
def burden (linked : Linked σ) : Nat := linked.line.weight + linked.station.buffer.length

/-- What a poll of a line that delivers bytes comes to. -/
inductive Advances (service : RegisterService σ) (linked : Linked σ) (bytes : List UInt8) :
    Except NodeError Unit × Linked σ → Prop
  /-- Something was handled, or nothing has arrived in time. -/
  | going {result : Except NodeError Unit} {after : Linked σ} {later : List UInt8}
      (well : result = .ok () ∨ ∃ error, result = .error error ∧ error.isIdle)
      (carries : after.line.Carries Fault.Kind.isGentle later)
      (same : after.outlook service later = linked.outlook service bytes)
      (less : after.burden < linked.burden) : Advances service linked bytes (result, after)
  /-- The line has ended. -/
  | ended {after : Linked σ} (rest : List UInt8)
      (complete : linked.outlook service bytes = (after.station.served after.line.written, rest))
      (phase : after.station.node.phase = if rest = [] then .idle else .accumulating)
      (buffer : after.station.buffer = []) :
      Advances service linked bytes (.error (.disconnected endOfStream), after)

variable {service : RegisterService σ} {linked : Linked σ} {bytes : List UInt8}

/-- A poll that has only moved bytes to the buffer advances like before. -/
theorem Advances.of_moved {between : Linked σ} {later : List UInt8}
    {result : Except NodeError Unit × Linked σ} (advances : Advances service between later result)
    (same : between.outlook service later = linked.outlook service bytes)
    (less : between.burden ≤ linked.burden) : Advances service linked bytes result := by
  cases advances with
  | going well carries outlook fewer =>
    exact .going well carries (outlook.trans same) (Nat.lt_of_lt_of_le fewer less)
  | ended rest complete phase buffer => exact .ended rest (same ▸ complete) phase buffer

/-- Sending over a willing line succeeds. -/
theorem sent_sendRaw (linked : Linked σ) (willing : linked.line.Willing) (reply : List UInt8) :
    ∃ line, linked.sendRaw reply = (.ok (), { linked with line }) ∧
      linked.line.Sent line reply := by
  obtain ⟨line, written, sent⟩ :=
    Line.sent_writer linked.station.node.options.bufferSize willing reply
  refine ⟨line, ?_, sent⟩
  unfold sendRaw
  dsimp only
  rw [written]
  rfl

/-- Handling something takes bytes from the buffer. -/
theorem length_buffer_of_receive {station after : Station σ} {received : Received}
    (looked : station.receive service = (received, after)) (found : received ≠ .incomplete) :
    after.buffer.length < station.buffer.length := by
  have fewer := @Station.length_buffer_receive_lt σ service station
  rw [looked] at fewer
  exact fewer found

/-- Looking for a frame adds nothing to the buffer. -/
theorem length_buffer_le {station after : Station σ} {received : Received}
    (looked : station.receive service = (received, after)) :
    after.buffer.length ≤ station.buffer.length := by
  have rest := Station.buffer_receive service station
  rw [looked] at rest
  rw [rest]
  exact Frame.length_pass_rest_le _ _

/-- A poll of a line that delivers bytes advances. -/
theorem advances_poll (service : RegisterService σ)
    (carries : linked.line.Carries Fault.Kind.isGentle bytes) :
    Advances service linked bytes (linked.poll service) := by
  have reads := carries.reads (show 0 < Frame.readSize by decide)
  fun_induction poll service linked generalizing bytes with
  | case1 linked reply station looked result after answered =>
    obtain ⟨line, wrote, sent⟩ :=
      sent_sendRaw { linked with station } carries.willing reply
    rw [answered] at wrote
    cases wrote
    have fewer := length_buffer_of_receive looked (by simp)
    have same := Station.outlook_receive linked.line.written bytes looked
    rw [← Station.outlook_replySent] at same
    refine .going (.inl rfl) (sent.carries carries) ?_ ?_
    · rw [outlook, outlook, sent.written]
      exact same
    · rw [burden, burden, Line.weight, sent.arrivals]
      exact Nat.add_lt_add_left fewer _
  | case2 linked station looked =>
    have fewer := length_buffer_of_receive looked (by decide)
    have same := Station.outlook_receive_of_silent linked.line.written bytes looked rfl
    exact .going (.inl rfl) carries same (Nat.add_lt_add_left fewer _)
  | case3 linked station looked line read =>
    rw [read] at reads
    cases reads with
    | closed written =>
      obtain ⟨complete, phase⟩ := Station.outlook_of_incomplete linked.line.written looked
      refine .ended station.buffer ?_ phase rfl
      rw [outlook, complete, written]
      rfl
  | case4 linked station looked byte more line read less ih =>
    rw [read] at reads
    cases reads with
    | @piece _ _ rest _ later written =>
      have kept := length_buffer_le looked
      have same :=
        Station.outlook_receive_of_silent linked.line.written (byte :: more ++ rest) looked rfl
      rw [← Station.outlook_feed] at same
      have goes := ih later (later.reads (by decide))
      refine goes.of_moved ?_ ?_
      · rw [outlook, outlook, written]
        exact same
      · simp only [burden, Station.feed, List.length_append]
        omega
  | case5 linked station looked line read less ih =>
    rw [read] at reads
    cases reads with
    | fault gentle later written =>
      have kept := length_buffer_le looked
      have same := Station.outlook_receive_of_silent linked.line.written bytes looked rfl
      have goes := ih later (later.reads (by decide))
      refine goes.of_moved ?_ ?_
      · rw [outlook, outlook, written]
        exact same
      · simp only [burden]
        omega
  | case6 linked station looked kind line other read =>
    rw [read] at reads
    cases reads with
    | fault gentle later written =>
      have kept := length_buffer_le looked
      have same := Station.outlook_receive_of_silent linked.line.written bytes looked rfl
      have idle : kind.isIdle = true := by
        rw [Fault.Kind.isGentle, Bool.or_eq_true, decide_eq_true_eq] at gentle
        exact gentle.resolve_left other
      have fewer := carries.weight_read_of_fault read
      refine .going (.inr ⟨_, rfl, idle⟩) later ?_ ?_
      · rw [outlook, outlook, written]
        exact same
      · simp only [burden]
        omega

/-- Polling a line that delivers bytes meets the end of the line, with the station where it should
be. -/
theorem pollsOut_of_carries (service : RegisterService σ) (linked : Linked σ)
    (carries : linked.line.Carries Fault.Kind.isGentle bytes) :
    ∃ after rest, PollsOut service linked after ∧
      linked.outlook service bytes = (after.station.served after.line.written, rest) ∧
      after.station.node.phase = (if rest = [] then .idle else .accumulating) ∧
      after.station.buffer = [] := by
  induction left : linked.burden using Nat.strongRecOn generalizing linked bytes with
  | ind count ih =>
    have advances := advances_poll service carries
    generalize polled : linked.poll service = result at advances
    cases advances with
    | ended rest complete phase buffer => exact ⟨_, rest, .ended polled, complete, phase, buffer⟩
    | going well later same less =>
      obtain ⟨after, rest, polls, complete, phase, buffer⟩ := ih _ (left ▸ less) _ later rfl
      exact ⟨after, rest, .going polled well polls, same.symm.trans complete, phase, buffer⟩

end Linked

/-! ## Streaming -/

namespace Streaming

/-- A node on a stream with what it has sent, apart from the stream. -/
def served (streaming : Streaming σ) : Served σ where
  node := { streaming.node with phase := .idle }
  registers := streaming.registers
  sent := streaming.duplex.line.written

/-- What a node on a stream comes to with some bytes to come. -/
def outlook (service : RegisterService σ) (more : List UInt8) (streaming : Streaming σ) :
    Served σ :=
  (Served.sink service).conclude
    (streaming.duplex.items.outlook (Served.sink service) streaming.served more)

variable {service : RegisterService σ} {streaming : Streaming σ} {bytes : List UInt8}

/-- An item is handled as the receiver does. -/
theorem handle_of_flows (service : RegisterService σ) (streaming : Streaming σ) (item : Frame.Item)
    (flows : streaming.duplex.Flows bytes) :
    ∃ after, streaming.handle service item = (.ok (), after) ∧ after.duplex.Flows bytes ∧
      after.duplex.items = streaming.duplex.items ∧
      after.served = (Served.sink service).take streaming.served item := by
  unfold handle
  cases item with
  | rejected error => exact ⟨_, rfl, flows, rfl, rfl⟩
  | discarded piece => exact ⟨_, rfl, flows, rfl, rfl⟩
  | frame frame =>
    have taken : (Served.sink service).take streaming.served (.frame frame) =
        let handled := streaming.node.process service frame streaming.registers
        { node := { handled.node with phase := .idle }
          registers := handled.registers
          sent := streaming.duplex.line.written ++ handled.reply.getD [] } := rfl
    rw [taken]
    dsimp only
    cases answered : (streaming.node.process service frame streaming.registers).reply with
    | none =>
      refine ⟨_, rfl, flows, rfl, ?_⟩
      rw [Option.getD_none, List.append_nil]
      rfl
    | some reply =>
      obtain ⟨duplex, sent, still, items, written⟩ := Frame.Duplex.flows_sendRaw flows reply
      dsimp only
      rw [sent]
      refine ⟨_, rfl, still, items, ?_⟩
      rw [served, written, Node.idle_replySent]
      rfl

/-- Serving a stream over a line that delivers bytes meets its end, with the node where it should
be. -/
theorem run_of_flows (service : RegisterService σ) (flows : streaming.duplex.Flows bytes) :
    ∃ after, streaming.run service = (.closed, after) ∧
      streaming.outlook service bytes = after.served := by
  have proceeds := Frame.Duplex.proceeds_next (Served.sink service) streaming.served flows
  fun_induction run service streaming generalizing bytes with
  | case1 streaming duplex next =>
    rw [next] at proceeds
    cases proceeds
  | case2 streaming duplex next =>
    rw [next] at proceeds
    cases proceeds with
    | ended written complete =>
      refine ⟨_, rfl, complete.trans ?_⟩
      rw [served, served, written]
  | case3 streaming kind duplex next =>
    rw [next] at proceeds
    cases proceeds
  | case4 streaming item duplex next error after handled =>
    rw [next] at proceeds
    cases proceeds with
    | item still written limit same =>
      obtain ⟨_, well, _⟩ := handle_of_flows service { streaming with duplex } item still
      rw [handled] at well
      cases well
  | case5 streaming item duplex next after handled less ih =>
    rw [next] at proceeds
    cases proceeds with
    | item still written limit same =>
      obtain ⟨_, well, flowing, items, serves⟩ :=
        handle_of_flows service { streaming with duplex } item still
      rw [handled] at well
      cases well
      obtain ⟨last, ran, complete⟩ := ih flowing
        (Frame.Duplex.proceeds_next (Served.sink service) after.served flowing)
      refine ⟨last, ran, ?_⟩
      rw [← complete, outlook, outlook, ← same, items, serves, served, served, written]

end Streaming

/-! ## Both together -/

/-- However a line cuts and delays its bytes, polling a station gives the replies and the state that
handling all bytes at once does; and so does serving a stream of them. -/
theorem serve_segments (service : RegisterService σ) (node : Node) (registers : σ)
    (bytes : List UInt8) :
    let whole := ({ node, registers, buffer := bytes } : Station σ).settle service id
    let replies := (whole.1.filterMap Received.reply?).flatten
    (∀ line : Line Script, line.Carries Fault.Kind.isGentle bytes →
      ∃ after, PollsOut service { station := { node, registers }, line } after ∧
        after.station = { whole.2 with buffer := [] } ∧
        after.line.written = line.written ++ replies) ∧
    ∀ line : Line Script, line.Carries (fun _ => false) bytes →
      ∃ after, (Streaming.ofLine node registers line).run service = (.closed, after) ∧
        after.duplex.line.written = line.written ++ replies ∧
        after.registers = whole.2.registers ∧ after.node.id = whole.2.node.id ∧
        after.node.tunnels = whole.2.node.tunnels ∧ after.node.stats = whole.2.node.stats ∧
        after.node.unknown.toList =
          (whole.2.node.unknown.toList ++ whole.2.buffer).take whole.2.node.unknown.capacity := by
  intro whole replies
  -- Bytes to come through the line or the stream are as good as bytes in the buffer.
  have moved : ∀ sent, ({ node, registers } : Station σ).outlook service sent bytes =
      (whole.2.served (sent ++ replies), whole.2.buffer) := by
    intro sent
    have complete := (Station.outlook_settle service sent
      ({ node, registers, buffer := bytes } : Station σ)).1
    rw [← complete, Station.outlook, Station.outlook, List.append_nil]
    rfl
  constructor
  · intro line carries
    obtain ⟨after, rest, polls, same, lastPhase, empty⟩ :=
      Linked.pollsOut_of_carries service { station := { node, registers }, line } carries
    have equal := same.symm.trans (moved line.written)
    rw [Prod.mk.injEq] at equal
    obtain ⟨served, left⟩ := equal
    have written : after.line.written = line.written ++ replies := congrArg Served.sent served
    rw [written] at served
    have phase := (Station.outlook_settle service line.written
      ({ node, registers, buffer := bytes } : Station σ)).2
    have station : after.station = { whole.2 with buffer := [] } := by
      refine Station.ext_served after.station { whole.2 with buffer := [] } served ?_ empty
      rw [lastPhase, left]
      exact phase.symm
    exact ⟨after, polls, station, written⟩
  · intro line carries
    have flows : (Streaming.ofLine node registers line).duplex.Flows bytes :=
      ⟨carries, rfl, rfl, nofun⟩
    obtain ⟨after, ran, same⟩ := Streaming.run_of_flows service flows
    have concluded : (Served.sink service).conclude
        (whole.2.served (line.written ++ replies), whole.2.buffer) = after.served := by
      rw [← same, ← moved line.written]
      rfl
    refine ⟨after, ran, ?_, ?_, ?_, ?_, ?_, ?_⟩
    · exact (congrArg Served.sent concluded).symm
    · exact (congrArg Served.registers concluded).symm
    · exact (congrArg (·.node.id) concluded).symm
    · exact (congrArg (·.node.tunnels) concluded).symm
    · exact (congrArg (·.node.stats) concluded).symm
    · have captured := congrArg (·.node.unknown.toList) concluded
      rw [← Ring.toList_push]
      exact captured.symm

/-- A request that a pause cuts into two pieces is served like the request in one piece, and like
the pieces on a stream. -/
theorem serve_segments_of_pause :
    let service : RegisterService Unit :=
      { read := fun state _ _ => (.ok (.int8 1), state)
        write := fun state _ _ => (.ok (), state) }
    let station : Station Unit := { node := .ofConfig {} .default, registers := () }
    let front : List UInt8 := [0x54, 0xab, 0x82, 1]
    let back : List UInt8 := [2, 0x18, 3, 0xf1, 0xd5]
    let whole : Line Script := { peer := {}, arrivals := [.data (front ++ back), .closed] }
    let paused : Line Script :=
      { peer := {}, arrivals := [.data front, .fault .timedOut, .data back, .closed] }
    let pieces : Line Script := { peer := {}, arrivals := [.data front, .data back, .closed] }
    ∃ first second third, PollsOut service { station, line := whole } first ∧
      PollsOut service { station, line := paused } second ∧
      (Streaming.ofLine station.node () pieces).run service = (.closed, third) ∧
      second.station = first.station ∧ second.line.written = first.line.written ∧
      third.duplex.line.written = first.line.written := by
  intro service station front back whole paused pieces
  have wholeCarries : whole.Carries Fault.Kind.isGentle (front ++ back) :=
    ⟨.data (by decide) .closed, nofun, rfl, rfl⟩
  have pausedCarries : paused.Carries Fault.Kind.isGentle (front ++ back) :=
    ⟨.data (by decide) (.fault rfl (.data (by decide) .closed)), nofun, rfl, rfl⟩
  have piecesCarries : pieces.Carries (fun _ => false) (front ++ back) :=
    ⟨.data (by decide) (.data (by decide) .closed), nofun, rfl, rfl⟩
  obtain ⟨polling, streaming⟩ := serve_segments service station.node () (front ++ back)
  obtain ⟨first, firstPolls, firstStation, firstWritten⟩ := polling whole wholeCarries
  obtain ⟨second, secondPolls, secondStation, secondWritten⟩ := polling paused pausedCarries
  obtain ⟨third, ran, thirdWritten, _⟩ := streaming pieces piecesCarries
  exact ⟨first, second, third, firstPolls, secondPolls, ran,
    secondStation.trans firstStation.symm, secondWritten.trans firstWritten.symm,
    thirdWritten.trans firstWritten.symm⟩

end Multidrop
