import Multidrop.Command.Client
import Multidrop.Proofs.Command.Echo
import Multidrop.Proofs.Master.Resting

/-!
# Bytes that go through a tunnel and come back

A tunnel order sends its data in pieces, one poll after another, and polls without data afterwards.
At a node whose application sends tunnel bytes back, each poll returns the piece of the poll before
it (`rounds_of_echoing`). The first poll returns nothing, and one poll without data is enough to
fetch the last piece, so all data comes back, in order and once (`exchange_of_echoing`).
-/
namespace Multidrop

variable {π σ : Type} {station : π → Attended σ} {far : Nat} {master : Master π}
  {service : RegisterService σ} {registers : σ} {node : Node} {channel : UInt32}
  {waiting data : List UInt8}

/-! ## One poll -/

/-- The payload of a poll is the poll and nothing else. -/
theorem Request.polls_toPoll (short : data.length < Word.bound 32) :
    Dispatch.Polls (Request.toPoll channel data).payload channel data := by
  have fits : (Subframe.clientToServer channel data).Fits := short
  have whole := Subframe.Contents.ofPayload_flatMap fun subframe there =>
    (List.mem_singleton.1 there) ▸ fits
  rw [List.flatMap_singleton] at whole
  exact whole

/-- The answer to a poll that holds bytes of its channel is checked and has these bytes. -/
theorem Request.validate_toPoll {sent : List UInt8} (stats : Stats)
    (short : (Subframe.serverToClient channel sent).encode.length < Word.bound 32) :
    ∃ reply, (Request.toPoll channel data).validate
        (Subframe.serverToClient channel sent).encode stats = (.ok reply, stats) ∧
      reply.tunnelOf channel = .ok sent := by
  have parsed := Node.parse_answered short
  have found : ({ items := [.tunnel channel sent] } : Reply).tunnelData? channel = some sent := by
    simp [Reply.tunnelData?]
  have register : (Request.toPoll channel data).missingRegister? ⟨[.tunnel channel sent]⟩ = none :=
    rfl
  have tunnel : (Request.toPoll channel data).missingTunnel? ⟨[.tunnel channel sent]⟩ = none := by
    simp [Request.missingTunnel?, Request.toPoll, Request.pollTunnel, found]
  refine ⟨_, ?_, by rw [Reply.tunnelOf, found]⟩
  rw [Request.validate, parsed]
  dsimp only
  rw [register]
  dsimp only
  rw [tunnel]

/-- A poll returns what waits at a node whose application sends tunnel bytes back, and then its own
bytes wait there. -/
theorem Master.pollTunnel_of_echoing [Peer π] (relays : Attended.Relays station)
    (resting : master.Resting station far 256)
    (serves : station master.reader.line.peer =
      { service, upkeep := Command.echoTunnels, station := { node, registers } })
    (echoing : node.Echoing channel waiting) (few : waiting.length ≤ 248)
    (short : data.length ≤ 248) :
    ∃ (answer : Frame) (after : Master π) (last : Node),
      (master.request node.id (Request.toPoll channel data).payload).1 = .ok answer ∧
      answer.payload = (Subframe.serverToClient channel waiting).encode ∧
      master.pollTunnel node.id channel data = (.ok waiting, after) ∧
      after.Resting station far 256 ∧
      station after.reader.line.peer =
        { service, upkeep := Command.echoTunnels, station := { node := last, registers } } ∧
      last.id = node.id ∧ last.Echoing channel data := by
  have framed : ∀ {size : Nat}, size ≤ 256 → size < Word.bound 32 := fun within =>
    Nat.lt_of_le_of_lt within (by decide)
  have limit : node.options.bufferSize = far := by
    rw [← resting.facing.attentive.bufferSize, serves]
  have fits : (Request.toPoll channel data).payload.length ≤ 256 :=
    (Subframe.length_tunnel_le short channel).1
  have within := (Subframe.length_tunnel_le few channel).2
  have polls : Dispatch.Polls (master.frameOf node.id (Request.toPoll channel data).payload
      true).payload channel data := Request.polls_toPoll (framed (Nat.le_trans short (by decide)))
  obtain ⟨bytes, last, replied, encoded, served, same, after⟩ :=
    Attended.served_of_echoing service registers echoing few short rfl polls
  have own : (station master.reader.line.peer).station.node.id = node.id := by rw [serves]
  rw [← serves] at replied served
  have request := Master.request_of_resting relays resting own echoing.id fits
    (Nat.le_trans fits (limit ▸ echoing.bufferSize)) (framed fits) replied
    (by rw [serves]; exact encoded) within
  obtain ⟨reader, done, rested, peer⟩ := request
  obtain ⟨reply, valid, returned⟩ :=
    @Request.validate_toPoll channel data waiting master.stats (framed within)
  refine ⟨_, { master with reader, pending := none, stale := false }, last, by rw [done], rfl, ?_,
    rested, peer.trans served, same, after⟩
  rw [Master.pollTunnel, Master.query, done]
  dsimp only [Node.replyFrame]
  rw [valid]
  exact congrArg (·, _) returned

namespace Command.TunnelOrder

/-! ## Pieces -/

/-- The pieces are the data, in order. -/
theorem flatten_pieces (room : Nat) (positive : 0 < room) (data : List UInt8) :
    (pieces room positive data).flatten = data := by
  fun_induction pieces room positive data with
  | case1 data fits => rw [List.flatten_cons, List.flatten_nil, List.append_nil]
  | case2 data long hypothesis =>
    rw [List.flatten_cons, hypothesis, List.take_append_drop]

/-- No piece is longer than the room for it. -/
theorem length_le_of_mem_pieces {room : Nat} {positive : 0 < room} {data : List UInt8} :
    ∀ piece ∈ pieces room positive data, piece.length ≤ room := by
  fun_induction pieces room positive data with
  | case1 data fits => simpa using fits
  | case2 data long hypothesis =>
    refine List.forall_mem_cons.2 ⟨?_, hypothesis⟩
    rw [List.length_take]
    exact Nat.min_le_left _ _

/-- There is room for something in every poll. -/
theorem room_pos (options : MasterOptions) : 0 < room options := by
  unfold room
  omega

/-! ## The polls of an order -/

variable [Peer π]

/-- One poll of an order. -/
structure Round where
  /-- The bytes that it brings to the node. -/
  data : List UInt8
  /-- The frame that answers it. -/
  answer : Frame
  /-- The bytes that it returns. -/
  returned : List UInt8

/-- Polls that a master makes one after another. -/
inductive Rounds (node : UInt8) (channel : UInt32) : Master π → List Round → Master π → Prop
  /-- No poll. -/
  | none (master : Master π) : Rounds node channel master [] master
  /-- A poll that is answered, and others. -/
  | poll {master between after : Master π} {round : Round} {rounds : List Round}
    (answered : (master.request node (Request.toPoll channel round.data).payload).1 =
      .ok round.answer)
    (polled : master.pollTunnel node channel round.data = (.ok round.returned, between))
    (later : Rounds node channel between rounds after) :
    Rounds node channel master (round :: rounds) after

/-- Sending pieces one after another collects what the polls return. -/
theorem sendAll_of_rounds {id : UInt8} {rounds : List Round} {after : Master π}
    (run : Rounds id channel master rounds after) (received : List UInt8) :
    sendAll id channel (rounds.map Round.data) received master =
      (.ok (received ++ rounds.flatMap Round.returned), after) := by
  induction run generalizing received with
  | none => rw [List.map_nil, sendAll, List.flatMap_nil, List.append_nil]
  | poll _ polled _ hypothesis =>
    rw [List.map_cons, sendAll, polled, List.flatMap_cons, ← List.append_assoc]
    exact hypothesis _

/-- Sending pieces and then others is sending all of them. -/
theorem sendAll_append (id : UInt8) (pieces others : List (List UInt8)) (received : List UInt8)
    (master : Master π) :
    sendAll id channel (pieces ++ others) received master =
      match sendAll id channel pieces received master with
      | (.error error, between) => (.error error, between)
      | (.ok collected, between) => sendAll id channel others collected between := by
  induction pieces generalizing received master with
  | nil => rfl
  | cons piece pieces hypothesis =>
    rw [List.cons_append, sendAll, sendAll]
    split
    · rfl
    · exact hypothesis _ _

/-- Asking for more is sending pieces without bytes. -/
theorem askAgain_eq (id : UInt8) (polls : Nat) (received : List UInt8) (master : Master π) :
    askAgain id channel polls received master =
      sendAll id channel (List.replicate polls []) received master := by
  induction polls generalizing received master with
  | zero => rfl
  | succ polls hypothesis =>
    rw [askAgain, List.replicate_succ, sendAll]
    split
    · rfl
    · exact hypothesis _ _

/-- An order sends the pieces of its data, and then pieces without bytes. -/
theorem exchange_eq (id : UInt8) (data : List UInt8) (polls : Nat) (master : Master π) :
    exchange id channel data polls master =
      sendAll id channel
        (pieces (room master.options) (room_pos _) data ++ List.replicate polls []) [] master := by
  rw [exchange, sendAll_append]
  generalize sendAll id channel (pieces (room master.options) _ data) [] master = sent
  obtain ⟨error | received, between⟩ := sent
  · rfl
  · exact askAgain_eq id polls received between

/-! ## What comes back -/

/-- Each poll returns what the poll before it brought. -/
theorem rounds_of_echoing (relays : Attended.Relays station) {pieces : List (List UInt8)}
    (resting : master.Resting station far 256)
    (serves : station master.reader.line.peer =
      { service, upkeep := echoTunnels, station := { node, registers } })
    (echoing : node.Echoing channel waiting) (few : waiting.length ≤ 248)
    (short : ∀ piece ∈ pieces, piece.length ≤ 248) :
    ∃ rounds after, Rounds node.id channel master rounds after ∧ rounds.map Round.data = pieces ∧
      rounds.map Round.returned = (waiting :: pieces).dropLast ∧
      ∀ round ∈ rounds, round.answer.payload.length ≤ 256 := by
  induction pieces generalizing master node waiting with
  | nil => exact ⟨[], master, .none master, rfl, rfl, fun _ there => absurd there List.not_mem_nil⟩
  | cons piece pieces hypothesis =>
    obtain ⟨first, short⟩ := List.forall_mem_cons.1 short
    obtain ⟨answer, between, last, answered, payload, polled, rested, serving, same, echoes⟩ :=
      Master.pollTunnel_of_echoing relays resting serves echoing few first
    obtain ⟨rounds, after, run, brought, returned, within⟩ :=
      hypothesis rested serving echoes first short
    rw [same] at run
    refine ⟨⟨piece, answer, waiting⟩ :: rounds, after, .poll answered polled run, ?_, ?_, ?_⟩
    · rw [List.map_cons, brought]
    · rw [List.map_cons, returned]
      rfl
    · refine List.forall_mem_cons.2 ⟨?_, within⟩
      rw [payload]
      exact (Subframe.length_tunnel_le few channel).2

/-- Data of any length that is sent to a new node whose application echoes comes back whole and in
order, in requests and answers of at most 256 bytes. -/
theorem exchange_of_echoing {options : NodeOptions} {config : NodeConfig}
    (relays : Attended.Relays station) (resting : master.Resting station far 256)
    (serves : station master.reader.line.peer =
      { service
        upkeep := echoTunnels
        station := { node := .ofConfig options config, registers } })
    (id : config.id ≤ Frame.maxId) (bufferSize : 256 ≤ options.bufferSize)
    (slots : 1 ≤ options.maxTunnels) (channel : UInt32) (data : List UInt8) {polls : Nat}
    (more : 1 ≤ polls) :
    ∃ rounds after,
      exchange config.id channel data polls master = (.ok data, after) ∧
      Rounds config.id channel master rounds after ∧
      rounds.map Round.data =
        pieces (room master.options) (room_pos _) data ++ List.replicate polls [] ∧
      rounds.flatMap Round.returned = data ∧
      ∀ round ∈ rounds, (Request.toPoll channel round.data).payload.length ≤ 256 ∧
        round.answer.payload.length ≤ 256 := by
  have size : room master.options = 248 := by
    rw [room, resting.options]
    rfl
  have short : ∀ piece ∈ pieces (room master.options) (room_pos _) data ++
      List.replicate polls [], piece.length ≤ 248 := by
    intro piece there
    obtain there | there := List.mem_append.1 there
    · exact size ▸ length_le_of_mem_pieces piece there
    · rw [List.eq_of_mem_replicate there]
      exact Nat.zero_le _
  obtain ⟨rounds, after, run, brought, returned, within⟩ :=
    rounds_of_echoing relays resting serves (Node.echoing_ofConfig id bufferSize slots channel)
      (Nat.zero_le _) short
  -- What the last poll brings, nothing, is all that is not returned.
  have whole : rounds.flatMap Round.returned = data := by
    obtain ⟨count, rfl⟩ := Nat.exists_eq_add_one.2 more
    rw [List.flatMap_def, returned, List.replicate_succ', ← List.append_assoc, ← List.cons_append,
      List.dropLast_concat, List.flatten_cons, List.flatten_append, flatten_pieces,
      List.flatten_replicate_nil, List.nil_append, List.append_nil]
  refine ⟨rounds, after, ?_, run, brought, whole, fun round there => ⟨?_, within round there⟩⟩
  · rw [exchange_eq, ← brought, ← whole]
    exact sendAll_of_rounds run []
  · have member : round.data ∈ rounds.map Round.data := List.mem_map_of_mem there
    rw [brought] at member
    exact (Subframe.length_tunnel_le (short _ member) channel).1

/-- More bytes than a poll has room for come back from a node with a larger limit, on a channel whose
number takes five bytes. -/
theorem exchange_of_echoing_of_two_pieces :
    let options : NodeOptions := { bufferSize := 4096, maxTunnels := 2 }
    let service : RegisterService Unit :=
      { read := fun state _ _ => (.ok (.int8 1), state), write := fun state _ _ => (.ok (), state) }
    let attended : Attended Unit :=
      { service
        upkeep := echoTunnels
        station := { node := .ofConfig options .default, registers := () } }
    let line : Line (Attended Unit) := { peer := attended, idle := .silent 1 (by decide) }
    let data := List.replicate 248 0x54 ++ List.replicate 52 0xab
    (exchange 1 0xffffffff data 1 (.ofLine line {} .never)).1 = .ok data := by
  intro options service attended line data
  have attentive : attended.Attentive 4096 := ⟨fun _ => rfl, rfl, rfl⟩
  have source : ({} : MasterOptions).source ≤ Frame.maxId := by decide
  have resting : (Master.ofLine line {} .never).Resting id 4096 256 :=
    Master.resting_ofLine attentive Nat.one_pos source rfl .never
  obtain ⟨_, _, done, _⟩ :=
    @exchange_of_echoing _ _ id 4096 _ service () _ options .default Attended.relays_id resting rfl
      (by decide) (by decide) (by decide) 0xffffffff data 1 (by decide)
  exact congrArg Prod.fst done

end Command.TunnelOrder

end Multidrop
