import Multidrop.Command.Basic
import Multidrop.Command.Output
import Multidrop.Master.Basic
import Multidrop.Node.Linked
import Multidrop.Register
import Multidrop.Storage

/-!
# Carrying out orders

What becomes of an order: a node is set up and served, or a line to one is opened and requests are
exchanged over it.
-/
namespace Multidrop.Command

/-! ## Being a node

The node that a serve order sets up, and what it does with tunnel bytes while it serves. -/

/-- Send what the application can read on one channel back, unless something is still waiting to
be fetched on it. -/
def echoChannel (chunk : Nat) (tunnels : Tunnels) (channel : UInt32) : Tunnels :=
  match tunnels.lookup channel with
  | none => tunnels
  | some handle =>
    if 0 < tunnels.pending handle then tunnels
    else
      match tunnels.read handle chunk with
      | (.error _, tunnels) => tunnels
      | (.ok bytes, tunnels) => (tunnels.writeAll handle bytes).2

/-- Send what the application can read on each channel back. -/
def echoTunnels (node : Node) : Node :=
  let chunk := max 1 (min node.options.bufferSize 256)
  { node with tunnels := node.tunnels.channels.foldl (echoChannel chunk) node.tunnels }

namespace ServeOrder

/-- Add defined registers to a bank. -/
def defineAll (insert : Register → Value → Bank → Bank) (definitions : List String)
    (bank : Bank) : Except Failure Bank :=
  definitions.foldlM (fun bank text => do
    let (register, value) ← parseDefinition text
    .ok (insert register value bank)) bank

/-- The path of the socket to listen on, if it is one. -/
def socket? (order : ServeOrder) : Option String :=
  match parseEndpoint order.endpoint with
  | .ok (.unix path) => some path
  | .ok (.tcp _) | .error _ => none

/-- The registers of the node. -/
def bank (order : ServeOrder) : Except Failure Bank := do
  defineAll .defineReadOnly order.readOnly (← defineAll .define order.writable .empty)

/-- The limits of the node. -/
def options (order : ServeOrder) : NodeOptions :=
  { bufferSize := order.bufferSize, maxTunnels := order.tunnels }

/-- The node, with the id it is to take, and the folder afterwards. An id that is given is kept in
the configuration file, if there is one. -/
def setUp (folder : Folder) (order : ServeOrder) : Except Failure Node × Folder :=
  let store := order.config.map (ConfigFile.mk folder)
  let (made, store) : Except NodeError Node × Option ConfigFile :=
    match store with
    | none => (Node.new order.options, none)
    | some file =>
      let (made, file) := Node.ofStore order.options file
      (made, some file)
  match made, order.id with
  | .error error, _ => (.error (.ofNode "server setup failed" error), folder)
  | .ok node, none => (.ok node, folder)
  | .ok node, some id =>
    let (result, store, node) := node.setId id store
    let folder := store.elim folder ConfigFile.folder
    match result with
    | .error error => (.error (.ofNode "invalid node id" error), folder)
    | .ok () => (.ok node, folder)

/-- Whether the endpoint can be listened on. A socket may stand where nothing else does. -/
def listen (folder : Folder) : Endpoint → Except TransportError Unit
  | .tcp _ => .ok ()
  | .unix path =>
    let endpoint := (Endpoint.unix path).text
    if Endpoint.pathLimit ≤ path.utf8ByteSize then
      .error (.pathTooLong path path.utf8ByteSize Endpoint.pathLimit)
    else if (folder.entry? path).isSome then
      .error (.bind endpoint ⟨.alreadyExists, some "existing path is not a unix socket"⟩)
    else
      (folder.reachable (folder.steps path)).mapError (.bind endpoint)

/-- The endpoint and the node of an order with its registers, ready to be connected to, and the
folder afterwards. -/
def prepare (folder : Folder) (order : ServeOrder) :
    Except Failure (Endpoint × Attended Bank) × Folder :=
  let checked : Except Failure (Endpoint × Bank) := do
    let endpoint ← parseEndpoint order.endpoint
    match order.statsInterval with
    | some interval => let _ ← parseDuration interval
    | none => .ok ()
    .ok (endpoint, ← order.bank)
  match checked with
  | .error failure => (.error failure, folder)
  | .ok (endpoint, registers) =>
    match order.setUp folder with
    | (.error failure, folder) => (.error failure, folder)
    | (.ok node, folder) =>
      let attended : Attended Bank :=
        { service := Bank.service
          upkeep := fun node => if order.echo then echoTunnels node else node
          station := { node, registers } }
      let ready := (listen folder endpoint).map fun () => (endpoint, attended)
      (ready.mapError (Failure.ofTransport "bind failed"), folder)

end ServeOrder

/-- What a node writes when it stops. -/
def finalOutput (format : OutputFormat) (node : Node) : List UInt8 :=
  statsOutput format node.id node.stats

/-! ## Orders that talk to a node

Each order checks its arguments, opens a line, exchanges requests and replies with the node, and
writes what came of it. The first failure ends it, and nothing is written then. -/

/-- How a line to an endpoint is opened. -/
abbrev Dial (π : Type) := Endpoint → Except TransportError (Line π)

/-- What came of an order: its output or why it failed, and the line if one was opened. -/
structure Report (π : Type) where
  /-- The bytes written, or why there are none. -/
  result : Except Failure (List UInt8)
  /-- The line as the order left it. -/
  line : Option (Line π) := none

namespace Report

variable {π α : Type}

/-- An order that fails before it opens a line. -/
def refuse (failure : Failure) : Report π := { result := .error failure }

/-- An order that ends with what a master did. -/
def conclude (context : String) (write : α → List UInt8)
    (outcome : Except MasterError α × Master π) : Report π where
  result := (outcome.1.map write).mapError (Failure.ofMaster context)
  line := some outcome.2.reader.line

end Report

variable {π : Type}

/-- The retry rule with some attempts after the first. -/
def retriesRule (retries : UInt32) : Retry :=
  .attempts (min (retries.toNat + 1) (Word.bound 32 - 1))

/-- Open a line and become a master on it. A read on the line holds for as long as the master
waits for a reply. -/
def Link.connect (dial : Dial π) (link : Link) : Except Failure (Master π) := do
  let endpoint ← parseEndpoint link.endpoint
  let timeout ← parseDuration link.timeout
  match dial endpoint with
  | .error error => .error (.ofTransport "connect failed" error)
  | .ok line =>
    let line := { line with idle := .silent (max timeout 1) (by omega) }
    .ok (.ofLine line { source := link.source, timeout } (retriesRule link.retries))

/-- Fail if a number of registers from a first one on does not end within the register space. -/
def checkRange (start : Register) (count : Nat) : Except Failure Unit :=
  if Word.bound 32 < start.toNat + count then .error ⟨.usage, "register range overflows"⟩
  else .ok ()

namespace ReadOrder

/-- Check the arguments and open a line. -/
def prepare (dial : Dial π) (order : ReadOrder) : Except Failure (Master π) := do
  if order.count = 0 then .error ⟨.usage, "--count must be at least 1"⟩
  checkRange order.start order.count.toNat
  order.link.connect dial

/-- The rows of values read from consecutive registers. -/
def rows (order : ReadOrder) (values : List Value) : List Row :=
  (Span.mk order.start values.length).registers.zip values

/-- Carry out the order. -/
def run (dial : Dial π) [Peer π] (format : OutputFormat) (order : ReadOrder) : Report π :=
  match order.prepare dial with
  | .error failure => .refuse failure
  | .ok master =>
    .conclude "read failed" (fun values => readOutput format order.link.node (order.rows values))
      (master.readRegisters order.link.node order.start order.count order.kind)

end ReadOrder

namespace WriteOrder

/-- The values to be written. -/
def parseValues (order : WriteOrder) : Except Failure (List Value) :=
  order.values.mapM fun text =>
    match order.kind.parseValue? text.toList with
    | some value => .ok value
    | none => .error ⟨.usage, "invalid " ++ order.kind.name ++ " value: " ++ text⟩

/-- Check the arguments and open a line. -/
def prepare (dial : Dial π) (order : WriteOrder) : Except Failure (List Value × Master π) := do
  let values ← order.parseValues
  checkRange order.start values.length
  .ok (values, ← order.link.connect dial)

/-- Carry out the order. -/
def run (dial : Dial π) [Peer π] (format : OutputFormat) (order : WriteOrder) : Report π :=
  match order.prepare dial with
  | .error failure => .refuse failure
  | .ok (values, master) =>
    .conclude "write failed"
      (fun () => writeOutput format order.link.node order.start values.length)
      (master.writeRegisters order.link.node order.start values)

end WriteOrder

namespace TunnelOrder

/-- Data in pieces of at most a positive length. The last piece may be empty, and no data at all
is one empty piece. -/
def pieces (room : Nat) (positive : 0 < room) (data : List UInt8) : List (List UInt8) :=
  if data.length ≤ room then [data] else data.take room :: pieces room positive (data.drop room)
termination_by data.length
decreasing_by
  simp only [List.length_drop]
  omega

/-- Poll with each piece in turn, and collect what the node returns. -/
def sendAll [Peer π] (node : UInt8) (channel : UInt32) (pieces : List (List UInt8))
    (received : List UInt8) (master : Master π) : Except MasterError (List UInt8) × Master π :=
  match pieces with
  | [] => (.ok received, master)
  | piece :: rest =>
    match master.pollTunnel node channel piece with
    | (.error error, master) => (.error error, master)
    | (.ok bytes, master) => sendAll node channel rest (received ++ bytes) master

/-- Ask for more a number of times, and collect what the node returns. -/
def askAgain [Peer π] (node : UInt8) (channel : UInt32) (polls : Nat) (received : List UInt8)
    (master : Master π) : Except MasterError (List UInt8) × Master π :=
  match polls with
  | 0 => (.ok received, master)
  | left + 1 =>
    match master.pollTunnel node channel [] with
    | (.error error, master) => (.error error, master)
    | (.ok bytes, master) => askAgain node channel left (received ++ bytes) master

/-- The room for data in one poll: a payload less what a tunnel subframe needs beside its data. -/
def room (options : MasterOptions) : Nat := max (options.bufferSize - 8) 1

/-- Send data piece by piece and ask for more afterwards. -/
def exchange [Peer π] (node : UInt8) (channel : UInt32) (data : List UInt8) (polls : Nat)
    (master : Master π) : Except MasterError (List UInt8) × Master π :=
  let pieces := pieces (room master.options) (by unfold room; omega) data
  match sendAll node channel pieces [] master with
  | (.error error, master) => (.error error, master)
  | (.ok received, master) => askAgain node channel polls received master

/-- The bytes to be sent. -/
def data (folder : Folder) (order : TunnelOrder) : Except Failure (List UInt8) :=
  match order.sending with
  | .nothing => .ok []
  | .text data => .ok data.toUTF8.toList
  | .file path => (folder.read path).mapError (Failure.ofFault ("failed reading " ++ path))

/-- Check the arguments and open a line. -/
def prepare (dial : Dial π) (folder : Folder) (order : TunnelOrder) :
    Except Failure (List UInt8 × Master π) := do
  let _ ← parseDuration order.interval
  let data ← order.data folder
  .ok (data, ← order.link.connect dial)

/-- Carry out the order. -/
def run (dial : Dial π) [Peer π] (folder : Folder) (format : OutputFormat) (order : TunnelOrder) :
    Report π :=
  match order.prepare dial folder with
  | .error failure => .refuse failure
  | .ok (data, master) =>
    .conclude "tunnel poll failed" (tunnelOutput format order.link.node order.channel)
      (exchange order.link.node order.channel data order.polls.toNat master)

end TunnelOrder

end Multidrop.Command
