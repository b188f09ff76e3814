import Multidrop.Command.Client
import Multidrop.Command.Parse
import Multidrop.Frame.Decoder

/-!
# Sessions

Whole runs of the program: a command by itself, a command against whoever listens at an endpoint,
and a node together with a command that talks to it.
-/
namespace Multidrop.Command

/-- What a run of the program leaves behind. -/
structure Outcome where
  /-- The exit status. -/
  status : Status
  /-- The bytes on standard output. -/
  output : List UInt8 := []
  /-- The text on standard error. -/
  complaint : String := ""
  deriving Repr, DecidableEq

namespace Outcome

/-- A run that fails says why. -/
def ofFailure (failure : Failure) : Outcome where
  status := failure.status
  complaint := "error: " ++ failure.message ++ "\n"

/-- A run with a result. -/
def ofResult : Except Failure (List UInt8) → Outcome
  | .ok output => { status := .success, output }
  | .error failure => ofFailure failure

/-- A run that gives no order. -/
def ofInterruption : Interruption → Outcome
  | .misuse => { status := .misuse, complaint := "error: the arguments are not understood\n" }
  | .version => { status := .success, output := versionOutput false }
  | .help => { status := .success, output := usageOutput }

end Outcome

/-- Who listens in a folder: a far end at the path of a socket. -/
structure Listener (π : Type) where
  /-- The names along the path. -/
  names : List String
  /-- The far end. -/
  peer : π

variable {π : Type}

/-- Something stands at an address, but it does not listen. -/
def deaf : Fault := ⟨.connectionRefused, some "Connection refused (os error 111)"⟩

/-- Why no line to a path is had where nobody listens. -/
def pathFault (folder : Folder) (path : String) : Fault :=
  if Endpoint.pathLimit ≤ path.utf8ByteSize then
    ⟨.other, some "path must be shorter than SUN_LEN"⟩
  else if (folder.entry? path).isSome then deaf
  else
    match folder.reachable (folder.steps path) with
    | .error fault => fault
    | .ok () => .missing

/-- Nobody listens at an endpoint. -/
def refused (endpoint : Endpoint) (folder : Folder) : TransportError :=
  match endpoint with
  | .tcp _ => .connect endpoint.text deaf
  | .unix path => .connect endpoint.text (pathFault folder path)

/-- Open a line to whoever listens. -/
def dial (folder : Folder) (listener : Option (Listener π)) : Dial π := fun endpoint =>
  match endpoint, listener with
  | .unix path, some listener =>
    if folder.steps path = listener.names then .ok { peer := listener.peer }
    else .error (refused endpoint folder)
  | _, _ => .error (refused endpoint folder)

/-- The paths that an order looks at. -/
def Order.paths : Order → List String
  | .serve order => order.config.toList ++ order.socket?.toList
  | .tunnel { sending := .file path, .. } => [path]
  | .read _ | .write _ | .tunnel _ | .version _ => []

/-- Carry out an order that needs no node of its own. -/
def Order.report [Peer π] (dial : Dial π) (folder : Folder) (format : OutputFormat) :
    Order → Report π
  | .read order => order.run dial format
  | .write order => order.run dial format
  | .tunnel order => order.run dial folder format
  | .version extended => { result := .ok (versionOutput extended) }
  | .serve order =>
    let served := (order.prepare folder).1.map fun (_, attended) => attended.station.node
    { result := served.map (finalOutput format) }

/-- Run a command line, and return the far end as the run left it. -/
def talk [Peer π] (folder : Folder) (listener : Option (Listener π)) (arguments : List String) :
    Outcome × Option π :=
  match parse arguments with
  | .error interruption => (.ofInterruption interruption, none)
  | .ok invocation =>
    let report :=
      invocation.order.report (dial folder listener) folder (invocation.format.getD .json)
    (.ofResult report.result, report.line.map Line.peer)

/-- Run a command line where nobody listens. -/
def alone (folder : Folder) (arguments : List String) : Outcome :=
  (talk folder (none : Option (Listener Script)) arguments).1

/-- Run a command line against prepared replies at a socket. Returns the frames that arrived
there. -/
def rehearse (folder : Folder) (names : List String) (replies : List (List UInt8))
    (arguments : List String) : Outcome × List Frame :=
  let (outcome, peer) := talk folder (some ⟨names, ({ replies } : Frame.Playback)⟩) arguments
  (outcome, (peer.map Frame.Playback.heard).getD [])

/-- A node that serves one connection, and the command that makes it. -/
structure Together where
  /-- What the node's run left behind. -/
  node : Outcome
  /-- What the command's run left behind, if there was one. -/
  client : Option Outcome
  /-- The folder afterwards. -/
  folder : Folder

/-- Run a node, and against it a command line if there is one. A node that cannot be set up leaves
the command alone. -/
def together (folder : Folder) (serving : List String) (arguments : Option (List String)) :
    Together :=
  let without (node : Outcome) (folder : Folder) : Together :=
    { node, client := arguments.map (alone folder), folder }
  match parse serving with
  | .error interruption => without (.ofInterruption interruption) folder
  | .ok ⟨.serve order, format⟩ =>
    match order.prepare folder with
    | (.error failure, folder) => without (.ofFailure failure) folder
    | (.ok (endpoint, attended), folder) =>
      let listener : Listener (Attended Bank) := ⟨folder.steps endpoint.address, attended⟩
      let talked := arguments.map (talk folder (some listener))
      let served := ((talked.bind Prod.snd).getD attended).station.node
      { node := .ofResult (.ok (finalOutput (format.getD .json) served))
        client := talked.map Prod.fst
        folder }
  | .ok _ => without (alone folder serving) folder

/-- A program without sockets has no lines. -/
def noLine : Dial Script := fun endpoint => .error (.unsupported endpoint.text)

/-- Run a command line without sockets. What needs no line is done, and a node is set up as far as
that; the folder is returned as it is left. -/
def offline (folder : Folder) (preferred : OutputFormat) (arguments : List String) :
    Outcome × Folder :=
  match parse arguments with
  | .error interruption => (.ofInterruption interruption, folder)
  | .ok ⟨.serve order, _⟩ =>
    match order.prepare folder with
    | (.error failure, folder) => (.ofFailure failure, folder)
    | (.ok (endpoint, _), folder) =>
      (.ofFailure (.ofTransport "bind failed" (.unsupported endpoint.text)), folder)
  | .ok ⟨order, format⟩ =>
    (.ofResult (order.report noLine folder (format.getD preferred)).result, folder)

end Multidrop.Command
