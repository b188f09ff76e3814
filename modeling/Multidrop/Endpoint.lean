import Multidrop.Basic
import Multidrop.Line
import Multidrop.Text

/-!
# Endpoints

Where lines are found, how this is written, and why none could be had there.
-/
namespace Multidrop

/-! ## Faults of transports

Why no line to an endpoint could be had. -/

/-- Why a line could not be opened. -/
inductive TransportError where
  /-- The endpoint could not be listened on. -/
  | bind (endpoint : String) (fault : Fault)
  /-- The endpoint could not be connected to. -/
  | connect (endpoint : String) (fault : Fault)
  /-- A connection could not be accepted. -/
  | accept (fault : Fault)
  /-- An open line failed. -/
  | line (fault : Fault)
  /-- The path of a socket has more bytes than sockets allow. -/
  | pathTooLong (path : String) (size limit : Nat)
  /-- The text names no endpoint. -/
  | invalidEndpoint (text : String)
  /-- Endpoints of this sort are not available. -/
  | unsupported (endpoint : String)
  deriving Repr, DecidableEq

/-- The text of a transport fault. -/
def TransportError.message : TransportError → String
  | .bind endpoint fault => "failed to bind to " ++ endpoint ++ ": " ++ fault.message
  | .connect endpoint fault => "failed to connect to " ++ endpoint ++ ": " ++ fault.message
  | .accept fault => "failed to accept connection: " ++ fault.message
  | .line fault => "transport I/O error: " ++ fault.message
  | .pathTooLong path size limit =>
    s!"socket path too long ({size} bytes, max {limit}): " ++ path
  | .invalidEndpoint text =>
    "invalid endpoint '" ++ text ++ "' (expected unix:/path or tcp:host:port)"
  | .unsupported endpoint => "endpoint " ++ endpoint ++ " is not supported on this platform"

/-! ## Endpoints and their text

Where a bus line is found: at a socket in the file system, or at a host and port. A text without a
known mark in front is a path, unless it looks like an address of some other sort. -/

/-- Where a bus line is found. -/
inductive Endpoint where
  /-- A socket at a path. -/
  | unix (path : String)
  /-- A host and a port. -/
  | tcp (address : String)
  deriving Repr, DecidableEq

namespace Endpoint

/-- The mark of a socket path. -/
def unixMark : List Char := "unix:".toList

/-- How many bytes the path of a socket has to stay below. -/
def pathLimit : Nat := 108

/-- The mark of a host and port. -/
def tcpMark : List Char := "tcp:".toList

/-- Whether a text is a host and a port: some characters, a colon, and a number of 16 bits. -/
def isAddress (text : List Char) : Bool :=
  match Text.splitLast ':' text with
  | none => false
  | some (host, port) => !host.isEmpty && (Text.natural? 10 (Word.bound 16) port).isSome

/-- The endpoint that trimmed text names. -/
def ofTrimmed? (text : List Char) : Option Endpoint :=
  match Text.afterFront? unixMark text with
  | some path => if path.isEmpty then none else some (.unix (String.ofList path))
  | none =>
    match Text.afterFront? tcpMark text with
    | some address => if isAddress address then some (.tcp (String.ofList address)) else none
    | none =>
      if text.isEmpty || Text.contains "://".toList text then none
      else some (.unix (String.ofList text))

/-- The endpoint that text names. Blank characters around it do not count. -/
def parse (text : String) : Except TransportError Endpoint :=
  let trimmed := Text.trim text.toList
  match ofTrimmed? trimmed with
  | some endpoint => .ok endpoint
  | none => .error (.invalidEndpoint (String.ofList trimmed))

/-- The text of an endpoint. -/
def text : Endpoint → String
  | .unix path => "unix:" ++ path
  | .tcp address => "tcp:" ++ address

/-- The sort of line that an endpoint has. -/
def transport : Endpoint → String
  | .unix _ => "unix-domain-socket"
  | .tcp _ => "tcp"

/-- The endpoint without its mark. -/
def address : Endpoint → String
  | .unix path => path
  | .tcp address => address

end Endpoint

end Multidrop
