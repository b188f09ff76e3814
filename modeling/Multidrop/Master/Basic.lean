import Multidrop.Frame.Reader
import Multidrop.Frame.Writer
import Multidrop.Master.Options

/-!
# Masters

The asking side of the bus. At most one request is outstanding, and a reply carries nothing that
tells which request it answers: a request that was given up on leaves the master stale, and before
the next one is sent, frames that are still on their way are read and dropped until the line goes
quiet.
-/
namespace Multidrop

/-- A request that awaits its reply. -/
structure Pending where
  /-- The node asked. -/
  destination : UInt8
  /-- When it was asked. -/
  sentAt : Nat
  deriving Repr, DecidableEq

/-- A master on a line. -/
structure Master (π : Type) where
  /-- The line and the bytes received from it. -/
  reader : Frame.Reader π
  /-- Its limits. -/
  options : MasterOptions
  /-- When it repeats a request. -/
  retry : Retry := .never
  /-- The request that awaits its reply. -/
  pending : Option Pending := none
  /-- Whether a reply may still come for a request that was given up on. -/
  stale : Bool := false
  /-- Replies that lacked an answer. -/
  stats : Stats := {}

namespace Master

variable {π : Type}

/-- A master that has sent nothing. -/
def ofLine (line : Line π) (options : MasterOptions) (retry : Retry) : Master π where
  reader := { limit := options.bufferSize, line }
  options := options
  retry := retry

/-- Look at the clock. -/
def look (master : Master π) : Nat × Master π :=
  (master.reader.look.1, { master with reader := master.reader.look.2 })

/-- Write bytes and flush. Only interrupted writes are made again. -/
def transmit [Peer π] (bytes : List UInt8) (master : Master π) :
    Except MasterError Unit × Master π :=
  let (offered, _, line) := master.reader.line.offer (· = .interrupted) bytes
  let fail (fault : Fault) (line : Line π) : Except MasterError Unit × Master π :=
    (.error (.frame (.line fault)), { master with reader := { master.reader with line } })
  match offered with
  | .stalled => fail ⟨.writeZero, some "failed to write whole buffer"⟩ line
  | .failed kind => fail ⟨kind, none⟩ line
  | .complete =>
    match line.flush with
    | (some kind, line) => fail ⟨kind, none⟩ line
    | (none, line) => (.ok (), { master with reader := { master.reader with line } })

/-- Drop what still arrives, until the line goes quiet or ends or the wait for a reply has lasted
from a given time on. -/
def dropLate (since : Nat) (master : Master π) : Except MasterError Unit × Master π :=
  let reader := master.reader.look.2
  if master.options.timeout ≤ master.reader.look.1 - since then (.ok (), { master with reader })
  else
    match h : reader.next with
    | (reading, after) =>
      match heard : reading.heard with
      | .frame _ | .noise =>
        have lt := Frame.Reader.weight_next_lt h (by simp [heard])
        have : after.weight < master.reader.weight := lt
        dropLate since { master with reader := after }
      | .quiet | .closed => (.ok (), { master with reader := after })
      | .broken error => (.error (.frame error), { master with reader := after })
termination_by master.reader.weight

/-- Drop late frames and whatever is buffered. The master is stale no more, even where the line
failed meanwhile. -/
def freshen (master : Master π) : Except MasterError Unit × Master π :=
  let (since, master) := master.look
  let (result, master) := master.dropLate since
  (result, { master with reader := master.reader.discard, stale := false })

/-- Encode a request, write it and remember that it awaits a reply if it asks for one. -/
def post [Peer π] (frame : Frame) (master : Master π) : Except MasterError Unit × Master π :=
  match frame.encode with
  | .error error => (.error (.frame error), master)
  | .ok bytes =>
    match master.transmit bytes with
    | (.error error, master) => (.error error, master)
    | (.ok (), master) =>
      if frame.responseRequested then
        let (now, master) := master.look
        (.ok (), { master with pending := some ⟨frame.destination, now⟩ })
      else (.ok (), master)

/-- Send one frame. A frame that asks for a reply keeps the master from sending another until the
reply has come or has been given up on. -/
def send [Peer π] (destination : UInt8) (payload : List UInt8) (responseRequested : Bool)
    (master : Master π) : Except MasterError Unit × Master π :=
  match master.pending with
  | some pending => (.error (.outstanding pending.destination), master)
  | none =>
    match master.options.check destination payload with
    | .error error => (.error error, master)
    | .ok () =>
      let frame : Frame :=
        { source := master.options.source, responseRequested, destination, payload }
      if master.stale then
        match master.freshen with
        | (.error error, master) => (.error error, master)
        | (.ok (), master) => master.post frame
      else master.post frame

/-- How something heard ends the wait for a reply, if it does. Frames of other nodes and for other
masters are skipped, and so are damaged frames. -/
def verdict? (options : MasterOptions) (destination : UInt8) :
    Frame.Heard → Option (Except MasterError Frame)
  | .frame frame => if options.isReply destination frame then some (.ok frame) else none
  | .noise | .quiet => none
  | .closed => some (.error (.disconnected "end of stream"))
  | .broken error => some (.error (.frame error))

/-- Bound on the readings that a wait can still take: the time that is left and what can still be
read. -/
def patience (pending : Pending) (options : MasterOptions) (reader : Frame.Reader π) : Nat :=
  pending.sentAt + options.timeout - reader.line.clock.now + reader.weight

/-- A wait that goes on has taken time or something that arrived. -/
theorem patience_lt {pending : Pending} {options : MasterOptions} {reader after : Frame.Reader π}
    {reading : Frame.Reading} (h : reader.next = (reading, after))
    (going : verdict? options pending.destination reading.heard = none)
    (early : ¬options.timeout ≤ after.look.1 - pending.sentAt) :
    patience pending options after.look.2 < patience pending options reader := by
  have shown := Frame.Reader.look_fst after
  have passed := Frame.Reader.now_le_look after
  have heard : reading.heard ≠ .closed := by
    intro closed
    simp [closed, verdict?] at going
  simp only [patience, Frame.Reader.weight_look]
  rcases Frame.Reader.weight_next_or_now h heard with lt | ⟨le, lt⟩
  · have progress := (Frame.Reader.next_progress reader).now_le
    rw [h] at progress
    dsimp only at progress
    omega
  · omega

/-- Wait for the reply to a request. The time is looked at whenever reading returns without ending
the wait. -/
def await (pending : Pending) (master : Master π) : Except MasterError Frame × Master π :=
  match h : master.reader.next with
  | (reading, after) =>
    match going : verdict? master.options pending.destination reading.heard with
    | some result => (result, { master with reader := after, pending := none })
    | none =>
      let waiting := { master with reader := after.look.2 }
      if early : ¬master.options.timeout ≤ after.look.1 - pending.sentAt then
        have := patience_lt h going early
        await pending waiting
      else
        (.error (.timeout master.options.timeout),
          { waiting with pending := none, stale := true })
termination_by patience pending master.options master.reader

/-- Wait for the reply to the outstanding request. -/
def receive (master : Master π) : Except MasterError Frame × Master π :=
  match master.pending with
  | none => (.error .nothingOutstanding, master)
  | some pending => master.await pending

/-- Give up on the outstanding request. Its reply, if one still comes, is dropped before the next
request. -/
def cancel (master : Master π) : Master π :=
  if master.pending.isSome then { master with pending := none, stale := true } else master

/-- Send a request and wait for its reply, once. -/
def attempt [Peer π] (destination : UInt8) (payload : List UInt8) (master : Master π) :
    Except MasterError Frame × Master π :=
  match master.send destination payload true with
  | (.error error, master) => (.error error, master)
  | (.ok (), master) => master.receive

/-- Attempt a request from a given attempt on, as often as a retry rule allows. -/
def requestFrom [Peer π] (retry : Retry) (number : Nat) (destination : UInt8)
    (payload : List UInt8) (master : Master π) : Except MasterError Frame × Master π :=
  match master.attempt destination payload with
  | (.ok frame, master) => (.ok frame, master)
  | (.error error, master) =>
    if again : retry.again number error then
      have : number < retry.bound := by
        simp only [Retry.again, Bool.and_eq_true, decide_eq_true_eq] at again
        exact again.1
      requestFrom retry (number + 1) destination payload master
    else (.error error, master)
termination_by retry.bound - number

/-- Send a request and wait for its reply, again and again as the retry rule allows. -/
def request [Peer π] (destination : UInt8) (payload : List UInt8) (master : Master π) :
    Except MasterError Frame × Master π :=
  master.requestFrom master.retry 1 destination payload

/-- Send a composed request and check that the reply answers all of it. -/
def query [Peer π] (destination : UInt8) (request : Request) (master : Master π) :
    Except MasterError Reply × Master π :=
  match master.request destination request.payload with
  | (.error error, master) => (.error error, master)
  | (.ok frame, master) =>
    let (reply, stats) := request.validate frame.payload master.stats
    (reply, { master with stats })

/-- Read consecutive registers in a kind. -/
def readRegisters [Peer π] (destination : UInt8) (start : Register) (count : UInt32)
    (kind : Kind) (master : Master π) : Except MasterError (List Value) × Master π :=
  let request := Request.toRead start count kind
  match master.query destination request with
  | (.error error, master) => (.error error, master)
  | (.ok reply, master) => (request.readRegisters.mapM reply.valueOf, master)

/-- Read one register in a kind. -/
def readRegister [Peer π] (destination : UInt8) (register : Register) (kind : Kind)
    (master : Master π) : Except MasterError Value × Master π :=
  let (values, master) := master.readRegisters destination register 1 kind
  let value := do
    match ← values with
    | value :: _ => .ok value
    | [] => .error (.missingRegister register)
  (value, master)

/-- Write consecutive registers and check that no write was refused. -/
def writeRegisters [Peer π] (destination : UInt8) (start : Register) (values : List Value)
    (master : Master π) : Except MasterError Unit × Master π :=
  let (reply, master) := master.query destination (Request.toWrite start values)
  (do (← reply).confirmWrites, master)

/-- Deliver bytes on a tunnel channel and return what the node had queued. -/
def pollTunnel [Peer π] (destination : UInt8) (channel : UInt32) (data : List UInt8)
    (master : Master π) : Except MasterError (List UInt8) × Master π :=
  let (reply, master) := master.query destination (Request.toPoll channel data)
  (do (← reply).tunnelOf channel, master)

end Master

end Multidrop
