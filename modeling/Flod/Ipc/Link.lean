import Flod.Ipc.FeatureVector
import Flod.Lib.Run

/-! The socket between the stages: `IpcSocket::send` on one side, the accept and
receive loop of the receiver on the other, and the kernel between them. Every choice
of the kernel (whether a connect or a write succeeds, after how many bytes a write
fails, how many bytes a `recv` returns) is part of the event. -/

namespace Flod.Ipc
open Flod.Net Flod.Lib

/-- A connection with the bytes written to it and not yet read. -/
structure Connection where
  id : Nat
  inFlight : List Byte
  deriving DecidableEq

/-- Blocked in `accept`, or receiving with the bytes of the current frame so far. -/
inductive Reader where
  | accepting
  | receiving (data : List Byte)
  deriving DecidableEq

/-- `backlog` is connected and not yet accepted, oldest first. `held` is what the
receiver's variable `conn` refers to, as long as it is open. -/
structure LinkState where
  stream : Option Nat
  nextId : Nat
  backlog : List Connection
  held : Option Connection
  reader : Reader
  deriving DecidableEq

/-- How the check of the peer's uid ends. -/
inductive PeerCheck where
  | expected
  | rejected
  | raises
  deriving DecidableEq

inductive LinkEvent where
  | send (fv : FeatureVector (BitVec 64)) (connects : Bool) (failsAfter : Option (Fin featureVectorBytes))
  | accept (peer : PeerCheck)
  | recv (count : Nat)
  | recvRaises
  | endOfStream
  | handle (raises : Bool)

/-- What a step shows: a `send` with the value it returned, or the frame a window was
unpacked from. -/
inductive LinkOutput where
  | sent (fv : FeatureVector (BitVec 64)) (ok : Bool)
  | processed (frame : List Byte)
  | silent

def LinkEvent.sends : LinkEvent → Option (FeatureVector (BitVec 64))
  | .send fv _ _ => some fv
  | _ => none

def LinkOutput.sends : LinkOutput → Option (FeatureVector (BitVec 64))
  | .sent fv _ => some fv
  | _ => none

/-- `send` returned true. -/
def LinkOutput.delivered : LinkOutput → Bool
  | .sent _ ok => ok
  | _ => false

def LinkOutput.processes : LinkOutput → Option (List Byte)
  | .processed frame => some frame
  | _ => none

def LinkState.start : LinkState := ⟨none, 0, [], none, .accepting⟩

def Connection.push (id : Nat) (bytes : List Byte) (c : Connection) : Connection :=
  if c.id = id then { c with inFlight := c.inFlight ++ bytes } else c

theorem push_id (id : Nat) (bytes : List Byte) (c : Connection) : (c.push id bytes).id = c.id := by
  unfold Connection.push
  split <;> rfl

namespace LinkState

/-- Connections open on the reader's side, oldest first. -/
def openConnections (s : LinkState) : List Connection := s.held.toList ++ s.backlog

/-- A new connection, at the end of the backlog. -/
def connect (s : LinkState) : LinkState :=
  { s with
    stream := some s.nextId
    nextId := s.nextId + 1
    backlog := s.backlog ++ [⟨s.nextId, []⟩] }

def ensureConnected (s : LinkState) (connects : Bool) : LinkState :=
  match s.stream with
  | some _ => s
  | none => if connects then s.connect else s

def write (s : LinkState) (id : Nat) (bytes : List Byte) : LinkState :=
  { s with
    held := s.held.map (Connection.push id bytes)
    backlog := s.backlog.map (Connection.push id bytes) }

/-- `IpcSocket::send`. A write to a connection the reader closed fails with nothing
written; any failure drops the stream. -/
def send (s : LinkState) (fv : FeatureVector (BitVec 64)) (connects : Bool)
    (failsAfter : Option (Fin featureVectorBytes)) : LinkState × Bool :=
  let ready := s.ensureConnected connects
  match ready.stream with
  | none => (ready, false)
  | some id =>
      if ready.openConnections.any (fun c => c.id = id) then
        match failsAfter with
        | none => (ready.write id fv.toBytes, true)
        | some count => ({ ready.write id (fv.toBytes.take count) with stream := none }, false)
      else ({ ready with stream := none }, false)

/-- Rebinding `conn` closes the connection it held before. An unexpected peer is closed
at once; an exception leaves the new connection open. -/
def accept (s : LinkState) (peer : PeerCheck) : Option LinkState :=
  match s.reader, s.backlog with
  | .accepting, c :: rest =>
      let accepted := { s with held := some c, backlog := rest }
      match peer with
      | .expected => some { accepted with reader := .receiving [] }
      | .rejected => some { accepted with held := none }
      | .raises => some accepted
  | _, _ => none

/-- `recv` returns between one byte and what is asked for and available. -/
def recv (s : LinkState) (count : Nat) : Option LinkState :=
  match s.reader, s.held with
  | .receiving data, some c =>
      if 0 < count ∧ count ≤ featureVectorBytes - data.length ∧ count ≤ c.inFlight.length then
        some { s with
          reader := .receiving (data ++ c.inFlight.take count)
          held := some { c with inFlight := c.inFlight.drop count } }
      else none
  | _, _ => none

/-- The writer is gone and everything is read, mid-frame or not. -/
def endOfStream (s : LinkState) : Option LinkState :=
  match s.reader, s.held with
  | .receiving data, some c =>
      if data.length < featureVectorBytes ∧ c.inFlight = [] ∧ s.stream ≠ some c.id then
        some { s with reader := .accepting, held := none }
      else none
  | _, _ => none

/-- The exception handler logs and goes back to `accept`; only the normal exit of the
loop closes `conn`. -/
def interrupt (s : LinkState) : LinkState := { s with reader := .accepting }

def handle (s : LinkState) (raises : Bool) : Option (LinkState × List Byte) :=
  match s.reader with
  | .receiving data =>
      if data.length = featureVectorBytes then
        some (if raises then s.interrupt else { s with reader := .receiving [] }, data)
      else none
  | .accepting => none

end LinkState

/-- One step of either side. None is an event that cannot happen in the state. -/
def linkStep (s : LinkState) : LinkEvent → Option (LinkState × LinkOutput)
  | .send fv connects failsAfter =>
      let result := s.send fv connects failsAfter
      some (result.1, .sent fv result.2)
  | .accept peer => (s.accept peer).map (fun s' => (s', .silent))
  | .recv count => (s.recv count).map (fun s' => (s', .silent))
  | .recvRaises =>
      match s.reader with
      | .receiving _ => some (s.interrupt, .silent)
      | .accepting => none
  | .endOfStream => s.endOfStream.map (fun s' => (s', .silent))
  | .handle raises => (s.handle raises).map (fun result => (result.1, .processed result.2))

theorem linkStep_sends {s s' : LinkState} {e : LinkEvent} {o : LinkOutput}
    (stepped : linkStep s e = some (s', o)) : o.sends = e.sends := by
  cases e with
  | send fv connects failsAfter => cases stepped; rfl
  | recvRaises =>
    simp only [linkStep] at stepped
    split at stepped <;> cases stepped
    rfl
  | accept | recv | endOfStream | handle =>
    obtain ⟨_, _, pair⟩ := Option.map_eq_some_iff.mp stepped
    cases pair
    rfl

end Flod.Ipc
