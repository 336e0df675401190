import Flod.Ipc.Link

/-! Connections nobody reads. Only the normal exit of the receive loop closes `conn`, so
an exception sends the receiver back to `accept` with the connection still open, and
the sender, whose writes go on succeeding, never reconnects. -/

namespace Flod.Ipc
open Flod.Net Flod.Lib

/-- The events in which something raises between `accept` returning and `conn.close()`. -/
def LinkEvent.raises : LinkEvent → Bool
  | .accept .raises => true
  | .recvRaises => true
  | .handle raises => raises
  | _ => false

/-- While the receiver waits in `accept`, nothing it accepted is open. -/
def LinkState.Attended (s : LinkState) : Prop := s.reader = .accepting → s.held = none

/-- A send that returned true wrote into a connection waiting to be accepted, or the one
being received. -/
def SendReachesReader (o : LinkOutput) (s : LinkState) : Prop :=
  o.delivered = true → ∃ id, s.stream = some id ∧
    ((∃ c ∈ s.backlog, c.id = id) ∨
      ∃ c data, s.held = some c ∧ c.id = id ∧ s.reader = .receiving data)

/-- Receiving is always from a connection. -/
def LinkState.Reads (s : LinkState) : Prop := ∀ data, s.reader = .receiving data → s.held.isSome

variable {s s' : LinkState}

theorem ensureConnected_frame (s : LinkState) (connects : Bool) :
    (s.ensureConnected connects).held = s.held ∧ (s.ensureConnected connects).reader = s.reader := by
  unfold LinkState.ensureConnected
  cases s.stream with
  | some id => exact ⟨rfl, rfl⟩
  | none => cases connects <;> exact ⟨rfl, rfl⟩

theorem write_frame (s : LinkState) (id : Nat) (bytes : List Byte) :
    (s.write id bytes).held.isSome = s.held.isSome := by
  simp [LinkState.write]

theorem write_open {id : Nat} (bytes : List Byte)
    (live : ∃ c ∈ s.openConnections, c.id = id) :
    ∃ c ∈ (s.write id bytes).openConnections, c.id = id := by
  obtain ⟨c, member, rfl⟩ := live
  refine ⟨c.push c.id bytes, ?_, push_id _ _ _⟩
  simp only [LinkState.openConnections, List.mem_append, Option.mem_toList] at member
  rw [LinkState.openConnections, List.mem_append, Option.mem_toList]
  rcases member with held | waiting
  · exact Or.inl (Option.mem_map_of_mem _ held)
  · exact Or.inr (List.mem_map_of_mem waiting)

/-- A send moves neither the reader nor what it holds, and returns true only into an open
connection. -/
theorem send_spec (s : LinkState) (fv : FeatureVector (BitVec 64)) (connects : Bool)
    (failsAfter : Option (Fin featureVectorBytes)) :
    (s.send fv connects failsAfter).1.reader = s.reader ∧
      (s.send fv connects failsAfter).1.held.isSome = s.held.isSome ∧
      ((s.send fv connects failsAfter).2 = true → ∃ id,
        (s.send fv connects failsAfter).1.stream = some id ∧
          ∃ c ∈ (s.send fv connects failsAfter).1.openConnections, c.id = id) := by
  obtain ⟨held, reader⟩ := ensureConnected_frame s connects
  rw [← held, ← reader]
  unfold LinkState.send
  generalize s.ensureConnected connects = ready
  cases stream : ready.stream with
  | none => simp [stream]
  | some id =>
    by_cases live : ready.openConnections.any (fun c => decide (c.id = id)) = true
    · cases failsAfter with
      | none =>
        simp only [stream, live, if_true]
        refine ⟨rfl, write_frame ready id _, fun _ => ⟨id, stream, write_open _ ?_⟩⟩
        simpa using List.any_eq_true.mp live
      | some count =>
        simp only [stream, live, if_true]
        exact ⟨rfl, write_frame ready id _, by simp⟩
    · simp [stream, live]

theorem send_attended {fv : FeatureVector (BitVec 64)} {connects : Bool}
    {failsAfter : Option (Fin featureVectorBytes)} (attended : s.Attended) (reads : s.Reads) :
    (s.send fv connects failsAfter).1.Attended ∧ (s.send fv connects failsAfter).1.Reads ∧
      SendReachesReader (.sent fv (s.send fv connects failsAfter).2) (s.send fv connects failsAfter).1 := by
  obtain ⟨reader, held, reaches⟩ := send_spec s fv connects failsAfter
  generalize s.send fv connects failsAfter = result at *
  have attended' : result.1.Attended := by
    intro waits
    rw [reader] at waits
    rw [← Option.isNone_iff_eq_none, ← Option.not_isSome, held, attended waits]
    rfl
  refine ⟨attended', fun data receives => ?_, fun delivered => ?_⟩
  · rw [held]
    exact reads data (reader.symm.trans receives)
  · obtain ⟨id, stream, c, member, named⟩ := reaches delivered
    refine ⟨id, stream, ?_⟩
    rw [LinkState.openConnections, List.mem_append, Option.mem_toList] at member
    rcases member with here | waiting
    · cases receives : result.1.reader with
      | accepting =>
        rw [attended' receives] at here
        cases here
      | receiving data => exact Or.inr ⟨c, data, here, named, rfl⟩
    · exact Or.inl ⟨c, waiting, named⟩

/-- Where a step of the receiver leaves it: receiving, waiting with nothing open, or
waiting after something raised with the connection still open. -/
inductive LeavesReader (e : LinkEvent) (s' : LinkState) : Prop where
  | receives (data : List Byte) (reader : s'.reader = .receiving data) (held : s'.held.isSome)
      (quiet : e.raises = false)
  | waits (reader : s'.reader = .accepting) (held : s'.held = none) (quiet : e.raises = false)
  | abandons (reader : s'.reader = .accepting) (held : s'.held.isSome) (raised : e.raises = true)

theorem accept_leaves {peer : PeerCheck} (accepted : s.accept peer = some s') :
    LeavesReader (.accept peer) s' := by
  unfold LinkState.accept at accepted
  split at accepted
  · next c rest waiting _ =>
    cases peer with
    | expected =>
      cases accepted
      exact .receives [] rfl rfl rfl
    | rejected =>
      cases accepted
      exact .waits waiting rfl rfl
    | raises =>
      cases accepted
      exact .abandons waiting rfl rfl
  · cases accepted

theorem recv_leaves {count : Nat} (received : s.recv count = some s') :
    LeavesReader (.recv count) s' := by
  unfold LinkState.recv at received
  split at received
  · rw [Option.ite_none_right_eq_some, Option.some.injEq] at received
    obtain ⟨-, rfl⟩ := received
    exact .receives _ rfl rfl rfl
  · cases received

theorem endOfStream_leaves (ended : s.endOfStream = some s') : LeavesReader .endOfStream s' := by
  unfold LinkState.endOfStream at ended
  split at ended
  · rw [Option.ite_none_right_eq_some, Option.some.injEq] at ended
    obtain ⟨-, rfl⟩ := ended
    exact .waits rfl rfl rfl
  · cases ended

theorem handle_leaves {raises : Bool} {frame : List Byte} (reads : s.Reads)
    (handled : s.handle raises = some (s', frame)) : LeavesReader (.handle raises) s' := by
  unfold LinkState.handle at handled
  split at handled
  · next data receiving =>
    rw [Option.ite_none_right_eq_some, Option.some.injEq, Prod.mk.injEq] at handled
    obtain ⟨-, left, -⟩ := handled
    subst left
    cases raises with
    | false => exact .receives [] rfl (reads data receiving) rfl
    | true => exact .abandons rfl (reads data receiving) rfl
  · cases handled

theorem receiver_leaves {e : LinkEvent} {o : LinkOutput} (reads : s.Reads) (receives : e.sends = none)
    (stepped : linkStep s e = some (s', o)) : LeavesReader e s' := by
  cases e with
  | send fv connects failsAfter => cases receives
  | accept peer =>
    obtain ⟨_, accepted, pair⟩ := Option.map_eq_some_iff.mp stepped
    cases pair
    exact accept_leaves accepted
  | recv count =>
    obtain ⟨_, received, pair⟩ := Option.map_eq_some_iff.mp stepped
    cases pair
    exact recv_leaves received
  | recvRaises =>
    simp only [linkStep] at stepped
    split at stepped
    · next data receiving =>
      cases stepped
      exact .abandons rfl (reads data receiving) rfl
    · cases stepped
  | endOfStream =>
    obtain ⟨_, ended, pair⟩ := Option.map_eq_some_iff.mp stepped
    cases pair
    exact endOfStream_leaves ended
  | handle raises =>
    obtain ⟨_, handled, pair⟩ := Option.map_eq_some_iff.mp stepped
    cases pair
    exact handle_leaves reads handled

theorem LeavesReader.reads {e : LinkEvent} (leaves : LeavesReader e s') : s'.Reads := by
  intro data receiving
  cases leaves with
  | receives _ _ held _ => exact held
  | waits waiting _ _ => rw [waiting] at receiving; cases receiving
  | abandons waiting _ _ => rw [waiting] at receiving; cases receiving

theorem LeavesReader.attended_iff {e : LinkEvent} (leaves : LeavesReader e s') :
    s'.Attended ↔ e.raises = false := by
  cases leaves with
  | receives data receiving _ quiet =>
    exact ⟨fun _ => quiet, fun _ waiting => by rw [receiving] at waiting; cases waiting⟩
  | waits _ none quiet => exact ⟨fun _ => quiet, fun _ _ => none⟩
  | abandons waiting held raised =>
    refine ⟨fun attended => ?_, fun quiet => by rw [raised] at quiet; cases quiet⟩
    rw [attended waiting] at held
    cases held

/-- One step leaves every accepted connection attended exactly if nothing in it raises. -/
theorem linkStep_attended_iff {e : LinkEvent} {o : LinkOutput} (attended : s.Attended) (reads : s.Reads)
    (stepped : linkStep s e = some (s', o)) :
    s'.Reads ∧ ((s'.Attended ∧ SendReachesReader o s') ↔ e.raises = false) := by
  cases sends : e.sends with
  | some fv =>
    cases e with
    | send fv connects failsAfter =>
      cases stepped
      obtain ⟨attended', reads', reaches⟩ := send_attended attended reads
      exact ⟨reads', fun _ => rfl, fun _ => ⟨attended', reaches⟩⟩
    | accept | recv | recvRaises | endOfStream | handle => cases sends
  | none =>
    have leaves := receiver_leaves reads sends stepped
    have silent : SendReachesReader o s' := by
      intro delivered
      have counted := linkStep_sends stepped
      rw [sends] at counted
      cases o <;> simp [LinkOutput.sends, LinkOutput.delivered] at counted delivered
    exact ⟨leaves.reads, by rw [← leaves.attended_iff]; exact and_iff_left silent⟩

/-- In every run of the link: at each step, no connection is open while the receiver waits
in `accept` and every send that returned true reaches a connection that is read, exactly
if no step raises. -/
theorem attended_iff_nothing_raises (es : List LinkEvent) :
    Always linkStep (fun _ _ o s' => s'.Attended ∧ SendReachesReader o s') LinkState.start es ↔
      Always linkStep (fun _ e _ _ => e.raises = false) LinkState.start es := by
  refine always_iff (I := fun s => s.Attended ∧ s.Reads) ?_ ?_ es _
    ⟨fun _ => rfl, by simp [LinkState.Reads, LinkState.start]⟩
  · intro s e s' o inv stepped quiet
    obtain ⟨reads, same⟩ := linkStep_attended_iff inv.1 inv.2 stepped
    exact ⟨(same.mpr quiet).1, reads⟩
  · intro s e s' o inv stepped
    exact (linkStep_attended_iff inv.1 inv.2 stepped).2

/-- Handling the first window raises, and the second vector is sent after it. -/
def sendAfterException : List LinkEvent :=
  [.send (uniformVector 1) true none, .accept .expected, .recv featureVectorBytes, .handle true,
    .send (uniformVector 2) true none]

/-- That send returns true into the connection the receiver has left behind. -/
theorem sendAfterException_unread :
    ∃ final outs, run linkStep LinkState.start sendAfterException = some (final, outs) ∧
      final.reader = .accepting ∧ (∃ c ∈ final.held, final.stream = some c.id) ∧
      ∃ o ∈ outs.getLast?, o.delivered = true := by
  decide +kernel

end Flod.Ipc
