import Flod.Ipc.Link
import Flod.Lib.Framing

/-! The link as a lossy channel. Whatever the kernel does with writes, connections and
chunks, what the receiver unpacks is a subsequence of what was sent, frame by frame. -/

namespace Flod.Ipc
open Flod.Net Flod.Lib

/-- The bytes still to be read, connection by connection, in the order they will be. -/
def LinkState.unread (s : LinkState) : List Connection :=
  match s.reader, s.held with
  | .receiving data, some c => { c with inFlight := data ++ c.inFlight } :: s.backlog
  | _, _ => s.backlog

/-- A connection carries whole frames and a cut one at most, which its writer gave up on. -/
def Carries (stream : Option Nat) (c : Connection) (fs : List (FeatureVector (BitVec 64))) : Prop :=
  ∃ tail, Framed FeatureVector.toBytes featureVectorBytes fs tail c.inFlight ∧
    (stream = some c.id → tail = [])

def LinkState.ids (s : LinkState) : List Nat := s.openConnections.map Connection.id

/-- Connections are numbered in the order they are made, and only the newest is written to. -/
structure Numbered (s : LinkState) : Prop where
  increasing : s.ids.Pairwise (· < ·)
  bounded : ∀ id ∈ s.ids, id < s.nextId
  newest : ∀ id, s.stream = some id → id + 1 = s.nextId
  reading : ∀ data, s.reader = .receiving data → s.held.isSome

/-- Everything done, then everything still readable, is a subsequence of what was sent. -/
def InOrder (sent : List (FeatureVector (BitVec 64))) (done : List (List Byte)) (s : LinkState) : Prop :=
  ∃ handled waiting, done = handled.map FeatureVector.toBytes ∧
    List.Forall₂ (Carries s.stream) s.unread waiting ∧ (handled ++ waiting.flatten).Sublist sent

variable {s s' : LinkState} {sent : List (FeatureVector (BitVec 64))} {done : List (List Byte)}

theorem Carries.mono {stream stream' : Option Nat} {c : Connection}
    {fs : List (FeatureVector (BitVec 64))} (carries : Carries stream c fs)
    (gone : stream' = some c.id → stream = some c.id) : Carries stream' c fs := by
  obtain ⟨tail, framed, whole⟩ := carries
  exact ⟨tail, framed, fun same => whole (gone same)⟩

/-- A whole write reaches the newest connection if it is still unread, and no other. -/
theorem carries_push {id : Nat} {conns : List Connection}
    {waiting : List (List (FeatureVector (BitVec 64)))} (fv : FeatureVector (BitVec 64))
    (carried : List.Forall₂ (Carries (some id)) conns waiting)
    (increasing : (conns.map Connection.id).Pairwise (· < ·)) (bounded : ∀ c ∈ conns, c.id ≤ id) :
    ∃ waiting', List.Forall₂ (Carries (some id)) (conns.map (Connection.push id fv.toBytes)) waiting' ∧
      waiting'.flatten.Sublist (waiting.flatten ++ [fv]) := by
  induction carried with
  | nil => exact ⟨[], .nil, by simp⟩
  | @cons c fs rest more carries carried ih =>
    rw [List.map_cons, List.pairwise_cons] at increasing
    by_cases newest : c.id = id
    · have last : rest = [] := by
        refine List.eq_nil_iff_forall_not_mem.mpr fun d member => ?_
        have later := increasing.1 d.id (List.mem_map_of_mem member)
        have earlier := bounded d (List.mem_cons_of_mem c member)
        omega
      subst last
      cases carried
      obtain ⟨tail, framed, whole⟩ := carries
      obtain rfl := whole (by rw [newest])
      refine ⟨[fs ++ [fv]], .cons ⟨[], ?_, fun _ => rfl⟩ .nil, by simp⟩
      simpa [Connection.push, newest] using framed.concat fv
    · obtain ⟨waiting', carried', kept⟩ := ih increasing.2
        (fun d member => bounded d (List.mem_cons_of_mem c member))
      refine ⟨fs :: waiting', .cons ?_ carried', ?_⟩
      · simpa [Connection.push, newest] using carries
      · simpa using kept.append_left fs

/-- A cut write leaves every connection with the frames it had, now without a writer. -/
theorem carries_cut {id : Nat} {conns : List Connection}
    {waiting : List (List (FeatureVector (BitVec 64)))} {part : List Byte}
    (short : part.length < featureVectorBytes)
    (carried : List.Forall₂ (Carries (some id)) conns waiting) :
    List.Forall₂ (Carries none) (conns.map (Connection.push id part)) waiting := by
  rw [List.forall₂_map_left_iff]
  refine carried.imp fun c fs carries => ?_
  by_cases newest : c.id = id
  · obtain ⟨tail, framed, whole⟩ := carries
    obtain rfl := whole (by rw [newest])
    exact ⟨part, by simpa [Connection.push, newest] using framed.cut short, by simp⟩
  · simpa [Connection.push, newest] using carries.mono (by simp)

theorem unread_write (s : LinkState) (id : Nat) (bytes : List Byte) :
    (s.write id bytes).unread = s.unread.map (Connection.push id bytes) := by
  unfold LinkState.unread LinkState.write
  cases s.reader with
  | accepting => rfl
  | receiving data =>
    cases held : s.held with
    | none => simp
    | some c =>
      by_cases newest : c.id = id <;> simp [Connection.push, newest]

theorem unread_ids_sublist (s : LinkState) : (s.unread.map Connection.id).Sublist s.ids := by
  unfold LinkState.unread LinkState.ids LinkState.openConnections
  cases s.reader with
  | accepting => simp
  | receiving data => cases s.held <;> simp

theorem Numbered.unread_bounded (numbered : Numbered s) : ∀ c ∈ s.unread, c.id < s.nextId :=
  fun _ member => numbered.bounded _ ((unread_ids_sublist s).subset (List.mem_map_of_mem member))

theorem Numbered.shrink (numbered : Numbered s) (ids : s'.ids.Sublist s.ids)
    (same : s'.nextId = s.nextId) (stream : ∀ id, s'.stream = some id → s.stream = some id)
    (reading : ∀ data, s'.reader = .receiving data → s'.held.isSome) : Numbered s' where
  increasing := numbered.increasing.sublist ids
  bounded id member := by rw [same]; exact numbered.bounded id (ids.subset member)
  newest id writes := by rw [same]; exact numbered.newest id (stream id writes)
  reading := reading

theorem InOrder.same (inOrder : InOrder sent done s) (unread : s'.unread = s.unread)
    (stream : s'.stream = s.stream) : InOrder sent done s' := by
  rwa [InOrder, unread, stream]

/-- Giving up on the connection to be read next loses frames and reorders none. -/
theorem InOrder.drop {c : Connection} (inOrder : InOrder sent done s)
    (unread : s.unread = c :: s'.unread) (stream : s'.stream = s.stream) : InOrder sent done s' := by
  obtain ⟨handled, waiting, same, carried, kept⟩ := inOrder
  rw [unread, ← stream] at carried
  cases carried with
  | cons _ carried =>
    refine ⟨handled, _, same, carried, .trans ?_ kept⟩
    exact List.Sublist.append_left (by simp) handled

theorem InOrder.more (inOrder : InOrder sent done s) (fv : FeatureVector (BitVec 64)) :
    InOrder (sent ++ [fv]) done s := by
  obtain ⟨handled, waiting, same, carried, kept⟩ := inOrder
  exact ⟨handled, waiting, same, carried, kept.trans (List.sublist_append_left sent [fv])⟩

theorem connect_ids (s : LinkState) : s.connect.ids = s.ids ++ [s.nextId] := by
  simp [LinkState.ids, LinkState.openConnections, LinkState.connect]

theorem unread_connect (s : LinkState) : s.connect.unread = s.unread ++ [⟨s.nextId, []⟩] := by
  unfold LinkState.unread LinkState.connect
  cases s.reader with
  | accepting => rfl
  | receiving data => cases s.held <;> rfl

theorem Numbered.connect (numbered : Numbered s) : Numbered s.connect where
  increasing := by
    rw [connect_ids, List.pairwise_append]
    refine ⟨numbered.increasing, by simp, fun id member next last => ?_⟩
    rw [List.mem_singleton.mp last]
    exact numbered.bounded id member
  bounded id member := by
    rw [connect_ids, List.mem_append, List.mem_singleton] at member
    rcases member with earlier | rfl
    · exact Nat.lt_succ_of_lt (numbered.bounded id earlier)
    · exact Nat.lt_succ_self _
  newest id writes := by
    cases writes
    rfl
  reading := numbered.reading

theorem InOrder.connect (numbered : Numbered s)
    (inOrder : InOrder sent done s) : InOrder sent done s.connect := by
  obtain ⟨handled, waiting, same, carried, kept⟩ := inOrder
  refine ⟨handled, waiting ++ [[]], same, ?_, by simpa using kept⟩
  rw [unread_connect]
  refine List.rel_append ?_ (.cons ⟨[], framed_nil (by decide), fun _ => rfl⟩ .nil)
  refine ((List.forall₂_and_left _ _).mpr ⟨numbered.unread_bounded, carried⟩).imp ?_
  rintro c fs ⟨earlier, carries⟩
  refine carries.mono fun last => absurd (Option.some.inj last) ?_
  exact Nat.ne_of_gt earlier

theorem ensureConnected_sound (connects : Bool) (numbered : Numbered s) (inOrder : InOrder sent done s) :
    Numbered (s.ensureConnected connects) ∧ InOrder sent done (s.ensureConnected connects) := by
  unfold LinkState.ensureConnected
  cases stream : s.stream with
  | some id => exact ⟨numbered, inOrder⟩
  | none =>
    cases connects with
    | false => exact ⟨numbered, inOrder⟩
    | true => exact ⟨numbered.connect, inOrder.connect numbered⟩

theorem write_ids (s : LinkState) (id : Nat) (bytes : List Byte) : (s.write id bytes).ids = s.ids := by
  simp only [LinkState.ids, LinkState.openConnections, LinkState.write, List.map_append, List.map_map]
  congr 1
  · cases s.held <;> simp [push_id]
  · exact List.map_congr_left fun c _ => push_id id bytes c

theorem Numbered.write (numbered : Numbered s) (id : Nat) (bytes : List Byte) :
    Numbered (s.write id bytes) :=
  numbered.shrink (by rw [write_ids]) rfl (fun _ writes => writes)
    (fun data reads => by simpa [LinkState.write] using numbered.reading data reads)

theorem InOrder.write {id : Nat} (numbered : Numbered s) (stream : s.stream = some id)
    (inOrder : InOrder sent done s) (fv : FeatureVector (BitVec 64)) :
    InOrder (sent ++ [fv]) done (s.write id fv.toBytes) := by
  obtain ⟨handled, waiting, same, carried, kept⟩ := inOrder
  rw [stream] at carried
  have newest := numbered.newest id stream
  obtain ⟨waiting', carried', reached⟩ := carries_push fv carried
    (numbered.increasing.sublist (unread_ids_sublist s))
    (fun c member => by have := numbered.unread_bounded c member; omega)
  refine ⟨handled, waiting', same, ?_, ?_⟩
  · rw [unread_write]
    simpa [LinkState.write, stream] using carried'
  · exact (reached.append_left handled).trans (by simpa using kept.append_right [fv])

theorem InOrder.writeCut {id : Nat} (stream : s.stream = some id) (inOrder : InOrder sent done s)
    {part : List Byte} (short : part.length < featureVectorBytes) :
    InOrder sent done { s.write id part with stream := none } := by
  obtain ⟨handled, waiting, same, carried, kept⟩ := inOrder
  rw [stream] at carried
  exact ⟨handled, waiting, same, unread_write s id part ▸ carries_cut short carried, kept⟩

theorem InOrder.dropStream (inOrder : InOrder sent done s) :
    InOrder sent done { s with stream := none } := by
  obtain ⟨handled, waiting, same, carried, kept⟩ := inOrder
  exact ⟨handled, waiting, same, carried.imp fun c fs carries => carries.mono (by simp), kept⟩

theorem Numbered.dropStream (numbered : Numbered s) : Numbered { s with stream := none } :=
  numbered.shrink (.refl _) rfl (by simp) numbered.reading

theorem send_sound (fv : FeatureVector (BitVec 64)) (connects : Bool)
    (failsAfter : Option (Fin featureVectorBytes)) (numbered : Numbered s)
    (inOrder : InOrder sent done s) :
    Numbered (s.send fv connects failsAfter).1 ∧
      InOrder (sent ++ [fv]) done (s.send fv connects failsAfter).1 := by
  obtain ⟨numbered, inOrder⟩ := ensureConnected_sound connects numbered inOrder
  unfold LinkState.send
  generalize s.ensureConnected connects = ready at *
  cases stream : ready.stream with
  | none => simpa only [stream] using ⟨numbered, inOrder.more fv⟩
  | some id =>
    by_cases live : ready.openConnections.any (fun c => decide (c.id = id)) = true
    · cases failsAfter with
      | none =>
        simp only [stream, live, if_true]
        exact ⟨numbered.write id _, inOrder.write numbered stream fv⟩
      | some count =>
        simp only [stream, live, if_true]
        have short : (fv.toBytes.take count).length < featureVectorBytes := by
          rw [List.length_take]
          exact Nat.lt_of_le_of_lt (Nat.min_le_left _ _) count.isLt
        exact ⟨(numbered.write id _).dropStream, (inOrder.writeCut stream short).more fv⟩
    · simp only [stream, live, Bool.false_eq_true, if_false]
      exact ⟨numbered.dropStream, inOrder.dropStream.more fv⟩

theorem accept_sound {peer : PeerCheck} (accepted : s.accept peer = some s') (numbered : Numbered s)
    (inOrder : InOrder sent done s) : Numbered s' ∧ InOrder sent done s' := by
  rcases s with ⟨stream, nextId, backlog, held, reader⟩
  cases reader with
  | receiving data => simp [LinkState.accept] at accepted
  | accepting =>
    cases backlog with
    | nil => simp [LinkState.accept] at accepted
    | cons c rest =>
      cases peer <;> simp only [LinkState.accept, Option.some.injEq] at accepted <;> subst accepted
      case expected =>
        refine ⟨numbered.shrink ?_ rfl (fun _ writes => writes) (fun _ _ => rfl), inOrder.same ?_ rfl⟩
        · simp [LinkState.ids, LinkState.openConnections]
        · simp [LinkState.unread]
      case rejected =>
        refine ⟨numbered.shrink ?_ rfl (fun _ writes => writes) (by simp), inOrder.drop (c := c) rfl rfl⟩
        simp only [LinkState.ids, LinkState.openConnections, List.map_append, List.map_cons]
        exact ((List.sublist_cons_self _ _).trans (List.sublist_append_right _ _))
      case raises =>
        refine ⟨numbered.shrink ?_ rfl (fun _ writes => writes) (by simp), inOrder.drop (c := c) rfl rfl⟩
        simp [LinkState.ids, LinkState.openConnections]

theorem recv_sound {count : Nat} (received : s.recv count = some s') (numbered : Numbered s)
    (inOrder : InOrder sent done s) : Numbered s' ∧ InOrder sent done s' := by
  rcases s with ⟨stream, nextId, backlog, held, reader⟩
  cases reader with
  | accepting => simp [LinkState.recv] at received
  | receiving data =>
    cases held with
    | none => simp [LinkState.recv] at received
    | some c =>
      simp only [LinkState.recv, Option.ite_none_right_eq_some, Option.some.injEq] at received
      obtain ⟨-, rfl⟩ := received
      refine ⟨numbered.shrink ?_ rfl (fun _ writes => writes) (fun _ _ => rfl), inOrder.same ?_ rfl⟩
      · simp [LinkState.ids, LinkState.openConnections]
      · simp [LinkState.unread]

/-- Leaving the receive loop, with the connection closed or not, loses what it still carried. -/
theorem leave_sound {data : List Byte} {held : Option Connection} (receiving : s.reader = .receiving data)
    (closed : held = none ∨ held = s.held) (numbered : Numbered s) (inOrder : InOrder sent done s) :
    Numbered { s with reader := .accepting, held := held } ∧
      InOrder sent done { s with reader := .accepting, held := held } := by
  obtain ⟨c, here⟩ := Option.isSome_iff_exists.mp (numbered.reading data receiving)
  refine ⟨numbered.shrink ?_ rfl (fun _ writes => writes) (by simp),
    inOrder.drop (c := { c with inFlight := data ++ c.inFlight }) ?_ rfl⟩
  · rcases closed with rfl | rfl
    · simp [LinkState.ids, LinkState.openConnections]
    · exact .refl _
  · simp [LinkState.unread, receiving, here]

theorem interrupt_sound {data : List Byte} (receiving : s.reader = .receiving data)
    (numbered : Numbered s) (inOrder : InOrder sent done s) :
    Numbered s.interrupt ∧ InOrder sent done s.interrupt :=
  leave_sound receiving (Or.inr rfl) numbered inOrder

theorem endOfStream_sound (ended : s.endOfStream = some s') (numbered : Numbered s)
    (inOrder : InOrder sent done s) : Numbered s' ∧ InOrder sent done s' := by
  unfold LinkState.endOfStream at ended
  split at ended
  · next data c receiving _ =>
    rw [Option.ite_none_right_eq_some, Option.some.injEq] at ended
    obtain ⟨-, rfl⟩ := ended
    exact leave_sound receiving (Or.inl rfl) numbered inOrder
  · cases ended

/-- A frame handled is the first one still carried, bytes and all. -/
theorem handled_frame {data : List Byte} (receiving : s.reader = .receiving data)
    (whole : data.length = featureVectorBytes) (numbered : Numbered s) (inOrder : InOrder sent done s) :
    Numbered { s with reader := .receiving [] } ∧
      InOrder sent (done ++ [data]) { s with reader := .receiving [] } := by
  obtain ⟨c, here⟩ := Option.isSome_iff_exists.mp (numbered.reading data receiving)
  obtain ⟨handled, waiting, same, carried, kept⟩ := inOrder
  have unread : s.unread = { c with inFlight := data ++ c.inFlight } :: s.backlog := by
    simp [LinkState.unread, receiving, here]
  rw [unread] at carried
  cases carried with
  | @cons _ fs _ more carries carried =>
    obtain ⟨tail, framed, cut⟩ := carries
    obtain ⟨fv, later, rfl, rfl, remains⟩ := framed.front FeatureVector.toBytes_length whole
    refine ⟨numbered.shrink (.refl _) rfl (fun _ writes => writes) (fun _ _ => by simp [here]),
      handled ++ [fv], later :: more, by simp [same], ?_, by simpa using kept⟩
    have next : LinkState.unread { s with reader := .receiving [] } = c :: s.backlog := by
      simp [LinkState.unread, here]
    rw [next]
    exact .cons ⟨tail, remains, cut⟩ carried

theorem handle_sound {raises : Bool} {frame : List Byte} (taken : s.handle raises = some (s', frame))
    (numbered : Numbered s) (inOrder : InOrder sent done s) :
    Numbered s' ∧ InOrder sent (done ++ [frame]) s' := by
  unfold LinkState.handle at taken
  split at taken
  · next data receiving =>
    rw [Option.ite_none_right_eq_some, Option.some.injEq, Prod.mk.injEq] at taken
    obtain ⟨whole, left, rfl⟩ := taken
    obtain ⟨numbered', inOrder'⟩ := handled_frame receiving whole numbered inOrder
    subst left
    cases raises with
    | false => exact ⟨numbered', inOrder'⟩
    | true =>
      exact interrupt_sound (s := { s with reader := .receiving [] }) rfl numbered' inOrder'
  · cases taken

/-- Each step keeps the link in order, counting what it sends and what it processes. -/
theorem linkStep_sound {e : LinkEvent} {o : LinkOutput} (stepped : linkStep s e = some (s', o))
    (numbered : Numbered s) (inOrder : InOrder sent done s) :
    Numbered s' ∧ InOrder (sent ++ o.sends.toList) (done ++ o.processes.toList) s' := by
  cases e with
  | send fv connects failsAfter =>
    cases stepped
    simpa [LinkOutput.sends, LinkOutput.processes] using send_sound fv connects failsAfter numbered inOrder
  | accept peer =>
    obtain ⟨next, accepted, pair⟩ := Option.map_eq_some_iff.mp stepped
    cases pair
    simpa [LinkOutput.sends, LinkOutput.processes] using accept_sound accepted numbered inOrder
  | recv count =>
    obtain ⟨next, received, pair⟩ := Option.map_eq_some_iff.mp stepped
    cases pair
    simpa [LinkOutput.sends, LinkOutput.processes] using recv_sound received numbered inOrder
  | recvRaises =>
    simp only [linkStep] at stepped
    split at stepped
    · next data receiving =>
      cases stepped
      simpa [LinkOutput.sends, LinkOutput.processes] using
        interrupt_sound receiving numbered inOrder
    · cases stepped
  | endOfStream =>
    obtain ⟨next, ended, pair⟩ := Option.map_eq_some_iff.mp stepped
    cases pair
    simpa [LinkOutput.sends, LinkOutput.processes] using endOfStream_sound ended numbered inOrder
  | handle raises =>
    obtain ⟨⟨next, frame⟩, taken, pair⟩ := Option.map_eq_some_iff.mp stepped
    cases pair
    simpa [LinkOutput.sends, LinkOutput.processes] using handle_sound taken numbered inOrder

private theorem filterMap_concat {O T : Type} (shown : O → Option T) (past : List O) (o : O) :
    (past ++ [o]).filterMap shown = past.filterMap shown ++ (shown o).toList := by
  rw [List.filterMap_append]
  cases same : shown o <;> simp [same]

/-- In every run of the link, exceptions included, the frames the receiver unpacks are the
bytes of vectors that form a subsequence, in order, of those passed to `send`. -/
theorem processed_subsequence_of_sent (es : List LinkEvent) (final : LinkState) (outs : List LinkOutput)
    (ran : run linkStep LinkState.start es = some (final, outs)) :
    ∃ vs : List (FeatureVector (BitVec 64)),
      outs.filterMap LinkOutput.processes = vs.map FeatureVector.toBytes ∧
      vs.Sublist (es.filterMap LinkEvent.sends) := by
  have start : Numbered LinkState.start ∧ InOrder [] [] LinkState.start :=
    ⟨⟨by simp [LinkState.ids, LinkState.openConnections, LinkState.start], by simp [LinkState.ids,
      LinkState.openConnections, LinkState.start], by simp [LinkState.start], by simp [LinkState.start]⟩,
      [], [], rfl, .nil, .refl _⟩
  have sound := run_history (I := fun past s => Numbered s ∧
      InOrder (past.filterMap LinkOutput.sends) (past.filterMap LinkOutput.processes) s)
    (fun past s e mid o inv stepped => by
      rw [filterMap_concat, filterMap_concat]
      exact linkStep_sound stepped inv.1 inv.2)
    es [] LinkState.start final outs start ran
  obtain ⟨handled, waiting, same, -, kept⟩ := sound.2
  refine ⟨handled, same, ?_⟩
  have counted : outs.filterMap LinkOutput.sends = es.filterMap LinkEvent.sends :=
    run_outputs (fun _ _ _ _ stepped => linkStep_sends stepped) es _ final outs ran
  rw [← counted]
  exact (List.sublist_append_left _ _).trans kept

/-- One write is cut after ten bytes, one frame arrives in two chunks, and the sender
reconnects for the third vector. -/
def cutAndReconnect : List LinkEvent :=
  [.send (uniformVector 1) true none, .send (uniformVector 2) true (some ⟨10, by decide⟩), .accept .expected,
    .recv 100, .recv 116, .handle false, .recv 10, .endOfStream,
    .send (uniformVector 3) true none, .accept .expected, .recv featureVectorBytes, .handle false]

theorem cutAndReconnect_processed :
    ∃ final outs, run linkStep LinkState.start cutAndReconnect = some (final, outs) ∧
      outs.filterMap LinkOutput.processes = [(uniformVector 1).toBytes, (uniformVector 3).toBytes] ∧
      ∃ vs : List (FeatureVector (BitVec 64)),
        outs.filterMap LinkOutput.processes = vs.map FeatureVector.toBytes ∧
        vs.Sublist (cutAndReconnect.filterMap LinkEvent.sends) := by
  have ran : ∃ final outs, run linkStep LinkState.start cutAndReconnect = some (final, outs) ∧
      outs.filterMap LinkOutput.processes = [(uniformVector 1).toBytes, (uniformVector 3).toBytes] := by
    decide +kernel
  obtain ⟨final, outs, reached, frames⟩ := ran
  exact ⟨final, outs, reached, frames,
    processed_subsequence_of_sent cutAndReconnect final outs reached⟩

end Flod.Ipc
