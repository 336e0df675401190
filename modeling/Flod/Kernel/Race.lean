import Flod.Kernel.Maps
import Flod.Lib.Run

/-! Packets racing with a drain on one map. Every map operation is one step: a program
reads before it writes, and a drain reads a key before it removes it, so each can act
between the two steps of the other. -/

namespace Flod.Kernel
open Flod.Lib

variable {cpus : Nat} {K : Type} [DecidableEq K]

/-- The next operation of the program a processor is running. -/
inductive Proc (K : Type) where
  | idle
  /-- `bump` has read and is about to insert one more. -/
  | insert (key : K) (next : Nat)
  /-- `bump_counters` found no entry and is about to insert zeros. -/
  | seed (key : K)
  /-- `bump_counters` is about to look the entry up for its pointer. -/
  | locate (key : K)
  /-- `bump_counters` holds a pointer to the entry of that generation. -/
  | add (key : K) (generation : Nat)
  deriving DecidableEq, Repr

/-- The key of the packet in progress. -/
def Proc.on : Proc K → Option K
  | .idle => none
  | .insert key _ | .seed key | .locate key | .add key _ => some key

/-- The key the next operation would insert. -/
def Proc.inserts : Proc K → Option K
  | .insert key _ | .seed key => some key
  | _ => none

/-- The next operation of user space: the keys left to read, or the key read last and
about to be removed. -/
inductive Drainer (K : Type) where
  | idle
  | reading (keys : List K)
  | removing (key : K) (rest : List K)
  deriving DecidableEq, Repr

/-- Between the read of a key and its removal. -/
def Drainer.HasRead : Drainer K → K → Prop
  | .removing held _, key => held = key
  | _, _ => False

instance : (drainer : Drainer K) → (key : K) → Decidable (drainer.HasRead key)
  | .idle, _ => isFalse id
  | .reading _, _ => isFalse id
  | .removing held _, key => inferInstanceAs (Decidable (held = key))

/-- The key the next operation would read. -/
def Drainer.reads : Drainer K → Option K
  | .reading (key :: _) => some key
  | _ => none

structure Race (cpus : Nat) (K : Type) where
  map : PerCpuMap cpus K Nat
  procs : Fin cpus → Proc K
  drainer : Drainer K
  /-- How often the key was removed: a pointer taken before a removal no longer reaches
  the map. -/
  generation : K → Nat
  /-- The packets whose program has ended. -/
  counted : K → Nat

def Race.start (cpus capacity : Nat) (K : Type) : Race cpus K :=
  ⟨.empty capacity, fun _ => .idle, .idle, fun _ => 0, fun _ => 0⟩

/-- A scheduler's choices. The keys a drain walks over are left open, since the walk
itself races with the packets. -/
inductive RaceEvent (cpus : Nat) (K : Type) where
  | bump (cpu : Fin cpus) (key : K)
  | bumpCounters (cpu : Fin cpus) (key : K)
  | advance (cpu : Fin cpus)
  | drain (keys : List K)
  | advanceDrain
  deriving DecidableEq, Repr

namespace Race

def goto (s : Race cpus K) (cpu : Fin cpus) (proc : Proc K) : Race cpus K :=
  { s with procs := Function.update s.procs cpu proc }

/-- The program of a packet ends with the map as given. -/
def finish (s : Race cpus K) (cpu : Fin cpus) (key : K) (map : PerCpuMap cpus K Nat) : Race cpus K :=
  { s with
    map := map
    procs := Function.update s.procs cpu .idle
    counted := Function.update s.counted key (s.counted key + 1) }

/-- One map operation. The output is what a drain's read adds to its sample; none is a
choice the scheduler does not have. -/
def step (s : Race cpus K) : RaceEvent cpus K → Option (Race cpus K × Option (K × Nat))
  | .bump cpu key =>
      match s.procs cpu with
      | .idle =>
          let next := match s.map.get cpu key with
            | some n => n + 1
            | none => 1
          some (s.goto cpu (.insert key next), none)
      | _ => none
  | .bumpCounters cpu key =>
      match s.procs cpu with
      | .idle => some (s.goto cpu (if (s.map.get cpu key).isNone then .seed key else .locate key), none)
      | _ => none
  | .advance cpu =>
      match s.procs cpu with
      | .idle => none
      | .insert key next => some (s.finish cpu key ((s.map.insert cpu key next).getD s.map), none)
      | .seed key =>
          match s.map.insert cpu key 0 with
          | some map => some ({ s with map := map }.goto cpu (.locate key), none)
          | none => some (s.finish cpu key s.map, none)
      | .locate key =>
          if (s.map.get cpu key).isSome then some (s.goto cpu (.add key (s.generation key)), none)
          else some (s.finish cpu key s.map, none)
      | .add key generation =>
          let map := if generation = s.generation key then s.map.modify cpu key (· + 1) else s.map
          some (s.finish cpu key map, none)
  | .drain keys =>
      match s.drainer with
      | .idle => some ({ s with drainer := .reading keys }, none)
      | _ => none
  | .advanceDrain =>
      match s.drainer with
      | .idle => none
      | .reading [] => some ({ s with drainer := .idle }, none)
      | .reading (key :: rest) =>
          some ({ s with drainer := .removing key rest },
            (s.map.getAll key).map (fun values => (key, ∑ cpu, values cpu)))
      | .removing key rest =>
          some
            ({ s with
               map := s.map.remove key
               generation := Function.update s.generation key (s.generation key + 1)
               drainer := .reading rest }, none)

/-- Undisturbed, the two steps of a packet are one update of the map. -/
theorem bump_alone {s : Race cpus K} {cpu : Fin cpus} (idle : s.procs cpu = .idle) (key : K) :
    (run step s [.bump cpu key, .advance cpu]).map (fun r => r.1.map) = some (bumpIn s.map cpu key) := by
  simp only [run, step, idle, goto, finish, Function.update_self]
  rfl

/-- The packets stored for a key. -/
def stored (s : Race cpus K) (key : K) : Nat := ∑ cpu, s.map.own cpu key

/-- What a processor in the middle of a packet relies on. -/
def Ready (map : PerCpuMap cpus K Nat) (generation : K → Nat) (cpu : Fin cpus) : Proc K → Prop
  | .idle => True
  | .insert key next => next = map.own cpu key + 1
  | .seed key => map.own cpu key = 0
  | .locate key => key ∈ map.keys
  | .add key pointer => key ∈ map.keys ∧ pointer = generation key

/-- Nothing that happens to other keys, or to other processors' values, disturbs a packet. -/
theorem Ready.frame {map map' : PerCpuMap cpus K Nat} {generation generation' : K → Nat} {cpu : Fin cpus}
    {proc : Proc K} (ready : Ready map generation cpu proc)
    (same : ∀ key, proc.on = some key → map'.own cpu key = map.own cpu key ∧
      (key ∈ map.keys → key ∈ map'.keys) ∧ generation' key = generation key) :
    Ready map' generation' cpu proc := by
  cases proc with
  | idle => trivial
  | insert key next => exact ready.trans (by rw [(same key rfl).1])
  | seed key => exact (same key rfl).1.trans ready
  | locate key => exact (same key rfl).2.1 ready
  | add key pointer => exact ⟨(same key rfl).2.1 ready.1, ready.2.trans (same key rfl).2.2.symm⟩

/-- Packets are reported or stored, never both, except for the one key a drain has read
and not yet removed: its packets are all reported. -/
structure Conserves (reported : K → Nat) (s : Race cpus K) : Prop where
  free : ∀ key, ¬ s.drainer.HasRead key → reported key + s.stored key = s.counted key
  held : ∀ key, s.drainer.HasRead key → reported key = s.counted key ∧ ∀ cpu, (s.procs cpu).on ≠ some key
  ready : ∀ cpu, Ready s.map s.generation cpu (s.procs cpu)

/-- No packet starts on a key the drain has read and not yet removed, the drain reads no
key a packet is in the middle of, and no insert meets a full map. -/
def Undisturbed (s : Race cpus K) : RaceEvent cpus K → Prop
  | .bump _ key | .bumpCounters _ key => ¬ s.drainer.HasRead key
  | .advance cpu => ∀ key ∈ (s.procs cpu).inserts, s.map.Admits key
  | .drain _ => True
  | .advanceDrain => ∀ key ∈ s.drainer.reads, ∀ cpu, (s.procs cpu).on ≠ some key

instance (s : Race cpus K) : (e : RaceEvent cpus K) → Decidable (Undisturbed s e)
  | .bump _ key => inferInstanceAs (Decidable (¬ s.drainer.HasRead key))
  | .bumpCounters _ key => inferInstanceAs (Decidable (¬ s.drainer.HasRead key))
  | .advance cpu => inferInstanceAs (Decidable (∀ key ∈ (s.procs cpu).inserts, s.map.Admits key))
  | .drain _ => isTrue trivial
  | .advanceDrain =>
      inferInstanceAs (Decidable (∀ key ∈ s.drainer.reads, ∀ cpu, (s.procs cpu).on ≠ some key))

variable {reported : K → Nat} {s : Race cpus K} {cpu : Fin cpus}

theorem Conserves.not_held (inv : Conserves reported s) {key : K} (busy : (s.procs cpu).on = some key) :
    ¬ s.drainer.HasRead key := fun holds => (inv.held key holds).2 cpu busy

theorem Conserves.goto (inv : Conserves reported s) {proc : Proc K} {map : PerCpuMap cpus K Nat}
    (ready : Ready map s.generation cpu proc)
    (kept : ∀ key, (fun i => map.own i key) = fun i => s.map.own i key)
    (grows : ∀ key ∈ s.map.keys, key ∈ map.keys) (free : ∀ key, proc.on = some key → ¬ s.drainer.HasRead key) :
    Conserves reported ({ s with map := map }.goto cpu proc) where
  free key opened := by
    have same : Race.stored ({ s with map := map }.goto cpu proc) key = s.stored key := by
      unfold Race.stored
      exact congrArg (fun values => ∑ i, values i) (kept key)
    rw [same]
    exact inv.free key opened
  held key holds := by
    refine ⟨(inv.held key holds).1, ?_⟩
    intro i
    by_cases here : i = cpu
    · subst here
      simp only [Race.goto, Function.update_self]
      exact fun busy => free key busy holds
    · simp only [Race.goto, Function.update_of_ne here]
      exact (inv.held key holds).2 i
  ready i := by
    by_cases here : i = cpu
    · subst here
      simp only [Race.goto, Function.update_self]
      exact ready
    · simp only [Race.goto, Function.update_of_ne here]
      exact (inv.ready i).frame fun key _ => ⟨congrFun (kept key) i, grows key, rfl⟩

/-- An operation that leaves the map as it is, on a key the drain does not hold. -/
theorem Conserves.goto_same (inv : Conserves reported s) {proc : Proc K} {key : K}
    (ready : Ready s.map s.generation cpu proc) (busy : proc.on = some key) (free : ¬ s.drainer.HasRead key) :
    Conserves reported (s.goto cpu proc) := by
  refine inv.goto ready (fun _ => rfl) (fun _ member => member) ?_
  intro other same
  rw [busy, Option.some.injEq] at same
  exact same ▸ free

theorem Conserves.finish (inv : Conserves reported s) {key : K} (busy : (s.procs cpu).on = some key)
    {map : PerCpuMap cpus K Nat}
    (adds : ∀ other, (fun i => map.own i other) =
      if key = other then Function.update (fun i => s.map.own i key) cpu (s.map.own cpu key + 1)
      else fun i => s.map.own i other)
    (grows : ∀ other ∈ s.map.keys, other ∈ map.keys) : Conserves reported (s.finish cpu key map) where
  free other opened := by
    have before := inv.free other opened
    unfold Race.stored Race.finish at *
    dsimp only at *
    by_cases same : key = other
    · subst same
      have values := adds key
      rw [if_pos rfl] at values
      have total := PerCpuMap.sum_update id (fun i => s.map.own i key) cpu (· + 1) rfl
      simp only [id] at total
      rw [congrArg (fun values => ∑ i, values i) values, total, Function.update_self]
      omega
    · have values := adds other
      rw [if_neg same] at values
      rw [congrArg (fun values => ∑ i, values i) values, Function.update_of_ne (Ne.symm same)]
      exact before
  held other holds := by
    have apart : other ≠ key := by
      rintro rfl
      exact inv.not_held busy holds
    refine ⟨?_, ?_⟩
    · simp only [Race.finish, Function.update_of_ne apart]
      exact (inv.held other holds).1
    · intro i
      by_cases here : i = cpu
      · simp [Race.finish, here, Proc.on]
      · simp only [Race.finish, Function.update_of_ne here]
        exact (inv.held other holds).2 i
  ready i := by
    by_cases here : i = cpu
    · simp [Race.finish, here, Ready]
    · simp only [Race.finish, Function.update_of_ne here]
      refine (inv.ready i).frame fun other _ => ⟨?_, grows other, rfl⟩
      rw [congrFun (adds other) i]
      split
      next same => rw [Function.update_of_ne here, same]
      next => rfl

/-- What one operation adds to the samples for a key. -/
def reportedBy : Option (K × Nat) → K → Nat
  | none, _ => 0
  | some (read, total), key => if read = key then total else 0

/-- What the drains of a run have reported for a key. -/
def reportedIn (outputs : List (Option (K × Nat))) (key : K) : Nat :=
  (outputs.map (fun o => reportedBy o key)).sum

theorem advance_conserves (inv : Conserves reported s) (calm : Undisturbed s (.advance cpu))
    {s' : Race cpus K} {o : Option (K × Nat)} (stepped : step s (.advance cpu) = some (s', o)) :
    Conserves reported s' ∧ o = none := by
  have ready := inv.ready cpu
  have room : ∀ key ∈ (s.procs cpu).inserts, s.map.Admits key := calm
  simp only [step] at stepped
  cases proc : s.procs cpu with
  | idle => simp [proc] at stepped
  | insert key next =>
    simp only [proc, Option.some.injEq, Prod.mk.injEq] at stepped
    obtain ⟨rfl, rfl⟩ := stepped
    rw [proc] at ready room
    obtain ⟨map, inserted⟩ := Option.isSome_iff_exists.mp (PerCpuMap.insert_isSome (room key rfl) cpu next)
    rw [inserted]
    refine ⟨inv.finish (by rw [proc]; rfl) ?_ ?_, rfl⟩
    · intro other
      rw [Option.getD_some, PerCpuMap.own_insert inserted, show next = _ from ready]
    · intro other member
      exact (PerCpuMap.mem_keys_insert inserted other).mpr (Or.inr member)
  | seed key =>
    rw [proc] at ready room
    simp only [proc] at stepped
    obtain ⟨map, inserted⟩ := Option.isSome_iff_exists.mp (PerCpuMap.insert_isSome (room key rfl) cpu 0)
    simp only [inserted, Option.some.injEq, Prod.mk.injEq] at stepped
    obtain ⟨rfl, rfl⟩ := stepped
    refine ⟨inv.goto ?_ ?_ ?_ ?_, rfl⟩
    · exact (PerCpuMap.mem_keys_insert inserted key).mpr (Or.inl rfl)
    · intro other
      rw [PerCpuMap.own_insert inserted]
      split
      next same =>
        subst same
        rw [show (0 : Nat) = s.map.own cpu key from ready.symm, Function.update_eq_self]
      next => rfl
    · intro other member
      exact (PerCpuMap.mem_keys_insert inserted other).mpr (Or.inr member)
    · intro other same
      cases same
      exact inv.not_held (by rw [proc]; rfl)
  | locate key =>
    rw [proc] at ready
    have present : (s.map.get cpu key).isSome = true := by
      unfold PerCpuMap.get
      rw [Option.isSome_map]
      exact (Dict.mem_keys_iff _ _).mp ready
    simp only [proc, present, if_true, Option.some.injEq, Prod.mk.injEq] at stepped
    obtain ⟨rfl, rfl⟩ := stepped
    exact ⟨inv.goto_same ⟨ready, rfl⟩ rfl (inv.not_held (by rw [proc]; rfl)), rfl⟩
  | add key pointer =>
    rw [proc] at ready
    simp only [proc, Option.some.injEq, Prod.mk.injEq] at stepped
    obtain ⟨rfl, rfl⟩ := stepped
    rw [if_pos ready.2]
    have inserted := PerCpuMap.modify_of_mem ready.1 cpu (· + 1)
    refine ⟨inv.finish (by rw [proc]; rfl) (PerCpuMap.own_insert inserted) ?_, rfl⟩
    intro other member
    exact (PerCpuMap.mem_keys_insert inserted other).mpr (Or.inr member)

/-- Reading a key reports what is stored for it, which then waits to be removed. -/
theorem read_conserves (inv : Conserves reported s) {key : K} {rest : List K}
    (reading : s.drainer = .reading (key :: rest)) (calm : ∀ cpu, (s.procs cpu).on ≠ some key) :
    Conserves
      (fun other => reported other +
        reportedBy ((s.map.getAll key).map (fun values => (key, ∑ cpu, values cpu))) other)
      { s with drainer := .removing key rest } := by
  have free : ∀ other, reported other + s.stored other = s.counted other := by
    intro other
    exact inv.free other (by rw [reading]; exact id)
  have read : ∀ other, reportedBy ((s.map.getAll key).map (fun values => (key, ∑ cpu, values cpu))) other =
      if key = other then s.stored key else 0 := by
    intro other
    unfold Race.stored PerCpuMap.own
    cases s.map.getAll key <;> simp [reportedBy]
  refine ⟨?_, ?_, inv.ready⟩
  · intro other opened
    have apart : key ≠ other := opened
    rw [read, if_neg apart, Nat.add_zero]
    exact free other
  · rintro other rfl
    rw [read, if_pos rfl]
    exact ⟨free key, calm⟩

/-- Removing a key that was read forgets nothing that was not reported. -/
theorem remove_conserves (inv : Conserves reported s) {key : K} {rest : List K}
    (removing : s.drainer = .removing key rest) :
    Conserves reported
      { s with
        map := s.map.remove key
        generation := Function.update s.generation key (s.generation key + 1)
        drainer := .reading rest } where
  free other _ := by
    unfold Race.stored
    simp only [PerCpuMap.own_remove]
    by_cases same : key = other
    · subst same
      have held := (inv.held key (by rw [removing]; rfl)).1
      simpa using held
    · simp only [if_neg same]
      exact inv.free other (by rw [removing]; exact same)
  held other holds := holds.elim
  ready cpu := by
    have apart := (inv.held key (by rw [removing]; rfl)).2 cpu
    refine (inv.ready cpu).frame fun other busy => ?_
    have different : other ≠ key := by
      rintro rfl
      exact apart busy
    refine ⟨?_, ?_, Function.update_of_ne different _ _⟩
    · rw [PerCpuMap.own_remove, if_neg (Ne.symm different)]
    · intro member
      exact (PerCpuMap.mem_keys_remove _ _ _).mpr ⟨different, member⟩

theorem step_conserves (inv : Conserves reported s) {e : RaceEvent cpus K} (calm : Undisturbed s e)
    {s' : Race cpus K} {o : Option (K × Nat)} (stepped : step s e = some (s', o)) :
    Conserves (fun key => reported key + reportedBy o key) s' := by
  cases e with
  | bump cpu key =>
    cases proc : s.procs cpu with
    | idle =>
      simp only [step, proc, Option.some.injEq, Prod.mk.injEq] at stepped
      obtain ⟨rfl, rfl⟩ := stepped
      refine inv.goto_same ?_ rfl calm
      have read := s.map.get_getD cpu key
      show _ = s.map.own cpu key + 1
      rw [← read]
      cases s.map.get cpu key <;> rfl
    | _ => simp [step, proc] at stepped
  | bumpCounters cpu key =>
    cases proc : s.procs cpu with
    | idle =>
      simp only [step, proc, Option.some.injEq, Prod.mk.injEq] at stepped
      obtain ⟨rfl, rfl⟩ := stepped
      cases found : s.map.get cpu key with
      | none =>
        refine inv.goto_same ?_ rfl calm
        have read := s.map.get_getD cpu key
        rw [found] at read
        exact read.symm
      | some value =>
        refine inv.goto_same ?_ rfl calm
        obtain ⟨values, present, _⟩ := Option.map_eq_some_iff.mp found
        exact Dict.mem_keys_of_get? present
    | _ => simp [step, proc] at stepped
  | advance cpu =>
    obtain ⟨after, rfl⟩ := advance_conserves inv calm stepped
    exact after
  | drain keys =>
    cases idle : s.drainer with
    | idle =>
      simp only [step, idle, Option.some.injEq, Prod.mk.injEq] at stepped
      obtain ⟨rfl, rfl⟩ := stepped
      exact ⟨fun key _ => inv.free key (by rw [idle]; exact id), fun key holds => holds.elim, inv.ready⟩
    | _ => simp [step, idle] at stepped
  | advanceDrain =>
    cases drainer : s.drainer with
    | idle => simp [step, drainer] at stepped
    | reading keys =>
      cases keys with
      | nil =>
        simp only [step, drainer, Option.some.injEq, Prod.mk.injEq] at stepped
        obtain ⟨rfl, rfl⟩ := stepped
        exact ⟨fun key _ => inv.free key (by rw [drainer]; exact id), fun key holds => holds.elim, inv.ready⟩
      | cons key rest =>
        simp only [step, drainer, Option.some.injEq, Prod.mk.injEq] at stepped
        obtain ⟨rfl, rfl⟩ := stepped
        exact read_conserves inv drainer (calm key (by rw [drainer]; rfl))
    | removing key rest =>
      simp only [step, drainer, Option.some.injEq, Prod.mk.injEq] at stepped
      obtain ⟨rfl, rfl⟩ := stepped
      exact remove_conserves inv drainer

/-- Over every interleaving in which packets and drain keep off each other's keys, a
packet that ended is either reported by some drain or still in the map. -/
theorem reported_add_stored (capacity : Nat) (events : List (RaceEvent cpus K))
    (calm : Always step (fun s e _ _ => Undisturbed s e) (start cpus capacity K) events)
    {final : Race cpus K} {outputs : List (Option (K × Nat))}
    (ran : run step (start cpus capacity K) events = some (final, outputs)) (key : K)
    (opened : ¬ final.drainer.HasRead key) :
    reportedIn outputs key + final.stored key = final.counted key := by
  have kept := run_history_of_always (I := fun past s => Conserves (reportedIn past) s)
    (by
      intro past s e mid o inv taken meets
      have after := step_conserves inv meets taken
      have grown : reportedIn (past ++ [o]) = fun key => reportedIn past key + reportedBy o key := by
        funext key
        simp [reportedIn]
      rwa [grown])
    events [] (start cpus capacity K) final outputs ?_ calm ran
  · exact kept.free key opened
  · refine ⟨?_, fun key holds => holds.elim, fun _ => trivial⟩
    intro key _
    simp [reportedIn, Race.stored, start, PerCpuMap.own, PerCpuMap.getAll, PerCpuMap.empty]

/-- A packet on each of two processors, a drain, and a packet once the drain is done
with its key. -/
def inTurn : List (RaceEvent 2 Nat) :=
  [.bump cpu0 7, .bumpCounters cpu1 7, .advance cpu0, .advance cpu1, .advance cpu1, .advance cpu1, .drain [7],
    .advanceDrain, .advanceDrain, .bump cpu0 7, .advance cpu0, .advanceDrain]

theorem inTurn_reported : ∃ final outputs, run step (start 2 8 Nat) inTurn = some (final, outputs) ∧
    reportedIn outputs 7 = 2 ∧ reportedIn outputs 7 + final.stored 7 = final.counted 7 := by
  have ran : ∃ final outputs, run step (start 2 8 Nat) inTurn = some (final, outputs) ∧
      ¬ final.drainer.HasRead 7 ∧ reportedIn outputs 7 = 2 := by
    decide +kernel
  obtain ⟨final, outputs, ran, free, twice⟩ := ran
  refine ⟨final, outputs, ran, twice, ?_⟩
  exact reported_add_stored 8 inTurn (by decide +kernel) ran 7 free

/-- A packet that comes whole between the read and the removal of its key. -/
def betweenReadAndRemove : List (RaceEvent 1 Nat) :=
  [.bump 0 7, .advance 0, .drain [7], .advanceDrain, .bump 0 7, .advance 0, .advanceDrain, .advanceDrain]

/-- A packet that reads before a drain and writes after it. -/
def aroundDrain : List (RaceEvent 1 Nat) :=
  [.bump 0 7, .advance 0, .bump 0 7, .drain [7], .advanceDrain, .advanceDrain, .advanceDrain, .advance 0]

/-- The first is lost: one packet of two is reported, and none is left in the map. The
second makes an earlier packet count again: one is reported, and two are left. -/
theorem racing_packets_not_conserved :
    (run step (start 1 8 Nat) betweenReadAndRemove).map
        (fun r => (reportedIn r.2 7, r.1.stored 7, r.1.counted 7)) = some (1, 0, 2) ∧
      (run step (start 1 8 Nat) aroundDrain).map
        (fun r => (reportedIn r.2 7, r.1.stored 7, r.1.counted 7)) = some (1, 2, 2) := by
  decide +kernel

end Race

end Flod.Kernel
