import Flod.Lib.Run
import Flod.Stage2.Accounts

/-! The lockout beside concurrent requests. A check counts the failures recorded so far, not the
requests that were let through and have yet to fail. -/

namespace Flod.Stage2
open Flod.Lib Flod.Lib.Throttle

/-- Let through at the door, and not verified yet. -/
def AccountPhase.admittedAt (door : Door) : AccountPhase → Nat
  | .admitted own | .verifying own _ => if own = door then 1 else 0
  | _ => 0

/-- Failed at the door, and not recorded yet. -/
def AccountPhase.owingAt (door : Door) : AccountPhase → Nat
  | .refused own _ => if own = door then 1 else 0
  | _ => 0

def AccountPhase.acceptedAt (door : Door) : AccountPhase → Bool
  | .accepted own _ | .signedIn own => decide (own = door)
  | _ => false

/-- Nothing in flight at the door. -/
structure AccountPhase.Idle (door : Door) (phase : AccountPhase) : Prop where
  admitted : phase.admittedAt door = 0
  owing : phase.owingAt door = 0
  accepted : phase.acceptedAt door = false

section Effects

variable {F : Type}

/-- The time of a verification at the door. -/
def AccountEffect.verifiedAt (door : Door) : AccountEffect F → List F
  | .verified own time _ => if own = door then [time] else []
  | .nothing => []

/-- No verification at the door succeeds. -/
def AccountEffect.Fails (door : Door) : AccountEffect F → Prop
  | .verified own _ accepted => own = door → accepted = false
  | .nothing => True

instance (door : Door) : (effect : AccountEffect F) → Decidable (effect.Fails door)
  | .verified _ _ _ => inferInstanceAs (Decidable (_ → _))
  | .nothing => isTrue trivial

end Effects

section Ledger

variable {ι F : Type} [Fintype ι] [Arith F]

namespace AccountState

def admittedCount (s : AccountState ι F) (door : Door) : Nat := ∑ i, (s.progress i).admittedAt door

def owingCount (s : AccountState ι F) (door : Door) : Nat := ∑ i, (s.progress i).owingAt door

end AccountState

/-- A check that lets a request through finds room for it beside those in flight. -/
def Spaced (door : Door) (s : AccountState ι F) : AccountEvent ι F → Prop
  | .act i now _ _ =>
      s.progress i = .checking door →
        (recent loginWindowSecs now (s.failedAttempts door)).length < loginMaxAttempts →
          (recent loginWindowSecs now (s.failedAttempts door)).length + s.admittedCount door + s.owingCount door <
            loginMaxAttempts
  | .forget _ => True

instance (door : Door) (s : AccountState ι F) : (e : AccountEvent ι F) → Decidable (Spaced door s e)
  | .act _ _ _ _ => inferInstanceAs (Decidable (_ → _ → _))
  | .forget _ => isTrue trivial

/-- The ledger of a door, and no request past it. -/
structure WithinLimit (door : Door) (past : List (AccountEffect F)) (s : AccountState ι F) : Prop where
  limited : Limited loginMaxAttempts loginWindowSecs s.clock (past.flatMap (AccountEffect.verifiedAt door))
    (s.failedAttempts door) (s.admittedCount door) (s.owingCount door)
  unaccepted : ∀ i, (s.progress i).acceptedAt door = false

variable {door own : Door} {past past' : List (AccountEffect F)} {s s' : AccountState ι F} {i : ι}
  {phase : AccountPhase}

theorem WithinLimit.tick {now : F} (guarded : WithinLimit door past s) (later : s.clock ≤ now) :
    WithinLimit door past { s with clock := now } := ⟨guarded.limited.pass later, guarded.unaccepted⟩

theorem WithinLimit.effect {effect : AccountEffect F} (guarded : WithinLimit door past s)
    (elsewhere : effect.verifiedAt door = []) : WithinLimit door (past ++ [effect]) s := by
  refine ⟨?_, guarded.unaccepted⟩
  have same : (past ++ [effect]).flatMap (AccountEffect.verifiedAt door) =
      past.flatMap (AccountEffect.verifiedAt door) := by
    rw [List.flatMap_append, List.flatMap_singleton, elsewhere, List.append_nil]
  rw [same]
  exact guarded.limited

section Moves

variable [DecidableEq ι]

/-- One request moves: what it counted for before and counts for after, and what that makes of
the ledger whatever the others count for. -/
theorem WithinLimit.move {a a' o o' : Nat} (guarded : WithinLimit door past s) (clock : s'.clock = s.clock)
    (progress : s'.progress = Function.update s.progress i phase)
    (admitted : (s.progress i).admittedAt door = a) (admitted' : phase.admittedAt door = a')
    (owing : (s.progress i).owingAt door = o) (owing' : phase.owingAt door = o')
    (unaccepted : phase.acceptedAt door = false)
    (limited : ∀ A R, s.admittedCount door = A + a → s.owingCount door = R + o →
      Limited loginMaxAttempts loginWindowSecs s.clock (past.flatMap (AccountEffect.verifiedAt door))
        (s.failedAttempts door) (A + a) (R + o) →
      Limited loginMaxAttempts loginWindowSecs s.clock (past'.flatMap (AccountEffect.verifiedAt door))
        (s'.failedAttempts door) (A + a') (R + o')) :
    WithinLimit door past' s' := by
  obtain ⟨A, countA, countA'⟩ := sum_update_eq (AccountPhase.admittedAt door) s.progress i phase
  obtain ⟨R, countR, countR'⟩ := sum_update_eq (AccountPhase.owingAt door) s.progress i phase
  rw [admitted] at countA
  rw [owing] at countR
  have before := guarded.limited
  rw [AccountState.admittedCount, AccountState.owingCount, countA, countR] at before
  constructor
  · rw [AccountState.admittedCount, AccountState.owingCount, progress, countA', countR', admitted', owing', clock]
    exact limited A R countA countR before
  · intro j
    rw [progress]
    by_cases same : j = i
    · subst same
      rw [Function.update_self]
      exact unaccepted
    · rw [Function.update_of_ne same]
      exact guarded.unaccepted j

theorem WithinLimit.aside (guarded : WithinLimit door past s) (before : (s.progress i).Idle door)
    (after : phase.Idle door) (clock : s'.clock = s.clock) (progress : s'.progress = Function.update s.progress i phase)
    (failures : s'.failedAttempts door = s.failedAttempts door) : WithinLimit door past s' := by
  refine guarded.move clock progress before.admitted after.admitted before.owing after.owing after.accepted ?_
  intro A R _ _ limited
  rw [failures]
  exact limited

omit [Fintype ι] [DecidableEq ι] [Arith F] in
theorem identify_idle (request : AccountRequest) : (s.identify request).Idle door := by
  unfold AccountState.identify
  split
  · exact ⟨rfl, rfl, rfl⟩
  · split <;> exact ⟨rfl, rfl, rfl⟩
  · split <;> exact ⟨rfl, rfl, rfl⟩
  · split <;> exact ⟨rfl, rfl, rfl⟩

theorem WithinLimit.check (guarded : WithinLimit door past s) (phase : s.progress i = .checking own)
    (spaced : own = door → (recent loginWindowSecs s.clock (s.failedAttempts door)).length < loginMaxAttempts →
      (recent loginWindowSecs s.clock (s.failedAttempts door)).length + s.admittedCount door + s.owingCount door <
        loginMaxAttempts) : WithinLimit door past (s.check i own) := by
  have before : (s.progress i).Idle door := by rw [phase]; exact ⟨rfl, rfl, rfl⟩
  rw [AccountState.check_eq]
  by_cases same : own = door
  · subst same
    split
    · refine guarded.move rfl rfl before.admitted rfl before.owing rfl rfl fun A R _ _ limited => ?_
      change Limited _ _ _ _ (Function.update s.failedAttempts own _ own) _ _
      rw [Function.update_self]
      exact limited.prune
    · next room =>
      have fits := spaced rfl (not_le.mp room)
      refine guarded.move rfl rfl before.admitted (if_pos rfl) before.owing rfl rfl fun A R countA countR limited => ?_
      change Limited _ _ _ _ (Function.update s.failedAttempts own _ own) _ _
      rw [countA, countR] at fits
      rw [Function.update_self]
      exact (limited.letIn fits).prune
  · have kept : Function.update s.failedAttempts own (recent loginWindowSecs s.clock (s.failedAttempts own)) door =
        s.failedAttempts door := Function.update_of_ne (Ne.symm same) _ _
    have elsewhere : (AccountPhase.admitted own).Idle door := ⟨if_neg same, rfl, rfl⟩
    split
    · exact guarded.aside before ⟨rfl, rfl, rfl⟩ rfl rfl kept
    · exact guarded.aside before elsewhere rfl rfl kept

/-- A request leaves the door before its password was verified. -/
theorem WithinLimit.leave {answer : AccountAnswer} (guarded : WithinLimit door past s)
    (phase : s.progress i = .admitted own) : WithinLimit door past (s.place i (.done answer)) := by
  by_cases same : own = door
  · have admitted : (s.progress i).admittedAt door = 1 := by rw [phase]; exact if_pos same
    have owing : (s.progress i).owingAt door = 0 := by rw [phase]; rfl
    exact guarded.move rfl rfl admitted rfl owing rfl rfl fun A R _ _ limited => limited.withdraw
  · have before : (s.progress i).Idle door := by rw [phase]; exact ⟨if_neg same, rfl, rfl⟩
    exact guarded.aside before ⟨rfl, rfl, rfl⟩ rfl rfl rfl

/-- A username nobody has is a failure to record, without a verification. -/
theorem WithinLimit.unknown {answer : AccountAnswer} (guarded : WithinLimit door past s)
    (phase : s.progress i = .admitted own) : WithinLimit door past (s.place i (.refused own answer)) := by
  by_cases same : own = door
  · have admitted : (s.progress i).admittedAt door = 1 := by rw [phase]; exact if_pos same
    have owing : (s.progress i).owingAt door = 0 := by rw [phase]; rfl
    exact guarded.move rfl rfl admitted rfl owing (if_pos same) rfl fun A R _ _ limited => limited.withdraw.owe
  · have before : (s.progress i).Idle door := by rw [phase]; exact ⟨if_neg same, rfl, rfl⟩
    have after : (AccountPhase.refused own answer).Idle door := ⟨rfl, if_neg same, rfl⟩
    exact guarded.aside before after rfl rfl rfl

theorem WithinLimit.readHash (guarded : WithinLimit door past s) (phase : s.progress i = .admitted own)
    (request : AccountRequest) : WithinLimit door past (s.place i (s.readHash request own)) := by
  unfold AccountState.readHash
  cases s.users.get? (own.account request) with
  | some row =>
    have same : (s.progress i).admittedAt door = if own = door then 1 else 0 := by rw [phase]; rfl
    have owing : (s.progress i).owingAt door = 0 := by rw [phase]; rfl
    exact guarded.move rfl rfl same rfl owing rfl rfl fun _ _ _ _ limited => limited
  | none =>
    cases own with
    | login clientIp => exact guarded.unknown phase
    | reauth username => exact guarded.leave phase

/-- A verification that fails, at this door or at another one. -/
theorem WithinLimit.verify {row : UserRow} {accepted : Bool} {against : Nat} {answer : AccountAnswer}
    (guarded : WithinLimit door past s) (phase : s.progress i = .verifying own row)
    (fails : own = door → accepted = false) :
    WithinLimit door (past ++ [.verified own s.clock accepted])
      (s.place i (if accepted then .accepted own against else .refused own answer)) := by
  by_cases same : own = door
  · have admitted : (s.progress i).admittedAt door = 1 := by rw [phase]; exact if_pos same
    have owing : (s.progress i).owingAt door = 0 := by rw [phase]; rfl
    have now : (AccountEffect.verified own s.clock accepted).verifiedAt door = [s.clock] := if_pos same
    have verified : (past ++ [AccountEffect.verified own s.clock accepted]).flatMap (AccountEffect.verifiedAt door) =
        past.flatMap (AccountEffect.verifiedAt door) ++ [s.clock] := by
      rw [List.flatMap_append, List.flatMap_singleton, now]
    rw [if_neg (by rw [fails same]; exact Bool.false_ne_true)]
    refine guarded.move rfl rfl admitted rfl owing (if_pos same) rfl fun A R _ _ limited => ?_
    rw [verified]
    exact limited.verify
  · have before : (s.progress i).Idle door := by rw [phase]; exact ⟨if_neg same, rfl, rfl⟩
    have after : (if accepted then AccountPhase.accepted own against else .refused own answer).Idle door := by
      split
      · exact ⟨rfl, rfl, decide_eq_false same⟩
      · exact ⟨rfl, if_neg same, rfl⟩
    have moved : WithinLimit door past (s.place i (if accepted then .accepted own against else .refused own answer)) :=
      guarded.aside before after rfl rfl rfl
    exact moved.effect (if_neg same)

theorem WithinLimit.refuse {answer final : AccountAnswer} (guarded : WithinLimit door past s)
    (phase : s.progress i = .refused own answer) : WithinLimit door past ((s.refuse own).place i (.done final)) := by
  rw [AccountState.refuse_eq]
  by_cases same : own = door
  · subst same
    have admitted : (s.progress i).admittedAt own = 0 := by rw [phase]; rfl
    have owing : (s.progress i).owingAt own = 1 := by rw [phase]; exact if_pos rfl
    refine guarded.move rfl rfl admitted rfl owing rfl rfl fun A R _ _ limited => ?_
    change Limited _ _ _ _ (Function.update s.failedAttempts own _ own) _ _
    rw [Function.update_self]
    exact limited.record
  · have before : (s.progress i).Idle door := by rw [phase]; exact ⟨rfl, if_neg same, rfl⟩
    exact guarded.aside before ⟨rfl, rfl, rfl⟩ rfl rfl (Function.update_of_ne (Ne.symm same) _ _)

/-- A request past another door leaves this one alone. -/
theorem WithinLimit.accept {against : Nat} {token : String} {requests : ι → AccountRequest}
    (guarded : WithinLimit door past s) (phase : s.progress i = .accepted own against) :
    WithinLimit door past (s.accept requests i token against own) := by
  have unaccepted := guarded.unaccepted i
  rw [phase] at unaccepted
  have apart : own ≠ door := of_decide_eq_false unaccepted
  have before : (s.progress i).Idle door := by rw [phase]; exact ⟨rfl, rfl, unaccepted⟩
  cases own with
  | login clientIp =>
    have after : (AccountPhase.signedIn (.login clientIp)).Idle door := ⟨rfl, rfl, unaccepted⟩
    exact guarded.aside before after rfl rfl rfl
  | reauth username => exact guarded.aside before ⟨rfl, rfl, rfl⟩ rfl rfl (Function.update_of_ne apart.symm _ _)

theorem WithinLimit.forgive {answer : AccountAnswer} (guarded : WithinLimit door past s)
    (phase : s.progress i = .signedIn own) : WithinLimit door past ((s.forgive own).place i (.done answer)) := by
  have unaccepted := guarded.unaccepted i
  rw [phase] at unaccepted
  have apart : own ≠ door := of_decide_eq_false unaccepted
  have before : (s.progress i).Idle door := by rw [phase]; exact ⟨rfl, rfl, unaccepted⟩
  exact guarded.aside before ⟨rfl, rfl, rfl⟩ rfl rfl (Function.update_of_ne apart.symm _ _)

variable {bcrypt : Bcrypt} {requests : ι → AccountRequest} {drawn : String}

theorem WithinLimit.perform (guarded : WithinLimit door past s) (phase : s.progress i = .permitted) :
    WithinLimit door past (s.perform bcrypt requests i drawn) := by
  have before : (s.progress i).Idle door := by rw [phase]; exact ⟨rfl, rfl, rfl⟩
  have found : (AccountPhase.found).Idle door := ⟨rfl, rfl, rfl⟩
  unfold AccountState.perform
  split
  · exact guarded
  · split <;> exact guarded.aside before ⟨rfl, rfl, rfl⟩ rfl rfl rfl
  · split
    · exact guarded.aside before found rfl rfl rfl
    · exact guarded.aside before ⟨rfl, rfl, rfl⟩ rfl rfl rfl
  · split
    · exact guarded.aside before found rfl rfl rfl
    · exact guarded.aside before ⟨rfl, rfl, rfl⟩ rfl rfl rfl

theorem WithinLimit.commit (guarded : WithinLimit door past s) (phase : s.progress i = .found) :
    WithinLimit door past (s.commit bcrypt requests i drawn) := by
  have before : (s.progress i).Idle door := by rw [phase]; exact ⟨rfl, rfl, rfl⟩
  have revoking : (AccountPhase.revoking).Idle door := ⟨rfl, rfl, rfl⟩
  unfold AccountState.commit
  split
  · exact guarded
  · exact guarded
  · split
    · exact guarded.aside before revoking rfl rfl rfl
    · exact guarded.aside before ⟨rfl, rfl, rfl⟩ rfl rfl rfl
  · split <;> exact guarded.aside before revoking rfl rfl rfl

theorem WithinLimit.advance {ok : Bool} (guarded : WithinLimit door past s)
    (spaced : s.progress i = .checking door →
      (recent loginWindowSecs s.clock (s.failedAttempts door)).length < loginMaxAttempts →
        (recent loginWindowSecs s.clock (s.failedAttempts door)).length + s.admittedCount door + s.owingCount door <
          loginMaxAttempts)
    (fails : (s.advance bcrypt requests i ok drawn).2.Fails door) :
    WithinLimit door (past ++ [(s.advance bcrypt requests i ok drawn).2]) (s.advance bcrypt requests i ok drawn).1 := by
  unfold AccountState.advance at fails ⊢
  cases phase : s.progress i with
  | waiting =>
    have before : (s.progress i).Idle door := by rw [phase]; exact ⟨rfl, rfl, rfl⟩
    have moved : WithinLimit door past (s.place i (s.identify (requests i))) :=
      guarded.aside before (identify_idle _) rfl rfl rfl
    exact moved.effect rfl
  | checking own =>
    have checked := guarded.check phase fun same => spaced (by rw [phase, same])
    exact checked.effect rfl
  | admitted own =>
    cases ok with
    | true => exact (guarded.readHash phase _).effect rfl
    | false => exact (guarded.leave phase).effect rfl
  | verifying own row =>
    rw [phase] at fails
    exact guarded.verify phase fails
  | refused own answer => exact (guarded.refuse phase).effect rfl
  | accepted own against => exact (guarded.accept phase).effect rfl
  | signedIn own => exact (guarded.forgive phase).effect rfl
  | permitted =>
    have before : (s.progress i).Idle door := by rw [phase]; exact ⟨rfl, rfl, rfl⟩
    have raised : WithinLimit door past (s.place i (.done .raised)) := guarded.aside before ⟨rfl, rfl, rfl⟩ rfl rfl rfl
    cases ok with
    | true => exact (guarded.perform phase).effect rfl
    | false => exact raised.effect rfl
  | found =>
    have before : (s.progress i).Idle door := by rw [phase]; exact ⟨rfl, rfl, rfl⟩
    have raised : WithinLimit door past (s.place i (.done .raised)) := guarded.aside before ⟨rfl, rfl, rfl⟩ rfl rfl rfl
    cases ok with
    | true => exact (guarded.commit phase).effect rfl
    | false => exact raised.effect rfl
  | revoking =>
    have before : (s.progress i).Idle door := by rw [phase]; exact ⟨rfl, rfl, rfl⟩
    have swept : WithinLimit door past ((s.revokeSessionsForUser (requests i).username).place i (.done .success)) :=
      guarded.aside before ⟨rfl, rfl, rfl⟩ rfl rfl rfl
    exact swept.effect rfl
  | done answer => exact guarded.effect rfl

theorem WithinLimit.step {e : AccountEvent ι F} {effect : AccountEffect F} (guarded : WithinLimit door past s)
    (taken : s.step bcrypt requests e = some (s', effect)) (spaced : Spaced door s e) (fails : effect.Fails door) :
    WithinLimit door (past ++ [effect]) s' := by
  cases e with
  | act i now ok drawn =>
    unfold AccountState.step at taken
    dsimp only at taken
    split at taken
    · next later =>
      have made : AccountState.advance bcrypt requests { s with clock := now } i ok drawn = (s', effect) :=
        Option.some.inj taken
      have next := (guarded.tick later).advance spaced (by rw [made]; exact fails)
      rw [made] at next
      exact next
    · cases taken
  | forget sessionId =>
    cases taken
    exact WithinLimit.effect ⟨guarded.limited, guarded.unaccepted⟩ rfl

end Moves

end Ledger

/-- For every door, and every interleaving of any number of requests none of which succeeds
there: if each check that lets one through finds room for it beside the failures in the window
and the requests in flight, no window holds more verifications than the limit. -/
theorem verifications_within_window {ι F : Type} [DecidableEq ι] [Fintype ι] [Arith F] (bcrypt : Bcrypt)
    (requests : ι → AccountRequest) (door : Door) (start final : AccountState ι F) (events : List (AccountEvent ι F))
    (past : List (AccountEffect F)) (idle : ∀ i, start.progress i = .waiting)
    (spaced : Always (AccountState.step bcrypt requests) (fun s e effect _ => Spaced door s e ∧ effect.Fails door) start
      events)
    (ran : run (AccountState.step bcrypt requests) start events = some (final, past)) (a : F) :
    within loginWindowSecs a (past.flatMap (AccountEffect.verifiedAt door)) ≤ loginMaxAttempts := by
  have none : start.admittedCount door = 0 ∧ start.owingCount door = 0 := by
    constructor <;> exact Finset.sum_eq_zero fun i _ => by rw [idle i]; rfl
  have opened : WithinLimit door [] start := by
    refine ⟨?_, fun i => by rw [idle i]; rfl⟩
    rw [none.1, none.2]
    exact Limited.start _ _ _
  have guarded := run_history_of_always (I := WithinLimit door)
    (fun past s e mid effect kept taken meets => kept.step taken meets.1 meets.2) events [] start final past opened
    spaced ran
  exact guarded.limited.bounded a

/-- One account, whose owner is signed in, and no failures yet. -/
def oneAccount {ι : Type} : AccountState ι ℚ where
  users := Dict.empty.set "admin" ⟨"hash", 0⟩
  activeSessions := Dict.empty.set "token" ⟨"admin", 0, 0⟩
  failedAttempts := fun _ => []
  clock := 0
  writes := 1
  progress := fun _ => .waiting

/-- No password is the right one. -/
def wrongPassword : Bcrypt := ⟨fun _ _ => some false, fun password _ => password⟩

/-- A guess at the login. -/
def loginGuess : AccountRequest := .login "10.0.0.1" "admin" "guess"

/-- A guess at the caller's own password. -/
def reauthGuess : AccountRequest := .setPassword (some "token") "admin" "new" "guess"

/-- One guess after the other. -/
def guessInTurn : List (AccountEvent Bool ℚ) :=
  List.replicate 5 (.act true 10 true "") ++ List.replicate 5 (.act false 20 true "")

theorem guessInTurn_within :
    ∃ final past, run (AccountState.step wrongPassword fun _ => loginGuess) oneAccount guessInTurn =
        some (final, past) ∧
      within loginWindowSecs 0 (past.flatMap (AccountEffect.verifiedAt (.login "10.0.0.1"))) = 2 ∧
      ∀ a : ℚ, within loginWindowSecs a (past.flatMap (AccountEffect.verifiedAt (.login "10.0.0.1"))) ≤ 5 := by
  have counted : (run (AccountState.step wrongPassword fun _ => loginGuess) oneAccount guessInTurn).map
      (fun result => within loginWindowSecs 0 (result.2.flatMap (AccountEffect.verifiedAt (.login "10.0.0.1")))) =
        some 2 := by decide +kernel
  obtain ⟨⟨final, past⟩, ran, two⟩ := Option.map_eq_some_iff.mp counted
  refine ⟨final, past, ran, two, fun a => ?_⟩
  exact verifications_within_window wrongPassword _ (.login "10.0.0.1") oneAccount final guessInTurn past (fun _ => rfl)
    (by decide +kernel) ran a

/-- Six requests, all checked before the first of them is verified. -/
def guessAtOnce : List (AccountEvent (Fin 6) ℚ) :=
  (List.finRange 6).flatMap (fun i => List.replicate 2 (.act i 10 true "")) ++
    (List.finRange 6).flatMap (fun i => List.replicate 3 (.act i 20 true ""))

/-- All six are verified, at the login and where an account request asks for the password. -/
theorem guessAtOnce_exceeds :
    (run (AccountState.step wrongPassword fun _ => loginGuess) oneAccount guessAtOnce).map
        (fun result => within loginWindowSecs 0 (result.2.flatMap (AccountEffect.verifiedAt (.login "10.0.0.1")))) =
      some 6 ∧
    (run (AccountState.step wrongPassword fun _ => reauthGuess) oneAccount guessAtOnce).map
        (fun result => within loginWindowSecs 0 (result.2.flatMap (AccountEffect.verifiedAt (.reauth "admin")))) =
      some 6 := by
  constructor
  · decide +kernel
  · decide +kernel

end Flod.Stage2
