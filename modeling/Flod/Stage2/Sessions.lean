import Flod.Lib.Run
import Flod.Stage2.Accounts

/-! What a change of an account does to its sessions. The sweep that follows the change removes
those stored by then; a login that read the old hash and is still being verified stores its own
afterwards. -/

namespace Flod.Stage2
open Flod.Lib

def AccountPhase.isOver : AccountPhase → Bool
  | .waiting | .done _ => true
  | _ => false

section Invariant

variable {ι F : Type} (bcrypt : Bcrypt) (requests : ι → AccountRequest)

/-- The hash of a write is the one stored for the account. -/
def Stored (s : AccountState ι F) (username : String) (against : Nat) : Prop :=
  (s.users.get? username).map UserRow.written = some against

/-- A login on its way to a session, with the write of the hash it read. -/
def AccountPhase.LoggingIn (request : AccountRequest) (against : Nat) : AccountPhase → Prop
  | .verifying (.login _) row => AccountState.verifies bcrypt request row = true ∧ row.written = against
  | .accepted (.login _) own => own = against
  | _ => False

/-- A sweep of the account's sessions is still to come. -/
def Sweeping (s : AccountState ι F) (username : String) : Prop :=
  ∃ i, s.progress i = .revoking ∧ (requests i).username = username

/-- Every login of the account on its way to a session has read the stored hash. -/
def LoginsStored (s : AccountState ι F) (username : String) : Prop :=
  ∀ i, (requests i).username = username → ∀ against, (s.progress i).LoggingIn bcrypt (requests i) against →
    Stored s username against

/-- Every session of the account was authenticated against the stored hash. -/
def SessionsStored (s : AccountState ι F) (username : String) : Prop :=
  ∀ token session, s.activeSessions.get? token = some session → session.username = username →
    Stored s username session.against

structure InOrder (s : AccountState ι F) (username : String) : Prop where
  logins : LoginsStored bcrypt requests s username
  sessions : SessionsStored s username

/-- Each account is either in order or about to be swept. -/
def Covered (s : AccountState ι F) : Prop :=
  ∀ username, Sweeping requests s username ∨ InOrder bcrypt requests s username

/-- A sweep comes after every login that read a hash no longer stored. -/
def SweptLast (s : AccountState ι F) : AccountEvent ι F → Prop
  | .act i _ _ _ => s.progress i = .revoking → LoginsStored bcrypt requests s (requests i).username
  | .forget _ => True

instance (s : AccountState ι F) (username : String) (against : Nat) : Decidable (Stored s username against) :=
  inferInstanceAs (Decidable (_ = _))

instance (s : AccountState ι F) (username : String) (request : AccountRequest) :
    (phase : AccountPhase) → Decidable (∀ against, phase.LoggingIn bcrypt request against → Stored s username against)
  | .verifying (.login _) row =>
      decidable_of_iff (AccountState.verifies bcrypt request row = true → Stored s username row.written)
        ⟨fun stored _ held => held.2 ▸ stored held.1, fun all fits => all _ ⟨fits, rfl⟩⟩
  | .accepted (.login _) own =>
      decidable_of_iff (Stored s username own) ⟨fun stored _ held => held ▸ stored, fun all => all _ rfl⟩
  | .verifying (.reauth _) _ | .accepted (.reauth _) _ | .waiting | .checking _ | .admitted _ | .refused _ _
  | .signedIn _ | .permitted | .found | .revoking | .done _ => isTrue nofun

instance [Fintype ι] (s : AccountState ι F) (username : String) : Decidable (LoginsStored bcrypt requests s username) :=
  inferInstanceAs (Decidable (∀ i, (requests i).username = username → _))

instance [Fintype ι] (s : AccountState ι F) : (e : AccountEvent ι F) → Decidable (SweptLast bcrypt requests s e)
  | .act _ _ _ _ => inferInstanceAs (Decidable (_ → _))
  | .forget _ => isTrue trivial

end Invariant

section Steps

variable {ι F : Type} [DecidableEq ι] {bcrypt : Bcrypt} {requests : ι → AccountRequest} {s s' : AccountState ι F}
  {i : ι} {phase : AccountPhase} {username : String}

/-- A sweep that is to come comes still, unless it is the request that moves. -/
theorem Sweeping.place (sweeping : Sweeping requests s username) (running : s.progress i ≠ .revoking)
    (progress : s'.progress = Function.update s.progress i phase) : Sweeping requests s' username := by
  obtain ⟨j, revoking, own⟩ := sweeping
  refine ⟨j, ?_, own⟩
  have differs : j ≠ i := fun same => running (same ▸ revoking)
  rw [progress, Function.update_of_ne differs]
  exact revoking

/-- An account stays in order where what was stored for it is stored still, and neither a login
nor a session comes to rest on anything else. -/
theorem InOrder.place (inOrder : InOrder bcrypt requests s username)
    (progress : s'.progress = Function.update s.progress i phase)
    (keeps : ∀ against, Stored s username against → Stored s' username against)
    (holds : ∀ against, (requests i).username = username → phase.LoggingIn bcrypt (requests i) against →
      Stored s username against)
    (sessions : ∀ token session, s'.activeSessions.get? token = some session → session.username = username →
      s.activeSessions.get? token = some session ∨ Stored s username session.against) :
    InOrder bcrypt requests s' username := by
  constructor
  · intro j own against held
    rw [progress] at held
    by_cases same : j = i
    · subst same
      rw [Function.update_self] at held
      exact keeps against (holds against own held)
    · rw [Function.update_of_ne same] at held
      exact keeps against (inOrder.logins j own against held)
  · intro token session found own
    rcases sessions token session found own with before | now
    · exact keeps _ (inOrder.sessions token session before own)
    · exact keeps _ now

theorem Covered.move (covered : Covered bcrypt requests s) (running : s.progress i ≠ .revoking)
    (progress : s'.progress = Function.update s.progress i phase)
    (users : s'.users = s.users) (sessions : s'.activeSessions = s.activeSessions)
    (holds : ∀ against, phase.LoggingIn bcrypt (requests i) against →
      (s.progress i).LoggingIn bcrypt (requests i) against ∨ Stored s (requests i).username against) :
    Covered bcrypt requests s' := by
  intro username
  refine (covered username).imp (fun sweeping => sweeping.place running progress) fun inOrder => ?_
  refine inOrder.place progress (fun against stored => ?_) (fun against own held => ?_) fun token session found _ => ?_
  · rw [Stored, users]
    exact stored
  · rcases holds against held with before | now
    · exact inOrder.logins i own against before
    · exact own ▸ now
  · rw [sessions] at found
    exact Or.inl found

/-- A change of an account leaves a sweep of it to come. -/
theorem Covered.change (covered : Covered bcrypt requests s) (running : s.progress i ≠ .revoking)
    (progress : s'.progress = Function.update s.progress i .revoking) (sessions : s'.activeSessions = s.activeSessions)
    (users : ∀ other, other ≠ (requests i).username → s'.users.get? other = s.users.get? other) :
    Covered bcrypt requests s' := by
  intro username
  by_cases same : username = (requests i).username
  · exact Or.inl ⟨i, by rw [progress, Function.update_self], same.symm⟩
  · refine (covered username).imp (fun sweeping => sweeping.place running progress) fun inOrder => ?_
    refine inOrder.place progress (fun against stored => ?_) (fun _ _ held => held.elim) fun token session found _ => ?_
    · rw [Stored, users username same]
      exact stored
    · rw [sessions] at found
      exact Or.inl found

/-- A new account leaves the others alone, and nothing was stored for it before. -/
theorem Covered.create {row : UserRow} {answer : AccountAnswer} {writes : Nat} (covered : Covered bcrypt requests s)
    (running : s.progress i ≠ .revoking) (absent : s.users.get? username = none) :
    Covered bcrypt requests
      ({ s with users := s.users.set username row, writes := writes }.place i (.done answer)) := by
  intro other
  refine (covered other).imp (fun sweeping => sweeping.place running rfl) fun inOrder => ?_
  refine inOrder.place rfl (fun against stored => ?_) (fun _ _ held => held.elim) fun _ _ found _ => Or.inl found
  have apart : other ≠ username := by
    rintro rfl
    rw [Stored, absent] at stored
    cases stored
  change ((s.users.set username row).get? other).map UserRow.written = some against
  rw [Dict.get?_set_of_ne _ _ apart]
  exact stored

/-- The session of a login is authenticated against what it read. -/
theorem Covered.signIn [Arith F] {against : Nat} {token : String} {door : Door} (covered : Covered bcrypt requests s)
    (phase : s.progress i = .accepted door against) :
    Covered bcrypt requests (s.accept requests i token against door) := by
  have running : s.progress i ≠ .revoking := by rw [phase]; exact nofun
  cases door with
  | reauth caller => exact covered.move running rfl rfl rfl fun _ held => held.elim
  | login clientIp =>
    intro username
    refine (covered username).imp (fun sweeping => sweeping.place running rfl) fun inOrder => ?_
    refine inOrder.place rfl (fun _ stored => stored) (fun _ _ held => held.elim) fun other session found own => ?_
    change (s.activeSessions.set token _).get? other = some session at found
    rw [Dict.get?_set] at found
    split at found
    · cases found
      exact Or.inr (inOrder.logins i own against (by rw [phase]; rfl))
    · exact Or.inl found

theorem Covered.sweep {answer : AccountAnswer} (covered : Covered bcrypt requests s)
    (last : LoginsStored bcrypt requests s (requests i).username) :
    Covered bcrypt requests ((s.revokeSessionsForUser (requests i).username).place i (.done answer)) := by
  intro username
  have remains : ∀ token session,
      (s.activeSessions.filter (fun e => decide (e.2.username ≠ (requests i).username))).get? token = some session →
        s.activeSessions.get? token = some session ∧ session.username ≠ (requests i).username := by
    intro token session found
    rw [Dict.get?_filter_eq_some] at found
    exact ⟨found.1, of_decide_eq_true found.2⟩
  by_cases same : username = (requests i).username
  · subst same
    refine Or.inr ⟨fun j own against held => ?_, fun token session found own => ?_⟩
    · change AccountPhase.LoggingIn _ _ _ (Function.update s.progress i (.done answer) j) at held
      by_cases moved : j = i
      · rw [moved, Function.update_self] at held
        exact held.elim
      · rw [Function.update_of_ne moved] at held
        exact last j own against held
    · exact absurd own (remains token session found).2
  · rcases covered username with ⟨j, revoking, own⟩ | inOrder
    · have differs : j ≠ i := by
        rintro rfl
        exact same own.symm
      exact Or.inl ⟨j, (Function.update_of_ne differs _ _).trans revoking, own⟩
    · refine Or.inr (inOrder.place rfl (fun _ stored => stored) (fun _ _ held => held.elim) fun _ _ found _ => ?_)
      exact Or.inl (remains _ _ found).1

section Advance

variable {drawn : String} {door : Door}

theorem Covered.readHash (covered : Covered bcrypt requests s) (phase : s.progress i = .admitted door) :
    Covered bcrypt requests (s.place i (s.readHash (requests i) door)) := by
  have running : s.progress i ≠ .revoking := by rw [phase]; exact nofun
  refine covered.move running rfl rfl rfl fun against held => Or.inr ?_
  unfold AccountState.readHash at held
  cases found : s.users.get? (door.account (requests i)) with
  | none =>
    rw [found] at held
    cases door <;> exact held.elim
  | some row =>
    rw [found] at held
    cases door with
    | reauth caller => exact held.elim
    | login clientIp =>
      obtain ⟨-, rfl⟩ := held
      change s.users.get? (requests i).username = some row at found
      rw [Stored, found]
      rfl

/-- A login is accepted with what it read, and only if the password fits. -/
theorem Covered.verify {row : UserRow} {answer : AccountAnswer} (covered : Covered bcrypt requests s)
    (phase : s.progress i = .verifying door row) :
    Covered bcrypt requests (s.place i
      (if AccountState.verifies bcrypt (requests i) row then .accepted door row.written else .refused door answer)) := by
  have running : s.progress i ≠ .revoking := by rw [phase]; exact nofun
  refine covered.move running rfl rfl rfl fun against held => Or.inl ?_
  split at held
  · next fits =>
    rw [phase]
    cases door with
    | reauth caller => exact held.elim
    | login clientIp => exact ⟨fits, held⟩
  · exact held.elim

theorem Covered.perform (covered : Covered bcrypt requests s) (phase : s.progress i = .permitted) :
    Covered bcrypt requests (s.perform bcrypt requests i drawn) := by
  have running : s.progress i ≠ .revoking := by rw [phase]; exact nofun
  unfold AccountState.perform
  split
  · exact covered
  · split
    · exact covered.move running rfl rfl rfl fun _ held => held.elim
    · next absent => exact covered.create running (Option.not_isSome_iff_eq_none.mp absent)
  · refine covered.move running rfl rfl rfl fun _ held => ?_
    split at held <;> exact held.elim
  · refine covered.move running rfl rfl rfl fun _ held => ?_
    split at held <;> exact held.elim

theorem Covered.commit (covered : Covered bcrypt requests s) (phase : s.progress i = .found) :
    Covered bcrypt requests (s.commit bcrypt requests i drawn) := by
  have running : s.progress i ≠ .revoking := by rw [phase]; exact nofun
  unfold AccountState.commit
  split
  · exact covered
  · exact covered
  · next asked =>
    split
    · refine covered.change running rfl rfl fun other apart => ?_
      rw [asked] at apart
      exact (Dict.get?_erase ..).trans (if_neg (Ne.symm apart))
    · exact covered.move running rfl rfl rfl fun _ held => held.elim
  · next asked =>
    split
    · refine covered.change running rfl rfl fun other apart => ?_
      rw [asked] at apart
      exact Dict.get?_set_of_ne _ _ apart
    · exact covered.change running rfl rfl fun _ _ => rfl

variable [Arith F]

theorem Covered.advance {ok : Bool} (covered : Covered bcrypt requests s)
    (last : s.progress i = .revoking → LoginsStored bcrypt requests s (requests i).username) :
    Covered bcrypt requests (s.advance bcrypt requests i ok drawn).1 := by
  unfold AccountState.advance
  have ended : s.progress i ≠ .revoking → ∀ answer, Covered bcrypt requests (s.place i (.done answer)) :=
    fun running _ => covered.move running rfl rfl rfl fun _ held => held.elim
  cases phase : s.progress i with
  | waiting =>
    refine covered.move (by rw [phase]; exact nofun) rfl rfl rfl fun against held => ?_
    unfold AccountState.identify at held
    split at held
    · exact held.elim
    all_goals split at held <;> exact held.elim
  | checking door =>
    dsimp only
    rw [AccountState.check_eq]
    refine covered.move (by rw [phase]; exact nofun) rfl rfl rfl fun against held => ?_
    split at held <;> exact held.elim
  | admitted door =>
    cases ok with
    | true => exact covered.readHash phase
    | false => exact ended (by rw [phase]; exact nofun) _
  | verifying door row => exact covered.verify phase
  | refused door answer =>
    dsimp only
    rw [AccountState.refuse_eq]
    exact covered.move (by rw [phase]; exact nofun) rfl rfl rfl fun _ held => held.elim
  | accepted door against => exact covered.signIn phase
  | signedIn door => exact covered.move (by rw [phase]; exact nofun) rfl rfl rfl fun _ held => held.elim
  | permitted =>
    cases ok with
    | true => exact covered.perform phase
    | false => exact ended (by rw [phase]; exact nofun) _
  | found =>
    cases ok with
    | true => exact covered.commit phase
    | false => exact ended (by rw [phase]; exact nofun) _
  | revoking => exact covered.sweep (last phase)
  | done answer => exact covered

theorem Covered.step {e : AccountEvent ι F} {effect : AccountEffect F} (covered : Covered bcrypt requests s)
    (taken : s.step bcrypt requests e = some (s', effect)) (last : SweptLast bcrypt requests s e) :
    Covered bcrypt requests s' := by
  cases e with
  | act i now ok drawn =>
    unfold AccountState.step at taken
    dsimp only at taken
    split at taken
    · have made : AccountState.advance bcrypt requests { s with clock := now } i ok drawn = (s', effect) :=
        Option.some.inj taken
      have ticked : Covered bcrypt requests { s with clock := now } := fun username =>
        (covered username).imp id fun inOrder => ⟨inOrder.logins, inOrder.sessions⟩
      have next : Covered bcrypt requests (AccountState.advance bcrypt requests { s with clock := now } i ok drawn).1 :=
        ticked.advance last
      rw [made] at next
      exact next
    · cases taken
  | forget sessionId =>
    cases taken
    intro username
    refine (covered username).imp id fun inOrder => ⟨inOrder.logins, fun token session found own => ?_⟩
    change (s.activeSessions.erase sessionId).get? token = some session at found
    rw [Dict.get?_erase] at found
    split at found
    · cases found
    · exact inOrder.sessions token session found own

end Advance

end Steps

/-- A password is its own hash. -/
def plainPasswords : Bcrypt := ⟨fun password hash => some (decide (password = hash)), fun password _ => password⟩

/-- One account, whose owner is signed in. -/
def ownerSignedIn : AccountState Bool ℚ where
  users := Dict.empty.set "admin" ⟨"old", 0⟩
  activeSessions := Dict.empty.set "token" ⟨"admin", 0, 0⟩
  failedAttempts := fun _ => []
  clock := 0
  writes := 1
  progress := fun _ => .waiting

theorem ownerSignedIn_stored (username : String) : SessionsStored ownerSignedIn username := by
  intro token session found own
  have member := (Dict.get?_eq_some_iff ..).mp found
  have only : (token, session) = ("token", ⟨"admin", 0, 0⟩) := List.mem_singleton.mp member
  cases only
  cases own
  rfl

/-- A change of the password under the name true, and a login under the name false. -/
def changeBesideLogin (password : String) : Bool → AccountRequest
  | true => .setPassword (some "token") "admin" "new" "old"
  | false => .login "10.0.0.1" "admin" password

/-- The password is changed, and then the owner signs in with the new one. -/
def changeThenLogin : List (AccountEvent Bool ℚ) :=
  List.replicate 8 (.act true 1 true "") ++ List.replicate 6 (.act false 2 true "fresh")

/-- The login has verified the old password when the change begins, and stores its session when
the change has finished. -/
def changeDuringLogin : List (AccountEvent Bool ℚ) :=
  List.replicate 4 (.act false 1 true "") ++ List.replicate 8 (.act true 2 true "") ++
    List.replicate 2 (.act false 3 true "late")

end Flod.Stage2
