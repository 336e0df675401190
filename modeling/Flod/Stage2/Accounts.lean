import Flod.Lib.Arith
import Flod.Lib.Dict
import Flod.Lib.Throttle
import Mathlib.Logic.Function.Basic

/-! Signing in and managing accounts, one operation at a time. Requests run side by side, and
between two operations of one request any number of the others' may come. -/

namespace Flod.Stage2
open Flod.Lib Flod.Lib.Throttle

def loginMaxAttempts : Nat := 5

def loginWindowSecs {F : Type} [Arith F] : F := 300

def loginLockoutSecs : Nat := 300

/-- What the service takes from bcrypt. None is the error a hash in another format raises. -/
structure Bcrypt where
  checkpw : String → String → Option Bool
  hashpw : String → String → String

/-- One row of `users`, with the number of the write that stored its hash. -/
structure UserRow where
  passwordHash : String
  written : Nat
  deriving DecidableEq

/-- A session, with the write of the hash it was authenticated against. -/
structure Session (F : Type) where
  username : String
  lastActive : F
  against : Nat

inductive AccountRequest where
  | login (clientIp username password : String)
  | createUser (sessionId : Option String) (username password adminPassword : String)
  | deleteUser (sessionId : Option String) (username adminPassword : String)
  | setPassword (sessionId : Option String) (username newPassword adminPassword : String)

/-- What a lockout is kept for: a client address at the login, a username where the caller's own
password is asked for again. -/
inductive Door where
  | login (clientIp : String)
  | reauth (username : String)
  deriving DecidableEq

inductive AccountAnswer where
  | redirect
  | success
  | failed (status : Nat) (detail : String)
  | raised
  deriving DecidableEq

/-- How far a request has come: what it has read and what it does next. -/
inductive AccountPhase where
  | waiting
  | checking (door : Door)
  | admitted (door : Door)
  | verifying (door : Door) (row : UserRow)
  | refused (door : Door) (answer : AccountAnswer)
  | accepted (door : Door) (against : Nat)
  | signedIn (door : Door)
  | permitted
  | found
  | revoking
  | done (answer : AccountAnswer)
  deriving DecidableEq

namespace AccountRequest

def password : AccountRequest → String
  | .login _ _ password => password
  | .createUser _ _ _ adminPassword => adminPassword
  | .deleteUser _ _ adminPassword => adminPassword
  | .setPassword _ _ _ adminPassword => adminPassword

/-- The account the request is about. -/
def username : AccountRequest → String
  | .login _ username _ => username
  | .createUser _ username _ _ => username
  | .deleteUser _ username _ => username
  | .setPassword _ username _ _ => username

end AccountRequest

/-- The account whose password is asked for. -/
def Door.account (door : Door) (request : AccountRequest) : String :=
  match door with
  | .login _ => request.username
  | .reauth caller => caller

/-- The tables and dictionaries the requests share. A door without failures and one that is not
in its dictionary are the same to every reader. -/
structure AccountState (ι F : Type) where
  users : Dict String UserRow
  activeSessions : Dict String (Session F)
  failedAttempts : Door → List F
  clock : F
  writes : Nat
  progress : ι → AccountPhase

/-- The next operation of a request, at its time, with whether the database answers it and what
`secrets` or `gensalt` draws for it; or a session that is logged out or found idle. -/
inductive AccountEvent (ι F : Type) where
  | act (i : ι) (now : F) (ok : Bool) (drawn : String)
  | forget (sessionId : String)

/-- A password verification at a door, with its time and outcome. -/
inductive AccountEffect (F : Type) where
  | nothing
  | verified (door : Door) (time : F) (accepted : Bool)

namespace AccountState

variable {ι F : Type} [DecidableEq ι] [Arith F] (bcrypt : Bcrypt) (requests : ι → AccountRequest)

def place (s : AccountState ι F) (i : ι) (phase : AccountPhase) : AccountState ι F :=
  { s with progress := Function.update s.progress i phase }

/-- The answer of a lockout check, and the dictionary without what is older than the window. -/
def lockedOut (s : AccountState ι F) (door : Door) : AccountState ι F × Bool :=
  let attempts := recent loginWindowSecs s.clock (s.failedAttempts door)
  ({ s with failedAttempts := Function.update s.failedAttempts door attempts },
    decide (loginMaxAttempts ≤ attempts.length))

def loginLockedOut (s : AccountState ι F) (clientIp : String) : AccountState ι F × Bool :=
  s.lockedOut (.login clientIp)

def reauthLockedOut (s : AccountState ι F) (username : String) : AccountState ι F × Bool :=
  s.lockedOut (.reauth username)

def recordFailure (s : AccountState ι F) (door : Door) : AccountState ι F :=
  { s with failedAttempts := Function.update s.failedAttempts door (s.failedAttempts door ++ [s.clock]) }

def recordLoginFailure (s : AccountState ι F) (clientIp : String) : AccountState ι F :=
  s.recordFailure (.login clientIp)

def recordReauthFailure (s : AccountState ι F) (username : String) : AccountState ι F :=
  s.recordFailure (.reauth username)

def forgive (s : AccountState ι F) (door : Door) : AccountState ι F :=
  { s with failedAttempts := Function.update s.failedAttempts door [] }

def getSessionUsername (s : AccountState ι F) (sessionId : Option String) : Option String :=
  (sessionId.bind s.activeSessions.get?).map Session.username

def revokeSessionsForUser (s : AccountState ι F) (username : String) : AccountState ι F :=
  { s with activeSessions := s.activeSessions.filter (fun e => decide (e.2.username ≠ username)) }

/-- The caller of an account request is whoever its session belongs to. -/
def identify (s : AccountState ι F) : AccountRequest → AccountPhase
  | .login clientIp _ _ => .checking (.login clientIp)
  | .createUser sessionId _ _ _ | .deleteUser sessionId _ _ | .setPassword sessionId _ _ _ =>
      match s.getSessionUsername sessionId with
      | none => .done (.failed 401 "Session expired. Re-authenticate.")
      | some caller => .checking (.reauth caller)

def tooMany : Door → AccountAnswer
  | .login _ =>
      .failed 429 ("Too many failed login attempts. Try again in up to " ++ toString (loginLockoutSecs / 60) ++
        " minutes.")
  | .reauth _ =>
      .failed 429 ("Too many failed attempts. Try again in up to " ++ toString (loginLockoutSecs / 60) ++ " minutes.")

def check (s : AccountState ι F) (i : ι) (door : Door) : AccountState ι F :=
  let (checked, locked) := match door with
    | .login clientIp => s.loginLockedOut clientIp
    | .reauth username => s.reauthLockedOut username
  checked.place i (if locked then .done (tooMany door) else .admitted door)

theorem check_eq (s : AccountState ι F) (i : ι) (door : Door) :
    s.check i door =
      { s with
        failedAttempts :=
          Function.update s.failedAttempts door (recent loginWindowSecs s.clock (s.failedAttempts door)) }.place i
        (if loginMaxAttempts ≤ (recent loginWindowSecs s.clock (s.failedAttempts door)).length then
          .done (tooMany door)
        else .admitted door) := by
  cases door <;> simp only [check, loginLockedOut, reauthLockedOut, lockedOut, decide_eq_true_eq]

/-- The read of the stored hash. Only the login counts an unknown username as a failure. -/
def readHash (s : AccountState ι F) (request : AccountRequest) (door : Door) : AccountPhase :=
  match s.users.get? (door.account request), door with
  | some row, _ => .verifying door row
  | none, .login _ => .refused door (.failed 401 "Invalid admin credentials.")
  | none, .reauth _ => .done (.failed 401 "Could not verify your credentials.")

/-- Whether the password is the one behind the hash. -/
def verifies (request : AccountRequest) (row : UserRow) : Bool :=
  (bcrypt.checkpw request.password row.passwordHash).getD false

def rejected : Door → AccountAnswer
  | .login _ => .failed 401 "Handshake credentials rejected."
  | .reauth _ => .failed 403 "Your current password is incorrect."

def refuse (s : AccountState ι F) : Door → AccountState ι F
  | .login clientIp => s.recordLoginFailure clientIp
  | .reauth username => s.recordReauthFailure username

omit [DecidableEq ι] [Arith F] in
theorem refuse_eq (s : AccountState ι F) (door : Door) : s.refuse door = s.recordFailure door := by
  cases door <;> rfl

/-- After the right password: a login stores its session first, an account request goes on. -/
def accept (s : AccountState ι F) (i : ι) (token : String) (against : Nat) : Door → AccountState ι F
  | .login clientIp =>
      { s with
        activeSessions := s.activeSessions.set token ⟨(requests i).username, s.clock, against⟩ }.place i
          (.signedIn (.login clientIp))
  | .reauth username => (s.forgive (.reauth username)).place i .permitted

def userNotFound (username : String) : AccountAnswer := .failed 404 ("User '" ++ username ++ "' not found.")

/-- The first statement of the request itself: the insertion of a new account, or the look for
the account to change. -/
def perform (s : AccountState ι F) (i : ι) (salt : String) : AccountState ι F :=
  match requests i with
  | .login .. => s
  | .createUser _ username password _ =>
      if (s.users.get? username).isSome then
        s.place i (.done (.failed 400 ("User '" ++ username ++ "' already exists.")))
      else
        { s with
          users := s.users.set username ⟨bcrypt.hashpw password salt, s.writes⟩
          writes := s.writes + 1 }.place i (.done .success)
  | .deleteUser _ username _ | .setPassword _ username _ _ =>
      s.place i (if (s.users.get? username).isSome then .found else .done (userNotFound username))

/-- The guarded deletion, or the update, which changes nothing if the account has gone. -/
def commit (s : AccountState ι F) (i : ι) (salt : String) : AccountState ι F :=
  match requests i with
  | .login .. | .createUser .. => s
  | .deleteUser _ username _ =>
      if (s.users.get? username).isSome ∧ 1 < s.users.size then
        { s with users := s.users.erase username }.place i .revoking
      else
        s.place i (.done (.failed 400 "Cannot delete the last remaining administrator account."))
  | .setPassword _ username newPassword _ =>
      if (s.users.get? username).isSome then
        { s with
          users := s.users.set username ⟨bcrypt.hashpw newPassword salt, s.writes⟩
          writes := s.writes + 1 }.place i .revoking
      else s.place i .revoking

/-- One operation of a request. An error of the database ends it. -/
def advance (s : AccountState ι F) (i : ι) (ok : Bool) (drawn : String) : AccountState ι F × AccountEffect F :=
  match s.progress i with
  | .waiting => (s.place i (s.identify (requests i)), .nothing)
  | .checking door => (s.check i door, .nothing)
  | .admitted door =>
      (if ok then s.place i (s.readHash (requests i) door) else s.place i (.done .raised), .nothing)
  | .verifying door row =>
      (s.place i
        (if verifies bcrypt (requests i) row then .accepted door row.written else .refused door (rejected door)),
        .verified door s.clock (verifies bcrypt (requests i) row))
  | .refused door answer => ((s.refuse door).place i (.done answer), .nothing)
  | .accepted door against => (s.accept requests i drawn against door, .nothing)
  | .signedIn door => ((s.forgive door).place i (.done .redirect), .nothing)
  | .permitted => (if ok then s.perform bcrypt requests i drawn else s.place i (.done .raised), .nothing)
  | .found => (if ok then s.commit bcrypt requests i drawn else s.place i (.done .raised), .nothing)
  | .revoking =>
      ((s.revokeSessionsForUser (requests i).username).place i (.done .success), .nothing)
  | .done _ => (s, .nothing)

/-- The clock does not go back. -/
def step (s : AccountState ι F) : AccountEvent ι F → Option (AccountState ι F × AccountEffect F)
  | .act i now ok drawn =>
      if s.clock ≤ now then some (advance bcrypt requests { s with clock := now } i ok drawn) else none
  | .forget sessionId => some ({ s with activeSessions := s.activeSessions.erase sessionId }, .nothing)

end AccountState

end Flod.Stage2
