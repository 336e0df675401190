import Flod.Stage2.Receiver

/-! Operator-defined playbooks: the check of a stored definition, its triggers, and the
pass over running playbooks after each window. A pass that raises is abandoned where it
stands; what it had written stays. -/

namespace Flod.Stage2
open Flod.Lib Flod.Net Flod.Ipc

variable {F : Type} [Arith F]

/-- Numbers as `json.loads` reads them. -/
inductive Number (F : Type) where
  | finite (x : F)
  | nan
  | infinity
  | negInfinity

inductive Json (F : Type) where
  | null
  | bool (b : Bool)
  | number (n : Number F)
  | str (s : String)
  | arr (items : List (Json F))
  | obj (fields : List (String × Json F))

abbrev Fields (F : Type) := List (String × Json F)

def field? (fields : Fields F) (key : String) : Option (Json F) :=
  (fields.find? (fun e => decide (e.1 = key))).map Prod.snd

/-- A `DefinitionError` with its text, or a `TypeError`. -/
inductive PlaybookError where
  | definition (message : String)
  | type
  deriving DecidableEq, Repr

/-- Membership in a set of strings. What cannot be hashed raises. -/
def memberOf (allowed : List String) : Option (Json F) → Except PlaybookError Bool
  | some (.str s) => .ok (allowed.contains s)
  | some (.arr _) => .error .type
  | some (.obj _) => .error .type
  | _ => .ok false

def triggerTypes : List String := ["tier_reached", "persistence", "scale"]

def stageTypes : List String := ["escalate", "notify", "report"]

def triggerModes : List String := ["any", "all"]

def notifyChannels : List String := ["all", "discord", "email", "telegram", "webhook"]

/-- A definition that passed the check. -/
structure Definition (F : Type) where
  triggers : List (Fields F)
  stages : List (Fields F)
  triggerMode : String

/-- Raise the given text unless the value is one of the allowed strings. -/
def requireMember (allowed : List String) (message : String) (value : Option (Json F)) :
    Except PlaybookError Unit := do
  if ← memberOf allowed value then pure () else throw (.definition message)

def asFields (message : String) : Json F → Except PlaybookError (Fields F)
  | .obj fields => .ok fields
  | _ => .error (.definition message)

def asList (message : String) : Option (Json F) → Except PlaybookError (List (Json F))
  | some (.arr (item :: rest)) => .ok (item :: rest)
  | _ => .error (.definition message)

def triggerTypeMessage : String :=
  "trigger type must be one of ['persistence', 'scale', 'tier_reached']"

def stageTypeMessage : String := "stage type must be one of ['escalate', 'notify', 'report']"

def channelMessage : String :=
  "notify channel must be one of ['all', 'discord', 'email', 'telegram', 'webhook']"

def validateTrigger (trigger : Json F) : Except PlaybookError (Fields F) := do
  let fields ← asFields triggerTypeMessage trigger
  requireMember triggerTypes triggerTypeMessage (field? fields "type")
  pure fields

/-- A number that is not below zero. NaN is not below zero. -/
def validDelay : Option (Json F) → Bool
  | none => true
  | some (.number (.finite x)) => decide (0 ≤ x)
  | some (.number .nan) => true
  | some (.number .infinity) => true
  | _ => false

def isType (fields : Fields F) (name : String) : Bool :=
  match field? fields "type" with
  | some (.str s) => decide (s = name)
  | _ => false

def validateStage (stage : Json F) : Except PlaybookError (Fields F) := do
  let fields ← asFields stageTypeMessage stage
  requireMember stageTypes stageTypeMessage (field? fields "type")
  if !validDelay (field? fields "delay_seconds") then
    throw (.definition "stage delay_seconds must be a non-negative number")
  if isType fields "notify" && (field? fields "channel").isSome then
    requireMember notifyChannels channelMessage (field? fields "channel")
  pure fields

def validateDefinition : Json F → Except PlaybookError (Definition F)
  | .obj fields => do
      let triggers ← asList "definition needs at least one trigger" (field? fields "triggers")
      let stages ← asList "definition needs at least one stage" (field? fields "stages")
      let mode := (field? fields "trigger_mode").getD (.str "any")
      requireMember triggerModes "trigger_mode must be one of ['all', 'any']" (some mode)
      let triggers ← triggers.mapM validateTrigger
      let stages ← stages.mapM validateStage
      pure ⟨triggers, stages, match mode with | .str s => s | _ => "any"⟩
  | _ => .error (.definition "definition must be a JSON object")

/-- `x >= value` and `value <= x`. Booleans compare as 0 and 1; anything that is not a
number raises. -/
def atMost (value : Json F) (x : F) : Except PlaybookError Bool :=
  match value with
  | .number (.finite y) => .ok (decide (y ≤ x))
  | .number .negInfinity => .ok true
  | .number _ => .ok false
  | .bool b => .ok (decide ((if b then 1 else 0) ≤ x))
  | _ => .error .type

/-- `x < value`, for a delay that passed the check. -/
def isBelow (x : F) : Json F → Bool
  | .number (.finite y) => decide (x < y)
  | .number .infinity => true
  | _ => false

def one : Json F := .number (.finite 1)

/-- What the triggers of a playbook look at. -/
structure TriggerState where
  tierReached : Nat
  consecutiveWindows : Nat
  hostsUnderAttack : Nat

def triggerFires (trigger : Fields F) (seen : TriggerState) : Except PlaybookError Bool :=
  if isType trigger "tier_reached" then
    atMost ((field? trigger "min_tier").getD one) (seen.tierReached : F)
  else if isType trigger "persistence" then
    atMost ((field? trigger "consecutive_windows").getD one) (seen.consecutiveWindows : F)
  else if isType trigger "scale" then
    atMost ((field? trigger "min_hosts_simultaneously").getD one) (seen.hostsUnderAttack : F)
  else .ok false

def evaluateTriggers (definition : Definition F) (seen : TriggerState) : Except PlaybookError Bool := do
  let results ← definition.triggers.mapM (fun trigger => triggerFires trigger seen)
  pure (if definition.triggerMode = "all" then results.all id else results.any id)

inductive Scope where
  | all
  | host (ip : String)
  | subnet (text : String)
  deriving DecidableEq, Repr

/-- A row of `playbooks`. The definition is none if the stored text is not JSON. -/
structure Playbook (F : Type) where
  id : Nat
  enabled : Bool
  scope : Scope
  definition : Option (Json F)

structure PlaybookRun (F : Type) where
  id : Nat
  playbookId : Nat
  targetHost : String
  targetSource : Option String
  stageIndex : Nat
  running : Bool
  startedAt : F
  updatedAt : F

structure PlaybookEvent (F : Type) where
  runId : Nat
  stageIndex : Nat
  stageType : Option (Json F)
  targetSource : Option String
  firedAt : F

/-- The three tables, with the ids their next rows get. No id is given twice, not even after
its row was deleted. -/
structure PlaybookStore (F : Type) where
  playbooks : List (Playbook F) := []
  runs : List (PlaybookRun F) := []
  events : List (PlaybookEvent F) := []
  nextPlaybook : Nat := 1
  nextRun : Nat := 1

namespace PlaybookStore

/-- A subnet scope is stored and never matched. -/
def enabledFor (store : PlaybookStore F) (host : String) : List (Playbook F) :=
  store.playbooks.filter (fun p => p.enabled && (decide (p.scope = .all) || decide (p.scope = .host host)))

def hasActiveRun (store : PlaybookStore F) (playbookId : Nat) (host : String) : Bool :=
  store.runs.any (fun r =>
    r.running && decide (r.playbookId = playbookId) && decide (r.targetHost = host))

def startRun (store : PlaybookStore F) (playbookId : Nat) (host : String) (source : Option String)
    (now : F) : PlaybookStore F :=
  { store with
    runs := store.runs ++ [⟨store.nextRun, playbookId, host, source, 0, true, now, now⟩]
    nextRun := store.nextRun + 1 }

def definitionOf (store : PlaybookStore F) (playbookId : Nat) : Option (Option (Json F)) :=
  (store.playbooks.find? (fun p => decide (p.id = playbookId))).map Playbook.definition

def update (store : PlaybookStore F) (runId : Nat) (change : PlaybookRun F → PlaybookRun F) :
    PlaybookStore F :=
  { store with runs := store.runs.map (fun r => if r.id = runId then change r else r) }

/-- The next stage, or completion once the stages are exhausted. -/
def advance (store : PlaybookStore F) (runId : Nat) (next : Option Nat) (now : F) : PlaybookStore F :=
  match next with
  | none => store.update runId (fun r => { r with running := false, updatedAt := now })
  | some index => store.update runId (fun r => { r with stageIndex := index, updatedAt := now })

end PlaybookStore

/-- Parse and check a stored definition. None is one the pass skips, an error one that
ends the pass. -/
def readDefinition (stored : Option (Json F)) : Except PlaybookError (Option (Definition F)) :=
  match stored with
  | none => .ok none
  | some json =>
      match validateDefinition json with
      | .ok definition => .ok (some definition)
      | .error (.definition _) => .ok none
      | .error .type => .error .type

/-- Start a run of each matching playbook that has none and whose trigger fires. The flag
says whether the loop came to its end. -/
def checkAndStartRuns (host : String) (seen : TriggerState) (source : Option String) (now : F) :
    PlaybookStore F → List (Playbook F) → PlaybookStore F × Bool
  | store, [] => (store, true)
  | store, p :: rest =>
      if store.hasActiveRun p.id host then checkAndStartRuns host seen source now store rest
      else
        match readDefinition p.definition with
        | .error _ => (store, false)
        | .ok none => checkAndStartRuns host seen source now store rest
        | .ok (some definition) =>
            match evaluateTriggers definition seen with
            | .error _ => (store, false)
            | .ok true => checkAndStartRuns host seen source now (store.startRun p.id host source now) rest
            | .ok false => checkAndStartRuns host seen source now store rest

/-- What a pass works on. -/
structure PassState (F : Type) where
  store : PlaybookStore F
  firewall : Firewall F
  alerts : List (Alert F)

/-- What a stage does: a call, an alert, nothing, or an exception. -/
inductive StageAction (F : Type) where
  | call (call : Call F)
  | alert (alert : Alert F)
  | nothing
  | raises

/-- Tiers 1 and 2 block, the others rate-limit; without an attributable source nothing is done. -/
def executeEscalate (cfg : EnforcementConfig F) (stage : Fields F) (run : PlaybookRun F) : StageAction F :=
  match run.targetSource with
  | none => .nothing
  | some source =>
      if source = "" ∨ source ∈ sentinelTexts then .nothing
      else
        match atMost ((field? stage "target_tier").getD one) ((2 : Nat) : F) with
        | .error _ => .raises
        | .ok true => .call ⟨.block, source, cfg.blockDurationSeconds, run.targetHost, none, none⟩
        | .ok false =>
            .call ⟨.ratelimit .rateLimited, source, cfg.ratelimitDurationSeconds, run.targetHost, none, none⟩

def executeNotify (stage : Fields F) (run : PlaybookRun F) : StageAction F :=
  let channel := match field? stage "channel" with
    | some (.str s) => s
    | _ => "all"
  .alert (.playbook run.targetHost run.targetSource channel)

/-- Writing a report may fail in a way the stage does not catch. -/
def executeStage (cfg : EnforcementConfig F) (reportRaises : Bool) (stage : Fields F)
    (run : PlaybookRun F) : StageAction F :=
  if isType stage "escalate" then executeEscalate cfg stage run
  else if isType stage "notify" then executeNotify stage run
  else if reportRaises then .raises
  else .nothing

/-- What one pass over the running playbooks depends on. -/
structure PassEnv (F : Type) where
  outside : Surroundings F
  cfg : EnforcementConfig F
  reported : List String
  reportRaises : Bool
  now : F

def StageAction.apply (env : PassEnv F) (st : PassState F) : StageAction F → Option (PassState F)
  | .call c => some { st with firewall := perform env.outside env.reported st.firewall c }
  | .alert a => some { st with alerts := st.alerts ++ [a] }
  | .nothing => some st
  | .raises => none

/-- One running playbook: the current stage once its delay has passed. None ends the pass. -/
def advanceRun (env : PassEnv F) (st : PassState F) (run : PlaybookRun F) : Option (PassState F) :=
  match st.store.definitionOf run.playbookId with
  | none => some st
  | some stored =>
      match readDefinition stored with
      | .error _ => none
      | .ok none => some st
      | .ok (some definition) =>
          match definition.stages[run.stageIndex]? with
          | none => some { st with store := st.store.advance run.id none env.now }
          | some stage =>
              if isBelow (env.now - run.updatedAt)
                  ((field? stage "delay_seconds").getD (.number (.finite 0))) then some st
              else
                match (executeStage env.cfg env.reportRaises stage run).apply env st with
                | none => none
                | some done =>
                    let event := ⟨run.id, run.stageIndex, field? stage "type", run.targetSource, env.now⟩
                    let recorded := { done.store with events := done.store.events ++ [event] }
                    let next := run.stageIndex + 1
                    let stageAfter := if next < definition.stages.length then some next else none
                    some { done with store := recorded.advance run.id stageAfter env.now }

def advanceRuns (env : PassEnv F) : PassState F → List (PlaybookRun F) → PassState F
  | st, [] => st
  | st, run :: rest =>
      match advanceRun env st run with
      | none => st
      | some next => advanceRuns env next rest

/-- The playbook part of a window: start what triggers, then advance what runs. -/
def playbookPass (env : PassEnv F) (host : String) (seen : TriggerState) (source : Option String)
    (store : PlaybookStore F) (fw : Firewall F) : PassState F :=
  let started := checkAndStartRuns host seen source env.now store (store.enabledFor host)
  if started.2 then
    advanceRuns env ⟨started.1, fw, []⟩ (started.1.runs.filter PlaybookRun.running)
  else ⟨started.1, fw, []⟩

/-- Everything the receiver keeps from window to window. -/
structure ReceiverState (F : Type) where
  view : View F
  firewall : Firewall F
  playbooks : PlaybookStore F

/-- A receiver that has just started, with the playbooks configured. -/
def ReceiverState.start (playbooks : List (Playbook F)) : ReceiverState F :=
  ⟨View.empty, Firewall.empty, { playbooks := playbooks }⟩

/-- A window arriving at the receiver. -/
structure Arrived (F : Type) where
  env : WindowEnv F
  reportRaises : Bool
  fv : FeatureVector F

def triggerState (view : View F) (victimIp : String) : TriggerState where
  tierReached := view.lastTierReached.getD victimIp 0
  consecutiveWindows := view.consecutiveDdosWindows.getD victimIp 0
  hostsUnderAttack := (view.lastClassificationByTarget.values.filter (· = .ddos)).length

/-- One window from the wire to the end of its handling. -/
def handleWindow (st : ReceiverState F) (a : Arrived F) : ReceiverState F × Handled F :=
  let view := nextView a.env st.view a.fv
  let handled := handledWindow a.env st.view a.fv
  let enforced := enforceWindow a.env st.view st.firewall a.fv
  let passed := playbookPass
    { outside := a.env.outside
      cfg := a.env.cfg
      reported := view.lastMetricsByTarget.keys
      reportRaises := a.reportRaises
      now := a.fv.timestamp }
    handled.victimIp (triggerState view handled.victimIp)
    (if dominantKnown a.fv then some handled.dominantIp else none) st.playbooks enforced
  (⟨view, passed.firewall, passed.store⟩, { handled with alerts := handled.alerts ++ passed.alerts })

/-- The receiver as a machine. It never stops on a window. -/
def receive (st : ReceiverState F) (a : Arrived F) : Option (ReceiverState F × Handled F) :=
  some (handleWindow st a)

/-- A window of 1000 packets a second, all of one source. -/
def floodAt (now : ℚ) (flows : List (Flow ℚ)) : Arrived ℚ where
  env := plainEnv EnforcementConfig.default now flows
  reportRaises := false
  fv :=
    { uniformVector 0 with
      ewmaRate := 1000
      meanR := 10
      sigmaR := 50
      dominantIpRatio := 1
      timestamp := now
      kMultiplier := 2
      dominantIp := .v4 0xC0000201
      victimIp := .v4 0x0A000001 }

section Firewall

variable {env : PassEnv F}

/-- The stage of a running playbook whose delay has passed. -/
def dueStage (env : PassEnv F) (store : PlaybookStore F) (run : PlaybookRun F) : Option (Fields F) :=
  match store.definitionOf run.playbookId with
  | none => none
  | some stored =>
      match readDefinition stored with
      | .error _ => none
      | .ok none => none
      | .ok (some definition) =>
          match definition.stages[run.stageIndex]? with
          | none => none
          | some stage =>
              if isBelow (env.now - run.updatedAt)
                  ((field? stage "delay_seconds").getD (.number (.finite 0))) then none
              else some stage

def StageAction.calls : StageAction F → List (Call F)
  | .call c => [c]
  | _ => []

/-- The calls one running playbook makes in a pass. They depend on the tables alone. -/
def runCalls (env : PassEnv F) (store : PlaybookStore F) (run : PlaybookRun F) : List (Call F) :=
  match dueStage env store run with
  | none => []
  | some stage => (executeStage env.cfg env.reportRaises stage run).calls

/-- The calls of a pass over the running playbooks, up to the exception that ends it. -/
def advanceCalls (env : PassEnv F) : PassState F → List (PlaybookRun F) → List (Call F)
  | _, [] => []
  | st, run :: rest =>
      match advanceRun env st run with
      | none => []
      | some next => runCalls env st.store run ++ advanceCalls env next rest

def passCalls (env : PassEnv F) (host : String) (seen : TriggerState) (source : Option String)
    (store : PlaybookStore F) (fw : Firewall F) : List (Call F) :=
  let started := checkAndStartRuns host seen source env.now store (store.enabledFor host)
  if started.2 then advanceCalls env ⟨started.1, fw, []⟩ (started.1.runs.filter PlaybookRun.running) else []

theorem StageAction.apply_firewall {st done : PassState F} {action : StageAction F}
    (applied : action.apply env st = some done) :
    done.firewall = performAll env.outside env.reported st.firewall action.calls := by
  cases action with
  | call c =>
    cases applied
    rfl
  | alert a =>
    cases applied
    rfl
  | nothing =>
    cases applied
    rfl
  | raises => cases applied

theorem advanceRun_firewall {st next : PassState F} {run : PlaybookRun F}
    (advanced : advanceRun env st run = some next) :
    next.firewall = performAll env.outside env.reported st.firewall (runCalls env st.store run) := by
  unfold advanceRun at advanced
  unfold runCalls dueStage
  cases stored : st.store.definitionOf run.playbookId with
  | none =>
    simp only [stored, Option.some.injEq] at advanced
    rw [← advanced]
    rfl
  | some json =>
    simp only [stored] at advanced ⊢
    cases read : readDefinition json with
    | error e => simp [read] at advanced
    | ok found =>
      cases found with
      | none =>
        simp only [read, Option.some.injEq] at advanced
        rw [← advanced]
        rfl
      | some definition =>
        simp only [read] at advanced ⊢
        cases here : definition.stages[run.stageIndex]? with
        | none =>
          simp only [here, Option.some.injEq] at advanced
          rw [← advanced]
          rfl
        | some stage =>
          simp only [here] at advanced ⊢
          by_cases early : isBelow (env.now - run.updatedAt)
              ((field? stage "delay_seconds").getD (.number (.finite 0))) = true
          · simp only [early, if_true, Option.some.injEq] at advanced ⊢
            rw [← advanced]
            rfl
          · rw [if_neg early] at advanced ⊢
            cases applied : (executeStage env.cfg env.reportRaises stage run).apply env st with
            | none => simp [applied] at advanced
            | some done =>
              have acted := StageAction.apply_firewall applied
              simp only [applied, Option.some.injEq] at advanced
              rw [← advanced]
              exact acted

theorem advanceRuns_firewall (st : PassState F) (runs : List (PlaybookRun F)) :
    (advanceRuns env st runs).firewall =
      performAll env.outside env.reported st.firewall (advanceCalls env st runs) := by
  induction runs generalizing st with
  | nil => rfl
  | cons run rest ih =>
    unfold advanceRuns advanceCalls
    cases advanced : advanceRun env st run with
    | none => rfl
    | some next => rw [performAll_append, ← advanceRun_firewall advanced, ← ih next]

/-- Playbooks reach the firewall through the tiers' own two calls and nothing else. -/
theorem playbookPass_firewall (env : PassEnv F) (host : String) (seen : TriggerState) (source : Option String)
    (store : PlaybookStore F) (fw : Firewall F) :
    (playbookPass env host seen source store fw).firewall =
      performAll env.outside env.reported fw (passCalls env host seen source store fw) := by
  unfold playbookPass passCalls
  dsimp only
  split
  · exact advanceRuns_firewall _ _
  · rfl

/-- The calls of the playbooks after a window. -/
def playbookCalls (st : ReceiverState F) (a : Arrived F) : List (Call F) :=
  passCalls
    { outside := a.env.outside
      cfg := a.env.cfg
      reported := (nextView a.env st.view a.fv).lastMetricsByTarget.keys
      reportRaises := a.reportRaises
      now := a.fv.timestamp }
    (victimText a.env st.view a.fv)
    (triggerState (nextView a.env st.view a.fv) (victimText a.env st.view a.fv))
    (if dominantKnown a.fv then some (dominantText a.fv) else none) st.playbooks
    (enforceWindow a.env st.view st.firewall a.fv)

/-- A window's calls come before those of its playbooks. -/
theorem handleWindow_firewall (st : ReceiverState F) (a : Arrived F) :
    (handleWindow st a).1.firewall =
      performAll a.env.outside (nextView a.env st.view a.fv).lastMetricsByTarget.keys
        { st.firewall with logs := st.firewall.logs ++ windowIncident a.env st.view a.fv }
        ((windowCalls a.env st.view a.fv).map (·.call) ++ playbookCalls st a) := by
  rw [performAll_append]
  exact playbookPass_firewall _ _ _ _ _ _

end Firewall

end Flod.Stage2
