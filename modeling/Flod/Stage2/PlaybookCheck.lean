import Flod.Lib.Checks
import Flod.Stage2.PlaybookEngine

/-! What the check of a definition establishes. It looks names up in sets before it knows
that they are texts, and it never looks at the thresholds of triggers, at the tier of an
escalation, or at whether a delay is finite. -/

namespace Flod.Stage2
open Flod.Lib Flod.Net

variable {F : Type} [Arith F]

/-- A list or an object, which no set can be asked for. -/
def Json.Unhashable : Json F → Prop
  | .arr _ => True
  | .obj _ => True
  | _ => False

/-- What a number can be compared with. -/
def Json.Comparable : Json F → Prop
  | .number _ => True
  | .bool _ => True
  | _ => False

/-- The value is there and is one of the allowed texts. -/
def Allowed (allowed : List String) (value : Option (Json F)) : Prop :=
  ∃ s ∈ allowed, value = some (.str s)

/-- The value is there and cannot be looked up. -/
def Unlookable (value : Option (Json F)) : Prop := ∃ json, value = some json ∧ json.Unhashable

/-! The three ways a check can end. -/

section Checks

variable {allowed : List String} {message : String} {value : Option (Json F)}

omit [Arith F]

theorem requireMember_cases (allowed : List String) (message : String) (value : Option (Json F)) :
    (Allowed allowed value ∧ ¬ Unlookable value ∧ requireMember allowed message value = .ok ()) ∨
      (¬ Allowed allowed value ∧ Unlookable value ∧ requireMember allowed message value = .error .type) ∨
      (¬ Allowed allowed value ∧ ¬ Unlookable value ∧
        requireMember allowed message value = .error (.definition message)) := by
  unfold requireMember memberOf
  split
  · next s =>
    have lookable : ¬ Unlookable (some (Json.str s : Json F)) := by
      rintro ⟨json, same, unhashable⟩
      cases same
      exact unhashable
    by_cases listed : s ∈ allowed
    · refine Or.inl ⟨⟨s, listed, rfl⟩, lookable, ?_⟩
      simp [listed, bind, Except.bind, pure, Except.pure]
    · refine Or.inr (Or.inr ⟨?_, lookable, ?_⟩)
      · rintro ⟨t, member, same⟩
        cases same
        exact listed member
      · simp [listed, bind, Except.bind, throw, throwThe, MonadExceptOf.throw]
  · refine Or.inr (Or.inl ⟨?_, ⟨_, rfl, trivial⟩, rfl⟩)
    rintro ⟨t, -, same⟩
    cases same
  · refine Or.inr (Or.inl ⟨?_, ⟨_, rfl, trivial⟩, rfl⟩)
    rintro ⟨t, -, same⟩
    cases same
  · next other text list object =>
    refine Or.inr (Or.inr ⟨?_, ?_, rfl⟩)
    · rintro ⟨t, -, rfl⟩
      exact text t rfl
    · rintro ⟨json, rfl, unhashable⟩
      cases json with
      | arr items => exact list items rfl
      | obj fields => exact object fields rfl
      | null => exact unhashable
      | bool b => exact unhashable
      | number n => exact unhashable
      | str s => exact unhashable

theorem requireMember_eq_ok {u : Unit} : requireMember allowed message value = .ok u ↔ Allowed allowed value := by
  rcases requireMember_cases allowed message value with ⟨listed, -, same⟩ | ⟨other, -, same⟩ | ⟨other, -, same⟩
  · simp [listed, same]
  · simp [other, same]
  · simp [other, same]

theorem requireMember_raises : requireMember allowed message value = .error .type ↔ Unlookable value := by
  rcases requireMember_cases allowed message value with ⟨-, fine, same⟩ | ⟨-, unlookable, same⟩ | ⟨-, fine, same⟩
  · simp [fine, same]
  · simp [unlookable, same]
  · simp [fine, same]

theorem asFields_eq_ok {json : Json F} {fields : Fields F} : asFields message json = .ok fields ↔ json = .obj fields := by
  cases json <;> simp [asFields]

theorem asFields_raises {json : Json F} : asFields message json ≠ .error .type := by
  cases json <;> simp [asFields]

theorem asList_eq_ok {items : List (Json F)} :
    asList message value = .ok items ↔ value = some (.arr items) ∧ items ≠ [] := by
  unfold asList
  split
  · next item rest =>
    constructor
    · intro same
      cases same
      exact ⟨rfl, by simp⟩
    · rintro ⟨same, -⟩
      cases same
      rfl
  · next other =>
    constructor
    · intro same
      cases same
    · rintro ⟨rfl, some⟩
      obtain ⟨item, rest, rfl⟩ := List.exists_cons_of_ne_nil some
      exact absurd rfl (other item rest)

theorem asList_raises : asList message value ≠ .error .type := by
  unfold asList
  split <;> simp

end Checks

/-! Triggers and stages. -/

def ValidTrigger (trigger : Fields F) : Prop := Allowed triggerTypes (field? trigger "type")

structure ValidStage (stage : Fields F) : Prop where
  type : Allowed stageTypes (field? stage "type")
  delay : validDelay (field? stage "delay_seconds") = true
  channel : isType stage "notify" = true → (field? stage "channel").isSome = true →
    Allowed notifyChannels (field? stage "channel")

/-- The look-ups of a stage: its type, and past the checks before it the channel of a notification. -/
def StageUnlookable (stage : Fields F) : Prop :=
  Unlookable (field? stage "type") ∨
    (Allowed stageTypes (field? stage "type") ∧ validDelay (field? stage "delay_seconds") = true ∧
      isType stage "notify" = true ∧ Unlookable (field? stage "channel"))

section Items

variable {json : Json F} {fields : Fields F}

omit [Arith F] in
theorem validateTrigger_eq_ok : validateTrigger json = .ok fields ↔ json = .obj fields ∧ ValidTrigger fields := by
  unfold validateTrigger ValidTrigger
  simp only [bind_eq_ok, asFields_eq_ok, requireMember_eq_ok, pure, Except.pure, Except.ok.injEq]
  constructor
  · rintro ⟨found, rfl, -, typed, rfl⟩
    exact ⟨rfl, typed⟩
  · rintro ⟨rfl, typed⟩
    exact ⟨fields, rfl, (), typed, rfl⟩

omit [Arith F] in
theorem validateTrigger_raises :
    validateTrigger json = .error .type ↔ ∃ fields, json = .obj fields ∧ Unlookable (field? fields "type") := by
  unfold validateTrigger
  simp [bind_eq_error, asFields_eq_ok, asFields_raises, requireMember_raises, pure, Except.pure]

/-- The second check of a stage. -/
def checkDelay (stage : Fields F) : Except PlaybookError Unit :=
  if validDelay (field? stage "delay_seconds") then .ok ()
  else .error (.definition "stage delay_seconds must be a non-negative number")

/-- The third check of a stage. -/
def checkChannel (stage : Fields F) : Except PlaybookError Unit :=
  if isType stage "notify" && (field? stage "channel").isSome then
    requireMember notifyChannels channelMessage (field? stage "channel")
  else .ok ()

theorem checkDelay_eq_ok {u : Unit} :
    checkDelay fields = .ok u ↔ validDelay (field? fields "delay_seconds") = true := by
  unfold checkDelay
  split <;> simp [*]

theorem checkDelay_raises : checkDelay fields ≠ .error .type := by
  unfold checkDelay
  split <;> simp

omit [Arith F] in
theorem checkChannel_eq_ok {u : Unit} : checkChannel fields = .ok u ↔
    (isType fields "notify" = true → (field? fields "channel").isSome = true →
      Allowed notifyChannels (field? fields "channel")) := by
  unfold checkChannel
  split
  · next asks =>
    rw [Bool.and_eq_true] at asks
    rw [requireMember_eq_ok]
    exact ⟨fun listed _ _ => listed, fun listed => listed asks.1 asks.2⟩
  · next silent =>
    rw [Bool.and_eq_true] at silent
    exact ⟨fun _ notify given => absurd ⟨notify, given⟩ silent, fun _ => rfl⟩

omit [Arith F] in
theorem checkChannel_raises : checkChannel fields = .error .type ↔
    isType fields "notify" = true ∧ Unlookable (field? fields "channel") := by
  unfold checkChannel
  split
  · next asks =>
    rw [Bool.and_eq_true] at asks
    rw [requireMember_raises]
    exact ⟨fun unlookable => ⟨asks.1, unlookable⟩, And.right⟩
  · next silent =>
    rw [Bool.and_eq_true] at silent
    constructor
    · intro same
      cases same
    · rintro ⟨notify, json, given, -⟩
      exact absurd ⟨notify, by rw [given]; rfl⟩ silent

theorem validateStage_eq (json : Json F) : validateStage json = (do
    let fields ← asFields stageTypeMessage json
    requireMember stageTypes stageTypeMessage (field? fields "type")
    checkDelay fields
    checkChannel fields
    pure fields) := by
  unfold validateStage
  congr 1
  funext fields
  congr 1
  funext _
  unfold checkDelay checkChannel
  cases validDelay (field? fields "delay_seconds") with
  | false => rfl
  | true =>
    cases isType fields "notify" && (field? fields "channel").isSome with
    | false => rfl
    | true => rfl

theorem validateStage_eq_ok : validateStage json = .ok fields ↔ json = .obj fields ∧ ValidStage fields := by
  rw [validateStage_eq]
  simp only [bind_eq_ok, asFields_eq_ok, requireMember_eq_ok, checkDelay_eq_ok, checkChannel_eq_ok, pure,
    Except.pure, Except.ok.injEq]
  constructor
  · rintro ⟨found, rfl, -, typed, -, delay, -, channel, rfl⟩
    exact ⟨rfl, typed, delay, channel⟩
  · rintro ⟨rfl, typed, delay, channel⟩
    exact ⟨fields, rfl, (), typed, (), delay, (), channel, rfl⟩

theorem validateStage_raises :
    validateStage json = .error .type ↔ ∃ fields, json = .obj fields ∧ StageUnlookable fields := by
  rw [validateStage_eq]
  simp [bind_eq_error, asFields_eq_ok, asFields_raises, requireMember_eq_ok, requireMember_raises,
    checkDelay_eq_ok, checkDelay_raises, checkChannel_raises, StageUnlookable, pure, Except.pure]

end Items

/-! Definitions. -/

/-- The mode in force: the one given, or the default. -/
def modeOf (fields : Fields F) : Json F := (field? fields "trigger_mode").getD (.str "any")

/-- The object has lists of triggers and of stages, neither empty. -/
structure Lists (json : Json F) (fields : Fields F) (triggers stages : List (Json F)) : Prop where
  object : json = .obj fields
  triggers : field? fields "triggers" = some (.arr triggers) ∧ triggers ≠ []
  stages : field? fields "stages" = some (.arr stages) ∧ stages ≠ []

/-- The object holds this definition, and everything in it passes its check. -/
structure Describes (json : Json F) (definition : Definition F) (fields : Fields F) : Prop where
  lists : Lists json fields (definition.triggers.map .obj) (definition.stages.map .obj)
  mode : modeOf fields = .str definition.triggerMode
  validMode : Allowed triggerModes (some (modeOf fields))
  validTriggers : ∀ trigger ∈ definition.triggers, ValidTrigger trigger
  validStages : ∀ stage ∈ definition.stages, ValidStage stage

/-- A list or object is looked up in a set: as the mode, or before any other trigger or stage
fails its check as the type of one or the channel of a stage. -/
def LooksUpUnhashable (json : Json F) : Prop :=
  ∃ fields triggers stages, Lists json fields triggers stages ∧
    (Unlookable (some (modeOf fields)) ∨
      (Allowed triggerModes (some (modeOf fields)) ∧
        (FirstOf (fun item => ∃ trigger, item = .obj trigger ∧ ValidTrigger trigger)
            (fun item => ∃ trigger, item = .obj trigger ∧ Unlookable (field? trigger "type")) triggers ∨
          ((∀ item ∈ triggers, ∃ trigger, item = .obj trigger ∧ ValidTrigger trigger) ∧
            FirstOf (fun item => ∃ stage, item = .obj stage ∧ ValidStage stage)
              (fun item => ∃ stage, item = .obj stage ∧ StageUnlookable stage) stages))))

omit [Arith F] in
theorem forall₂_obj {P : Fields F → Prop} {items : List (Json F)} {results : List (Fields F)} :
    List.Forall₂ (fun item result => item = .obj result ∧ P result) items results ↔
      items = results.map .obj ∧ ∀ result ∈ results, P result := by
  induction results generalizing items with
  | nil => simp
  | cons result results ih =>
    rw [List.forall₂_cons_right_iff]
    constructor
    · rintro ⟨item, rest, ⟨rfl, holds⟩, later, rfl⟩
      obtain ⟨rfl, all⟩ := ih.mp later
      exact ⟨rfl, by simpa using ⟨holds, all⟩⟩
    · rintro ⟨rfl, all⟩
      rw [List.forall_mem_cons] at all
      exact ⟨_, _, ⟨rfl, all.1⟩, ih.mpr ⟨rfl, all.2⟩, rfl⟩

theorem validateDefinition_of_not_obj {json : Json F} (other : ∀ fields, json ≠ .obj fields) :
    validateDefinition json = .error (.definition "definition must be a JSON object") := by
  cases json with
  | obj fields => exact absurd rfl (other fields)
  | _ => rfl

/-- A definition is returned exactly if it is one, and then as it was given. -/
theorem validateDefinition_eq_ok {json : Json F} {definition : Definition F} :
    validateDefinition json = .ok definition ↔ ∃ fields, Describes json definition fields := by
  by_cases object : ∃ fields, json = .obj fields
  · obtain ⟨fields, rfl⟩ := object
    simp only [validateDefinition, bind_eq_ok, asList_eq_ok, requireMember_eq_ok, mapM_eq_ok,
      validateTrigger_eq_ok, validateStage_eq_ok, forall₂_obj, pure, Except.pure, Except.ok.injEq]
    constructor
    · rintro ⟨triggers, hasTriggers, stages, hasStages, -, mode, ts, ⟨rfl, validTs⟩, ss, ⟨rfl, validSs⟩, rfl⟩
      obtain ⟨s, listed, same⟩ := mode
      rw [Option.some.injEq] at same
      refine ⟨fields, ⟨rfl, hasTriggers, hasStages⟩, ?_, ⟨s, listed, ?_⟩, validTs, validSs⟩
      · rw [modeOf, same]
      · rw [modeOf, same]
    · rintro ⟨found, ⟨object, hasTriggers, hasStages⟩, mode, validMode, validTs, validSs⟩
      cases object
      refine ⟨_, hasTriggers, _, hasStages, (), validMode, _, ⟨rfl, validTs⟩, _, ⟨rfl, validSs⟩, ?_⟩
      rw [modeOf] at mode
      rw [mode]
  · rw [validateDefinition_of_not_obj fun fields same => object ⟨fields, same⟩]
    constructor
    · intro same
      cases same
    · rintro ⟨fields, described⟩
      exact absurd ⟨fields, described.lists.object⟩ object

omit [Arith F] in
theorem mapM_validateTrigger_isOk {items : List (Json F)} :
    (∃ triggers, items.mapM validateTrigger = .ok triggers) ↔
      ∀ item ∈ items, ∃ trigger, item = .obj trigger ∧ ValidTrigger trigger := by
  simp only [mapM_isOk_iff, validateTrigger_eq_ok]

/-- It ends in a `TypeError` exactly if a list or object is looked up. -/
theorem validateDefinition_raises {json : Json F} :
    validateDefinition json = .error .type ↔ LooksUpUnhashable json := by
  by_cases object : ∃ fields, json = .obj fields
  · obtain ⟨fields, rfl⟩ := object
    simp only [validateDefinition, bind_eq_error, asList_eq_ok, asList_raises, requireMember_eq_ok,
      requireMember_raises, mapM_eq_error, validateTrigger_eq_ok, validateTrigger_raises, validateStage_eq_ok,
      validateStage_raises, pure, Except.pure, false_or, reduceCtorEq, and_false, exists_false, or_false]
    constructor
    · rintro ⟨triggers, hasTriggers, stages, hasStages, unlookable | ⟨-, mode, later⟩⟩
      · exact ⟨fields, triggers, stages, ⟨rfl, hasTriggers, hasStages⟩, Or.inl unlookable⟩
      · refine ⟨fields, triggers, stages, ⟨rfl, hasTriggers, hasStages⟩, Or.inr ⟨mode, ?_⟩⟩
        rcases later with first | ⟨ts, mapped, first⟩
        · exact Or.inl first
        · exact Or.inr ⟨mapM_validateTrigger_isOk.mp ⟨ts, mapped⟩, first⟩
    · rintro ⟨found, triggers, stages, ⟨object, hasTriggers, hasStages⟩, unlookable | ⟨mode, later⟩⟩
      · cases object
        exact ⟨triggers, hasTriggers, stages, hasStages, Or.inl unlookable⟩
      · cases object
        refine ⟨triggers, hasTriggers, stages, hasStages, Or.inr ⟨(), mode, ?_⟩⟩
        rcases later with first | ⟨valid, first⟩
        · exact Or.inl first
        · obtain ⟨ts, mapped⟩ := mapM_validateTrigger_isOk.mpr valid
          exact Or.inr ⟨ts, mapped, first⟩
  · rw [validateDefinition_of_not_obj fun fields same => object ⟨fields, same⟩]
    constructor
    · intro same
      cases same
    · rintro ⟨fields, triggers, stages, lists, -⟩
      exact absurd ⟨fields, lists.object⟩ object

/-! What a definition that passed is used for. -/

/-- `x < value`. Booleans compare as 0 and 1; anything that is not a number raises. -/
def below (x : F) : Json F → Except PlaybookError Bool
  | .number n => .ok (isBelow x (.number n))
  | .bool b => .ok (decide (x < if b then 1 else 0))
  | _ => .error .type

/-- What a trigger compares the window with, by its type. -/
def threshold (trigger : Fields F) : Json F :=
  if isType trigger "tier_reached" then (field? trigger "min_tier").getD one
  else if isType trigger "persistence" then (field? trigger "consecutive_windows").getD one
  else (field? trigger "min_hosts_simultaneously").getD one

def targetTier (stage : Fields F) : Json F := (field? stage "target_tier").getD one

/-- The values the check does not look at are what they are used as. -/
structure Usable (definition : Definition F) : Prop where
  thresholds : ∀ trigger ∈ definition.triggers, (threshold trigger).Comparable
  tiers : ∀ stage ∈ definition.stages, isType stage "escalate" = true → (targetTier stage).Comparable
  delays : ∀ stage ∈ definition.stages, ∃ y, stageDelay stage = .number (.finite y)

theorem atMost_isOk_iff {value : Json F} {x : F} : (∃ b, atMost value x = .ok b) ↔ value.Comparable := by
  cases value with
  | number n => cases n <;> simp [atMost, Json.Comparable]
  | _ => simp [atMost, Json.Comparable]

/-- Each type of trigger makes one comparison. -/
theorem triggerFires_eq {trigger : Fields F} (valid : ValidTrigger trigger) (seen : TriggerState) :
    ∃ x, triggerFires trigger seen = atMost (threshold trigger) x := by
  obtain ⟨s, listed, typed⟩ := valid
  simp only [triggerTypes, List.mem_cons, List.not_mem_nil, or_false] at listed
  rcases listed with rfl | rfl | rfl
  · exact ⟨(seen.tierReached : F), by simp [triggerFires, threshold, isType, typed]⟩
  · exact ⟨(seen.consecutiveWindows : F), by simp [triggerFires, threshold, isType, typed]⟩
  · exact ⟨(seen.hostsUnderAttack : F), by simp [triggerFires, threshold, isType, typed]⟩

theorem evaluateTriggers_isOk_iff {definition : Definition F} {seen : TriggerState} :
    (∃ fires, evaluateTriggers definition seen = .ok fires) ↔
      ∀ trigger ∈ definition.triggers, ∃ b, triggerFires trigger seen = .ok b := by
  rw [← mapM_isOk_iff]
  unfold evaluateTriggers
  constructor
  · rintro ⟨fires, evaluated⟩
    obtain ⟨results, mapped, -⟩ := bind_eq_ok.mp evaluated
    exact ⟨results, mapped⟩
  · rintro ⟨results, mapped⟩
    exact ⟨_, bind_eq_ok.mpr ⟨results, mapped, rfl⟩⟩

/-- A run against a source the stage can act on. -/
def attributableRun : PlaybookRun F := ⟨1, 1, "10.0.0.1", some "192.0.2.1", 0, true, 0, 0⟩

theorem executeEscalate_ne_raises_iff {stage : Fields F} :
    (∀ cfg run, executeEscalate cfg stage run ≠ .raises) ↔ (targetTier stage).Comparable := by
  constructor
  · intro never
    by_contra other
    have raised : ∃ e, atMost (targetTier stage) ((2 : Nat) : F) = .error e := by
      cases compared : atMost (targetTier stage) ((2 : Nat) : F) with
      | error e => exact ⟨e, rfl⟩
      | ok b => exact absurd (atMost_isOk_iff.mp ⟨b, compared⟩) other
    obtain ⟨e, raised⟩ := raised
    apply never EnforcementConfig.default attributableRun
    have known : ¬ ("192.0.2.1" = "" ∨ "192.0.2.1" ∈ sentinelTexts) := by decide
    rw [targetTier] at raised
    simp only [executeEscalate, attributableRun, known, if_false, raised]
  · intro comparable cfg run raised
    obtain ⟨b, compared⟩ := atMost_isOk_iff.mpr (comparable : (targetTier stage).Comparable)
    rw [targetTier] at compared
    unfold executeEscalate at raised
    split at raised
    · cases raised
    · split at raised
      · cases raised
      · rw [compared] at raised
        cases b <;> cases raised

theorem ValidStage.delay_number {stage : Fields F} (valid : ValidStage stage) :
    ∃ n, stageDelay stage = .number n := by
  have checked := valid.delay
  unfold stageDelay
  cases given : field? stage "delay_seconds" with
  | none => exact ⟨_, rfl⟩
  | some json =>
    rw [given] at checked
    cases json with
    | number n => exact ⟨n, rfl⟩
    | _ => cases checked

/-- After the check the comparison is the one the pass makes. -/
theorem ValidStage.below_eq {stage : Fields F} (valid : ValidStage stage) (elapsed : F) :
    below elapsed (stageDelay stage) = .ok (isBelow elapsed (stageDelay stage)) := by
  obtain ⟨n, number⟩ := valid.delay_number
  rw [number]
  rfl

/-- The check of this value ends as it should, and nothing the engine does with a value it
returns raises or waits forever. -/
structure Sound (json : Json F) : Prop where
  outcome : (∃ definition fields, validateDefinition json = .ok definition ∧
      Describes json definition fields) ∨
    ∃ message, validateDefinition json = .error (.definition message)
  triggers : ∀ definition, validateDefinition json = .ok definition →
    ∀ seen, ∃ fires, evaluateTriggers definition seen = .ok fires
  tiers : ∀ definition, validateDefinition json = .ok definition →
    ∀ stage ∈ definition.stages, isType stage "escalate" = true →
      ∀ cfg run, executeEscalate cfg stage run ≠ .raises
  delays : ∀ definition, validateDefinition json = .ok definition →
    ∀ stage ∈ definition.stages, (∀ elapsed, ∃ early, below elapsed (stageDelay stage) = .ok early) ∧
      ∃ y, stageDelay stage = .number (.finite y) ∧
        ∀ elapsed, y ≤ elapsed → below elapsed (stageDelay stage) = .ok false

theorem outcome_iff {json : Json F} :
    ((∃ definition fields, validateDefinition json = .ok definition ∧ Describes json definition fields) ∨
      ∃ message, validateDefinition json = .error (.definition message)) ↔ ¬ LooksUpUnhashable json := by
  rw [← validateDefinition_raises]
  cases ended : validateDefinition json with
  | ok definition =>
    obtain ⟨fields, described⟩ := validateDefinition_eq_ok.mp ended
    simp only [reduceCtorEq, not_false_eq_true, iff_true]
    exact Or.inl ⟨definition, fields, rfl, described⟩
  | error e => cases e <;> simp

/-- One JSON value: the check and everything after it behave exactly if no list or object is
looked up in a set, and, where the value is a definition, its thresholds and tiers are
numbers or booleans and its delays finite. -/
theorem definition_sound_iff (json : Json F) :
    Sound json ↔ ¬ LooksUpUnhashable json ∧
      ∀ definition fields, Describes json definition fields → Usable definition := by
  constructor
  · intro sound
    refine ⟨outcome_iff.mp sound.outcome, fun definition fields described => ?_⟩
    have accepted := validateDefinition_eq_ok.mpr ⟨fields, described⟩
    refine ⟨fun trigger member => ?_, fun stage member escalates => ?_, fun stage member => ?_⟩
    · have fires := evaluateTriggers_isOk_iff.mp (sound.triggers definition accepted ⟨0, 0, 0⟩) trigger member
      obtain ⟨x, compares⟩ := triggerFires_eq (described.validTriggers trigger member) ⟨0, 0, 0⟩
      rw [compares] at fires
      exact atMost_isOk_iff.mp fires
    · exact executeEscalate_ne_raises_iff.mp (sound.tiers definition accepted stage member escalates)
    · obtain ⟨-, y, finite, -⟩ := sound.delays definition accepted stage member
      exact ⟨y, finite⟩
  · rintro ⟨hashable, usable⟩
    refine ⟨outcome_iff.mpr hashable, fun definition accepted seen => ?_,
      fun definition accepted stage member escalates => ?_, fun definition accepted stage member => ?_⟩
    · obtain ⟨fields, described⟩ := validateDefinition_eq_ok.mp accepted
      rw [evaluateTriggers_isOk_iff]
      intro trigger member
      obtain ⟨x, compares⟩ := triggerFires_eq (described.validTriggers trigger member) seen
      rw [compares]
      exact atMost_isOk_iff.mpr ((usable definition fields described).thresholds trigger member)
    · obtain ⟨fields, described⟩ := validateDefinition_eq_ok.mp accepted
      exact executeEscalate_ne_raises_iff.mpr ((usable definition fields described).tiers stage member escalates)
    · obtain ⟨fields, described⟩ := validateDefinition_eq_ok.mp accepted
      have compares := (described.validStages stage member).below_eq
      obtain ⟨y, finite⟩ := (usable definition fields described).delays stage member
      refine ⟨fun elapsed => ⟨_, compares elapsed⟩, y, finite, fun elapsed late => ?_⟩
      rw [compares, finite, isBelow, decide_eq_false (not_lt.mpr late)]

/-- One trigger and one stage. -/
def oneStage (mode : Json ℚ) (trigger stage : Fields ℚ) : Json ℚ :=
  .obj [("triggers", .arr [.obj trigger]), ("stages", .arr [.obj stage]), ("trigger_mode", mode)]

/-- A list as the mode is looked up and raises. A text as a threshold, null as a tier and
infinity as a delay pass the check; the first two raise when they are compared, and the
third is never over. -/
theorem unsound_definitions :
    validateDefinition (oneStage (.arr [.str "any"]) [("type", .str "scale")] [("type", .str "report")]) =
        .error .type ∧
      (∃ definition, validateDefinition (oneStage (.str "any")
          [("type", .str "tier_reached"), ("min_tier", .str "2")] [("type", .str "report")]) = .ok definition ∧
        evaluateTriggers definition ⟨3, 1, 1⟩ = .error .type) ∧
      (∃ definition, validateDefinition (oneStage (.str "any") [("type", .str "scale")]
          [("type", .str "escalate"), ("target_tier", .null)]) = .ok definition ∧
        ∃ stage ∈ definition.stages, executeEscalate EnforcementConfig.default stage attributableRun = .raises) ∧
      ∃ definition, validateDefinition (oneStage (.str "any") [("type", .str "scale")]
          [("type", .str "report"), ("delay_seconds", .number .infinity)]) = .ok definition ∧
        ∃ stage ∈ definition.stages, ∀ elapsed, below elapsed (stageDelay stage) = .ok true := by
  refine ⟨rfl, ⟨_, rfl, rfl⟩, ⟨_, rfl, _, List.mem_cons_self, rfl⟩, _, rfl, _, List.mem_cons_self, ?_⟩
  intro elapsed
  rfl

end Flod.Stage2
