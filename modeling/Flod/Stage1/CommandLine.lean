import Flod.Stage1.TargetRun

/-! The command line of Stage 1, and which of the configurations it accepts can make the
analysis thread panic. -/

namespace Flod.Stage1
open Flod.Lib Flod.Net

/-- A text read as `f64`. The infinities and not-a-number are read like any other number. -/
inductive Parsed (F : Type) where
  | finite (x : F)
  | nonFinite

/-- `str::parse` of the standard library, and `as usize` on a positive number. -/
structure Parsers (F : Type) where
  f64 : String → Option (Parsed F)
  u64 : String → Option Nat
  u8 : String → Option Nat
  ipAddr : String → Option IpAddr
  toUsize : F → Nat

inductive CaptureMode where
  | pcap
  | kernel
  deriving DecidableEq, Repr

/-- Why the process leaves instead of returning its arguments. Help and version leave with
status 0, everything else with status 1. -/
inductive Exit where
  | captureMode (got : Option String)
  | notPositive (flag : String) (got : Option String)
  | notPositiveWhole (flag : String) (got : Option String)
  | help
  | version
  | unknownArgument (other : String)
  | interfaceRequired
  | egressMustDiffer
  | invalidVictim (s : String)
  | subnetFormat (subnet : String)
  | subnetAddress (s : String)
  | subnetBits (s : String)
  | invalidExcluded (s : String)
  deriving DecidableEq, Repr

/-- The variables `CliArgs::parse` fills in its loop. -/
structure CliFlags (F : Type) where
  interface : String
  egressInterface : Option String
  captureMode : CaptureMode
  entropySigmaFloor : F
  entropySigmaCeiling : F
  rateSigmaFloor : F
  rateSigmaFloorRatio : F
  distributedDominance : F
  entropyMinPackets : Nat
  maxSources : Nat
  maxFlows : Nat
  maxProtectedHosts : Nat
  emergencyVolumeSigma : F
  entropyKFallback : F
  rateSigmaCeilingRatio : F
  rateSigmaCeilingFloor : F
  outlierSigma : F
  rateMeanCap : F
  cooldownWindows : Nat
  cooldownKFactor : F
  peacetimeEwmaWeight : F
  maxBaselineFreezeWindows : Nat
  victimIps : Option String
  victimSubnet : Option String
  excludeIpsStr : Option String
  k : Parsed F
  alpha : Parsed F

structure CliArgs (F : Type) where
  flags : CliFlags F
  victimTargets : Option VictimTargets
  excludeIps : List IpAddr

variable {F : Type} [Arith F]

def CliFlags.initial : CliFlags F where
  interface := ""
  egressInterface := none
  captureMode := .pcap
  entropySigmaFloor := 0.05
  entropySigmaCeiling := 0.15
  rateSigmaFloor := 50.0
  rateSigmaFloorRatio := 0.24
  distributedDominance := 0.40
  entropyMinPackets := 100
  maxSources := 65536
  maxFlows := 8192
  maxProtectedHosts := 256
  emergencyVolumeSigma := 10.0
  entropyKFallback := 0.8
  rateSigmaCeilingRatio := 0.2
  rateSigmaCeilingFloor := 10000.0
  outlierSigma := 5.0
  rateMeanCap := 10000.0
  cooldownWindows := 10
  cooldownKFactor := 0.5
  peacetimeEwmaWeight := 0.001
  maxBaselineFreezeWindows := 400
  victimIps := none
  victimSubnet := none
  excludeIpsStr := none
  k := .finite 2.0
  alpha := .finite 0.125

/-! One argument. -/

def parsePositive (P : Parsers F) (raw : Option String) (flag : String) : Except Exit F :=
  match raw.bind P.f64 with
  | some (.finite v) => if 0 < v then .ok v else .error (.notPositive flag raw)
  | _ => .error (.notPositive flag raw)

def parsePositiveU64 (P : Parsers F) (raw : Option String) (flag : String) : Except Exit Nat :=
  match raw.bind P.u64 with
  | some v => if 0 < v then .ok v else .error (.notPositiveWhole flag raw)
  | none => .error (.notPositiveWhole flag raw)

/-- What an arm of the loop does with the argument after the flag. -/
inductive Arm (F : Type) where
  | text (set : CliFlags F → Option String → CliFlags F)
  | positive (set : CliFlags F → F → CliFlags F)
  | positiveU64 (set : CliFlags F → Nat → CliFlags F)
  | captureMode
  /-- A flag without a value. -/
  | switch
  | leave (exit : Exit)

/-- The arms of the loop. Those of values the analysis never reads keep the flags as they
are. -/
def arms (P : Parsers F) : List (String × Arm F) :=
  [("--interface", .text (fun c v => { c with interface := v.getD "" })),
   ("--egress-interface", .text (fun c v => { c with egressInterface := v })),
   ("--capture-mode", .captureMode),
   ("--bpf-object", .text (fun c _ => c)),
   ("--entropy-sigma-floor", .positive (fun c x => { c with entropySigmaFloor := x })),
   ("--entropy-sigma-ceiling", .positive (fun c x => { c with entropySigmaCeiling := x })),
   ("--rate-sigma-floor", .positive (fun c x => { c with rateSigmaFloor := x })),
   ("--rate-sigma-floor-ratio", .positive (fun c x => { c with rateSigmaFloorRatio := x })),
   ("--distributed-dominance", .positive (fun c x => { c with distributedDominance := x })),
   ("--entropy-min-packets", .positive (fun c x => { c with entropyMinPackets := P.toUsize x })),
   ("--max-sources", .positiveU64 (fun c n => { c with maxSources := asU32 n })),
   ("--max-flows", .positiveU64 (fun c n => { c with maxFlows := asU32 n })),
   ("--max-protected-hosts", .positiveU64 (fun c n => { c with maxProtectedHosts := asU32 n })),
   ("--emergency-volume-sigma", .positive (fun c x => { c with emergencyVolumeSigma := x })),
   ("--entropy-k-fallback", .positive (fun c x => { c with entropyKFallback := x })),
   ("--rate-sigma-ceiling-ratio", .positive (fun c x => { c with rateSigmaCeilingRatio := x })),
   ("--rate-sigma-ceiling-floor", .positive (fun c x => { c with rateSigmaCeilingFloor := x })),
   ("--outlier-sigma", .positive (fun c x => { c with outlierSigma := x })),
   ("--rate-mean-cap", .positive (fun c x => { c with rateMeanCap := x })),
   ("--cooldown-windows", .positiveU64 (fun c n => { c with cooldownWindows := n })),
   ("--cooldown-k-factor", .positive (fun c x => { c with cooldownKFactor := x })),
   ("--peacetime-ewma-weight", .positive (fun c x => { c with peacetimeEwmaWeight := x })),
   ("--max-baseline-freeze-windows",
     .positiveU64 (fun c n => { c with maxBaselineFreezeWindows := n })),
   ("--victim-ip", .text (fun c v => { c with victimIps := v })),
   ("--victim-ips", .text (fun c v => { c with victimIps := v })),
   ("--victim-subnet", .text (fun c v => { c with victimSubnet := v })),
   ("--exclude-ips", .text (fun c v => { c with excludeIpsStr := v })),
   ("--exclude-ip", .text (fun c v => { c with excludeIpsStr := v })),
   -- A text that is no number falls back to the default, any number at all is taken.
   ("--k", .text (fun c v => { c with k := (v.bind P.f64).getD (.finite 2.0) })),
   ("--alpha", .text (fun c v => { c with alpha := (v.bind P.f64).getD (.finite 0.125) })),
   ("--socket", .text (fun c _ => c)),
   ("--no-filter", .switch),
   ("--log-file", .text (fun c _ => c)),
   ("--train-csv", .text (fun c _ => c)),
   ("--label", .text (fun c _ => c)),
   ("--baseline-path", .text (fun c _ => c)),
   ("--baseline-ttl-secs", .text (fun c _ => c)),
   ("--help", .leave .help),
   ("-h", .leave .help),
   ("--version", .leave .version),
   ("-V", .leave .version)]

/-- The arm a flag selects. The last arm of the `match` takes every other text. -/
def armOf (P : Parsers F) (flag : String) : Arm F :=
  ((arms P).lookup flag).getD (.leave (.unknownArgument flag))

/-- The flags after an arm, given the argument after the flag. -/
def Arm.apply (P : Parsers F) (c : CliFlags F) (flag : String) (raw : Option String) :
    Arm F → Except Exit (CliFlags F)
  | .text set => .ok (set c raw)
  | .positive set => (parsePositive P raw flag).map (set c)
  | .positiveU64 set => (parsePositiveU64 P raw flag).map (set c)
  | .captureMode =>
      if raw = some "pcap" then .ok { c with captureMode := .pcap }
      else if raw = some "kernel" ∨ raw = some "xdp" then .ok { c with captureMode := .kernel }
      else .error (.captureMode raw)
  | .switch => .ok c
  | .leave exit => .error exit

/-- Only a switch leaves the next argument to be read as a flag. -/
def Arm.takesValue : Arm F → Bool
  | .switch => false
  | _ => true

/-- The loop over the arguments after the name of the program. -/
def readFlags (P : Parsers F) : CliFlags F → List String → Except Exit (CliFlags F)
  | c, [] => .ok c
  | c, [flag] => (armOf P flag).apply P c flag none
  | c, flag :: value :: rest =>
      match (armOf P flag).apply P c flag (some value) with
      | .error exit => .error exit
      | .ok next =>
          if (armOf P flag).takesValue then readFlags P next rest else readFlags P next (value :: rest)

/-! The checks after the loop. -/

def parseList (P : Parsers F) (invalid : String → Exit) (ips : String) : Except Exit (List IpAddr) :=
  (ips.splitOn ",").mapM (fun s =>
    match P.ipAddr s with
    | some ip => .ok ip
    | none => .error (invalid s))

/-- A list of addresses wins over a subnet. -/
def parseTargets (P : Parsers F) : Option String → Option String → Except Exit (Option VictimTargets)
  | some ips, _ => (parseList P .invalidVictim ips).map (fun list => some (.list list))
  | none, some subnet =>
      match subnet.splitOn "/" with
      | [address, bits] =>
          match P.ipAddr address, P.u8 bits with
          | none, _ => .error (.subnetAddress address)
          | some _, none => .error (.subnetBits bits)
          | some ip, some bits => .ok (some (.subnet ip bits))
      | _ => .error (.subnetFormat subnet)
  | none, none => .ok none

def parseExcluded (P : Parsers F) : Option String → Except Exit (List IpAddr)
  | some ips => parseList P .invalidExcluded ips
  | none => .ok []

def CliArgs.parse (P : Parsers F) (args : List String) : Except Exit (CliArgs F) :=
  match readFlags P .initial args with
  | .error exit => .error exit
  | .ok flags =>
      if flags.interface = "" then .error .interfaceRequired
      else if flags.egressInterface = some flags.interface then .error .egressMustDiffer
      else
        match parseTargets P flags.victimIps flags.victimSubnet, parseExcluded P flags.excludeIpsStr with
        | .error exit, _ => .error exit
        | .ok _, .error exit => .error exit
        | .ok targets, .ok excluded => .ok ⟨flags, targets, excluded⟩

/-- The configuration of the analysis thread, for the numbers `k` and `alpha` come to. -/
def CliArgs.analysisConfig (args : CliArgs F) (k alpha : F) : AnalysisConfig F where
  k := k
  ewmaAlpha := alpha
  victimTargets := args.victimTargets
  excludeIps := args.excludeIps
  egressEnabled := args.flags.egressInterface.isSome
  entropySigmaFloor := args.flags.entropySigmaFloor
  entropySigmaCeiling := args.flags.entropySigmaCeiling
  rateSigmaFloor := args.flags.rateSigmaFloor
  rateSigmaFloorRatio := args.flags.rateSigmaFloorRatio
  distributedDominance := args.flags.distributedDominance
  entropyMinPackets := args.flags.entropyMinPackets
  maxTrackedFlows := args.flags.maxFlows
  emergencyVolumeSigma := args.flags.emergencyVolumeSigma
  entropyKFallback := args.flags.entropyKFallback
  rateSigmaCeilingRatio := args.flags.rateSigmaCeilingRatio
  rateSigmaCeilingFloor := args.flags.rateSigmaCeilingFloor
  outlierSigma := args.flags.outlierSigma
  rateMeanCap := args.flags.rateMeanCap
  cooldownWindows := args.flags.cooldownWindows
  cooldownKFactor := args.flags.cooldownKFactor
  peacetimeEwmaWeight := args.flags.peacetimeEwmaWeight
  maxBaselineFreezeWindows := args.flags.maxBaselineFreezeWindows

/-- Arguments that some command line is read as. -/
def Accepted (P : Parsers F) : Type := { cli : CliArgs F // ∃ args, CliArgs.parse P args = .ok cli }

/-! What every accepted command line guarantees. -/

theorem parsePositive_pos {P : Parsers F} {raw : Option String} {flag : String} {x : F}
    (read : parsePositive P raw flag = .ok x) : 0 < x := by
  unfold parsePositive at read
  split at read
  · split_ifs at read with positive
    cases read
    exact positive
  · cases read

omit [Arith F] in
theorem parsePositiveU64_pos {P : Parsers F} {raw : Option String} {flag : String} {n : Nat}
    (read : parsePositiveU64 P raw flag = .ok n) : 0 < n := by
  unfold parsePositiveU64 at read
  split at read
  · split_ifs at read with positive
    cases read
    exact positive
  · cases read

section Invariant

variable {J : CliFlags F → Prop}

/-- An arm that keeps an invariant, whatever value its parser lets through. -/
def Arm.Keeps (J : CliFlags F → Prop) : Arm F → Prop
  | .text set => ∀ c raw, J c → J (set c raw)
  | .positive set => ∀ c x, 0 < x → J c → J (set c x)
  | .positiveU64 set => ∀ c n, 0 < n → J c → J (set c n)
  | .captureMode => ∀ c mode, J c → J { c with captureMode := mode }
  | .switch => True
  | .leave _ => True

theorem Arm.Keeps.apply {P : Parsers F} {c next : CliFlags F} {flag : String} {raw : Option String}
    {arm : Arm F} (keeps : arm.Keeps J) (start : J c) (applied : arm.apply P c flag raw = .ok next) :
    J next := by
  cases arm with
  | text set =>
    cases applied
    exact keeps c raw start
  | positive set =>
    simp only [Arm.apply] at applied
    cases read : parsePositive P raw flag with
    | error exit => simp [read, Except.map] at applied
    | ok x =>
      rw [read] at applied
      cases applied
      exact keeps c x (parsePositive_pos read) start
  | positiveU64 set =>
    simp only [Arm.apply] at applied
    cases read : parsePositiveU64 P raw flag with
    | error exit => simp [read, Except.map] at applied
    | ok n =>
      rw [read] at applied
      cases applied
      exact keeps c n (parsePositiveU64_pos read) start
  | captureMode =>
    simp only [Arm.apply] at applied
    split_ifs at applied
    · cases applied
      exact keeps c .pcap start
    · cases applied
      exact keeps c .kernel start
  | switch =>
    cases applied
    exact start
  | leave exit => cases applied

theorem armOf_keeps {P : Parsers F} (all : ∀ entry ∈ arms P, entry.2.Keeps J) (flag : String) :
    (armOf P flag).Keeps J := by
  unfold armOf
  cases found : (arms P).lookup flag with
  | none => exact trivial
  | some arm =>
    obtain ⟨before, after, split, -⟩ := List.lookup_eq_some_iff.mp found
    exact all (flag, arm) (by rw [split]; simp)

theorem readFlags_keeps {P : Parsers F} (all : ∀ entry ∈ arms P, entry.2.Keeps J)
    (args : List String) (c flags : CliFlags F) (start : J c) (read : readFlags P c args = .ok flags) :
    J flags := by
  induction c, args using readFlags.induct P with
  | case1 c =>
    cases read
    exact start
  | case2 c flag => exact (armOf_keeps all flag).apply start read
  | case3 c flag value rest exit failed => simp [readFlags, failed] at read
  | case4 c flag value rest next applied takes ih =>
    simp only [readFlags, applied, takes, if_true] at read
    exact ih ((armOf_keeps all flag).apply start applied) read
  | case5 c flag value rest next applied takes ih =>
    simp only [readFlags, applied, if_neg takes] at read
    exact ih ((armOf_keeps all flag).apply start applied) read

end Invariant

/-- Positive tuning values, in the configuration the flags will make. -/
def CliFlags.Tuned (flags : CliFlags F) : Prop :=
  ((CliArgs.mk flags none []).analysisConfig 0 0).Tuned

theorem arms_tuned (P : Parsers F) : ∀ entry ∈ arms P, entry.2.Keeps CliFlags.Tuned := by
  simp only [arms, List.forall_mem_cons, Arm.Keeps]
  and_intros
  all_goals first
    | exact trivial
    | exact fun c _ tuned => { tuned with }
    | exact fun c x positive tuned => by
        cases tuned
        constructor <;> assumption
    | simp

theorem initial_tuned : (CliFlags.initial : CliFlags F).Tuned := by
  constructor <;> norm_num [CliFlags.initial, CliArgs.analysisConfig]

/-- The checks after the loop return the flags as the loop left them. -/
theorem parse_flags {P : Parsers F} {args : List String} {cli : CliArgs F}
    (accepted : CliArgs.parse P args = .ok cli) : readFlags P .initial args = .ok cli.flags := by
  unfold CliArgs.parse at accepted
  split at accepted
  · cases accepted
  · rename_i flags read
    split_ifs at accepted
    split at accepted
    · cases accepted
    · cases accepted
    · cases accepted
      exact read

/-- Whatever the command line, the tuning values of the configuration are positive. -/
theorem Accepted.tuned {P : Parsers F} (cli : Accepted P) (k alpha : F) :
    (cli.val.analysisConfig k alpha).Tuned := by
  obtain ⟨args, accepted⟩ := cli.property
  have tuned : cli.val.flags.Tuned :=
    readFlags_keeps (arms_tuned P) args .initial cli.val.flags initial_tuned (parse_flags accepted)
  exact { tuned with }

/-! A target under these arguments. -/

def CliArgs.createTarget (cli : CliArgs F) (p : Option (PersistedBaseline F)) (now : Instant) :
    Option (TargetState F) :=
  match cli.flags.alpha with
  | .finite alpha => TargetState.new alpha p now
  -- The assertion fails for both infinities and for not-a-number.
  | .nonFinite => none

/-- What is concluded once the deviation of the entropy is known. -/
def evaluated (cfg : AnalysisConfig F) (ts : TargetState F) (stats : WindowStats F) (sigmaH : F) :
    Verdict F :=
  let flags := anomalyFlags cfg ts stats sigmaH
  let naturallyClean := windowIsClean flags ts.cooldownCounter stats.dominantIpRatio
    cfg.distributedDominance stats.r (ts.welfordRate.mean + sigmaRate cfg ts)
  let escape := applyFreezeEscape naturallyClean ts.consecutiveFrozenWindows
    cfg.maxBaselineFreezeWindows
  { sigmaR := sigmaRate cfg ts
    sigmaH := sigmaH
    baseK := baseK cfg ts
    anomalyFlags := flags
    isRealAnomaly := isRealAnomaly cfg ts stats sigmaH
    naturallyClean := naturallyClean
    isCleanWindow := escape.2
    consecutiveFrozenWindows := escape.1 }

/-- A close that concludes as it is told. The comparisons with a boundary made of a
non-finite multiplier come out in some way, and nothing else of a close reads it. -/
def closeJudged (cfg : AnalysisConfig F) (judge : TargetState F → WindowStats F → F → Verdict F)
    (reading : Reading F) (victim : IpAddr) (ts : TargetState F) :
    Option (TargetState F × ClosedWindow F) :=
  let measured := measure cfg reading victim ts
  if measured.2.isWarm then
    (sigmaEntropy cfg measured.2).map (fun sigmaH =>
      closeEvaluated cfg reading victim ts measured.2 measured.1 (judge measured.2 measured.1 sigmaH))
  else some (closeWarmup cfg reading victim ts measured.2 measured.1)

theorem closeWindow_eq_closeJudged (cfg : AnalysisConfig F) :
    closeWindow cfg = closeJudged cfg (evaluated cfg) := by
  funext reading victim ts
  unfold closeWindow closeJudged evaluate
  simp only [Option.map_map]
  rfl

/-- The closes the arguments can lead to. With a finite multiplier there is one. -/
inductive CliArgs.ClosesBy (cli : CliArgs F) :
    (Reading F → IpAddr → TargetState F → Option (TargetState F × ClosedWindow F)) → Prop
  | finite {k alpha : F} (multiplier : cli.flags.k = .finite k) (factor : cli.flags.alpha = .finite alpha) :
      cli.ClosesBy (closeWindow (cli.analysisConfig k alpha))
  | nonFinite {k alpha : F} (judge : TargetState F → WindowStats F → F → Verdict F)
      (multiplier : cli.flags.k = .nonFinite) (factor : cli.flags.alpha = .finite alpha) :
      cli.ClosesBy (closeJudged (cli.analysisConfig k alpha) judge)

/-- Every target can be created, and survives whatever is counted for it and every close. -/
def CliArgs.NeverPanics (cli : CliArgs F) : Prop :=
  ∀ p now, ∃ ts, cli.createTarget p now = some ts ∧
    ∀ close, cli.ClosesBy close → ∀ victim events,
      (run (TargetState.handleWith (fun reading ts => close reading victim ts)) ts events).isSome = true

/-- The one precondition of a close: past warm-up the bounds of the clamp are in order. -/
theorem closeJudged_isSome {cfg : AnalysisConfig F}
    {judge : TargetState F → WindowStats F → F → Verdict F} {reading : Reading F} {victim : IpAddr}
    {ts : TargetState F} :
    (closeJudged cfg judge reading victim ts).isSome = true ↔
      (ts.isWarm = true → cfg.entropySigmaFloor ≤ cfg.entropySigmaCeiling) := by
  have sameWarm : (measure cfg reading victim ts).2.isWarm = ts.isWarm := rfl
  unfold closeJudged sigmaEntropy
  simp only [sameWarm]
  by_cases warm : ts.isWarm = true
  · by_cases ordered : cfg.entropySigmaFloor ≤ cfg.entropySigmaCeiling
    · simp [warm, ordered]
    · simp [warm, ordered]
  · simp [warm]

theorem CliArgs.ClosesBy.isSome {cli : CliArgs F}
    {close : Reading F → IpAddr → TargetState F → Option (TargetState F × ClosedWindow F)}
    (closes : cli.ClosesBy close) (reading : Reading F) (victim : IpAddr) (ts : TargetState F) :
    (close reading victim ts).isSome = true ↔
      (ts.isWarm = true → cli.flags.entropySigmaFloor ≤ cli.flags.entropySigmaCeiling) := by
  cases closes with
  | finite multiplier factor =>
    rw [closeWindow_eq_closeJudged]
    exact closeJudged_isSome
  | nonFinite judge multiplier factor => exact closeJudged_isSome

theorem CliArgs.ClosesBy.exists_of_alpha {cli : CliArgs F} {alpha : F}
    (factor : cli.flags.alpha = .finite alpha) : ∃ close, cli.ClosesBy close := by
  cases multiplier : cli.flags.k with
  | finite k => exact ⟨_, .finite multiplier factor⟩
  | nonFinite => exact ⟨_, .nonFinite (k := 0) (evaluated (cli.analysisConfig 0 alpha)) multiplier factor⟩

theorem handleWith_isSome {close : Reading F → TargetState F → Option (TargetState F × ClosedWindow F)}
    (total : ∀ reading ts, (close reading ts).isSome = true) (ts : TargetState F) (e : TargetEvent F) :
    (ts.handleWith close e).isSome = true := by
  cases e with
  | counted c => rfl
  | checked elapsed timestamp sendOk sources =>
    simp only [TargetState.handleWith]
    split_ifs
    · simp [total]
    · rfl

/-! Each of the two panics, reached. -/

/-- A baseline saved after a full warm-up. -/
def warmBaseline : PersistedBaseline F where
  rateN := warmupWindows
  rateMean := 0
  rateM2 := 0
  entropyN := warmupWindows
  entropyMean := 0
  entropyM2 := 0
  ewmaRate := 0
  cooldownCounter := 0
  peacetimeRateRef := none
  peacetimeEntropyRef := none

theorem warmBaseline_isWarm {alpha : F} {now : Instant} {ts : TargetState F}
    (created : TargetState.new alpha (some warmBaseline) now = some ts) : ts.isWarm = true := by
  obtain ⟨ewma, -, rfl⟩ := Option.map_eq_some_iff.mp created
  rfl

theorem createTarget_isSome {cli : CliArgs F} {p : Option (PersistedBaseline F)} {now : Instant} :
    (∃ ts, cli.createTarget p now = some ts) ↔
      ∃ alpha, cli.flags.alpha = .finite alpha ∧ 0 < alpha ∧ alpha < 1 := by
  unfold CliArgs.createTarget TargetState.new EwmaState.withAlpha
  cases factor : cli.flags.alpha with
  | finite alpha =>
    by_cases inside : 0 < alpha ∧ alpha < 1
    · simp [inside]
    · simp [inside]
  | nonFinite => simp

/-- A restored target that is idle for one second. -/
theorem CliArgs.NeverPanics.ordered {cli : CliArgs F} (never : cli.NeverPanics) :
    cli.flags.entropySigmaFloor ≤ cli.flags.entropySigmaCeiling := by
  obtain ⟨ts, created, survives⟩ := never (some warmBaseline) 0
  obtain ⟨alpha, factor, -⟩ := createTarget_isSome.mp ⟨ts, created⟩
  obtain ⟨close, closes⟩ := ClosesBy.exists_of_alpha factor
  simp only [createTarget, factor] at created
  have ran := survives close closes unspecified [.checked 1000000000 0 true .inserted]
  have due : shouldClose (ts.readingAfter 1000000000 0 true .inserted).now ts = true := by
    norm_num [shouldClose, secondsSince, TargetState.readingAfter]
  have closed : (close (ts.readingAfter 1000000000 0 true .inserted) unspecified ts).isSome = true := by
    cases result : close (ts.readingAfter 1000000000 0 true .inserted) unspecified ts with
    | none => simp [run, TargetState.handleWith, due, result] at ran
    | some after => rfl
  exact (closes.isSome _ _ _).mp closed (warmBaseline_isWarm created)

/-- An accepted command line keeps the analysis thread from panicking exactly when its
smoothing factor lies between 0 and 1 and its entropy floor is at most its entropy ceiling. -/
theorem accepted_never_panics_iff (P : Parsers F) (cli : Accepted P) :
    cli.val.NeverPanics ↔
      (∃ alpha, cli.val.flags.alpha = .finite alpha ∧ 0 < alpha ∧ alpha < 1) ∧
        cli.val.flags.entropySigmaFloor ≤ cli.val.flags.entropySigmaCeiling := by
  constructor
  · intro never
    obtain ⟨ts, created, -⟩ := never none 0
    exact ⟨createTarget_isSome.mp ⟨ts, created⟩, never.ordered⟩
  · intro ⟨factor, ordered⟩ p now
    obtain ⟨ts, created⟩ := createTarget_isSome.mpr factor
    refine ⟨ts, created, ?_⟩
    intro close closes victim events
    apply run_isSome
    intro ts e
    apply handleWith_isSome
    intro reading ts
    exact (closes.isSome reading victim ts).mpr fun _ => ordered

/-- A result whose bounds crossed is of arguments under which the analysis thread panics. -/
theorem panics_of_crossed {result : Except Exit (CliArgs F)}
    (crossed : result.toOption.any (fun cli =>
      decide (cli.flags.entropySigmaCeiling < cli.flags.entropySigmaFloor)) = true) :
    ∃ cli, result = .ok cli ∧ ¬ cli.NeverPanics := by
  cases result with
  | error exit => cases crossed
  | ok cli =>
    refine ⟨cli, rfl, ?_⟩
    intro never
    exact absurd never.ordered (not_le.mpr (of_decide_eq_true crossed))

/-- The texts of the commands below, read as the numbers they are. -/
def plainParsers : Parsers ℚ where
  f64 := fun s => [("1", 1), ("0.2", 0.2)].lookup s |>.map .finite
  u64 := fun _ => none
  u8 := fun _ => none
  ipAddr := fun _ => none
  toUsize := fun x => x.floor.toNat

/-- A smoothing factor of 1 is accepted and no target can be created. An entropy floor of
0.2, above the default ceiling, is accepted and the first close past warm-up panics. -/
theorem alpha_and_floor_panic :
    (∃ cli, CliArgs.parse plainParsers ["--interface", "br0", "--alpha", "1"] = .ok cli ∧
      ¬ cli.NeverPanics) ∧
    ∃ cli, CliArgs.parse plainParsers ["--interface", "br0", "--entropy-sigma-floor", "0.2"] = .ok cli ∧
      ¬ cli.NeverPanics := by
  constructor
  · refine ⟨_, rfl, ?_⟩
    intro never
    obtain ⟨ts, created, -⟩ := never none 0
    obtain ⟨alpha, factor, -, below⟩ := createTarget_isSome.mp ⟨ts, created⟩
    cases factor
    exact absurd below (by decide +kernel)
  · apply panics_of_crossed
    decide +kernel

end Flod.Stage1
