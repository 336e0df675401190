import Flod.Lib.Dict
import Flod.Lib.HalfEven
import Flod.Lib.Spread
import Flod.Stage1.CommandLine

/-! The calibration of the sensor. From the clean windows of every protected host it derives the
least standard deviations of rate and entropy and emits them as flags, with a ceiling for the
entropy where the sensor's own would be too close. The flags end the sensor's command line; what
they leave in force is a band the entropy's deviation is clamped to. -/

namespace Flod.Scripts
open Flod.Lib Flod.Stage1

variable {F : Type} [Arith F]

/-- One line of the sensor's log. -/
structure LoggedWindow (F : Type) where
  wid : Nat
  r : F
  h : F
  meanR : F
  sigmaR : F
  meanH : F
  sigmaH : F
  cooldown : Nat

/-- What is derived for one protected host. -/
structure Recommendation (F : Type) where
  windowsTotal : Nat
  windowsClean : Nat
  flaggedShare : F
  muR : F
  peakR : F
  spreadR : F
  tailR : F
  rateFloor : F
  muH : F
  troughH : F
  spreadH : F
  tailH : F
  entropyFloor : F
  learnedMeanR : F
  learnedSigmaR : F
  learnedSigmaH : F

/-- The floors all hosts share, and the range of their rate floors where it is too wide for one
value. -/
structure Floors (F : Type) where
  rate : F
  entropy : F
  warning : Option (F × F)

def sensorEntropySigmaCeiling : F := 0.15

section Script

variable [FloorRing F]

/-- Linear interpolation between order statistics. -/
def percentile (values : List F) (q : F) : F :=
  if values.length = 0 then 0
  else if values.length = 1 then ranked values 0
  else
    let pos := ((values.length - 1 : Nat) : F) * q
    let lo := ⌊pos⌋
    let hi := ⌈pos⌉
    if lo = hi then ranked values lo.toNat
    else ranked values lo.toNat + (ranked values hi.toNat - ranked values lo.toNat) * (pos - (lo : F))

def pstdev (values : List F) : F := Arith.sqrt (squaredDeviations values / (values.length : F))

def robustSigma (values : List F) : F :=
  if values.length < 2 then 0
  else if 0 < medianDeviation values then medianDeviation values * 1.4826
  else pstdev values

def cleanWindows (windows : List (LoggedWindow F)) : List (LoggedWindow F) :=
  windows.filter (fun w => w.cooldown = 0)

def recommend (windows : List (LoggedWindow F)) (k margin : F) : Option (Recommendation F) :=
  let clean := cleanWindows windows
  if clean.length < 2 then none
  else
    let rates := clean.map (·.r)
    let entropies := clean.map (·.h)
    let muR := arithmeticMean rates
    let muH := arithmeticMean entropies
    let peakR := percentile rates 0.995
    let troughH := percentile entropies 0.005
    let spreadR := robustSigma rates
    let spreadH := robustSigma entropies
    let tailR := max 0 ((peakR * (1 + margin) - muR) / k)
    let tailH := max 0 ((muH - troughH * (1 - margin)) / k)
    some
      { windowsTotal := windows.length
        windowsClean := clean.length
        flaggedShare := 1 - (clean.length : F) / (windows.length : F)
        muR := muR
        peakR := peakR
        spreadR := spreadR
        tailR := tailR
        rateFloor := max (max spreadR tailR) 1
        muH := muH
        troughH := troughH
        spreadH := spreadH
        tailH := tailH
        entropyFloor := max (max spreadH tailH) 0.001
        learnedMeanR := arithmeticMean (clean.map (·.meanR))
        learnedSigmaR := arithmeticMean (clean.map (·.sigmaR))
        learnedSigmaH := arithmeticMean (clean.map (·.sigmaH)) }

/-- The widest host wins. There is no largest floor of no host. -/
def reconcile (results : List (Recommendation F)) : Option (Floors F) :=
  match (results.map (·.rateFloor)).max?, (results.map (·.entropyFloor)).max?,
    (results.map (·.rateFloor)).min? with
  | some rate, some entropy, some rateLo =>
      some
        { rate := rate
          entropy := entropy
          warning :=
            if 1 < results.length ∧ 0 < rateLo ∧ 4.0 < rate / rateLo then some (rateLo, rate) else none }
  | _, _, _ => none

/-- The flags with the numbers whose texts follow them. -/
def buildFlags (rateFloor entropyFloor : F) : List (String × F) :=
  let flags :=
    [("--rate-sigma-floor", roundTo 1 rateFloor), ("--entropy-sigma-floor", roundTo 4 entropyFloor)]
  if sensorEntropySigmaCeiling < entropyFloor * 2.0 then
    flags ++ [("--entropy-sigma-ceiling", min 0.9 (roundTo 4 (entropyFloor * 3.0)))]
  else flags

/-- The script on the windows of every host. It leaves without flags if no host has enough of
them. -/
def calibrate (byIp : Dict String (List (LoggedWindow F))) (k margin : F) : Option (List (String × F)) :=
  (reconcile (byIp.values.filterMap (fun windows => recommend windows k margin))).map
    (fun floors => buildFlags floors.rate floors.entropy)

end Script

/-- The words the text of the flags is split into at the end of the sensor's command line. -/
def tuningArgs (str : F → String) (flags : List (String × F)) : List String :=
  flags.flatMap (fun flag => [flag.1, str flag.2])

/-! One host. -/

section Host

variable [FloorRing F] {windows : List (LoggedWindow F)} {k margin : F}

/-- How far below the mean the entropy boundary is to lie. -/
def shortfall (windows : List (LoggedWindow F)) (margin : F) : F :=
  let entropies := (cleanWindows windows).map (·.h)
  arithmeticMean entropies - percentile entropies 0.005 * (1 - margin)

theorem recommend_isSome (k margin : F) (enough : 2 ≤ (cleanWindows windows).length) :
    ∃ d, recommend windows k margin = some d := by
  unfold recommend
  rw [if_neg (Nat.not_lt.mpr enough)]
  exact ⟨_, rfl⟩

theorem recommend_floors {d : Recommendation F} (derived : recommend windows k margin = some d) :
    2 ≤ (cleanWindows windows).length ∧ 1 ≤ d.rateFloor ∧
      d.entropyFloor = max (max (robustSigma ((cleanWindows windows).map (·.h)))
        (max 0 (shortfall windows margin / k))) 0.001 := by
  unfold recommend at derived
  dsimp only at derived
  split at derived
  · cases derived
  · rename_i enough
    cases derived
    exact ⟨Nat.not_lt.mp enough, le_max_right _ _, rfl⟩

theorem percentile_nonneg {values : List F} (q : F) (nonneg : ∀ x ∈ values, 0 ≤ x) :
    0 ≤ percentile values q := by
  have place : ∀ i, 0 ≤ ranked values i := by
    intro i
    by_cases bound : i < values.length
    · exact nonneg _ (ranked_mem bound)
    · have beyond : (ascending values).length ≤ i := by
        rw [length_ascending]
        exact Nat.not_lt.mp bound
      rw [ranked, List.getD_eq_default _ _ beyond]
  unfold percentile
  dsimp only
  split_ifs
  · exact le_rfl
  · exact place 0
  · exact place _
  · -- the value lies between two places, at the fraction of the position
    set pos : F := ((values.length - 1 : Nat) : F) * q
    have low := Int.floor_le pos
    have high := Int.lt_floor_add_one pos
    have fromBelow := mul_nonneg (place ⌊pos⌋.toNat) (by linarith : 0 ≤ 1 - (pos - (⌊pos⌋ : F)))
    have fromAbove := mul_nonneg (place ⌈pos⌉.toNat) (by linarith : 0 ≤ pos - (⌊pos⌋ : F))
    linarith

/-- The whole range of the entropy is all a boundary can have to cover. -/
theorem shortfall_le_one (enough : 2 ≤ (cleanWindows windows).length) (fraction : margin ≤ 1)
    (unit : ∀ w ∈ cleanWindows windows, 0 ≤ w.h ∧ w.h ≤ 1) : shortfall windows margin ≤ 1 := by
  have mapped : ∀ x ∈ (cleanWindows windows).map (·.h), 0 ≤ x ∧ x ≤ 1 := List.forall_mem_map.mpr unit
  have some_window : (cleanWindows windows).map (·.h) ≠ [] := by
    apply List.ne_nil_of_length_pos
    rw [List.length_map]
    omega
  have mean := arithmeticMean_le some_window (fun x mem => (mapped x mem).2)
  have trough := percentile_nonneg (0.005 : F) (fun x mem => (mapped x mem).1)
  have lowered := mul_nonneg trough (sub_nonneg.mpr fraction)
  unfold shortfall
  linarith

end Host

/-- The spread of entropies is never what makes a floor large. -/
theorem robustSigma_le {values : List ℝ} (unit : ∀ x ∈ values, 0 ≤ x ∧ x ≤ 1) :
    robustSigma values ≤ 0.7413 := by
  unfold robustSigma
  split
  · norm_num
  · rename_i several
    have some_value : values ≠ [] := by
      apply List.ne_nil_of_length_pos
      omega
    split
    · have half := medianDeviation_le some_value unit
      norm_num at half ⊢
      linarith
    · have count : (0 : ℝ) < values.length := Nat.cast_pos.mpr (List.length_pos_of_ne_nil some_value)
      have variance : squaredDeviations values / (values.length : ℝ) ≤ (1 / 2) ^ 2 := by
        rw [div_le_iff₀ count]
        linarith [squaredDeviations_le some_value unit]
      have root : pstdev values ≤ 1 / 2 := Real.sqrt_le_iff.mpr ⟨by norm_num, variance⟩
      norm_num
      linarith

/-- So whether a floor stays below a bound the spread keeps is a matter of the boundary alone. -/
theorem entropyFloor_lt_iff {windows : List (LoggedWindow ℝ)} {k margin c : ℝ} {d : Recommendation ℝ}
    (positive : 0 < k) (bound : 0.7413 < c) (unit : ∀ w ∈ cleanWindows windows, 0 ≤ w.h ∧ w.h ≤ 1)
    (derived : recommend windows k margin = some d) :
    d.entropyFloor < c ↔ shortfall windows margin < c * k := by
  obtain ⟨-, -, floor⟩ := recommend_floors derived
  have spread := (robustSigma_le (List.forall_mem_map.mpr unit)).trans_lt bound
  have least : (0.001 : ℝ) < c := lt_trans (by norm_num) bound
  have zero : 0 < c := lt_trans (by norm_num) bound
  rw [floor, max_lt_iff, max_lt_iff, max_lt_iff, div_lt_iff₀ positive]
  exact ⟨fun below => below.1.2.2, fun below => ⟨⟨spread, zero, below⟩, least⟩⟩

/-! All hosts. -/

section Hosts

variable [FloorRing F]

omit [FloorRing F] in
theorem reconcile_spec {results : List (Recommendation F)} (some_result : results ≠ []) :
    ∃ floors, reconcile results = some floors ∧
      (∃ d ∈ results, d.rateFloor = floors.rate) ∧ (∃ d ∈ results, d.entropyFloor = floors.entropy) ∧
      ∀ d ∈ results, d.entropyFloor ≤ floors.entropy := by
  have mapped : ∀ f : Recommendation F → F, results.map f ≠ [] := by
    intro f
    simpa using some_result
  obtain ⟨rate, highest⟩ := Option.isSome_iff_exists.mp (List.isSome_max?_iff.mpr (mapped (·.rateFloor)))
  obtain ⟨entropy, widest⟩ := Option.isSome_iff_exists.mp (List.isSome_max?_iff.mpr (mapped (·.entropyFloor)))
  obtain ⟨rateLo, lowest⟩ := Option.isSome_iff_exists.mp (List.isSome_min?_iff.mpr (mapped (·.rateFloor)))
  refine ⟨_, by rw [reconcile, highest, widest, lowest], ?_⟩
  obtain ⟨ofHost, top⟩ := List.max?_eq_some_iff.mp widest
  exact ⟨List.mem_map.mp (List.max?_mem highest), List.mem_map.mp ofHost, List.forall_mem_map.mp top⟩

/-- The ceiling the sensor is left with when the flags follow its own default. -/
def ceilingInForce (entropyFloor : F) : F :=
  if sensorEntropySigmaCeiling < entropyFloor * 2.0 then min 0.9 (roundTo 4 (entropyFloor * 3.0))
  else sensorEntropySigmaCeiling

/-- Three times the floor is always above it, the cap of 0.9 only below the last number that is
rounded down from it. -/
theorem roundTo_lt_ceilingInForce_iff (entropyFloor : F) :
    roundTo 4 entropyFloor < ceilingInForce entropyFloor ↔ entropyFloor < 0.89995 := by
  have upper := roundTo_le 4 entropyFloor
  unfold ceilingInForce sensorEntropySigmaCeiling
  split_ifs with wide
  · have triple := le_roundTo 4 (entropyFloor * 3.0)
    have above : roundTo 4 entropyFloor < roundTo 4 (entropyFloor * 3.0) := by
      norm_num at wide upper triple ⊢
      linarith
    have cap : (0.9 : F) = ((9000 : ℤ) : F) / ((10 ^ 4 : Nat) : F) := by norm_num
    rw [lt_min_iff, and_iff_left above, cap, roundTo_lt_iff (by decide)]
    norm_num
    constructor
    · intro below
      linarith
    · intro below
      linarith
  · norm_num at wide upper ⊢
    exact iff_of_true (by linarith) (by linarith)

omit [FloorRing F] in
/-- A flag with a positive number is read and the rest of the arguments follow. -/
theorem readFlags_positive {P : Parsers F} {c : CliFlags F} {flag value : String} {rest : List String}
    {set : CliFlags F → F → CliFlags F} {x : F} (arm : armOf P flag = .positive set)
    (read : P.f64 value = some (.finite x)) (positive : 0 < x) :
    readFlags P c (flag :: value :: rest) = readFlags P (set c x) rest := by
  have parsed : parsePositive P (some value) flag = .ok x := by
    simp [parsePositive, read, positive]
  rw [readFlags]
  simp [arm, Arm.apply, parsed, Except.map, Arm.takesValue]

theorem roundTo_pos {digits : Nat} {x : F} (large : 1 / 2 / ((10 ^ digits : Nat) : F) < x) :
    0 < roundTo digits x := by
  linarith [le_roundTo digits x]

/-- The sensor accepts the flags, and they decide floor and ceiling. -/
theorem readFlags_buildFlags {P : Parsers F} {str : F → String} {c : CliFlags F} {rateFloor entropyFloor : F}
    (rate : 1 ≤ rateFloor) (entropy : 0.001 ≤ entropyFloor)
    (readBack : ∀ flag ∈ buildFlags rateFloor entropyFloor, P.f64 (str flag.2) = some (.finite flag.2))
    (default : c.entropySigmaCeiling = sensorEntropySigmaCeiling) :
    ∃ inForce, readFlags P c (tuningArgs str (buildFlags rateFloor entropyFloor)) = .ok inForce ∧
      inForce.entropySigmaFloor = roundTo 4 entropyFloor ∧
      inForce.entropySigmaCeiling = ceilingInForce entropyFloor := by
  have ratePos : 0 < roundTo 1 rateFloor := by
    apply roundTo_pos
    norm_num
    linarith
  have entropyPos : 0 < roundTo 4 entropyFloor := by
    apply roundTo_pos
    norm_num at entropy ⊢
    linarith
  have triplePos : 0 < roundTo 4 (entropyFloor * 3.0) := by
    apply roundTo_pos
    norm_num at entropy ⊢
    linarith
  unfold ceilingInForce
  unfold buildFlags at readBack ⊢
  split_ifs at readBack ⊢ with wide
  · simp only [List.cons_append, List.nil_append, List.forall_mem_cons] at readBack
    obtain ⟨readRate, readFloor, readCeiling, -⟩ := readBack
    have ceilingPos : 0 < min 0.9 (roundTo 4 (entropyFloor * 3.0)) :=
      lt_min (by norm_num) triplePos
    simp only [tuningArgs, List.cons_append, List.nil_append, List.flatMap_cons, List.flatMap_nil]
    rw [readFlags_positive rfl readRate ratePos, readFlags_positive rfl readFloor entropyPos,
      readFlags_positive rfl readCeiling ceilingPos]
    exact ⟨_, rfl, rfl, rfl⟩
  · simp only [List.forall_mem_cons] at readBack
    obtain ⟨readRate, readFloor, -⟩ := readBack
    simp only [tuningArgs, List.cons_append, List.nil_append, List.flatMap_cons, List.flatMap_nil]
    rw [readFlags_positive rfl readRate ratePos, readFlags_positive rfl readFloor entropyPos]
    exact ⟨_, rfl, rfl, default⟩

/-- A host has enough windows to derive anything from. -/
def Sampled (byIp : Dict String (List (LoggedWindow F))) : Prop :=
  ∃ windows ∈ byIp.values, 2 ≤ (cleanWindows windows).length

/-- Every host with enough windows has a boundary that a deviation below the cap reaches. -/
def BoundariesCovered (byIp : Dict String (List (LoggedWindow F))) (k margin : F) : Prop :=
  ∀ windows ∈ byIp.values, 2 ≤ (cleanWindows windows).length → shortfall windows margin < 0.89995 * k

variable {byIp : Dict String (List (LoggedWindow F))} {k margin : F}

/-- With a multiplier above about 1.11 no sample leaves a host uncovered. -/
theorem covered_of_multiplier (large : 1 < 0.89995 * k) (fraction : margin ≤ 1)
    (unit : ∀ windows ∈ byIp.values, ∀ w ∈ cleanWindows windows, 0 ≤ w.h ∧ w.h ≤ 1) :
    BoundariesCovered byIp k margin := by
  intro windows mem enough
  exact (shortfall_le_one enough fraction (unit windows mem)).trans_lt large

theorem sampled_of_calibrate {flags : List (String × F)} (emitted : calibrate byIp k margin = some flags) :
    Sampled byIp := by
  obtain ⟨floors, shared, -⟩ := Option.map_eq_some_iff.mp emitted
  by_contra none_sampled
  have nothing : byIp.values.filterMap (fun windows => recommend windows k margin) = [] := by
    rw [List.filterMap_eq_nil_iff]
    intro windows mem
    cases derived : recommend windows k margin with
    | none => rfl
    | some d => exact absurd ⟨windows, mem, (recommend_floors derived).1⟩ none_sampled
  rw [nothing] at shared
  cases shared

end Hosts

/-- The floors the flags are built from: the shared entropy floor stays below the cap exactly where
every host is covered. -/
theorem calibrate_spec {byIp : Dict String (List (LoggedWindow ℝ))} {k margin : ℝ} (positive : 0 < k)
    (unit : ∀ windows ∈ byIp.values, ∀ w ∈ cleanWindows windows, 0 ≤ w.h ∧ w.h ≤ 1) (sampled : Sampled byIp) :
    ∃ rateFloor entropyFloor, calibrate byIp k margin = some (buildFlags rateFloor entropyFloor) ∧
      1 ≤ rateFloor ∧ 0.001 ≤ entropyFloor ∧ (entropyFloor < 0.89995 ↔ BoundariesCovered byIp k margin) := by
  obtain ⟨first, known, enough⟩ := sampled
  obtain ⟨d, derived⟩ := recommend_isSome k margin enough
  have derivedIn : d ∈ byIp.values.filterMap (fun windows => recommend windows k margin) :=
    List.mem_filterMap.mpr ⟨first, known, derived⟩
  obtain ⟨floors, shared, ⟨fast, fastIn, rate⟩, ⟨wide, wideIn, entropy⟩, top⟩ :=
    reconcile_spec (List.ne_nil_of_mem derivedIn)
  obtain ⟨fastWindows, -, fastDerived⟩ := List.mem_filterMap.mp fastIn
  obtain ⟨wideWindows, wideKnown, wideDerived⟩ := List.mem_filterMap.mp wideIn
  obtain ⟨-, rateLeast, -⟩ := recommend_floors fastDerived
  obtain ⟨wideEnough, -, wideFloor⟩ := recommend_floors wideDerived
  have bound : (0.7413 : ℝ) < 0.89995 := by norm_num
  refine ⟨floors.rate, floors.entropy, by rw [calibrate, shared]; rfl, ?_, ?_, ?_⟩
  · rwa [← rate]
  · rw [← entropy, wideFloor]
    exact le_max_right _ _
  · apply Iff.intro
    · intro below windows mem enough
      obtain ⟨d, derived⟩ := recommend_isSome k margin enough
      have under := (top d (List.mem_filterMap.mpr ⟨windows, mem, derived⟩)).trans_lt below
      exact (entropyFloor_lt_iff positive bound (unit windows mem) derived).mp under
    · intro covered
      rw [← entropy]
      exact (entropyFloor_lt_iff positive bound (unit wideWindows wideKnown) wideDerived).mpr
        (covered wideWindows wideKnown wideEnough)

/-- The script emits flags where a host has enough windows. At the end of a command line that
leaves the default ceiling they put a floor below a ceiling, and so let the clamp go through,
exactly where every host is covered. -/
theorem calibrated_band_open_iff (byIp : Dict String (List (LoggedWindow ℝ))) (k margin : ℝ)
    (positive : 0 < k) (unit : ∀ windows ∈ byIp.values, ∀ w ∈ cleanWindows windows, 0 ≤ w.h ∧ w.h ≤ 1) :
    ((∃ flags, calibrate byIp k margin = some flags) ↔ Sampled byIp) ∧
      ∀ flags, calibrate byIp k margin = some flags →
        ∀ (P : Parsers ℝ) (str : ℝ → String) (c : CliFlags ℝ),
          (∀ flag ∈ flags, P.f64 (str flag.2) = some (.finite flag.2)) →
          c.entropySigmaCeiling = (CliFlags.initial : CliFlags ℝ).entropySigmaCeiling →
          ∃ inForce, readFlags P c (tuningArgs str flags) = .ok inForce ∧
            (inForce.entropySigmaFloor < inForce.entropySigmaCeiling ↔ BoundariesCovered byIp k margin) ∧
            (BoundariesCovered byIp k margin → ∀ targets excluded kInForce alpha ts,
              (sigmaEntropy ((CliArgs.mk inForce targets excluded).analysisConfig kInForce alpha) ts).isSome = true) := by
  constructor
  · apply Iff.intro
    · intro ⟨flags, emitted⟩
      exact sampled_of_calibrate emitted
    · intro sampled
      obtain ⟨rateFloor, entropyFloor, emitted, -⟩ := calibrate_spec positive unit sampled
      exact ⟨_, emitted⟩
  · intro flags emitted P str c readBack default
    obtain ⟨rateFloor, entropyFloor, built, rate, entropy, covered⟩ :=
      calibrate_spec positive unit (sampled_of_calibrate emitted)
    obtain rfl : buildFlags rateFloor entropyFloor = flags := Option.some.inj (built.symm.trans emitted)
    obtain ⟨inForce, read, floor, ceiling⟩ := readFlags_buildFlags rate entropy readBack default
    have opened : inForce.entropySigmaFloor < inForce.entropySigmaCeiling ↔ BoundariesCovered byIp k margin := by
      rw [floor, ceiling, roundTo_lt_ceilingInForce_iff, covered]
    refine ⟨inForce, read, opened, ?_⟩
    intro holds targets excluded kInForce alpha ts
    have ordered := (opened.mpr holds).le
    simp [sigmaEntropy, CliArgs.analysisConfig, ordered]

/-- One host whose windows all have the entropy given. -/
def steadyHost (h : F) : Dict String (List (LoggedWindow F)) :=
  ⟨[("10.0.0.5", [⟨1, 10.0, h, 10.0, 1, h, 0.1, 0⟩, ⟨2, 10.0, h, 10.0, 1, h, 0.1, 0⟩])], List.nodup_singleton _⟩

theorem steady_host_band_open :
    ∃ flags, calibrate (steadyHost (1 : ℝ)) 2 0.1 = some flags ∧
      ∀ (P : Parsers ℝ) (str : ℝ → String), (∀ flag ∈ flags, P.f64 (str flag.2) = some (.finite flag.2)) →
        ∃ inForce, readFlags P .initial (tuningArgs str flags) = .ok inForce ∧
          inForce.entropySigmaFloor < inForce.entropySigmaCeiling := by
  have unit : ∀ windows ∈ (steadyHost (1 : ℝ)).values, ∀ w ∈ cleanWindows windows, 0 ≤ w.h ∧ w.h ≤ 1 := by
    simp [steadyHost, Dict.values, cleanWindows]
  have sampled : Sampled (steadyHost (1 : ℝ)) := by
    simp [Sampled, steadyHost, Dict.values, cleanWindows]
  obtain ⟨emits, band⟩ := calibrated_band_open_iff (steadyHost 1) 2 0.1 two_pos unit
  obtain ⟨flags, emitted⟩ := emits.mpr sampled
  refine ⟨flags, emitted, ?_⟩
  intro P str readBack
  obtain ⟨inForce, read, opened, -⟩ := band flags emitted P str .initial readBack rfl
  exact ⟨inForce, read, opened.mpr (covered_of_multiplier (by norm_num) (by norm_num) unit)⟩

/-- A host with one source in two of its thirty windows and evenly spread ones in the others. -/
def oneSourceTwice : Dict String (List (LoggedWindow ℚ)) :=
  ⟨[("10.0.0.5", (List.range 30).map (fun wid =>
      if wid < 2 then ⟨wid, 12, 0, 12, 2, 0.92, 0.15, 0⟩
      else if wid < 16 then ⟨wid, 10, 0.98, 12, 2, 0.92, 0.15, 0⟩
      else ⟨wid, 14, 1, 12, 2, 0.92, 0.15, 0⟩))], List.nodup_singleton _⟩

/-- The numbers emitted for this host and their texts. -/
def emittedTexts : List (String × ℚ) := [("3.4", 3.4), ("0.924", 0.924), ("0.9", 0.9)]

def emittedText (x : ℚ) : String := ((emittedTexts.find? (fun entry => entry.2 = x)).map Prod.fst).getD ""

def emittedParsers : Parsers ℚ := { plainParsers with f64 := fun s => (emittedTexts.lookup s).map .finite }

/-- With a multiplier of 1 the floor is the distance from the mean to zero. The ceiling stops at
0.9, the floor does not, and the sensor panics under the flags it is given. -/
theorem one_source_crosses_band :
    (∀ windows ∈ oneSourceTwice.values, ∀ w ∈ windows, w.cooldown = 0 ∧ 0 ≤ w.h ∧ w.h ≤ 1) ∧
      calibrate oneSourceTwice 1 0.1 =
        some [("--rate-sigma-floor", 3.4), ("--entropy-sigma-floor", 0.924), ("--entropy-sigma-ceiling", 0.9)] ∧
      ∃ cli, CliArgs.parse emittedParsers (["--interface", "br0"] ++ tuningArgs emittedText
          [("--rate-sigma-floor", 3.4), ("--entropy-sigma-floor", 0.924), ("--entropy-sigma-ceiling", 0.9)]) = .ok cli ∧
        ¬ cli.NeverPanics := by
  refine ⟨by decide +kernel, by decide +kernel, ?_⟩
  apply panics_of_crossed
  decide +kernel

end Flod.Scripts
