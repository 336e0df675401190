import Flod.Lib.Arith
import Flod.Lib.Dict

/-! The three per-target accumulators: Welford mean and variance with a recency cap,
the smoothed rate, and the frequency map behind normalized Shannon entropy. -/

namespace Flod.Stage1
open Flod.Lib

variable {F : Type} [Arith F]

def warmupWindows : Nat := 200

def maxN : Nat := 500

structure WelfordAccumulator (F : Type) where
  n : Nat
  mean : F
  m2 : F
  maxN : Nat

namespace WelfordAccumulator

def new (maxN : Nat) : WelfordAccumulator F := ⟨0, 0, 0, maxN⟩

def default : WelfordAccumulator F := new Stage1.maxN

/-- At the cap the full update still runs, and M2 decays to match the mean. -/
def update (w : WelfordAccumulator F) (x : F) : WelfordAccumulator F :=
  let atCap := w.maxN ≤ w.n
  let n := min (w.n + 1) w.maxN
  let delta := x - w.mean
  let mean := w.mean + delta / (n : F)
  let delta2 := x - mean
  let m2 := if atCap then w.m2 * (1 - 1 / (w.maxN : F)) + delta * delta2 else w.m2 + delta * delta2
  { w with n := n, mean := mean, m2 := m2 }

/-- Samples beyond the cap are dropped, once per call. -/
def updateBatch (w : WelfordAccumulator F) (x : F) (count : Nat) : WelfordAccumulator F :=
  if count = 0 then w
  else
    let delta := x - w.mean
    let nAfter := min (w.n + count) w.maxN
    let absorbed := nAfter - w.n
    if absorbed = 0 then w
    else
      { w with
        n := nAfter
        mean := w.mean + delta * (absorbed : F) / (nAfter : F)
        m2 := w.m2 + delta * delta * (w.n : F) * (absorbed : F) / (nAfter : F) }

def variance (w : WelfordAccumulator F) : Option F :=
  if w.n < 2 then none
  else
    let v := w.m2 / ((w.n - 1 : Nat) : F)
    if v < 0 then none else some v

def stdDev (w : WelfordAccumulator F) : F :=
  match w.variance with
  | some v => Arith.sqrt v
  | none => 0

def isWarm (w : WelfordAccumulator F) : Bool := decide (warmupWindows ≤ w.n)

def reset (w : WelfordAccumulator F) : WelfordAccumulator F := { w with n := 0, mean := 0, m2 := 0 }

/-- The recency cap leaves room for warm-up to complete. -/
def Capped (w : WelfordAccumulator F) : Prop := warmupWindows ≤ w.maxN

theorem update_isWarm {w : WelfordAccumulator F} (capped : w.Capped) (warm : w.isWarm = true) (x : F) :
    (w.update x).isWarm = true := by
  have reached : warmupWindows ≤ w.n := of_decide_eq_true warm
  exact decide_eq_true (le_min (Nat.le_succ_of_le reached) capped)

theorem moved_le {mean x bound : F} (count : Nat) (before : mean ≤ bound) (sample : x ≤ bound) :
    mean + (x - mean) / (count : F) ≤ bound := by
  rcases Nat.eq_zero_or_pos count with rfl | some
  · simpa using before
  · have whole : (1 : F) ≤ count := by exact_mod_cast some
    by_cases below : x ≤ mean
    · have falls : (x - mean) / (count : F) ≤ 0 :=
        div_nonpos_of_nonpos_of_nonneg (sub_nonpos.mpr below) (zero_le_one.trans whole)
      calc mean + (x - mean) / (count : F)
          ≤ mean + 0 := add_le_add_right falls _
        _ ≤ bound := by rw [add_zero]; exact before
    · have rises : (x - mean) / (count : F) ≤ x - mean :=
        div_le_self (sub_nonneg.mpr (not_le.mp below).le) whole
      calc mean + (x - mean) / (count : F)
          ≤ mean + (x - mean) := add_le_add_right rises _
        _ = x := by ring
        _ ≤ bound := sample

theorem le_moved {mean x bound : F} (count : Nat) (before : bound ≤ mean) (sample : bound ≤ x) :
    bound ≤ mean + (x - mean) / (count : F) := by
  have mirrored := moved_le count (neg_le_neg before) (neg_le_neg sample)
  have same : -mean + (-x - -mean) / (count : F) = -(mean + (x - mean) / (count : F)) := by ring
  rw [same] at mirrored
  exact neg_le_neg_iff.mp mirrored

theorem updateBatch_maxN (w : WelfordAccumulator F) (x : F) (count : Nat) :
    (w.updateBatch x count).maxN = w.maxN := by
  unfold updateBatch
  split
  · rfl
  · dsimp only
    split <;> rfl

theorem stdDev_nonneg (w : WelfordAccumulator F) : 0 ≤ w.stdDev := by
  unfold stdDev
  split
  · exact Arith.sqrt_nonneg _
  · exact le_rfl

end WelfordAccumulator

structure EwmaState (F : Type) where
  value : F
  alpha : F

namespace EwmaState

/-- Panics, modelled by none, unless alpha lies strictly between 0 and 1. -/
def withAlpha (alpha : F) : Option (EwmaState F) :=
  if 0 < alpha ∧ alpha < 1 then some ⟨0, alpha⟩ else none

def snapshot (e : EwmaState F) : F := e.value

def updateRateWithAlpha (e : EwmaState F) (rate alpha : F) : EwmaState F :=
  { e with value := alpha * rate + (1 - alpha) * e.value }

def setValue (e : EwmaState F) (value : F) : EwmaState F := { e with value := value }

end EwmaState

structure EntropyAccumulator (K : Type) where
  counts : Dict K Nat
  packetCount : Nat

/-- `-Σ p log₂ p` over the keys present, divided by its maximum `log₂` of their number. -/
def computeNormalizedEntropy {K : Type} (counts : Dict K Nat) (totalPackets : Nat) : F :=
  if totalPackets = 0 then 0
  else
    let uniqueSources := counts.size
    if uniqueSources ≤ 1 then 0
    else
      let n : F := totalPackets
      let rawEntropy := ((counts.values.filter (fun c => 0 < c)).map (fun (c : Nat) =>
        let p : F := c / n; (-p) * Arith.log2 p)).sum
      let maxEntropy := Arith.log2 (uniqueSources : F)
      rawEntropy / maxEntropy

namespace EntropyAccumulator

variable {K : Type}

def new : EntropyAccumulator K := ⟨Dict.empty, 0⟩

/-- The scalar and the cleared accumulator. -/
def computeAndReset (acc : EntropyAccumulator K) : F × EntropyAccumulator K :=
  (computeNormalizedEntropy acc.counts acc.packetCount, new)

variable [DecidableEq K]

def addPackets (acc : EntropyAccumulator K) (key : K) (count : Nat) : EntropyAccumulator K :=
  if count = 0 then acc
  else ⟨acc.counts.set key (acc.counts.getD key 0 + count), acc.packetCount + count⟩

def addPacket (acc : EntropyAccumulator K) (key : K) : EntropyAccumulator K := acc.addPackets key 1

end EntropyAccumulator

end Flod.Stage1
