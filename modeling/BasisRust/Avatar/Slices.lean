import BasisRust.Lib.Run
import BasisRust.Protocol.Io
import Mathlib.Algebra.Order.Floor.Div
import Mathlib.Data.List.Perm.Basic
import Mathlib.Data.List.Count
import Mathlib.Data.Nat.ModEq

/-!
# `avatar_sync.rs`: slices of receivers

A tick serves one slice of the receivers.  `advance_slice_state` goes round the slices, `adapt_slice_count` makes
them smaller or larger by how long the ticks take, and `update_config` brings their number between the bounds of a
new configuration.  What is computed in floating point (the smoothed tick time and the budgets in microseconds) is
a parameter; the environment is the one of the process.
-/

namespace BasisRust.Avatar

open Lib Protocol

/-! ### `AvatarSyncConfig` -/

structure AvatarSyncConfig where
  defaultIntervalMs : UInt64
  baseMultiplier : F32
  increaseRate : F32
  highDistanceSq : F32
  mediumDistanceSq : F32
  lowDistanceSq : F32
  enableBundleCompression : Bool
  bundleMinMessages : ℕ
  bundleMinBytes : ℕ
  minReceiverSlices : ℕ
  maxReceiverSlices : ℕ
  tickBudgetMs : F64
  receiverCycleBudgetMs : F64
  spatialCullEnabled : Bool
  enableBsrProfiling : Bool
  deriving DecidableEq

/-- What `env_usize`, `env_f64` and `env_bool` find under a name. -/
structure Environment where
  usize : String → Option ℕ
  f64 : String → Option F64
  bool : String → Option Bool

def maxSliceCount : ℕ := 32

def AvatarSyncConfig.applyEnvTuning (env : Environment) (config : AvatarSyncConfig) : AvatarSyncConfig :=
  let minReceiverSlices :=
    min (max ((env.usize "BASIS_AVATAR_MIN_RECEIVER_SLICES").getD config.minReceiverSlices) 1) maxSliceCount
  { config with
    minReceiverSlices
    maxReceiverSlices :=
      min (max ((env.usize "BASIS_AVATAR_MAX_RECEIVER_SLICES").getD config.maxReceiverSlices) minReceiverSlices)
        maxSliceCount
    tickBudgetMs := (env.f64 "BASIS_AVATAR_TICK_BUDGET_MS").getD config.tickBudgetMs
    receiverCycleBudgetMs := (env.f64 "BASIS_AVATAR_RECEIVER_CYCLE_BUDGET_MS").getD config.receiverCycleBudgetMs
    spatialCullEnabled := (env.bool "BASIS_AVATAR_SPATIAL_CULL").getD config.spatialCullEnabled
    enableBsrProfiling := (env.bool "EnableBSRProfiling").getD config.enableBsrProfiling }

/-- The bounds are those that an environment makes of 1 and 32. -/
def AvatarSyncConfig.Tuned (config : AvatarSyncConfig) : Prop :=
  ∃ (env : Environment) (base : AvatarSyncConfig), base.minReceiverSlices = 1 ∧ base.maxReceiverSlices = 32 ∧
    config.minReceiverSlices = (base.applyEnvTuning env).minReceiverSlices ∧
    config.maxReceiverSlices = (base.applyEnvTuning env).maxReceiverSlices

def AvatarSyncConfig.SameBounds (config other : AvatarSyncConfig) : Prop :=
  config.minReceiverSlices = other.minReceiverSlices ∧ config.maxReceiverSlices = other.maxReceiverSlices

/-! ### `SliceState` -/

/-- What the code computes in floating point. -/
structure SliceFloats where
  /-- `(ms.max(1.0) * 1000.0) as u64` -/
  budgetMicros : F64 → ℕ
  /-- `(smoothed as f64 * 0.85 + elapsed as f64 * 0.15) as u64` -/
  smooth : ℕ → ℕ → ℕ

structure SliceState where
  sliceCount : ℕ
  sliceIndex : ℕ
  /-- in milliseconds -/
  lastDistanceUpdate : ℕ
  smoothedTickMicros : ℕ
  deriving DecidableEq

def distanceUpdateIntervalMs : ℕ := 500

/-- `Ord::clamp` panics on bounds the wrong way round. -/
def clamp (x lower upper : ℕ) : Option ℕ := if lower ≤ upper then some (max lower (min x upper)) else none

/-- `u64::saturating_mul` -/
def saturatingMul (a b : ℕ) : ℕ := min (a * b) (2 ^ 64 - 1)

namespace SliceState

/-- The state in `AvatarSyncSystem::new`. -/
def new (now : ℕ) : SliceState where
  sliceCount := 1
  sliceIndex := 0
  lastDistanceUpdate := now
  smoothedTickMicros := 0

/-- Where the slice begins and ends.  Whatever saturates is above the number of receivers. -/
def sliceRange (receiverCount sliceCount sliceIndex : ℕ) : ℕ × ℕ :=
  let sliceSize := receiverCount ⌈/⌉ sliceCount
  let sliceStart := min (sliceIndex * sliceSize) receiverCount
  (sliceStart, min (sliceStart + sliceSize) receiverCount)

/-- The count, the slice and whether distances are due, with the state moved on to the next slice. -/
def advanceSliceState (now receiverCount : ℕ) (state : SliceState) : (ℕ × (ℕ × ℕ) × Bool) × SliceState :=
  let sliceCount := max state.sliceCount 1
  let sliceIndex := state.sliceIndex % sliceCount
  let updateDistances : Bool := now - state.lastDistanceUpdate ≥ distanceUpdateIntervalMs
  ((sliceCount, sliceRange receiverCount sliceCount sliceIndex, updateDistances),
    { state with
      sliceIndex := (state.sliceIndex + 1) % sliceCount
      lastDistanceUpdate := if updateDistances then now else state.lastDistanceUpdate })

/-- The number of slices that the measured times ask for. -/
def nextSliceCount (sliceCount minSlices maxSlices smoothed elapsed tickBudget cycleBudget : ℕ) : ℕ :=
  if saturatingMul smoothed sliceCount > cycleBudget then
    if elapsed > tickBudget ∧ sliceCount < maxSlices then sliceCount + 1
    else if sliceCount > minSlices then sliceCount - 1
    else sliceCount
  else if elapsed < saturatingMul tickBudget 3 / 4 ∧ sliceCount > minSlices then sliceCount - 1
  else if elapsed > tickBudget ∧ saturatingMul smoothed (sliceCount + 1) ≤ cycleBudget ∧ sliceCount < maxSlices then
    sliceCount + 1
  else sliceCount

def adaptSliceCount (floats : SliceFloats) (elapsedMicros : ℕ) (config : AvatarSyncConfig) (state : SliceState) :
    Option SliceState := do
  let smoothedTickMicros :=
    if state.smoothedTickMicros = 0 then elapsedMicros else floats.smooth state.smoothedTickMicros elapsedMicros
  let minSlices := max config.minReceiverSlices 1
  let maxSlices := min (max config.maxReceiverSlices minSlices) maxSliceCount
  let sliceCount ← clamp state.sliceCount minSlices maxSlices
  let next := nextSliceCount sliceCount minSlices maxSlices smoothedTickMicros elapsedMicros
    (floats.budgetMicros config.tickBudgetMs) (floats.budgetMicros config.receiverCycleBudgetMs)
  if next ≠ sliceCount then
    return { state with sliceCount := next, sliceIndex := state.sliceIndex % max next 1, smoothedTickMicros }
  else return { state with sliceCount, smoothedTickMicros }

/-- What `update_config` does to the slices. -/
def updateConfig (config : AvatarSyncConfig) (state : SliceState) : Option SliceState := do
  let sliceCount ← clamp state.sliceCount config.minReceiverSlices config.maxReceiverSlices
  return { state with sliceCount, sliceIndex := state.sliceIndex % max sliceCount 1 }

end SliceState

/-- The slices, with the configuration of the system. -/
structure SliceSystem where
  config : AvatarSyncConfig
  state : SliceState
  deriving DecidableEq

inductive SliceOp where
  | advance (now receiverCount : ℕ)
  /-- with the tick's copy of the configuration -/
  | adapt (elapsedMicros : ℕ) (config : AvatarSyncConfig)
  | update (config : AvatarSyncConfig)
  deriving DecidableEq

namespace SliceSystem

def new (config : AvatarSyncConfig) (now : ℕ) : SliceSystem := ⟨config, .new now⟩

def after (floats : SliceFloats) (s : SliceSystem) : SliceOp → Option SliceSystem
  | .advance now receiverCount => some { s with state := (s.state.advanceSliceState now receiverCount).2 }
  | .adapt elapsedMicros config => do return { s with state := ← s.state.adaptSliceCount floats elapsedMicros config }
  | .update config => do return ⟨config, ← s.state.updateConfig config⟩

/-- A new configuration is a tuned one; the tick's copy has the bounds of the system's. -/
def Ready (s : SliceSystem) : SliceOp → Prop
  | .advance _ _ => True
  | .adapt _ config => config.SameBounds s.config
  | .update config => config.Tuned

def Steps (floats : SliceFloats) (s : SliceSystem) (op : SliceOp) (t : SliceSystem) : Prop :=
  s.Ready op ∧ s.after floats op = some t

end SliceSystem

/-! ### The bounds -/

lemma clamp_of_le {x lower upper : ℕ} (h : lower ≤ upper) : clamp x lower upper = some (max lower (min x upper)) :=
  if_pos h

section Bounds

variable {config : AvatarSyncConfig}

/-- Bounds that no clamp panics on. -/
structure AvatarSyncConfig.Bounded (config : AvatarSyncConfig) : Prop where
  pos : 1 ≤ config.minReceiverSlices
  le : config.minReceiverSlices ≤ config.maxReceiverSlices
  upper : config.maxReceiverSlices ≤ 32

lemma AvatarSyncConfig.Tuned.bounded (h : config.Tuned) : config.Bounded := by
  obtain ⟨env, base, hmin, hmax, hlower, hupper⟩ := h
  rw [applyEnvTuning, hmin] at hlower hupper
  rw [hmax] at hupper
  unfold maxSliceCount at hlower hupper
  dsimp only at hlower hupper
  constructor <;> omega

lemma AvatarSyncConfig.SameBounds.bounded {other : AvatarSyncConfig} (h : config.SameBounds other)
    (hother : other.Bounded) : config.Bounded := by
  obtain ⟨hmin, hmax⟩ := h
  exact ⟨hmin ▸ hother.pos, hmin ▸ hmax ▸ hother.le, hmax ▸ hother.upper⟩

/-- One slice more, one less or as many. -/
lemma nextSliceCount_cases (sliceCount minSlices maxSlices smoothed elapsed tickBudget cycleBudget : ℕ) :
    let next := SliceState.nextSliceCount sliceCount minSlices maxSlices smoothed elapsed tickBudget cycleBudget
    next = sliceCount ∨ next = sliceCount + 1 ∧ sliceCount < maxSlices ∨
      next = sliceCount - 1 ∧ minSlices < sliceCount := by
  unfold SliceState.nextSliceCount
  dsimp only
  split_ifs with h₁ h₂ h₃ h₄ h₅
  · exact .inr (.inl ⟨rfl, h₂.2⟩)
  · exact .inr (.inr ⟨rfl, h₃⟩)
  · exact .inl rfl
  · exact .inr (.inr ⟨rfl, h₄.2⟩)
  · exact .inr (.inl ⟨rfl, h₅.2.2⟩)
  · exact .inl rfl

/-- **What `adapt_slice_count` does**: the count between the bounds, and one step from there at most. -/
lemma adaptSliceCount_spec (floats : SliceFloats) (elapsedMicros : ℕ) {state : SliceState} (hconfig : config.Bounded)
    (hcount : state.sliceCount ≤ config.maxReceiverSlices) :
    ∃ t, state.adaptSliceCount floats elapsedMicros config = some t ∧
      (t.sliceCount = max config.minReceiverSlices state.sliceCount ∧ t.sliceIndex = state.sliceIndex ∨
        (t.sliceCount = max config.minReceiverSlices state.sliceCount + 1 ∧ t.sliceCount ≤ config.maxReceiverSlices ∨
          t.sliceCount + 1 = max config.minReceiverSlices state.sliceCount ∧
            config.minReceiverSlices ≤ t.sliceCount) ∧
          t.sliceIndex = state.sliceIndex % t.sliceCount) := by
  obtain ⟨hpos, hle, hupper⟩ := hconfig
  have hmin : max config.minReceiverSlices 1 = config.minReceiverSlices := by omega
  have hmax : min (max config.maxReceiverSlices config.minReceiverSlices) maxSliceCount = config.maxReceiverSlices := by
    unfold maxSliceCount
    omega
  have hclamped : max config.minReceiverSlices (min state.sliceCount config.maxReceiverSlices) =
      max config.minReceiverSlices state.sliceCount := by omega
  unfold SliceState.adaptSliceCount
  dsimp only
  rw [hmin, hmax, clamp_of_le hle, hclamped]
  dsimp only [Option.bind_eq_bind, Option.bind_some]
  generalize hnext : SliceState.nextSliceCount _ _ _ _ _ _ _ = next
  have hcases := hnext ▸ nextSliceCount_cases (max config.minReceiverSlices state.sliceCount)
    config.minReceiverSlices config.maxReceiverSlices _ elapsedMicros _ _
  dsimp only at hcases
  by_cases hsame : next = max config.minReceiverSlices state.sliceCount
  · rw [if_neg (not_not.mpr hsame)]
    exact ⟨_, rfl, .inl ⟨rfl, rfl⟩⟩
  · rw [if_pos hsame]
    have hone : max next 1 = next := by omega
    refine ⟨_, rfl, .inr ⟨?_, ?_⟩⟩
    · dsimp only
      omega
    · dsimp only
      rw [hone]

end Bounds

/-! ### The state of the rotation -/

/-- The count is between 1 and what the configuration allows, and the index below it. -/
structure SliceSystem.Rotates (s : SliceSystem) : Prop where
  bounded : s.config.Bounded
  pos : 1 ≤ s.state.sliceCount
  le : s.state.sliceCount ≤ s.config.maxReceiverSlices
  index : s.state.sliceIndex < s.state.sliceCount

namespace SliceSystem

variable {floats : SliceFloats} {s t : SliceSystem}

lemma rotates_new {config : AvatarSyncConfig} (hconfig : config.Tuned) (now : ℕ) : (SliceSystem.new config now).Rotates where
  bounded := hconfig.bounded
  pos := le_refl _
  le := hconfig.bounded.pos.trans hconfig.bounded.le
  index := Nat.one_pos

/-- An operation that leaves the count as it is moves the index only if it serves a slice. -/
def Stays (s : SliceSystem) (op : SliceOp) (t : SliceSystem) : Prop :=
  (∀ now n, op ≠ .advance now n) → t.state.sliceCount = s.state.sliceCount → t.state.sliceIndex = s.state.sliceIndex

/-- **No operation panics, and each keeps the rotation.** -/
theorem Rotates.step (h : s.Rotates) {op : SliceOp} (hop : s.Ready op) :
    ∃ t, s.after floats op = some t ∧ t.Rotates ∧ s.Stays op t := by
  obtain ⟨hbounded, hpos, hle, hindex⟩ := h
  cases op with
  | advance now n =>
    refine ⟨_, rfl, ⟨hbounded, hpos, hle, ?_⟩, fun hnot => absurd rfl (hnot now n)⟩
    have hcount : max s.state.sliceCount 1 = s.state.sliceCount := by omega
    change (s.state.sliceIndex + 1) % max s.state.sliceCount 1 < s.state.sliceCount
    rw [hcount]
    exact Nat.mod_lt _ hpos
  | adapt elapsedMicros config =>
    obtain ⟨hmin, hmax⟩ := hop
    obtain ⟨t, heq, hcases⟩ := @adaptSliceCount_spec config floats elapsedMicros s.state
      (AvatarSyncConfig.SameBounds.bounded ⟨hmin, hmax⟩ hbounded) (hmax ▸ hle)
    rw [hmin, hmax] at hcases
    have hwhole := hbounded.le
    have hone := hbounded.pos
    refine ⟨{ s with state := t }, by rw [after, heq]; rfl, ?_⟩
    rcases hcases with ⟨hcount, hsame⟩ | ⟨hcount, hmod⟩
    · exact ⟨⟨hbounded, by dsimp only; omega, by dsimp only; omega, by dsimp only; omega⟩, fun _ _ => hsame⟩
    · have hlt : t.sliceIndex < t.sliceCount := hmod ▸ Nat.mod_lt _ (by omega)
      refine ⟨⟨hbounded, by dsimp only; omega, by dsimp only; omega, hlt⟩, fun _ hcount' => ?_⟩
      dsimp only at hcount' ⊢
      rw [hmod, hcount', Nat.mod_eq_of_lt hindex]
  | update config =>
    have hconfig := AvatarSyncConfig.Tuned.bounded hop
    have hone := hconfig.pos
    have hwhole := hconfig.le
    have hcount : 1 ≤ max config.minReceiverSlices (min s.state.sliceCount config.maxReceiverSlices) := by omega
    have hmax : max (max config.minReceiverSlices (min s.state.sliceCount config.maxReceiverSlices)) 1 =
        max config.minReceiverSlices (min s.state.sliceCount config.maxReceiverSlices) := by omega
    rw [after, SliceState.updateConfig, clamp_of_le hwhole]
    refine ⟨_, rfl, ⟨hconfig, hcount, by dsimp only; omega, ?_⟩, fun _ hsame => ?_⟩
    · dsimp only
      rw [hmax]
      exact Nat.mod_lt _ hcount
    · dsimp only at hsame ⊢
      rw [hmax, hsame, Nat.mod_eq_of_lt hindex]

end SliceSystem

/-! ### Once round -/

/-- The receiver is in the range. -/
def Serves (range : ℕ × ℕ) (receiver : ℕ) : Prop := range.1 ≤ receiver ∧ receiver < range.2

instance (range : ℕ × ℕ) (receiver : ℕ) : Decidable (Serves range receiver) :=
  inferInstanceAs (Decidable (_ ∧ _))

lemma sliceRange_le (n c i : ℕ) :
    (SliceState.sliceRange n c i).1 ≤ (SliceState.sliceRange n c i).2 ∧ (SliceState.sliceRange n c i).2 ≤ n := by
  unfold SliceState.sliceRange
  dsimp only
  omega

/-- All slices together are long enough. -/
lemma le_mul_ceilDiv {n c : ℕ} (hc : 0 < c) : n ≤ c * (n ⌈/⌉ c) := (ceilDiv_le_iff_le_mul hc).mp (le_refl _)

/-- A receiver is in one slice: the rounded sizes neither overlap nor leave a tail. -/
theorem serves_sliceRange_iff {n c receiver : ℕ} (hc : 0 < c) (hreceiver : receiver < n) (i : ℕ) :
    Serves (SliceState.sliceRange n c i) receiver ↔ i = receiver / (n ⌈/⌉ c) := by
  have hall := le_mul_ceilDiv (n := n) hc
  unfold Serves SliceState.sliceRange
  generalize n ⌈/⌉ c = size at hall ⊢
  have hsize : 0 < size := by
    rcases Nat.eq_zero_or_pos size with rfl | hpos
    · omega
    · exact hpos
  rw [eq_comm, Nat.div_eq_iff hsize]
  dsimp only
  omega

lemma div_ceilDiv_lt {n c receiver : ℕ} (hc : 0 < c) (hreceiver : receiver < n) : receiver / (n ⌈/⌉ c) < c :=
  Nat.div_lt_of_lt_mul (Nat.mul_comm c _ ▸ hreceiver.trans_le (le_mul_ceilDiv hc))

/-- Once round from any place meets every place once. -/
lemma perm_rotation {c : ℕ} (hc : 0 < c) (i : ℕ) : ((List.range c).map fun j => (i + j) % c).Perm (List.range c) := by
  have hnodup : ((List.range c).map fun j => (i + j) % c).Nodup := by
    refine List.Nodup.map_on (fun a ha b hb heq => ?_) List.nodup_range
    rw [List.mem_range] at ha hb
    have hmod : a ≡ b [MOD c] := Nat.ModEq.add_left_cancel' i heq
    exact Nat.ModEq.eq_of_lt_of_lt hmod ha hb
  have hsubset : ((List.range c).map fun j => (i + j) % c) ⊆ List.range c := by
    intro a ha
    obtain ⟨j, -, rfl⟩ := List.mem_map.mp ha
    exact List.mem_range.mpr (Nat.mod_lt _ hc)
  exact (hnodup.subperm hsubset).perm_of_length_le (by simp)

theorem countP_serves_rotation {n c receiver : ℕ} (hc : 0 < c) (hreceiver : receiver < n) (i : ℕ) :
    (((List.range c).map fun j => SliceState.sliceRange n c ((i + j) % c)).countP fun range => Serves range receiver) =
      1 := by
  have hserves : ((fun range => decide (Serves range receiver)) ∘ fun j => SliceState.sliceRange n c ((i + j) % c)) =
      ((fun k => decide (k = receiver / (n ⌈/⌉ c))) ∘ fun j => (i + j) % c) := by
    funext j
    exact decide_eq_decide.mpr (serves_sliceRange_iff hc hreceiver _)
  rw [List.countP_map, hserves, ← List.countP_map, (perm_rotation hc i).countP_eq]
  have hone := List.count_eq_one_of_mem List.nodup_range (List.mem_range.mpr (div_ceilDiv_lt hc hreceiver))
  rw [List.count] at hone
  exact hone

/-- The slice that a step serves. -/
def turn (tr : Transition SliceSystem SliceOp) : Option (ℕ × ℕ) :=
  match tr.label with
  | .advance now receiverCount => some (tr.src.state.advanceSliceState now receiverCount).1.2.1
  | _ => none

/-- The slices served, in their order. -/
def turns (ts : List (Transition SliceSystem SliceOp)) : List (ℕ × ℕ) := ts.filterMap turn

lemma turns_concat (ts : List (Transition SliceSystem SliceOp)) (tr : Transition SliceSystem SliceOp) :
    turns (ts ++ [tr]) = turns ts ++ (turn tr).toList := by
  unfold turns
  rw [List.filterMap_append]
  cases h : turn tr with
  | none => simp [h]
  | some range => simp [h]

lemma turn_eq_none {tr : Transition SliceSystem SliceOp} (h : ∀ now n, tr.label ≠ .advance now n) : turn tr = none := by
  unfold turn
  split
  next now n hlabel => exact absurd hlabel (h now n)
  next => rfl

section Turns

variable {floats : SliceFloats} {s t : SliceSystem}

/-- What `advance_slice_state` does in the rotation. -/
lemma SliceSystem.Rotates.advance (h : s.Rotates) (now n : ℕ) :
    (s.state.advanceSliceState now n).1.2.1 = SliceState.sliceRange n s.state.sliceCount s.state.sliceIndex ∧
      (s.state.advanceSliceState now n).2.sliceCount = s.state.sliceCount ∧
      (s.state.advanceSliceState now n).2.sliceIndex = (s.state.sliceIndex + 1) % s.state.sliceCount := by
  have hmax : max s.state.sliceCount 1 = s.state.sliceCount := Nat.max_eq_left h.pos
  unfold SliceState.advanceSliceState
  dsimp only
  rw [hmax, Nat.mod_eq_of_lt h.index]
  exact ⟨rfl, rfl, rfl⟩

/-- As long as the count stays, the slices come one after the other. -/
theorem turns_eq {ts : List (Transition SliceSystem SliceOp)} {n : ℕ} (hs : s.Rotates)
    (hrun : Run (SliceSystem.Steps floats) s ts t)
    (hcount : ∀ tr ∈ ts, tr.dst.state.sliceCount = s.state.sliceCount)
    (hreceivers : ∀ tr ∈ ts, ∀ now m, tr.label = .advance now m → m = n) :
    (t.Rotates ∧ t.state.sliceCount = s.state.sliceCount ∧
      t.state.sliceIndex = (s.state.sliceIndex + (turns ts).length) % s.state.sliceCount) ∧
      turns ts = (List.range (turns ts).length).map fun j =>
        SliceState.sliceRange n s.state.sliceCount ((s.state.sliceIndex + j) % s.state.sliceCount) := by
  induction hrun with
  | nil => exact ⟨⟨hs, rfl, (Nat.mod_eq_of_lt hs.index).symm⟩, rfl⟩
  | @snoc ts u op t hrun hstep ih =>
    simp only [List.forall_mem_append, List.forall_mem_singleton] at hcount hreceivers
    obtain ⟨⟨hu, hcountU, hindex⟩, hturns⟩ := ih hcount.1 hreceivers.1
    obtain ⟨t', ht', hrotates, hstays⟩ := @SliceSystem.Rotates.step floats u hu op hstep.1
    obtain rfl := Option.some.inj (ht'.symm.trans hstep.2)
    rw [turns_concat]
    by_cases hadvance : ∃ now m, op = .advance now m
    · obtain ⟨now, m, rfl⟩ := hadvance
      obtain rfl := hreceivers.2 now m rfl
      obtain ⟨hrange, -, hnext⟩ := hu.advance now m
      obtain rfl := Option.some.inj ht'
      have hturn : turn ⟨u, .advance now m, { u with state := (u.state.advanceSliceState now m).2 }⟩ =
          some (SliceState.sliceRange m s.state.sliceCount
            ((s.state.sliceIndex + (turns ts).length) % s.state.sliceCount)) := by
        rw [← hindex, ← hcountU, ← hrange]
        rfl
      rw [hturn, Option.toList_some, List.length_append, List.length_singleton, List.range_succ, List.map_append,
        ← hturns]
      refine ⟨⟨hrotates, hcount.2, ?_⟩, rfl⟩
      dsimp only
      rw [hnext, hcountU, hindex, Nat.mod_add_mod, Nat.add_assoc]
    · have hnot : ∀ now m, op ≠ .advance now m := fun now m h => hadvance ⟨now, m, h⟩
      rw [turn_eq_none hnot, Option.toList_none, List.append_nil]
      exact ⟨⟨hrotates, hcount.2, (hstays hnot (hcount.2.trans hcountU.symm)).trans hindex⟩, hturns⟩

lemma SliceSystem.rotates_of_run {config : AvatarSyncConfig} (hconfig : config.Tuned) {now : ℕ}
    {ts : List (Transition SliceSystem SliceOp)} (hrun : Run (Steps floats) (new config now) ts s) : s.Rotates := by
  refine (hrun.invariant (rotates_new hconfig now) fun u op u' hstep hu => ?_).2
  obtain ⟨t, ht, hrotates, -⟩ := @Rotates.step floats u hu op hstep.1
  rwa [← Option.some.inj (ht.symm.trans hstep.2)]

end Turns

/-- **Receiver slices partition the receivers.**  In every state that is reached no clamp panics, the count is
between 1 and 32 and the index below it; and as many slices as there are serve every receiver once, as long as their
number and that of the receivers stay. -/
theorem receiver_slices_partition {floats : SliceFloats} {config : AvatarSyncConfig} (hconfig : config.Tuned) {now : ℕ}
    {ts : List (Transition SliceSystem SliceOp)} {s : SliceSystem}
    (hrun : Run (SliceSystem.Steps floats) (SliceSystem.new config now) ts s) :
    (∀ op, s.Ready op → ∃ t, s.after floats op = some t) ∧
    (1 ≤ s.state.sliceCount ∧ s.state.sliceCount ≤ 32 ∧ s.state.sliceIndex < s.state.sliceCount) ∧
    ∀ ts' t n, Run (SliceSystem.Steps floats) s ts' t →
      (∀ tr ∈ ts', tr.dst.state.sliceCount = s.state.sliceCount) →
      (∀ tr ∈ ts', ∀ now m, tr.label = .advance now m → m = n) → (turns ts').length = s.state.sliceCount →
      (∀ range ∈ turns ts', range.1 ≤ range.2 ∧ range.2 ≤ n) ∧
        ∀ receiver < n, ((turns ts').countP fun range => Serves range receiver) = 1 := by
  have hs := SliceSystem.rotates_of_run hconfig hrun
  refine ⟨fun op hop => ?_, ⟨hs.pos, hs.le.trans hs.bounded.upper, hs.index⟩, ?_⟩
  · obtain ⟨t, ht, -⟩ := @SliceSystem.Rotates.step floats s hs op hop
    exact ⟨t, ht⟩
  · intro ts' t n hrun' hcount hreceivers hlength
    obtain ⟨-, hturns⟩ := turns_eq hs hrun' hcount hreceivers
    rw [hlength] at hturns
    rw [hturns]
    refine ⟨fun range hrange => ?_, fun receiver hreceiver => countP_serves_rotation hs.pos hreceiver _⟩
    obtain ⟨j, -, rfl⟩ := List.mem_map.mp hrange
    exact sliceRange_le n _ _

/-! ### A slow tick -/

/-- The budgets are 3 and 180 milliseconds. -/
def plainConfig : AvatarSyncConfig where
  defaultIntervalMs := 50
  baseMultiplier := F32.one
  increaseRate := 0
  highDistanceSq := 0
  mediumDistanceSq := 0
  lowDistanceSq := 0
  enableBundleCompression := false
  bundleMinMessages := 4
  bundleMinBytes := 128
  minReceiverSlices := 1
  maxReceiverSlices := 32
  tickBudgetMs := 0x4008000000000000
  receiverCycleBudgetMs := 0x4066800000000000
  spatialCullEnabled := false
  enableBsrProfiling := false

lemma plainConfig_tuned : plainConfig.Tuned :=
  ⟨⟨fun _ => none, fun _ => none, fun _ => none⟩, plainConfig, rfl, rfl, rfl, rfl⟩

/-- What floating point makes of the two budgets, and of the times in the runs here. -/
def plainFloats : SliceFloats where
  budgetMicros ms := if ms = plainConfig.tickBudgetMs then 3000 else 180000
  smooth smoothed elapsed := (85 * smoothed + 15 * elapsed) / 100

def plainSystem (sliceCount sliceIndex smoothedTickMicros : ℕ) : SliceSystem :=
  ⟨plainConfig, ⟨sliceCount, sliceIndex, 0, smoothedTickMicros⟩⟩

lemma slowTick_run : ∃ ts, Run (SliceSystem.Steps plainFloats) (SliceSystem.new plainConfig 0) ts (plainSystem 2 0 3100) := by
  have hserved : Run (SliceSystem.Steps plainFloats) (SliceSystem.new plainConfig 0)
      [⟨SliceSystem.new plainConfig 0, .advance 0 3, plainSystem 1 0 0⟩] (plainSystem 1 0 0) :=
    Run.nil.snoc ⟨trivial, rfl⟩
  have hadapts : SliceSystem.Steps plainFloats (plainSystem 1 0 0) (.adapt 3100 plainConfig) (plainSystem 2 0 3100) :=
    ⟨⟨rfl, rfl⟩, by decide⟩
  exact ⟨_, hserved.snoc hadapts⟩

/-- Two slices of three receivers. -/
theorem receiver_slices_partition_two :
    [(0, 2), (2, 3)].countP (fun range => Serves range 0) = 1 ∧
      [(0, 2), (2, 3)].countP (fun range => Serves range 2) = 1 := by
  obtain ⟨ts, hrun⟩ := slowTick_run
  have hround : Run (SliceSystem.Steps plainFloats) (plainSystem 2 0 3100)
      [⟨plainSystem 2 0 3100, .advance 0 3, plainSystem 2 1 3100⟩,
        ⟨plainSystem 2 1 3100, .advance 0 3, plainSystem 2 0 3100⟩] (plainSystem 2 0 3100) :=
    (Run.nil.snoc ⟨trivial, rfl⟩).snoc ⟨trivial, rfl⟩
  obtain ⟨-, -, hpartition⟩ := receiver_slices_partition plainConfig_tuned hrun
  obtain ⟨-, honce⟩ := hpartition _ _ 3 hround (by simp [plainSystem]) (by simp) rfl
  exact ⟨honce 0 (by decide), honce 2 (by decide)⟩

end BasisRust.Avatar
