import BasisRust.Avatar.Slices

/-!
# `avatar_sync.rs`: passes over the slices

A tick serves a slice and then adapts the number of slices.  One slice more makes the slices smaller, so the next
one begins where the last one ended or before.  One slice less in the middle of a pass leaves receivers out, and an
alternation of slow and fast ticks can leave out the same ones for ever.
-/

namespace BasisRust.Avatar

open Lib Protocol

/-! ### Ticks -/

section Ticks

variable (floats : SliceFloats) (config : AvatarSyncConfig) (receiverCount : ℕ)

/-- The ticks one after the other, each with the clock it reads and the time it takes: `advance_slice_state`, then
`adapt_slice_count`.  The ranges served, and the state afterwards. -/
def serveTicks : List (ℕ × ℕ) → SliceState → Option (List (ℕ × ℕ) × SliceState)
  | [], state => some ([], state)
  | (now, elapsedMicros) :: ticks, state => do
    let ((_, range, _), state) := state.advanceSliceState now receiverCount
    let state ← state.adaptSliceCount floats elapsedMicros config
    let (ranges, state) ← serveTicks ticks state
    return (range :: ranges, state)

/-- No tick takes a slice away in the middle of a pass. -/
def WholePasses : List (ℕ × ℕ) → SliceState → Prop
  | [], _ => True
  | (now, elapsedMicros) :: ticks, state =>
    let advanced := (state.advanceSliceState now receiverCount).2
    ∀ adapted ∈ advanced.adaptSliceCount floats elapsedMicros config,
      (adapted.sliceCount < advanced.sliceCount → advanced.sliceIndex = 0) ∧ WholePasses ticks adapted

instance instDecidableWholePasses : (ticks : List (ℕ × ℕ)) → DecidablePred (WholePasses floats config receiverCount ticks)
  | [], _ => isTrue trivial
  | (_, _) :: ticks, _ =>
    have : DecidablePred (WholePasses floats config receiverCount ticks) := instDecidableWholePasses ticks
    Option.decidableForallMem _

end Ticks

/-- A state of the rotation between 1 and 32 slices. -/
structure SliceState.InRange (state : SliceState) : Prop where
  pos : 1 ≤ state.sliceCount
  le : state.sliceCount ≤ 32
  index : state.sliceIndex < state.sliceCount

section Passes

variable {floats : SliceFloats} {config : AvatarSyncConfig} {n : ℕ}

/-- **One tick** serves the slice of the index and goes to the next one; a pass under way goes on with slices that
are no larger. -/
lemma serveTicks_cons (hmin : config.minReceiverSlices = 1) (hmax : config.maxReceiverSlices = 32)
    {state : SliceState} (h : state.InRange) (now elapsedMicros : ℕ) (ticks : List (ℕ × ℕ))
    (hwhole : WholePasses floats config n ((now, elapsedMicros) :: ticks) state) :
    ∃ t : SliceState, (t.InRange ∧ t.sliceIndex = (state.sliceIndex + 1) % state.sliceCount ∧
        (t.sliceIndex ≠ 0 → state.sliceCount ≤ t.sliceCount) ∧ WholePasses floats config n ticks t) ∧
      serveTicks floats config n ((now, elapsedMicros) :: ticks) state =
        (serveTicks floats config n ticks t).map fun served =>
          (SliceState.sliceRange n state.sliceCount state.sliceIndex :: served.1, served.2) := by
  obtain ⟨hpos, hle, hindex⟩ := h
  have hcount : max state.sliceCount 1 = state.sliceCount := Nat.max_eq_left hpos
  have hadvance : state.advanceSliceState now n =
      ((state.sliceCount, SliceState.sliceRange n state.sliceCount state.sliceIndex,
        decide (now - state.lastDistanceUpdate ≥ distanceUpdateIntervalMs)),
        (state.advanceSliceState now n).2) := by
    unfold SliceState.advanceSliceState
    dsimp only
    rw [hcount, Nat.mod_eq_of_lt hindex]
  have hnext : (state.advanceSliceState now n).2.sliceIndex = (state.sliceIndex + 1) % state.sliceCount := by
    change (state.sliceIndex + 1) % max state.sliceCount 1 = _
    rw [hcount]
  have hbounded : config.Bounded := ⟨hmin.ge, by omega, hmax.le⟩
  obtain ⟨t, heq, hcases⟩ := @adaptSliceCount_spec config floats elapsedMicros (state.advanceSliceState now n).2
    hbounded (show state.sliceCount ≤ config.maxReceiverSlices by omega)
  obtain ⟨hless, hrest⟩ := hwhole t heq
  have hadvanced : (state.advanceSliceState now n).2.sliceCount = state.sliceCount := rfl
  rw [hmin, hmax, hadvanced, hnext] at hcases
  rw [hadvanced, hnext] at hless
  have hlt : (state.sliceIndex + 1) % state.sliceCount < state.sliceCount := Nat.mod_lt _ hpos
  refine ⟨t, ⟨?_, ?_, ?_, hrest⟩, ?_⟩
  · rcases hcases with ⟨hcount', hsame⟩ | ⟨hcount', hmod⟩
    · exact ⟨by omega, by omega, by omega⟩
    · exact ⟨by omega, by omega, hmod ▸ Nat.mod_lt _ (by omega)⟩
  · rcases hcases with ⟨-, hsame⟩ | ⟨hcount', hmod⟩
    · exact hsame
    · by_cases hfewer : t.sliceCount < state.sliceCount
      · rw [hmod, hless hfewer, Nat.zero_mod]
      · rw [hmod, Nat.mod_eq_of_lt (by omega)]
  · intro hne
    by_contra hfewer
    rcases hcases with ⟨hcount', -⟩ | ⟨-, hmod⟩
    · omega
    · rw [hless (by omega), Nat.zero_mod] at hmod
      exact hne hmod
  · rw [serveTicks, hadvance]
    dsimp only
    rw [heq]
    dsimp only [Option.bind_eq_bind, Option.bind_some]
    cases serveTicks floats config n ticks t with
    | none => rfl
    | some served => rfl

lemma ceilDiv_antitone {c c' : ℕ} (hc : 0 < c) (hle : c ≤ c') : n ⌈/⌉ c' ≤ n ⌈/⌉ c := by
  rw [ceilDiv_le_iff_le_mul (hc.trans_le hle)]
  calc n ≤ c * (n ⌈/⌉ c) := le_mul_ceilDiv hc
    _ ≤ c' * (n ⌈/⌉ c) := Nat.mul_le_mul_right _ hle

/-- **The rest of a pass** serves every receiver from the slice of the index on. -/
theorem pass_serves (hmin : config.minReceiverSlices = 1) (hmax : config.maxReceiverSlices = 32)
    {ticks : List (ℕ × ℕ)} {state : SliceState} (h : state.InRange) (hwhole : WholePasses floats config n ticks state)
    (hticks : 32 ≤ state.sliceIndex + ticks.length) {receiver : ℕ} (hreceiver : receiver < n)
    (hfrom : state.sliceIndex * (n ⌈/⌉ state.sliceCount) ≤ receiver) {ranges : List (ℕ × ℕ)} {t : SliceState}
    (hserved : serveTicks floats config n ticks state = some (ranges, t)) :
    ∃ range ∈ ranges, Serves range receiver := by
  induction ticks generalizing state ranges with
  | nil =>
    have hle := h.le
    have hindex := h.index
    rw [List.length_nil] at hticks
    omega
  | cons tick ticks ih =>
    obtain ⟨now, elapsedMicros⟩ := tick
    obtain ⟨u, ⟨hu, hindex, hcount, hrest⟩, hserve⟩ := serveTicks_cons hmin hmax h now elapsedMicros ticks hwhole
    rw [hserve, Option.map_eq_some_iff] at hserved
    obtain ⟨⟨served, last⟩, hserved, heq⟩ := hserved
    obtain ⟨rfl, rfl⟩ := Prod.mk.inj heq
    by_cases hhere : Serves (SliceState.sliceRange n state.sliceCount state.sliceIndex) receiver
    · exact ⟨_, List.mem_cons_self, hhere⟩
    · have hbehind : (state.sliceIndex + 1) * (n ⌈/⌉ state.sliceCount) ≤ receiver := by
        rw [Nat.succ_mul]
        unfold Serves SliceState.sliceRange at hhere
        dsimp only at hhere
        omega
      have hall := le_mul_ceilDiv (n := n) h.pos
      have hlast : state.sliceIndex + 1 ≠ state.sliceCount := by
        intro hlast
        rw [hlast] at hbehind
        omega
      have hnext : u.sliceIndex = state.sliceIndex + 1 := by
        have hlt := h.index
        rw [hindex, Nat.mod_eq_of_lt (by omega)]
      have hsmaller := @ceilDiv_antitone n _ _ h.pos (hcount (by omega))
      rw [List.length_cons] at hticks
      obtain ⟨range, hrange, hserves⟩ := ih hu hrest (by omega) (by
        rw [hnext]
        exact (Nat.mul_le_mul_left _ hsmaller).trans hbehind) hserved
      exact ⟨range, List.mem_cons_of_mem _ hrange, hserves⟩

/-- Wherever the ticks begin, there is a whole pass within 64 of them. -/
theorem ticks_serve (hmin : config.minReceiverSlices = 1) (hmax : config.maxReceiverSlices = 32)
    {ticks : List (ℕ × ℕ)} {state : SliceState} (h : state.InRange) (hwhole : WholePasses floats config n ticks state)
    (hticks : 64 ≤ state.sliceIndex + ticks.length) {receiver : ℕ} (hreceiver : receiver < n)
    {ranges : List (ℕ × ℕ)} {t : SliceState} (hserved : serveTicks floats config n ticks state = some (ranges, t)) :
    ∃ range ∈ ranges, Serves range receiver := by
  induction ticks generalizing state ranges with
  | nil =>
    have hle := h.le
    have hindex := h.index
    rw [List.length_nil] at hticks
    omega
  | cons tick ticks ih =>
    by_cases hzero : state.sliceIndex = 0
    · refine pass_serves hmin hmax h hwhole (by omega) hreceiver ?_ hserved
      rw [hzero, Nat.zero_mul]
      exact Nat.zero_le _
    · obtain ⟨now, elapsedMicros⟩ := tick
      obtain ⟨u, ⟨hu, hindex, -, hrest⟩, hserve⟩ := serveTicks_cons hmin hmax h now elapsedMicros ticks hwhole
      rw [hserve, Option.map_eq_some_iff] at hserved
      obtain ⟨⟨served, last⟩, hserved, heq⟩ := hserved
      obtain ⟨rfl, rfl⟩ := Prod.mk.inj heq
      have hle := h.le
      have hlt := h.index
      rw [List.length_cons] at hticks
      have hfound : ∃ range ∈ served, Serves range receiver := by
        by_cases hlast : state.sliceIndex + 1 = state.sliceCount
        · have hstart : u.sliceIndex = 0 := by rw [hindex, hlast, Nat.mod_self]
          refine pass_serves hmin hmax hu hrest (by omega) hreceiver ?_ hserved
          rw [hstart, Nat.zero_mul]
          exact Nat.zero_le _
        · rw [Nat.mod_eq_of_lt (by omega)] at hindex
          exact ih hu hrest (by omega) hserved
      obtain ⟨range, hrange, hserves⟩ := hfound
      exact ⟨range, List.mem_cons_of_mem _ hrange, hserves⟩

/-- Every tick serves one slice. -/
lemma exists_serveTicks (hmin : config.minReceiverSlices = 1) (hmax : config.maxReceiverSlices = 32)
    {ticks : List (ℕ × ℕ)} {state : SliceState} (h : state.InRange) (hwhole : WholePasses floats config n ticks state) :
    ∃ ranges t, serveTicks floats config n ticks state = some (ranges, t) ∧ ranges.length = ticks.length := by
  induction ticks generalizing state with
  | nil => exact ⟨[], state, rfl, rfl⟩
  | cons tick ticks ih =>
    obtain ⟨now, elapsedMicros⟩ := tick
    obtain ⟨u, ⟨hu, -, -, hrest⟩, hserve⟩ := serveTicks_cons hmin hmax h now elapsedMicros ticks hwhole
    obtain ⟨ranges, t, heq, hlength⟩ := ih hu hrest
    refine ⟨SliceState.sliceRange n state.sliceCount state.sliceIndex :: ranges, t, ?_, ?_⟩
    · rw [hserve, heq, Option.map_some]
    · rw [List.length_cons, hlength, List.length_cons]

end Passes

/-- **Slice adaptation starves no receiver as long as it takes slices away between passes only.**  From every state
that is reached, 64 ticks serve 64 slices, and every receiver is in one of them. -/
theorem every_receiver_served {floats : SliceFloats} {config₀ : AvatarSyncConfig} (htuned : config₀.Tuned) {now : ℕ}
    {ts : List (Transition SliceSystem SliceOp)} {s : SliceSystem}
    (hrun : Run (SliceSystem.Steps floats) (SliceSystem.new config₀ now) ts s) {config : AvatarSyncConfig}
    (hmin : config.minReceiverSlices = 1) (hmax : config.maxReceiverSlices = 32) (n : ℕ) {ticks : List (ℕ × ℕ)}
    (hlength : ticks.length = 64) (hwhole : WholePasses floats config n ticks s.state) :
    ∃ ranges t, serveTicks floats config n ticks s.state = some (ranges, t) ∧ ranges.length = 64 ∧
      ∀ receiver < n, ∃ range ∈ ranges, Serves range receiver := by
  have hs := SliceSystem.rotates_of_run htuned hrun
  have hrange : s.state.InRange := ⟨hs.pos, hs.le.trans hs.bounded.upper, hs.index⟩
  obtain ⟨ranges, t, heq, hranges⟩ := exists_serveTicks hmin hmax hrange hwhole
  refine ⟨ranges, t, heq, hranges.trans hlength, fun receiver hreceiver => ?_⟩
  exact ticks_serve hmin hmax hrange hwhole (by omega) hreceiver heq

/-! ### Fast and slow ticks -/

/-- A tick faster than three quarters of the budget, then one slower than the budget. -/
def alternating : List (ℕ × ℕ) := (List.replicate 32 [(0, 2000), (0, 3100)]).flatten

lemma thirdSlice_run : ∃ ts, Run (SliceSystem.Steps plainFloats) (SliceSystem.new plainConfig 0) ts (plainSystem 3 1 3100) := by
  obtain ⟨ts, hrun⟩ := slowTick_run
  have hserved : SliceSystem.Steps plainFloats (plainSystem 2 0 3100) (.advance 0 3) (plainSystem 2 1 3100) :=
    ⟨trivial, rfl⟩
  have hadapts : SliceSystem.Steps plainFloats (plainSystem 2 1 3100) (.adapt 3100 plainConfig) (plainSystem 3 1 3100) :=
    ⟨⟨rfl, rfl⟩, by decide⟩
  exact ⟨_, (hrun.snoc hserved).snoc hadapts⟩

/-- The slices served are the second of three and the first of two, again and again: the last of three receivers is
in none of them. -/
theorem receiver_starved : ¬ ∀ (config₀ : AvatarSyncConfig) (now : ℕ) (ts : List (Transition SliceSystem SliceOp))
    (s : SliceSystem) (config : AvatarSyncConfig) (n : ℕ) (ticks : List (ℕ × ℕ)), config₀.Tuned →
    Run (SliceSystem.Steps plainFloats) (SliceSystem.new config₀ now) ts s →
    config.minReceiverSlices = 1 → config.maxReceiverSlices = 32 → ticks.length = 64 →
    ∃ ranges t, serveTicks plainFloats config n ticks s.state = some (ranges, t) ∧ ranges.length = 64 ∧
      ∀ receiver < n, ∃ range ∈ ranges, Serves range receiver := by
  intro h
  obtain ⟨ts, hrun⟩ := thirdSlice_run
  obtain ⟨ranges, t, heq, -, hserved⟩ := h plainConfig 0 ts (plainSystem 3 1 3100) plainConfig 3 alternating
    plainConfig_tuned hrun rfl rfl (by decide)
  have hranges : (serveTicks plainFloats plainConfig 3 alternating (plainSystem 3 1 3100).state).map Prod.fst =
      some (List.replicate 32 [(1, 2), (0, 2)]).flatten := by
    decide +kernel
  rw [heq, Option.map_some, Option.some.injEq] at hranges
  obtain ⟨range, hrange, hserves⟩ := hserved 2 (by omega)
  dsimp only at hranges
  rw [hranges] at hrange
  have hnone : ∀ range ∈ (List.replicate 32 [(1, 2), (0, 2)]).flatten, ¬ Serves range 2 := by decide
  exact hnone range hrange hserves

/-- Ticks that are neither fast nor slow leave the one slice as it is. -/
theorem every_receiver_served_steady :
    ∃ ranges t, serveTicks plainFloats plainConfig 3 (List.replicate 64 (0, 2500)) (plainSystem 2 0 3100).state =
        some (ranges, t) ∧ ranges.length = 64 ∧ ∀ receiver < 3, ∃ range ∈ ranges, Serves range receiver := by
  obtain ⟨ts, hrun⟩ := slowTick_run
  exact every_receiver_served plainConfig_tuned hrun rfl rfl 3 rfl (by decide +kernel)

end BasisRust.Avatar
