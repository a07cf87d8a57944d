import LightFee.Engine.EntryContext
import Mathlib.Data.Rat.Floor
import Mathlib.Tactic.Linarith

/-!
# The incremental entry plan

A passive entry splits its quantity: the maker order is posted with an initial share, and the
remainder is hedged later. Both shares have a minimum notional and both are cut in chunks. The
planner picks the full quantity and the initial share, raises the share to the maker's minimum
clip and lowers it again when the remainder is below the hedge's minimum clip.

Quantities are exact rationals. A result of `none` is the division by zero that the source
raises.
-/

namespace LightFee.Engine

structure IncrementalEntryExecutionPlan where
  route : ExecutionRoute
  fullTargetQuantity : ℚ := 0
  initialMakerTargetQuantity : ℚ := 0
  makerMinValidClipQuantity : Option ℚ := none
  reason : Option String := none
deriving DecidableEq

namespace ExecutionPlanner

/-- Quantities that differ by no more than this match. -/
def epsilon : ℚ := 1 / 10 ^ 9

def boundedMakerFirstInitialTargetQuantity (targetQuantity sliceRatio : ℚ) : ℚ :=
  let target := max targetQuantity 0
  if target ≤ epsilon ∨ 1 - epsilon ≤ sliceRatio then target
  else
    let sliced := max (target * sliceRatio) 0
    if sliced ≤ epsilon ∨ target - epsilon ≤ sliced then target else sliced

/-- The least quantity that an order's minimum notional allows, in whole chunks as long as the
full target holds them. -/
def makerMinValidClipQuantity (minNotionalQuote : ℚ) (priceHint : Option ℚ)
    (minHedgeableChunk fullTargetQuantity : ℚ) : Option ℚ :=
  if minNotionalQuote ≤ 0 then none
  else
    match priceHint with
    | none => none
    | some price =>
      if price ≤ 0 then none
      else
        let raw := minNotionalQuote / price
        if raw ≤ epsilon then none
        else if epsilon < minHedgeableChunk then
          some (min (⌈raw / minHedgeableChunk⌉ * minHedgeableChunk) (max fullTargetQuantity raw))
        else some raw

/-- The full target and the initial maker target; none when the target holds no chunk. -/
def alignedTargets (targetQuantity sliceRatio minHedgeableChunk : ℚ) : Option (ℚ × ℚ) :=
  if minHedgeableChunk ≤ epsilon then
    some (max targetQuantity 0, boundedMakerFirstInitialTargetQuantity targetQuantity sliceRatio)
  else
    let fullChunks := ⌊targetQuantity / minHedgeableChunk⌋
    if fullChunks ≤ 0 then none
    else
      let full := fullChunks * minHedgeableChunk
      let initialChunks :=
        ⌊boundedMakerFirstInitialTargetQuantity full sliceRatio / minHedgeableChunk⌋
      some (full,
        if initialChunks ≤ 0 then min minHedgeableChunk full
        else min (initialChunks * minHedgeableChunk) full)

/-- The cap of the maker clip's share, 0.8 unless a positive one is given. -/
def effectiveMaxRatio (maxInitialClipRatio : ℚ) : ℚ :=
  min (if 0 < maxInitialClipRatio then maxInitialClipRatio else 4 / 5) 1

/-- The initial share raised to the maker's minimum clip, or the plan that ends here. The full
target is positive. -/
def makerShare (full initial maxInitialClipRatio : ℚ) :
    Option ℚ → Except IncrementalEntryExecutionPlan ℚ
  | none => .ok initial
  | some clip =>
    if full + epsilon < clip then
      .error
        { route := .rejected
          fullTargetQuantity := full
          makerMinValidClipQuantity := some clip
          reason := some "maker_min_clip_exceeds_full_target" }
    else if effectiveMaxRatio maxInitialClipRatio + epsilon < clip / full then
      .error
        { route := .fallbackToStandard
          fullTargetQuantity := full
          initialMakerTargetQuantity := clip
          makerMinValidClipQuantity := some clip
          reason := some "maker_min_clip_too_close_to_full_target" }
    else .ok (max initial clip)

/-- The maker share that leaves the hedge clip, in whole chunks. -/
def reducedMaker (full hedgeClip minHedgeableChunk : ℚ) : Option ℚ :=
  if minHedgeableChunk = 0 then none
  else some (⌊(full - hedgeClip) / minHedgeableChunk⌋ * minHedgeableChunk)

def passivePlan (full initial : ℚ) (makerClip : Option ℚ) : IncrementalEntryExecutionPlan where
  route := .passiveIncremental
  fullTargetQuantity := full
  initialMakerTargetQuantity := initial
  makerMinValidClipQuantity := makerClip

def remainderBelowMinNotional (full initial : ℚ) (makerClip : Option ℚ) :
    IncrementalEntryExecutionPlan where
  route := .fallbackToStandard
  fullTargetQuantity := full
  initialMakerTargetQuantity := initial
  makerMinValidClipQuantity := makerClip
  reason := some "hedge_remainder_below_min_notional"

/-- The plan once the maker share is known: what remains is checked against the hedge clip. -/
def hedgeShare (full initial minHedgeableChunk : ℚ) (makerClip : Option ℚ) :
    Option ℚ → Option IncrementalEntryExecutionPlan
  | none => some (passivePlan full initial makerClip)
  | some hedgeClip =>
    let remainder := max (full - initial) 0
    let makerClipValue := makerClip.getD 0
    if remainder ≤ epsilon then
      if epsilon ≤ full - hedgeClip then
        (reducedMaker full hedgeClip minHedgeableChunk).map fun reduced =>
          if makerClipValue - epsilon ≤ reduced then passivePlan full (max reduced 0) makerClip
          else remainderBelowMinNotional full initial makerClip
      else some (remainderBelowMinNotional full initial makerClip)
    else if remainder < hedgeClip - epsilon then
      if makerClipValue - epsilon ≤ full - hedgeClip then
        (reducedMaker full hedgeClip minHedgeableChunk).map fun reduced =>
          if epsilon ≤ reduced then passivePlan full reduced makerClip
          else remainderBelowMinNotional full initial makerClip
      else some (remainderBelowMinNotional full initial makerClip)
    else some (passivePlan full initial makerClip)

/-- What the planner is called with. -/
structure PlanArguments where
  targetQuantity : ℚ
  sliceRatio : ℚ
  minHedgeableChunk : ℚ
  makerMinNotionalQuote : ℚ
  makerPriceHint : Option ℚ
  maxInitialClipRatio : ℚ
  hedgeMinNotionalQuote : ℚ
  hedgePriceHint : Option ℚ

namespace PlanArguments

/-- The maker's minimum clip for a full target. -/
def makerClip (arguments : PlanArguments) (full : ℚ) : Option ℚ :=
  makerMinValidClipQuantity arguments.makerMinNotionalQuote arguments.makerPriceHint
    arguments.minHedgeableChunk full

/-- The hedge's minimum clip for a full target. -/
def hedgeClip (arguments : PlanArguments) (full : ℚ) : Option ℚ :=
  makerMinValidClipQuantity arguments.hedgeMinNotionalQuote arguments.hedgePriceHint
    arguments.minHedgeableChunk full

end PlanArguments

def planIncrementalEntryExecution (arguments : PlanArguments) :
    Option IncrementalEntryExecutionPlan :=
  if arguments.targetQuantity ≤ epsilon then
    some { route := .rejected, reason := some "target_quantity_not_positive" }
  else
    match alignedTargets arguments.targetQuantity arguments.sliceRatio
        arguments.minHedgeableChunk with
    | none => some { route := .rejected, reason := some "target_below_min_hedgeable_chunk" }
    | some (full, initial) =>
      match makerShare full initial arguments.maxInitialClipRatio (arguments.makerClip full) with
      | .error plan => some plan
      | .ok share =>
        hedgeShare full share arguments.minHedgeableChunk (arguments.makerClip full)
          (arguments.hedgeClip full)

/-! ## Whole chunks -/

def WholeChunks (chunk quantity : ℚ) : Prop :=
  ∃ count : ℤ, quantity = count * chunk

theorem epsilon_pos : 0 < epsilon := by
  norm_num [epsilon]

/-- The chunks that fit stay below the quantity. -/
theorem floor_chunks_le {chunk : ℚ} (positive : 0 < chunk) (quantity : ℚ) :
    ⌊quantity / chunk⌋ * chunk ≤ quantity :=
  (le_div_iff₀ positive).mp (Int.floor_le _)

/-- Whole chunks fill up themselves. -/
theorem floor_chunks_whole {chunk quantity : ℚ} (positive : 0 < chunk)
    (whole : WholeChunks chunk quantity) : ⌊quantity / chunk⌋ * chunk = quantity := by
  obtain ⟨count, rfl⟩ := whole
  rw [mul_div_cancel_right₀ _ positive.ne', Int.floor_intCast]

theorem WholeChunks.sub {chunk left right : ℚ} (first : WholeChunks chunk left)
    (second : WholeChunks chunk right) : WholeChunks chunk (left - right) := by
  obtain ⟨leftCount, rfl⟩ := first
  obtain ⟨rightCount, rfl⟩ := second
  exact ⟨leftCount - rightCount, by push_cast; ring⟩

theorem WholeChunks.max {chunk left right : ℚ} (first : WholeChunks chunk left)
    (second : WholeChunks chunk right) : WholeChunks chunk (max left right) := by
  rcases max_choice left right with larger | larger
  · rwa [larger]
  · rwa [larger]

theorem WholeChunks.min {chunk left right : ℚ} (first : WholeChunks chunk left)
    (second : WholeChunks chunk right) : WholeChunks chunk (min left right) := by
  rcases min_choice left right with smaller | smaller
  · rwa [smaller]
  · rwa [smaller]

/-! ## Targets and clips -/

theorem bounded_initial {target : ℚ} (positive : 0 < target) (ratio : ℚ) :
    0 < boundedMakerFirstInitialTargetQuantity target ratio ∧
      boundedMakerFirstInitialTargetQuantity target ratio ≤ target := by
  have small := epsilon_pos
  unfold boundedMakerFirstInitialTargetQuantity
  rw [max_eq_left positive.le]
  dsimp only
  split_ifs with whole sliced
  · exact ⟨positive, le_refl _⟩
  · exact ⟨positive, le_refl _⟩
  · push Not at sliced
    exact ⟨small.trans sliced.1, by linarith [sliced.2]⟩

/-- The targets are positive and ordered, and a chunk that counts cuts both. -/
theorem aligned_targets {target ratio chunk full initial : ℚ} (positive : epsilon < target)
    (planned : alignedTargets target ratio chunk = some (full, initial)) :
    0 < initial ∧ initial ≤ full ∧ full ≤ target ∧ epsilon < full ∧
      (epsilon < chunk → WholeChunks chunk full ∧ WholeChunks chunk initial) := by
  have small := epsilon_pos
  unfold alignedTargets at planned
  dsimp only at planned
  split_ifs at planned with unchunked none first
  · obtain ⟨rfl, rfl⟩ := Prod.mk.inj (Option.some.inj planned)
    rw [max_eq_left (by linarith)]
    have bounded := bounded_initial (small.trans positive) ratio
    exact ⟨bounded.1, bounded.2, le_refl _, positive, fun chunked => by linarith⟩
  all_goals
    obtain ⟨rfl, rfl⟩ := Prod.mk.inj (Option.some.inj planned)
    have chunked : epsilon < chunk := not_le.mp unchunked
    have chunkPositive : 0 < chunk := small.trans chunked
    have one : (1 : ℚ) ≤ (⌊target / chunk⌋ : ℤ) := by
      exact_mod_cast (not_le.mp none : 0 < ⌊target / chunk⌋)
    have held : chunk ≤ (⌊target / chunk⌋ : ℤ) * chunk := by
      nlinarith
    have within := floor_chunks_le chunkPositive target
  · refine ⟨?_, min_le_right _ _, within, by linarith, fun _ => ⟨⟨_, rfl⟩, ?_⟩⟩
    · exact lt_min chunkPositive (by linarith)
    · exact WholeChunks.min ⟨1, by push_cast; ring⟩ ⟨_, rfl⟩
  · refine ⟨?_, min_le_right _ _, within, by linarith, fun _ => ⟨⟨_, rfl⟩, ?_⟩⟩
    · refine lt_min (mul_pos ?_ chunkPositive) (by linarith)
      exact_mod_cast not_le.mp first
    · exact WholeChunks.min ⟨_, rfl⟩ ⟨_, rfl⟩

/-- A clip matters; it is whole chunks of the full target or exceeds the full target. -/
theorem clip_whole {minNotional chunk full clip : ℚ} {price : Option ℚ}
    (defined : makerMinValidClipQuantity minNotional price chunk full = some clip) :
    epsilon < clip ∧ (epsilon < chunk → WholeChunks chunk full →
      WholeChunks chunk clip ∧ clip ≤ full ∨ full < clip) := by
  have small := epsilon_pos
  unfold makerMinValidClipQuantity at defined
  cases price with
  | none =>
    dsimp only at defined
    split_ifs at defined
  | some price =>
    dsimp only at defined
    split_ifs at defined with noNotional noPrice noClip chunked
    · have chunkPositive : 0 < chunk := small.trans chunked
      have least : minNotional / price ≤ ⌈minNotional / price / chunk⌉ * chunk :=
        (div_le_iff₀ chunkPositive).mp (Int.le_ceil _)
      obtain rfl := Option.some.inj defined
      refine ⟨lt_min ((not_le.mp noClip).trans_le least)
        ((not_le.mp noClip).trans_le (le_max_right _ _)), fun _ whole => ?_⟩
      rcases le_or_gt ((⌈minNotional / price / chunk⌉ : ℤ) * chunk) full with holds | exceeds
      · left
        rw [min_eq_left (holds.trans (le_max_left _ _))]
        exact ⟨⟨_, rfl⟩, holds⟩
      · -- More chunks than the full target has: the quantity itself exceeds it.
        right
        obtain ⟨count, rfl⟩ := whole
        have more : count < ⌈minNotional / price / chunk⌉ := by
          have cast : (count : ℚ) < (⌈minNotional / price / chunk⌉ : ℤ) :=
            lt_of_mul_lt_mul_right exceeds chunkPositive.le
          exact_mod_cast cast
        have above : count * chunk < minNotional / price :=
          (lt_div_iff₀ chunkPositive).mp (Int.lt_ceil.mp more)
        exact lt_min exceeds (above.trans_le (le_max_right _ _))
    · obtain rfl := Option.some.inj defined
      exact ⟨not_le.mp noClip, fun chunk => absurd chunk chunked⟩

/-- A share that passes the maker's checks is the initial one, raised to the clip. -/
theorem maker_share {full initial ratio share : ℚ} {clip : Option ℚ}
    (passed : makerShare full initial ratio clip = .ok share) :
    clip = none ∧ share = initial ∨
      ∃ quantity, clip = some quantity ∧ quantity ≤ full + epsilon ∧ share = max initial quantity := by
  cases clip with
  | none => exact .inl ⟨rfl, (Except.ok.inj passed).symm⟩
  | some quantity =>
    unfold makerShare at passed
    dsimp only at passed
    split_ifs at passed with exceeds close
    exact .inr ⟨quantity, rfl, not_lt.mp exceeds, (Except.ok.inj passed).symm⟩

/-! ## The plan -/

/-- The maker clip exceeds the full target by what counts as equal, and there is no hedge clip. -/
def ClipAtTarget (full initial : ℚ) (makerClip hedgeClip : Option ℚ) : Prop :=
  hedgeClip = none ∧ makerClip = some initial ∧ full < initial ∧ initial ≤ full + epsilon

/-- A passive plan that can be executed. -/
structure Executable (target chunk : ℚ) (makerClip hedgeClip : Option ℚ) (full initial : ℚ) :
    Prop where
  positive : 0 < initial
  within : full ≤ target
  capped : initial ≤ full ∨ ClipAtTarget full initial makerClip hedgeClip
  aligned : epsilon < chunk → WholeChunks chunk full ∧
    (WholeChunks chunk initial ∨ ClipAtTarget full initial makerClip hedgeClip)
  maker : ∀ clip, makerClip = some clip → clip - epsilon ≤ initial
  hedge : ∀ clip, hedgeClip = some clip → clip - epsilon ≤ full - initial

/-- The maker share has to make room for the hedge clip. -/
def MakesRoom (full share makerClipValue hedgeClip : ℚ) : Prop :=
  max (full - share) 0 ≤ epsilon ∧ epsilon ≤ full - hedgeClip ∨
    epsilon < max (full - share) 0 ∧ max (full - share) 0 < hedgeClip - epsilon ∧
      makerClipValue - epsilon ≤ full - hedgeClip

/-- What the two shares are planned from: the maker share covers its clip, and it exceeds the
full target only as a clip does. -/
structure Shared (target chunk : ℚ) (makerClip : Option ℚ) (full share : ℚ) : Prop where
  positive : 0 < share
  within : full ≤ target
  large : epsilon < full
  capped : share ≤ full ∨ makerClip = some share ∧ full < share ∧ share ≤ full + epsilon
  aligned : epsilon < chunk → WholeChunks chunk full ∧
    (share ≤ full → WholeChunks chunk share ∧ ∀ clip, makerClip = some clip → WholeChunks chunk clip)
  maker : ∀ clip, makerClip = some clip → clip ≤ share

/-- The maker's checks leave such a share. -/
theorem maker_shared {arguments : PlanArguments} (positive : epsilon < arguments.targetQuantity)
    {full initial share : ℚ}
    (planned : alignedTargets arguments.targetQuantity arguments.sliceRatio
      arguments.minHedgeableChunk = some (full, initial))
    (passed : makerShare full initial arguments.maxInitialClipRatio (arguments.makerClip full) =
      .ok share) :
    Shared arguments.targetQuantity arguments.minHedgeableChunk (arguments.makerClip full)
      full share := by
  obtain ⟨initialPositive, ordered, within, large, aligned⟩ := aligned_targets positive planned
  rcases maker_share passed with ⟨unclipped, rfl⟩ | ⟨clip, clipped, close, rfl⟩
  · refine ⟨initialPositive, within, large, .inl ordered, fun chunked => ?_, ?_⟩
    · refine ⟨(aligned chunked).1, fun _ => ⟨(aligned chunked).2, fun clip found => ?_⟩⟩
      rw [unclipped] at found
      cases found
    · intro clip found
      rw [unclipped] at found
      cases found
  · have found (other : ℚ) (same : arguments.makerClip full = some other) : other = clip :=
      Option.some.inj (same.symm.trans clipped)
    refine ⟨initialPositive.trans_le (le_max_left _ _), within, large, ?_, fun chunked => ?_, ?_⟩
    · rcases le_or_gt clip full with holds | exceeds
      · exact .inl (max_le ordered holds)
      · rw [max_eq_right (by linarith)]
        exact .inr ⟨clipped, exceeds, close⟩
    · obtain ⟨wholeFull, wholeInitial⟩ := aligned chunked
      refine ⟨wholeFull, fun capped => ?_⟩
      have held : clip ≤ full := (le_max_right _ _).trans capped
      have whole : WholeChunks arguments.minHedgeableChunk clip := by
        rcases (clip_whole clipped).2 chunked wholeFull with fits | exceeds
        · exact fits.1
        · exact absurd held (not_le.mpr exceeds)
      refine ⟨wholeInitial.max whole, fun other same => ?_⟩
      rw [found other same]
      exact whole
    · intro other same
      rw [found other same]
      exact le_max_right _ _

/-- Without room to make, the share stays and the hedge clip is left or the entry falls back. -/
theorem hedge_share_kept {full share chunk hedgeClip : ℚ} {makerClip : Option ℚ}
    (kept : ¬ MakesRoom full share (makerClip.getD 0) hedgeClip) :
    ∃ plan, hedgeShare full share chunk makerClip (some hedgeClip) = some plan ∧
      (plan.route = .passiveIncremental → plan = passivePlan full share makerClip ∧
        epsilon < max (full - share) 0 ∧ hedgeClip - epsilon ≤ max (full - share) 0) := by
  unfold MakesRoom at kept
  push Not at kept
  unfold hedgeShare
  dsimp only
  split_ifs with spent room short reduces
  · exact absurd (kept.1 spent) (not_lt.mpr room)
  · exact ⟨_, rfl, fun route => ExecutionRoute.noConfusion route⟩
  · exact absurd (kept.2 (not_le.mp spent) short) (not_lt.mpr reduces)
  · exact ⟨_, rfl, fun route => ExecutionRoute.noConfusion route⟩
  · exact ⟨_, rfl, fun _ => ⟨rfl, not_le.mp spent, not_lt.mp short⟩⟩

/-- Whole chunks make exactly the room that the hedge clip needs. -/
theorem hedge_share_reduced {target full share chunk hedgeClip : ℚ} {makerClip : Option ℚ}
    (shared : Shared target chunk makerClip full share) (chunked : epsilon < chunk)
    (whole : WholeChunks chunk hedgeClip ∧ hedgeClip ≤ full ∨ full < hedgeClip)
    (room : MakesRoom full share (makerClip.getD 0) hedgeClip) :
    ∃ plan, hedgeShare full share chunk makerClip (some hedgeClip) = some plan ∧
      (plan.route = .passiveIncremental →
        plan = passivePlan full (full - hedgeClip) makerClip ∧ 0 < full - hedgeClip ∧
          WholeChunks chunk (full - hedgeClip) ∧
          ∀ clip, makerClip = some clip → clip - epsilon ≤ full - hedgeClip) := by
  have small := epsilon_pos
  have chunkPositive : 0 < chunk := small.trans chunked
  have makerValue (clip : ℚ) (found : makerClip = some clip) : makerClip.getD 0 = clip := by
    rw [found, Option.getD_some]
  rcases whole with ⟨wholeClip, holds⟩ | exceeds
  · have wholeRoom := (shared.aligned chunked).1.sub wholeClip
    have reduced : reducedMaker full hedgeClip chunk = some (full - hedgeClip) := by
      rw [reducedMaker, if_neg chunkPositive.ne', floor_chunks_whole chunkPositive wholeRoom]
    have nonneg : 0 ≤ full - hedgeClip := by linarith
    unfold hedgeShare
    dsimp only
    rw [reduced]
    rcases room with ⟨spent, left⟩ | ⟨unspent, short, covers⟩
    · rw [if_pos spent, if_pos left, Option.map_some, max_eq_left nonneg]
      refine ⟨_, rfl, ?_⟩
      split_ifs with enough
      · intro _
        refine ⟨rfl, by linarith, wholeRoom, fun clip found => ?_⟩
        rw [makerValue clip found] at enough
        exact enough
      · exact fun route => ExecutionRoute.noConfusion route
    · rw [if_neg (not_le.mpr unspent), if_pos short, if_pos covers, Option.map_some]
      refine ⟨_, rfl, ?_⟩
      split_ifs with enough
      · intro _
        refine ⟨rfl, by linarith, wholeRoom, fun clip found => ?_⟩
        rw [makerValue clip found] at covers
        exact covers
      · exact fun route => ExecutionRoute.noConfusion route
  · -- A clip above the full target leaves nothing to reduce to.
    have negative : (⌊(full - hedgeClip) / chunk⌋ : ℤ) * chunk < epsilon :=
      (floor_chunks_le chunkPositive _).trans_lt (by linarith)
    rcases room with ⟨-, left⟩ | ⟨unspent, short, covers⟩
    · linarith
    · unfold hedgeShare
      dsimp only
      rw [if_neg (not_le.mpr unspent), if_pos short, if_pos covers, reducedMaker,
        if_neg chunkPositive.ne', Option.map_some, if_neg (not_le.mpr negative)]
      exact ⟨_, rfl, fun route => ExecutionRoute.noConfusion route⟩

/-- The planner reduces the maker share by chunks that it otherwise counts as none. -/
def PlanArguments.ReducesUncounted (arguments : PlanArguments) : Prop :=
  arguments.minHedgeableChunk ≤ epsilon ∧ ∃ full initial share hedgeClip,
    alignedTargets arguments.targetQuantity arguments.sliceRatio arguments.minHedgeableChunk =
      some (full, initial) ∧
    makerShare full initial arguments.maxInitialClipRatio (arguments.makerClip full) = .ok share ∧
    arguments.hedgeClip full = some hedgeClip ∧
    MakesRoom full share ((arguments.makerClip full).getD 0) hedgeClip

/-- The two shares of a passive plan. -/
theorem shared_executable {arguments : PlanArguments} {full share : ℚ}
    (shared : Shared arguments.targetQuantity arguments.minHedgeableChunk
      (arguments.makerClip full) full share)
    (counted : ∀ hedgeClip, arguments.hedgeClip full = some hedgeClip →
      MakesRoom full share ((arguments.makerClip full).getD 0) hedgeClip →
        epsilon < arguments.minHedgeableChunk) :
    ∃ plan, hedgeShare full share arguments.minHedgeableChunk (arguments.makerClip full)
        (arguments.hedgeClip full) = some plan ∧
      (plan.route = .passiveIncremental →
        Executable arguments.targetQuantity arguments.minHedgeableChunk
          (arguments.makerClip plan.fullTargetQuantity)
          (arguments.hedgeClip plan.fullTargetQuantity)
          plan.fullTargetQuantity plan.initialMakerTargetQuantity) := by
  have small := epsilon_pos
  cases hedged : arguments.hedgeClip full with
  | none =>
    refine ⟨passivePlan full share (arguments.makerClip full), rfl, fun _ => ?_⟩
    dsimp only [passivePlan]
    rw [hedged]
    have kept : share ≤ full ∨ ClipAtTarget full share (arguments.makerClip full) none :=
      shared.capped.imp_right fun exceeds => ⟨rfl, exceeds⟩
    refine ⟨shared.positive, shared.within, kept, fun chunked => ?_, fun clip found => ?_, nofun⟩
    · exact ⟨(shared.aligned chunked).1,
        kept.imp_left fun capped => ((shared.aligned chunked).2 capped).1⟩
    · linarith [shared.maker clip found]
  | some hedgeClip =>
    have wholeClip := clip_whole hedged
    have same (clip : ℚ) (found : some hedgeClip = some clip) : clip = hedgeClip :=
      (Option.some.inj found).symm
    by_cases room : MakesRoom full share ((arguments.makerClip full).getD 0) hedgeClip
    · have chunked := counted hedgeClip hedged room
      obtain ⟨plan, planned, passive⟩ := hedge_share_reduced shared chunked
        (wholeClip.2 chunked (shared.aligned chunked).1) room
      refine ⟨plan, planned, fun route => ?_⟩
      obtain ⟨rfl, positive, whole, maker⟩ := passive route
      dsimp only [passivePlan]
      rw [hedged]
      refine ⟨positive, shared.within, .inl (by linarith [wholeClip.1]), fun _ => ?_, maker,
        fun clip found => ?_⟩
      · exact ⟨(shared.aligned chunked).1, .inl whole⟩
      · rw [same clip found]
        linarith
    · obtain ⟨plan, planned, passive⟩ := @hedge_share_kept full share
        arguments.minHedgeableChunk hedgeClip _ room
      refine ⟨plan, planned, fun route => ?_⟩
      obtain ⟨rfl, unspent, covers⟩ := passive route
      -- What is left is more than nothing, so the share is below the full target.
      have left : max (full - share) 0 = full - share := by
        rcases max_choice (full - share) 0 with larger | zero
        · exact larger
        · rw [zero] at unspent
          exact absurd unspent (not_lt.mpr small.le)
      rw [left] at unspent covers
      have capped : share ≤ full := by linarith
      dsimp only [passivePlan]
      rw [hedged]
      refine ⟨shared.positive, shared.within, .inl capped, fun chunked => ?_, fun clip found => ?_,
        fun clip found => ?_⟩
      · exact ⟨(shared.aligned chunked).1, .inl ((shared.aligned chunked).2 capped).1⟩
      · linarith [shared.maker clip found]
      · rw [same clip found]
        exact covers

/-- The planner returns a plan, and a passive plan can be executed. -/
theorem plan_executable (arguments : PlanArguments) (counted : ¬ arguments.ReducesUncounted) :
    ∃ plan, planIncrementalEntryExecution arguments = some plan ∧
      (plan.route = .passiveIncremental →
        Executable arguments.targetQuantity arguments.minHedgeableChunk
          (arguments.makerClip plan.fullTargetQuantity)
          (arguments.hedgeClip plan.fullTargetQuantity)
          plan.fullTargetQuantity plan.initialMakerTargetQuantity) := by
  unfold planIncrementalEntryExecution
  by_cases nothing : arguments.targetQuantity ≤ epsilon
  · rw [if_pos nothing]
    exact ⟨_, rfl, fun route => ExecutionRoute.noConfusion route⟩
  · rw [if_neg nothing]
    cases planned : alignedTargets arguments.targetQuantity arguments.sliceRatio
        arguments.minHedgeableChunk with
    | none => exact ⟨_, rfl, fun route => ExecutionRoute.noConfusion route⟩
    | some targets =>
      obtain ⟨full, initial⟩ := targets
      dsimp only
      cases passed : makerShare full initial arguments.maxInitialClipRatio
          (arguments.makerClip full) with
      | error plan =>
        refine ⟨plan, rfl, fun route => ?_⟩
        cases clipped : arguments.makerClip full with
        | none =>
          rw [clipped] at passed
          cases passed
        | some clip =>
          rw [clipped] at passed
          unfold makerShare at passed
          dsimp only at passed
          split_ifs at passed
          · rw [← Except.error.inj passed] at route
            exact ExecutionRoute.noConfusion route
          · rw [← Except.error.inj passed] at route
            exact ExecutionRoute.noConfusion route
      | ok share =>
        refine shared_executable (maker_shared (not_le.mp nothing) planned passed) ?_
        intro hedgeClip hedged room
        by_contra uncounted
        exact counted ⟨not_lt.mp uncounted, full, initial, share, hedgeClip, planned, passed,
          hedged, room⟩

/-- Ten units in chunks of two, each leg with a minimum notional. -/
def tenUnits : PlanArguments where
  targetQuantity := 10
  sliceRatio := 1
  minHedgeableChunk := 2
  makerMinNotionalQuote := 3
  makerPriceHint := some 1
  maxInitialClipRatio := 4 / 5
  hedgeMinNotionalQuote := 5
  hedgePriceHint := some 1

theorem plan_executable_ten_units :
    ∃ plan, planIncrementalEntryExecution tenUnits = some plan ∧
      (plan.route = .passiveIncremental →
        Executable 10 2 (tenUnits.makerClip plan.fullTargetQuantity)
          (tenUnits.hedgeClip plan.fullTargetQuantity)
          plan.fullTargetQuantity plan.initialMakerTargetQuantity) :=
  plan_executable tenUnits fun reduces => absurd reduces.1 (by decide +kernel)

example : planIncrementalEntryExecution tenUnits = some (passivePlan 10 4 (some 4)) := by
  decide +kernel

/-- A chunk that the planner counts as none leaves the target as it is; a maker clip just above
the full target is the initial share; and a hedge clip is divided by a chunk of zero. -/
theorem plans_outside_bounds :
    (∃ arguments plan, planIncrementalEntryExecution arguments = some plan ∧
      plan.route = .passiveIncremental ∧ 1 / 10 ^ 12 < arguments.minHedgeableChunk ∧
      ¬ WholeChunks arguments.minHedgeableChunk plan.fullTargetQuantity) ∧
    (∃ arguments plan, planIncrementalEntryExecution arguments = some plan ∧
      plan.route = .passiveIncremental ∧
      plan.fullTargetQuantity < plan.initialMakerTargetQuantity) ∧
    ∃ arguments, planIncrementalEntryExecution arguments = none := by
  refine ⟨⟨{ tenUnits with
      targetQuantity := 1
      minHedgeableChunk := 3 / 10 ^ 10
      makerPriceHint := none
      hedgePriceHint := none }, passivePlan 1 1 none, by decide +kernel, rfl,
      by decide +kernel, ?_⟩,
    ⟨{ tenUnits with
      makerMinNotionalQuote := 10 + 1 / 10 ^ 10
      maxInitialClipRatio := 1
      hedgePriceHint := none }, passivePlan 10 (10 + 1 / 10 ^ 10) (some (10 + 1 / 10 ^ 10)),
      by decide +kernel, rfl, by decide +kernel⟩,
    { tenUnits with minHedgeableChunk := 0 }, by decide +kernel⟩
  rintro ⟨count, whole⟩
  have thirds : (10 ^ 10 : ℚ) = count * 3 := by
    have scaled : (1 : ℚ) = count * (3 / 10 ^ 10) := whole
    linarith
  have cast : (10 ^ 10 : ℤ) = count * 3 := by
    exact_mod_cast thirds
  omega

end ExecutionPlanner

end LightFee.Engine
