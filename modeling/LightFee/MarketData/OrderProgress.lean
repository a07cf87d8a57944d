import LightFee.Engine.CloseVenue
import LightFee.Library.Preference
import Mathlib.Tactic.NormNum

/-!
# Cumulative progress of an order

A resting order is reported by up to three sources: a reconciliation, a REST snapshot and the
private stream. They are merged into one progress: the largest finite quantity wins, and the other
fields come from the sources that report about this quantity, where one of them has the field.
-/

namespace LightFee.MarketData

open LightFee.Engine (PassiveOrderState)
open Preference

/-- A snapshot of an order from a private stream. -/
structure PrivateOrderUpdate where
  symbol : String
  orderId : String
  clientOrderId : Option String := none
  filledQuantity : Option ExactFloat := none
  averagePrice : Option ExactFloat := none
  feeQuote : Option ExactFloat := none
  state : Option PassiveOrderState := none
  updatedAtMs : Int := 0
deriving DecidableEq

/-- A reconciled fill, as far as progress reads it. -/
structure ReconciledProgress extends Engine.OrderFillReconciliation where
  feeQuote : Option ExactFloat := none
  filledAtMs : Int := 0

inductive ProgressSource where
  | reconciliation
  | restSnapshot
  | privateWs
deriving DecidableEq

@[ext] structure CumulativeOrderProgress where
  orderId : Option String := none
  clientOrderId : Option String := none
  cumulativeQuantity : ExactFloat := .finite 0
  averagePrice : Option ExactFloat := none
  feeQuote : Option ExactFloat := none
  state : Option PassiveOrderState := none
  updatedAtMs : Option Int := none
  lastFillAtMs : Option Int := none
  source : ProgressSource := .privateWs
deriving DecidableEq

/-! ## Usable values -/

def usableText (text : String) : Bool := text ≠ ""

/-- A finite number above zero. -/
def usablePrice (price : ExactFloat) : Bool := (ExactFloat.finite 0).lt price && price.isFinite

/-- A finite number that is not negative. -/
def usableFee (fee : ExactFloat) : Bool := (ExactFloat.finite 0).le fee && fee.isFinite

def usableTime (time : Int) : Bool := 0 < time

namespace CumulativeOrderProgress

def fromPositionSnapshot (orderId clientOrderId : Option String) (cumulativeQuantity : ExactFloat)
    (averagePrice feeQuote : Option ExactFloat) (updatedAtMs : Option Int) :
    CumulativeOrderProgress where
  orderId := orderId
  clientOrderId := clientOrderId
  cumulativeQuantity := cumulativeQuantity
  averagePrice := averagePrice
  feeQuote := feeQuote
  updatedAtMs := updatedAtMs
  lastFillAtMs :=
    if (ExactFloat.finite 0).lt cumulativeQuantity then updatedAtMs.filter usableTime else none
  source := .restSnapshot

def fromReconciliation (recon : ReconciledProgress) : CumulativeOrderProgress where
  orderId := (some recon.orderId).filter usableText
  clientOrderId := recon.clientOrderId
  cumulativeQuantity := recon.quantity
  averagePrice := some recon.averagePrice
  feeQuote := recon.feeQuote
  updatedAtMs := some recon.filledAtMs
  lastFillAtMs := (some recon.filledAtMs).filter usableTime
  source := .reconciliation

end CumulativeOrderProgress

/-! ## Merging sources -/

/-- The largest finite quantity, and zero where none is above it. -/
def highestQuantity (sources : List CumulativeOrderProgress) : ℚ :=
  sources.foldl (fun highest source =>
    if highest < source.cumulativeQuantity.toRat then source.cumulativeQuantity.toRat
    else highest) 0

/-- Whether a source reports about this quantity. -/
def CumulativeOrderProgress.isNear (quantity : ℚ) (source : CumulativeOrderProgress) : Bool :=
  ((source.cumulativeQuantity.max (.finite 0)).sub (.finite quantity)).abs.le
    (.finite (max (quantity * (1 / 1000000000)) (1 / 1000000000000)))

/-- The sources that the other fields are taken from first. -/
def highestSources (sources : List CumulativeOrderProgress) : List CumulativeOrderProgress :=
  if 0 < highestQuantity sources then
    let highest := sources.filter (CumulativeOrderProgress.isNear (highestQuantity sources))
    if highest.isEmpty then sources else highest
  else sources

/-- The highest-ranking kind among the sources. -/
def bestSource (sources : List CumulativeOrderProgress) : ProgressSource :=
  if sources.any (fun source => source.source = .reconciliation) then .reconciliation
  else if sources.any (fun source => source.source = .restSnapshot) then .restSnapshot
  else .privateWs

/-- The merged progress of sources of which there is at least one. -/
def mergedProgress (sources : List CumulativeOrderProgress) : CumulativeOrderProgress :=
  let highest := highestSources sources
  { orderId := firstFrom (fun source => source.orderId.filter usableText) highest sources
    clientOrderId := firstFrom (fun source => source.clientOrderId.filter usableText) highest sources
    cumulativeQuantity := .finite (highestQuantity sources)
    averagePrice := firstFrom (fun source => source.averagePrice.filter usablePrice) highest sources
    feeQuote := highest.findSome? (fun source => source.feeQuote.filter usableFee)
    state := firstFrom (fun source => source.state) highest sources
    updatedAtMs := latestFrom (fun source => source.updatedAtMs) highest sources
    lastFillAtMs := latestFrom (fun source => source.lastFillAtMs.filter usableTime) highest sources
    source := bestSource highest }

def resolveCumulativeOrderProgress (sources : List CumulativeOrderProgress) :
    Option CumulativeOrderProgress :=
  if sources.isEmpty then none else some (mergedProgress sources)

/-- The sources of a passive order, in the order of their rank. -/
def passiveSources (detailProgress : CumulativeOrderProgress)
    (reconciliation : Option ReconciledProgress)
    (privateProgress : Option CumulativeOrderProgress) : List CumulativeOrderProgress :=
  (reconciliation.map CumulativeOrderProgress.fromReconciliation).toList ++
    detailProgress :: privateProgress.toList

def mergePassiveProgressSources (detailProgress : CumulativeOrderProgress)
    (reconciliation : Option ReconciledProgress)
    (privateProgress : Option CumulativeOrderProgress) : CumulativeOrderProgress :=
  (resolveCumulativeOrderProgress
    (passiveSources detailProgress reconciliation privateProgress)).getD detailProgress

/-! ## What a merge answers -/

theorem highest_from (sources : List CumulativeOrderProgress) (start : ℚ) :
    sources.foldl (fun highest source =>
      if highest < source.cumulativeQuantity.toRat then source.cumulativeQuantity.toRat
      else highest) start = (sources.map (·.cumulativeQuantity.toRat)).foldl max start := by
  induction sources generalizing start with
  | nil => rfl
  | cons source rest ih =>
    rw [List.foldl_cons, ih, List.map_cons, List.foldl_cons, max_def_lt]

/-- Zero and the finite quantities have this maximum. -/
theorem highestQuantity_max (sources : List CumulativeOrderProgress) :
    (0 :: sources.map (·.cumulativeQuantity.toRat)).max? = some (highestQuantity sources) := by
  rw [highestQuantity, highest_from, List.max?_cons']

theorem highestQuantity_spec (sources : List CumulativeOrderProgress) :
    highestQuantity sources ∈ 0 :: sources.map (·.cumulativeQuantity.toRat) ∧
      ∀ quantity ∈ 0 :: sources.map (·.cumulativeQuantity.toRat),
        quantity ≤ highestQuantity sources :=
  List.max?_eq_some_iff.mp (highestQuantity_max sources)

theorem highestQuantity_nonneg (sources : List CumulativeOrderProgress) :
    0 ≤ highestQuantity sources :=
  (highestQuantity_spec sources).2 0 List.mem_cons_self

theorem quantity_le_highest {sources : List CumulativeOrderProgress}
    {source : CumulativeOrderProgress} (member : source ∈ sources) :
    source.cumulativeQuantity.toRat ≤ highestQuantity sources :=
  (highestQuantity_spec sources).2 _ (List.mem_cons_of_mem _ (List.mem_map_of_mem member))

/-- A positive maximum is a source's quantity. -/
theorem highestQuantity_attained {sources : List CumulativeOrderProgress}
    (positive : 0 < highestQuantity sources) :
    ∃ source ∈ sources, source.cumulativeQuantity = .finite (highestQuantity sources) := by
  rcases List.mem_cons.mp (highestQuantity_spec sources).1 with zero | member
  · exact absurd zero positive.ne'
  · obtain ⟨source, inside, same⟩ := List.mem_map.mp member
    refine ⟨source, inside, ?_⟩
    rw [← same]
    cases quantity : source.cumulativeQuantity with
    | finite value => rfl
    | infinite negative =>
      rw [← same, quantity] at positive
      exact absurd positive (lt_irrefl _)
    | notANumber =>
      rw [← same, quantity] at positive
      exact absurd positive (lt_irrefl _)

theorem highestQuantity_perm {sources others : List CumulativeOrderProgress}
    (same : sources.Perm others) : highestQuantity sources = highestQuantity others := by
  have members : ∀ quantity, quantity ∈ 0 :: sources.map (·.cumulativeQuantity.toRat) ↔
      quantity ∈ 0 :: others.map (·.cumulativeQuantity.toRat) := fun quantity =>
    ((same.map _).cons 0).mem_iff
  obtain ⟨member, above⟩ := highestQuantity_spec others
  have maximum := (List.max?_eq_some_iff (a := highestQuantity others)).mpr
    ⟨(members _).mpr member, fun quantity inside => above quantity ((members quantity).mp inside)⟩
  rw [highestQuantity_max] at maximum
  exact Option.some.inj maximum

/-- A source that reports exactly the quantity is near it. -/
theorem isNear_self {source : CumulativeOrderProgress} {quantity : ℚ} (positive : 0 ≤ quantity)
    (reports : source.cumulativeQuantity = .finite quantity) : source.isNear quantity = true := by
  have widens : (0 : ℚ) ≤ max (quantity * (1 / 1000000000)) (1 / 1000000000000) :=
    le_max_of_le_right (by norm_num)
  rw [CumulativeOrderProgress.isNear, reports, ExactFloat.max_finite, max_eq_left positive,
    ExactFloat.sub_finite, sub_self, ExactFloat.abs_finite, abs_zero, ExactFloat.le_finite]
  exact decide_eq_true widens

/-- With a positive maximum the preferred sources are those near it. -/
theorem highestSources_positive {sources : List CumulativeOrderProgress}
    (positive : 0 < highestQuantity sources) :
    highestSources sources =
      sources.filter (CumulativeOrderProgress.isNear (highestQuantity sources)) := by
  obtain ⟨source, member, reports⟩ := highestQuantity_attained positive
  have kept : source ∈ sources.filter (CumulativeOrderProgress.isNear (highestQuantity sources)) :=
    List.mem_filter.mpr ⟨member, isNear_self positive.le reports⟩
  rw [highestSources, if_pos positive]
  exact if_neg (by simpa using List.ne_nil_of_mem kept)

theorem highestSources_zero {sources : List CumulativeOrderProgress}
    (zero : ¬ 0 < highestQuantity sources) : highestSources sources = sources := by
  rw [highestSources, if_neg zero]

theorem highestSources_perm {sources others : List CumulativeOrderProgress}
    (same : sources.Perm others) : (highestSources sources).Perm (highestSources others) := by
  have quantity := highestQuantity_perm same
  by_cases positive : 0 < highestQuantity sources
  · rw [highestSources_positive positive, highestSources_positive (quantity ▸ positive), quantity]
    exact same.filter _
  · rw [highestSources_zero positive, highestSources_zero (quantity ▸ positive)]
    exact same

theorem bestSource_perm {sources others : List CumulativeOrderProgress}
    (same : sources.Perm others) : bestSource sources = bestSource others := by
  rw [bestSource, bestSource, same.any_eq, same.any_eq]

theorem resolve_some {sources : List CumulativeOrderProgress} {progress : CumulativeOrderProgress} :
    resolveCumulativeOrderProgress sources = some progress ↔
      sources ≠ [] ∧ mergedProgress sources = progress := by
  cases sources with
  | nil => simp [resolveCumulativeOrderProgress]
  | cons source rest => simp [resolveCumulativeOrderProgress]

/-- The order in which sources are listed decides neither the quantity nor the times nor the kind
of the merged progress; the quantity is the largest finite one. -/
theorem resolve_order_independent {sources others : List CumulativeOrderProgress}
    {progress : CumulativeOrderProgress} (same : sources.Perm others)
    (resolved : resolveCumulativeOrderProgress sources = some progress) :
    ∃ again, resolveCumulativeOrderProgress others = some again ∧
      again.cumulativeQuantity = progress.cumulativeQuantity ∧
      again.updatedAtMs = progress.updatedAtMs ∧ again.lastFillAtMs = progress.lastFillAtMs ∧
      again.source = progress.source ∧
      ∀ source ∈ others, ∀ quantity, source.cumulativeQuantity = .finite quantity →
        (ExactFloat.finite quantity).le again.cumulativeQuantity = true := by
  obtain ⟨nonempty, merged⟩ := resolve_some.mp resolved
  have listed : others ≠ [] := fun empty => nonempty (List.Perm.eq_nil (empty ▸ same))
  subst merged
  refine ⟨mergedProgress others, resolve_some.mpr ⟨listed, rfl⟩, ?_, ?_, ?_, ?_, ?_⟩
  · exact congrArg ExactFloat.finite (highestQuantity_perm same.symm)
  · exact latestFrom_perm _ (highestSources_perm same.symm) same.symm
  · exact latestFrom_perm _ (highestSources_perm same.symm) same.symm
  · exact bestSource_perm (highestSources_perm same.symm)
  · intro source member quantity reports
    have below := quantity_le_highest member
    rw [reports, ExactFloat.toRat_finite] at below
    exact decide_eq_true below

/-- A snapshot of an order before its last fill. -/
def snapshotProgress : CumulativeOrderProgress :=
  .fromPositionSnapshot (some "7") none (.finite 1) none none (some 4)

def streamedProgress : CumulativeOrderProgress where
  clientOrderId := some "entry"
  cumulativeQuantity := .finite 2
  updatedAtMs := some 9
  lastFillAtMs := some 9

theorem resolve_order_independent_swapped :
    ∃ again, resolveCumulativeOrderProgress [streamedProgress, snapshotProgress] = some again ∧
      again.cumulativeQuantity = .finite 2 ∧ again.updatedAtMs = some 9 := by
  obtain ⟨again, resolved, quantity, updated, _⟩ := resolve_order_independent
    (List.Perm.swap streamedProgress snapshotProgress [])
    (show resolveCumulativeOrderProgress [snapshotProgress, streamedProgress] =
      some (mergedProgress [snapshotProgress, streamedProgress]) from rfl)
  exact ⟨again, resolved, quantity.trans (by decide +kernel), updated.trans (by decide +kernel)⟩

theorem merge_eq (detailProgress : CumulativeOrderProgress)
    (reconciliation : Option ReconciledProgress)
    (privateProgress : Option CumulativeOrderProgress) :
    mergePassiveProgressSources detailProgress reconciliation privateProgress =
      mergedProgress (passiveSources detailProgress reconciliation privateProgress) := by
  have listed : passiveSources detailProgress reconciliation privateProgress ≠ [] := by
    simp [passiveSources]
  rw [mergePassiveProgressSources, resolve_some.mpr ⟨listed, rfl⟩, Option.getD_some]

/-- A reconciliation that reports about the merged quantity decides its kind and its price. -/
theorem merge_reconciled {detailProgress : CumulativeOrderProgress} {recon : ReconciledProgress}
    {privateProgress : Option CumulativeOrderProgress}
    (near : (CumulativeOrderProgress.fromReconciliation recon).isNear
      (highestQuantity (passiveSources detailProgress (some recon) privateProgress)) = true) :
    (mergedProgress (passiveSources detailProgress (some recon) privateProgress)).source =
        .reconciliation ∧
      (usablePrice recon.averagePrice = true →
        (mergedProgress (passiveSources detailProgress (some recon) privateProgress)).averagePrice =
          some recon.averagePrice) := by
  have listed : passiveSources detailProgress (some recon) privateProgress =
      CumulativeOrderProgress.fromReconciliation recon :: detailProgress :: privateProgress.toList :=
    rfl
  rw [listed] at near ⊢
  -- It is the first of the preferred sources, also where nothing is filled and all are.
  obtain ⟨others, preferred⟩ : ∃ others, highestSources
      (CumulativeOrderProgress.fromReconciliation recon :: detailProgress ::
        privateProgress.toList) = CumulativeOrderProgress.fromReconciliation recon :: others := by
    by_cases positive : 0 < highestQuantity
        (CumulativeOrderProgress.fromReconciliation recon :: detailProgress ::
          privateProgress.toList)
    · rw [highestSources_positive positive, List.filter_cons_of_pos near]
      exact ⟨_, rfl⟩
    · exact ⟨_, highestSources_zero positive⟩
  constructor
  · change bestSource _ = _
    rw [preferred, bestSource, if_pos (by simp [CumulativeOrderProgress.fromReconciliation])]
  · intro usable
    change firstFrom _ _ _ = _
    have own : (CumulativeOrderProgress.fromReconciliation recon).averagePrice.filter usablePrice =
        some recon.averagePrice := Option.filter_eq_some_iff.mpr ⟨rfl, usable⟩
    rw [preferred, firstFrom, List.findSome?_cons, own, Option.some_or]

/-- The merged progress of a passive order reports the largest finite quantity of its sources, or
zero where none is positive. A reconciliation that reports about this quantity decides the rest. -/
theorem merge_quantity (detailProgress : CumulativeOrderProgress)
    (reconciliation : Option ReconciledProgress)
    (privateProgress : Option CumulativeOrderProgress) :
    ∃ quantity,
      (mergePassiveProgressSources detailProgress reconciliation privateProgress).cumulativeQuantity =
        .finite quantity ∧ 0 ≤ quantity ∧
      (∀ source ∈ passiveSources detailProgress reconciliation privateProgress,
        source.cumulativeQuantity.toRat ≤ quantity) ∧
      (0 < quantity → ∃ source ∈ passiveSources detailProgress reconciliation privateProgress,
        source.cumulativeQuantity = .finite quantity) ∧
      ∀ recon, reconciliation = some recon →
        (CumulativeOrderProgress.fromReconciliation recon).isNear quantity = true →
        (mergePassiveProgressSources detailProgress reconciliation privateProgress).source =
            .reconciliation ∧
          (usablePrice recon.averagePrice = true →
            (mergePassiveProgressSources detailProgress reconciliation privateProgress).averagePrice =
              some recon.averagePrice) := by
  rw [merge_eq]
  refine ⟨highestQuantity _, rfl, highestQuantity_nonneg _, fun source => quantity_le_highest,
    highestQuantity_attained, ?_⟩
  rintro recon rfl near
  exact merge_reconciled near

end LightFee.MarketData
