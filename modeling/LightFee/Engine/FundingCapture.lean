import LightFee.Engine.EngineState
import Mathlib.Tactic.Linarith
import Mathlib.Tactic.Ring

/-!
# Capturing funding

A position captures its funding in one stage or two, each when its time and a hold have passed.
What a call captures is booked into the running result. Polling more often captures the same: the
second stage is never due before the first, and a stage that is captured stays as it is.
-/

namespace LightFee.Engine

/-! ## The update -/

def FundingLifecycle.positionPositiveMs (value : Int) : Int := if value ≤ 0 then 0 else value

namespace OpenPosition

def pairedEntryNotionalQuote (position : OpenPosition) : ExactFloat :=
  if (ExactFloat.finite 0).lt position.entryNotionalQuote then position.entryNotionalQuote
  else if position.matchedQuantity.le (.finite 0) || position.longEntryPrice.le (.finite 0) ||
      position.shortEntryPrice.le (.finite 0) then .finite 0
  else (position.matchedQuantity.mul
    (position.longEntryPrice.add position.shortEntryPrice)).mul (.finite (1 / 2))

/-- The first stage is captured when its hold is over. -/
def captureFirstStage (position : OpenPosition) (entryNotional : ExactFloat)
    (fundingMs nowMs holdMs : Int) : OpenPosition :=
  if !position.fundingCaptured ∧ fundingMs + holdMs ≤ nowMs then
    { position with
      fundingCaptured := true
      capturedFundingQuote :=
        (entryNotional.mul position.fundingEdgeBpsEntry).div (.finite 10000) }
  else position

/-- The second stage follows the first, when it is enabled and its time is a later one. -/
def captureSecondStage (position : OpenPosition) (entryNotional : ExactFloat)
    (fundingMs nowMs holdMs : Int) : OpenPosition :=
  if position.fundingCaptured && position.secondStageEnabledAtEntry &&
      !position.secondStageFundingCaptured then
    let secondFundingMs := FundingLifecycle.positionPositiveMs position.secondFundingTimestampMs
    if fundingMs < secondFundingMs ∧ secondFundingMs + holdMs ≤ nowMs then
      { position with
        secondStageFundingCaptured := true
        secondStageFundingQuote := (entryNotional.mul
          (position.totalFundingEdgeBpsEntry.sub position.fundingEdgeBpsEntry)).div
            (.finite 10000)
        peakNetQuote := position.peakNetQuote.max position.currentNetQuote }
    else position
  else position

/-- What was captured since a total is booked. -/
def bookFunding (position : OpenPosition) (previousTotal : ExactFloat) : OpenPosition :=
  let delta := (position.capturedFundingQuote.add position.secondStageFundingQuote).sub
    previousTotal
  if (ExactFloat.finite 0).lt delta.abs then
    let net := position.currentNetQuote.add delta
    { position with
      currentNetQuote := net
      peakNetQuote := if position.peakNetQuote.lt net then net else position.peakNetQuote }
  else position

end OpenPosition

def updatePositionFundingCaptureState (position : OpenPosition) (nowMs holdMs : Int) :
    OpenPosition :=
  let previousTotal := position.capturedFundingQuote.add position.secondStageFundingQuote
  let entryNotional := position.pairedEntryNotionalQuote
  let fundingMs := FundingLifecycle.positionPositiveMs position.fundingTimestampMs
  if fundingMs ≤ 0 then position
  else
    ((position.captureFirstStage entryNotional fundingMs nowMs holdMs).captureSecondStage
      entryNotional fundingMs nowMs holdMs).bookFunding previousTotal

/-- One call for each time. -/
def pollFunding (holdMs : Int) (position : OpenPosition) (times : List Int) : OpenPosition :=
  times.foldl (fun current nowMs => updatePositionFundingCaptureState current nowMs holdMs) position

/-! ## Stages of funding -/

/-- The amounts of two stages and when they are due; the second is never due first. -/
structure FundingTerms where
  firstAmount : ℚ
  secondAmount : ℚ
  firstDue : Int → Bool
  secondDue : Int → Bool
  firstStays : ∀ {nowMs laterMs}, nowMs ≤ laterMs → firstDue nowMs = true → firstDue laterMs = true
  secondStays : ∀ {nowMs laterMs}, nowMs ≤ laterMs → secondDue nowMs = true →
    secondDue laterMs = true
  inOrder : ∀ {nowMs}, secondDue nowMs = true → firstDue nowMs = true

/-- What is captured, and the running result. -/
structure FundingStages where
  firstCaptured : Bool
  secondCaptured : Bool
  first : ℚ
  second : ℚ
  net : ℚ
  peak : ℚ

namespace FundingStages

/-- A call captures what is due and books it. -/
def capture (terms : FundingTerms) (stages : FundingStages) (nowMs : Int) : FundingStages :=
  let firstCaptured := stages.firstCaptured || terms.firstDue nowMs
  let secondNow := firstCaptured && !stages.secondCaptured && terms.secondDue nowMs
  let first := if stages.firstCaptured then stages.first
    else if terms.firstDue nowMs then terms.firstAmount else stages.first
  let second := if secondNow then terms.secondAmount else stages.second
  let net := stages.net + (first + second - (stages.first + stages.second))
  let peak := if secondNow then max stages.peak stages.net else stages.peak
  { firstCaptured := firstCaptured
    secondCaptured := stages.secondCaptured || secondNow
    first := first
    second := second
    net := net
    peak := if net = stages.net then peak else max peak net }

/-- Everything but the peak. -/
structure Same (left right : FundingStages) : Prop where
  firstCaptured : left.firstCaptured = right.firstCaptured
  secondCaptured : left.secondCaptured = right.secondCaptured
  first : left.first = right.first
  second : left.second = right.second
  net : left.net = right.net

theorem ite_or_amount (left right : Bool) (amount other : ℚ) :
    (if left then amount else if right then amount else other) =
      if left || right then amount else other := by
  cases left <;> rfl

/-- The flags of two calls are those of the later one. -/
theorem flags_capture (firstCaptured secondCaptured firstNow firstLater secondNow secondLater : Bool)
    (firstStays : firstNow = true → firstLater = true)
    (secondStays : secondNow = true → secondLater = true)
    (inOrder : secondNow = true → firstNow = true) :
    ((firstCaptured || firstNow) || firstLater) = (firstCaptured || firstLater) ∧
      (((firstCaptured || firstNow) || firstLater) &&
          !(secondCaptured || ((firstCaptured || firstNow) && !secondCaptured && secondNow)) &&
          secondLater || ((firstCaptured || firstNow) && !secondCaptured && secondNow)) =
        ((firstCaptured || firstLater) && !secondCaptured && secondLater) := by
  revert firstCaptured secondCaptured firstNow firstLater secondNow secondLater
  decide

/-- A call on the way captures nothing that the later one would not. -/
theorem capture_capture (terms : FundingTerms) (stages : FundingStages) {nowMs laterMs : Int}
    (ordered : nowMs ≤ laterMs) :
    Same ((stages.capture terms nowMs).capture terms laterMs) (stages.capture terms laterMs) := by
  have firstStays := @terms.firstStays nowMs laterMs ordered
  obtain ⟨firstFlag, secondFlag⟩ := flags_capture stages.firstCaptured stages.secondCaptured
    (terms.firstDue nowMs) (terms.firstDue laterMs) (terms.secondDue nowMs)
    (terms.secondDue laterMs) firstStays (@terms.secondStays nowMs laterMs ordered)
    (@terms.inOrder nowMs)
  have first : ((stages.capture terms nowMs).capture terms laterMs).first =
      (stages.capture terms laterMs).first := by
    dsimp only [capture]
    cases stages.firstCaptured with
    | true => rfl
    | false =>
      cases firstNow : terms.firstDue nowMs with
      | true =>
        rw [firstStays firstNow]
        rfl
      | false => rfl
  have second : ((stages.capture terms nowMs).capture terms laterMs).second =
      (stages.capture terms laterMs).second := by
    dsimp only [capture]
    rw [← secondFlag, ← ite_or_amount]
  have seconds : ((stages.capture terms nowMs).capture terms laterMs).secondCaptured =
      (stages.capture terms laterMs).secondCaptured := by
    dsimp only [capture]
    rw [← secondFlag, Bool.or_assoc, Bool.or_comm (_ && _ && _ : Bool) (_ && _ && _ : Bool)]
  refine ⟨firstFlag, seconds, first, second, ?_⟩
  have net (stages : FundingStages) (nowMs : Int) : (stages.capture terms nowMs).net = stages.net +
      ((stages.capture terms nowMs).first + (stages.capture terms nowMs).second -
        (stages.first + stages.second)) := rfl
  rw [net, net stages laterMs, net stages nowMs, first, second]
  ring

/-- What a call books is what it captures, and a captured stage stays as it is. -/
theorem capture_books (terms : FundingTerms) (stages : FundingStages) (nowMs : Int) :
    (stages.capture terms nowMs).net - stages.net =
        (stages.capture terms nowMs).first + (stages.capture terms nowMs).second -
          (stages.first + stages.second) ∧
      (stages.firstCaptured = true → (stages.capture terms nowMs).firstCaptured = true ∧
        (stages.capture terms nowMs).first = stages.first) ∧
      (stages.secondCaptured = true → (stages.capture terms nowMs).secondCaptured = true ∧
        (stages.capture terms nowMs).second = stages.second) := by
  refine ⟨?_, fun captured => ?_, fun captured => ?_⟩
  · simp only [capture]
    ring
  · simp [capture, captured]
  · simp [capture, captured]

theorem capture_peak (terms : FundingTerms) {stages : FundingStages} (nowMs : Int)
    (below : stages.net ≤ stages.peak) :
    (stages.capture terms nowMs).net ≤ (stages.capture terms nowMs).peak := by
  dsimp only [capture]
  generalize (if stages.firstCaptured = true then stages.first
    else if terms.firstDue nowMs = true then terms.firstAmount else stages.first) = first
  generalize ((stages.firstCaptured || terms.firstDue nowMs) && !stages.secondCaptured &&
    terms.secondDue nowMs) = secondNow
  generalize stages.net + (first + (if secondNow = true then terms.secondAmount
    else stages.second) - (stages.first + stages.second)) = net
  by_cases same : net = stages.net
  · rw [if_pos same, same]
    cases secondNow with
    | true => exact le_max_right _ _
    | false => exact below
  · rw [if_neg same]
    exact le_max_right _ _

end FundingStages

/-! ## The stages of a position -/

/-- What the stages of a position depend on. -/
structure FundingInputs where
  entryNotional : ℚ
  edge : ℚ
  totalEdge : ℚ
  fundingMs : Int
  secondFundingMs : Int
  secondEnabled : Bool

/-- The second stage has a later time than the first, so it is never due first. -/
def FundingInputs.terms (inputs : FundingInputs) (holdMs : Int) : FundingTerms where
  firstAmount := inputs.entryNotional * inputs.edge / 10000
  secondAmount := inputs.entryNotional * (inputs.totalEdge - inputs.edge) / 10000
  firstDue nowMs := decide (0 < inputs.fundingMs ∧ inputs.fundingMs + holdMs ≤ nowMs)
  secondDue nowMs := decide (0 < inputs.fundingMs ∧ inputs.secondEnabled = true ∧
    inputs.fundingMs < inputs.secondFundingMs ∧ inputs.secondFundingMs + holdMs ≤ nowMs)
  firstStays ordered due := by
    rw [decide_eq_true_eq] at due ⊢
    exact ⟨due.1, due.2.trans ordered⟩
  secondStays ordered due := by
    rw [decide_eq_true_eq] at due ⊢
    exact ⟨due.1, due.2.1, due.2.2.1, due.2.2.2.trans ordered⟩
  inOrder due := by
    rw [decide_eq_true_eq] at due ⊢
    omega

namespace OpenPosition

/-- The position's inputs are exact, and its entry notional is positive. -/
structure HasFunding (position : OpenPosition) (inputs : FundingInputs) : Prop where
  positive : 0 < inputs.entryNotional
  entryNotional : position.entryNotionalQuote = .finite inputs.entryNotional
  edge : position.fundingEdgeBpsEntry = .finite inputs.edge
  totalEdge : position.totalFundingEdgeBpsEntry = .finite inputs.totalEdge
  fundingMs : position.fundingTimestampMs = inputs.fundingMs
  secondFundingMs : position.secondFundingTimestampMs = inputs.secondFundingMs
  secondEnabled : position.secondStageEnabledAtEntry = inputs.secondEnabled

/-- The position's amounts are exact. -/
structure ReadsFunding (position : OpenPosition) (stages : FundingStages) : Prop where
  firstCaptured : position.fundingCaptured = stages.firstCaptured
  secondCaptured : position.secondStageFundingCaptured = stages.secondCaptured
  first : position.capturedFundingQuote = .finite stages.first
  second : position.secondStageFundingQuote = .finite stages.second
  net : position.currentNetQuote = .finite stages.net
  peak : position.peakNetQuote = .finite stages.peak

variable {position : OpenPosition} {inputs : FundingInputs} {stages : FundingStages}

theorem HasFunding.notional (funded : position.HasFunding inputs) :
    position.pairedEntryNotionalQuote = .finite inputs.entryNotional := by
  rw [pairedEntryNotionalQuote, funded.entryNotional, ExactFloat.lt_finite,
    if_pos (decide_eq_true funded.positive)]

theorem HasFunding.captureFirst (funded : position.HasFunding inputs) (entryNotional : ExactFloat)
    (fundingMs nowMs holdMs : Int) :
    (position.captureFirstStage entryNotional fundingMs nowMs holdMs).HasFunding inputs := by
  unfold captureFirstStage
  split_ifs
  · exact { funded with }
  · exact funded

/-- The update changes no input. -/
theorem HasFunding.update (funded : position.HasFunding inputs) (nowMs holdMs : Int) :
    (updatePositionFundingCaptureState position nowMs holdMs).HasFunding inputs := by
  have second (current : OpenPosition) (kept : current.HasFunding inputs)
      (entryNotional : ExactFloat) (fundingMs : Int) :
      (current.captureSecondStage entryNotional fundingMs nowMs holdMs).HasFunding inputs := by
    unfold captureSecondStage
    dsimp only
    split_ifs
    · exact { kept with }
    · exact kept
    · exact kept
  have booked (current : OpenPosition) (kept : current.HasFunding inputs) (total : ExactFloat) :
      (current.bookFunding total).HasFunding inputs := by
    unfold bookFunding
    dsimp only
    split_ifs
    · exact { kept with }
    · exact { kept with }
    · exact kept
  unfold updatePositionFundingCaptureState
  dsimp only
  split_ifs
  · exact funded
  · exact booked _ (second _ (funded.captureFirst _ _ _ _) _ _) _

/-! ## The update captures the stages -/

theorem ReadsFunding.captureFirst (reads : position.ReadsFunding stages)
    (funded : position.HasFunding inputs) (fundingMs nowMs holdMs : Int) :
    (position.captureFirstStage (.finite inputs.entryNotional) fundingMs nowMs holdMs).ReadsFunding
      { stages with
        firstCaptured := stages.firstCaptured || decide (fundingMs + holdMs ≤ nowMs)
        first := if stages.firstCaptured then stages.first
          else if decide (fundingMs + holdMs ≤ nowMs) then
            inputs.entryNotional * inputs.edge / 10000
          else stages.first } := by
  unfold captureFirstStage
  rw [reads.firstCaptured]
  cases captured : stages.firstCaptured with
  | true =>
    rw [if_neg (by simp)]
    exact { reads with firstCaptured := reads.firstCaptured.trans captured }
  | false =>
    by_cases due : fundingMs + holdMs ≤ nowMs
    · rw [if_pos ⟨rfl, due⟩, decide_eq_true due]
      refine { reads with firstCaptured := rfl, first := ?_ }
      dsimp only
      rw [funded.edge, ExactFloat.mul_finite]
      rfl
    · rw [if_neg (fun both => due both.2), decide_eq_false due]
      exact { reads with firstCaptured := reads.firstCaptured.trans captured }

theorem ReadsFunding.captureSecond (reads : position.ReadsFunding stages)
    (funded : position.HasFunding inputs) (fundingMs nowMs holdMs : Int) :
    let secondNow := stages.firstCaptured && !stages.secondCaptured &&
      decide (inputs.secondEnabled = true ∧
        fundingMs < FundingLifecycle.positionPositiveMs inputs.secondFundingMs ∧
        FundingLifecycle.positionPositiveMs inputs.secondFundingMs + holdMs ≤ nowMs)
    (position.captureSecondStage (.finite inputs.entryNotional) fundingMs nowMs holdMs).ReadsFunding
      { stages with
        secondCaptured := stages.secondCaptured || secondNow
        second := if secondNow then
            inputs.entryNotional * (inputs.totalEdge - inputs.edge) / 10000
          else stages.second
        peak := if secondNow then max stages.peak stages.net else stages.peak } := by
  have kept : position.ReadsFunding { stages with
      secondCaptured := stages.secondCaptured || false
      second := if false then
          inputs.entryNotional * (inputs.totalEdge - inputs.edge) / 10000
        else stages.second
      peak := if false then max stages.peak stages.net else stages.peak } :=
    { reads with secondCaptured := reads.secondCaptured.trans (Bool.or_false _).symm }
  intro secondNow
  have guard : (position.fundingCaptured && position.secondStageEnabledAtEntry &&
      !position.secondStageFundingCaptured) =
        (stages.firstCaptured && inputs.secondEnabled && !stages.secondCaptured) := by
    rw [reads.firstCaptured, reads.secondCaptured, funded.secondEnabled]
  have second := funded.secondFundingMs
  unfold captureSecondStage
  dsimp only
  by_cases open_ : (stages.firstCaptured && inputs.secondEnabled && !stages.secondCaptured) = true
  · rw [if_pos (guard.trans open_)]
    simp only [Bool.and_eq_true, Bool.not_eq_true'] at open_
    obtain ⟨⟨first, enabled⟩, uncaptured⟩ := open_
    by_cases due : fundingMs < FundingLifecycle.positionPositiveMs inputs.secondFundingMs ∧
        FundingLifecycle.positionPositiveMs inputs.secondFundingMs + holdMs ≤ nowMs
    · have now : secondNow = true := by
        simp only [secondNow, first, uncaptured, Bool.true_and, Bool.not_false, decide_eq_true_eq]
        exact ⟨enabled, due⟩
      rw [if_pos (by rwa [second]), now]
      refine { reads with secondCaptured := ?_, second := ?_, peak := ?_ }
      · exact (Bool.or_true _).symm
      · dsimp only
        rw [funded.totalEdge, funded.edge, ExactFloat.sub_finite, ExactFloat.mul_finite]
        rfl
      · dsimp only
        rw [reads.peak, reads.net, ExactFloat.max_finite]
        rfl
    · have later : secondNow = false := by
        simp only [secondNow, Bool.and_eq_false_iff, decide_eq_false_iff_not]
        exact .inr fun both => due both.2
      rw [if_neg (by rwa [second]), later]
      exact kept
  · have later : secondNow = false := by
      rw [Bool.eq_false_iff]
      intro now
      simp only [secondNow, Bool.and_eq_true, decide_eq_true_eq] at now
      refine open_ ?_
      rw [now.1.1, now.2.1, now.1.2]
      rfl
    rw [if_neg (fun holds => open_ (guard.symm.trans holds)), later]
    exact kept

theorem ReadsFunding.book (reads : position.ReadsFunding stages) (total : ℚ) :
    (position.bookFunding (.finite total)).ReadsFunding
      { stages with
        net := stages.net + (stages.first + stages.second - total)
        peak := if stages.net + (stages.first + stages.second - total) = stages.net then stages.peak
          else max stages.peak (stages.net + (stages.first + stages.second - total)) } := by
  have delta : (position.capturedFundingQuote.add position.secondStageFundingQuote).sub
      (.finite total) = .finite (stages.first + stages.second - total) := by
    rw [reads.first, reads.second, ExactFloat.add_finite, ExactFloat.sub_finite]
  unfold bookFunding
  rw [delta]
  generalize stages.first + stages.second - total = delta
  dsimp only
  rw [ExactFloat.abs_finite, ExactFloat.lt_finite]
  by_cases nothing : delta = 0
  · have unmoved : ¬ (decide (0 < |delta|) = true) := by
      rw [nothing, abs_zero]
      decide
    rw [if_neg unmoved, nothing, add_zero, if_pos rfl]
    exact reads
  · have moved : ¬ (stages.net + delta = stages.net) := by
      intro same
      exact nothing (by linarith)
    rw [if_pos (decide_eq_true (abs_pos.mpr nothing)), if_neg moved]
    refine { reads with net := ?_, peak := ?_ }
    · dsimp only
      rw [reads.net, ExactFloat.add_finite]
    · dsimp only
      rw [reads.net, reads.peak, ExactFloat.add_finite, ExactFloat.lt_finite]
      rcases lt_or_ge stages.peak (stages.net + delta) with raised | stays
      · rw [if_pos (decide_eq_true raised), max_eq_right raised.le]
      · rw [if_neg (by rw [decide_eq_true_eq]; exact not_lt.mpr stays), max_eq_left stays]

/-- One call captures the stages that are due. -/
theorem ReadsFunding.update (reads : position.ReadsFunding stages)
    (funded : position.HasFunding inputs) (nowMs holdMs : Int) :
    (updatePositionFundingCaptureState position nowMs holdMs).ReadsFunding
      (stages.capture (inputs.terms holdMs) nowMs) := by
  unfold updatePositionFundingCaptureState
  dsimp only
  rw [funded.notional, funded.fundingMs, reads.first, reads.second, ExactFloat.add_finite]
  by_cases timed : 0 < inputs.fundingMs
  · have fundingMs : FundingLifecycle.positionPositiveMs inputs.fundingMs = inputs.fundingMs :=
      if_neg (not_le.mpr timed)
    have firstDue : (inputs.terms holdMs).firstDue nowMs =
        decide (inputs.fundingMs + holdMs ≤ nowMs) := by
      simp only [FundingInputs.terms, timed, true_and]
    have secondDue : (inputs.terms holdMs).secondDue nowMs = decide (inputs.secondEnabled = true ∧
        inputs.fundingMs < FundingLifecycle.positionPositiveMs inputs.secondFundingMs ∧
        FundingLifecycle.positionPositiveMs inputs.secondFundingMs + holdMs ≤ nowMs) := by
      simp only [FundingInputs.terms, timed, true_and]
      refine decide_eq_decide.mpr (and_congr_right fun _ => ?_)
      unfold FundingLifecycle.positionPositiveMs
      split_ifs <;> omega
    have first := reads.captureFirst funded inputs.fundingMs nowMs holdMs
    have second := first.captureSecond
      (funded.captureFirst (.finite inputs.entryNotional) inputs.fundingMs nowMs holdMs)
      inputs.fundingMs nowMs holdMs
    have booked := second.book (stages.first + stages.second)
    rw [fundingMs, if_neg (not_le.mpr timed), FundingStages.capture, firstDue, secondDue]
    exact booked
  · have fundingMs : FundingLifecycle.positionPositiveMs inputs.fundingMs = 0 :=
      if_pos (not_lt.mp timed)
    have nothing : stages.capture (inputs.terms holdMs) nowMs = stages := by
      simp [FundingStages.capture, FundingInputs.terms, timed]
    rw [fundingMs, if_pos (le_refl 0), nothing]
    exact reads

/-- Polls capture like their stages. -/
theorem ReadsFunding.poll (reads : position.ReadsFunding stages)
    (funded : position.HasFunding inputs) (holdMs : Int) (times : List Int) :
    (pollFunding holdMs position times).ReadsFunding
      (times.foldl (FundingStages.capture (inputs.terms holdMs)) stages) := by
  induction times generalizing position stages with
  | nil => exact reads
  | cons nowMs rest ih =>
    exact ih (reads.update funded nowMs holdMs) (funded.update nowMs holdMs)

end OpenPosition

namespace FundingStages

variable (terms : FundingTerms)

/-- Polls before a time capture nothing that the poll at it would not. -/
theorem capture_polls {stages : FundingStages} {times : List Int} {last : Int}
    (sorted : (times ++ [last]).Pairwise (· ≤ ·)) :
    Same ((times ++ [last]).foldl (capture terms) stages) (stages.capture terms last) := by
  induction times generalizing stages with
  | nil => exact ⟨rfl, rfl, rfl, rfl, rfl⟩
  | cons nowMs rest ih =>
    obtain ⟨first, restSorted⟩ := List.pairwise_cons.mp sorted
    have once := capture_capture terms stages
      (first last (List.mem_append_right _ List.mem_cons_self))
    have polled := @ih (stages.capture terms nowMs) restSorted
    exact ⟨polled.firstCaptured.trans once.firstCaptured,
      polled.secondCaptured.trans once.secondCaptured, polled.first.trans once.first,
      polled.second.trans once.second, polled.net.trans once.net⟩

/-- Polls book what they capture, keep what was captured, and keep the peak above. -/
theorem polls_book (stages : FundingStages) (times : List Int) :
    let after := times.foldl (capture terms) stages
    after.net - stages.net = after.first + after.second - (stages.first + stages.second) ∧
      (stages.firstCaptured = true → after.firstCaptured = true ∧ after.first = stages.first) ∧
      (stages.secondCaptured = true → after.secondCaptured = true ∧ after.second = stages.second) ∧
      (stages.net ≤ stages.peak → after.net ≤ after.peak) := by
  induction times generalizing stages with
  | nil =>
    refine ⟨?_, fun captured => ⟨captured, rfl⟩, fun captured => ⟨captured, rfl⟩, fun below => below⟩
    simp only [List.foldl_nil, sub_self]
  | cons nowMs rest ih =>
    obtain ⟨booked, first, second⟩ := capture_books terms stages nowMs
    obtain ⟨restBooked, restFirst, restSecond, restPeak⟩ :=
      ih (stages.capture terms nowMs)
    refine ⟨?_, fun captured => ?_, fun captured => ?_, fun below => ?_⟩
    · rw [List.foldl_cons]
      linarith
    · obtain ⟨now, same⟩ := first captured
      exact ⟨(restFirst now).1, (restFirst now).2.trans same⟩
    · obtain ⟨now, same⟩ := second captured
      exact ⟨(restSecond now).1, (restSecond now).2.trans same⟩
    · exact restPeak (capture_peak terms nowMs below)

end FundingStages

/-- Funding is captured once for each stage, however often the position is polled. -/
theorem funding_captured_once {position : OpenPosition} {inputs : FundingInputs}
    {stages : FundingStages} (funded : position.HasFunding inputs)
    (reads : position.ReadsFunding stages) (holdMs : Int) {times : List Int} {last : Int}
    (sorted : (times ++ [last]).Pairwise (· ≤ ·)) :
    let after := pollFunding holdMs position (times ++ [last])
    let once := updatePositionFundingCaptureState position last holdMs
    (after.fundingCaptured = once.fundingCaptured ∧
      after.secondStageFundingCaptured = once.secondStageFundingCaptured ∧
      after.capturedFundingQuote = once.capturedFundingQuote ∧
      after.secondStageFundingQuote = once.secondStageFundingQuote ∧
      after.currentNetQuote = once.currentNetQuote) ∧
    after.currentNetQuote.sub position.currentNetQuote =
      (after.capturedFundingQuote.add after.secondStageFundingQuote).sub
        (position.capturedFundingQuote.add position.secondStageFundingQuote) ∧
    (∀ earlier later, times ++ [last] = earlier ++ later →
      let between := pollFunding holdMs position earlier
      (between.fundingCaptured = true → after.fundingCaptured = true ∧
        after.capturedFundingQuote = between.capturedFundingQuote) ∧
      (between.secondStageFundingCaptured = true → after.secondStageFundingCaptured = true ∧
        after.secondStageFundingQuote = between.secondStageFundingQuote)) ∧
    (position.currentNetQuote.le position.peakNetQuote = true →
      after.currentNetQuote.le after.peakNetQuote = true) := by
  intro after once
  have polled := reads.poll funded holdMs (times ++ [last])
  have single := reads.update funded last holdMs
  have same := @FundingStages.capture_polls (inputs.terms holdMs) stages _ _ sorted
  obtain ⟨booked, -, -, peak⟩ :=
    FundingStages.polls_book (inputs.terms holdMs) stages (times ++ [last])
  refine ⟨⟨?_, ?_, ?_, ?_, ?_⟩, ?_, fun earlier later split => ?_, fun below => ?_⟩
  · exact (polled.firstCaptured.trans same.firstCaptured).trans single.firstCaptured.symm
  · exact (polled.secondCaptured.trans same.secondCaptured).trans single.secondCaptured.symm
  · rw [polled.first, same.first, single.first]
  · rw [polled.second, same.second, single.second]
  · rw [polled.net, same.net, single.net]
  · rw [polled.net, polled.first, polled.second, reads.net, reads.first, reads.second,
      ExactFloat.sub_finite, ExactFloat.add_finite, ExactFloat.add_finite, ExactFloat.sub_finite,
      booked]
  · have between := reads.poll funded holdMs earlier
    obtain ⟨-, first, second, -⟩ := FundingStages.polls_book (inputs.terms holdMs)
      (earlier.foldl (FundingStages.capture (inputs.terms holdMs)) stages) later
    rw [← List.foldl_append, ← split] at first second
    dsimp only
    rw [polled.firstCaptured, polled.first, polled.secondCaptured, polled.second,
      between.firstCaptured, between.first, between.secondCaptured, between.second]
    refine ⟨fun captured => ?_, fun captured => ?_⟩
    · exact ⟨(first captured).1, congrArg ExactFloat.finite (first captured).2⟩
    · exact ⟨(second captured).1, congrArg ExactFloat.finite (second captured).2⟩
  · rw [reads.net, reads.peak, ExactFloat.le_finite, decide_eq_true_eq] at below
    rw [polled.net, polled.peak, ExactFloat.le_finite, decide_eq_true_eq]
    exact peak below

/-- A staggered position with a second stage. -/
def staggeredPosition : OpenPosition where
  positionId := "p1"
  symbol := "HOMEUSDT"
  longVenue := .bybit
  shortVenue := .bitget
  longQuantity := .finite 2
  shortQuantity := .finite 2
  longEntryPrice := .finite 100
  shortEntryPrice := .finite 110
  openedAtMs := 0
  entryNotionalQuote := .finite 210
  fundingEdgeBpsEntry := .finite 10
  totalFundingEdgeBpsEntry := .finite 6
  fundingTimestampMs := 1000
  secondStageEnabledAtEntry := true
  secondFundingTimestampMs := 2000

theorem funding_captured_once_staggered :
    (pollFunding 30 staggeredPosition ([500, 1030] ++ [2030])).currentNetQuote =
      (updatePositionFundingCaptureState staggeredPosition 2030 30).currentNetQuote :=
  (@funding_captured_once staggeredPosition ⟨210, 10, 6, 1000, 2000, true⟩
    ⟨false, false, 0, 0, 0, 0⟩ ⟨by decide, rfl, rfl, rfl, rfl, rfl, rfl⟩
    ⟨rfl, rfl, rfl, rfl, rfl, rfl⟩ 30 [500, 1030] 2030 (by decide)).1.2.2.2.2

example : (updatePositionFundingCaptureState staggeredPosition 2030 30).currentNetQuote =
    .finite (63 / 500) := by
  decide +kernel

end LightFee.Engine
