import LightFee.Engine.RiskActions

/-!
# Worse health, harder action

The lines rate a smaller ratio no milder, and the ratio falls with the equity. Both hold
as long as the ratio is positive: a ratio of zero or less counts as no ratio at all, and
the account is rated by everything else.
-/

namespace LightFee.Engine

open LightFee.Venues

/-! ## Lowering the equity -/

/-- An account as its adapter reports it, up to its equity. The ratio is named by the adapter
or left to the snapshot. -/
structure AccountReport where
  venue : Venue
  maintenanceMarginQuote : ExactFloat
  observedAtMs : Int
  namesRatio : Bool := true
  stale : Bool := false
  zeroMaintenanceIsNormal : Bool := false

namespace AccountReport

def healthRatio (report : AccountReport) (equity : ExactFloat) : ExactFloat :=
  equity.div report.maintenanceMarginQuote

def snapshot (report : AccountReport) (equity : ExactFloat) : AccountRiskSnapshot :=
  AccountRiskSnapshot.postInit
    { venue := report.venue
      equityQuote := equity
      maintenanceMarginQuote := report.maintenanceMarginQuote
      healthRatio := if report.namesRatio then report.healthRatio equity else .finite 0
      observedAtMs := report.observedAtMs
      stale := report.stale
      zeroMaintenanceIsNormal := report.zeroMaintenanceIsNormal }

/-- A positive margin, and a snapshot that is not too old. -/
structure Live (report : AccountReport) (strategy : RiskStrategy) (nowMs : Int) : Prop where
  margin : (ExactFloat.finite 0).lt report.maintenanceMarginQuote = true
  fresh : (report.snapshot (.finite 0)).isEffectivelyStale nowMs strategy.maxRiskSnapshotAgeMs =
    false

def AtDeathLine (report : AccountReport) (strategy : RiskStrategy) (equity : ExactFloat) : Prop :=
  equity.le (strategy.deathHealthRatio.mul report.maintenanceMarginQuote) = true

end AccountReport

section Venue

variable (strategy : RiskStrategy) (input : VenueHealthInput) (report : AccountReport)
  (lower higher : ExactFloat)

def venueAction (equity : ExactFloat) : VenueHealthAction :=
  (evaluateVenueHealth strategy input (some (report.snapshot equity))).action

/-- A lower equity of the account acts no milder on its venue. -/
def VenueActsHarder : Prop :=
  (venueAction strategy input report higher).severity ≤
      (venueAction strategy input report lower).severity ∧
    (report.AtDeathLine strategy lower →
      venueAction strategy input report lower = .failClosed)

end Venue

/-- Which account of a position is meant. -/
inductive AccountLeg where
  | long
  | short

section Position

variable (strategy : RiskStrategy) (nowMs : Int) (leg : AccountLeg)
  (report other : AccountReport) (lower higher otherEquity : ExactFloat)

def positionAction (equity : ExactFloat) : RiskAction :=
  match leg with
  | .long => (evaluatePositionRisk strategy nowMs true true (report.snapshot equity)
      (other.snapshot otherEquity)).activeAction
  | .short => (evaluatePositionRisk strategy nowMs true true (other.snapshot otherEquity)
      (report.snapshot equity)).activeAction

/-- A lower equity of one leg's account acts no milder on the position. -/
def PositionActsHarder : Prop :=
  (positionAction strategy nowMs leg report other otherEquity higher).severity ≤
      (positionAction strategy nowMs leg report other otherEquity lower).severity ∧
    (report.AtDeathLine strategy lower →
      positionAction strategy nowMs leg report other otherEquity lower = .singleSideProtection)

end Position

/-! ## The condition -/

/-- The ratio counts. -/
def AccountReport.Counted (report : AccountReport) (equity : ExactFloat) : Prop :=
  (ExactFloat.finite 0).lt (report.healthRatio equity) = true

/-- How severe the lines are about a ratio. -/
def lineSeverity (strategy : RiskStrategy) (ratio : ExactFloat) : Nat :=
  if ratio.le strategy.deathHealthRatio then 3
  else if ratio.le strategy.deleverHealthRatio then 2
  else if ratio.le strategy.warningHealthRatio then 1
  else 0

/-- The ratio of the lowered equity counts. Or the stream of the venue stops it anyway, or its
orders already act as hard as the lines did, and the account is above the death line. -/
def VenueRated (strategy : RiskStrategy) (input : VenueHealthInput) (report : AccountReport)
    (lower higher : ExactFloat) : Prop :=
  report.Counted lower ∨ input.streamUnhealthy = true ∨
    (¬ report.AtDeathLine strategy lower ∧ (report.Counted higher →
      lineSeverity strategy (report.healthRatio higher) ≤ input.ordersView.action.severity))

/-- The ratio of the lowered equity counts. Or the other leg's ratio counts, acts as hard as the
higher equity did, and stands at the death line when the lowered equity does. -/
def PositionRated (strategy : RiskStrategy) (report other : AccountReport)
    (lower higher otherEquity : ExactFloat) : Prop :=
  report.Counted lower ∨
    (report.Counted higher →
      lineSeverity strategy (report.healthRatio higher) = 0 ∨ other.Counted otherEquity ∧
        lineSeverity strategy (report.healthRatio higher) ≤
          lineSeverity strategy (other.healthRatio otherEquity)) ∧
    (report.AtDeathLine strategy lower → other.Counted otherEquity ∧
      (other.healthRatio otherEquity).le strategy.deathHealthRatio = true)

/-! ## Severities -/

theorem VenueHealthAction.severity_max (action other : VenueHealthAction) :
    (action.max other).severity = Max.max action.severity other.severity := by
  rw [VenueHealthAction.max]
  split_ifs with below
  · exact (max_eq_left below).symm
  · exact (max_eq_right (Nat.le_of_not_le below)).symm

theorem VenueHealthAction.severity_three (action : VenueHealthAction) :
    action.severity = 3 ↔ action = .failClosed := by
  cases action <;> decide

theorem RiskAction.severity_three (action : RiskAction) :
    action.severity = 3 ↔ action = .singleSideProtection := by
  cases action <;> decide

/-- A smaller ratio is rated no milder. -/
theorem lineSeverity_mono (strategy : RiskStrategy) {lower higher : ExactFloat}
    (below : lower.le higher = true) :
    lineSeverity strategy higher ≤ lineSeverity strategy lower := by
  have kept : ∀ line : ExactFloat, higher.le line = true → lower.le line = true :=
    fun line reached => ExactFloat.le_trans below reached
  have death := kept strategy.deathHealthRatio
  have delever := kept strategy.deleverHealthRatio
  have warning := kept strategy.warningHealthRatio
  unfold lineSeverity
  split_ifs <;> simp_all

theorem lineSeverity_le (strategy : RiskStrategy) (ratio : ExactFloat) :
    lineSeverity strategy ratio ≤ 3 := by
  unfold lineSeverity
  split_ifs <;> decide

theorem lineSeverity_death (strategy : RiskStrategy) (ratio : ExactFloat) :
    lineSeverity strategy ratio = 3 ↔ ratio.le strategy.deathHealthRatio = true := by
  unfold lineSeverity
  split_ifs <;> simp_all

theorem raise_severity (view : VenueHealthView) (action : VenueHealthAction) (label : String)
    (value : Option ExactFloat) : (view.raise action label value).action.severity =
      Max.max view.action.severity action.severity :=
  VenueHealthAction.severity_max _ _

/-- The private stream and the orders alone never close a venue. -/
theorem ordersView_severity (input : VenueHealthInput) :
    input.ordersView.action.severity ≤ 2 := by
  have started : input.start.action.severity = 0 := rfl
  rw [VenueHealthInput.ordersView]
  split <;> split
  all_goals first | split | skip
  all_goals
    simp only [raise_severity, started]
    decide

namespace AccountReport

variable {report : AccountReport} {strategy : RiskStrategy} {nowMs : Int}

/-- Named or computed, the ratio is the equity over the margin. -/
theorem snapshot_live (live : report.Live strategy nowMs) (equity : ExactFloat) :
    (report.snapshot equity).supported = true ∧
      (report.snapshot equity).healthRatio = report.healthRatio equity ∧
      (report.snapshot equity).isEffectivelyStale nowMs strategy.maxRiskSnapshotAgeMs = false := by
  have rated : ∀ equity : ExactFloat, report.snapshot equity =
      { venue := report.venue
        equityQuote := equity
        maintenanceMarginQuote := report.maintenanceMarginQuote
        healthRatio := report.healthRatio equity
        observedAtMs := report.observedAtMs
        stale := report.stale
        zeroMaintenanceIsNormal := report.zeroMaintenanceIsNormal } := by
    intro equity
    rw [snapshot, AccountRiskSnapshot.postInit, live.margin, if_neg (by decide)]
    cases report.namesRatio with
    | true =>
      rw [if_pos rfl]
      split_ifs <;> rfl
    | false =>
      rw [if_neg Bool.false_ne_true]
      rfl
  have fresh := live.fresh
  rw [rated] at fresh
  rw [rated]
  exact ⟨rfl, rfl, fresh⟩

/-- Above a ratio that counts there are only such. -/
theorem counted_mono (live : report.Live strategy nowMs) {lower higher : ExactFloat}
    (below : lower.le higher = true) (counted : report.Counted lower) :
    report.Counted higher ∧
      (report.healthRatio lower).le (report.healthRatio higher) = true := by
  obtain ⟨margin, same, positive, -⟩ := ExactFloat.div_pos live.margin counted
  have grows : (report.healthRatio lower).le (report.healthRatio higher) = true := by
    rw [healthRatio, healthRatio, same]
    exact ExactFloat.div_le_div positive below
  exact ⟨ExactFloat.pos_of_le counted grows, grows⟩

theorem death_line_iff (live : report.Live strategy nowMs) {equity : ExactFloat}
    (counted : report.Counted equity) :
    report.AtDeathLine strategy equity ↔
      (report.healthRatio equity).le strategy.deathHealthRatio = true := by
  obtain ⟨margin, same, positive, -⟩ := ExactFloat.div_pos live.margin counted
  rw [AtDeathLine, healthRatio, same, ExactFloat.div_le_iff positive]

open Classical in
/-- How severe the lines are about an account; a ratio that does not count is as good as any. -/
noncomputable def ratedSeverity (report : AccountReport) (strategy : RiskStrategy)
    (equity : ExactFloat) : Nat :=
  if report.Counted equity then lineSeverity strategy (report.healthRatio equity) else 0

end AccountReport

section VenueSeverity

variable {strategy : RiskStrategy} {input : VenueHealthInput} {report : AccountReport}

theorem rate_severity (view : VenueHealthView) (strategy : RiskStrategy) (ratio : ExactFloat) :
    (view.rate strategy ratio).action.severity =
      Max.max view.action.severity (lineSeverity strategy ratio) := by
  unfold VenueHealthView.rate lineSeverity
  split_ifs
  · exact raise_severity _ _ _ _
  · exact raise_severity _ _ _ _
  · exact raise_severity _ _ _ _
  · exact (Nat.max_zero _).symm

/-- A venue acts on its stream, its orders and the lines. -/
theorem venueAction_severity (live : report.Live strategy input.nowMs)
    (supports : input.supportsRiskHealth = true) (equity : ExactFloat) :
    (venueAction strategy input report equity).severity =
      if input.streamUnhealthy then 3
      else Max.max input.ordersView.action.severity (report.ratedSeverity strategy equity) := by
  obtain ⟨supported, ratio, fresh⟩ := AccountReport.snapshot_live live equity
  unfold venueAction evaluateVenueHealth
  by_cases unhealthy : input.streamUnhealthy = true
  · rw [if_pos unhealthy, if_pos unhealthy, raise_severity]
    rfl
  · rw [if_neg unhealthy, if_neg unhealthy]
    simp only [supports, supported, fresh, ratio, Bool.true_and, Bool.not_true, Bool.or_self,
      Bool.false_eq_true, if_false, AccountReport.ratedSeverity]
    by_cases counted : report.Counted equity
    · have positive : (ExactFloat.finite 0).lt (report.healthRatio equity) = true := counted
      rw [if_pos counted]
      simp only [positive, if_true]
      exact rate_severity _ _ _
    · have hidden : (ExactFloat.finite 0).lt (report.healthRatio equity) = false :=
        Bool.eq_false_iff.mpr counted
      rw [if_neg counted]
      simp only [hidden, Bool.false_eq_true, if_false]
      exact (Nat.max_zero _).symm

end VenueSeverity

section PositionSeverity

variable {strategy : RiskStrategy} {nowMs : Int} {report other : AccountReport}

/-- The smaller of two ratios is rated as the harder one. -/
theorem lineSeverity_min (strategy : RiskStrategy) {left right : ExactFloat}
    (leftCounted : (ExactFloat.finite 0).lt left = true)
    (rightCounted : (ExactFloat.finite 0).lt right = true) :
    lineSeverity strategy (left.min right) =
      Max.max (lineSeverity strategy left) (lineSeverity strategy right) := by
  rw [ExactFloat.min]
  split_ifs with less
  · exact (max_eq_right (lineSeverity_mono strategy (ExactFloat.le_of_lt less))).symm
  · have below := ExactFloat.le_of_not_lt leftCounted rightCounted (Bool.eq_false_iff.mpr less)
    exact (max_eq_left (lineSeverity_mono strategy below)).symm

/-- The view's conditions prefer the hardest line that the smallest ratio is below. -/
theorem activeAction_severity (longSnapshot shortSnapshot : Option AccountRiskSnapshot)
    (longSupported : snapshotSupported strategy nowMs true longSnapshot = true)
    (shortSupported : snapshotSupported strategy nowMs true shortSnapshot = true) :
    (evaluatePositionRisk strategy nowMs true true longSnapshot
        shortSnapshot).activeAction.severity =
      ((minHealthRatio (countedHealthRatio true longSnapshot)
        (countedHealthRatio true shortSnapshot)).map (lineSeverity strategy)).getD 0 := by
  simp only [evaluatePositionRisk, PositionRiskView.activeAction, longSupported, shortSupported,
    Bool.not_true, Bool.or_self, Bool.false_and, Bool.false_eq_true, if_false]
  cases minHealthRatio (countedHealthRatio true longSnapshot)
      (countedHealthRatio true shortSnapshot) with
  | none => rfl
  | some ratio =>
    simp only [Option.any_some, Option.map_some, Option.getD_some, lineSeverity]
    split_ifs <;> rfl

open Classical in
/-- A live snapshot is supported, and its ratio counts when it is positive. -/
theorem counted_snapshot (live : report.Live strategy nowMs) (equity : ExactFloat) :
    snapshotSupported strategy nowMs true (report.snapshot equity) = true ∧
      countedHealthRatio true (report.snapshot equity) =
        if report.Counted equity then some (report.healthRatio equity) else none := by
  obtain ⟨supported, ratio, fresh⟩ := AccountReport.snapshot_live live equity
  refine ⟨by simp [snapshotSupported, supported, fresh], ?_⟩
  rw [countedHealthRatio, if_pos rfl]
  by_cases counted : report.Counted equity
  · have positive : (ExactFloat.finite 0).lt (report.healthRatio equity) = true := counted
    simp [Option.filter, supported, ratio, positive, counted]
  · have hidden : (ExactFloat.finite 0).lt (report.healthRatio equity) = false :=
      Bool.eq_false_iff.mpr counted
    simp [Option.filter, ratio, hidden, counted]

/-- The smaller ratio of two accounts is rated as hard as the harder one of both. -/
theorem pair_severity (live : report.Live strategy nowMs) (otherLive : other.Live strategy nowMs)
    (equity otherEquity : ExactFloat) :
    (evaluatePositionRisk strategy nowMs true true (report.snapshot equity)
        (other.snapshot otherEquity)).activeAction.severity =
      Max.max (report.ratedSeverity strategy equity)
        (other.ratedSeverity strategy otherEquity) := by
  obtain ⟨supported, ratio⟩ := counted_snapshot live equity
  obtain ⟨otherSupported, otherRatio⟩ := counted_snapshot otherLive otherEquity
  rw [activeAction_severity _ _ supported otherSupported, ratio, otherRatio,
    AccountReport.ratedSeverity, AccountReport.ratedSeverity]
  split_ifs with counted otherCounted otherCounted
  · exact lineSeverity_min strategy counted otherCounted
  · exact (Nat.max_zero _).symm
  · exact (Nat.zero_max _).symm
  · rfl

/-- A position acts on the ratios of both legs. -/
theorem positionAction_severity (live : report.Live strategy nowMs)
    (otherLive : other.Live strategy nowMs) (leg : AccountLeg) (otherEquity equity : ExactFloat) :
    (positionAction strategy nowMs leg report other otherEquity equity).severity =
      Max.max (report.ratedSeverity strategy equity)
        (other.ratedSeverity strategy otherEquity) := by
  cases leg with
  | long => exact pair_severity live otherLive equity otherEquity
  | short =>
    rw [max_comm]
    exact pair_severity otherLive live otherEquity equity

end PositionSeverity

/-! ## The equivalences -/

section Harder

variable {strategy : RiskStrategy} {report other : AccountReport} {lower higher : ExactFloat}

theorem AccountReport.rated_counted (counted : report.Counted lower) :
    report.ratedSeverity strategy lower = lineSeverity strategy (report.healthRatio lower) :=
  if_pos counted

theorem AccountReport.rated_hidden (hidden : ¬ report.Counted lower) :
    report.ratedSeverity strategy lower = 0 :=
  if_neg hidden

/-- While the lower ratio counts, the lines act no milder on it, and close at the death line. -/
theorem AccountReport.rated_mono {nowMs : Int} (live : report.Live strategy nowMs)
    (below : lower.le higher = true) (counted : report.Counted lower) :
    report.ratedSeverity strategy higher ≤ report.ratedSeverity strategy lower ∧
      (report.AtDeathLine strategy lower → report.ratedSeverity strategy lower = 3) := by
  obtain ⟨higherCounted, grows⟩ := AccountReport.counted_mono live below counted
  rw [rated_counted counted, rated_counted higherCounted]
  refine ⟨lineSeverity_mono strategy grows, fun dead => ?_⟩
  rw [lineSeverity_death]
  exact (AccountReport.death_line_iff live counted).mp dead

theorem venue_harder_iff {input : VenueHealthInput} (live : report.Live strategy input.nowMs)
    (supports : input.supportsRiskHealth = true) (below : lower.le higher = true) :
    VenueActsHarder strategy input report lower higher ↔
      VenueRated strategy input report lower higher := by
  have orders := ordersView_severity input
  rw [VenueActsHarder, ← VenueHealthAction.severity_three, venueAction_severity live supports,
    venueAction_severity live supports, VenueRated]
  cases unhealthy : input.streamUnhealthy with
  | true => simp
  | false =>
    simp only [Bool.false_eq_true, if_false, false_or]
    by_cases counted : report.Counted lower
    · obtain ⟨grows, closes⟩ := AccountReport.rated_mono live below counted
      refine iff_of_true ⟨max_le_max_left _ grows, fun dead => ?_⟩ (.inl counted)
      rw [closes dead]
      omega
    · rw [AccountReport.rated_hidden counted, or_iff_right counted, Nat.max_zero]
      constructor
      · rintro ⟨milder, closes⟩
        refine ⟨fun dead => ?_, fun higherCounted => ?_⟩
        · have closed := closes dead
          omega
        · rw [AccountReport.rated_counted higherCounted] at milder
          exact (le_max_right _ _).trans milder
      · rintro ⟨alive, milder⟩
        refine ⟨max_le le_rfl ?_, fun dead => absurd dead alive⟩
        by_cases higherCounted : report.Counted higher
        · rw [AccountReport.rated_counted higherCounted]
          exact milder higherCounted
        · rw [AccountReport.rated_hidden higherCounted]
          exact Nat.zero_le _

theorem position_harder_iff {nowMs : Int} {otherEquity : ExactFloat}
    (live : report.Live strategy nowMs) (otherLive : other.Live strategy nowMs)
    (leg : AccountLeg) (below : lower.le higher = true) :
    PositionActsHarder strategy nowMs leg report other lower higher otherEquity ↔
      PositionRated strategy report other lower higher otherEquity := by
  rw [PositionActsHarder, ← RiskAction.severity_three, positionAction_severity live otherLive,
    positionAction_severity live otherLive, PositionRated]
  by_cases counted : report.Counted lower
  · obtain ⟨grows, closes⟩ := AccountReport.rated_mono live below counted
    refine iff_of_true ⟨max_le_max_right _ grows, fun dead => ?_⟩ (.inl counted)
    have limit : other.ratedSeverity strategy otherEquity ≤ 3 := by
      rw [AccountReport.ratedSeverity]
      split_ifs
      · exact lineSeverity_le strategy _
      · exact Nat.zero_le 3
    rw [closes dead]
    exact max_eq_left limit
  · rw [AccountReport.rated_hidden counted, or_iff_right counted, Nat.zero_max]
    refine and_congr ?_ (imp_congr_right fun dead => ?_)
    · rw [max_le_iff, and_iff_left le_rfl]
      by_cases higherCounted : report.Counted higher
      · rw [AccountReport.rated_counted higherCounted, forall_prop_of_true higherCounted]
        by_cases otherCounted : other.Counted otherEquity
        · rw [AccountReport.rated_counted otherCounted, and_iff_right otherCounted]
          exact ⟨.inr, fun rated => rated.elim (fun mild => mild ▸ Nat.zero_le _) id⟩
        · rw [AccountReport.rated_hidden otherCounted, Nat.le_zero]
          exact ⟨.inl, fun rated => rated.elim id (fun hidden => absurd hidden.1 otherCounted)⟩
      · rw [AccountReport.rated_hidden higherCounted]
        exact iff_of_true (Nat.zero_le _) (fun higherRated => absurd higherRated higherCounted)
    · by_cases otherCounted : other.Counted otherEquity
      · rw [AccountReport.rated_counted otherCounted, lineSeverity_death,
          and_iff_right otherCounted]
      · rw [AccountReport.rated_hidden otherCounted]
        exact iff_of_false (by decide) (fun rated => otherCounted rated.1)

end Harder

/-- Lowering an account's equity acts no milder on its venue, and no milder on a position that
uses it, exactly when the lowered ratio still counts, or something else acts as hard. -/
theorem harder_action_iff {strategy : RiskStrategy} {input : VenueHealthInput}
    {report other : AccountReport} {lower higher : ExactFloat}
    (live : report.Live strategy input.nowMs) (otherLive : other.Live strategy input.nowMs)
    (supports : input.supportsRiskHealth = true) (leg : AccountLeg) (otherEquity : ExactFloat)
    (below : lower.le higher = true) :
    (VenueActsHarder strategy input report lower higher ↔
        VenueRated strategy input report lower higher) ∧
      (PositionActsHarder strategy input.nowMs leg report other lower higher otherEquity ↔
        PositionRated strategy report other lower higher otherEquity) :=
  ⟨venue_harder_iff live supports below, position_harder_iff live otherLive leg below⟩

/-! ## An account under water -/

section UnderWater

/-- A margin of a hundred. -/
def hundredMargin : AccountReport where
  venue := .binance
  maintenanceMarginQuote := .finite 100
  observedAtMs := 1000

def quietVenue : VenueHealthInput where
  venue := .binance
  nowMs := 1000

theorem hundredMargin_live : hundredMargin.Live {} quietVenue.nowMs :=
  ⟨by decide +kernel, by decide +kernel⟩

/-- Fifty below a hundred, with the other leg healthy. -/
theorem harder_action_fifty :
    (VenueActsHarder {} quietVenue hundredMargin (.finite 50) (.finite 100) ↔
        VenueRated {} quietVenue hundredMargin (.finite 50) (.finite 100)) ∧
      (PositionActsHarder {} quietVenue.nowMs .long hundredMargin hundredMargin (.finite 50)
          (.finite 100) (.finite 500) ↔
        PositionRated {} hundredMargin hundredMargin (.finite 50) (.finite 100) (.finite 500)) :=
  harder_action_iff hundredMargin_live hundredMargin_live rfl .long (.finite 500)
    (by decide +kernel)

/-- An equity of a hundred closes the venue and protects the position; a debt of fifty does
neither. -/
theorem debt_acts_milder :
    venueAction {} quietVenue hundredMargin (.finite 100) = .failClosed ∧
      venueAction {} quietVenue hundredMargin (.finite (-50)) = .normal ∧
      positionAction {} 1000 .long hundredMargin hundredMargin (.finite 500) (.finite 100) =
        .singleSideProtection ∧
      positionAction {} 1000 .long hundredMargin hundredMargin (.finite 500) (.finite (-50)) =
        .none ∧
      ¬ VenueActsHarder {} quietVenue hundredMargin (.finite (-50)) (.finite 100) ∧
      ¬ PositionActsHarder {} 1000 .long hundredMargin hundredMargin (.finite (-50))
        (.finite 100) (.finite 500) := by
  have closed : venueAction {} quietVenue hundredMargin (.finite 100) = .failClosed := by
    decide +kernel
  have normal : venueAction {} quietVenue hundredMargin (.finite (-50)) = .normal := by
    decide +kernel
  have guarded : positionAction {} 1000 .long hundredMargin hundredMargin (.finite 500)
      (.finite 100) = .singleSideProtection := by decide +kernel
  have idle : positionAction {} 1000 .long hundredMargin hundredMargin (.finite 500)
      (.finite (-50)) = .none := by decide +kernel
  refine ⟨closed, normal, guarded, idle, ?_, ?_⟩
  · rintro ⟨harder, -⟩
    rw [closed, normal] at harder
    exact absurd harder (by decide)
  · rintro ⟨harder, -⟩
    rw [guarded, idle] at harder
    exact absurd harder (by decide)

end UnderWater

end LightFee.Engine
