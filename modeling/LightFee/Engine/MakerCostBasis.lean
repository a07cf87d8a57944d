import LightFee.Engine.HedgeRemainder
import Mathlib.Algebra.BigOperators.Ring.List
import Mathlib.Tactic.FieldSimp

/-!
# The maker's cost basis

A maker report names the order's cumulative quantity and its cumulative average
price. The entry prices each increment, and its whole fill, at the newest average.
That is the cost of the orders exactly while every report names one price: a
second average prices the increment as if the earlier fill had not moved it, and
forgets the orders before.
-/

namespace LightFee.Engine

/-- An accepted maker order, or a report of the newest one. -/
inductive MakerEvent where
  | accepted (cycle : PassiveCycle)
  | report (progress : PassiveOrderProgress)

/-- What an order has reported so far. -/
structure OrderTotal where
  target : ℚ
  quantity : ℚ
  price : ℚ

namespace OrderTotal

/-- The cumulative quantity at its cumulative average price. -/
def notional (total : OrderTotal) : ℚ := total.quantity * total.price

/-- The orders' totals after an event, the newest order first. -/
def observe (totals : List OrderTotal) : MakerEvent → List OrderTotal
  | .accepted cycle => ⟨cycle.targetQuantity, 0, 0⟩ :: totals
  | .report progress =>
    match totals with
    | [] => []
    | total :: rest =>
      ⟨total.target, progress.cumulativeQuantity, progress.averagePrice⟩ :: rest

end OrderTotal

/-- The totals of every accepted order, the newest first. -/
def orderTotals (events : List MakerEvent) : List OrderTotal :=
  events.foldl OrderTotal.observe []

def totalQuantity (totals : List OrderTotal) : ℚ := (totals.map OrderTotal.quantity).sum

def totalNotional (totals : List OrderTotal) : ℚ := (totals.map OrderTotal.notional).sum

/-- A report of the newest order: within its target, with a quantity already
reported or raised by more than dust, and with the price of what is filled. -/
structure ReportsOrder (totals : List OrderTotal) (progress : PassiveOrderProgress) : Prop where
  order : ∃ total rest, totals = total :: rest ∧ progress.cumulativeQuantity ≤ total.target ∧
    (progress.cumulativeQuantity = total.quantity ∨
      total.quantity + quantityDust < progress.cumulativeQuantity)
  priced : 0 < progress.cumulativeQuantity → 0 < progress.averagePrice

/-- Every report of the run is one of the newest order. -/
def WellReported (events : List MakerEvent) : Prop :=
  ∀ before progress after, events = before ++ .report progress :: after →
    ReportsOrder (orderTotals before) progress

/-- Every report of a fill names the same average price. -/
def OnePrice (events : List MakerEvent) : Prop :=
  ∀ first second, .report first ∈ events → .report second ∈ events →
    0 < first.cumulativeQuantity → 0 < second.cumulativeQuantity →
      first.averagePrice = second.averagePrice

namespace PendingEntry

def makerStep (pending : PendingEntry ℚ) : MakerEvent → PendingEntry ℚ
  | .accepted cycle => notePendingEntryPassiveCycleAccepted pending cycle
  | .report progress => (applyPendingEntryPassiveProgress pending (some progress)).1

def makerRun (pending : PendingEntry ℚ) (events : List MakerEvent) : PendingEntry ℚ :=
  events.foldl makerStep pending

/-- Notional of the remainder slices. -/
def remainderNotional (pending : PendingEntry ℚ) : ℚ :=
  (pending.makerRemainderSlices.map PendingEntryRemainderSlice.notionalQuote).sum

/-- The slices and the fill price carry the orders' cost. -/
def ExactCost (pending : PendingEntry ℚ) (totals : List OrderTotal) : Prop :=
  pending.remainderNotional = totalNotional totals ∧
    (0 < pending.makerLegFilled →
      pending.makerFillPrice = totalNotional totals / pending.makerLegFilled)

/-! ## One event -/

/-- The maker fill is what the orders have reported. -/
structure Accounts (totals : List OrderTotal) (pending : PendingEntry ℚ) : Prop where
  filled : pending.makerLegFilled = totalQuantity totals
  nonnegative : ∀ total ∈ totals, 0 ≤ total.quantity
  current : ∀ total rest, totals = total :: rest → ∃ order, pending.passiveOrder = some order ∧
    order.fillCheckpointQuantity + total.quantity = pending.makerLegFilled ∧
    order.targetQuantity = total.target

theorem push_priced (pending : PendingEntry ℚ) (fillAtMs : Option Int) {quantity price : ℚ}
    (whole : quantityDust < quantity) (positive : 0 < price) :
    pending.pushMakerRemainderSlice quantity (some price) fillAtMs =
      { pending with makerRemainderSlices := pending.makerRemainderSlices ++
          [⟨quantity, price * quantity, fillAtMs.filter (0 < ·)⟩] } := by
  have size : max 0 quantity = quantity := max_eq_right (dust_pos.trans whole).le
  simp only [pushMakerRemainderSlice, size, if_neg (not_le.mpr whole),
    if_neg (not_lt.mpr positive.le), max_eq_right positive.le]

/-- What a report of the newest order does: nothing to the cost when it repeats a
quantity, and a slice at its average price when it raises one. -/
theorem report_effect {pending : PendingEntry ℚ} {total : OrderTotal} {rest : List OrderTotal}
    {progress : PassiveOrderProgress} (accounts : pending.Accounts (total :: rest))
    (reports : ReportsOrder (total :: rest) progress) :
    let after := pending.makerStep (.report progress)
    let raise := progress.cumulativeQuantity - total.quantity
    0 ≤ raise ∧ after.makerLegFilled = pending.makerLegFilled + raise ∧
      (∃ order, after.passiveOrder = some order ∧
        order.fillCheckpointQuantity + progress.cumulativeQuantity = after.makerLegFilled ∧
        order.targetQuantity = total.target) ∧
      after.remainderNotional = pending.remainderNotional + raise * progress.averagePrice ∧
      (raise = 0 → after.makerFillPrice = pending.makerFillPrice) ∧
      (0 < raise → after.makerFillPrice = progress.averagePrice) := by
  intro after raise
  rcases accounts.current total rest rfl with ⟨order, current, checkpoint, target⟩
  rcases reports.order with ⟨_, _, same, withinTarget, moved⟩
  cases same
  have nonnegative : 0 ≤ total.quantity := accounts.nonnegative total List.mem_cons_self
  have counted : 0 ≤ progress.cumulativeQuantity := by
    rcases moved with repeated | raised
    · rw [repeated]
      exact nonnegative
    · linarith [dust_pos]
  have updated : ∀ state, { order with lastProgressState := state }.updatedQuantity
      progress.cumulativeQuantity = pending.makerLegFilled + raise := by
    intro state
    have clipped : min progress.cumulativeQuantity order.targetQuantity =
        progress.cumulativeQuantity := min_eq_left (by rw [target]; exact withinTarget)
    simp only [PendingPassiveOrder.updatedQuantity, max_eq_right counted, clipped, ite_self]
    linarith
  rcases moved with repeated | raised
  · -- A repeated quantity changes the order's state only.
    have still : raise = 0 := sub_eq_zero.mpr repeated
    have unraised : ¬ pending.makerLegFilled + quantityDust < pending.makerLegFilled + raise := by
      rw [still]
      linarith [dust_pos]
    have stays : after = { pending with passiveOrder := some { order with
        lastProgressState := progress.state.getD order.lastProgressState } } := by
      simp only [after, makerStep, applyPendingEntryPassiveProgress, current, updated,
        if_neg unraised]
    rw [stays, still]
    refine ⟨le_refl 0, (add_zero _).symm, ⟨_, rfl, ?_, target⟩, ?_, fun _ => rfl, ?_⟩
    · rw [repeated]
      exact checkpoint
    · rw [zero_mul, add_zero]
      rfl
    · intro absurd
      exact (lt_irrefl _ absurd).elim
  · have whole : quantityDust < raise := by linarith
    have positive : 0 < progress.averagePrice := reports.priced (by linarith [dust_pos])
    have raises : pending.makerLegFilled + quantityDust < pending.makerLegFilled + raise := by
      linarith
    have pushed : after = { pending with
        passiveOrder := some { order with
          lastProgressState := progress.state.getD order.lastProgressState }
        makerLegFilled := pending.makerLegFilled + raise
        makerFillPrice := progress.averagePrice
        makerRemainderSlices := pending.makerRemainderSlices ++
          [⟨raise, progress.averagePrice * raise,
            (if progress.observedAtMs = 0 then none else some progress.observedAtMs).filter
              (0 < ·)⟩] } := by
      simp only [after, makerStep, applyPendingEntryPassiveProgress, current, updated,
        if_pos raises, raiseMakerFill, if_pos positive, add_sub_cancel_left]
      exact push_priced _ _ whole positive
    rw [pushed]
    refine ⟨(dust_pos.trans whole).le, rfl, ⟨_, rfl, ?_, target⟩, ?_, ?_, fun _ => rfl⟩
    · change order.fillCheckpointQuantity + progress.cumulativeQuantity =
        pending.makerLegFilled + raise
      linarith
    · simp [remainderNotional, mul_comm]
    · intro still
      linarith [dust_pos]

/-! ## A run -/

theorem maker_run_snoc (pending : PendingEntry ℚ) (events : List MakerEvent) (event : MakerEvent) :
    pending.makerRun (events ++ [event]) = (pending.makerRun events).makerStep event := by
  simp [makerRun]

theorem order_totals_snoc (events : List MakerEvent) (event : MakerEvent) :
    orderTotals (events ++ [event]) = OrderTotal.observe (orderTotals events) event := by
  simp [orderTotals]

theorem well_reported_before {before after : List MakerEvent}
    (reported : WellReported (before ++ after)) : WellReported before := by
  intro early progress late split
  exact reported early progress (late ++ after) (by rw [split]; simp)

/-- The totals after a report, beside those before it. -/
theorem report_totals {totals : List OrderTotal} {progress : PassiveOrderProgress}
    (reports : ReportsOrder totals progress) :
    ∃ total rest, totals = total :: rest ∧
      OrderTotal.observe totals (.report progress) =
        ⟨total.target, progress.cumulativeQuantity, progress.averagePrice⟩ :: rest := by
  rcases reports.order with ⟨total, rest, same, -⟩
  subst same
  exact ⟨total, rest, rfl, rfl⟩

/-- An accepted order starts at what is filled, and leaves the fill and its cost alone. -/
theorem accepted_effect (pending : PendingEntry ℚ) (cycle : PassiveCycle) :
    (pending.makerStep (.accepted cycle)).makerLegFilled = pending.makerLegFilled ∧
      (pending.makerStep (.accepted cycle)).makerFillPrice = pending.makerFillPrice ∧
      (pending.makerStep (.accepted cycle)).makerRemainderSlices =
        pending.makerRemainderSlices ∧
      ∃ order, (pending.makerStep (.accepted cycle)).passiveOrder = some order ∧
        order.fillCheckpointQuantity = pending.makerLegFilled ∧
        order.targetQuantity = cycle.targetQuantity :=
  ⟨rfl, rfl, rfl, _, rfl, rfl, rfl⟩

theorem step_accounts {pending : PendingEntry ℚ} {totals : List OrderTotal} {event : MakerEvent}
    (accounts : pending.Accounts totals)
    (reports : ∀ progress, event = .report progress → ReportsOrder totals progress) :
    (pending.makerStep event).Accounts (OrderTotal.observe totals event) := by
  cases event with
  | accepted cycle =>
      obtain ⟨filled, -, -, order, resting, checkpoint, target⟩ := accepted_effect pending cycle
      constructor
      · rw [filled, OrderTotal.observe, totalQuantity, List.map_cons, List.sum_cons, zero_add]
        exact accounts.filled
      · intro total listed
        rcases List.mem_cons.mp listed with new | old
        · rw [new]
        · exact accounts.nonnegative total old
      · intro total rest same
        cases same
        refine ⟨order, resting, ?_, target⟩
        rw [checkpoint, filled, add_zero]
  | report progress =>
      have reported := reports progress rfl
      rcases report_totals reported with ⟨total, rest, rfl, observed⟩
      rcases report_effect accounts reported with ⟨raised, filled, order, -⟩
      rw [observed]
      constructor
      · rw [filled, accounts.filled]
        simp only [totalQuantity, List.map_cons, List.sum_cons]
        ring
      · intro other listed
        rcases List.mem_cons.mp listed with new | old
        · rw [new]
          exact (accounts.nonnegative total List.mem_cons_self).trans (sub_nonneg.mp raised)
        · exact accounts.nonnegative other (List.mem_cons_of_mem total old)
      · intro other others same
        cases same
        exact order

theorem run_accounts {pending : PendingEntry ℚ} (unfilled : pending.makerLegFilled = 0)
    {events : List MakerEvent} (reported : WellReported events) :
    (pending.makerRun events).Accounts (orderTotals events) := by
  induction events using List.reverseRecOn with
  | nil =>
      constructor
      · exact unfilled
      · intro total listed
        cases listed
      · intro total rest same
        cases same
  | append_singleton before event ih =>
      rw [maker_run_snoc, order_totals_snoc]
      apply step_accounts (ih (well_reported_before reported))
      intro progress same
      exact reported before progress [] (by rw [same])

/-! ## One price -/

/-- Everything filled so far was filled at one price. -/
structure Uniform (price : ℚ) (totals : List OrderTotal) (pending : PendingEntry ℚ) : Prop where
  reported : ∀ total ∈ totals, total.quantity = 0 ∨ total.price = price
  carried : pending.remainderNotional = pending.makerLegFilled * price
  filled : 0 < pending.makerLegFilled → pending.makerFillPrice = price

theorem Uniform.exact {price : ℚ} {totals : List OrderTotal} {pending : PendingEntry ℚ}
    (uniform : Uniform price totals pending) (accounts : pending.Accounts totals) :
    pending.ExactCost totals := by
  have cost : totalNotional totals = pending.makerLegFilled * price := by
    rw [accounts.filled, totalNotional, totalQuantity, ← List.sum_map_mul_right]
    congr 1
    apply List.map_congr_left
    intro total listed
    rcases uniform.reported total listed with none | priced
    · simp [OrderTotal.notional, none]
    · rw [OrderTotal.notional, priced]
  constructor
  · rw [uniform.carried, cost]
  · intro positive
    rw [uniform.filled positive, cost, mul_div_cancel_left₀ _ positive.ne']

theorem step_uniform {price : ℚ} {totals : List OrderTotal} {pending : PendingEntry ℚ}
    {event : MakerEvent} (uniform : Uniform price totals pending)
    (accounts : pending.Accounts totals)
    (reports : ∀ progress, event = .report progress → ReportsOrder totals progress)
    (priced : ∀ progress, event = .report progress → 0 < progress.cumulativeQuantity →
      progress.averagePrice = price) :
    Uniform price (OrderTotal.observe totals event) (pending.makerStep event) := by
  cases event with
  | accepted cycle =>
      obtain ⟨filled, price, slices, -⟩ := accepted_effect pending cycle
      constructor
      · intro total listed
        rcases List.mem_cons.mp listed with new | old
        · rw [new]
          exact Or.inl rfl
        · exact uniform.reported total old
      · rw [remainderNotional, slices, filled]
        exact uniform.carried
      · rw [filled, price]
        exact uniform.filled
  | report progress =>
      have reported := reports progress rfl
      rcases report_totals reported with ⟨total, rest, rfl, observed⟩
      rcases report_effect accounts reported with ⟨raised, filled, -, pushed, still, moved⟩
      have nonnegative := accounts.nonnegative total List.mem_cons_self
      have newest : progress.cumulativeQuantity = 0 ∨ progress.averagePrice = price := by
        rcases (nonnegative.trans (sub_nonneg.mp raised)).eq_or_lt with none | some
        · exact Or.inl none.symm
        · exact Or.inr (priced progress rfl some)
      rw [observed]
      constructor
      · intro other listed
        rcases List.mem_cons.mp listed with new | old
        · rw [new]
          exact newest
        · exact uniform.reported other (List.mem_cons_of_mem total old)
      · rw [pushed, filled, uniform.carried]
        rcases newest with none | same
        · have nothing : progress.cumulativeQuantity - total.quantity = 0 := by linarith
          rw [nothing]
          ring
        · rw [same]
          ring
      · intro positive
        rcases raised.eq_or_lt with same | more
        · rw [filled, ← same, add_zero] at positive
          rw [still same.symm]
          exact uniform.filled positive
        · rw [moved more]
          exact priced progress rfl (by linarith)

theorem run_uniform {pending : PendingEntry ℚ} (unfilled : pending.makerLegFilled = 0)
    (fresh : pending.makerRemainderSlices = []) {events : List MakerEvent}
    (reported : WellReported events) {price : ℚ}
    (priced : ∀ progress, .report progress ∈ events → 0 < progress.cumulativeQuantity →
      progress.averagePrice = price) :
    Uniform price (orderTotals events) (pending.makerRun events) := by
  induction events using List.reverseRecOn with
  | nil =>
      constructor
      · intro total listed
        cases listed
      · simp [makerRun, remainderNotional, fresh, unfilled]
      · intro positive
        exact absurd positive (by simp [makerRun, unfilled])
  | append_singleton before event ih =>
      rw [maker_run_snoc, order_totals_snoc]
      have earlier := ih (well_reported_before reported) (by
        intro progress listed
        exact priced progress (List.mem_append_left _ listed))
      apply step_uniform earlier (run_accounts unfilled (well_reported_before reported))
      · intro progress same
        exact reported before progress [] (by rw [same])
      · intro progress same
        exact priced progress (by rw [same]; simp)

/-! ## Exact cost needs one price -/

/-- Every fill reported so far named the entry's fill price. -/
structure Priced (events : List MakerEvent) (pending : PendingEntry ℚ) : Prop where
  reports : ∀ progress, .report progress ∈ events → 0 < progress.cumulativeQuantity →
    0 < pending.makerLegFilled ∧ progress.averagePrice = pending.makerFillPrice
  totals : ∀ total ∈ orderTotals events, total.quantity = 0 ∨
    (0 < pending.makerLegFilled ∧ total.price = pending.makerFillPrice)

/-- A report that leaves the cost exact names the price of the earlier fill. -/
theorem report_price {pending : PendingEntry ℚ} {total : OrderTotal} {rest : List OrderTotal}
    {progress : PassiveOrderProgress} (accounts : pending.Accounts (total :: rest))
    (reports : ReportsOrder (total :: rest) progress)
    (exact : pending.ExactCost (total :: rest))
    (exactAfter : (pending.makerStep (.report progress)).ExactCost
      (OrderTotal.observe (total :: rest) (.report progress)))
    (head : total.quantity = 0 ∨ (0 < pending.makerLegFilled ∧
      total.price = pending.makerFillPrice))
    (counted : 0 < progress.cumulativeQuantity) :
    (0 < pending.makerLegFilled → progress.averagePrice = pending.makerFillPrice) ∧
      (pending.makerStep (.report progress)).makerFillPrice = progress.averagePrice := by
  rcases report_effect accounts reports with ⟨raised, filled, -, pushed, still, moved⟩
  have cost := exactAfter.1
  rw [pushed, exact.1] at cost
  simp only [OrderTotal.observe, totalNotional, List.map_cons, List.sum_cons,
    OrderTotal.notional] at cost
  -- The average of the order's earlier fill did not move.
  have unmoved : total.quantity * progress.averagePrice = total.quantity * total.price := by
    linarith
  have nonnegative := accounts.nonnegative total List.mem_cons_self
  rcases raised.eq_or_lt with same | more
  · have quantity : total.quantity ≠ 0 := by
      have : total.quantity = progress.cumulativeQuantity := by linarith
      rw [this]
      exact counted.ne'
    have average : progress.averagePrice = total.price := mul_left_cancel₀ quantity unmoved
    have price := (head.resolve_left quantity).2
    rw [still same.symm]
    exact ⟨fun _ => average.trans price, (average.trans price).symm⟩
  · refine ⟨?_, moved more⟩
    intro positive
    have whole := exactAfter.2 (by rw [filled]; linarith)
    rw [moved more, filled, ← exactAfter.1, pushed, eq_div_iff (by linarith)] at whole
    have before := exact.2 positive
    rw [← exact.1, eq_div_iff positive.ne'] at before
    have scaled : progress.averagePrice * pending.makerLegFilled =
        pending.makerFillPrice * pending.makerLegFilled := by linarith
    exact mul_right_cancel₀ positive.ne' scaled

theorem Accounts.maker_nonneg {pending : PendingEntry ℚ} {totals : List OrderTotal}
    (accounts : pending.Accounts totals) : 0 ≤ pending.makerLegFilled := by
  rw [accounts.filled]
  apply List.sum_nonneg
  intro quantity listed
  rcases List.mem_map.mp listed with ⟨total, here, rfl⟩
  exact accounts.nonnegative total here

/-- The fill price stays the price of everything reported. -/
theorem report_keeps_price {pending : PendingEntry ℚ} {total : OrderTotal}
    {rest : List OrderTotal} {progress : PassiveOrderProgress}
    (accounts : pending.Accounts (total :: rest)) (reports : ReportsOrder (total :: rest) progress)
    (exact : pending.ExactCost (total :: rest))
    (exactAfter : (pending.makerStep (.report progress)).ExactCost
      (OrderTotal.observe (total :: rest) (.report progress)))
    (head : total.quantity = 0 ∨ (0 < pending.makerLegFilled ∧
      total.price = pending.makerFillPrice)) :
    let after := pending.makerStep (.report progress)
    (0 < pending.makerLegFilled →
      0 < after.makerLegFilled ∧ after.makerFillPrice = pending.makerFillPrice) ∧
      (progress.cumulativeQuantity = 0 ∨
        (0 < after.makerLegFilled ∧ progress.averagePrice = after.makerFillPrice)) := by
  intro after
  rcases report_effect accounts reports with ⟨raised, filled, -, -, still, -⟩
  have nonnegative := accounts.nonnegative total List.mem_cons_self
  have maker := accounts.maker_nonneg
  have grows : pending.makerLegFilled ≤ after.makerLegFilled := by
    rw [filled]
    linarith
  rcases (nonnegative.trans (sub_nonneg.mp raised)).eq_or_lt with none | counted
  · have unmoved : progress.cumulativeQuantity - total.quantity = 0 := by linarith
    refine ⟨?_, Or.inl none.symm⟩
    intro positive
    exact ⟨positive.trans_le grows, still unmoved⟩
  · rcases report_price accounts reports exact exactAfter head counted with ⟨same, newest⟩
    refine ⟨?_, Or.inr ⟨?_, newest.symm⟩⟩
    · intro positive
      exact ⟨positive.trans_le grows, newest.trans (same positive)⟩
    · rcases raised.eq_or_lt with repeated | more
      · have quantity : total.quantity ≠ 0 := by
          have : total.quantity = progress.cumulativeQuantity := by linarith
          rw [this]
          exact counted.ne'
        exact (head.resolve_left quantity).1.trans_le grows
      · rw [filled]
        linarith

theorem run_priced {pending : PendingEntry ℚ} (unfilled : pending.makerLegFilled = 0)
    {events : List MakerEvent} (reported : WellReported events)
    (exact : ∀ before after, events = before ++ after →
      (pending.makerRun before).ExactCost (orderTotals before)) :
    Priced events (pending.makerRun events) := by
  induction events using List.reverseRecOn with
  | nil =>
      constructor
      · intro progress listed
        cases listed
      · intro total listed
        cases listed
  | append_singleton before event ih =>
      have reportedBefore := well_reported_before reported
      have earlier := ih reportedBefore (by
        intro early late split
        exact exact early (late ++ [event]) (by rw [split, List.append_assoc]))
      have accounts := run_accounts unfilled reportedBefore
      rw [maker_run_snoc]
      cases event with
      | accepted cycle =>
          obtain ⟨filled, price, -⟩ := accepted_effect (pending.makerRun before) cycle
          constructor
          · intro progress listed
            rw [filled, price]
            rcases List.mem_append.mp listed with old | new
            · exact earlier.reports progress old
            · simp at new
          · intro total listed
            rw [order_totals_snoc] at listed
            rw [filled, price]
            rcases List.mem_cons.mp listed with new | old
            · rw [new]
              exact Or.inl rfl
            · exact earlier.totals total old
      | report progress =>
          have reports := reported before progress [] rfl
          rcases report_totals reports with ⟨total, rest, totals, observed⟩
          have exactBefore := exact before [.report progress] rfl
          have exactAfter := exact (before ++ [.report progress]) [] (by simp)
          rw [maker_run_snoc, order_totals_snoc] at exactAfter
          have head := earlier.totals total (by rw [totals]; exact List.mem_cons_self)
          have others : ∀ other ∈ rest, other.quantity = 0 ∨
              (0 < (pending.makerRun before).makerLegFilled ∧
                other.price = (pending.makerRun before).makerFillPrice) := by
            intro other listed
            exact earlier.totals other (by rw [totals]; exact List.mem_cons_of_mem total listed)
          rw [totals] at accounts reports exactBefore exactAfter observed
          rcases report_keeps_price accounts reports exactBefore exactAfter head with
            ⟨kept, newest⟩
          constructor
          · intro other listed counted
            rcases List.mem_append.mp listed with old | new
            · rcases earlier.reports other old counted with ⟨positive, price⟩
              rcases kept positive with ⟨after, same⟩
              exact ⟨after, price.trans same.symm⟩
            · have same : other = progress := by simpa using new
              subst same
              exact newest.resolve_left counted.ne'
          · intro other listed
            rw [order_totals_snoc, totals, observed] at listed
            rcases List.mem_cons.mp listed with new | old
            · rw [new]
              exact newest
            · rcases others other old with none | ⟨positive, price⟩
              · exact Or.inl none
              · rcases kept positive with ⟨after, same⟩
                exact Or.inr ⟨after, price.trans same.symm⟩

/-- From an unfilled entry without slices, the cost is exact after every event
exactly when every report of a fill names the same average price. -/
theorem cost_exact_iff (pending : PendingEntry ℚ) (unfilled : pending.makerLegFilled = 0)
    (fresh : pending.makerRemainderSlices = []) (events : List MakerEvent)
    (reported : WellReported events) :
    (∀ before after, events = before ++ after →
      (pending.makerRun before).remainderNotional = totalNotional (orderTotals before) ∧
        (0 < (pending.makerRun before).makerLegFilled →
          (pending.makerRun before).makerFillPrice =
            totalNotional (orderTotals before) / (pending.makerRun before).makerLegFilled)) ↔
      OnePrice events := by
  constructor
  · intro exact first second listedFirst listedSecond countedFirst countedSecond
    have priced := run_priced unfilled reported exact
    rw [(priced.reports first listedFirst countedFirst).2,
      (priced.reports second listedSecond countedSecond).2]
  · intro onePrice before after split
    rw [split] at onePrice reported
    have reportedBefore := well_reported_before reported
    obtain ⟨price, priced⟩ : ∃ price, ∀ progress, .report progress ∈ before →
        0 < progress.cumulativeQuantity → progress.averagePrice = price := by
      by_cases some : ∃ progress, .report progress ∈ before ∧ 0 < progress.cumulativeQuantity
      · rcases some with ⟨first, listed, counted⟩
        refine ⟨first.averagePrice, ?_⟩
        intro progress here positive
        exact onePrice progress first (List.mem_append_left _ here)
          (List.mem_append_left _ listed) positive counted
      · refine ⟨0, ?_⟩
        intro progress here positive
        exact absurd ⟨progress, here, positive⟩ some
    have accounts := run_accounts unfilled reportedBefore
    exact (run_uniform unfilled fresh reportedBefore priced).exact accounts

/-- One order with one report. -/
def oneReport : List MakerEvent :=
  [.accepted { targetQuantity := 10 }, .report { cumulativeQuantity := 4, averagePrice := 100 }]

theorem cost_exact_one_report :
    (unfilledEntry.makerRun oneReport).makerLegFilled = 4 ∧
      (unfilledEntry.makerRun oneReport).remainderNotional = totalNotional (orderTotals oneReport) ∧
      (0 < (unfilledEntry.makerRun oneReport).makerLegFilled →
        (unfilledEntry.makerRun oneReport).makerFillPrice =
          totalNotional (orderTotals oneReport) /
            (unfilledEntry.makerRun oneReport).makerLegFilled) := by
  have reported : WellReported oneReport := by
    intro before progress after split
    rcases before with _ | ⟨first, _ | ⟨second, rest⟩⟩
    · simp [oneReport] at split
    · simp only [oneReport, List.cons_append, List.cons.injEq, List.nil_append,
        MakerEvent.report.injEq] at split
      rcases split with ⟨rfl, rfl, rfl⟩
      exact ⟨⟨_, _, rfl, by decide +kernel, by decide +kernel⟩, fun _ => by decide +kernel⟩
    · simp [oneReport] at split
  have onePrice : OnePrice oneReport := by
    intro first second listedFirst listedSecond
    have sameFirst : first = { cumulativeQuantity := 4, averagePrice := 100 } := by
      simpa [oneReport] using listedFirst
    have sameSecond : second = { cumulativeQuantity := 4, averagePrice := 100 } := by
      simpa [oneReport] using listedSecond
    rw [sameFirst, sameSecond]
    intro _ _
    rfl
  have exact := (cost_exact_iff unfilledEntry rfl rfl oneReport reported).mpr onePrice
  exact ⟨by decide +kernel, exact oneReport [] rfl⟩

/-- A second report at a moved average. -/
def movedAverage : List MakerEvent :=
  oneReport ++ [.report { cumulativeQuantity := 8, averagePrice := 102 }]

theorem moved_average_reported : WellReported movedAverage := by
  intro before progress after split
  rcases before with _ | ⟨first, _ | ⟨second, _ | ⟨third, rest⟩⟩⟩
  · simp [movedAverage, oneReport] at split
  · simp only [movedAverage, oneReport, List.cons_append, List.cons.injEq, List.nil_append,
      MakerEvent.report.injEq] at split
    rcases split with ⟨rfl, rfl, rfl⟩
    exact ⟨⟨_, _, rfl, by decide +kernel, by decide +kernel⟩, fun _ => by decide +kernel⟩
  · simp only [movedAverage, oneReport, List.cons_append, List.cons.injEq, List.nil_append,
      MakerEvent.report.injEq] at split
    rcases split with ⟨rfl, rfl, rfl, rfl⟩
    exact ⟨⟨_, _, rfl, by decide +kernel, by decide +kernel⟩, fun _ => by decide +kernel⟩
  · simp [movedAverage, oneReport] at split

/-- Four units at 100 and eight at 102 on average cost 816; the slices say 808. -/
theorem moved_average_cost :
    unfilledEntry.makerLegFilled = 0 ∧ unfilledEntry.makerRemainderSlices = [] ∧
      WellReported movedAverage ∧
      totalNotional (orderTotals movedAverage) = 816 ∧
      (unfilledEntry.makerRun movedAverage).remainderNotional = 808 :=
  ⟨rfl, rfl, moved_average_reported, by decide +kernel, by decide +kernel⟩

end PendingEntry

end LightFee.Engine
