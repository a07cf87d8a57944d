import LightFee.Engine.HedgeJournal

/-!
# Replaying hedge submissions

The counters follow the usable totals alone, the order in flight follows the last record that
names or settles one, and the uncertainty follows the attempts. What a replay leaves is what a
second replay of the same records leaves, unless the entry holds slices of dust.
-/

namespace LightFee.Engine

open PendingEntry

/-! ## Counters -/

namespace PendingEntry

/-- No slice holds a quantity that counts as nothing without being nothing. -/
def NoDust (slices : List (PendingEntryRemainderSlice ℚ)) : Prop :=
  ∀ slice ∈ slices, slice.quantity ≤ 0 ∨ quantityDust < slice.quantity

/-- The hedge is complete, as a fill finds it. -/
def Hedged (pending : PendingEntry ℚ) : Prop := pending.missingHedgeQuantity ≤ quantityDust

theorem raiseHedge_filled (pending : PendingEntry ℚ) (totalQuantity : ℚ) :
    (pending.raiseHedge totalQuantity).hedgeLegFilled =
      if 1 / 10 ^ 12 < totalQuantity - pending.hedgeLegFilled then totalQuantity
      else pending.hedgeLegFilled := by
  rw [raiseHedge]
  split_ifs
  · exact (fifo_frame _ _).2.2
  · rfl

/-- A total is counted up to 1e-12, and the counter never falls. -/
theorem raiseHedge_counts (pending : PendingEntry ℚ) (totalQuantity : ℚ) :
    let counted := (pending.raiseHedge totalQuantity).hedgeLegFilled
    pending.hedgeLegFilled ≤ counted ∧ totalQuantity ≤ counted + 1 / 10 ^ 12 ∧
      (counted = pending.hedgeLegFilled ∨ counted = totalQuantity) := by
  intro counted
  have found : counted = if 1 / 10 ^ 12 < totalQuantity - pending.hedgeLegFilled then totalQuantity
      else pending.hedgeLegFilled := raiseHedge_filled pending totalQuantity
  split_ifs at found with raises
  · refine ⟨?_, ?_, Or.inr found⟩
    · rw [found]
      linarith [show (0 : ℚ) < 1 / 10 ^ 12 by norm_num]
    · rw [found]
      norm_num
  · refine ⟨found.ge, ?_, Or.inl found⟩
    rw [found]
    linarith [not_lt.mp raises]

/-- A total that is counted already changes nothing. -/
theorem raiseHedge_known {pending : PendingEntry ℚ} {totalQuantity : ℚ}
    (known : totalQuantity ≤ pending.hedgeLegFilled + 1 / 10 ^ 12) :
    pending.raiseHedge totalQuantity = pending := by
  rw [raiseHedge, if_neg (by linarith)]

/-- The counter after all totals: the greatest of them and the start, up to 1e-12. -/
theorem raises_count (totals : List ℚ) (pending : PendingEntry ℚ) :
    let counted := (totals.foldl raiseHedge pending).hedgeLegFilled
    pending.hedgeLegFilled ≤ counted ∧ (∀ total ∈ totals, total ≤ counted + 1 / 10 ^ 12) ∧
      (counted = pending.hedgeLegFilled ∨ counted ∈ totals) := by
  induction totals generalizing pending with
  | nil => exact ⟨le_rfl, List.forall_mem_nil _, Or.inl rfl⟩
  | cons total totals totals_ih =>
    obtain ⟨grown, covered, known⟩ := raiseHedge_counts pending total
    obtain ⟨later, others, reached⟩ := totals_ih (pending.raiseHedge total)
    rw [List.foldl_cons]
    refine ⟨grown.trans later, ?_, ?_⟩
    · intro other listed
      rcases List.mem_cons.mp listed with rfl | listed
      · linarith
      · exact others other listed
    · rcases reached with same | listed
      · rcases known with start | first
        · exact Or.inl (same.trans start)
        · exact Or.inr (List.mem_cons.mpr (Or.inl (same.trans first)))
      · exact Or.inr (List.mem_cons_of_mem _ listed)

theorem raises_known (totals : List ℚ) {pending : PendingEntry ℚ}
    (known : ∀ total ∈ totals, total ≤ pending.hedgeLegFilled + 1 / 10 ^ 12) :
    totals.foldl raiseHedge pending = pending := by
  induction totals with
  | nil => rfl
  | cons total totals totals_ih =>
    rw [List.foldl_cons, raiseHedge_known (known total List.mem_cons_self)]
    exact totals_ih fun other listed => known other (List.mem_cons_of_mem _ listed)

/-! ### Slices without dust -/

theorem consume_spent (slices : List (PendingEntryRemainderSlice ℚ)) {remaining : ℚ}
    (unsettled : quantityDust < remaining) (spent : ∀ slice ∈ slices, slice.quantity ≤ 0) :
    (consumeSlices remaining slices).1 = [] := by
  induction slices with
  | nil => rfl
  | cons slice rest rest_ih =>
    have nothing : max 0 slice.quantity ≤ quantityDust := by
      rw [max_eq_left (spent slice List.mem_cons_self)]
      exact dust_pos.le
    rw [consumeSlices, if_neg (not_le.mpr unsettled)]
    dsimp only
    rw [if_pos nothing]
    exact rest_ih fun other listed => spent other (List.mem_cons_of_mem _ listed)

theorem consume_noDust (slices : List (PendingEntryRemainderSlice ℚ)) (remaining : ℚ)
    (noDust : NoDust slices) : NoDust (consumeSlices remaining slices).1 := by
  induction slices generalizing remaining with
  | nil => exact noDust
  | cons slice rest rest_ih =>
    have others : NoDust rest := fun other listed => noDust other (List.mem_cons_of_mem _ listed)
    rw [consumeSlices]
    split_ifs with settled
    · exact noDust
    · dsimp only
      split_ifs with spent dust
      · exact rest_ih remaining others
      · exact rest_ih _ others
      · intro other listed
        rcases List.mem_cons.mp listed with rfl | listed
        · exact Or.inr (not_le.mp dust)
        · exact rest_ih _ others other listed

theorem push_noDust {pending : PendingEntry ℚ} (quantity : ℚ) (averagePrice : Option ℚ)
    (fillAtMs : Option Int) (noDust : NoDust pending.makerRemainderSlices) :
    NoDust (pending.pushMakerRemainderSlice quantity averagePrice fillAtMs).makerRemainderSlices := by
  by_cases whole : quantityDust < quantity
  · obtain ⟨slice, held, pushed⟩ := pending.push_slice averagePrice fillAtMs whole
    rw [pushed]
    intro other listed
    rcases List.mem_append.mp listed with listed | listed
    · exact noDust other listed
    · rw [List.mem_singleton.mp listed, held]
      exact Or.inr whole
  · have small : max 0 quantity ≤ quantityDust := max_le dust_pos.le (not_lt.mp whole)
    simp only [pushMakerRemainderSlice, if_pos small]
    exact noDust

theorem openSlices_noDust {pending : PendingEntry ℚ} (noDust : NoDust pending.makerRemainderSlices) :
    NoDust pending.openSlices := by
  rw [openSlices]
  split_ifs
  · exact push_noDust _ _ _ noDust
  · exact noDust

theorem consumed_noDust {pending : PendingEntry ℚ} (quantity : ℚ)
    (noDust : NoDust pending.makerRemainderSlices) :
    NoDust (pending.consumeHedgeQuantityFifo quantity).1.makerRemainderSlices := by
  rw [consumed_slices]
  split_ifs
  · exact noDust
  · exact consume_noDust _ _ (openSlices_noDust noDust)

theorem raiseHedge_noDust {pending : PendingEntry ℚ} (totalQuantity : ℚ)
    (noDust : NoDust pending.makerRemainderSlices) :
    NoDust (pending.raiseHedge totalQuantity).makerRemainderSlices := by
  rw [raiseHedge]
  split_ifs
  · exact consumed_noDust _ noDust
  · exact noDust

theorem raises_noDust (totals : List ℚ) {pending : PendingEntry ℚ}
    (noDust : NoDust pending.makerRemainderSlices) :
    NoDust (totals.foldl raiseHedge pending).makerRemainderSlices := by
  induction totals generalizing pending with
  | nil => exact noDust
  | cons total totals totals_ih => exact totals_ih (raiseHedge_noDust total noDust)

theorem legacy_falls (pending : PendingEntry ℚ) {totalQuantity : ℚ}
    (raised : pending.hedgeLegFilled ≤ totalQuantity) :
    { pending with hedgeLegFilled := totalQuantity }.legacyMissingHedgeQuantity ≤
      pending.legacyMissingHedgeQuantity :=
  max_le_max le_rfl (sub_le_sub_left raised _)

/-- What spent slices and the counters say together. -/
def Spent (pending : PendingEntry ℚ) : Prop :=
  (∀ slice ∈ pending.makerRemainderSlices, slice.quantity ≤ 0) ∧
    pending.legacyMissingHedgeQuantity ≤ quantityDust

theorem Spent.hedged {pending : PendingEntry ℚ} (spent : pending.Spent) : pending.Hedged := by
  have nothing : (pending.makerRemainderSlices.map (fun slice => max 0 slice.quantity)).sum = 0 :=
    List.sum_eq_zero fun quantity listed => by
      obtain ⟨slice, here, rfl⟩ := List.mem_map.mp listed
      exact max_eq_left (spent.1 slice here)
  rw [Hedged, missingHedgeQuantity, unmatchedMakerQuantity, nothing, if_neg (lt_irrefl _)]
  exact spent.2

/-- Without dust an entry is hedged only when it is spent. -/
theorem Hedged.spent {pending : PendingEntry ℚ} (hedged : pending.Hedged)
    (noDust : NoDust pending.makerRemainderSlices) : pending.Spent := by
  have held : ∀ slice ∈ pending.makerRemainderSlices, slice.quantity ≤
      (pending.makerRemainderSlices.map (fun slice => max 0 slice.quantity)).sum := by
    intro slice listed
    refine (le_max_right 0 slice.quantity).trans (List.single_le_sum ?_ _
      (List.mem_map_of_mem (f := fun slice => max 0 slice.quantity) listed))
    intro quantity here
    obtain ⟨other, _, rfl⟩ := List.mem_map.mp here
    exact le_max_left _ _
  rw [Hedged, missingHedgeQuantity, unmatchedMakerQuantity] at hedged
  split_ifs at hedged with open_
  · exfalso
    have small : ∀ slice ∈ pending.makerRemainderSlices, slice.quantity ≤ 0 := fun slice listed =>
      (noDust slice listed).resolve_right (not_lt.mpr ((held slice listed).trans hedged))
    refine open_.ne' (List.sum_eq_zero fun quantity here => ?_)
    obtain ⟨slice, listed, rfl⟩ := List.mem_map.mp here
    exact max_eq_left (small slice listed)
  · exact ⟨fun slice listed => (held slice listed).trans (not_lt.mp open_), hedged⟩

theorem Spent.consumed {pending : PendingEntry ℚ} (spent : pending.Spent) (quantity : ℚ) :
    (pending.consumeHedgeQuantityFifo quantity).1.Spent := by
  have closed : pending.openSlices = pending.makerRemainderSlices := by
    rw [openSlices, if_neg (fun opened => not_lt.mpr spent.2 opened.2)]
  refine ⟨?_, ?_⟩
  · rw [consumed_slices, closed]
    split_ifs with settled
    · exact spent.1
    · rw [consume_spent _ (not_le.mp settled) spent.1]
      exact List.forall_mem_nil _
  · rw [(consumed_book _ _).legacy]
    exact spent.2

/-- A hedged entry without dust stays hedged. -/
theorem raiseHedge_hedged {pending : PendingEntry ℚ} (totalQuantity : ℚ)
    (noDust : NoDust pending.makerRemainderSlices) (hedged : pending.Hedged) :
    (pending.raiseHedge totalQuantity).Hedged := by
  have spent := hedged.spent noDust
  rw [raiseHedge]
  split_ifs with raises
  · have raised : pending.hedgeLegFilled ≤ totalQuantity := by
      linarith [show (0 : ℚ) < 1 / 10 ^ 12 by norm_num]
    have counted : { pending with hedgeLegFilled := totalQuantity }.Spent :=
      ⟨spent.1, (pending.legacy_falls raised).trans spent.2⟩
    exact (counted.consumed _).hedged
  · exact hedged

end PendingEntry

/-! ## One record -/

namespace HedgeSubmit

/-- The cumulative quantity of a usable fill. -/
def total? : HedgeSubmit → Option ℚ
  | .filled fill => some fill.totalQuantity
  | _ => none

/-- The record names an order, or settles it. -/
def decides : HedgeSubmit → Bool
  | .unresolved owner => owner.owner.isSome
  | _ => true

/-- The order that a deciding record leaves in flight. -/
def leaves (pending : PendingEntry ℚ) : HedgeSubmit → Option (HedgeInflight ℚ)
  | .unresolved owner => owner.owner.map (RecordedOwner.inflight pending)
  | _ => none

end HedgeSubmit

/-- A report of progress raises the counters by its total. -/
theorem progress_book (pending : PendingEntry ℚ) (report : HedgeProgress) :
    SameBook (pending.raiseHedge report.newTotalQuantity)
      (applyPendingEntryHedgeProgress pending report).1 := by
  by_cases raises : 1 / 10 ^ 12 < report.newTotalQuantity - pending.hedgeLegFilled
  · have above : pending.hedgeLegFilled ≤ report.newTotalQuantity := by
      linarith [show (0 : ℚ) < 1 / 10 ^ 12 by norm_num]
    simp only [raiseHedge, applyPendingEntryHedgeProgress, max_eq_left above,
      max_eq_left (sub_nonneg.mpr above), if_pos raises]
    exact ⟨rfl, rfl, rfl, rfl, rfl, rfl, rfl, rfl, rfl, rfl, rfl⟩
  · have small : ¬ 1 / 10 ^ 12 <
        max (max report.newTotalQuantity pending.hedgeLegFilled - pending.hedgeLegFilled) 0 := by
      rw [not_lt, max_le_iff, sub_le_iff_le_add, max_le_iff]
      exact ⟨⟨by linarith, by norm_num⟩, by norm_num⟩
    simp only [raiseHedge, applyPendingEntryHedgeProgress, if_neg raises, if_neg small]
    exact ⟨rfl, rfl, rfl, rfl, rfl, rfl, rfl, rfl, rfl, rfl, rfl⟩

theorem fill_book (fill : HedgeFillRecord) (pending : PendingEntry ℚ) :
    SameBook (pending.raiseHedge fill.totalQuantity) (fill.apply pending) := by
  have named : SameBook pending { pending with
      hedgeClientOrderId :=
        if fill.clientOrderId = "" then pending.hedgeClientOrderId else fill.clientOrderId
      hedgeAttemptCount := max pending.hedgeAttemptCount fill.attempt } :=
    ⟨rfl, rfl, rfl, rfl, rfl, rfl, rfl, rfl, rfl, rfl, rfl⟩
  have counted := (named.raised fill.totalQuantity).trans (progress_book _
    { newTotalQuantity := fill.totalQuantity, price := fill.price, orderId := fill.orderId })
  exact counted.trans ⟨rfl, rfl, rfl, rfl, rfl, rfl, rfl, rfl, rfl, rfl, rfl⟩

theorem owner_book (owner : HedgeOwnerRecord) (pending : PendingEntry ℚ) :
    SameBook pending (owner.apply pending) :=
  ⟨rfl, rfl, rfl, rfl, rfl, rfl, rfl, rfl, rfl, rfl, rfl⟩

namespace ReplayedEntry

/-- The counters that a record leaves. -/
def raised (pending : PendingEntry ℚ) (submit : HedgeSubmit) : PendingEntry ℚ :=
  submit.total?.elim pending pending.raiseHedge

theorem step_book (state : ReplayedEntry) (submit : HedgeSubmit) :
    SameBook (raised state.pending submit) (state.step submit).pending := by
  cases submit with
  | filled fill =>
    exact (fill_book fill state.pending).trans
      ⟨rfl, rfl, rfl, rfl, rfl, rfl, rfl, rfl, rfl, rfl, rfl⟩
  | rejected owner =>
    exact (owner_book owner state.pending).trans
      ⟨rfl, rfl, rfl, rfl, rfl, rfl, rfl, rfl, rfl, rfl, rfl⟩
  | unresolved owner =>
    exact (owner_book owner state.pending).trans
      ⟨rfl, rfl, rfl, rfl, rfl, rfl, rfl, rfl, rfl, rfl, rfl⟩

theorem step_inflight (state : ReplayedEntry) (submit : HedgeSubmit) :
    (state.step submit).pending.hedgeInflight =
      if submit.decides then submit.leaves state.pending else state.pending.hedgeInflight := by
  cases submit with
  | filled fill => rfl
  | rejected owner => rfl
  | unresolved owner =>
    rw [HedgeSubmit.decides, HedgeSubmit.leaves]
    change (owner.owner.map (RecordedOwner.inflight state.pending)).or state.pending.hedgeInflight =
      _
    cases owner.owner <;> rfl

/-! ## The whole replay -/

theorem run_append (state : ReplayedEntry) (submits : List HedgeSubmit) (submit : HedgeSubmit) :
    state.run (submits ++ [submit]) = (state.run submits).step submit := by
  rw [run, List.foldl_append, ← run]
  rfl

/-- The counters follow the usable totals alone. -/
theorem run_book (state : ReplayedEntry) (submits : List HedgeSubmit) :
    SameBook ((submits.filterMap HedgeSubmit.total?).foldl raiseHedge state.pending)
      (state.run submits).pending := by
  induction submits using List.reverseRecOn with
  | nil => exact SameBook.refl _
  | append_singleton submits submit submits_ih =>
    rw [run_append, List.filterMap_append, List.foldl_append]
    refine SameBook.trans ?_ (step_book _ submit)
    cases submit with
    | filled fill => exact submits_ih.raised fill.totalQuantity
    | rejected owner => exact submits_ih
    | unresolved owner => exact submits_ih

/-- The order in flight is the one that the last deciding record leaves. -/
theorem run_inflight (state : ReplayedEntry) (submits : List HedgeSubmit) :
    (state.run submits).pending.hedgeInflight =
      (LastMatch.find HedgeSubmit.decides submits).elim state.pending.hedgeInflight
        (HedgeSubmit.leaves (state.run submits).pending) := by
  induction submits using List.reverseRecOn with
  | nil => rfl
  | append_singleton submits submit submits_ih =>
    rw [run_append, step_inflight, LastMatch.find_append]
    cases submit with
    | filled fill => rfl
    | rejected owner => rfl
    | unresolved owner =>
      have same := step_book (state.run submits) (.unresolved owner)
      have leaves : ∀ submit : HedgeSubmit, submit.leaves (state.run submits).pending =
          submit.leaves ((state.run submits).step (.unresolved owner)).pending := by
        intro submit
        cases submit with
        | unresolved other =>
          exact congrArg (Option.map · other.owner) (funext same.owner)
        | _ => rfl
      split_ifs
      · exact leaves _
      · rw [submits_ih]
        cases LastMatch.find HedgeSubmit.decides submits with
        | none => rfl
        | some last => exact leaves last

/-! ## Uncertainty and outcome -/

/-- The uncertainty, the outcome and what was uncertain before an unresolved attempt. -/
structure Flags where
  uncertain : Bool
  outcome : String
  before : Option Bool

def flags (state : ReplayedEntry) : Flags where
  uncertain := state.pending.uncertainOutcome
  outcome := state.pending.outcome
  before := state.uncertainBefore

/-- What a record makes of the flags, for a fill that completes the hedge or not. -/
def Flags.after (hedged : Bool) (flags : Flags) : HedgeSubmit → Flags
  | .filled _ =>
    if hedged then { uncertain := false, outcome := "filled", before := none }
    else
      { uncertain := flags.before.getD flags.uncertain, outcome := flags.outcome, before := none }
  | .rejected _ =>
    { uncertain := flags.before.getD flags.uncertain, outcome := flags.outcome, before := none }
  | .unresolved owner =>
    { uncertain := true
      outcome :=
        if owner.acceptedFillUnconfirmed then "hedge_accepted_fill_unconfirmed"
        else flags.outcome
      before := owner.uncertainBeforeSubmit.or flags.before }

/-- The flags of a run without a completing fill. -/
def Flags.run (flags : Flags) (submits : List HedgeSubmit) : Flags :=
  submits.foldl (Flags.after false) flags

theorem Flags.run_append (flags : Flags) (submits : List HedgeSubmit) (submit : HedgeSubmit) :
    flags.run (submits ++ [submit]) = (flags.run submits).after false submit := by
  rw [Flags.run, List.foldl_append, ← Flags.run]
  rfl

theorem consumed_flags (pending : PendingEntry ℚ) (quantity : ℚ) :
    (pending.consumeHedgeQuantityFifo quantity).1.uncertainOutcome = pending.uncertainOutcome ∧
      (pending.consumeHedgeQuantityFifo quantity).1.outcome = pending.outcome := by
  unfold consumeHedgeQuantityFifo pushMakerRemainderSlice
  dsimp only
  split_ifs <;> exact ⟨rfl, rfl⟩

theorem progress_flags (pending : PendingEntry ℚ) (report : HedgeProgress) :
    (applyPendingEntryHedgeProgress pending report).1.uncertainOutcome =
        pending.uncertainOutcome ∧
      (applyPendingEntryHedgeProgress pending report).1.outcome = pending.outcome := by
  unfold applyPendingEntryHedgeProgress
  dsimp only
  split_ifs
  · exact consumed_flags _ _
  · exact ⟨rfl, rfl⟩

theorem fill_flags (fill : HedgeFillRecord) (pending : PendingEntry ℚ) :
    (fill.apply pending).uncertainOutcome = pending.uncertainOutcome ∧
      (fill.apply pending).outcome = pending.outcome :=
  progress_flags _ _

theorem step_flags (state : ReplayedEntry) (submit : HedgeSubmit) :
    (state.step submit).flags = state.flags.after
      (decide ((state.step submit).pending.missingHedgeQuantity ≤ quantityDust)) submit := by
  cases submit with
  | filled fill =>
    have same : (state.step (.filled fill)).pending.missingHedgeQuantity =
        (fill.apply state.pending).missingHedgeQuantity := rfl
    obtain ⟨uncertain, outcome⟩ := fill_flags fill state.pending
    rw [same]
    simp only [flags, step, Flags.after, priorUncertain, uncertain, outcome]
    by_cases hedged : (fill.apply state.pending).missingHedgeQuantity ≤ quantityDust
    · simp only [hedged, decide_true, Bool.not_true, Bool.false_and, if_true]
    · simp only [hedged, decide_false, Bool.not_false, Bool.true_and, if_false,
        Bool.false_eq_true]
  | rejected owner => rfl
  | unresolved owner => rfl

/-- Only a fill asks whether the hedge is complete. -/
theorem after_unfilled {submit : HedgeSubmit} (unfilled : submit.total? = none) (hedged : Bool)
    (flags : Flags) : flags.after hedged submit = flags.after false submit := by
  cases submit with
  | filled fill => cases unfilled
  | rejected owner => rfl
  | unresolved owner => rfl

theorem unfilled_flags (state : ReplayedEntry) (submits : List HedgeSubmit)
    (unfilled : ∀ submit ∈ submits, submit.total? = none) :
    (state.run submits).flags = state.flags.run submits := by
  induction submits using List.reverseRecOn with
  | nil => rfl
  | append_singleton submits submit submits_ih =>
    rw [run_append, step_flags, Flags.run_append,
      submits_ih fun other listed => unfilled other (List.mem_append_left _ listed)]
    exact after_unfilled (unfilled submit (List.mem_append_right _ List.mem_cons_self)) _ _

theorem run_noDust {state : ReplayedEntry} (noDust : NoDust state.pending.makerRemainderSlices)
    (submits : List HedgeSubmit) :
    NoDust (state.run submits).pending.makerRemainderSlices := by
  rw [← (state.run_book submits).slices]
  exact raises_noDust _ noDust

/-- A run that ends without a complete hedge never had one. -/
theorem open_flags {state : ReplayedEntry} (noDust : NoDust state.pending.makerRemainderSlices)
    (submits : List HedgeSubmit) (unhedged : ¬ (state.run submits).pending.Hedged) :
    (state.run submits).flags = state.flags.run submits := by
  induction submits using List.reverseRecOn with
  | nil => rfl
  | append_singleton submits submit submits_ih =>
    rw [run_append] at unhedged ⊢
    have earlier : ¬ (state.run submits).pending.Hedged := by
      intro hedged
      refine unhedged ?_
      rw [Hedged, ← (step_book (state.run submits) submit).missing]
      cases submit with
      | filled fill => exact raiseHedge_hedged _ (run_noDust noDust submits) hedged
      | rejected owner => exact hedged
      | unresolved owner => exact hedged
    have missed : ¬ ((state.run submits).step submit).pending.missingHedgeQuantity ≤
        quantityDust := unhedged
    rw [step_flags, Flags.run_append, submits_ih earlier, decide_eq_false missed]

/-- Every list of records has a last fill, or none. -/
theorem last_fill (submits : List HedgeSubmit) :
    (∀ submit ∈ submits, submit.total? = none) ∨
      ∃ front fill back, submits = front ++ .filled fill :: back ∧
        ∀ submit ∈ back, submit.total? = none := by
  induction submits with
  | nil => exact Or.inl (List.forall_mem_nil _)
  | cons submit submits submits_ih =>
    rcases submits_ih with unfilled | ⟨front, fill, back, rfl, unfilled⟩
    · cases submit with
      | filled fill => exact Or.inr ⟨[], fill, submits, rfl, unfilled⟩
      | rejected owner => exact Or.inl (List.forall_mem_cons.mpr ⟨rfl, unfilled⟩)
      | unresolved owner => exact Or.inl (List.forall_mem_cons.mpr ⟨rfl, unfilled⟩)
    · exact Or.inr ⟨submit :: front, fill, back, rfl, unfilled⟩

/-- When the hedge is complete at the end, the last fill completed it. -/
theorem hedged_flags (state : ReplayedEntry) {front back : List HedgeSubmit}
    {fill : HedgeFillRecord} (unfilled : ∀ submit ∈ back, submit.total? = none)
    (hedged : (state.run (front ++ .filled fill :: back)).pending.Hedged) :
    (state.run (front ++ .filled fill :: back)).flags =
      Flags.run { uncertain := false, outcome := "filled", before := none } back := by
  have split : state.run (front ++ .filled fill :: back) =
      ((state.run front).step (.filled fill)).run back := by
    rw [run, List.foldl_append, List.foldl_cons]
    rfl
  rw [split] at hedged ⊢
  have settled : (((state.run front).step (.filled fill)).pending.missingHedgeQuantity) ≤
      quantityDust := by
    have book := ((state.run front).step (.filled fill)).run_book back
    rw [List.filterMap_eq_nil_iff.mpr unfilled] at book
    exact book.missing.trans_le hedged
  rw [unfilled_flags _ _ unfilled, step_flags, decide_eq_true settled]
  rfl

/-! ## The flags of a second replay -/

/-- An outcome is set by the records, or left as it was. -/
theorem Flags.run_outcome (left right : Flags) (submits : List HedgeSubmit) :
    (left.run submits).outcome = (right.run submits).outcome ∨
      ((left.run submits).outcome = left.outcome ∧
        (right.run submits).outcome = right.outcome) := by
  induction submits using List.reverseRecOn with
  | nil => exact Or.inr ⟨rfl, rfl⟩
  | append_singleton submits submit submits_ih =>
    rw [Flags.run_append, Flags.run_append]
    cases submit with
    | filled fill => exact submits_ih
    | rejected owner => exact submits_ih
    | unresolved owner =>
      simp only [Flags.after]
      split_ifs
      · exact Or.inl rfl
      · exact submits_ih

/-- Without an earlier attempt the uncertainty is set by the records, or left as it was. -/
theorem Flags.run_uncertain {left right : Flags} (leftFresh : left.before = none)
    (rightFresh : right.before = none) (submits : List HedgeSubmit) :
    (left.run submits).before = (right.run submits).before ∧
      ((left.run submits).uncertain = (right.run submits).uncertain ∨
        ((left.run submits).before = none ∧ (left.run submits).uncertain = left.uncertain ∧
          (right.run submits).uncertain = right.uncertain)) := by
  induction submits using List.reverseRecOn with
  | nil => exact ⟨leftFresh.trans rightFresh.symm, Or.inr ⟨leftFresh, rfl, rfl⟩⟩
  | append_singleton submits submit submits_ih =>
    obtain ⟨befores, uncertains⟩ := submits_ih
    have resolved : (left.run submits).before.getD (left.run submits).uncertain =
        (right.run submits).before.getD (right.run submits).uncertain ∨
          (left.run submits).before.getD (left.run submits).uncertain = left.uncertain ∧
            (right.run submits).before.getD (right.run submits).uncertain = right.uncertain := by
      rcases uncertains with same | ⟨fresh, kept⟩
      · exact Or.inl (by rw [befores, same])
      · rw [← befores, fresh]
        exact Or.inr kept
    rw [Flags.run_append, Flags.run_append]
    cases submit with
    | filled fill => exact ⟨rfl, resolved.imp_right fun kept => ⟨rfl, kept⟩⟩
    | rejected owner => exact ⟨rfl, resolved.imp_right fun kept => ⟨rfl, kept⟩⟩
    | unresolved owner => exact ⟨congrArg owner.uncertainBeforeSubmit.or befores, Or.inl rfl⟩

/-- What is still open at the end leaves the entry uncertain. -/
theorem Flags.run_open {start : Flags} (fresh : start.before = none) {submits : List HedgeSubmit}
    (unsettled : (start.run submits).before ≠ none) (other : Flags) :
    (other.run submits).uncertain = true := by
  rcases List.eq_nil_or_concat submits with rfl | ⟨front, last, rfl⟩
  · exact absurd fresh unsettled
  · rw [List.concat_eq_append, Flags.run_append] at unsettled ⊢
    cases last with
    | filled fill => exact absurd rfl unsettled
    | rejected owner => exact absurd rfl unsettled
    | unresolved owner => rfl

/-- The flags that a run leaves are those that it leaves again. -/
theorem Flags.run_again {start : Flags} (fresh : start.before = none)
    (submits : List HedgeSubmit) :
    ((start.run submits).run submits).uncertain = (start.run submits).uncertain ∧
      ((start.run submits).run submits).outcome = (start.run submits).outcome := by
  refine ⟨?_, ?_⟩
  · by_cases settled : (start.run submits).before = none
    · rcases (Flags.run_uncertain fresh settled submits).2 with same | ⟨-, -, kept⟩
      · exact same.symm
      · exact kept
    · rw [Flags.run_open fresh settled, Flags.run_open fresh settled]
  · rcases Flags.run_outcome start (start.run submits) submits with same | ⟨-, kept⟩
    · exact same.symm
    · exact kept

/-! ## Replaying again -/

/-- A replayed entry is raised by none of its totals again. -/
theorem second_book (state : ReplayedEntry) (submits : List HedgeSubmit) :
    SameBook (state.run submits).pending ((state.run submits).run submits).pending := by
  have again := (state.run submits).run_book submits
  have counted := (state.run_book submits).hedgeLegFilled
  rwa [raises_known _ fun total listed => ?_] at again
  rw [← counted]
  exact (raises_count _ state.pending).2.1 total listed

/-- The flags of a second replay of a fresh entry without dust. -/
theorem flags_again {state : ReplayedEntry} (fresh : state.uncertainBefore = none)
    (noDust : NoDust state.pending.makerRemainderSlices) (submits : List HedgeSubmit) :
    ((state.run submits).run submits).flags.uncertain = (state.run submits).flags.uncertain ∧
      ((state.run submits).run submits).flags.outcome = (state.run submits).flags.outcome := by
  have same := state.second_book submits
  by_cases hedged : (state.run submits).pending.Hedged
  · rcases last_fill submits with unfilled | ⟨front, fill, back, rfl, unfilled⟩
    · rw [unfilled_flags _ _ unfilled, unfilled_flags _ _ unfilled]
      exact Flags.run_again fresh submits
    · have still : ((state.run (front ++ .filled fill :: back)).run
          (front ++ .filled fill :: back)).pending.Hedged := same.missing.symm.trans_le hedged
      rw [hedged_flags state unfilled hedged, hedged_flags _ unfilled still]
      exact ⟨rfl, rfl⟩
  · have open_ : ¬ ((state.run submits).run submits).pending.Hedged :=
      fun still => hedged (same.missing.trans_le still)
    rw [open_flags (run_noDust noDust submits) submits open_, open_flags noDust submits hedged]
    exact Flags.run_again fresh submits

theorem inflight_again (state : ReplayedEntry) (submits : List HedgeSubmit) :
    ((state.run submits).run submits).pending.hedgeInflight =
      (state.run submits).pending.hedgeInflight := by
  have same := state.second_book submits
  have first := state.run_inflight submits
  rw [run_inflight]
  cases last : LastMatch.find HedgeSubmit.decides submits with
  | none => rfl
  | some submit =>
    rw [last] at first
    refine Eq.trans ?_ first.symm
    cases submit with
    | unresolved owner => exact congrArg (Option.map · owner.owner) (funext same.symm.owner)
    | _ => rfl

end ReplayedEntry

/-! ## Records -/

/-- What the records say. -/
def readSubmits [TextCase] (records : List HedgeSubmitRecord) : List HedgeSubmit :=
  records.filterMap (fun record => record.read.toOption)

/-- Cumulative quantities of the usable filled results. -/
def usableTotals (submits : List HedgeSubmit) : List ℚ := submits.filterMap HedgeSubmit.total?

def RecordedOwner.clientOrderId : RecordedOwner → String
  | .restored inflight => inflight.clientOrderId
  | .named clientOrderId _ _ _ _ => clientOrderId

/-- The client order id that a deciding record leaves in flight; a settling record leaves none. -/
def HedgeSubmit.ownerId : HedgeSubmit → Option String
  | .unresolved owner => owner.owner.map RecordedOwner.clientOrderId
  | _ => none

namespace ReplayedEntry

/-- Once the records are readable for one entry, they replay over every entry. -/
theorem replay_run [TextCase] (records : List HedgeSubmitRecord) {state final : ReplayedEntry}
    (returned : state.replay records = .ok final) (other : ReplayedEntry) :
    other.replay records = .ok (other.run (readSubmits records)) := by
  induction records generalizing state other with
  | nil => rfl
  | cons record records records_ih =>
    rw [replay] at returned ⊢
    cases read : record.read with
    | error fault =>
      rw [read] at returned
      cases returned
    | ok submit =>
      rw [read] at returned
      have said : readSubmits (record :: records) = submit :: readSubmits records := by
        rw [readSubmits, List.filterMap_cons, read]
        rfl
      rw [said]
      exact records_ih returned (other.step submit)

theorem leaves_ownerId (pending : PendingEntry ℚ) (submit : HedgeSubmit) :
    (submit.leaves pending).map HedgeInflight.clientOrderId = submit.ownerId := by
  cases submit with
  | unresolved owner =>
    rw [HedgeSubmit.leaves, HedgeSubmit.ownerId, Option.map_map]
    congr 1
    funext recorded
    cases recorded <;> rfl
  | _ => rfl

end ReplayedEntry

/-- What a replay makes of an entry. -/
structure HedgeSettled (pending : PendingEntry ℚ) (submits : List HedgeSubmit)
    (first : PendingEntry ℚ) : Prop where
  grown : pending.hedgeLegFilled ≤ first.hedgeLegFilled
  covers : ∀ total ∈ usableTotals submits, total ≤ first.hedgeLegFilled + 1 / 10 ^ 12
  known : first.hedgeLegFilled = pending.hedgeLegFilled ∨
    first.hedgeLegFilled ∈ usableTotals submits
  slices : first.makerRemainderSlices =
    ((usableTotals submits).foldl raiseHedge pending).makerRemainderSlices
  owner : first.hedgeInflight.map HedgeInflight.clientOrderId =
    (LastMatch.find HedgeSubmit.decides submits).elim
      (pending.hedgeInflight.map HedgeInflight.clientOrderId) HedgeSubmit.ownerId

/-- What a second replay leaves as it was. -/
structure HedgeRepeated (first second : PendingEntry ℚ) : Prop where
  filled : second.hedgeLegFilled = first.hedgeLegFilled
  inflight : second.hedgeInflight = first.hedgeInflight
  slices : second.makerRemainderSlices = first.makerRemainderSlices

/-- The counters of a replayed entry follow its usable totals, its order in flight the last record
that names or settles one. A second replay changes neither; without slices of dust it changes the
uncertainty and the outcome neither. -/
theorem hedge_replay_settles [TextCase] (pending : PendingEntry ℚ)
    (records : List HedgeSubmitRecord) {first : ReplayedEntry}
    (returned : ({ pending := pending } : ReplayedEntry).replay records = .ok first) :
    HedgeSettled pending (readSubmits records) first.pending ∧
      ∃ second, first.replay records = .ok second ∧
        HedgeRepeated first.pending second.pending ∧
        (NoDust pending.makerRemainderSlices →
          second.pending.uncertainOutcome = first.pending.uncertainOutcome ∧
            second.pending.outcome = first.pending.outcome) := by
  have ran := ReplayedEntry.replay_run records returned { pending := pending }
  obtain rfl := Except.ok.inj (returned.symm.trans ran)
  have book := ReplayedEntry.run_book { pending := pending } (readSubmits records)
  obtain ⟨grown, covers, known⟩ := raises_count (usableTotals (readSubmits records)) pending
  have counted : ((usableTotals (readSubmits records)).foldl raiseHedge pending).hedgeLegFilled =
      _ := book.hedgeLegFilled
  rw [counted] at grown covers known
  refine ⟨⟨grown, covers, known, book.slices.symm, ?_⟩, _,
    ReplayedEntry.replay_run records returned _, ⟨?_, ?_, ?_⟩, ?_⟩
  · rw [ReplayedEntry.run_inflight]
    cases LastMatch.find HedgeSubmit.decides (readSubmits records) with
    | none => rfl
    | some last => exact ReplayedEntry.leaves_ownerId _ last
  · exact (ReplayedEntry.second_book _ _).hedgeLegFilled.symm
  · exact ReplayedEntry.inflight_again _ _
  · exact (ReplayedEntry.second_book _ _).slices.symm
  · exact fun noDust => ReplayedEntry.flags_again rfl noDust _

/-! ## Replays at the tolerances -/

local instance hedgeReplayCase : TextCase := TextCase.ascii

/-- An entry on two venues with a maker fill and these slices of it. -/
def makerFilled (makerLegFilled : ℚ) (slices : List ℚ) : PendingEntry ℚ :=
  { unfilledEntry with
    makerLegFilled := makerLegFilled
    makerRemainderSlices := slices.map (fun quantity =>
      { quantity := quantity, notionalQuote := 100 * quantity }) }

def filledRecord (totalQuantity : DynValue) : HedgeSubmitRecord where
  kind := .result
  payload := .dict [("outcome", .str "filled"), ("hedge_leg_filled", totalQuantity)]

def attemptRecord (clientOrderId : String) : HedgeSubmitRecord where
  kind := .attempt
  payload := .dict [("hedge_client_order_id", .str clientOrderId),
    ("hedge_venue", .str "bybit"), ("hedge_side", .str "sell"), ("hedge_quantity", .int 1),
    ("uncertain_outcome_before_submit", .bool false)]

def resultRecord (clientOrderId outcome : String) : HedgeSubmitRecord where
  kind := .result
  payload := .dict [("hedge_client_order_id", .str clientOrderId), ("outcome", .str outcome)]

/-- An attempt and its fill of the whole maker quantity. -/
def hedgedOnce : List HedgeSubmitRecord := [attemptRecord "h-1", filledRecord (.int 2)]

theorem hedge_replay_settles_once :
    ∃ first, ({ pending := makerFilled 2 [2] } : ReplayedEntry).replay hedgedOnce = .ok first ∧
      HedgeSettled (makerFilled 2 [2]) (readSubmits hedgedOnce) first.pending ∧
      ∃ second, first.replay hedgedOnce = .ok second ∧
        HedgeRepeated first.pending second.pending ∧
        (NoDust (makerFilled 2 [2]).makerRemainderSlices →
          second.pending.uncertainOutcome = first.pending.uncertainOutcome ∧
            second.pending.outcome = first.pending.outcome) := by
  have read : (({ pending := makerFilled 2 [2] } : ReplayedEntry).replay hedgedOnce).isOk =
      true := by decide +kernel
  cases returned : ({ pending := makerFilled 2 [2] } : ReplayedEntry).replay hedgedOnce with
  | error fault =>
    rw [returned] at read
    cases read
  | ok first => exact ⟨first, rfl, hedge_replay_settles _ _ returned⟩

/-- Two totals that differ by less than 1e-12. -/
def closeTotals : List HedgeSubmitRecord :=
  [filledRecord (.int 1),
    filledRecord (.float ⟨"1.0000000000005", .finite (1 + 5 / 10 ^ 13), by decide +kernel⟩)]

/-- Two totals, the first of which leaves dust on a slice. -/
def dustyTotals : List HedgeSubmitRecord :=
  [filledRecord (.float ⟨"0.9999999995", .finite (1 - 5 / 10 ^ 10), by decide +kernel⟩),
    filledRecord (.float ⟨"1.5", .finite (3 / 2), by decide +kernel⟩)]

/-- A result of the first of two attempts. -/
def lateResult : List HedgeSubmitRecord :=
  [attemptRecord "h-1", attemptRecord "h-2", resultRecord "h-1" "error"]

/-- An accepted order, a fill of nothing and a fill of one unit. -/
def acceptedThenFilled : List HedgeSubmitRecord :=
  [resultRecord "h-1" "accepted_fill_unconfirmed", filledRecord (.int 0), filledRecord (.int 1)]

def replayed (pending : PendingEntry ℚ) (records : List HedgeSubmitRecord) :
    Option ReplayedEntry :=
  (({ pending := pending } : ReplayedEntry).replay records).toOption

/-- A total within 1e-12 is not counted; dust makes two consumptions differ from one; the record
read last names the order, not the attempt made last; and a slice of dust passes for a complete
hedge in the first replay only. -/
theorem hedge_replay_tolerances :
    (replayed (makerFilled 2 [2]) closeTotals).map (fun first =>
        first.pending.hedgeLegFilled) = some 1 ∧
      (replayed (makerFilled 2 [1, 1]) dustyTotals).map (fun first =>
        (first.pending.makerRemainderSlices.map PendingEntryRemainderSlice.quantity,
          ({ makerFilled 2 [1, 1] with hedgeLegFilled := 3 / 2 }.consumeHedgeQuantityFifo
            (3 / 2)).1.makerRemainderSlices.map PendingEntryRemainderSlice.quantity)) =
        some ([1 / 2 - 5 / 10 ^ 10], [1 / 2]) ∧
      (replayed (makerFilled 2 [2]) lateResult).map (fun first =>
        first.pending.hedgeInflight.map HedgeInflight.clientOrderId) = some (some "h-1") ∧
      (replayed (makerFilled 5 [5 / 10 ^ 10]) acceptedThenFilled).map (fun first =>
        ((first.pending.uncertainOutcome, first.pending.outcome),
          (first.replay acceptedThenFilled).toOption.map (fun second =>
            (second.pending.uncertainOutcome, second.pending.outcome)))) =
        some ((false, "filled"), some (true, "hedge_accepted_fill_unconfirmed")) := by
  refine ⟨?_, ?_, ?_, ?_⟩
  · decide +kernel
  · decide +kernel
  · decide +kernel
  · decide +kernel

end LightFee.Engine
