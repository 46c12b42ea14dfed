import TokensFlux.Relay.Equiv.Groups

/-!
# The group ratio a request is priced with

A retry refreshes the ratio before the context is set up for its channel, so attempt `k` has the
ratio of its group over the channel of attempt `k - 1`; the snapshot of a billing expression keeps
the first one.  `Priced` is the invariant of the loop, and `relayLoop_ratios` says it of all passes.
-/

namespace TokensFlux

open List Option Bill RelayState AttemptEnv RelayConfig Except

/-! ### The ratios a bill uses -/

def attemptRatio (prices : PriceSettings) (info : RelayInfo) (a : Attempt) : ℚ :=
  (handleGroupRatio prices { info with usingGroup := a.group, channelId := a.channelId } none).2

theorem handleGroupRatio_snd {prices : PriceSettings} {info info' : RelayInfo}
    (h : info'.userGroup = info.userGroup) (autoGroup : Option String) :
    (handleGroupRatio prices info' autoGroup).2
      = attemptRatio prices info ⟨autoGroup.getD info'.usingGroup, info'.channelId⟩ := by
  unfold attemptRatio handleGroupRatio
  rw [h, getD_none]

def RelayInfo.withGroupRatio (info : RelayInfo) (ρ : ℚ) : RelayInfo :=
  { info with priceData := { info.priceData with groupRatio := ρ } }

theorem calculateTextToolCallSurcharge_eq (env : BillingEnv) (prices : TextPrices)
    (ctx : TextContext) (info : RelayInfo) :
    calculateTextToolCallSurcharge env prices ctx info = info.priceData.groupRatio
        * calculateTextToolCallSurcharge env prices ctx (info.withGroupRatio 1) := by
  unfold calculateTextToolCallSurcharge RelayInfo.withGroupRatio
  cases ctx.responsesUsageInfo with
  | none | some =>
    cases ctx.imageGenerationCall with
    | none | some => dsimp only; split_ifs <;> ring

variable {ρ : ℚ}

namespace Bill

variable (cfg : RelayConfig) (bill : Bill)

def usesSnapshot : Bool :=
  match bill.settlement with
  | .text _ _ => (bill.tiered cfg).isSome
  | .audio _ _ _ _ totalTokens => (bill.tiered cfg).isSome && decide (totalTokens ≠ 0)

/-- Without a billing expression, or for tools that were called. -/
def usesPrice : Bool :=
  match bill.settlement with
  | .text ctx usage =>
    if (bill.tiered cfg).isSome then
      calculateTextToolCallSurcharge cfg.billing cfg.textPrices ctx (bill.info.withGroupRatio 1) ≠ 0
    else (calculateTextQuotaSummary cfg.billing cfg.textPrices ctx bill.info usage).totalTokens ≠ 0
  | .audio _ _ _ _ totalTokens => (bill.tiered cfg).isNone && decide (totalTokens ≠ 0)

def usedGroupRatios : List ℚ :=
  (if bill.usesPrice cfg then [bill.info.priceData.groupRatio] else []) ++
    if bill.usesSnapshot cfg then (bill.tieredBillingSnapshot.map BillingSnapshot.groupRatio).toList
      else []

theorem forall_mem_usedGroupRatios : (∀ x ∈ bill.usedGroupRatios cfg, x = ρ)
      ↔ (bill.usesPrice cfg = true → bill.info.priceData.groupRatio = ρ) ∧
      (bill.usesSnapshot cfg = true →
          ∀ snap, bill.tieredBillingSnapshot = some snap → snap.groupRatio = ρ) := by
  unfold usedGroupRatios
  simp only [mem_append]
  constructor
  · intro h
    constructor
    · intro huses
      exact h _ (.inl (by rw [if_pos huses]; exact mem_singleton_self _))
    · intro huses snap hsnap
      exact h _ (.inr (by rw [if_pos huses, hsnap]; exact mem_singleton_self _))
  rintro ⟨hprice, hsnapshot⟩ x (hx | hx)
  · split_ifs at hx with huses
    · rw [mem_singleton.mp hx]
      exact hprice huses
    · cases hx
  split_ifs at hx with huses
  · rw [mem_toList] at hx
    obtain ⟨snap, hsnap, rfl⟩ := map_eq_some_iff.mp hx
    exact hsnapshot huses snap hsnap
  · cases hx

theorem exists_snapshot (h : bill.usesSnapshot cfg = true) :
    ∃ snap, bill.tieredBillingSnapshot = some snap := by
  have hsome : (bill.tiered cfg).isSome = true := by
    unfold usesSnapshot at h
    split at h
    · exact h
    · exact (Bool.and_eq_true_iff.mp h).1
  by_contra hnone
  obtain ⟨_, snapshot, settlement⟩ := bill
  cases snapshot with
  | some snap => exact hnone ⟨snap, rfl⟩
  | none =>
    cases settlement with
    | text _ usage =>
      cases usage with
      | none | some => cases hsome
    | audio => cases hsome

def withGroupRatio (ρ : ℚ) : Bill where
  info := bill.info.withGroupRatio ρ
  tieredBillingSnapshot := bill.tieredBillingSnapshot.map fun snap => { snap with groupRatio := ρ }
  settlement := bill.settlement

end Bill

theorem tryTieredSettle_withGroupRatio {expr : BillingExpr} {snap : Option BillingSnapshot} {ρ : ℚ}
    (preConsumed : ℤ) (params : TokenParams)
    (h : (tryTieredSettle expr snap preConsumed params).isSome = true → ∀ s, snap = some s →
      s.groupRatio = ρ) :
    tryTieredSettle expr (snap.map fun s => { s with groupRatio := ρ }) preConsumed params
      = tryTieredSettle expr snap preConsumed params := by
  obtain _ | s := snap
  · rfl
  by_cases hmode : s.billingMode = "tiered_expr"
  · have hsome : (tryTieredSettle expr (some s) preConsumed params).isSome = true := by
      unfold tryTieredSettle
      dsimp only
      rw [if_neg (not_not_intro hmode)]
      split <;> rfl
    rw [← h hsome s rfl]
    rfl
  · unfold tryTieredSettle
    dsimp only [map_some]
    rw [if_pos hmode, if_pos hmode]

namespace Bill

variable {cfg : RelayConfig} {bill : Bill} {ρ : ℚ}

theorem tiered_withGroupRatio (h : (bill.tiered cfg).isSome = true →
      ∀ snap, bill.tieredBillingSnapshot = some snap → snap.groupRatio = ρ) :
    (bill.withGroupRatio ρ).tiered cfg = bill.tiered cfg := by
  obtain ⟨_, snap, settlement⟩ := bill
  cases settlement with
  | text _ usage =>
    cases usage with
    | none => rfl
    | some =>
      cases snap with
      | none => rfl
      | some s => exact @tryTieredSettle_withGroupRatio cfg.expr (some s) ρ _ _ h
  | audio =>
    exact tryTieredSettle_withGroupRatio _ _ h

theorem withGroupRatio_self {info : RelayInfo} (h : info.priceData.groupRatio = ρ) :
    info.withGroupRatio ρ = info := by
  rw [← h]
  rfl

/-- **One ratio in the whole computation.** -/
theorem quota_withGroupRatio (h : ∀ x ∈ bill.usedGroupRatios cfg, x = ρ) :
    bill.quota cfg = (bill.withGroupRatio ρ).quota cfg := by
  obtain ⟨hprice, hsnapshot⟩ := (bill.forall_mem_usedGroupRatios cfg).mp h
  obtain ⟨info, snap, settlement⟩ := bill
  cases settlement with
  | text ctx usage =>
    have htiered : (withGroupRatio ⟨info, snap, .text ctx usage⟩ ρ).tiered cfg
        = tiered cfg ⟨info, snap, .text ctx usage⟩ := tiered_withGroupRatio hsnapshot
    show textQuota cfg.billing cfg.textPrices ctx info usage _
      = textQuota cfg.billing cfg.textPrices ctx (info.withGroupRatio ρ) usage _
    rw [htiered]
    unfold usesPrice at hprice
    dsimp only at hprice
    cases hcase : tiered cfg ⟨info, snap, .text ctx usage⟩ with
    | none =>
      rw [hcase, isSome_none, if_neg Bool.false_ne_true, decide_eq_true_eq] at hprice
      by_cases htokens : (calculateTextQuotaSummary cfg.billing cfg.textPrices ctx info
        usage).totalTokens = 0
      · have hzero : ∀ i, (calculateTextQuotaSummary cfg.billing cfg.textPrices ctx i
            usage).totalTokens = 0 → textQuota cfg.billing cfg.textPrices ctx i usage none = 0 := by
          intro i hi
          have hquota : textQuota cfg.billing cfg.textPrices ctx i usage none
              = (calculateTextQuotaSummary cfg.billing cfg.textPrices ctx i usage).quota := by
            cases usage with
            | none | some => rfl
          rw [hquota]
          exact if_pos hi
        rw [hzero info htokens, hzero (info.withGroupRatio ρ) htokens]
      · rw [withGroupRatio_self (hprice htokens)]
    | some tiered =>
      rw [hcase, isSome_some, if_pos rfl, decide_eq_true_eq] at hprice
      obtain _ | _ := usage
      · cases hcase
      have hsurcharge : calculateTextToolCallSurcharge cfg.billing cfg.textPrices ctx info
          = calculateTextToolCallSurcharge cfg.billing cfg.textPrices ctx
            (info.withGroupRatio ρ) := by
        by_cases htools : calculateTextToolCallSurcharge cfg.billing cfg.textPrices ctx
          (info.withGroupRatio 1) = 0
        · rw [calculateTextToolCallSurcharge_eq, htools, mul_zero,
            calculateTextToolCallSurcharge_eq]
          have hone : (info.withGroupRatio ρ).withGroupRatio 1 = info.withGroupRatio 1 := rfl
          rw [hone, htools, mul_zero]
        · rw [withGroupRatio_self (hprice htools)]
      show composeTieredTextQuota _ tiered = composeTieredTextQuota _ tiered
      unfold composeTieredTextQuota calculateTextQuotaSummary
      rw [hsurcharge]
  | audio inputDetails outputDetails modelName params totalTokens =>
    unfold usesPrice at hprice
    unfold usesSnapshot at hsnapshot
    by_cases htokens : totalTokens = 0
    · unfold quota withGroupRatio
      dsimp only
      rw [if_pos htokens, if_pos htokens]
    have htiered : (withGroupRatio ⟨info, snap, .audio inputDetails outputDetails modelName params
        totalTokens⟩ ρ).tiered cfg
        = tiered cfg ⟨info, snap, .audio inputDetails outputDetails modelName params totalTokens⟩ :=
      tiered_withGroupRatio fun hsome => hsnapshot (by rw [hsome]; simpa using htokens)
    unfold quota
    rw [htiered]
    cases hcase : tiered cfg ⟨info, snap,
      .audio inputDetails outputDetails modelName params totalTokens⟩ with
    | some => rfl
    | none =>
      have hratio := hprice (by rw [hcase]; simpa using htokens)
      show (if totalTokens = 0 then 0 else calculateAudioQuota _ _ _)
        = if totalTokens = 0 then 0 else calculateAudioQuota _ _ _
      unfold withGroupRatio
      rw [withGroupRatio_self hratio]

end Bill

/-! ### The ratio of an attempt -/

section Attempt

variable {cfg : RelayConfig} {env : AttemptEnv} {st : RelayState} {info : RelayInfo} {bill : Bill}

theorem PriceData.addOtherRatios_groupRatio (p : PriceData) (ratios : List (String × ℚ)) :
    (p.addOtherRatios ratios).groupRatio = p.groupRatio := by
  obtain ⟨_, h⟩ := p.addOtherRatios_eq ratios
  rw [h]

variable {settings : ModelPriceSettings} {price : PriceData} {count : TokenCountMeta}
  {promptTokens : ℤ}

theorem modelPriceHelperTiered_ratio {benv : BillingEnv} {expr : BillingExpr} {input : Option Err}
    {snap : BillingSnapshot}
    (h : modelPriceHelperTiered benv settings expr input info promptTokens count ρ =
      .ok (price, snap)) :
    price.groupRatio = ρ ∧ snap.groupRatio = ρ := by
  unfold modelPriceHelperTiered at h
  dsimp only at h
  split at h
  · cases h
  · cases h
  split at h
  · cases h
  · cases h
    exact ⟨rfl, rfl⟩

theorem modelPriceByRatio_ratio
    (h : modelPriceByRatio settings info promptTokens count ρ = .ok price) :
    price.groupRatio = ρ := by
  unfold modelPriceByRatio at h
  dsimp only at h
  split at h
  · cases h
  · cases h
    rfl

theorem exists_of_map_eq_ok {ε α β : Type*} {f : α → β} {x : Except ε α} {b : β}
    (h : x.map f = .ok b) :
    ∃ a, x = .ok a ∧ f a = b := by
  cases x with
  | error => cases h
  | ok a => exact ⟨a, rfl, ok.inj h⟩

theorem modelPriceHelper_ratio {benv : BillingEnv} {expr : BillingExpr} {input : Option Err}
    {autoGroup : Option String} {info' : RelayInfo} {snapshot : Option BillingSnapshot}
    (h : modelPriceHelper benv settings expr input info promptTokens count autoGroup =
      (info', .ok (price, snapshot))) :
    info' = (handleGroupRatio settings.toPriceSettings info autoGroup).1 ∧
      price.groupRatio = (handleGroupRatio settings.toPriceSettings info autoGroup).2 ∧
      (∀ snap, snapshot = some snap →
        snap.groupRatio = (handleGroupRatio settings.toPriceSettings info autoGroup).2) ∧
      (snapshot.isSome = true ↔ settings.getBillingMode info'.originModelName = "tiered_expr") := by
  unfold modelPriceHelper at h
  dsimp only at h
  split_ifs at h with hmode
  · obtain ⟨rfl, hok⟩ := Prod.mk.inj h
    obtain ⟨_, htiered, hresult⟩ := exists_of_map_eq_ok hok
    cases hresult
    obtain ⟨hprice, hsnap⟩ := modelPriceHelperTiered_ratio htiered
    refine ⟨rfl, hprice, ?_, iff_of_true rfl hmode⟩
    intro snap hsome
    cases hsome
    exact hsnap
  split at h
  · cases h
    exact ⟨rfl, rfl, fun _ hsome => absurd hsome (by simp), iff_of_false (by simp) hmode⟩
  obtain ⟨rfl, hok⟩ := Prod.mk.inj h
  obtain ⟨p, hratio, hresult⟩ := exists_of_map_eq_ok hok
  cases hresult
  exact ⟨rfl, modelPriceByRatio_ratio hratio, fun _ hsome => absurd hsome (by simp),
    iff_of_false (by simp) hmode⟩

theorem autoGroup_getD (hgroup : st.info.usingGroup = st.group) :
    st.ctx.autoGroup.getD st.info.usingGroup = st.group := by
  rw [hgroup, group]
  cases st.ctx.autoGroup with
  | none | some => rfl

theorem modelPrice_usingGroup (hcurrent : st.ctx.autoGroup.getD st.info.usingGroup = st.group)
    (count : TokenCountMeta) : (st.modelPrice cfg count).1.usingGroup = st.group := by
  unfold modelPrice modelPriceHelper
  dsimp only
  split_ifs
  · exact hcurrent
  · split <;> exact hcurrent

theorem modelPrice_ratio {count : TokenCountMeta} {info' : RelayInfo} {price : PriceData}
    {snapshot : Option BillingSnapshot}
    (hcurrent : st.ctx.autoGroup.getD st.info.usingGroup = st.group)
    (huser : st.info.userGroup = info.userGroup)
    (h : st.modelPrice cfg count = (info', .ok (price, snapshot))) :
    price.groupRatio = attemptRatio cfg.prices.toPriceSettings info ⟨st.group,
      st.getPriceChannelID⟩ ∧ (∀ snap, snapshot = some snap →
        snap.groupRatio = attemptRatio cfg.prices.toPriceSettings info ⟨st.group,
          st.getPriceChannelID⟩) ∧
      (snapshot.isSome = true ↔ cfg.prices.getBillingMode info'.originModelName =
        "tiered_expr") := by
  obtain ⟨rfl, hprice, hsnap, hmode⟩ := modelPriceHelper_ratio h
  have hratio := @handleGroupRatio_snd cfg.prices.toPriceSettings info
    { st.info with channelId := st.getPriceChannelID } huser st.ctx.autoGroup
  rw [hcurrent] at hratio
  rw [hratio] at hprice hsnap
  exact ⟨hprice, hsnap, hmode⟩

def RelayState.atAnswer (env : AttemptEnv) (st : RelayState) : RelayState :=
  { st.initChannelMeta with
    info := { st.initChannelMeta.info with
      originModelName := env.mapModelName st.info.originModelName
      priceData := st.info.priceData.addOtherRatios env.otherRatios } }

def RelayState.repriced (st : RelayState) (settlement : Settlement) :
    RelayInfo × Except Err (PriceData × Option BillingSnapshot) →
      RelayState × Except RelayError Bill
  | (info, .error e) =>
    ({ st with info := { st.info with usingGroup := info.usingGroup } },
      .error { message := e, errorCode := "model_price_error", statusCode := 400,
               skipRetry := true })
  | (info, .ok (priceData, snapshot)) =>
    ({ st with
        info := { st.info with usingGroup := info.usingGroup }
        tieredBillingSnapshot := snapshot.orElse fun _ => st.tieredBillingSnapshot },
      .ok ⟨{ info with priceData }, snapshot.orElse fun _ => st.tieredBillingSnapshot, settlement⟩)

theorem relayAttempt_compact {settlement : Settlement} (hresult : env.result = .ok settlement)
    (hcompact : cfg.compact = true) :
    relayAttempt cfg env st =
      (st.atAnswer env).repriced settlement ((st.atAnswer env).modelPrice cfg {}) := by
  unfold relayAttempt
  simp only [hresult, hcompact]
  rfl

/-- **One attempt**; only in compact mode is the price computed again. -/
theorem relayAttempt_cases (cfg : RelayConfig) (env : AttemptEnv) (st : RelayState) :
    (∃ e, relayAttempt cfg env st = (st.atAnswer env, .error e)) ∨
    (cfg.compact = false ∧ ∃ settlement, relayAttempt cfg env st
      = (st.atAnswer env, .ok ⟨(st.atAnswer env).info, st.tieredBillingSnapshot, settlement⟩)) ∨
    (cfg.compact = true ∧ ∃ info' e e', (st.atAnswer env).modelPrice cfg {} = (info', .error e) ∧
      relayAttempt cfg env st = ({ st.atAnswer env with
              info := { (st.atAnswer env).info with usingGroup := info'.usingGroup } }, .error
                e')) ∨
    (cfg.compact = true ∧ ∃ info' price snapshot settlement st',
      (st.atAnswer env).modelPrice cfg {} = (info', .ok (price, snapshot)) ∧
      relayAttempt cfg env st = (st', .ok ⟨{ info' with priceData := price },
            snapshot.orElse fun _ => st.tieredBillingSnapshot, settlement⟩)) := by
  cases hresult : env.result with
  | error e =>
    refine .inl ⟨e, ?_⟩
    unfold relayAttempt
    simp only [hresult]
    rfl
  | ok settlement =>
    cases hcompact : cfg.compact with
    | false =>
      refine .inr (.inl ⟨rfl, settlement, ?_⟩)
      unfold relayAttempt
      simp only [hresult, hcompact]
      rfl
    | true =>
      have hattempt := @relayAttempt_compact cfg env st settlement hresult hcompact
      cases hprice : (st.atAnswer env).modelPrice cfg {} with
      | mk info' result =>
        rw [hprice] at hattempt
        cases result with
        | error e => exact .inr (.inr (.inl ⟨rfl, info', e, _, rfl, hattempt⟩))
        | ok p => exact .inr (.inr (.inr ⟨rfl, info', p.1, p.2, settlement, _, rfl, hattempt⟩))

theorem relayAttempt_error {e : RelayError} (hgroup : st.info.usingGroup = st.group)
    (h : (relayAttempt cfg env st).2 = .error e) :
    (relayAttempt cfg env st).1.info.userGroup = st.info.userGroup ∧
      (relayAttempt cfg env st).1.info.usingGroup = st.group ∧
      (relayAttempt cfg env st).1.info.channelId = st.ctx.channelId ∧
      (relayAttempt cfg env st).1.tieredBillingSnapshot = st.tieredBillingSnapshot := by
  rcases relayAttempt_cases cfg env st with
    ⟨e', hst⟩ | ⟨-, settlement, hst⟩ | ⟨-, info', e₁, e₂, hprice, hst⟩ | ⟨-, _, _, _, _, _, -, hst⟩
  · rw [hst]
    exact ⟨rfl, hgroup, rfl, rfl⟩
  · rw [hst] at h
    cases h
  · rw [hst]
    have husing := @modelPrice_usingGroup cfg (st.atAnswer env) (autoGroup_getD hgroup) {}
    rw [hprice] at husing
    exact ⟨rfl, husing, rfl, rfl⟩
  · rw [hst] at h
    cases h

/-- **The ratios of a bill.** A compact response is priced again over its own channel. -/
theorem relayAttempt_ok (hgroup : st.info.usingGroup = st.group)
    (huser : st.info.userGroup = info.userGroup) (h : (relayAttempt cfg env st).2 = .ok bill) :
    bill.info.priceData.groupRatio
        = (if cfg.compact then attemptRatio cfg.prices.toPriceSettings info
          ⟨st.group, st.ctx.channelId⟩
          else st.info.priceData.groupRatio) ∧
      ∀ snap, bill.tieredBillingSnapshot = some snap →
        if cfg.compact = true ∧ cfg.prices.getBillingMode bill.info.originModelName =
        "tiered_expr" then
          snap.groupRatio = attemptRatio cfg.prices.toPriceSettings info
            ⟨st.group, st.ctx.channelId⟩
        else st.tieredBillingSnapshot = some snap := by
  rcases relayAttempt_cases cfg env st with
    ⟨e', hst⟩ | ⟨hcompact, settlement, hst⟩ | ⟨-, info', e₁, e₂, hprice, hst⟩ |
      ⟨hcompact, info', price, snapshot, settlement, st', hprice, hst⟩
  · rw [hst] at h
    cases h
  · rw [hst] at h
    cases h
    rw [hcompact]
    constructor
    · exact PriceData.addOtherRatios_groupRatio _ _
    · intro snap hsnap
      exact hsnap
  · rw [hst] at h
    cases h
  rw [hst] at h
  cases h
  obtain ⟨hratio, hsnap, hmode⟩ := @modelPrice_ratio cfg (st.atAnswer env) info _ _ _ _
    (autoGroup_getD hgroup) huser hprice
  rw [hcompact]
  refine ⟨hratio, ?_⟩
  intro snap hsome
  cases snapshot with
  | none =>
    have hnot := mt hmode.mpr (by simp)
    rw [if_neg fun hc => hnot hc.2]
    exact hsome
  | some =>
    rw [if_pos ⟨rfl, hmode.mp rfl⟩]
    exact hsnap snap hsome

end Attempt

/-! ### The ratios along a run -/

theorem autoGroup_select (cfg : RelayConfig) (env : AttemptEnv) (st : RelayState) :
    (st.select cfg env).ctx.autoGroup = st.ctx.autoGroup ∨
      ∃ g, (st.select cfg env).ctx.autoGroup = some g := by
  unfold select cacheGetRandomSatisfiedChannel
  split_ifs
  · exact .inl rfl
  · rcases selectAuto_cases fun h => absurd h (lt_irrefl _) with
      ⟨slot, c, htake, -⟩ | ⟨_, _, -, hnone⟩
    · rw [htake, takeSlot]
      split_ifs <;> exact .inr ⟨slot.group, rfl⟩
    · rw [hnone]
      exact .inl rfl
  · split <;> exact .inl rfl

section Run

variable {cfg : RelayConfig} {env : ℕ → AttemptEnv} {n : ℕ} {ctx : RelayContext} {info : RelayInfo}
  {st st' : RelayState} {bill : Bill}

/-- The price is that of the first attempt until there is one, and the snapshot stays so. -/
structure Priced (cfg : RelayConfig) (info : RelayInfo) (st : RelayState) : Prop where
  userGroup : st.info.userGroup = info.userGroup
  usingGroup : st.info.usingGroup = st.group
  hasChannelMeta : st.hasChannelMeta = true ↔ st.attempts ≠ []
  channelId : ∀ a, st.attempts.getLast? = some a → st.info.channelId = a.channelId
  price : st.attempts = [] →
    st.info.priceData.groupRatio = attemptRatio cfg.prices.toPriceSettings info
      ⟨st.group, st.ctx.channelId⟩
  snapshot : ∀ snap, st.tieredBillingSnapshot = some snap →
    snap.groupRatio = attemptRatio cfg.prices.toPriceSettings info
      (st.attempts.head?.getD ⟨st.group, st.ctx.channelId⟩)

/-- Its group over the channel of the attempt before it. -/
structure PricedAttempt (cfg : RelayConfig) (info : RelayInfo) (prev : List Attempt)
    (st : RelayState) : Prop where
  userGroup : st.info.userGroup = info.userGroup
  usingGroup : st.info.usingGroup = st.group
  attempts : st.attempts = prev
  price : st.info.priceData.groupRatio = attemptRatio cfg.prices.toPriceSettings info
    ⟨st.group, (prev.getLast?.getD ⟨st.group, st.ctx.channelId⟩).channelId⟩
  snapshot : ∀ snap, st.tieredBillingSnapshot = some snap →
    snap.groupRatio = attemptRatio cfg.prices.toPriceSettings info
      (prev.head?.getD ⟨st.group, st.ctx.channelId⟩)

theorem Priced.first (h : Priced cfg info st) (hmeta : st.hasChannelMeta = false) :
    PricedAttempt cfg info [] st := by
  have hnil : st.attempts = [] := by
    by_contra hne
    rw [h.hasChannelMeta.mpr hne] at hmeta
    cases hmeta
  refine ⟨h.userGroup, h.usingGroup, hnil, h.price hnil, ?_⟩
  intro snap hsnap
  have hratio := h.snapshot snap hsnap
  rwa [hnil] at hratio

theorem Priced.retry (h : Priced cfg info st) (hmeta : st.hasChannelMeta = true) (env : AttemptEnv)
    (c : Channel) : PricedAttempt cfg info st.attempts (st.toChannel cfg env c) := by
  obtain ⟨_, _, _, _, hctx, -⟩ :=
    cacheGetRandomSatisfiedChannel_frame
  have hframe : (st.select cfg env).ctx.usingGroup = st.ctx.usingGroup := by
    unfold select
    rw [hctx]
  obtain ⟨_, _, _, _, hsetup⟩ :=
    setupContextForSelectedChannel_frame (st.select cfg env).ctx (some c)
    st.info.originModelName env.draw
  -- The group that the ratio is read for is the group of the attempt.
  have hgroup : (st.select cfg env).ctx.autoGroup.getD st.info.usingGroup =
      (st.toChannel cfg env c).group := by
    have hto : (st.toChannel cfg env c).group =
        (st.select cfg env).ctx.autoGroup.getD st.ctx.usingGroup := by
      unfold group toChannel
      rw [hsetup, ← hframe]
    rw [hto, h.usingGroup, group]
    rcases autoGroup_select cfg env st with hsame | ⟨g, hg⟩
    · rw [hsame]
      cases st.ctx.autoGroup with
      | none | some => rfl
    · rw [hg]
      rfl
  have hne := h.hasChannelMeta.mp hmeta
  obtain ⟨last, hlast⟩ : ∃ a, st.attempts.getLast? = some a := ⟨_, getLast?_eq_some_getLast hne⟩
  obtain ⟨_, hfirst⟩ : ∃ a, st.attempts.head? = some a := ⟨_, head?_eq_some_head hne⟩
  refine ⟨h.userGroup, hgroup, rfl, ?_, ?_⟩
  · have hratio := @handleGroupRatio_snd cfg.prices.toPriceSettings info
      { st.info with channelId := st.info.channelId } h.userGroup (st.select cfg env).ctx.autoGroup
    rw [hgroup, h.channelId last hlast] at hratio
    rw [hlast, getD_some, ← hratio]
    show (handleGroupRatio _ { st.info with channelId := if st.hasChannelMeta then st.info.channelId
      else (st.select cfg env).ctx.channelId } _).2 = _
    rw [if_pos hmeta, h.channelId last hlast]
  · intro snap hsnap
    have hratio := h.snapshot snap hsnap
    rwa [hfirst, getD_some] at hratio ⊢

variable {channelId : ℤ}

theorem exists_error_of_relayOn {env : AttemptEnv} (hon : relayOn cfg env st channelId = .inl st') :
    ∃ e, (relayAttempt cfg env (st.addUsedChannel channelId)).2 = .error e ∧
      st'.info = (relayAttempt cfg env (st.addUsedChannel channelId)).1.info ∧
      st'.tieredBillingSnapshot =
      (relayAttempt cfg env (st.addUsedChannel channelId)).1.tieredBillingSnapshot := by
  unfold relayOn afterAttempt at hon
  dsimp only at hon
  split at hon
  · cases hon
  split at hon
  · cases hon
  rename_i e he
  split_ifs at hon
  obtain rfl := Sum.inl.inj hon
  exact ⟨e, he, rfl, rfl⟩

theorem ok_of_relayOn {env : AttemptEnv}
    (hon : relayOn cfg env st channelId = .inr (.served st' bill)) :
    (relayAttempt cfg env (st.addUsedChannel channelId)).2 = .ok bill ∧
      st' = (relayAttempt cfg env (st.addUsedChannel channelId)).1 := by
  unfold relayOn afterAttempt at hon
  dsimp only at hon
  split at hon
  · cases hon
  split at hon
  · rename_i bill' hbill
    cases hon
    exact ⟨hbill, rfl⟩
  · split_ifs at hon
    cases hon

theorem PricedAttempt.inl {prev : List Attempt} {env : AttemptEnv}
    (h : PricedAttempt cfg info prev st)
    (hon : relayOn cfg env st channelId = .inl st') : Priced cfg info st' := by
  obtain ⟨e, he, hinfo, hsnapshot⟩ := exists_error_of_relayOn hon
  obtain ⟨hctx, -, hmeta, hattempts⟩ := relayOn_inl hon
  obtain ⟨huser, husing, hchannel, hsnapshot'⟩ :=
    @relayAttempt_error cfg env (st.addUsedChannel channelId) _ h.usingGroup he
  have hgroup : st'.group = st.group := by
    unfold group
    rw [hctx]
    rfl
  refine ⟨?_, ?_, ?_, ?_, ?_, ?_⟩
  · rw [hinfo, huser]
    exact h.userGroup
  · rw [hinfo, husing, hgroup]
    rfl
  · rw [hmeta, hattempts]
    exact iff_of_true rfl (by simp)
  · intro a ha
    rw [hattempts, getLast?_concat] at ha
    rw [hinfo, hchannel, ← some.inj ha]
    rfl
  · intro hnil
    rw [hattempts] at hnil
    exact absurd hnil (by simp)
  intro snap hsnap
  rw [hsnapshot, hsnapshot'] at hsnap
  rw [h.snapshot snap hsnap, hattempts, h.attempts]
  cases prev with
  | nil | cons => rfl

/-- Unless it was priced again, the price has the ratio of its group over the channel of the attempt
before, and the snapshot that of the first attempt. -/
def ServedRatios (cfg : RelayConfig) (info : RelayInfo) (bill : Bill) (prev : List Attempt)
    (a : Attempt) : Prop :=
  bill.info.priceData.groupRatio =
    (if cfg.compact then attemptRatio cfg.prices.toPriceSettings info a
    else attemptRatio cfg.prices.toPriceSettings info ⟨a.group, (prev.getLast?.getD a).channelId⟩) ∧
  ∀ snap, bill.tieredBillingSnapshot = some snap →
    snap.groupRatio = attemptRatio cfg.prices.toPriceSettings info
      (if cfg.compact = true ∧ cfg.prices.getBillingMode bill.info.originModelName =
        "tiered_expr" then a
        else prev.head?.getD a)

theorem PricedAttempt.served {prev : List Attempt} {env : AttemptEnv}
    (h : PricedAttempt cfg info prev st)
    (hon : relayOn cfg env st channelId = .inr (.served st' bill)) :
    ∃ a, st'.attempts = prev ++ [a] ∧ ServedRatios cfg info bill prev a := by
  obtain ⟨hok, rfl⟩ := ok_of_relayOn hon
  obtain ⟨-, -, -, hattempts⟩ := @relayAttempt_fst cfg env (st.addUsedChannel channelId)
  obtain ⟨hprice, hsnapshot⟩ :=
    @relayAttempt_ok cfg env (st.addUsedChannel channelId) info bill h.usingGroup h.userGroup hok
  refine ⟨⟨st.group, st.ctx.channelId⟩, ?_, ?_, ?_⟩
  · rw [hattempts]
    exact congrArg (· ++ _) h.attempts
  · rw [hprice, ← h.price]
    rfl
  intro snap hsnap
  have hcase := hsnapshot snap hsnap
  split_ifs at hcase ⊢ with hcompact
  · exact hcase
  · exact h.snapshot snap hcase

theorem relayPass_ratios (h : Priced cfg info st)
    (hpass : relayPass cfg env n st = .inr (.served st' bill)) :
    ∃ prev a, st'.attempts = prev ++ [a] ∧ ServedRatios cfg info bill prev a := by
  rcases relayPass_cases cfg env n st with ⟨s, hs, -⟩ | ⟨-, hmeta, hon⟩ | ⟨c, -, hmeta, -, hon⟩
  · cases hs.symm.trans hpass
  · exact ⟨[], (h.first hmeta).served (hon.symm.trans hpass)⟩
  · exact ⟨st.attempts, (h.retry hmeta (env n) c).served (hon.symm.trans hpass)⟩

theorem Priced.relayPass (h : Priced cfg info st) (hpass : relayPass cfg env n st = .inl st') :
    Priced cfg info st' := by
  rcases relayPass_cases cfg env n st with ⟨r, hr, -⟩ | ⟨-, hmeta, hon⟩ | ⟨c, -, hmeta, -, hon⟩
  · cases hr.symm.trans hpass
  · exact (h.first hmeta).inl (hon.symm.trans hpass)
  · exact (h.retry hmeta (env n) c).inl (hon.symm.trans hpass)

theorem Priced.startRelay (h : startRelay cfg ctx info = .ok st) :
    Priced cfg (genBaseRelayInfo ctx info) st := by
  unfold TokensFlux.startRelay at h
  dsimp only at h
  have husing := @modelPrice_usingGroup cfg (freshState cfg ctx (genBaseRelayInfo ctx info)) rfl
    cfg.count
  cases hprice : (freshState cfg ctx (genBaseRelayInfo ctx info)).modelPrice cfg cfg.count with
  | mk _ result =>
    rw [hprice] at h husing
    obtain _ | _ := result
    · cases h
    obtain ⟨hratio, hsnap, -⟩ :=
      @modelPrice_ratio cfg (freshState cfg ctx (genBaseRelayInfo ctx info))
      (genBaseRelayInfo ctx info) _ _ _ _ rfl rfl hprice
    have hno : ∀ a, ([] : List Attempt).getLast? = some a → (genBaseRelayInfo ctx info).channelId
        = a.channelId := fun a ha => absurd ha (by simp)
    dsimp only at h
    split_ifs at h
    · cases h
      exact ⟨rfl, husing, by simp [freshState], hno, fun _ => hratio, hsnap⟩
    split at h
    · cases h
    · cases h
      exact ⟨rfl, husing, by simp [freshState], hno, fun _ => hratio, hsnap⟩

/-- **The whole loop**, by its last attempt. -/
theorem relayLoop_ratios {fuel : ℕ} (h : Priced cfg info st)
    (hrun : relayLoop cfg env fuel st = .inr (.served st' bill)) :
    ∃ prev a, st'.attempts = prev ++ [a] ∧ ServedRatios cfg info bill prev a := by
  let Post (r : RelayResult) : Prop := ∀ s b, r = .served s b →
    ∃ prev a, s.attempts = prev ++ [a] ∧ ServedRatios cfg info b prev a
  have hgo : ∀ n s s', Priced cfg info s → relayPass cfg env n s = .inl s' → Priced cfg info s' :=
    fun n s s' hs hpass => hs.relayPass hpass
  have hleave : ∀ n s r, Priced cfg info s → relayPass cfg env n s = .inr r → Post r := by
    intro n s r hs hpass s' b hserved
    rw [hserved] at hpass
    exact relayPass_ratios hs hpass
  have hpost := @runLoop_invariant _ _ _ 0 fuel st (fun _ => Priced cfg info) Post hgo hleave h
  rw [relayLoop] at hrun
  rw [hrun] at hpost
  exact hpost st' bill rfl

/-- The price was refreshed over the channel of the attempt before, and the snapshot frozen at the
first attempt. -/
def PricedAlike (cfg : RelayConfig) (info : RelayInfo) (bill : Bill) (prev : List Attempt)
    (a : Attempt) : Prop :=
  (bill.usesPrice cfg = true → cfg.compact = true ∨
    attemptRatio cfg.prices.toPriceSettings info ⟨a.group, (prev.getLast?.getD a).channelId⟩
      = attemptRatio cfg.prices.toPriceSettings info a) ∧
  (bill.usesSnapshot cfg = true →
    (cfg.compact = true ∧ cfg.prices.getBillingMode bill.info.originModelName = "tiered_expr") ∨
    attemptRatio cfg.prices.toPriceSettings info (prev.head?.getD a) =
      attemptRatio cfg.prices.toPriceSettings info a)

end Run

/-- **A request is priced with the ratio of the attempt that served it** exactly when the copies of
the ratio that its bill uses agree with it. -/
theorem servedAttempt_ratio_iff {cfg : RelayConfig} {env : ℕ → AttemptEnv} {ctx : RelayContext}
    {info : RelayInfo} {st st' : RelayState} {bill : Bill} {fuel : ℕ}
    (hstart : startRelay cfg ctx info = .ok st)
    (hrun : relayLoop cfg env fuel st = .inr (.served st' bill)) :
    ∃ prev a, st'.attempts = prev ++ [a] ∧ ((∀ ρ ∈ bill.usedGroupRatios cfg,
          ρ = attemptRatio cfg.prices.toPriceSettings (genBaseRelayInfo ctx info) a)
        ↔ PricedAlike cfg (genBaseRelayInfo ctx info) bill prev a) ∧
      (PricedAlike cfg (genBaseRelayInfo ctx info) bill prev a →
        bill.quota cfg = (bill.withGroupRatio
          (attemptRatio cfg.prices.toPriceSettings (genBaseRelayInfo ctx info) a)).quota cfg) := by
  obtain ⟨prev, a, hattempts, hprice, hsnapshot⟩ := relayLoop_ratios (.startRelay hstart) hrun
  have hiff : (∀ ρ ∈ bill.usedGroupRatios cfg,
      ρ = attemptRatio cfg.prices.toPriceSettings (genBaseRelayInfo ctx info) a)
        ↔ PricedAlike cfg (genBaseRelayInfo ctx info) bill prev a := by
    rw [bill.forall_mem_usedGroupRatios cfg, PricedAlike, hprice]
    apply and_congr
    · apply imp_congr_right
      intro _
      split_ifs with hcompact
      · exact iff_of_true rfl (.inl hcompact)
      · exact ⟨.inr, fun h => h.resolve_left hcompact⟩
    apply imp_congr_right
    intro huses
    obtain ⟨snap, hsnap⟩ := bill.exists_snapshot cfg huses
    have hratio := hsnapshot snap hsnap
    split_ifs at hratio with hcompact
    · refine iff_of_true ?_ (.inl hcompact)
      intro s hs
      obtain rfl := some.inj (hsnap.symm.trans hs)
      exact hratio
    constructor
    · intro h
      exact .inr (hratio.symm.trans (h snap hsnap))
    · intro h s hs
      obtain rfl := some.inj (hsnap.symm.trans hs)
      exact hratio.trans (h.resolve_left hcompact)
  exact ⟨prev, a, hattempts, hiff, fun h => quota_withGroupRatio (hiff.mpr h)⟩

/-! ### A retry on another channel -/

def AttemptEnv.failingOnce : ℕ → AttemptEnv
  | 0 => .failing (.twoGroups {})
  | _ =>
    { source := fun _ _ _ _ _ => (some { id := 2, key := "k" }, none)
      result := .ok (.text {} (some { promptTokens := 10, completionTokens := 5 })) }

def servedBill : RelayState ⊕ RelayResult → Option (RelayState × Bill)
  | .inr (.served st bill) => some (st, bill)
  | _ => none

theorem exists_served_of_any {run : RelayState ⊕ RelayResult} {p : RelayState × Bill → Bool}
    (h : (servedBill run).any p = true) : ∃ st bill, run = .inr (.served st bill) ∧
      p (st, bill) = true := by
  rcases run with st | st | st
  · cases h
  · exact ⟨st, _, rfl, h⟩
  · cases h

theorem servedAttempt_ratio_sample :
    ∃ st st' bill, startRelay .sample .distributed (.sample "") = .ok st ∧
      relayLoop .sample failingOnce 5 st = .inr (.served st' bill) ∧
      ∃ prev a, st'.attempts = prev ++ [a] ∧
        ((∀ ρ ∈ bill.usedGroupRatios .sample, ρ = attemptRatio sample.prices.toPriceSettings
            (genBaseRelayInfo .distributed (.sample "")) a)
          ↔ PricedAlike .sample (genBaseRelayInfo .distributed (.sample "")) bill prev a) := by
  obtain ⟨st, hstart, hserved⟩ : ∃ st, startRelay .sample .distributed (.sample "") = .ok st ∧
      (servedBill (relayLoop .sample failingOnce 5 st)).any (fun _ => true) = true :=
    exists_ok_of_any (by decide +kernel)
  obtain ⟨st', bill, hrun, -⟩ := exists_served_of_any hserved
  obtain ⟨prev, a, hattempts, hiff, -⟩ := servedAttempt_ratio_iff hstart hrun
  exact ⟨st, st', bill, hstart, hrun, prev, a, hattempts, hiff⟩

def RelayConfig.channelRatio : RelayConfig :=
  { sample with
    prices := { sample.prices with
      getChannelRatio := fun id => if id = 1 then some 2 else none } }

/-- Channel 2 answers the request at a ratio of 1, which is charged at the ratio of channel 1. -/
theorem servedAttempt_ratio_channelRatio :
    ∃ st st' bill, startRelay .channelRatio .distributed (.sample "") = .ok st ∧
      relayLoop .channelRatio failingOnce 5 st = .inr (.served st' bill) ∧
      st'.attempts = [⟨"a", 1⟩, ⟨"a", 2⟩] ∧
      bill.usedGroupRatios .channelRatio = [2] ∧ bill.quota .channelRatio = 20 ∧
      attemptRatio channelRatio.prices.toPriceSettings
        (genBaseRelayInfo .distributed (.sample "")) ⟨"a", 2⟩ = 1 ∧
      (bill.withGroupRatio 1).quota .channelRatio = 10 := by
  obtain ⟨st, hstart, hserved⟩ : ∃ st, startRelay .channelRatio .distributed (.sample "") = .ok st ∧
      (servedBill (relayLoop .channelRatio failingOnce 5 st)).any (fun run =>
        decide (run.1.attempts = [⟨"a", 1⟩, ⟨"a", 2⟩] ∧ run.2.usedGroupRatios .channelRatio = [2] ∧
          run.2.quota .channelRatio = 20 ∧ (run.2.withGroupRatio 1).quota .channelRatio = 10)) =
            true :=
    exists_ok_of_any (by decide +kernel)
  obtain ⟨st', bill, hrun, hbill⟩ := exists_served_of_any hserved
  obtain ⟨hattempts, hused, hquota, hright⟩ := of_decide_eq_true hbill
  exact ⟨st, st', bill, hstart, hrun, hattempts, hused, hquota, by decide +kernel, hright⟩

end TokensFlux
