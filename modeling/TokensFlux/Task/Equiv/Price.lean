import Mathlib.Algebra.Order.BigOperators.GroupWithZero.List
import Mathlib.Tactic.Positivity
import TokensFlux.Task.Equiv.Submit

/-!
# The price a task is submitted at

Every attempt builds the price anew, so what `ResolveOriginTask` has put on it is lost; and the
recalculation at the end looks the ratio of the group up again, under the group of the task alone.
-/

namespace TokensFlux

open List Option

/-! ### What the billing of an attempt leaves alone -/

/-- What the price is computed from, and the price. -/
def RelayInfo.pricing (info : RelayInfo) : PriceData × ℤ × String × String × ℤ × String :=
  (info.priceData, info.userId, info.userGroup, info.usingGroup, info.channelId,
    info.originModelName)

section Frame

variable {env : BillingEnv} {settings : PriceSettings} {info : RelayInfo} {s : Store}
  {f : OpenFaults} {q : ℤ} {st : Submission} {a : SubmitAttempt}

theorem preConsume_pricing (b : BillingSession) (g : AttemptFaults) :
    (b.preConsume env info s g q).2.1.pricing = info.pricing := by
  unfold BillingSession.preConsume
  dsimp only
  split
  · rfl
  split
  · rfl
  · unfold BillingSession.syncRelayInfo
    dsimp only
    split <;> rfl

theorem tryWallet_pricing : (tryWallet env info s f q).2.1.pricing = info.pricing := by
  unfold tryWallet
  split
  · rfl
  split_ifs
  · rfl
  · rfl
  · exact preConsume_pricing _ _

theorem trySubscription_pricing : (trySubscription env info s f q).2.1.pricing = info.pricing :=
  preConsume_pricing _ _

theorem newBillingSession_pricing :
    (newBillingSession env info s f q).2.1.pricing = info.pricing := by
  have hwallet := @tryWallet_pricing env info s f q
  have hsubscription := @trySubscription_pricing env info s f q
  unfold newBillingSession
  split
  · exact hsubscription
  · exact hwallet
  · split
    · rename_i h
      rw [h] at hwallet
      split_ifs
      · exact trySubscription_pricing.trans hwallet
      · exact hwallet
    · exact hwallet
  split
  · rfl
  · exact hwallet
  split
  · rename_i h
    rw [h] at hsubscription
    split_ifs
    · split
      · exact hsubscription
      · exact tryWallet_pricing.trans hsubscription
      · exact hsubscription
    · exact hsubscription
  · exact hsubscription

theorem preConsumeTask_pricing : (preConsumeTask env st f).1.info.pricing = st.info.pricing := by
  unfold preConsumeTask
  split_ifs
  · unfold preConsumeBilling
    have h := @newBillingSession_pricing env { st.info with forcePreConsume := true } st.store f
      st.info.priceData.quota
    split <;> rename_i hopen <;> rw [hopen] at h <;> exact h
  · rfl

theorem postConsumeQuota_pricing : (postConsumeQuota info s {} q).2.1.pricing = info.pricing := by
  unfold postConsumeQuota
  dsimp only
  split
  · rfl
  rename_i info' s' h
  have hinfo : info'.pricing = info.pricing := by
    split_ifs at h
    · cases h
      rfl
    · generalize s.postConsumeUserSubscriptionDelta _ _ _ = r at h
      cases r with
      | error => cases h
      | ok =>
        cases h
        rfl
    generalize adjustUserQuota s _ _ _ = r at h
    cases r with
    | error => cases h
    | ok =>
      cases h
      rfl
  split_ifs
  · exact hinfo
  · split <;> exact hinfo

theorem settleBilling_pricing (billing : Option BillingSession) :
    (settleBilling billing info s {} q).1.2.1.pricing = info.pricing := by
  cases billing with
  | some b =>
    obtain ⟨_, h⟩ := Billing.settle_info ⟨b, info, s⟩ {} q
    show (Billing.settle ⟨b, info, s⟩ {} q).1.info.pricing = _
    rw [h]
    rfl
  | none =>
    unfold settleBilling
    dsimp only
    split_ifs
    · exact postConsumeQuota_pricing
    · rfl

/-! ### Attempts -/

/-- The answer of the price helper in an attempt. -/
def basePrice (env : BillingEnv) (settings : PriceSettings) (info : RelayInfo) (a : SubmitAttempt) :
    RelayInfo × Except Err PriceData :=
  modelPriceHelperPerCall env settings
    { info with channelId := a.channelId, originModelName := a.modelName } a.autoGroup

theorem basePrice_ok {info' : RelayInfo} {p : PriceData}
    (h : basePrice env settings info a = (info', .ok p)) :
    p.otherRatios = [] ∧ quotaFromFloat p.quota = p.quota := by
  obtain ⟨-, h⟩ := Prod.mk.inj h
  generalize perCallPrice settings _ = priced at h
  obtain _ | _ := priced
  · cases h
  cases h
  have hsaturated : ∀ (free : Bool) (x : ℚ),
      quotaFromFloat ((if free then 0 else quotaFromFloat x : ℤ))
      = if free then 0 else quotaFromFloat x := by
    rintro (_ | _) x
    · exact quotaFromFloat_quotaFromFloat x
    · exact saturateQuota_intCast 0
  exact ⟨rfl, hsaturated _ _⟩

/-- A patched model is not charged for the ratios. -/
def estimatedQuota (settings : PriceSettings) (a : SubmitAttempt) (p₀ : PriceData) : ℤ :=
  if a.modelName ∈ settings.taskPricePatches then p₀.quota
  else quotaFromFloat ((p₀.addOtherRatios a.estimatedRatios).applyOtherRatiosToFloat p₀.quota)

theorem priceTask_ok {info' : RelayInfo} {p : PriceData}
    (h : priceTask env settings info a = (info', .ok p)) :
    ∃ p₀, basePrice env settings info a = (info', .ok p₀) ∧
      p = { p₀.addOtherRatios a.estimatedRatios with quota := estimatedQuota settings a p₀ } ∧
      (a.estimatedRatios = [] → p = p₀) := by
  unfold priceTask at h
  dsimp only at h
  split at h
  · cases h
  split at h
  · cases h
  rename_i info₁ p₀ hbase
  obtain ⟨rfl, hp⟩ := Prod.mk.inj h
  cases hp
  obtain ⟨hratios, hquota⟩ := basePrice_ok hbase
  obtain ⟨otherRatios, hadded⟩ := p₀.addOtherRatios_eq a.estimatedRatios
  unfold estimatedQuota
  split_ifs
  · exact ⟨p₀, hbase, by rw [hadded], fun hplain => by rw [hplain]; rfl⟩
  refine ⟨p₀, hbase, by rw [hadded], ?_⟩
  intro hplain
  have hsame : quotaFromFloat (p₀.applyOtherRatiosToFloat p₀.quota) = p₀.quota := by
    rw [PriceData.applyOtherRatiosToFloat, PriceData.otherRatioMultiplier, hratios,
      foldl_nil, mul_one, hquota]
  rw [hplain]
  exact congrArg (fun quota => { p₀ with quota }) hsame

theorem relayTaskSubmit_ok {result : TaskSubmitResult}
    (h : (relayTaskSubmit env settings st a).2 = .ok result) :
    ∃ info p reply, priceTask env settings st.info a = (info, .ok p) ∧ a.reply = .ok reply ∧
      result.quota = (adjustPriceOnSubmit p reply.adjustedRatios).quota ∧
      (relayTaskSubmit env settings st a).1.info.pricing =
        { info with priceData := adjustPriceOnSubmit p reply.adjustedRatios }.pricing := by
  unfold relayTaskSubmit at h ⊢
  generalize priceTask env settings st.info a = priced at h ⊢
  obtain ⟨info, e | p⟩ := priced
  · cases h
  have hpricing := @preConsumeTask_pricing env a.opening
    { st with info := { info with priceData := p } }
  dsimp only at h ⊢
  generalize preConsumeTask env { st with info := { info with priceData := p } } a.opening = r
    at h hpricing ⊢
  obtain ⟨st₁, _ | e⟩ := r
  · have hp : st₁.info.priceData = p := congrArg Prod.fst hpricing
    rcases hreply : a.reply with _ | reply
    · rw [hreply] at h
      cases h
    rw [hreply] at h
    cases h
    refine ⟨info, p, reply, rfl, rfl, ?_, ?_⟩
    · rw [hp]
    · dsimp only
      rw [hp]
      exact congrArg (fun x => (adjustPriceOnSubmit p reply.adjustedRatios, x.2)) hpricing
  · cases h

end Frame

/-! ### Remixes -/

/-- A remix of a task whose billing context has only valid ratios, and the request afterwards. -/
structure Remix (o : OriginEnv) where
  req : OriginRequest
  info : RelayInfo
  resolved : RelayInfo
  origin : OriginTask
  bc : TaskBillingContext
  isRemix : req.isRemix = true
  found : o.getByTaskId info.userId req.videoId = .ok (some origin)
  recorded : origin.task.billingContext = some bc
  valid : ∀ r ∈ bc.otherRatios, isValidOtherRatio r.2 = true
  resolves : o.resolveOriginTask req info = .ok resolved

def Remix.start {o : OriginEnv} (m : Remix o) (store : Store) : Submission :=
  { info := m.resolved, store }

/-- The adaptor returns no ratios. -/
def SubmitAttempt.Plain (a : SubmitAttempt) : Prop :=
  a.estimatedRatios = [] ∧ ∀ reply, a.reply = .ok reply → reply.adjustedRatios = []

section Remix

variable (env : BillingEnv) (settings : PriceSettings)

/-- The argument of `PreConsumeBilling`, in an attempt that calls it. -/
def preConsumedQuota (st : Submission) (a : SubmitAttempt) : Option ℤ :=
  (priceTask env settings st.info a).2.toOption.bind fun p =>
    if st.billing.isNone && !p.freeModel then some p.quota else none

def PaysRatios (ratios : List (String × ℚ)) (st : Submission) (a : SubmitAttempt) : Prop :=
  ∀ p, (basePrice env settings st.info a).2 = .ok p → (∀ q ∈ preConsumedQuota env settings st a,
      q = quotaFromFloat (p.quota * (ratios.map Prod.snd).prod)) ∧
    ∀ result, (relayTaskSubmit env settings st a).2 = .ok result →
      result.quota = quotaFromFloat (p.quota * (ratios.map Prod.snd).prod) ∧
      ∀ r, r ∈ (relayTaskSubmit env settings st a).1.info.priceData.validOtherRatios ↔ r ∈ ratios

variable {env settings} {st : Submission} {a : SubmitAttempt}

theorem accepted_of_plain (hplain : a.Plain) {result : TaskSubmitResult}
    (h : (relayTaskSubmit env settings st a).2 = .ok result) :
    ∃ p, (basePrice env settings st.info a).2 = .ok p ∧ result.quota = p.quota ∧
      (relayTaskSubmit env settings st a).1.info.priceData = p := by
  obtain ⟨_, p, reply, hprice, hreply, hquota, hpricing⟩ := relayTaskSubmit_ok h
  obtain ⟨p₀, hbase, -, hp⟩ := priceTask_ok hprice
  obtain rfl := hp hplain.1
  rw [hplain.2 reply hreply] at hquota hpricing
  exact ⟨p, congrArg Prod.snd hbase, hquota, congrArg Prod.fst hpricing⟩

theorem paysRatios_nil (hplain : a.Plain) : PaysRatios env settings [] st a := by
  intro p hp
  have hbase : basePrice env settings st.info a = ((basePrice env settings st.info a).1, .ok p) :=
    Prod.ext rfl hp
  obtain ⟨hratios, hquota⟩ := basePrice_ok hbase
  rw [map_nil, prod_nil, mul_one, hquota]
  constructor
  · intro q hq
    unfold preConsumedQuota at hq
    cases hprice : priceTask env settings st.info a with
    | mk _ priced =>
      rw [hprice] at hq
      obtain _ | _ := priced
      · cases hq
      obtain ⟨p₀, hbase', -, hp₁⟩ := priceTask_ok hprice
      obtain rfl := hp₁ hplain.1
      rw [hbase'] at hp
      cases hp
      dsimp only [Except.toOption, bind_some] at hq
      split_ifs at hq
      · exact (some.inj hq).symm
      · cases hq
  intro result hresult
  obtain ⟨p', hp', hquota', hdata⟩ := accepted_of_plain hplain hresult
  rw [hp] at hp'
  cases hp'
  refine ⟨hquota', fun r => ?_⟩
  rw [hdata, PriceData.validOtherRatios, hratios]
  rfl

theorem paysRatios_iff_of_accepted (hplain : a.Plain) {result : TaskSubmitResult}
    (h : (relayTaskSubmit env settings st a).2 = .ok result) {ratios : List (String × ℚ)} :
    PaysRatios env settings ratios st a ↔ ratios = [] := by
  constructor
  · intro hpays
    obtain ⟨p, hp, -, hdata⟩ := accepted_of_plain hplain h
    obtain ⟨-, hratios⟩ := (hpays p hp).2 result h
    obtain ⟨hnone, -⟩ :=
      basePrice_ok (Prod.ext rfl hp : basePrice env settings st.info a = (_, .ok p))
    rw [hdata, PriceData.validOtherRatios, hnone] at hratios
    exact eq_nil_iff_forall_not_mem.mpr fun r hr => not_mem_nil ((hratios r).mpr hr)
  · rintro rfl
    exact paysRatios_nil hplain

/-- The attempts `done` failed, and the last one is accepted. -/
theorem remix_paysRatios_iff {o : OriginEnv} (m : Remix o) (store : Store)
    {done : List SubmitAttempt}
    (hdone : ∀ a ∈ done, a.Plain) (ha : a.Plain) {result : TaskSubmitResult}
    (haccepted : (relayTaskSubmit env settings (done.foldl
      (fun st a => (relayTaskSubmit env settings st a).1) (m.start store)) a).2 = .ok result) :
    Guarded (fun st a => (relayTaskSubmit env settings st a).1)
        (PaysRatios env settings m.bc.otherRatios) (m.start store) (done ++ [a]) ↔
      m.bc.otherRatios = [] := by
  constructor
  · intro h
    have hlast := Guarded.iff_forall_step.mp h done a prefix_rfl
    exact (paysRatios_iff_of_accepted ha haccepted).mp hlast
  intro hnil
  rw [hnil]
  refine Guarded.iff_forall_step.mpr fun before b hb => paysRatios_nil ?_
  have hmem : b ∈ done ++ [a] := hb.subset (by simp)
  rcases mem_append.mp hmem with hmem | hmem
  · exact hdone b hmem
  · rw [mem_singleton.mp hmem]
    exact ha

end Remix

variable (ratios : List (String × ℚ))

def OriginEnv.sample : OriginEnv where
  getByTaskId userId taskId := .ok <| some
    { task :=
        { taskId, platform := .video "1", userId, group := "default", channelId := 1, quota := 80,
          status := .success, progress := "100%", billingSource := .wallet,
          billingContext := some { otherRatios := ratios } } }
  getChannelById _ := .ok { enabled := true }
  dataField _ _ := none

def Remix.sample (valid : ∀ r ∈ ratios, isValidOtherRatio r.2 = true) : Remix (.sample ratios) where
  req := { path := "/v1/videos/origin/remix", videoId := "origin" }
  info := .sample "wallet_only"
  resolved := { RelayInfo.sample "wallet_only" with
    channelId := 1, priceData := PriceData.addOtherRatios {} ratios }
  origin := _
  bc := _
  isRemix := rfl
  found := rfl
  recorded := rfl
  valid := valid
  resolves := rfl

theorem remix_paysRatios_of_none :
    Guarded (fun st a => (relayTaskSubmit .standard .sample st a).1)
    (PaysRatios .standard .sample []) ((Remix.sample [] (by simp)).start .sample)
      ([.sample (.error "fail_to_fetch_task")] ++ [.sample (.ok { upstreamTaskId := "u" })]) := by
  have haccepted : (relayTaskSubmit .standard .sample ([.sample (.error "fail_to_fetch_task")].foldl
      (fun st a => (relayTaskSubmit .standard .sample st a).1)
      ((Remix.sample [] (by simp)).start .sample)) (.sample (.ok { upstreamTaskId := "u" }))).2
      = .ok ⟨"u", [], .video "1", 10⟩ := by
    decide +kernel
  exact (remix_paysRatios_iff _ _ (by simp [SubmitAttempt.Plain, SubmitAttempt.sample])
    (by simp [SubmitAttempt.Plain, SubmitAttempt.sample]) haccepted).mpr rfl

/-- The task it starts from was 8 seconds long, and the remix costs as much as one of 1 second. -/
theorem remix_loses_ratios :
    (Remix.sample [("seconds", 8)] (by decide)).resolved.priceData.validOtherRatios
        = [("seconds", 8)] ∧
      (relayTaskSubmit .standard .sample ((Remix.sample [("seconds", 8)] (by decide)).start .sample)
        (.sample (.ok { upstreamTaskId := "u" }))).2 = .ok ⟨"u", [], .video "1", 10⟩ ∧
      ¬PaysRatios .standard .sample [("seconds", 8)]
        ((Remix.sample [("seconds", 8)] (by decide)).start .sample)
        (.sample (.ok { upstreamTaskId := "u" })) := by
  have haccepted : (relayTaskSubmit .standard .sample
      ((Remix.sample [("seconds", 8)] (by decide)).start .sample)
      (.sample (.ok { upstreamTaskId := "u" }))).2 = .ok ⟨"u", [], .video "1", 10⟩ := by
    decide +kernel
  refine ⟨by decide +kernel, haccepted, fun h => ?_⟩
  have hplain : (SubmitAttempt.sample (.ok { upstreamTaskId := "u" })).Plain := by
    simp [SubmitAttempt.Plain, SubmitAttempt.sample]
  exact cons_ne_nil _ _ ((paysRatios_iff_of_accepted hplain haccepted).mp h)

/-! ### The recalculation by tokens -/

theorem adjustPriceOnSubmit_eq (p : PriceData) (ratios : List (String × ℚ)) :
    ∃ otherRatios quota, adjustPriceOnSubmit p ratios = { p with otherRatios, quota } := by
  unfold adjustPriceOnSubmit
  split_ifs
  · exact ⟨_, _, rfl⟩
  split
  · exact ⟨_, _, rfl⟩
  obtain ⟨otherRatios, h⟩ := PriceData.addOtherRatios_eq { p with otherRatios := [] } ratios
  unfold PriceData.replaceOtherRatios
  rw [h]
  exact ⟨_, _, rfl⟩

theorem otherRatioMultiplier_eq_prod {ratios : List (String × ℚ)} (h : ∀ r ∈ ratios, 0 < r.2) :
    otherRatioMultiplier ratios = (ratios.map Prod.snd).prod := by
  have hfold : ∀ m, ratios.foldl (fun m r => if 0 < r.2 then m * r.2 else m) m
      = m * (ratios.map Prod.snd).prod := by
    induction ratios with
    | nil => simp
    | cons r _ ih =>
      intro m
      rw [foldl_cons, if_pos (h r (by simp)), ih fun r hr => h r (by simp [hr])]
      simp [mul_assoc]
  rw [otherRatioMultiplier, hfold, one_mul]

structure GroupTables where
  getGroupRatio : String → ℚ
  getGroupGroupRatio : String → String → Option ℚ
  getChannelRatio : ℤ → Option ℚ

namespace GroupTables

variable (tables : GroupTables)

/-- The choice of `HandleGroupRatio`. -/
def submissionRatio (userGroup usingGroup : String) (channelId : ℤ) : ℚ :=
  (tables.getChannelRatio channelId).getD
    ((tables.getGroupGroupRatio userGroup usingGroup).getD (tables.getGroupRatio usingGroup))

/-- The choice of `RecalculateTaskQuotaByTokens`. -/
def recalculationRatio (group : String) : ℚ :=
  (tables.getGroupGroupRatio group group).getD (tables.getGroupRatio group)

/-- Every model is billed at one ratio. -/
def atModelRatio (modelRatio : ℚ) : PriceSettings where
  getModelPrice _ := none
  defaultModelPrice _ := none
  getModelRatio name := (modelRatio, true, name)
  getGroupRatio := tables.getGroupRatio
  getGroupGroupRatio := tables.getGroupGroupRatio
  getChannelRatio := tables.getChannelRatio
  enableFreeModelPreConsume := false
  taskPricePatches := []
  isAdmin _ := false

end GroupTables

def PriceSettings.groupTables (settings : PriceSettings) : GroupTables :=
  ⟨settings.getGroupRatio, settings.getGroupGroupRatio, settings.getChannelRatio⟩

/-- The same prices are set when the task completes. -/
def PriceSettings.atCompletion (settings : PriceSettings) (env : TaskEnv) : TaskEnv :=
  { env with
    getModelRatio := fun name =>
      if (settings.getModelRatio name).2.1 then some (settings.getModelRatio name).1 else none
    getGroupRatio := settings.getGroupRatio
    getGroupGroupRatio := settings.getGroupGroupRatio }

/-- What `RecalculateTaskQuotaByTokens` takes for the group of a task. -/
def TaskEnv.taskGroup (env : TaskEnv) (userId : ℤ) (group : String) : String :=
  if group = "" then (env.getUserGroup userId).getD "" else group

/-- `task` is a later copy of a task that was submitted at the ratio of its model. -/
def RatioBilled (env : BillingEnv) (settings : PriceSettings) (userId : ℤ)
    (userGroup usingGroup : String) (channelId : ℤ) (task : Task) : Prop :=
  ∃ (st : Submission) (a : SubmitAttempt) (result : TaskSubmitResult) (taskId : String) (now : ℤ),
    (st.info.userId = userId ∧ st.info.userGroup = userGroup ∧
      a.autoGroup.getD st.info.usingGroup = usingGroup ∧ a.channelId = channelId) ∧
    (settings.getModelPrice a.modelName = none ∧ settings.defaultModelPrice a.modelName = none ∧
      (settings.getModelRatio a.modelName).2.1 = true ∧
        0 < (settings.getModelRatio a.modelName).1) ∧
    (relayTaskSubmit env settings st a).2 = .ok result ∧
    ∃ stored, stored = (storeTask settings (relayTaskSubmit env settings st a).1
      result taskId now).2 ∧ task.userId = stored.userId ∧ task.group = stored.group ∧
      task.originModelName = stored.originModelName ∧ task.billingContext = stored.billingContext

/-- The task has this quota after the call, if its funding source takes the difference and no
statement fails. -/
def SettlesTo (env : TaskEnv) (task : Task) (totalTokens quota : ℤ) : Prop :=
  ∀ s, task.Accepts s (quota - task.quota) →
    (recalculateTaskQuotaByTokens env s {} task task totalTokens).row.quota = quota

section Recalculation

variable {env : BillingEnv} {settings : PriceSettings} {userId channelId : ℤ}
  {userGroup usingGroup : String} {task : Task}

theorem recalculateTaskQuota_quota_eq_or (s : Store) (f : TaskFaults) (row task : Task)
    (actualQuota : ℤ) :
    (recalculateTaskQuota s f row task actualQuota).row.quota = row.quota ∨
      (recalculateTaskQuota s f row task actualQuota).row.quota = actualQuota := by
  unfold recalculateTaskQuota
  dsimp only
  split_ifs
  · exact .inl rfl
  all_goals
    cases taskAdjustFunding s f task (actualQuota - task.quota) with
    | error => exact .inl rfl
    | ok =>
      cases f.updateQuota with
      | some => exact .inl rfl
      | none => exact .inr rfl

/-- A positive quota is what the task ends with. -/
theorem recalculateTaskQuota_quota {s : Store} {actualQuota : ℤ} (hpos : 0 < actualQuota)
    (haccepts : task.Accepts s (actualQuota - task.quota)) :
    (recalculateTaskQuota s {} task task actualQuota).row.quota = actualQuota := by
  unfold recalculateTaskQuota
  by_cases hsame : actualQuota - task.quota = 0
  · rw [if_pos (.inr hsame)]
    show task.quota = actualQuota
    omega
  obtain ⟨s', hs'⟩ := taskAdjustFunding_isOk haccepts
  rw [if_neg (by omega), hs']
  rfl

theorem settlesTo_of_quotaByTokens {env : TaskEnv} {totalTokens quota : ℤ}
    (htokens : 0 < totalTokens)
    (hquota : quotaByTokens env task totalTokens = some quota) (hpos : 0 < quota) :
    SettlesTo env task totalTokens quota := by
  intro s haccepts
  rw [recalculateTaskQuotaByTokens, if_neg (by omega), hquota]
  exact recalculateTaskQuota_quota hpos haccepts

/-- From quota zero a task settles to a positive quota only if that is the quota by tokens. -/
theorem SettlesTo.quotaByTokens_eq {env : TaskEnv} {totalTokens quota : ℤ}
    (h : SettlesTo env task totalTokens quota) (hwallet : task.isSubscription = false)
    (hzero : task.quota = 0) (hpos : 0 < quota) :
    quotaByTokens env task totalTokens = some quota := by
  have hquota := h .empty fun hsub => by
    rw [hwallet] at hsub
    cases hsub
  have hkept : task.quota ≠ quota := by omega
  unfold recalculateTaskQuotaByTokens at hquota
  split_ifs at hquota
  · exact absurd hquota hkept
  cases hactual : quotaByTokens env task totalTokens with
  | none =>
    rw [hactual] at hquota
    exact absurd hquota hkept
  | some actualQuota =>
    rw [hactual] at hquota
    dsimp only at hquota
    rcases recalculateTaskQuota_quota_eq_or .empty {} task task actualQuota with hsame | hnew
    · exact absurd (hsame.symm.trans hquota) hkept
    · rw [← hnew, hquota]

theorem basePrice_of_ratio {info info' : RelayInfo} {a : SubmitAttempt} {p : PriceData}
    (hprice : settings.getModelPrice a.modelName = none)
    (hdefault : settings.defaultModelPrice a.modelName = none)
    (hset : (settings.getModelRatio a.modelName).2.1 = true)
    (h : basePrice env settings info a = (info', .ok p)) :
    p.modelRatio = (settings.getModelRatio a.modelName).1 ∧
      p.groupRatio = settings.groupTables.submissionRatio info.userGroup
        (a.autoGroup.getD info.usingGroup) a.channelId ∧
      info'.userId = info.userId ∧ info'.usingGroup = a.autoGroup.getD info.usingGroup ∧
      info'.originModelName = a.modelName := by
  unfold basePrice modelPriceHelperPerCall handleGroupRatio perCallPrice at h
  simp only [hprice, hdefault, hset] at h
  cases h
  exact ⟨rfl, rfl, rfl, rfl, rfl⟩

theorem storeTask_billing (settings : PriceSettings) (st : Submission) (result : TaskSubmitResult)
    (taskId : String) (now : ℤ) :
    ∃ bc, (storeTask settings st result taskId now).2.billingContext = some bc ∧
      bc.modelRatio = st.info.priceData.modelRatio ∧ bc.groupRatio = st.info.priceData.groupRatio ∧
      (∀ r ∈ bc.otherRatios, 0 < r.2) ∧
      bc.originModelName = st.info.originModelName ∧
      (storeTask settings st result taskId now).2.userId = st.info.userId ∧
      (storeTask settings st result taskId now).2.group = st.info.usingGroup ∧
      (storeTask settings st result taskId now).2.originModelName = st.info.originModelName := by
  have h : (settleBilling st.billing st.info st.store {} result.quota).1.2.1.pricing
      = st.info.pricing := settleBilling_pricing st.billing
  simp only [RelayInfo.pricing, Prod.mk.injEq] at h
  obtain ⟨hprice, huser, -, hgroup, -, hname⟩ := h
  refine ⟨_, rfl, congrArg PriceData.modelRatio hprice,
    congrArg PriceData.groupRatio hprice, ?_, hname, huser, hgroup, hname⟩
  intro r hr
  exact of_decide_eq_true (mem_filter.mp hr).2

theorem RatioBilled.recalculation (taskEnv : TaskEnv)
    (h : RatioBilled env settings userId userGroup usingGroup channelId task) :
    ∃ bc, task.billingContext = some bc ∧ 0 < bc.modelRatio * (bc.otherRatios.map Prod.snd).prod ∧
      bc.groupRatio = settings.groupTables.submissionRatio userGroup usingGroup channelId ∧
      ∀ totalTokens, quotaByTokens (settings.atCompletion taskEnv) task totalTokens =
        if taskEnv.taskGroup userId usingGroup = "" then none
        else some (quotaFromFloat (totalTokens * bc.modelRatio *
          settings.groupTables.recalculationRatio (taskEnv.taskGroup userId usingGroup) *
          (bc.otherRatios.map Prod.snd).prod)) := by
  obtain ⟨st, a, result, taskId, now, ⟨rfl, rfl, rfl, rfl⟩, ⟨hprice, hdefault, hset, hpos⟩, hok,
    stored, rfl, huser, hgroup, hname, hbc⟩ := h
  obtain ⟨_, p, reply, hpriced, -, -, hpricing⟩ := relayTaskSubmit_ok hok
  obtain ⟨p₀, hbase, hp, -⟩ := priceTask_ok hpriced
  obtain ⟨hmodel, hratio, huserId, husing, horigin⟩ := basePrice_of_ratio hprice hdefault hset hbase
  obtain ⟨_, hadded⟩ := p₀.addOtherRatios_eq a.estimatedRatios
  obtain ⟨_, _, hadjusted⟩ := adjustPriceOnSubmit_eq p reply.adjustedRatios
  rw [hadjusted, hp, hadded] at hpricing
  simp only [RelayInfo.pricing, Prod.mk.injEq] at hpricing
  obtain ⟨hdata, huserId', -, husing', -, horigin'⟩ := hpricing
  obtain ⟨bc, hstored, hbcModel, hbcRatio, hvalid, hbcName, hstoredUser,
    hstoredGroup, hstoredName⟩ :=
    storeTask_billing settings (relayTaskSubmit env settings st a).1 result taskId now
  rw [hdata] at hbcModel hbcRatio
  rw [hstored] at hbc
  have hpositive : 0 < bc.modelRatio * (bc.otherRatios.map Prod.snd).prod := by
    have hmodelPos : 0 < bc.modelRatio := by
      rw [hbcModel]
      exact hmodel.symm ▸ hpos
    have hprodPos : 0 < (bc.otherRatios.map Prod.snd).prod := by
      apply List.prod_pos
      intro ratio hmem
      obtain ⟨r, hr, rfl⟩ := mem_map.mp hmem
      exact hvalid r hr
    exact mul_pos hmodelPos hprodPos
  refine ⟨bc, hbc, hpositive, hbcRatio.trans hratio, fun totalTokens => ?_⟩
  have hmodelName : task.modelName = a.modelName := by
    rw [Task.modelName, hbc]
    dsimp only
    rw [hbcName, hname, hstoredName, ite_self, horigin', horigin]
  have htaskGroup : (if task.group = "" then (taskEnv.getUserGroup task.userId).getD
      "" else task.group)
      = taskEnv.taskGroup st.info.userId (a.autoGroup.getD st.info.usingGroup) := by
    rw [TaskEnv.taskGroup, hgroup, hstoredGroup, husing', husing, huser, hstoredUser,
      huserId', huserId]
  unfold quotaByTokens PriceSettings.atCompletion
  dsimp only
  rw [hmodelName, if_pos hset, htaskGroup, hbc]
  dsimp only
  rw [otherRatioMultiplier_eq_prod hvalid, hbcModel, hmodel]
  simp only [not_le.mpr hpos, false_or]
  rfl

theorem saturateQuota_nonpos {x : ℚ} (hx : x < 1) : saturateQuota x ≤ 0 := by
  unfold saturateQuota
  split_ifs with hmax hmin
  · norm_num [maxQuota] at hmax
    linarith
  · decide
  · exact (truncate_mem (m := minQuota) (by decide) le_rfl (by linarith) (by simpa using hx)).2

theorem saturateQuota_nonneg {x : ℚ} (hx : -1 < x) : 0 ≤ saturateQuota x := by
  unfold saturateQuota
  split_ifs with hmax hmin
  · decide
  · norm_num [minQuota] at hmin
    linarith
  · exact (truncate_mem (n := maxQuota) le_rfl (by decide) (by push_cast; linarith) (by linarith)).1

/-- No two ratios give the same quotas. -/
theorem exists_scale_ne {x y : ℚ} (h : x < y) :
    ∃ k, 0 < k ∧ quotaFromFloat (k * x) ≠ quotaFromFloat (k * y) := by
  unfold quotaFromFloat
  rcases lt_or_ge 0 y with hy | hy
  · refine ⟨1 / y, by positivity, ?_⟩
    have hone : saturateQuota (1 / y * y) = 1 := by
      rw [one_div_mul_cancel hy.ne']
      rfl
    have hx : 1 / y * x < 1 := by
      rw [one_div_mul_eq_div, div_lt_one hy]
      exact h
    have hnonpos := saturateQuota_nonpos hx
    omega
  have hx : 0 < -x := by linarith
  refine ⟨1 / -x, by positivity, ?_⟩
  have hone : saturateQuota (1 / -x * x) = -1 := by
    rw [one_div_neg_eq_neg_one_div, neg_mul, one_div_mul_cancel (neg_pos.mp hx).ne]
    rfl
  have hy' : -1 < 1 / -x * y := by
    rw [one_div_mul_eq_div, lt_div_iff₀ hx]
    linarith
  have hnonneg := saturateQuota_nonneg hy'
  omega

theorem le_quotaFromFloat_iff {n : ℤ} {x : ℚ} (hpos : 0 < n) (hn : n ≤ maxQuota) :
    n ≤ quotaFromFloat x ↔ (n : ℚ) ≤ x := by
  have hpos' : (0 : ℚ) < n := by exact_mod_cast hpos
  have hn' : (n : ℚ) ≤ maxQuota := by exact_mod_cast hn
  unfold quotaFromFloat saturateQuota
  split_ifs with hmax hmin
  · exact iff_of_true hn (hn'.trans hmax)
  · have hnegative : (minQuota : ℚ) < 0 := by norm_num [minQuota]
    refine iff_of_false ?_ (by linarith)
    unfold minQuota
    omega
  rcases le_or_gt 0 x with hx | hx
  · rw [truncate_of_nonneg hx, Int.le_floor]
  · have := truncate_nonpos hx.le
    exact iff_of_false (by omega) (by linarith)

/-- No other ratio gives the same positive quotas. -/
theorem exists_scale_pos_ne {x y : ℚ} (hx : 0 < x) (hne : x ≠ y) :
    ∃ k, 0 < k ∧ 0 < quotaFromFloat (k * x) ∧ quotaFromFloat (k * y) ≠ quotaFromFloat (k * x) := by
  have hone (z : ℚ) : 1 ≤ quotaFromFloat z ↔ 1 ≤ z := by
    simpa using le_quotaFromFloat_iff (n := 1) (x := z) (by decide) (by decide)
  have htwo (z : ℚ) : 2 ≤ quotaFromFloat z ↔ 2 ≤ z := by
    simpa using le_quotaFromFloat_iff (n := 2) (x := z) (by decide) (by decide)
  rcases lt_or_gt_of_ne hne with hlt | hlt
  · -- The other is at least 2 where this is at least 1 and still below 2.
    have hy : 0 < y := hx.trans hlt
    obtain ⟨k, hk, h1, h2, h3⟩ : ∃ k, 0 < k ∧ 1 ≤ k * x ∧ k * x < 2 ∧ 2 ≤ k * y := by
      rcases le_total y (2 * x) with hle | hle
      · refine ⟨2 / y, by positivity, ?_, ?_, ?_⟩
        · rw [div_mul_eq_mul_div, one_le_div hy]
          exact hle
        · rw [div_mul_eq_mul_div, div_lt_iff₀ hy]
          linarith
        · rw [div_mul_cancel₀ 2 hy.ne']
      · refine ⟨1 / x, by positivity, ?_, ?_, ?_⟩
        · rw [one_div_mul_cancel hx.ne']
        · rw [one_div_mul_cancel hx.ne']
          norm_num
        · rw [one_div_mul_eq_div, le_div_iff₀ hx]
          exact hle
    have hpositive := (hone (k * x)).mpr h1
    have hsmall := (htwo (k * x)).not.mpr (not_le.mpr h2)
    have hlarge := (htwo (k * y)).mpr h3
    exact ⟨k, hk, by omega, by omega⟩
  -- Where this is 1, the other is below 1.
  have hpositive := (hone (1 / x * x)).mpr (one_div_mul_cancel hx.ne').ge
  have hsmall : ¬1 ≤ quotaFromFloat (1 / x * y) := by
    rw [hone, one_div_mul_eq_div, not_le, div_lt_one hx]
    exact hlt
  exact ⟨1 / x, by positivity, by omega, by omega⟩

/-- Its session was opened by an earlier attempt. -/
theorem exists_ratioBilled (env : BillingEnv) (tables : GroupTables) {modelRatio : ℚ}
    (h : 0 < modelRatio) :
    ∃ task bc, RatioBilled env (tables.atModelRatio modelRatio) userId userGroup
      usingGroup channelId task ∧
      task.billingContext = some bc ∧ bc.modelRatio = modelRatio ∧ bc.otherRatios = [] ∧
      task.isSubscription = false ∧ task.quota = 0 := by
  let session : BillingSession := { funding := .wallet { userId }, settled := true }
  let info := { RelayInfo.sample "" with userId, userGroup, usingGroup }
  let a := { SubmitAttempt.sample (.ok { upstreamTaskId := "u" }) with channelId }
  let settings := tables.atModelRatio modelRatio
  let st : Submission := ⟨some session, info, .sample⟩
  obtain ⟨result, hok⟩ : ∃ result, (relayTaskSubmit env settings st a).2 = .ok result := ⟨_, rfl⟩
  let stored := (storeTask settings (relayTaskSubmit env settings st a).1 result "task" 0).2
  exact ⟨{ stored with quota := 0 }, _, ⟨st, a, result, "task", 0, ⟨rfl, rfl, rfl, rfl⟩,
    ⟨rfl, rfl, rfl, h⟩, hok, stored, rfl, rfl, rfl, rfl, rfl⟩, rfl, rfl, rfl, rfl, rfl⟩

/-- **The recalculation by tokens** settles every task to the positive quota of its submission
exactly if it finds a group for the task, with the ratio chosen at the submission. -/
theorem recalculation_submissionRatio_iff (env : BillingEnv) (taskEnv : TaskEnv)
    (tables : GroupTables) (userId : ℤ) (userGroup usingGroup : String) (channelId : ℤ) :
    (∀ settings task bc (totalTokens quota : ℤ), settings.groupTables = tables →
      RatioBilled env settings userId userGroup usingGroup channelId task →
      task.billingContext = some bc → 0 < totalTokens →
      quota = quotaFromFloat
        (totalTokens * bc.modelRatio * bc.groupRatio * (bc.otherRatios.map Prod.snd).prod) →
      0 < quota → SettlesTo (settings.atCompletion taskEnv) task totalTokens quota) ↔
    (0 < tables.submissionRatio userGroup usingGroup channelId →
      taskEnv.taskGroup userId usingGroup ≠ "" ∧
      tables.submissionRatio userGroup usingGroup channelId =
        tables.recalculationRatio (taskEnv.taskGroup userId usingGroup)) := by
  constructor
  · intro h hratio
    have hquota : ∀ k, 0 < k →
        0 < quotaFromFloat (k * tables.submissionRatio userGroup usingGroup channelId) →
        taskEnv.taskGroup userId usingGroup ≠ "" ∧
          quotaFromFloat (k * tables.recalculationRatio (taskEnv.taskGroup userId usingGroup)) =
            quotaFromFloat (k * tables.submissionRatio userGroup usingGroup channelId) := by
      intro k hk hpos
      obtain ⟨task, bc, hbilled, hbc, hmodel, hnone, hwallet, hzero⟩ :=
        exists_ratioBilled env tables hk
      obtain ⟨bc', hbc', -, hratio', hrecalculation⟩ := hbilled.recalculation taskEnv
      obtain rfl := some.inj (hbc.symm.trans hbc')
      have hclaimed : quotaFromFloat (k * tables.submissionRatio userGroup usingGroup channelId)
          = quotaFromFloat ((1 : ℤ) * bc.modelRatio * bc.groupRatio *
            (bc.otherRatios.map Prod.snd).prod) := by
        rw [hratio', hmodel, hnone, map_nil, prod_nil, Int.cast_one, one_mul, mul_one]
        rfl
      have hsettles := h _ task bc 1 _ rfl hbilled hbc one_pos hclaimed hpos
      have hactual := hsettles.quotaByTokens_eq hwallet hzero hpos
      rw [hrecalculation, hmodel, hnone, map_nil, prod_nil, Int.cast_one, one_mul,
        mul_one] at hactual
      split_ifs at hactual with hgroup
      exact ⟨hgroup, some.inj hactual⟩
    have hnoOther : ¬tables.submissionRatio userGroup usingGroup channelId
        ≠ tables.recalculationRatio (taskEnv.taskGroup userId usingGroup) := by
      intro hne
      obtain ⟨k, hk, hpos, hscale⟩ := exists_scale_pos_ne hratio hne
      exact hscale (hquota k hk hpos).2
    obtain ⟨k, hk, hpos, -⟩ := exists_scale_pos_ne hratio hratio.ne'
    exact ⟨(hquota k hk hpos).1, not_not.mp hnoOther⟩
  rintro h settings task bc totalTokens quota rfl hbilled hbc htokens rfl hpos
  obtain ⟨bc', hbc', hpositive, hratio, hrecalculation⟩ := hbilled.recalculation taskEnv
  obtain rfl := some.inj (hbc.symm.trans hbc')
  have hratioPos : 0 < settings.groupTables.submissionRatio userGroup usingGroup channelId := by
    -- All other factors of the positive quota are positive.
    have hprice := (le_quotaFromFloat_iff one_pos (by decide)).mp (Int.add_one_le_of_lt hpos)
    have hfactor : (0 : ℚ) < totalTokens * (bc.modelRatio * (bc.otherRatios.map Prod.snd).prod) :=
      mul_pos (by exact_mod_cast htokens) hpositive
    rw [← hratio]
    refine pos_of_mul_pos_left ?_ hfactor.le
    calc (0 : ℚ) < _ := one_pos
      _ ≤ _ := by exact_mod_cast hprice
      _ = _ := by ring
  obtain ⟨hgroup, hsame⟩ := h hratioPos
  apply settlesTo_of_quotaByTokens htokens _ hpos
  rw [hrecalculation, if_neg hgroup, hratio, ← hsame]

end Recalculation

/-- Users of the group `vip` pay half in the group `default`. -/
def GroupTables.vip : GroupTables where
  getGroupRatio _ := 1
  getGroupGroupRatio userGroup usingGroup :=
    if userGroup = "vip" ∧ usingGroup = "default" then some (1 / 2) else none
  getChannelRatio _ := none

def TaskLife.vip : TaskLife :=
  { submission :=
      { info := { RelayInfo.sample "wallet_only" with userGroup := "vip", usingGroup := "default" }
        store := .sample } }

/-- Submitted at half the price, the task is recalculated at the whole. -/
theorem recalculation_forgets_specialRatio :
    ∃ task bc, ([.attempt (.sample (.ok { upstreamTaskId := "u" })), .store "task" 100].foldl
        (TaskLife.step .standard (GroupTables.vip.atModelRatio (1 / 25000))) .vip).phase
        = .stored task false ∧ task.billingContext = some bc ∧
      quotaFromFloat (1000000 * bc.modelRatio * bc.groupRatio *
        (bc.otherRatios.map Prod.snd).prod) = 20 ∧
      (recalculateTaskQuotaByTokens
        ((GroupTables.vip.atModelRatio (1 / 25000)).atCompletion .sample)
        .sample {} task task 1000000).row.quota = 40 := by
  generalize hr : List.foldl (TaskLife.step .standard _) TaskLife.vip _ = r
  have hcheck : r.checkStored (fun _ task refunded =>
      refunded = false ∧ task.billingContext = some
          { modelPrice := -1, modelRatio := 1 / 25000, groupRatio := 1 / 2,
            originModelName := "m" } ∧
        (recalculateTaskQuotaByTokens
          ((GroupTables.vip.atModelRatio (1 / 25000)).atCompletion .sample)
          .sample {} task task 1000000).row.quota = 40) = true := by
    rw [← hr]
    decide +kernel
  obtain ⟨_, task, _, -, hphase, hp⟩ := TaskLife.exists_of_checkStored hcheck
  obtain ⟨rfl, hbc, hquota⟩ := of_decide_eq_true hp
  exact ⟨task, _, hphase, hbc, by decide +kernel, hquota⟩

end TokensFlux
