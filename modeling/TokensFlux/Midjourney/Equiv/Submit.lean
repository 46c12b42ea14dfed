import TokensFlux.Billing.Equiv.Open
import TokensFlux.Midjourney.Equiv.Polling
import TokensFlux.Midjourney.Submit

/-!
# A Midjourney task returns no more than it has cost

The row stores the price whether or not it was charged, and the polling loop returns what the row
says.
-/

namespace TokensFlux

open Store Guarded MjSystem MjEvent Option Except

/-! ### What a submission takes -/

variable {env : BillingEnv} {task : Midjourney} {settings : MjSettings}
  {s s' : MjStore} {sub : MjSubmit}
  {prices : PriceSettings} {info : RelayInfo}

/-- Nothing if the statement fails; the token makes no difference. -/
theorem postConsumeQuota_takes (h : info.billingSource ≠ .subscription) (s : Store)
    (f : SettleFaults) (quota : ℤ) :
    let s' := (postConsumeQuota info s f quota).1
    s'.ledger (.wallet info.userId) = s.ledger (.wallet info.userId) - quota ∨
      f.funding.wallet ≠ none ∧ s'.ledger (.wallet info.userId) =
        s.ledger (.wallet info.userId) := by
  intro s'
  have hs' : s' = (postConsumeQuota info s f quota).1 := rfl
  unfold postConsumeQuota at hs'
  rw [if_neg h] at hs'
  cases hwallet : adjustUserQuota s f.funding.wallet info.userId quota with
  | error =>
    right
    rw [hwallet] at hs'
    refine ⟨?_, by rw [hs']; rfl⟩
    intro hfault
    obtain ⟨s₁, hs₁⟩ := adjustUserQuota_isOk s info.userId quota
    rw [hfault, hs₁] at hwallet
    cases hwallet
  | ok s₁ =>
    left
    obtain ⟨hledger, -⟩ := adjustUserQuota_spec hwallet
    have htaken : s₁.ledger (.wallet info.userId) = s.ledger (.wallet info.userId) - quota := by
      rw [hledger, accountPosting_apply, Pi.add_apply, Pi.single_eq_same]
      omega
    rw [hwallet] at hs'
    simp only [Except.map] at hs'
    cases hplayground : info.isPlayground with
    | true =>
      rw [hs', if_pos hplayground]
      exact htaken
    | false =>
      rw [if_neg (by simp [hplayground])] at hs'
      cases htoken : adjustTokenQuota s₁ f.token info.tokenId quota with
      | error =>
        rw [htoken] at hs'
        rw [hs']
        exact htaken
      | ok =>
        rw [htoken] at hs'
        rw [hs', (adjustTokenQuota_spec hplayground htoken).1,
          tokenPosting_of_not_playground hplayground]
        simp [htaken]

theorem postConsumeQuota_info (h : info.billingSource ≠ .subscription) (s : Store)
    (f : SettleFaults) (quota : ℤ) : (postConsumeQuota info s f quota).2.1 = info := by
  unfold postConsumeQuota
  rw [if_neg h]
  obtain _ | s₁ := adjustUserQuota s f.funding.wallet info.userId quota
  · rfl
  simp only [Except.map]
  split_ifs
  · rfl
  · cases adjustTokenQuota s₁ f.token info.tokenId quota <;> rfl

theorem consumeMjQuota_takes (h : info.billingSource ≠ .subscription)
    (settings : MjSettings) (s : MjStore) (f : SettleFaults) (action : String) (quota : ℤ) :
    let s' := consumeMjQuota settings s info f action quota
    s'.billing.ledger (.wallet info.userId) = s.billing.ledger (.wallet info.userId) - quota ∨
      f.funding.wallet ≠ none ∧
        s'.billing.ledger (.wallet info.userId) = s.billing.ledger (.wallet info.userId) := by
  intro s'
  have hledger : s'.billing.ledger (.wallet info.userId) =
      (postConsumeQuota info s.billing f quota).1.ledger (.wallet info.userId) := by
    show (consumeMjQuota settings s info f action quota).billing.ledger (.wallet info.userId) = _
    unfold consumeMjQuota
    dsimp only
    rw [postConsumeQuota_info h, (updateChannelUsedQuota_spec _ _ _ _).1,
      (updateUserUsedQuotaAndRequestCount_spec _ _ _).1, ledger_recordLog, Pi.add_apply,
      Pi.single_eq_of_ne (by simp), add_zero]
  rw [hledger]
  exact postConsumeQuota_takes h s.billing f quota

theorem priceMjTask_info {info' : RelayInfo} {consumeQuota : Bool} {quota : ℤ}
    (h : priceMjTask env prices s info sub consumeQuota = .ok (info', quota)) :
    info'.userId = info.userId ∧ info'.billingSource = info.billingSource := by
  unfold priceMjTask at h
  have hinfo : (modelPriceHelperPerCall env prices info sub.autoGroup).1 =
      { info with usingGroup := sub.autoGroup.getD info.usingGroup } := rfl
  generalize modelPriceHelperPerCall env prices info sub.autoGroup = priced at h hinfo
  obtain ⟨_, priceData | priceData⟩ := priced
  · cases h
  obtain rfl := hinfo
  dsimp only at h
  split at h
  · cases h
  · split_ifs at h
    cases h
    exact ⟨rfl, rfl⟩

theorem mjTask_fields (info : RelayInfo) (r : MidjourneyRequest) (channelId quota now : ℤ)
    (response : MidjourneyResponse) :
    (mjTask info r channelId quota now response).userId = info.userId ∧
      (mjTask info r channelId quota now response).action = r.action ∧
      (mjTask info r channelId quota now response).quota = quota := by
  unfold mjTask
  dsimp only
  split <;> split_ifs <;> exact ⟨rfl, rfl, rfl⟩

def MjSubmit.Charges (sub : MjSubmit) (task : Midjourney) : Prop :=
  sub.consume.funding.wallet = none ∧
    match sub.reply with
    | .error _ => False
    | .ok (statusCode, response) =>
      statusCode = 200 ∧
        if sub.mode = .swapFace then response.code = 1
        else isFreeMjAction task.action = false ∧ isAcceptedMjCode response.code = true

/-- The quota or nothing, and the quota if the submission charges. -/
structure MjTaken (sub : MjSubmit) (userId : ℤ) (task : Midjourney) (taken : ℤ) : Prop where
  user : task.userId = userId
  all_or_nothing : taken = task.quota ∨ taken = 0
  charged : sub.Charges task → taken = task.quota

theorem MjTaken.of_insert {s₁ : MjStore} {info' : RelayInfo} {stored : Midjourney}
    {action : String} {quota : ℤ} {consumes : Bool} (hinfo : info'.userId = info.userId ∧
      info'.billingSource = info.billingSource)
    (hsession : info.billingSource = .unset) (hbilling : s₁.billing = s.billing)
    (hinsert : s₁.insert sub.insertFault task = (s', .ok stored))
    (htask : task.userId = info'.userId ∧ task.quota = quota)
    (hcharges : sub.Charges stored → consumes = true) :
    MjTaken sub info.userId stored (s.billing.ledger (.wallet info.userId) -
      (if consumes then consumeMjQuota settings s' info' sub.consume action quota
        else s').billing.ledger (.wallet info.userId)) := by
  cases hfault : sub.insertFault with
  | some =>
    rw [hfault] at hinsert
    cases (Prod.mk.inj hinsert).2
  | none =>
    rw [hfault] at hinsert
    obtain ⟨rfl, hstored⟩ := Prod.mk.inj hinsert
    cases hstored
    obtain ⟨huser, _⟩ := htask
    have hnot : info'.billingSource ≠ .subscription := by
      rw [hinfo.2, hsession]
      simp
    cases consumes with
    | false =>
      rw [if_neg (by simp)]
      refine ⟨huser.trans hinfo.1, Or.inr ?_, ?_⟩
      · rw [hbilling, sub_self]
      · intro hcharge
        cases hcharges hcharge
    | true =>
      rw [if_pos rfl]
      have htakes := consumeMjQuota_takes hnot settings { s₁ with tasks := s₁.tasks ++ [task] }
        sub.consume action quota
      dsimp only at htakes
      rw [hinfo.1] at htakes
      rw [← hbilling]
      rcases htakes with htakes | ⟨hfailed, htakes⟩
      · refine ⟨huser.trans hinfo.1, Or.inl (by omega), fun _ => by omega⟩
      refine ⟨huser.trans hinfo.1, Or.inr (by omega), ?_⟩
      intro hcharge
      exact absurd hcharge.1 hfailed

theorem disableMjChannel_billing {channelId code : ℤ}
    (h : disableMjChannel settings s channelId code = some s') :
    s'.billing = s.billing := by
  unfold disableMjChannel at h
  split_ifs at h
  · split at h
    · cases h
    · split_ifs at h <;> rw [← some.inj h]
  · rw [← some.inj h]

theorem relayMidjourneySubmit_taken (hsession : info.billingSource = .unset)
    (hmode : sub.mode ≠ .swapFace)
    (h : relayMidjourneySubmit env prices settings s info sub = (s', .ok task)) :
    MjTaken sub info.userId task
      (s.billing.ledger (.wallet info.userId) - s'.billing.ledger (.wallet info.userId)) := by
  unfold relayMidjourneySubmit at h
  split at h
  · cases (Prod.mk.inj h).2
  rename_i r channelId _
  dsimp only at h
  split at h
  · cases (Prod.mk.inj h).2
  rename_i info' quota hprice
  split at h
  · cases (Prod.mk.inj h).2
  rename_i statusCode response hreply
  split at h
  · cases (Prod.mk.inj h).2
  rename_i s₁ hdisable
  obtain ⟨hs', hstored⟩ := Prod.mk.inj h
  rw [← hs']
  have hfields := mjTask_fields info' r channelId quota sub.now response
  apply MjTaken.of_insert (priceMjTask_info hprice) hsession (disableMjChannel_billing hdisable)
    (Prod.ext rfl hstored) ⟨hfields.1, hfields.2.2⟩
  -- The deferred function decides by the action of the request, which is that of the task.
  have haction : task.action = r.action := by
    unfold MjStore.insert at hstored
    split at hstored
    · cases hstored
    · rw [← ok.inj hstored]
      exact hfields.2.1
  rintro ⟨-, hcharge⟩
  rw [hreply] at hcharge
  dsimp only at hcharge
  rw [if_neg hmode, haction] at hcharge
  simp [hcharge]

theorem relaySwapFace_taken (hsession : info.billingSource = .unset) (hmode : sub.mode = .swapFace)
    (h : relaySwapFace env prices settings s info sub = (s', .ok task)) :
    MjTaken sub info.userId task
      (s.billing.ledger (.wallet info.userId) - s'.billing.ledger (.wallet info.userId)) := by
  unfold relaySwapFace at h
  split at h
  · cases (Prod.mk.inj h).2
  split at h
  · cases (Prod.mk.inj h).2
  split at h
  · cases (Prod.mk.inj h).2
  rename_i info' quota hprice
  split at h
  · cases (Prod.mk.inj h).2
  rename_i statusCode response hreply
  obtain ⟨hs', hstored⟩ := Prod.mk.inj h
  rw [← hs']
  apply MjTaken.of_insert (priceMjTask_info hprice) hsession rfl (Prod.ext rfl hstored) ⟨rfl, rfl⟩
  rintro ⟨-, hcharge⟩
  rw [hreply] at hcharge
  dsimp only at hcharge
  rw [if_pos hmode] at hcharge
  simp [hcharge]

theorem relayMidjourney_taken (hsession : info.billingSource = .unset)
    (h : relayMidjourney env prices settings s info sub = (s', .ok task)) :
    MjTaken sub info.userId task
      (s.billing.ledger (.wallet info.userId) - s'.billing.ledger (.wallet info.userId)) := by
  unfold relayMidjourney at h
  split_ifs at h with hmode
  · exact relaySwapFace_taken hsession hmode h
  · exact relayMidjourneySubmit_taken hsession hmode h

/-! ### Tasks that are never refunded -/

def Midjourney.NeverRefunded (t : Midjourney) : Prop :=
  t.quota = 0 ∨ t.mjId = "" ∨ t.progress = "100%"

namespace MjSystem

variable {W : Type} {toLower : String → String} {s : MjSystem W}

def start (billing : Store) (task : Midjourney) : MjSystem W where
  billing := billing
  row := task
  copies _ := none

theorem start_sameTasks (billing : Store) (task : Midjourney) :
    (start billing task : MjSystem W).SameTasks task := by
  refine ⟨⟨rfl, rfl, rfl⟩, ?_⟩
  intro w copy hcopy
  cases hcopy

variable [DecidableEq W]

theorem credited_step_of_unnamed {t : Midjourney} (ht : t.mjId = "") (hsame : s.SameTasks t)
    (e : MjEvent W) : (s.step toLower e).credited = s.credited := by
  have hunnamed : ∀ {w : W} {task : Midjourney}, s.copies w = some task → task.mjId = "" := by
    intro w task hcopy
    rw [(hsame.2 w task hcopy).2.1]
    exact ht
  have hout := step_outcome toLower s e
  generalize s.step toLower e = s' at hout ⊢
  cases hout with
  | idle | load | kept | failed | other => rfl
  | returned _ _ _ _ _ _ copy named => exact absurd (hunnamed copy) named

structure Unloaded (s : MjSystem W) : Prop where
  complete : s.Complete
  copies : ∀ w, s.copies w = none
  credited : s.credited = 0

theorem Unloaded.step (h : s.Unloaded) (e : MjEvent W) : (s.step toLower e).Unloaded := by
  have hout := step_outcome toLower s e
  generalize s.step toLower e = s' at hout ⊢
  cases hout with
  | idle => exact h
  | load _ incomplete => exact absurd h.complete incomplete
  | kept w _ _ _ _ _ copy | returned w _ _ _ _ _ copy =>
    rw [h.copies w] at copy
    cases copy
  | failed _ fault failReason =>
    refine ⟨?_, h.copies, h.credited⟩
    exact Midjourney.bulkFail_invariant (P := (·.progress = "100%")) h.complete fault failReason rfl
  | other => exact ⟨h.complete, h.copies, h.credited⟩

variable (toLower) (billing : Store) (es : List (MjEvent W))

theorem credited_le_run (htask : 0 ≤ task.quota) :
    let s := es.foldl (step toLower) (start billing task)
    s.credited ≤ s.increases * task.quota := by
  have hinv : ∀ (s : MjSystem W) (e : MjEvent W),
      s.SameTasks task ∧ s.credited ≤ s.increases * task.quota →
        (s.step toLower e).SameTasks task ∧
          (s.step toLower e).credited ≤ (s.step toLower e).increases * task.quota := by
    rintro s e ⟨hsame, hle⟩
    exact ⟨hsame.step e, credited_le_step htask hsame hle e⟩
  have h0 : (start billing task : MjSystem W).credited ≤
      (start billing task : MjSystem W).increases * task.quota := by
    simp [start]
  exact (invariant_of_step hinv es ⟨start_sameTasks billing task, h0⟩).2

theorem credited_of_neverRefunded (htask : task.NeverRefunded) :
    (es.foldl (step toLower) (start billing task)).credited ≤ 0 := by
  rcases htask with hquota | hunnamed | hcomplete
  · have hle := credited_le_run toLower billing es hquota.ge
    dsimp only at hle
    rw [hquota, mul_zero] at hle
    exact hle
  · have hinv : ∀ (s : MjSystem W) (e : MjEvent W), s.SameTasks task ∧ s.credited = 0 →
        (s.step toLower e).SameTasks task ∧ (s.step toLower e).credited = 0 := by
      rintro s e ⟨hsame, hzero⟩
      exact ⟨hsame.step e, (credited_step_of_unnamed hunnamed hsame e).trans hzero⟩
    have hrun := invariant_of_step hinv es ⟨start_sameTasks billing task, rfl⟩
    exact hrun.2.le
  have hinv : ∀ (s : MjSystem W) (e : MjEvent W), s.Unloaded → (s.step toLower e).Unloaded :=
    fun _ e h => h.step e
  have hrun := invariant_of_step hinv es (⟨hcomplete, fun _ => rfl,
    rfl⟩ : (start billing task).Unloaded)
  exact hrun.credited.le

end MjSystem

/-- **A Midjourney task returns no more than it has cost**, if its price is not negative, the
submission has charged the price or the task cannot be refunded, and every item is safe. -/
theorem midjourneyTask_returns_le_taken (env : BillingEnv) (prices : PriceSettings)
    (settings : MjSettings) {s s' : MjStore} {info : RelayInfo}
    (hsession : info.billingSource = .unset) {sub : MjSubmit} {task : Midjourney}
    (hsubmit : relayMidjourney env prices settings s info sub = (s', .ok task))
    (hquota : 0 ≤ task.quota) (hcharged : sub.Charges task ∨ task.NeverRefunded) {W : Type}
    [DecidableEq W] {es : List (MjEvent W)}
    (hsafe : Guarded (step settings.toLower) MjSystem.RefundsSafely
      (.start s'.billing task) es) : (es.foldl (step settings.toLower)
      (.start s'.billing task)).credited ≤
      s.billing.ledger (.wallet info.userId) - s'.billing.ledger (.wallet info.userId) := by
  have htaken := relayMidjourney_taken hsession hsubmit
  rcases hcharged with hcharged | hnever
  · rw [htaken.charged hcharged]
    have hle := credited_le_run settings.toLower s'.billing es hquota
    have hstep : ∀ (t : MjSystem W) (e : MjEvent W), True → t.RefundsSafely e →
        OnceStep MjSystem.Settled increases t (t.step settings.toLower e) := by
      intro t e _ he
      exact refunds_once he
    have honce := atMostOnce (fun _ _ _ => trivial) hstep trivial rfl hsafe
    generalize es.foldl (step settings.toLower) (.start s'.billing task) = t at hle honce ⊢
    calc t.credited ≤ t.increases * task.quota := hle
      _ ≤ 1 * task.quota := mul_le_mul_of_nonneg_right (by exact_mod_cast honce) hquota
      _ = task.quota := one_mul _
  · have hnone := credited_of_neverRefunded settings.toLower s'.billing es hnever
    rcases htaken.all_or_nothing with htaken | htaken <;> omega

instance (sub : MjSubmit) (task : Midjourney) : Decidable (sub.Charges task) := by
  unfold MjSubmit.Charges
  split <;> infer_instance

def MjStore.sample : MjStore where
  billing := .sample
  tasks := [
    { userId := 1, action := "IMAGINE", mjId := "o", status := "SUCCESS", progress := "100%",
      channelId := 5, quota := 10 }]
  channels := fun _ => some ⟨true, false⟩

def MjSettings.sample : MjSettings where
  mjActionCheckSuccessEnabled := true
  automaticDisableChannelEnabled := true
  toLower := id

def MjSubmit.sample (mode : MjRelayMode) (request : MidjourneyRequest) : MjSubmit where
  mode := mode
  request := some request
  reply := .ok (200, { code := 1, result := "m" })

def MjEvent.sample : List (MjEvent Unit) :=
  [.load (), .item () { mjId := "m", status := "FAILURE", progress := "100%" } 0 none none]

theorem midjourneyTask_returns_le_taken_of_imagine :
    let sub := MjSubmit.sample .imagine { prompt := "p" }
    let s' := (relayMidjourney .standard .sample .sample .sample (.sample "wallet_only") sub).1
    let task := mjTask (.sample "wallet_only") { prompt := "p", action := "IMAGINE" } 0 10 0
      { code := 1, result := "m" }
    (sample.foldl (step id) (.start s'.billing task)).credited ≤
        MjStore.sample.billing.ledger (.wallet 1) - s'.billing.ledger (.wallet 1) ∧
      (sample.foldl (step id) (.start s'.billing task)).credited = 10 := by
  intro sub s' task
  have hsubmit : relayMidjourney .standard .sample .sample .sample (.sample "wallet_only") sub =
      (s', .ok task) := by
    refine Prod.ext rfl ?_
    decide +kernel
  have hsafe : Guarded (step MjSettings.sample.toLower) MjSystem.RefundsSafely
      (.start s'.billing task) sample := by
    decide +kernel
  exact ⟨midjourneyTask_returns_le_taken .standard .sample .sample rfl hsubmit (by decide)
    (Or.inl (by decide +kernel)) hsafe, by decide +kernel⟩

/-- A part of the task `o` is painted over, which costs nothing. The new task stores the price of 10
all the same, and when it fails, the user is paid 10. -/
theorem midjourneyTask_refunds_uncharged :
    let sub := MjSubmit.sample .change { taskId := "o", action := "INPAINT", index := 1 }
    let s' := (relayMidjourney .standard .sample .sample .sample (.sample "wallet_only") sub).1
    ∃ task, (relayMidjourney .standard .sample .sample .sample (.sample "wallet_only") sub).2 =
      .ok task ∧ MjStore.sample.billing.ledger (.wallet 1) - s'.billing.ledger (.wallet 1) = 0 ∧
      (sample.foldl (step id) (.start s'.billing task)).credited = 10 := by
  refine ⟨mjTask (.sample "wallet_only") { taskId := "o", action := "INPAINT", index := 1 } 5 10 0
    { code := 1, result := "m" }, ?_⟩
  decide +kernel

end TokensFlux
