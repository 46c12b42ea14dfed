import TokensFlux.Relay.Equiv.Channel
import TokensFlux.Relay.Equiv.Loop

/-!
# The groups a request is tried in

The distributor takes the first of `pendingSlots`, every retry the next one, until a drawn channel
has no enabled key.  `Following` is the invariant of the loop and `relayPass_of_cons` one pass.
-/

namespace TokensFlux

open Attempt ChannelCache Except List Option RelayConfig RelayContext

/-! ### The request -/

/-- It is bound to no channel, has no affinity, and nothing has been selected for it yet. -/
structure CrossGroupRequest (ctx : RelayContext) (request : ModelRequest)
    (denv : DistributeEnv) : Prop where
  tokenGroup : ctx.tokenGroup = "auto"
  usingGroup : ctx.usingGroup = "auto"
  tokenCrossGroupRetry : ctx.tokenCrossGroupRetry = true
  specificChannelId : ctx.specificChannelId = none
  autoGroupIndex : ctx.autoGroupIndex = none
  channelAffinityMeta : ctx.channelAffinityMeta = none
  channelAffinitySkipRetry : ctx.channelAffinitySkipRetry = none
  affinity : denv.affinity = none
  shouldSelectChannel : request.shouldSelectChannel = true
  playgroundGroup : request.playgroundGroup = ""

/-- `random n i` is the random number of pass `n` in the group at index `i`. -/
structure FixedTable (cache : ChannelCache) (random : ℕ → ℕ → ℕ) (denv : DistributeEnv)
    (env : ℕ → AttemptEnv) : Prop where
  distribute : ∀ i, denv.source i = cache.getRandomSatisfiedChannel (random 0 i)
  source : ∀ n i, (env n).source i = cache.getRandomSatisfiedChannel (random n i)
  pollingIndex : ∀ n, ∃ index, (env n).draw.pollingIndex = .ok index

/-- Every attempt fails with an error that is retried while retries are left. -/
structure AllFail (settings : RelaySettings) (ctx : RelayContext)
    (env : ℕ → AttemptEnv) : Prop where
  bodyError : ∀ n, (env n).bodyError = none
  result : ∀ n, ∃ e, (env n).result = .error e ∧
    ∀ left : ℤ, 0 < left → shouldRetry settings ctx e.normalizeViolationFeeError left = true

variable (cache : ChannelCache)

def ChannelCache.hasCandidate (model requestPath group : String) : Bool :=
  cache.satisfiedChannels group model requestPath ≠ []

def ChannelCache.drawn (random : ℕ → ℕ → ℕ) (model requestPath : String) (n : ℕ)
    (slot : Slot) : Option Channel :=
  (cache.getRandomSatisfiedChannel (random n slot.index) slot.group model slot.retry requestPath).1

theorem shouldRetry_congr {settings : RelaySettings} {ctx ctx' : RelayContext}
    {e : RelayError} {left : ℤ} (hspecific : ctx'.specificChannelId = ctx.specificChannelId)
    (hmeta : ctx'.channelAffinityMeta = ctx.channelAffinityMeta)
    (hskip : ctx'.channelAffinitySkipRetry = ctx.channelAffinitySkipRetry) :
    shouldRetry settings ctx' e left = shouldRetry settings ctx e left := by
  unfold shouldRetry shouldSkipRetryAfterChannelAffinityFailure
  rw [hspecific, hmeta, hskip]

/-! ### The first attempt -/

theorem retry_of_pendingSlots_zero {retryTimes i : ℕ} {candidate : String → Bool}
    {groups : List String} {slot : Slot} {rest : List Slot}
    (h : pendingSlots retryTimes candidate i 0 groups = slot :: rest) : slot.retry = 0 := by
  induction groups generalizing i with
  | nil => cases h
  | cons group _ ih =>
    cases hcandidate : candidate group with
    | false =>
      rw [pendingSlots_cons_of_not hcandidate] at h
      exact ih h
    | true =>
      rw [pendingSlots_cons_of_candidate hcandidate (Nat.zero_le _)] at h
      obtain ⟨rfl, -⟩ := cons.inj h
      rfl

/-- With which the distributor selects. -/
def ModelRequest.firstTry (request : ModelRequest) : RetryParam :=
  ⟨"auto", request.model, request.requestPath, 0, false⟩

section Distribute

variable {settings : RelaySettings} {denv : DistributeEnv} {request : ModelRequest}
  {ctx ctx₁ : RelayContext}

theorem exists_channel_of_distribute (hrequest : CrossGroupRequest ctx request denv)
    (h : distribute settings denv request ctx = .ok ctx₁) :
    ∃ c, (cacheGetRandomSatisfiedChannel settings denv.source ctx request.firstTry).channel =
      some c ∧ ctx₁ = (setupContextForSelectedChannel
        (cacheGetRandomSatisfiedChannel settings denv.source ctx
        request.firstTry).ctx (some c) request.model denv.draw).1 := by
  unfold distribute distributeChannel at h
  rw [hrequest.specificChannelId] at h
  rcases hlimit : checkModelLimit request ctx with _ | _
  · simp only [hlimit] at h
    cases h
  have hplayground : playgroundContext settings request ctx = .ok ctx := by
    rw [playgroundContext, hrequest.playgroundGroup, if_neg]
    simp
  simp only [hlimit, hrequest.shouldSelectChannel, hplayground] at h
  rw [if_neg (by simp)] at h
  split_ifs at h
  · cases h
  have hpreferred : preferredChannel settings denv request ctx = (ctx, none) := by
    rw [preferredChannel, hrequest.affinity]
  unfold distributeSelect at h
  simp only [hpreferred, hrequest.usingGroup] at h
  split at h
  · cases h
  · cases h
  · rename_i c _ hc
    exact ⟨c, hc, (ok.inj h).symm⟩

end Distribute

section Table

variable {settings : RelaySettings} {source : ℕ → ChannelSource} {candidate : String → Bool}
  {ctx : RelayContext} {param : RetryParam} {slot : Slot} {rest : List Slot}
  (hauto : param.tokenGroup = "auto")
  (hsource : ∀ i group retry,
    (source i group param.modelName retry param.requestPath).1.isSome ↔ candidate group = true)
  (hretry : param.retry ≤ settings.retryTimes)

include hauto hsource hretry

theorem cacheGetRandomSatisfiedChannel_of_cons
    (h : pendingSlots settings.retryTimes candidate ctx.groupIndex param.retry
      ((getUserAutoGroup settings.groups ctx.userGroup).drop ctx.groupIndex) = slot :: rest) :
    ∃ c, (source slot.index slot.group param.modelName slot.retry param.requestPath).1 = some c ∧
      cacheGetRandomSatisfiedChannel settings source ctx param =
      takeSlot settings.retryTimes ctx param slot c := by
  have hne : ¬ settings.groups.autoGroups = [] := by
    intro hempty
    rw [getUserAutoGroup, hempty, filter_nil, drop_nil] at h
    cases h
  rw [cacheGetRandomSatisfiedChannel, if_pos hauto, if_neg hne]
  exact selectAuto_of_pendingSlots_cons hsource (fun h => absurd h (lt_irrefl _)) hretry h

theorem cacheGetRandomSatisfiedChannel_of_nil
    (h : pendingSlots settings.retryTimes candidate ctx.groupIndex param.retry
      ((getUserAutoGroup settings.groups ctx.userGroup).drop ctx.groupIndex) = []) :
    (cacheGetRandomSatisfiedChannel settings source ctx param).channel = none := by
  rw [cacheGetRandomSatisfiedChannel, if_pos hauto]
  split_ifs
  · rfl
  · exact selectAuto_of_pendingSlots_nil hsource hretry h

end Table

structure SameRequest (ctx ctx' : RelayContext) : Prop where
  userGroup : ctx'.userGroup = ctx.userGroup
  tokenGroup : ctx'.tokenGroup = ctx.tokenGroup
  tokenCrossGroupRetry : ctx'.tokenCrossGroupRetry = ctx.tokenCrossGroupRetry
  specificChannelId : ctx'.specificChannelId = ctx.specificChannelId
  channelAffinityMeta : ctx'.channelAffinityMeta = ctx.channelAffinityMeta
  channelAffinitySkipRetry : ctx'.channelAffinitySkipRetry = ctx.channelAffinitySkipRetry

theorem SameRequest.trans {ctx ctx' ctx'' : RelayContext} (h : SameRequest ctx ctx')
    (h' : SameRequest ctx' ctx'') : SameRequest ctx ctx'' :=
  ⟨h'.userGroup.trans h.userGroup, h'.tokenGroup.trans h.tokenGroup,
    h'.tokenCrossGroupRetry.trans h.tokenCrossGroupRetry,
    h'.specificChannelId.trans h.specificChannelId,
    h'.channelAffinityMeta.trans h.channelAffinityMeta,
    h'.channelAffinitySkipRetry.trans h.channelAffinitySkipRetry⟩

theorem takeSlot_ctx (retryTimes : ℕ) (ctx : RelayContext) (param : RetryParam)
    (slot : Slot) (c : Channel) :
    SameRequest ctx (takeSlot retryTimes ctx param slot c).ctx ∧
      (takeSlot retryTimes ctx param slot c).ctx.autoGroup = some slot.group := by
  unfold takeSlot
  split_ifs <;> exact ⟨⟨rfl, rfl, rfl, rfl, rfl, rfl⟩, rfl⟩

theorem setupContextForSelectedChannel_ctx {ctx ctx' : RelayContext} (h : SameRequest ctx ctx')
    (channel : Option Channel) (name : String) (draw : KeyDraw) :
    SameRequest ctx (setupContextForSelectedChannel ctx' channel name draw).1 ∧
      (setupContextForSelectedChannel ctx' channel name draw).1.autoGroup = ctx'.autoGroup ∧
      (setupContextForSelectedChannel ctx' channel name draw).1.groupIndex = ctx'.groupIndex ∧
      (setupContextForSelectedChannel ctx' channel name draw).1.originalModel = name := by
  obtain ⟨_, _, _, _, hctx⟩ := setupContextForSelectedChannel_frame ctx' channel name draw
  rw [hctx]
  exact ⟨h.trans ⟨rfl, rfl, rfl, rfl, rfl, rfl⟩, rfl, rfl, rfl⟩

section Run

variable {cfg : RelayConfig} {cache : ChannelCache} {random : ℕ → ℕ → ℕ} {denv : DistributeEnv}
  {request : ModelRequest} {env : ℕ → AttemptEnv} {ctx ctx₁ : RelayContext} {info : RelayInfo}
  {st : RelayState} {n : ℕ} {slot : Slot} {rest : List Slot}

def requestSlots (cfg : RelayConfig) (cache : ChannelCache) (request : ModelRequest)
    (ctx : RelayContext) :
    List Slot :=
  pendingSlots cfg.settings.retryTimes (cache.hasCandidate request.model request.requestPath) 0 0
    (getUserAutoGroup cfg.settings.groups ctx.userGroup)

theorem isSome_iff_hasCandidate {random retry : ℕ} {group model requestPath : String} :
    (cache.getRandomSatisfiedChannel random group model retry requestPath).1.isSome
      ↔ cache.hasCandidate model requestPath group = true := by
  rw [cache.isSome_getRandomSatisfiedChannel_iff, hasCandidate, decide_eq_true_eq]

/-- **The distributor takes the first slot.** -/
theorem distribute_first (hretryTimes : 1 ≤ cfg.settings.retryTimes)
    (hrequest : CrossGroupRequest ctx request denv) (htable : FixedTable cache random denv env)
    (h : distribute cfg.settings denv request ctx = .ok ctx₁) :
    ∃ slot rest, requestSlots cfg cache request ctx = slot :: rest ∧ SameRequest ctx ctx₁ ∧
      ctx₁.groupIndex = slot.index ∧ ctx₁.autoGroup = some slot.group ∧
      ctx₁.originalModel = request.model := by
  have hindex : ctx.groupIndex = 0 := by rw [groupIndex, hrequest.autoGroupIndex, getD_none]
  have hsource : ∀ i group retry,
      (denv.source i group request.model retry request.requestPath).1.isSome
      ↔ cache.hasCandidate request.model request.requestPath group = true := by
    intro i group retry
    rw [htable.distribute, isSome_iff_hasCandidate]
  obtain ⟨c, hc, rfl⟩ := exists_channel_of_distribute hrequest h
  cases hslots : requestSlots cfg cache request ctx with
  | nil =>
    have hnone := @cacheGetRandomSatisfiedChannel_of_nil cfg.settings denv.source _ ctx
      request.firstTry rfl hsource (Nat.zero_le _) (by rw [hindex, drop_zero]; exact hslots)
    rw [hnone] at hc
    cases hc
  | cons slot rest =>
    obtain ⟨c', -, htake⟩ := @cacheGetRandomSatisfiedChannel_of_cons cfg.settings denv.source _ ctx
      request.firstTry slot rest rfl hsource (Nat.zero_le _)
      (by rw [hindex, drop_zero]; exact hslots)
    rw [htake]
    obtain ⟨hsame, hgroup⟩ := takeSlot_ctx cfg.settings.retryTimes ctx request.firstTry slot c'
    obtain ⟨hsame', hgroup', hindex', hmodel⟩ :=
      setupContextForSelectedChannel_ctx hsame (some c) request.model denv.draw
    refine ⟨slot, rest, rfl, hsame', ?_, hgroup'.trans hgroup, hmodel⟩
    -- The first attempt is not the last retry of its group.
    have hretry := retry_of_pendingSlots_zero hslots
    rw [hindex']
    rcases @takeSlot_next cfg.settings ctx request.firstTry slot c' rfl with ⟨_, -⟩ | ⟨-, hnext, -⟩
    · omega
    · exact hnext

/-! ### A retry -/

/-- The first `n` slots were attempted, and the rest is pending at the stored index. -/
structure Following (cfg : RelayConfig) (cache : ChannelCache) (request : ModelRequest)
    (ctx : RelayContext) (n : ℕ) (st : RelayState) : Prop where
  same : SameRequest ctx st.ctx
  hasChannelMeta : st.hasChannelMeta = true
  param : st.param = ⟨"auto", request.model, request.requestPath, st.param.retry, false⟩
  retry_le : st.param.retry ≤ cfg.settings.retryTimes
  pending : pendingSlots cfg.settings.retryTimes
    (cache.hasCandidate request.model request.requestPath)
    st.ctx.groupIndex st.param.retry
    ((getUserAutoGroup cfg.settings.groups ctx.userGroup).drop st.ctx.groupIndex)
      = (requestSlots cfg cache request ctx).drop n
  attempts : st.attempts.map Attempt.group =
    ((requestSlots cfg cache request ctx).take n).map Slot.group

theorem exists_relayOn_inl (hfail : AllFail cfg.settings ctx env) (hsame : SameRequest ctx st.ctx)
    (hretry : st.param.retry < cfg.settings.retryTimes) (n : ℕ) (channelId : ℤ) :
    ∃ st', relayOn cfg (env n) st channelId = .inl st' := by
  obtain ⟨e, hresult, hretried⟩ := hfail.result n
  have hattempt : (relayAttempt cfg (env n) (st.addUsedChannel channelId)).2 = .error e := by
    unfold relayAttempt
    simp only [hresult]
  obtain ⟨hctx, hparam, -, -⟩ := @relayAttempt_fst cfg (env n) (st.addUsedChannel channelId)
  have hshould : shouldRetry cfg.settings (relayAttempt cfg (env n)
      (st.addUsedChannel channelId)).1.ctx
      e.normalizeViolationFeeError
      (cfg.settings.retryTimes -
        (relayAttempt cfg (env n) (st.addUsedChannel channelId)).1.param.retry) = true := by
    have hleft : (0 : ℤ) < cfg.settings.retryTimes - st.param.retry := by omega
    rw [hctx, hparam]
    exact (shouldRetry_congr hsame.specificChannelId hsame.channelAffinityMeta
      hsame.channelAffinitySkipRetry).trans (hretried _ hleft)
  unfold relayOn
  simp only [hfail.bodyError n]
  simp only [hattempt]
  exact ⟨_, if_pos hshould⟩

theorem take_succ_of_drop {α : Type*} {l rest : List α} {a : α} {n : ℕ} (h : l.drop n = a :: rest) :
    l.take (n + 1) = l.take n ++ [a] ∧ l.drop (n + 1) = rest := by
  have hget : l[n]? = some a := by rw [← head?_drop, h, head?_cons]
  constructor
  · rw [take_add_one, hget, toList_some]
  · rw [← tail_drop, h, tail_cons]

theorem Following.isSome_source (h : Following cfg cache request ctx n st)
    (htable : FixedTable cache random denv env) (i : ℕ) (group : String) (retry : ℕ) :
    ((env n).source i group st.param.modelName retry st.param.requestPath).1.isSome
      ↔ cache.hasCandidate request.model request.requestPath group = true := by
  rw [htable.source, h.param, isSome_iff_hasCandidate]

theorem relayPass_of_nil (htable : FixedTable cache random denv env)
    (h : Following cfg cache request ctx n st)
    (hnil : (requestSlots cfg cache request ctx).drop n = []) :
    ∃ r, relayPass cfg env n st = .inr r ∧ r.state.attempts = st.attempts := by
  have hauto : st.param.tokenGroup = "auto" := by rw [h.param]
  have hnone : (st.select cfg (env n)).channel = none := by
    apply cacheGetRandomSatisfiedChannel_of_nil hauto (h.isSome_source htable) h.retry_le
    rw [h.same.userGroup, h.pending, hnil]
  rcases relayPass_cases cfg env n st with ⟨r, hr, hattempts, -⟩ | ⟨-, hmeta, -⟩ | ⟨c, -, -, hc, -⟩
  · exact ⟨.failed r, hr, hattempts⟩
  · exact absurd (h.hasChannelMeta.symm.trans hmeta) (by simp)
  · exact absurd (hc.symm.trans hnone) (some_ne_none c)

section Retry

variable {c : Channel}

/-- A retry draws its channel from the next slot. -/
theorem select_of_cons (htable : FixedTable cache random denv env)
    (h : Following cfg cache request ctx n st)
    (hcons : (requestSlots cfg cache request ctx).drop n = slot :: rest) :
    ∃ c, cache.drawn random request.model request.requestPath n slot = some c ∧
      st.select cfg (env n) = takeSlot cfg.settings.retryTimes st.ctx st.param slot c := by
  have hauto : st.param.tokenGroup = "auto" := by rw [h.param]
  obtain ⟨c, hc, hselect⟩ := @cacheGetRandomSatisfiedChannel_of_cons cfg.settings (env n).source _
    st.ctx st.param slot rest hauto (h.isSome_source htable) h.retry_le
    (by rw [h.same.userGroup]; exact h.pending.trans hcons)
  refine ⟨c, ?_, hselect⟩
  rw [htable.source, h.param] at hc
  exact hc

/-- The state in which the attempt on the slot is made. -/
theorem Following.toChannel (h : Following cfg cache request ctx n st)
    (hselect : st.select cfg (env n) = takeSlot cfg.settings.retryTimes st.ctx st.param slot c) :
    SameRequest ctx (st.toChannel cfg (env n) c).ctx ∧
      (st.toChannel cfg (env n) c).ctx.groupIndex
        = (takeSlot cfg.settings.retryTimes st.ctx st.param slot c).ctx.groupIndex ∧
      (st.toChannel cfg (env n) c).param
        = (takeSlot cfg.settings.retryTimes st.ctx st.param slot c).param ∧
      (st.toChannel cfg (env n) c).group = slot.group := by
  obtain ⟨hsame, hgroup⟩ := takeSlot_ctx cfg.settings.retryTimes st.ctx st.param slot c
  obtain ⟨hsame', hgroup', hindex', -⟩ := setupContextForSelectedChannel_ctx (h.same.trans hsame)
    (some c) st.info.originModelName (env n).draw
  rw [← hselect] at hsame' hgroup' hgroup hindex' ⊢
  have hauto : (st.toChannel cfg (env n) c).ctx.autoGroup = some slot.group := hgroup'.trans hgroup
  refine ⟨hsame', hindex', rfl, ?_⟩
  show (st.toChannel cfg (env n) c).ctx.autoGroup.getD _ = slot.group
  rw [hauto, getD_some]

/-- One more slot was attempted, and the rest is pending at the index that was stored with it. -/
theorem Following.advance (h : Following cfg cache request ctx n st)
    (hcross : ctx.tokenCrossGroupRetry = true)
    (hcons : (requestSlots cfg cache request ctx).drop n = slot :: rest) {st' : RelayState}
    (hsame : SameRequest ctx st'.ctx) (hmeta : st'.hasChannelMeta = true)
    (hindex : st'.ctx.groupIndex
      = (takeSlot cfg.settings.retryTimes st.ctx st.param slot c).ctx.groupIndex)
    (hparam : st'.param
      = (takeSlot cfg.settings.retryTimes st.ctx st.param slot c).param.increaseRetry)
    (hattempts : st'.attempts.map group = st.attempts.map group ++ [slot.group]) :
    Following cfg cache request ctx (n + 1) st' := by
  obtain ⟨htake, hdrop⟩ := take_succ_of_drop hcons
  obtain ⟨_, hnextGroup, hnextRetry⟩ := pendingSlots_next rfl h.retry_le (h.pending.trans hcons)
  have hreset : st.param.resetNextTry = false := by rw [h.param]
  have hgroups : st'.attempts.map group
      = ((requestSlots cfg cache request ctx).take (n + 1)).map Slot.group := by
    rw [hattempts, htake, map_append, map_singleton, ← h.attempts]
  rcases @takeSlot_next cfg.settings st.ctx st.param slot c hreset with
    ⟨hlast, hnextIndex, -, hincrease⟩ | ⟨hnot, hnextIndex, -, hincrease⟩
  · rw [hincrease] at hparam
    refine ⟨hsame, hmeta, ?_, ?_, ?_, hgroups⟩
    · rw [hparam, h.param]
    · rw [hparam]
      exact Nat.zero_le _
    · rw [hparam, hindex, hnextIndex, hdrop]
      exact hnextGroup hlast
  have hlt := hnot (h.same.tokenCrossGroupRetry.trans hcross)
  rw [hincrease] at hparam
  refine ⟨hsame, hmeta, ?_, ?_, ?_, hgroups⟩
  · rw [hparam, h.param]
  · rw [hparam]
    exact hlt
  · rw [hparam, hindex, hnextIndex, hdrop]
    exact hnextRetry hlt

theorem relayPass_of_key (hretryTimes : 1 ≤ cfg.settings.retryTimes)
    (hcross : ctx.tokenCrossGroupRetry = true) (hfail : AllFail cfg.settings ctx env)
    (h : Following cfg cache request ctx n st)
    (hcons : (requestSlots cfg cache request ctx).drop n = slot :: rest)
    (hselect : st.select cfg (env n) = takeSlot cfg.settings.retryTimes st.ctx st.param slot c)
    {key : String × ℕ} (hkey : c.getNextEnabledKey (env n).draw = .ok key) :
    ∃ st', relayPass cfg env n st = .inl st' ∧ Following cfg cache request ctx (n + 1) st' := by
  have hpass : relayPass cfg env n st = relayOn cfg (env n) (st.toChannel cfg (env n) c) c.id := by
    rw [relayPass, if_pos h.retry_le, getChannel_retry h.hasChannelMeta
      (by rw [hselect, takeSlot_err]) (by rw [hselect, takeSlot_channel]) hkey]
  obtain ⟨hctx, hindex, hparam, hgroup⟩ := h.toChannel hselect
  have hlt : (st.toChannel cfg (env n) c).param.retry < cfg.settings.retryTimes := by
    have hreset : st.param.resetNextTry = false := by rw [h.param]
    rw [hparam]
    rcases @takeSlot_next cfg.settings st.ctx st.param slot c hreset with
      ⟨-, -, hretry, -⟩ | ⟨hlt, -, hretry, -⟩
    · omega
    · exact hretry ▸ hlt (h.same.tokenCrossGroupRetry.trans hcross)
  obtain ⟨st', hon⟩ := exists_relayOn_inl hfail hctx hlt n c.id
  obtain ⟨hctx', hparam', hmeta', hattempts'⟩ := relayOn_inl hon
  refine ⟨st', hpass.trans hon, h.advance (c := c) hcross hcons ?_ hmeta' ?_ ?_ ?_⟩
  · rw [hctx']
    exact hctx.trans ⟨rfl, rfl, rfl, rfl, rfl, rfl⟩
  · rw [hctx']
    exact hindex
  · rw [hparam', hparam]
  · rw [hattempts', map_append, map_singleton, hgroup]
    rfl

theorem relayPass_of_noKey (h : Following cfg cache request ctx n st)
    (hselect : st.select cfg (env n) = takeSlot cfg.settings.retryTimes st.ctx st.param slot c)
    (hkey : ∀ key, c.getNextEnabledKey (env n).draw ≠ .ok key) :
    ∃ r, relayPass cfg env n st = .inr r ∧ r.state.attempts = st.attempts := by
  have hno : ∀ c' key, (st.select cfg (env n)).err = none →
      (st.select cfg (env n)).channel = some c' → c'.getNextEnabledKey (env n).draw ≠ .ok key := by
    intro c' key _ hc'
    rw [hselect, takeSlot_channel] at hc'
    cases hc'
    exact hkey key
  obtain ⟨st', e, hget, hattempts, -⟩ := getChannel_retry_error h.hasChannelMeta hno
  refine ⟨.failed (st'.fail e), ?_, hattempts⟩
  rw [relayPass, if_pos h.retry_le, hget]

end Retry

/-- **A retry takes the next slot**, unless the channel it draws has no enabled key. -/
theorem relayPass_of_cons (htable : FixedTable cache random denv env)
    (hretryTimes : 1 ≤ cfg.settings.retryTimes) (hcross : ctx.tokenCrossGroupRetry = true)
    (hfail : AllFail cfg.settings ctx env) (h : Following cfg cache request ctx n st)
    (hcons : (requestSlots cfg cache request ctx).drop n = slot :: rest) :
    ∃ c, cache.drawn random request.model request.requestPath n slot = some c ∧
      (c.hasEnabledKey = true →
        ∃ st', relayPass cfg env n st = .inl st' ∧ Following cfg cache request ctx (n + 1) st') ∧
      (c.hasEnabledKey = false →
        ∃ r, relayPass cfg env n st = .inr r ∧ r.state.attempts = st.attempts) := by
  obtain ⟨c, hdrawn, hselect⟩ := select_of_cons htable h hcons
  obtain ⟨_, hindex⟩ := htable.pollingIndex n
  refine ⟨c, hdrawn, ?_, ?_⟩
  · intro hkey
    obtain ⟨key, hkey⟩ := (Channel.exists_getNextEnabledKey_iff hindex).mpr hkey
    exact relayPass_of_key hretryTimes hcross hfail h hcons hselect hkey
  · intro hkey
    refine relayPass_of_noKey h hselect ?_
    intro key hok
    have htrue := (Channel.exists_getNextEnabledKey_iff hindex).mp ⟨key, hok⟩
    exact absurd (hkey.symm.trans htrue) Bool.false_ne_true

/-! ### The whole run -/

theorem startRelay_ok (h : startRelay cfg ctx₁ info = .ok st) :
    st.ctx = ctx₁ ∧ st.hasChannelMeta = false ∧ st.attempts = [] ∧
      st.param = (freshState cfg ctx₁ (genBaseRelayInfo ctx₁ info)).param := by
  unfold startRelay at h
  dsimp only at h
  split at h
  · cases h
  split_ifs at h
  · cases h
    exact ⟨rfl, rfl, rfl, rfl⟩
  split at h
  · cases h
  · cases h
    exact ⟨rfl, rfl, rfl, rfl⟩

def DrawsKey (cfg : RelayConfig) (cache : ChannelCache) (random : ℕ → ℕ → ℕ)
    (request : ModelRequest) (ctx : RelayContext) (n : ℕ) : Prop :=
  ∀ slot c, (requestSlots cfg cache request ctx)[n]? = some slot →
    cache.drawn random request.model request.requestPath n slot = some c → c.hasEnabledKey = true

/-- **A retry** goes on exactly when there is a next slot and its channel has a key. -/
theorem relayPass_following (hretryTimes : 1 ≤ cfg.settings.retryTimes)
    (hcross : ctx.tokenCrossGroupRetry = true) (htable : FixedTable cache random denv env)
    (hfail : AllFail cfg.settings ctx env) (h : Following cfg cache request ctx n st) :
    (∃ st', relayPass cfg env n st = .inl st' ∧ Following cfg cache request ctx (n + 1) st' ∧
      n < (requestSlots cfg cache request ctx).length ∧ DrawsKey cfg cache random request ctx n) ∨
    (∃ r, relayPass cfg env n st = .inr r ∧ r.state.attempts = st.attempts ∧
      (n < (requestSlots cfg cache request ctx).length →
        ¬ DrawsKey cfg cache random request ctx n)) := by
  cases hdrop : (requestSlots cfg cache request ctx).drop n with
  | nil =>
    obtain ⟨r, hr, hattempts⟩ := relayPass_of_nil htable h hdrop
    have hle := drop_eq_nil_iff.mp hdrop
    exact .inr ⟨r, hr, hattempts, fun hlt => absurd hlt (by omega)⟩
  | cons slot =>
    have hget : (requestSlots cfg cache request ctx)[n]? = some slot := by
      rw [← List.head?_drop, hdrop, List.head?_cons]
    obtain ⟨hlt, -⟩ := List.getElem?_eq_some_iff.mp hget
    obtain ⟨c, hc, hon, hoff⟩ := relayPass_of_cons htable hretryTimes hcross hfail h hdrop
    cases hkey : c.hasEnabledKey with
    | true =>
      obtain ⟨st', hst', hfollow⟩ := hon hkey
      refine .inl ⟨st', hst', hfollow, hlt, ?_⟩
      intro slot' c' hslot' hc'
      obtain rfl := some.inj (hget.symm.trans hslot')
      obtain rfl := some.inj (hc.symm.trans hc')
      exact hkey
    | false =>
      obtain ⟨r, hr, hattempts⟩ := hoff hkey
      refine .inr ⟨r, hr, hattempts, fun _ hdraws => ?_⟩
      exact absurd (hkey.symm.trans (hdraws slot c hget hc)) Bool.false_ne_true

/-- **Where the loop ends**: after the last slot, or before the first retry whose channel has no
key. -/
def EndsAfter (cfg : RelayConfig) (cache : ChannelCache) (random : ℕ → ℕ → ℕ)
    (request : ModelRequest) (ctx : RelayContext) (r : RelayResult) : Prop :=
  ∃ m, 0 < m ∧ m ≤ (requestSlots cfg cache request ctx).length ∧
    r.state.attempts.map group = ((requestSlots cfg cache request ctx).take m).map Slot.group ∧
    (∀ n, 0 < n → n < m → DrawsKey cfg cache random request ctx n) ∧
    (m < (requestSlots cfg cache request ctx).length → ¬ DrawsKey cfg cache random request ctx m)

section Whole

variable (hretryTimes : 1 ≤ cfg.settings.retryTimes) (hrequest : CrossGroupRequest ctx request denv)
  (htable : FixedTable cache random denv env) (hfail : AllFail cfg.settings ctx env)
  (hpath : cfg.requestPath = request.requestPath)
    (hdistribute : distribute cfg.settings denv request ctx = .ok ctx₁)
  (hstart : startRelay cfg ctx₁ info = .ok st)

include hretryTimes hrequest htable hfail hpath hdistribute hstart

/-- **The first pass** attempts the slot of the distributor. -/
theorem relayPass_first : 1 ≤ (requestSlots cfg cache request ctx).length ∧
      ∃ st', relayPass cfg env 0 st = .inl st' ∧ Following cfg cache request ctx 1 st' := by
  obtain ⟨slot, rest, hslots, hsame, hindex, hgroup, hmodel⟩ :=
    distribute_first hretryTimes hrequest htable hdistribute
  obtain ⟨hctx, hmeta, hattempts, hparam⟩ := startRelay_ok hstart
  have hparam : st.param = request.firstTry := by
    have htoken : ctx₁.tokenGroup = "auto" := hsame.tokenGroup.trans hrequest.tokenGroup
    rw [hparam, ModelRequest.firstTry, ← hpath, ← hmodel]
    unfold freshState
    rw [htoken, if_neg (by simp)]
    rfl
  have hretry : st.param.retry < cfg.settings.retryTimes := by
    rw [hparam]
    exact hretryTimes
  obtain ⟨st', hon⟩ := exists_relayOn_inl hfail (hctx ▸ hsame) hretry 0 st.ctx.channelId
  obtain ⟨hctx', hparam', hmeta', hattempts'⟩ := relayOn_inl hon
  have hslot : slot.retry = 0 := retry_of_pendingSlots_zero hslots
  have hnext := (pendingSlots_next drop_zero (Nat.zero_le _)
    hslots).2.2 (by omega)
  have hlength : 1 ≤ (requestSlots cfg cache request ctx).length := by
    rw [hslots, length_cons]
    exact Nat.le_add_left 1 _
  refine ⟨hlength, st', ?_, ?_⟩
  · rw [relayPass, if_pos (le_of_lt hretry), getChannel_first hmeta]
    exact hon
  rw [hparam] at hparam'
  have hindex' : st'.ctx.groupIndex = slot.index := by
    rw [hctx', ← hindex, ← hctx]
    rfl
  refine ⟨?_, hmeta', ?_, ?_, ?_, ?_⟩
  · rw [hctx']
    rw [← hctx] at hsame
    exact hsame.trans ⟨rfl, rfl, rfl, rfl, rfl, rfl⟩
  · rw [hparam']
    rfl
  · rw [hparam']
    exact hretryTimes
  · rw [hparam', hindex', hslots, drop_one, tail_cons, ← hnext, hslot]
    rfl
  have hslotGroup : st.group = slot.group := by
    rw [RelayState.group, hctx, hgroup, getD_some]
  rw [hattempts', hattempts, hslots, hslotGroup]
  rfl

theorem relayLoop_ends {fuel : ℕ} {r : RelayResult} (hrun : relayLoop cfg env fuel st = .inr r) :
    EndsAfter cfg cache random request ctx r := by
  have hcross := hrequest.tokenCrossGroupRetry
  obtain ⟨hlength, st₁, hfirst, hfollow⟩ :=
    relayPass_first hretryTimes hrequest htable hfail hpath hdistribute hstart
  -- Before pass `n` the first `n` slots were attempted, and the channels of the retries had a key.
  let Inv (n : ℕ) (s : RelayState) : Prop := 0 < n ∧
    n ≤ (requestSlots cfg cache request ctx).length ∧ Following cfg cache request ctx n s ∧ ∀ k,
      0 < k → k < n → DrawsKey cfg cache random request ctx k
  have hgo : ∀ n s s', Inv n s → relayPass cfg env n s = .inl s' → Inv (n + 1) s' := by
    rintro n s s' ⟨hn, hle, hs, hkeys⟩ hpass
    rcases relayPass_following hretryTimes hcross htable hfail hs with
      ⟨s'', hs'', hfollow', hlt, hkey⟩ | ⟨r', hr', -⟩
    · obtain rfl := Sum.inl.inj (hs''.symm.trans hpass)
      refine ⟨Nat.succ_pos n, hlt, hfollow', ?_⟩
      intro k hk hkn
      rcases Nat.lt_succ_iff_lt_or_eq.mp hkn with hkn | rfl
      · exact hkeys k hk hkn
      · exact hkey
    · cases hr'.symm.trans hpass
  have hleave : ∀ n s r, Inv n s → relayPass cfg env n s = .inr r →
      EndsAfter cfg cache random request ctx r := by
    rintro n s r ⟨hn, hle, hs, hkeys⟩ hpass
    rcases relayPass_following hretryTimes hcross htable hfail hs with
      ⟨s'', hs'', -⟩ | ⟨r', hr', hattempts, hkey⟩
    · cases hs''.symm.trans hpass
    · obtain rfl := Sum.inr.inj (hr'.symm.trans hpass)
      exact ⟨n, hn, hle, by rw [hattempts, hs.attempts], hkeys, hkey⟩
  obtain _ | fuel := fuel
  · cases hrun
  have hrest : runLoop (relayPass cfg env) fuel 1 st₁ = .inr r := by
    rw [relayLoop, runLoop_succ_of_inl hfirst] at hrun
    exact hrun
  have hstart' : Inv 1 st₁ := ⟨Nat.one_pos, hlength, hfollow, fun k hk hk' => absurd hk' (by omega)⟩
  have hpost := @runLoop_invariant _ _ _ 1 fuel st₁ Inv (EndsAfter cfg cache random request ctx)
    hgo hleave hstart'
  rw [hrest] at hpost
  exact hpost

end Whole

theorem budget_startRelay (h : startRelay cfg ctx₁ info = .ok st) : st.budget cfg.settings ≤
    (cfg.settings.retryTimes + 1) *
      max 1 (getUserAutoGroup cfg.settings.groups ctx₁.userGroup).length := by
  obtain ⟨hctx, hmeta, -, hparam⟩ := startRelay_ok h
  have hretry : st.param.retry = 0 := by
    rw [hparam]
    rfl
  set groups := getUserAutoGroup cfg.settings.groups ctx₁.userGroup
  have hone : 1 ≤ (cfg.settings.retryTimes + 1) * max 1 groups.length :=
    Nat.mul_pos (Nat.succ_pos _) (lt_of_lt_of_le Nat.one_pos (le_max_left _ _))
  unfold RelayState.budget attemptsLeft
  rw [hmeta, if_neg Bool.false_ne_true, hctx, hretry, Nat.sub_zero, Nat.sub_zero]
  apply max_le hone
  split_ifs
  · calc (groups.length - ctx₁.groupIndex) * (cfg.settings.retryTimes + 1)
        ≤ max 1 groups.length * (cfg.settings.retryTimes + 1) :=
          Nat.mul_le_mul_right _ ((Nat.sub_le _ _).trans (le_max_right _ _))
      _ = _ := Nat.mul_comm _ _
  · exact Nat.le_mul_of_pos_right _ (lt_of_lt_of_le Nat.one_pos (le_max_left _ _))

theorem distribute_of_no_candidate (hretryTimes : 1 ≤ cfg.settings.retryTimes)
    (hrequest : CrossGroupRequest ctx request denv) (htable : FixedTable cache random denv env)
    (hnone : (getUserAutoGroup cfg.settings.groups ctx.userGroup).filter
      (cache.hasCandidate request.model request.requestPath) = []) :
    distribute cfg.settings denv request ctx ≠ .ok ctx₁ := by
  intro h
  obtain ⟨_, _, hslots, -⟩ := distribute_first hretryTimes hrequest htable h
  have hgroups := @map_group_pendingSlots cfg.settings.retryTimes
    (cache.hasCandidate request.model request.requestPath) 0
    (getUserAutoGroup cfg.settings.groups ctx.userGroup)
  rw [hnone] at hgroups
  unfold requestSlots at hslots
  rw [hslots] at hgroups
  cases hgroups

end Run

/-- **The groups a request is tried in.** When every attempt fails and is retried, each auto group
with a candidate is tried `RetryTimes + 1` times exactly when every retry draws a channel with an
enabled key. -/
theorem autoGroups_attempted_iff {cfg : RelayConfig} {cache : ChannelCache} {random : ℕ → ℕ → ℕ}
    {denv : DistributeEnv} {request : ModelRequest} {env : ℕ → AttemptEnv} {ctx : RelayContext}
    (hretryTimes : 1 ≤ cfg.settings.retryTimes) (hrequest : CrossGroupRequest ctx request denv)
    (htable : FixedTable cache random denv env) (hfail : AllFail cfg.settings ctx env)
    (hpath : cfg.requestPath = request.requestPath) :
    (∀ ctx₁ info st fuel, distribute cfg.settings denv request ctx = .ok ctx₁ →
      startRelay cfg ctx₁ info = .ok st →
      (cfg.settings.retryTimes + 1) *
      max 1 (getUserAutoGroup cfg.settings.groups ctx₁.userGroup).length < fuel →
      ((lastState (relayLoop cfg env fuel st)).attempts.map Attempt.group
          = ((getUserAutoGroup cfg.settings.groups ctx.userGroup).filter
              (cache.hasCandidate request.model request.requestPath)).flatMap
            (List.replicate (cfg.settings.retryTimes + 1)) ↔
            ∀ n, 0 < n → DrawsKey cfg cache random request ctx n)) ∧
    ((getUserAutoGroup cfg.settings.groups ctx.userGroup).filter
        (cache.hasCandidate request.model request.requestPath) = [] →
      ∀ ctx₁, distribute cfg.settings denv request ctx ≠ .ok ctx₁) ∧
    ∀ (cfg : RelayConfig) (env : ℕ → AttemptEnv) (ctx₁ : RelayContext) (info : RelayInfo)
    (st : RelayState), startRelay cfg ctx₁ info = .ok st →
      (∀ fuel, (lastState (relayLoop cfg env fuel st)).attempts.length ≤
        (cfg.settings.retryTimes + 1)
          * max 1 (getUserAutoGroup cfg.settings.groups ctx₁.userGroup).length) ∧
      (∀ fuel, (cfg.settings.retryTimes + 1)
          * max 1 (getUserAutoGroup cfg.settings.groups ctx₁.userGroup).length < fuel →
        ∃ r, relayLoop cfg env fuel st = .inr r) ∧
      Monotone fun fuel => (lastState (relayLoop cfg env fuel st)).ctx.groupIndex := by
  refine ⟨?_, fun hnone ctx₁ => distribute_of_no_candidate hretryTimes hrequest htable hnone, ?_⟩
  · intro ctx₁ info st fuel hdistribute hstart hfuel
    have hreset : st.param.resetNextTry = false := by rw [(startRelay_ok hstart).2.2.2]; rfl
    obtain ⟨r, hrun⟩ := relayLoop_stops hreset (lt_of_le_of_lt (budget_startRelay hstart) hfuel)
    obtain ⟨m, hm, hle, hgroups, hkeys, hstop⟩ :=
      relayLoop_ends hretryTimes hrequest htable hfail hpath hdistribute hstart hrun
    have hall := @map_group_pendingSlots cfg.settings.retryTimes
      (cache.hasCandidate request.model request.requestPath) 0
      (getUserAutoGroup cfg.settings.groups ctx.userGroup)
    rw [hrun, ← hall]
    show r.state.attempts.map Attempt.group =
      (requestSlots cfg cache request ctx).map Slot.group ↔ _
    rw [hgroups]
    constructor
    · -- All slots were attempted, so none was left out.
      intro heq n hn
      have hlength := congrArg List.length heq
      rw [length_map, length_map, length_take] at hlength
      by_cases hlt : n < m
      · exact hkeys n hn hlt
      · intro slot c hslot
        obtain ⟨_, -⟩ := List.getElem?_eq_some_iff.mp hslot
        omega
    · intro hall
      have hm' : ¬ m < (requestSlots cfg cache request ctx).length :=
        fun hlt => hstop hlt (hall m hm)
      rw [take_of_length_le (by omega)]
  intro cfg env ctx₁ info st hstart
  have hbudget := budget_startRelay hstart
  obtain ⟨-, -, hattempts, hparam⟩ := startRelay_ok hstart
  have hreset : st.param.resetNextTry = false := by rw [hparam]; rfl
  refine ⟨fun fuel => ?_, fun fuel hfuel => ?_, relayLoop_groupIndex_monotone⟩
  · have hle := @relayLoop_attempts_le cfg env st hreset fuel
    rw [hattempts, length_nil, Nat.zero_add] at hle
    exact hle.trans hbudget
  · exact relayLoop_stops hreset (lt_of_le_of_lt hbudget hfuel)

/-! ### Two groups -/

def ChannelCache.twoGroups (info : ChannelInfo) : ChannelCache :=
  .initChannelCache [{ id := 1, key := "k", group := "a", models := "m" },
      { id := 2, key := "[\"k1\"]", keys := ["k1"], group := "b", models := "m",
        channelInfo := info }]

def ModelRequest.sample : ModelRequest where
  model := "m"
  requestPath := "/v1/chat/completions"

def DistributeEnv.sample : DistributeEnv where
  source _ := cache.getRandomSatisfiedChannel 0

theorem crossGroupRequest_sample : CrossGroupRequest .sample .sample (.sample cache) :=
  ⟨rfl, rfl, rfl, rfl, rfl, rfl, rfl, rfl, rfl, rfl⟩

theorem fixedTable_sample :
    FixedTable cache (fun _ _ => 0) (.sample cache) (fun _ => .failing cache) :=
  ⟨fun _ => rfl, fun _ _ => rfl, fun _ => ⟨0, rfl⟩⟩

theorem allFail_sample : AllFail sample.settings .sample (fun _ => .failing cache) := by
  refine ⟨fun _ => rfl, fun _ => ⟨_, rfl, ?_⟩⟩
  intro left hleft
  have hnot : ¬ left ≤ 0 := by omega
  unfold shouldRetry
  rw [if_neg hnot]
  decide +kernel

theorem exists_ok_of_any {ε α : Type*} {x : Except ε α} {p : α → Bool}
    (h : x.toOption.any p = true) :
    ∃ a, x = .ok a ∧ p a = true := by
  cases x with
  | error => cases h
  | ok a => exact ⟨a, rfl, h⟩

def RelayContext.distributed : RelayContext :=
  { sample with
    originalModel := "m", autoGroup := some "a", autoGroupIndex := some 0,
    channelId := 1, channelKey := "k" }

theorem autoGroups_attempted_twoGroups :
    ∃ st, startRelay .sample .distributed (.sample "") = .ok st ∧
      ((lastState (relayLoop .sample (fun _ => .failing (.twoGroups {})) 5 st)).attempts.map group
          = ["a", "a", "b", "b"]
        ↔ ∀ n, 0 < n → DrawsKey .sample (.twoGroups {}) (fun _ _ => 0) .sample .sample n) := by
  obtain ⟨st, hstart, -⟩ : ∃ st, startRelay .sample .distributed (.sample "") =
    .ok st ∧ true = true :=
    exists_ok_of_any (by decide +kernel)
  exact ⟨st, hstart, (autoGroups_attempted_iff (by decide) (crossGroupRequest_sample _)
    (fixedTable_sample _)
    (allFail_sample _) rfl).1 .distributed _ st 5 (eq_ok_of_toOption (by decide +kernel)) hstart
    (by decide)⟩

/-- The only key of the second group's channel was disabled, the channel was not. -/
def ChannelInfo.keyDisabled : ChannelInfo where
  isMultiKey := true
  multiKeyStatusList := [(0, .manuallyDisabled)]

/-- The first retry in group `b` draws a channel without a key and ends the loop, although the
request is owed two attempts there. -/
theorem autoGroups_attempted_keyDisabled :
    CrossGroupRequest .sample .sample (.sample (.twoGroups .keyDisabled)) ∧
      FixedTable (.twoGroups .keyDisabled) (fun _ _ => 0) (.sample (.twoGroups .keyDisabled))
        (fun _ => .failing (.twoGroups .keyDisabled)) ∧
      AllFail sample.settings .sample (fun _ => .failing (.twoGroups .keyDisabled)) ∧
      distribute sample.settings (.sample (.twoGroups .keyDisabled)) .sample .sample =
      .ok .distributed ∧ (∃ st, startRelay .sample .distributed (.sample "") = .ok st ∧
        (lastState (relayLoop .sample (fun _ => .failing (.twoGroups .keyDisabled))
          5 st)).attempts.map group = ["a", "a"]) ∧
      ((getUserAutoGroup sample.settings.groups sample.userGroup).filter
          ((twoGroups .keyDisabled).hasCandidate "m" "/v1/chat/completions")).flatMap
        (replicate 2) = ["a", "a", "b", "b"] := by
  refine ⟨crossGroupRequest_sample _, fixedTable_sample _, allFail_sample _,
    eq_ok_of_toOption (by decide +kernel), ?_, by decide +kernel⟩
  obtain ⟨st, hstart, hrun⟩ : ∃ st, startRelay .sample .distributed (.sample "") = .ok st ∧
      decide ((lastState (relayLoop .sample (fun _ => .failing (.twoGroups .keyDisabled))
        5 st)).attempts.map group = ["a", "a"]) = true := exists_ok_of_any (by decide +kernel)
  exact ⟨st, hstart, of_decide_eq_true hrun⟩

end TokensFlux
