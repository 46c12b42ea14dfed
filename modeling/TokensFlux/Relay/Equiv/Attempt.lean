import TokensFlux.Relay.Attempt
import TokensFlux.Lib.Guarded

/-!
# What earlier attempts leave behind

All attempts of a request share one context, and what a channel does not set stays from the one
before: the organization, the position of the key, the version of the API, and, in compact mode, the
name of the model.

* `modelMappedHelper_follows`: the mapping of a model name follows its chain and ends.
* `originModelName_foldl`: outside compact mode the name of the model never changes.
* `attempts_fresh_iff`: when every attempt is sent with what a fresh request would be sent with.
-/

namespace TokensFlux

open AttemptState ChannelContext List ModelNames Option

variable {S O M : Type} (env : MetaEnv S O M)

/-! ### The mapping ends -/

variable (modelMap : List (String × String))

theorem followMapping_ne_outOfFuel (originModelName : String) (fuel : ℕ)
    (visitedModels : List String) (currentModel : String) (isModelMapped : Bool)
    (h : modelMap.countP (fun e => e.2 ∉ visitedModels) < fuel) :
    followMapping modelMap originModelName fuel visitedModels currentModel isModelMapped ≠
      .outOfFuel := by
  induction fuel generalizing visitedModels currentModel isModelMapped with
  | zero => exact absurd h (Nat.not_lt_zero _)
  | succ _ ih =>
    unfold followMapping
    rcases hlookup : modelMap.lookup currentModel with _ | mappedModel
    · exact nofun
    dsimp only
    split_ifs with hempty hvisited hself horigin
    · exact nofun
    · exact nofun
    · exact nofun
    · exact nofun
    -- The new model is counted before this step and not after it.
    apply ih
    obtain ⟨before, after, rfl, -⟩ := lookup_eq_some_iff.mp hlookup
    have hmono : ∀ entries : List (String × String),
        entries.countP (fun e => e.2 ∉ mappedModel :: visitedModels)
          ≤ entries.countP (fun e => e.2 ∉ visitedModels) := by
      intro entries
      apply countP_mono_left
      intro e _ he
      exact decide_eq_true fun hmem => of_decide_eq_true he (mem_cons_of_mem _ hmem)
    rw [countP_append, countP_cons_of_pos (by simpa using hvisited)] at h
    rw [countP_append, countP_cons_of_neg (by simp)]
    have hbefore := hmono before
    have hafter := hmono after
    omega

/-- **The mapping always ends**: the helper gives a name or an error of the source. -/
theorem followMapping_start_ne_outOfFuel (originModelName start : String) (isModelMapped : Bool) :
    followMapping modelMap originModelName (modelMap.length + 1)
    [start] start isModelMapped ≠ .outOfFuel := by
  apply followMapping_ne_outOfFuel
  have hle := countP_le_length (p := fun e : String × String => e.2 ∉ [start]) (l := modelMap)
  omega

/-! ### The chain of model names -/

open Relation

/-- A name that is mapped to itself or to nothing ends the chain. -/
def MapsTo (name next : String) : Prop :=
  modelMap.lookup name = some next ∧ next ≠ "" ∧ next ≠ name

def EndsChain (name : String) : Prop :=
  ∀ next, ¬MapsTo modelMap name next

def RunsIntoCycle (start : String) : Prop :=
  ∃ name, ReflTransGen (MapsTo modelMap) start name ∧ TransGen (MapsTo modelMap) name name

def MappingEnd.Meets (start : String) : MappingEnd → Prop
  | .model name isModelMapped => ReflTransGen (MapsTo modelMap) start name ∧
      EndsChain modelMap name ∧ isModelMapped = decide (name ≠ start)
  | .unmapped => EndsChain modelMap start
  | .cycle _ => RunsIntoCycle modelMap start
  | .outOfFuel => True

/-- Its error or its last name and whether there is any step. -/
def FollowsChain (model : String) (result : ModelNames × Except Err (Option String)) : Prop :=
  ((∃ e, result.2 = .error e) ↔ RunsIntoCycle modelMap model) ∧ ∀ requestModel,
    result.2 = .ok requestModel → ReflTransGen (MapsTo modelMap) model result.1.upstreamModelName ∧
      EndsChain modelMap result.1.upstreamModelName ∧
      (result.1.isModelMapped = true ↔ ∃ next, MapsTo modelMap model next)

variable {modelMap}

theorem followMapping_meets {start currentModel : String} {fuel : ℕ} {visitedModels : List String}
    (hstart : start ∈ visitedModels) (hcurrent : currentModel ∈ visitedModels)
    (hvisited : ∀ name ∈ visitedModels, ReflTransGen (MapsTo modelMap) name currentModel) :
    (followMapping modelMap start fuel visitedModels currentModel (currentModel ≠ start)).Meets
      modelMap start := by
  induction fuel generalizing visitedModels currentModel with
  | zero => exact trivial
  | succ _ ih =>
    unfold followMapping
    rcases hlookup : modelMap.lookup currentModel with _ | mappedModel
    · refine ⟨hvisited start hstart, ?_, rfl⟩
      rintro next ⟨hnext, -⟩
      rw [hlookup] at hnext
      cases hnext
    have hends : mappedModel = "" ∨ mappedModel = currentModel →
        EndsChain modelMap currentModel := by
      rintro h next ⟨hnext, hne⟩
      obtain rfl := some.inj (hlookup.symm.trans hnext)
      exact h.elim hne.1 hne.2
    dsimp only
    split_ifs with hempty hmem hself horigin
    · exact ⟨hvisited start hstart, hends (.inl hempty), rfl⟩
    · exact horigin ▸ hends (.inr hself)
    · exact ⟨hvisited start hstart, hends (.inr hself), (decide_eq_true horigin).symm⟩
    · exact ⟨currentModel, hvisited start hstart,
        .head' ⟨hlookup, hempty, hself⟩ (hvisited mappedModel hmem)⟩
    have hnew : mappedModel ≠ start := fun h => hmem (h ▸ hstart)
    have hstep : MapsTo modelMap currentModel mappedModel :=
      ⟨hlookup, hempty, fun h => hmem (h ▸ hcurrent)⟩
    have hrest := ih (mem_cons_of_mem mappedModel hstart) mem_cons_self
      (forall_mem_cons.mpr ⟨.refl, fun name hname => (hvisited name hname).tail hstep⟩)
    rwa [decide_eq_true hnew] at hrest

theorem rightUnique_mapsTo : Relator.RightUnique (MapsTo modelMap) :=
  fun _ _ _ h h' => some.inj (h.1.symm.trans h'.1)

theorem not_runsIntoCycle {start name : String} (hname : ReflTransGen (MapsTo modelMap) start name)
    (hends : EndsChain modelMap name) : ¬RunsIntoCycle modelMap start := by
  rintro ⟨cyclic, hcyclic, hcycle⟩
  -- Whatever a name of a cycle leads to lies on the cycle.
  have hon : ∀ {name}, ReflTransGen (MapsTo modelMap) cyclic name →
      TransGen (MapsTo modelMap) name name := by
    intro name h
    induction h with
    | refl => exact hcycle
    | tail _ hstep ih =>
      obtain ⟨next, hnext, hback⟩ := TransGen.head'_iff.mp ih
      obtain rfl := rightUnique_mapsTo hstep hnext
      exact .tail' hback hstep
  rcases ReflTransGen.total_of_right_unique rightUnique_mapsTo hname hcyclic with h | h
  · obtain ⟨next, hnext, -⟩ := TransGen.head'_iff.mp (hcycle.trans_right h)
    exact hends next hnext
  · obtain ⟨next, hnext, -⟩ := TransGen.head'_iff.mp (hon h)
    exact hends next hnext

theorem followsChain_of_ends {model : String} {names : ModelNames} {requestModel : Option String}
    (hname : ReflTransGen (MapsTo modelMap) model names.upstreamModelName)
    (hends : EndsChain modelMap names.upstreamModelName)
    (hmapped : names.isModelMapped = decide (names.upstreamModelName ≠ model)) :
    FollowsChain modelMap model (names, .ok requestModel) := by
  refine ⟨iff_of_false (by simp) (not_runsIntoCycle hname hends), fun _ _ => ⟨hname, hends, ?_⟩⟩
  rw [hmapped, decide_eq_true_eq]
  constructor
  · intro hne
    obtain ⟨next, hnext, -⟩ := hname.cases_head.resolve_left (Ne.symm hne)
    exact ⟨next, hnext⟩
  · rintro ⟨next, hnext⟩ heq
    exact hends next (heq ▸ hnext)

def modelMapOf (modelMapping : String) : Option (List (String × String)) :=
  if modelMapping = "" ∨ modelMapping = "\x7b\x7d" then some []
    else env.parseModelMapping modelMapping

/-- **The mapping follows the chain**, within one step for each name of the map and one more. -/
theorem modelMappedHelper_follows {modelMapping : String} (hmode : env.isResponsesCompact = false)
    (hmap : modelMapOf env modelMapping = some modelMap) (model : String) :
    followMapping modelMap model (modelMap.length + 1) [model] model false ≠ .outOfFuel ∧
      FollowsChain modelMap model (modelMappedHelper env modelMapping
        { originModelName := model, upstreamModelName := model }) := by
  have hfuel := followMapping_start_ne_outOfFuel modelMap model model false
  have hself : false = decide (model ≠ model) := (decide_eq_false (not_not.mpr rfl)).symm
  have hmeets := @followMapping_meets modelMap model model (modelMap.length + 1) [model]
    (by simp) (by simp) (by simp [ReflTransGen.refl])
  rw [← hself] at hmeets
  refine ⟨hfuel, ?_⟩
  unfold modelMapOf at hmap
  unfold modelMappedHelper applyMapping mappingModelName
  split_ifs at hmap with hempty
  · cases hmap
    simp only [if_pos hempty, hmode]
    refine followsChain_of_ends .refl ?_ hself
    rintro _ ⟨hnext, -⟩
    cases hnext
  simp only [if_neg hempty, hmap, hmode, Bool.false_and, Bool.false_eq_true, if_false]
  cases hend : followMapping modelMap model (modelMap.length + 1) [model] model false with
  | outOfFuel => exact absurd hend hfuel
  | cycle =>
    rw [hend] at hmeets
    exact ⟨iff_of_true ⟨_, rfl⟩ hmeets, fun _ h => by cases h⟩
  | unmapped =>
    rw [hend] at hmeets
    exact followsChain_of_ends .refl hmeets hself
  | model name mapped =>
    rw [hend] at hmeets
    obtain ⟨hname, hends, hmapped⟩ := hmeets
    cases mapped with
    | true => exact followsChain_of_ends hname hends hmapped
    | false =>
      obtain rfl : name = model := not_not.mp (of_decide_eq_false hmapped.symm)
      exact followsChain_of_ends .refl hends hself

/-! ### Two states of a request -/

variable (channelType : ℕ)

def SetsAPIVersion : Prop :=
  (channelType = channelTypeAzure ∨ channelType = channelTypeXunfei ∨
    channelType = channelTypeGemini ∨
    channelType = channelCloudflare ∨ channelType = channelTypeMokaAI) ∨
      channelType = channelTypeVertexAi
deriving Decidable

/-- The name upstream, whether it is mapped, and the name of the request. -/
def mappedNames (channel : ChannelRow) (originModelName : String) :
    String × Bool × Except Err (Option String) :=
  let result := modelMappedHelper env (channel.modelMapping.getD "")
    { originModelName, upstreamModelName := originModelName }
  (result.1.upstreamModelName, result.1.isModelMapped, result.2)

/-- `fresh` is the state of the request before its first attempt.  The name of the model can differ
from its own in compact mode only. -/
def NoLeak (fresh s : AttemptState S O M) (tried : TriedChannel) : Prop :=
  ∀ key, (tried.channel.toChannel env.json).getNextEnabledKey tried.draw = .ok key →
    (tried.channel.openAIOrganization.getD "" ≠ "" ∨
        s.ctx.channelOrganization = fresh.ctx.channelOrganization) ∧
      (tried.channel.channelInfo.isMultiKey = true ∨
        s.ctx.channelMultiKeyIndex = fresh.ctx.channelMultiKeyIndex) ∧
      (SetsAPIVersion tried.channel.type ∨ s.ctx.apiVersion = fresh.ctx.apiVersion) ∧
      (env.isResponsesCompact = true → mappedNames env tried.channel s.originModelName =
        mappedNames env tried.channel fresh.originModelName)

theorem applyMapping_originModelName (modelMapping : String) (names : ModelNames) :
    (applyMapping env modelMapping names).1.originModelName = names.originModelName := by
  unfold applyMapping
  split_ifs
  · rfl
  split
  · rfl
  dsimp only
  split <;> rfl

theorem modelMappedHelper_originModelName (hmode : env.isResponsesCompact = false)
    (modelMapping : String) (names : ModelNames) :
    (modelMappedHelper env modelMapping names).1.originModelName = names.originModelName := by
  rw [← applyMapping_originModelName env modelMapping names]
  unfold modelMappedHelper
  split <;> simp [*]

theorem ite_eq_ite_iff {α : Type*} {p : Prop} [Decidable p] {a b c : α} :
    (if p then a else b) = (if p then a else c) ↔ p ∨ b = c := by
  split_ifs with hp
  · exact iff_of_true rfl (.inl hp)
  · exact ⟨.inr, fun h => h.resolve_left hp⟩

def versionOf (other apiVersion : String) : String :=
  if channelType = channelTypeVertexAi then other
  else if channelType = channelTypeAzure then if env.queryApiVersion = "" then other
    else env.queryApiVersion
  else if SetsAPIVersion channelType then other
  else apiVersion

theorem versionOf_eq_iff (other apiVersion apiVersion' : String) :
    versionOf env channelType other apiVersion = versionOf env channelType other apiVersion'
      ↔ SetsAPIVersion channelType ∨ apiVersion = apiVersion' := by
  unfold versionOf
  split_ifs with hvertex hazure hquery hset
  · exact iff_of_true rfl (.inl (.inr hvertex))
  · exact iff_of_true rfl (.inl (.inl (.inl hazure)))
  · exact iff_of_true rfl (.inl (.inl (.inl hazure)))
  · exact iff_of_true rfl (.inl hset)
  · exact ⟨.inr, fun h => h.resolve_left hset⟩

namespace ChannelContext

theorem setOther_modelMapping (ctx : ChannelContext S O M) (channelType : ℕ) (other : String) :
    (ctx.setOther channelType other).modelMapping = ctx.modelMapping := by
  unfold setOther
  split_ifs <;> rfl

theorem initChannelMeta_setOther (ctx : ChannelContext S O M) (other : String) :
    (ctx.setOther ctx.channelType other).initChannelMeta env = { ctx.initChannelMeta env with
          apiVersion := versionOf env ctx.channelType other ctx.apiVersion } := by
  unfold setOther
  split_ifs with hset hvertex
  · have hvertex : ctx.channelType ≠ channelTypeVertexAi := by
      intro h
      rw [h] at hset
      exact absurd hset (by decide)
    have hsets : SetsAPIVersion ctx.channelType := .inl hset
    simp only [initChannelMeta, getAPIVersion, versionOf, if_neg hvertex, if_pos hsets]
  · simp only [initChannelMeta, versionOf, if_pos hvertex]
  all_goals
    have hazure : ctx.channelType ≠ channelTypeAzure := fun h => hset (.inl h)
    have hnone : ¬ SetsAPIVersion ctx.channelType := fun h => h.elim hset hvertex
    simp only [initChannelMeta, versionOf, if_neg hvertex, if_neg hazure, if_neg hnone]

end ChannelContext

namespace AttemptState

theorem prepared_eq (s : AttemptState S O M) (tried : TriedChannel) {key : String} {index : ℕ}
    (h : (tried.channel.toChannel env.json).getNextEnabledKey tried.draw = .ok (key, index)) :
    s.prepared env tried = .ok
      { channelMeta :=
          { channelType := tried.channel.type
            channelId := tried.channel.id
            channelIsMultiKey := tried.channel.channelInfo.isMultiKey
            channelMultiKeyIndex :=
              if tried.channel.channelInfo.isMultiKey = true then index
                else s.ctx.channelMultiKeyIndex
            channelBaseUrl := tried.channel.getBaseURL env.channelBaseURLs
            apiType := env.channelType2APIType tried.channel.type
            apiVersion := versionOf env tried.channel.type tried.channel.other s.ctx.apiVersion
            apiKey := key
            organization :=
              if tried.channel.openAIOrganization.getD "" ≠ ""
                then tried.channel.openAIOrganization.getD ""
              else s.ctx.channelOrganization
            channelCreateTime := tried.channel.createdTime
            paramOverride := some (env.applyAffinityTemplate
              (env.getOverride tried.channel.paramOverride))
            headersOverride := some (env.getOverride tried.channel.headerOverride)
            channelSetting := some (env.getSetting tried.channel.setting)
            channelOtherSettings := some (env.getOtherSettings tried.channel.otherSettings)
            upstreamModelName := (mappedNames env tried.channel s.originModelName).1
            isModelMapped := (mappedNames env tried.channel s.originModelName).2.1
            supportStreamOptions := env.streamSupportedChannels tried.channel.type }
        requestModel := (mappedNames env tried.channel s.originModelName).2.2 } := by
  unfold prepared attempt setupContextForSelectedChannel
  simp only [h, setOther_modelMapping]
  rw [initChannelMeta_setOther]
  rfl

theorem prepared_eq_error (s : AttemptState S O M) (tried : TriedChannel) {e : RelayError}
    (h : (tried.channel.toChannel env.json).getNextEnabledKey tried.draw = .error e) :
    s.prepared env tried = .error e := by
  unfold prepared attempt setupContextForSelectedChannel
  simp only [h]

/-- **Outside compact mode the name of the model never changes.** -/
theorem originModelName_foldl (hmode : env.isResponsesCompact = false) (s : AttemptState S O M)
    (attempts : List TriedChannel) :
    (attempts.foldl (step env) s).originModelName = s.originModelName := by
  induction attempts generalizing s with
  | nil => rfl
  | cons tried attempts ih =>
    rw [foldl_cons, ih]
    unfold step attempt
    split
    · rfl
    · exact modelMappedHelper_originModelName env hmode _ _

/-- **What an attempt is sent with is that of a fresh request exactly when nothing leaks.** -/
theorem prepared_eq_prepared_iff {fresh s : AttemptState S O M}
    (hname : env.isResponsesCompact = false → s.originModelName = fresh.originModelName)
    (tried : TriedChannel) :
    s.prepared env tried = fresh.prepared env tried ↔ NoLeak env fresh s tried := by
  cases h : (tried.channel.toChannel env.json).getNextEnabledKey tried.draw with
  | error =>
    rw [prepared_eq_error env s tried h, prepared_eq_error env fresh tried h]
    refine iff_of_true rfl fun key hkey => ?_
    rw [h] at hkey
    cases hkey
  | ok key =>
    obtain ⟨key, index⟩ := key
    rw [prepared_eq env s tried h, prepared_eq env fresh tried h]
    simp only [Except.ok.injEq, Prepared.mk.injEq, ChannelMeta.mk.injEq, true_and, and_true,
      ite_eq_ite_iff, versionOf_eq_iff]
    constructor
    · rintro ⟨⟨hindex, hversion, horganization, hupstream, hmapped⟩, hrequest⟩ _ _
      exact ⟨horganization, hindex, hversion,
        fun _ => Prod.ext hupstream (Prod.ext hmapped hrequest)⟩
    intro hleak
    obtain ⟨horganization, hindex, hversion, hcompact⟩ := hleak (key, index) h
    have hnames : mappedNames env tried.channel s.originModelName =
        mappedNames env tried.channel fresh.originModelName := by
      cases hmode : env.isResponsesCompact with
      | true => exact hcompact hmode
      | false => rw [hname hmode]
    rw [hnames]
    exact ⟨⟨hindex, hversion, horganization, rfl, rfl⟩, rfl⟩

def plainEnv (isResponsesCompact : Bool) : MetaEnv Unit Unit Unit where
  json := .plain
  getSetting _ := ()
  getOtherSettings _ := ()
  getOverride _ := ()
  applyAffinityTemplate _ := ()
  parseModelMapping _ := some [("gpt", "gpt-mini")]
  channelBaseURLs _ := ""
  channelType2APIType _ := 0
  streamSupportedChannels _ := false
  queryApiVersion := ""
  isResponsesCompact

theorem modelMappedHelper_follows_gpt :
    modelMapOf (plainEnv false) "mapping" = some [("gpt", "gpt-mini")] ∧
    FollowsChain [("gpt", "gpt-mini")] "gpt"
      (modelMappedHelper (plainEnv false) "mapping" ⟨"gpt", "gpt", false⟩) :=
  ⟨rfl, (modelMappedHelper_follows (plainEnv false) rfl rfl "gpt").2⟩

-- In compact mode a channel without a mapping gets the model that an earlier one has mapped.
example : (((step (plainEnv true) { originModelName := "gpt-openai-compact" }
        { channel := { id := 1, key := "a", modelMapping := some "mapping" } }).prepared
          (plainEnv true)
          { channel := { id := 2, key := "b" } }).toOption.map (·.channelMeta.upstreamModelName)
      = some "gpt-mini") := by
  decide +kernel

end AttemptState

end TokensFlux
