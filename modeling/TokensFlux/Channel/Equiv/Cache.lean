import TokensFlux.Relay.Equiv.Channel
import TokensFlux.Lib.Guarded
import TokensFlux.Lib.Rows

/-!
# Which channels the cache can answer with

`CacheUpdateChannelStatus` takes a channel out of each list once, which is enough exactly when no
list names it twice.
-/

namespace TokensFlux

/-! ### Which channels a draw can give -/

variable {c : Channel} {channels : List Channel}

theorem total_getWeight_eq_zero_iff : totalWeight Channel.getWeight channels = 0 ↔
      ∀ c ∈ channels, c.getWeight = 0 := by
  induction channels with
  | nil => simp [totalWeight]
  | cons _ _ ih =>
    rw [List.forall_mem_cons, ← ih, totalWeight]
    omega

theorem smoothedWeight_eq (h : c ∈ channels) : smoothedWeight channels c =
    if ∀ c' ∈ channels, c'.getWeight = 0 then 100
    else if totalWeight Channel.getWeight channels / channels.length < 10 then c.getWeight * 100
      else c.getWeight := by
  unfold smoothedWeight smoothing
  rw [foldl_add_eq_totalWeight, Nat.zero_add]
  simp only [total_getWeight_eq_zero_iff]
  split_ifs with hzero
  · rw [hzero c h]
    rfl
  · exact Nat.add_zero _
  · rw [Nat.mul_one, Nat.add_zero]

/-- **A draw** gives the channels with a positive weight, or all when there is none. -/
theorem exists_randomChannel_iff {channels : List Channel} {c : Channel} :
    (∃ random, randomChannel channels random = some c)
      ↔ c ∈ channels ∧ (0 < c.getWeight ∨ ∀ c' ∈ channels, c'.getWeight = 0) := by
  have hpos : c ∈ channels →
      (0 < smoothedWeight channels c ↔ 0 < c.getWeight ∨ ∀ c' ∈ channels, c'.getWeight = 0) := by
    intro hmem
    rw [smoothedWeight_eq hmem]
    split_ifs with hzero
    · exact iff_of_true (by omega) (.inr hzero)
    all_goals simp [hzero]
  simp only [randomChannel_eq]
  constructor
  · rintro ⟨random, h⟩
    obtain ⟨hmem, hweight⟩ := mem_of_draw h
    exact ⟨hmem, (hpos hmem).mp hweight⟩
  rintro ⟨hmem, hweight⟩
  obtain ⟨r, hlt, h⟩ := exists_draw_eq_some hmem ((hpos hmem).mpr hweight)
  refine ⟨r, ?_⟩
  rw [drawnBelow_eq, Nat.mod_eq_of_lt hlt]
  exact h

/-- **Cached selection is exact**: below the bound every number selects a channel, and each channel
is selected by as many numbers as its effective weight, once for every time it is listed. -/
theorem countP_randomChannel (channels : List Channel) (h : channels ≠ []) :
    0 < drawnBelow channels ∧
      (∀ random < drawnBelow channels, ∃ c ∈ channels, randomChannel channels random = some c) ∧
      ∀ c ∈ channels,
        (List.range (drawnBelow channels)).countP (randomChannel channels · = some c) =
        channels.count c * (if ∀ c' ∈ channels, c'.getWeight = 0 then 100
          else if totalWeight Channel.getWeight channels / channels.length < 10
            then c.getWeight * 100 else c.getWeight) := by
  refine ⟨drawnBelow_pos h, fun random _ => exists_randomChannel h random, fun c hc => ?_⟩
  have hdraws : (List.range (drawnBelow channels)).countP (randomChannel channels · = some c) =
      (List.range (totalWeight (smoothedWeight channels) channels)).countP
        (draw (smoothedWeight channels) · channels = some c) := by
    rw [← drawnBelow_eq]
    apply List.countP_congr
    intro r hr
    rw [randomChannel_eq, Nat.mod_eq_of_lt (List.mem_range.mp hr)]
  rw [hdraws, countP_draw, smoothedWeight_eq hc]

/-- Weights 0 and 3 in 300 numbers. -/
theorem countP_randomChannel_two :
    let channels : List Channel := [{ id := 1 }, { id := 2, weight := some 3 }]
    (List.range (drawnBelow channels)).countP (randomChannel channels · = some { id := 1 }) = 0 ∧
      (List.range (drawnBelow channels)).countP (randomChannel channels · =
        some { id := 2, weight := some 3 }) = 300 := by
  have h := (countP_randomChannel [{ id := 1 },
    { id := 2, weight := some 3 }] (List.cons_ne_nil _ _)).2.2
  exact ⟨h _ (by decide), h _ (by decide)⟩

namespace ChannelCache

variable (cache : ChannelCache)

/-! ### Which channels a request can get -/

/-- For some random number. -/
def CanReturn (group model : String) (retry : ℕ) (requestPath : String) (c : Channel) : Prop :=
  ∃ random, cache.getRandomSatisfiedChannel random group model retry requestPath = (some c, none)

theorem mem_lookupAll {ids : List ℤ} (h : cache.lookupAll ids = .ok channels) :
    c ∈ channels ↔ ∃ id ∈ ids, cache.channelsIDM id = some c := by
  induction ids generalizing channels with
  | nil =>
    cases h
    simp
  | cons id ids ih =>
    rw [lookupAll] at h
    rcases hid : cache.channelsIDM id with _ | _
    · rw [hid] at h
      cases h
    rcases hrest : cache.lookupAll ids with _ | _
    · rw [hid, hrest] at h
      cases h
    rw [hid, hrest] at h
    cases h
    rw [List.mem_cons, ih hrest]
    simp only [List.mem_cons, exists_eq_or_imp, hid, Option.some.injEq]
    exact or_congr_left eq_comm

theorem targetPriority_singleton (c : Channel) (retry : ℕ) :
    targetPriority [c] retry = c.getPriority := by
  unfold targetPriority sortedUniquePriorities
  simp

theorem canReturn_iff {group model requestPath : String} {retry : ℕ}
    (h : cache.lookupAll (cache.satisfiedChannels group model requestPath) = .ok channels) :
    cache.CanReturn group model retry requestPath c ↔
      (c ∈ channels ∧ c.getPriority = targetPriority channels retry) ∧
        (0 < c.getWeight ∨ ∀ c' ∈ channels, c'.getPriority = targetPriority channels retry →
          c'.getWeight = 0) := by
  unfold CanReturn getRandomSatisfiedChannel
  match hids : cache.satisfiedChannels group model requestPath with
  | [] =>
    rw [hids] at h
    cases h
    simp
  | [id] =>
    rw [hids] at h
    rcases hid : cache.channelsIDM id with _ | _
    · rw [lookupAll, hid] at h
      cases h
    rw [lookupAll, hid] at h
    cases h
    simp only [hid, Prod.mk.injEq, Option.some.injEq, and_true, exists_const, List.mem_singleton,
      targetPriority_singleton, forall_eq, forall_const]
    constructor
    · rintro rfl
      exact ⟨⟨rfl, rfl⟩, (Nat.eq_zero_or_pos _).symm⟩
    · rintro ⟨⟨rfl, -⟩, -⟩
      rfl
  | id :: id' :: ids =>
    rw [hids] at h
    simp only [h]
    by_cases hempty : (channels.filter fun c => c.getPriority = targetPriority channels retry) = []
    · simp only [if_pos hempty]
      refine iff_of_false (by simp) ?_
      rintro ⟨⟨hmem, hpriority⟩, -⟩
      exact List.ne_nil_of_mem (List.mem_filter.mpr ⟨hmem, decide_eq_true hpriority⟩) hempty
    have hdraw := @exists_randomChannel_iff (channels.filter fun c => c.getPriority =
      targetPriority channels retry) c
    simp only [List.mem_filter, decide_eq_true_eq, and_imp] at hdraw
    rw [← hdraw]
    simp only [if_neg hempty]
    constructor
    · rintro ⟨random, hresult⟩
      refine ⟨random, ?_⟩
      cases hrandom : randomChannel
          (channels.filter fun c => c.getPriority = targetPriority channels retry) random with
      | none =>
        rw [hrandom] at hresult
        cases hresult
      | some c' =>
        rw [hrandom] at hresult
        exact (Prod.mk.inj hresult).1
    · rintro ⟨random, hrandom⟩
      refine ⟨random, ?_⟩
      rw [hrandom]

/-! ### Changes of the status -/

def ListsEnabled : Prop :=
  ∀ group model, ∀ id ∈ cache.group2model2channels group model, ∀ c, cache.channelsIDM id = some c →
    c.status = .enabled

def step (cache : ChannelCache) (call : ℤ × ChannelStatus) : ChannelCache :=
  cache.cacheUpdateChannelStatus call.1 call.2

def ListedOnce (cache : ChannelCache) (call : ℤ × ChannelStatus) : Prop :=
  call.2 ≠ .enabled → ∀ group model, (cache.group2model2channels group model).count call.1 ≤ 1

theorem listsEnabled_init (h : DistinctKeys Channel.id channels) :
    (initChannelCache channels).ListsEnabled := by
  intro group model id hid c hc
  have hlisted : id ∈ listedIds channels group model := (List.mem_insertionSort _).mp hid
  unfold listedIds at hlisted
  simp only [List.mem_flatMap, List.mem_filter, List.mem_map] at hlisted
  obtain ⟨c', ⟨hmem, henabled⟩, -, -, -, -, rfl⟩ := hlisted
  have hfound : channels.find? (fun c => c.id = c'.id) = some c := hc
  have heq : c = c' :=
    h.eq_of_key_eq (List.mem_of_find?_eq_some hfound) hmem (by simpa using List.find?_some hfound)
  rw [heq]
  exact of_decide_eq_true henabled

/-- **A change of status** keeps disabled channels out of the index exactly when the channel is
listed at most once for each group and model. -/
theorem listsEnabled_step_iff {cache : ChannelCache} (h : cache.ListsEnabled)
    (call : ℤ × ChannelStatus) :
    (cache.step call).ListsEnabled ↔ cache.ListedOnce call := by
  obtain ⟨id, status⟩ := call
  have htable : ∀ i, (cache.step (id, status)).channelsIDM i =
      cache.channelsAfter id status i := fun _ => rfl
  -- The other channels keep their status.
  have hother : ∀ group model, ∀ i ∈ cache.listedAfter id status group model, i ≠ id → ∀ c,
      cache.channelsAfter id status i = some c → c.status = .enabled := by
    intro group model i hi hne c hc
    unfold channelsAfter at hc
    rw [if_neg hne] at hc
    unfold listedAfter at hi
    split_ifs at hi
    · exact h group model i hi c hc
    · exact h group model i (List.mem_of_mem_erase hi) c hc
  by_cases hstatus : status = .enabled
  · refine iff_of_true ?_ fun hne => absurd hstatus hne
    intro group model i hi c hc
    rw [htable] at hc
    by_cases hid : i = id
    · unfold channelsAfter at hc
      rw [if_pos hid, Option.map_eq_some_iff] at hc
      obtain ⟨c', -, rfl⟩ := hc
      exact hstatus
    · exact hother group model i hi hid c hc
  have hlist : ∀ group model, cache.listedAfter id status group model
      = (cache.group2model2channels group model).erase id := fun _ _ => if_neg hstatus
  have hcount : ∀ group model, (cache.group2model2channels group model).count id ≤ 1
      ↔ id ∉ cache.listedAfter id status group model := by
    intro group model
    rw [hlist, ← List.count_eq_zero, List.count_erase_self]
    omega
  constructor
  · intro hafter _ group model
    rw [hcount]
    intro hmem
    obtain ⟨c, hc⟩ := Option.isSome_iff_exists.mp (cache.isSome_channelsAfter hmem)
    have henabled := hafter group model id hmem c hc
    unfold channelsAfter at hc
    rw [if_pos rfl, Option.map_eq_some_iff] at hc
    obtain ⟨c', -, rfl⟩ := hc
    exact hstatus henabled
  intro honce group model i hi c hc
  have hid : i ≠ id := by
    rintro rfl
    exact (hcount group model).mp (honce hstatus group model) hi
  exact hother group model i hi hid c hc

/-! ### Tables without repetitions -/

def NamedOnce (channels : List Channel) : Prop :=
  ∀ c ∈ channels, (splitText c.group ",").Nodup ∧ (splitText c.models ",").Nodup

theorem length_filter_eq_le_one {xs : List String} (h : xs.Nodup) (x : String) :
    (xs.filter (· = x)).length ≤ 1 := by
  rw [← List.countP_eq_length_filter]
  have hcount := List.nodup_iff_count_le_one.mp h x
  rw [List.count_eq_countP] at hcount
  simpa only [beq_eq_decide] using hcount

theorem nodup_listedIds (h : DistinctKeys Channel.id channels) (hnamed : NamedOnce channels)
    (group model : String) : (listedIds channels group model).Nodup := by
  apply List.nodup_flatMap.mpr
  constructor
  · intro c hc
    obtain ⟨hgroups, hmodels⟩ := hnamed c (List.mem_of_mem_filter hc)
    -- One group and one model at most, so one id at most.
    have hlength : (((splitText c.group ",").filter (· = group)).flatMap fun _ =>
        ((splitText c.models ",").filter (· = model)).map fun _ => c.id).length ≤ 1 := by
      rw [List.length_flatMap, List.map_const', List.sum_replicate_nat, List.length_map]
      exact Nat.mul_le_mul (length_filter_eq_le_one hgroups group)
        (length_filter_eq_le_one hmodels model)
    match hids : (((splitText c.group ",").filter (· = group)).flatMap fun _ =>
        ((splitText c.models ",").filter (· = model)).map fun _ => c.id) with
    | [] => exact List.nodup_nil
    | [id] => exact List.nodup_singleton id
    | id :: id' :: ids =>
      rw [hids] at hlength
      simp at hlength
  have hkeys := h.filter fun c => c.status = .enabled
  refine (List.pairwise_map.mp hkeys).imp fun hne => ?_
  intro id hid hid'
  simp only [List.mem_flatMap, List.mem_map] at hid hid'
  obtain ⟨-, -, -, -, rfl⟩ := hid
  obtain ⟨-, -, -, -, heq⟩ := hid'
  exact hne heq.symm

/-- **A table without repetitions** needs no condition on the calls. -/
theorem guarded_of_namedOnce (h : DistinctKeys Channel.id channels) (hnamed : NamedOnce channels)
    (calls : List (ℤ × ChannelStatus)) :
    Guarded step ListedOnce (initChannelCache channels) calls := by
  have hinit : ∀ group model,
      ((initChannelCache channels).group2model2channels group model).Nodup := by
    intro group model
    exact ((List.perm_insertionSort _ _).nodup_iff).mpr (nodup_listedIds h hnamed group model)
  generalize initChannelCache channels = cache at hinit
  induction calls generalizing cache with
  | nil => exact trivial
  | cons call _ ih =>
    refine ⟨fun _ group model => List.nodup_iff_count_le_one.mp (hinit group model) _, ih _ ?_⟩
    intro group model
    show (cache.listedAfter call.1 call.2 group model).Nodup
    unfold listedAfter
    split_ifs
    · exact hinit group model
    · exact (hinit group model).erase _

/-! ### Runs -/

theorem ListsEnabled.canReturn {cache : ChannelCache} (h : cache.ListsEnabled)
    {group model requestPath : String} {retry : ℕ}
    (hc : cache.CanReturn group model retry requestPath c) :
    c.status = .enabled := by
  obtain ⟨_, hchannels, -⟩ :=
    @exists_lookupAll cache (cache.satisfiedChannels group model requestPath)
    fun _ => cache.isSome_channelsIDM_of_mem
  obtain ⟨⟨hmem, -⟩, -⟩ := (cache.canReturn_iff hchannels).mp hc
  obtain ⟨id, hid, hfound⟩ := (cache.mem_lookupAll hchannels).mp hmem
  unfold satisfiedChannels at hid
  dsimp only at hid
  split_ifs at hid <;> exact h _ _ id (cache.mem_of_mem_filterChannelsByRequestPath hid) c hfound

/-- **Disabled channels leave the index** throughout a run exactly if no call disables a channel
that a list names twice. -/
theorem disabled_leave_index_iff {channels : List Channel} (h : DistinctKeys Channel.id channels)
    (calls : List (ℤ × ChannelStatus)) :
    ((∀ done, done <+: calls → (done.foldl step (initChannelCache channels)).ListsEnabled)
        ↔ Guarded step ListedOnce (initChannelCache channels) calls) ∧
      (Guarded step ListedOnce (initChannelCache channels) calls →
        ∀ done, done <+: calls → ∀ group model retry requestPath c,
          (done.foldl step (initChannelCache channels)).CanReturn group model retry requestPath c →
            c.status = .enabled) := by
  have hiff := @Guarded.iff_forall_prefix _ _ step ListedOnce ListsEnabled
    (fun _ call hinv => listsEnabled_step_iff hinv call) _ calls (listsEnabled_init h)
  refine ⟨hiff.symm, ?_⟩
  intro hguarded done hdone group model retry requestPath c hc
  exact (hiff.mp hguarded done hdone).canReturn hc

theorem disabled_leave_index_sample :
    DistinctKeys Channel.id [{ id := 1, models := "gpt-4,gpt-4o" },
      { id := 2, models := "gpt-4" }] ∧
    ∀ done, done <+: [((1 : ℤ), ChannelStatus.autoDisabled), (1, .enabled)] →
      ∀ group model retry requestPath c, (done.foldl step (initChannelCache
        [{ id := 1, models := "gpt-4,gpt-4o" }, { id := 2, models := "gpt-4" }])).CanReturn
          group model retry requestPath c → c.status = .enabled := by
  have hkeys : DistinctKeys Channel.id [{ id := 1, models := "gpt-4,gpt-4o" },
    { id := 2, models := "gpt-4" }] := by
    unfold DistinctKeys
    decide
  refine ⟨hkeys, ?_⟩
  apply (disabled_leave_index_iff hkeys _).2
  apply guarded_of_namedOnce hkeys
  unfold NamedOnce
  decide +kernel

/-- A channel that names its group twice is still drawn after it was disabled. -/
theorem disabled_leave_index_repeatedGroup :
    ((initChannelCache [{ id := 1, group := "default,default", models := "gpt-4" }]).step
      (1, .manuallyDisabled)).CanReturn "default" "gpt-4" 0 ""
        { id := 1, group := "default,default", models := "gpt-4", status := .manuallyDisabled } :=
  ⟨0, by decide +kernel⟩

end ChannelCache

end TokensFlux
