import TokensFlux.Channel.Equiv.Ability
import TokensFlux.Channel.Equiv.Cache

/-!
# The cache and the database answer alike

The database ranks *all* channels of the model; the cache only those that serve the path, without
weight zero next to positive weights, and also under the normalized name.  `canReturn_iff` and
`cache_canReturn_iff` say of each which channels it can return.
-/

namespace TokensFlux

open Ability ChannelCache ChannelRow List

/-! ### Priorities -/

theorem priorityLevel_congr {ps qs : List ℤ} (h : ∀ p, p ∈ ps ↔ p ∈ qs) (retry : ℕ) :
    priorityLevel ps retry = priorityLevel qs retry := by
  have hperm : ps.dedup.Perm qs.dedup := by
    apply (perm_ext_iff_of_nodup (nodup_dedup ps) (nodup_dedup qs)).mpr
    intro p
    rw [mem_dedup, mem_dedup]
    exact h p
  have hsorted : ps.dedup.insertionSort (· ≥ ·) = qs.dedup.insertionSort (· ≥ ·) := by
    apply List.Perm.eq_of_sortedGE sortedGE_insertionSort sortedGE_insertionSort
    exact ((perm_insertionSort _ _).trans hperm).trans (perm_insertionSort _ _).symm
  unfold priorityLevel
  rw [hsorted]

theorem priorityLevel_zero {ps : List ℤ} {p : ℤ} (h : ps.max? = some p) :
    priorityLevel ps 0 = p := by
  obtain ⟨hmem, hmax⟩ := max?_eq_some_iff.mp h
  have hsorted : (ps.dedup.insertionSort (· ≥ ·)).Pairwise (· ≥ ·) := pairwise_insertionSort _ _
  have hall : ∀ q, q ∈ ps.dedup.insertionSort (· ≥ ·) ↔ q ∈ ps := by
    intro q
    rw [mem_insertionSort, mem_dedup]
  unfold priorityLevel
  match hlist : ps.dedup.insertionSort (· ≥ ·) with
  | [] =>
    rw [hlist] at hall
    exact absurd ((hall p).mpr hmem) not_mem_nil
  | first :: rest =>
    rw [hlist] at hsorted hall
    have hfirst : first ≤ p := hmax first ((hall first).mp mem_cons_self)
    rcases mem_cons.mp ((hall p).mpr hmem) with heq | hp
    · exact heq.symm
    · exact le_antisymm hfirst ((pairwise_cons.mp hsorted).1 p hp)

/-! ### Draws of abilities -/

def Ability.share (a : Ability) : ℕ := a.weight + 10

variable {a : Ability} {abilities : List Ability}

theorem foldl_share : abilities.foldl (fun sum a => sum + (a.weight + 10)) 0 =
      totalWeight share abilities :=
  (foldl_add_eq_totalWeight 0).trans (Nat.zero_add _)

theorem drawAbility_zero : drawAbility 0 abilities = abilities.head? := by
  cases abilities with
  | nil => rfl
  | cons => rw [drawAbility, if_pos (Nat.zero_le _), head?_cons]

/-- A boundary belongs to the ability before it, so every number but 0 is drawn as the one below
it. -/
theorem drawAbility_succ (r : ℕ) : drawAbility (r + 1) abilities = draw share r abilities := by
  induction abilities generalizing r with
  | nil => rfl
  | cons a _ ih =>
    rw [drawAbility, draw, share]
    by_cases hlt : r < a.weight + 10
    · rw [if_pos hlt, if_pos (by omega)]
    · rw [if_neg hlt, if_neg (by omega), ← ih]
      congr 1
      omega

theorem exists_drawAbility {weight : ℕ} (h : weight < totalWeight share abilities) :
    ∃ a ∈ abilities, drawAbility weight abilities = some a := by
  cases weight with
  | zero =>
    cases abilities with
    | nil => cases h
    | cons a => exact ⟨a, mem_cons_self, drawAbility_zero⟩
  | succ =>
    rw [drawAbility_succ]
    exact exists_draw (Nat.lt_of_succ_lt h)

/-- The first ability has one number more than its share and the last one less. -/
theorem countP_drawAbility (b : Ability) (abilities : List Ability) :
    (range (totalWeight share abilities)).countP (drawAbility · abilities = some b)
        + (if abilities.getLast? = some b then 1 else 0)
      = abilities.count b * b.share + if abilities.head? = some b then 1 else 0 := by
  have hlast : draw share (totalWeight share abilities - 1) abilities = abilities.getLast? :=
    draw_pred_totalWeight fun _ _ => Nat.succ_pos _
  rw [← countP_draw, ← hlast, ← drawAbility_zero]
  cases htotal : totalWeight share abilities with
  | zero =>
    cases abilities with
    | nil => rfl
    | cons =>
      rw [totalWeight, share] at htotal
      omega
  | succ n =>
    have hfirst : (range (n + 1)).countP (drawAbility · abilities = some b) =
        (range n).countP (draw share · abilities = some b)
          + if drawAbility 0 abilities = some b then 1 else 0 := by
      rw [range_succ_eq_map, countP_cons, countP_map]
      simp only [Function.comp_def, drawAbility_succ, decide_eq_true_eq]
    rw [hfirst, range_succ, countP_append, countP_singleton, Nat.add_sub_cancel]
    simp only [decide_eq_true_eq]
    omega

theorem exists_drawAbility_eq_some (h : a ∈ abilities) :
    ∃ weight < totalWeight share abilities, drawAbility weight abilities = some a := by
  have hcount := countP_drawAbility a abilities
  have hshare : 10 ≤ abilities.count a * a.share :=
    le_trans (Nat.le_add_left 10 a.weight) (Nat.le_mul_of_pos_left _ (count_pos_iff.mpr h))
  have hpos : 0 < (range (totalWeight share abilities)).countP
      (drawAbility · abilities = some a) := by
    split_ifs at hcount <;> omega
  obtain ⟨weight, hweight, hdraw⟩ := countP_pos_iff.mp hpos
  exact ⟨weight, mem_range.mp hweight, of_decide_eq_true hdraw⟩

/-- **Selection from the database is exact if and only if the last ability is the first one**, which
is one ability alone where rows are distinct; a number always selects one. -/
theorem countP_drawAbility_iff (a : Ability) (abilities : List Ability) :
    let candidates := a :: abilities
    let weightSum := candidates.foldl (fun sum a => sum + (a.weight + 10)) 0
    (∀ r < weightSum, ∃ b ∈ candidates, drawAbility r candidates = some b) ∧
      ((∀ b ∈ candidates, (range weightSum).countP (drawAbility · candidates = some b) =
          candidates.count b * (b.weight + 10)) ↔ candidates.getLast? = some a) := by
  intro candidates weightSum
  have hsum : weightSum = totalWeight share candidates := foldl_share
  have hhead : candidates.head? = some a := rfl
  rw [hsum]
  refine ⟨fun r => exists_drawAbility, fun h => ?_, fun hlast b _ => ?_⟩
  · have hcount := countP_drawAbility a candidates
    rw [h a mem_cons_self, hhead, if_pos rfl] at hcount
    by_contra hne
    rw [if_neg hne, share] at hcount
    omega
  · have hcount := countP_drawAbility b candidates
    rw [hlast, hhead] at hcount
    exact Nat.add_right_cancel hcount

/-- Two abilities of weight 0 have 11 and 9 numbers of 20. -/
theorem countP_drawAbility_two :
    let first : Ability :=
      { group := "default", model := "m", channelId := 1, enabled := true, priority := none,
        weight := 0, tag := none }
    let second := { first with channelId := 2 }
    (range 20).countP (drawAbility · [first, second] = some first) = 11 ∧
      (range 20).countP (drawAbility · [first, second] = some second) = 9 := by
  decide

/-! ### The rows that serve a request -/

/-- Only advanced custom channels are restricted. -/
def ChannelRow.passes (c : ChannelRow) (json : ChannelJson) (requestPath : String) : Prop :=
  requestPath = "" ∨ (c.toChannel json).supportsRequestPath requestPath

instance (c : ChannelRow) (json : ChannelJson) (requestPath : String) :
    Decidable (c.passes json requestPath) :=
  inferInstanceAs (Decidable (_ ∨ _))

namespace ChannelTables

variable (t : ChannelTables) (json : ChannelJson) (group model : String) (retry : ℕ)
  (requestPath : String)

def servingRows : List ChannelRow :=
  t.channels.filter fun c => c.status = .enabled ∧ (group, model) ∈ c.pairs

def pathRows : List ChannelRow :=
  (t.servingRows group model).filter fun c => c.passes json requestPath

/-- For some random number. -/
def CanReturn (c : Channel) : Prop :=
  ∃ random, t.getChannel json random group model retry requestPath = (some c, none)

def SelectionsAgree : Prop :=
  let rows := t.pathRows json group model requestPath
  let priority := priorityLevel (rows.map ChannelRow.getPriority) retry
  if rows = [] then t.pathRows json group (formatMatchingModelName model) requestPath = []
  else
    -- The channels that do not serve the path leave the level as it is.
    priority = priorityLevel ((t.servingRows group model).map ChannelRow.getPriority) retry ∧
      -- No weight of zero stands next to a positive one.
      ((∀ c ∈ rows, c.getPriority = priority → c.getWeight = 0) ∨
        ∀ c ∈ rows, c.getPriority = priority → 0 < c.getWeight)

variable {t json group model retry requestPath}

variable {c : ChannelRow} {id : ℤ}

theorem mem_servingRows :
    c ∈ t.servingRows group model ↔ c ∈ t.channels ∧ c.status = .enabled ∧
      (group, model) ∈ c.pairs := by
  unfold servingRows
  rw [mem_filter, decide_eq_true_eq]

theorem mem_pathRows : c ∈ t.pathRows json group model requestPath
      ↔ c ∈ t.servingRows group model ∧ c.passes json requestPath := by
  unfold pathRows
  rw [mem_filter, decide_eq_true_eq]

/-! ### The database -/

theorem mem_enabledAbilities (hm : Mirrors t) :
    a ∈ t.enabledAbilities group model ↔ ∃ c ∈ t.servingRows group model, a =
      c.ability (group, model) := by
  unfold enabledAbilities
  rw [mem_filter, decide_eq_true_eq, hm.mem_iff]
  constructor
  · rintro ⟨⟨c, hc, hmem⟩, rfl, rfl, henabled⟩
    obtain ⟨r, hr, rfl⟩ := mem_map.mp hmem
    exact ⟨c, mem_servingRows.mpr ⟨hc, of_decide_eq_true henabled, hr⟩, rfl⟩
  · rintro ⟨c, hc, rfl⟩
    obtain ⟨hc, henabled, hr⟩ := mem_servingRows.mp hc
    exact ⟨⟨c, hc, mem_map_of_mem hr⟩, rfl, rfl, decide_eq_true henabled⟩

theorem mem_channelQuery (h : t.channelQuery group model retry = .ok abilities) :
    a ∈ abilities ↔ a ∈ t.enabledAbilities group model ∧
      a.priority = some (priorityLevel ((t.enabledAbilities group model).filterMap Ability.priority)
        retry) := by
  have hlevel : ∀ priority, a ∈ ((t.enabledAbilities group model).filter fun a =>
      a.priority = some priority).insertionSort weightGE
        ↔ a ∈ t.enabledAbilities group model ∧ a.priority = some priority := by
    intro priority
    rw [List.mem_insertionSort, List.mem_filter, decide_eq_true_eq]
  unfold channelQuery at h
  dsimp only at h
  split_ifs at h with hretry
  · rcases hpriority : t.getPriority group model retry with _ | priority
    · rw [hpriority] at h
      cases h
    rw [hpriority] at h
    cases h
    rw [hlevel]
    -- The last priority serves all later retries.
    suffices hlast : priorityLevel ((t.enabledAbilities group model).filterMap
        Ability.priority) retry
        = priority by rw [hlast]
    unfold getPriority at hpriority
    show (t.distinctPriorities group model).getD
      (min retry ((t.distinctPriorities group model).length - 1)) 0 = _
    match hlist : t.distinctPriorities group model with
    | [] =>
      rw [hlist] at hpriority
      cases hpriority
    | first :: rest =>
      rw [hlist] at hpriority
      cases hpriority
      split_ifs with hle
      · rw [min_eq_right (by omega)]
      · rw [min_eq_left (by omega)]
  obtain rfl : retry = 0 := not_not.mp hretry
  cases hmax : ((t.enabledAbilities group model).filterMap Ability.priority).max? with
  | none =>
    rw [hmax] at h
    cases h
    rw [List.max?_eq_none_iff] at hmax
    refine iff_of_false List.not_mem_nil ?_
    rintro ⟨ha, hpriority⟩
    exact List.ne_nil_of_mem (List.mem_filterMap.mpr ⟨a, ha, hpriority⟩) hmax
  | some =>
    rw [hmax] at h
    cases h
    rw [hlevel, priorityLevel_zero hmax]

theorem enabledAbilities_of_channelQuery_error {e : Err}
    (h : t.channelQuery group model retry = .error e) :
    (t.enabledAbilities group model).filterMap Ability.priority = [] := by
  unfold channelQuery at h
  dsimp only at h
  split_ifs at h with hretry
  · unfold getPriority at h
    match hlist : t.distinctPriorities group model with
    | [] =>
      have hdedup := congrArg List.length hlist
      unfold distinctPriorities at hdedup
      rw [List.length_insertionSort, List.length_nil, List.length_eq_zero_iff,
        List.dedup_eq_nil] at hdedup
      exact hdedup
    | first :: rest =>
      rw [hlist] at h
      cases h
  cases hmax : ((t.enabledAbilities group model).filterMap Ability.priority).max? with
  | none | some =>
    rw [hmax] at h
    cases h

theorem mem_filterAbilitiesByRequestPath (h : Keyed t) (hc : c ∈ t.channels) {r : String × String} :
    c.ability r ∈ t.filterAbilitiesByRequestPath json abilities requestPath
      ↔ c.ability r ∈ abilities ∧ c.passes json requestPath := by
  unfold filterAbilitiesByRequestPath
  split_ifs with hpath
  · exact (and_iff_left (.inl hpath)).symm
  have hfound : t.getChannelById (c.ability r).channelId = some c := getChannelById_eq_some h hc
  rw [mem_filter]
  simp only [hfound]
  exact and_congr_right fun _ => ⟨.inr, fun hor => hor.resolve_left hpath⟩

/-- **The channels the database can give** a request. -/
theorem canReturn_iff (h : Keyed t) (hm : Mirrors t) {c : Channel} :
    let level := priorityLevel ((t.servingRows group model).map ChannelRow.getPriority) retry
    t.CanReturn json group model retry requestPath c ↔
      ∃ row ∈ t.pathRows json group model requestPath, row.getPriority = level ∧
        c = row.toChannel json := by
  intro level
  have hlevel : priorityLevel ((t.enabledAbilities group model).filterMap Ability.priority)
      retry = level := by
    apply priorityLevel_congr
    intro p
    rw [List.mem_filterMap, List.mem_map]
    constructor
    · rintro ⟨a, ha, hp⟩
      obtain ⟨row, hrow, rfl⟩ := (mem_enabledAbilities hm).mp ha
      exact ⟨row, hrow, Option.some.inj hp⟩
    · rintro ⟨row, hrow, rfl⟩
      exact ⟨_, (mem_enabledAbilities hm).mpr ⟨row, hrow, rfl⟩, rfl⟩
  unfold CanReturn getChannel
  cases hquery : t.channelQuery group model retry with
  | error =>
    -- There are no abilities.
    have hnone := enabledAbilities_of_channelQuery_error hquery
    refine iff_of_false (by simp) ?_
    rintro ⟨row, hrow, -⟩
    have ha := (mem_enabledAbilities hm).mpr ⟨row, (mem_pathRows.mp hrow).1, rfl⟩
    have hpriority : row.getPriority ∈ (t.enabledAbilities group model).filterMap
        Ability.priority :=
      List.mem_filterMap.mpr ⟨_, ha, rfl⟩
    exact List.ne_nil_of_mem hpriority hnone
  | ok found =>
    dsimp only
    set abilities := t.filterAbilitiesByRequestPath json found requestPath with habilities
    -- The abilities are those of the rows of the level that serve the path.
    have hmem : ∀ a, a ∈ abilities ↔ ∃ row ∈ t.pathRows json group model requestPath,
        row.getPriority = level ∧ a = row.ability (group, model) := by
      intro a
      constructor
      · intro ha
        have hfound : a ∈ found := by
          rw [habilities] at ha
          unfold filterAbilitiesByRequestPath at ha
          split_ifs at ha
          · exact ha
          · exact List.mem_of_mem_filter ha
        obtain ⟨henabled, hpriority⟩ := (mem_channelQuery hquery).mp hfound
        obtain ⟨row, hrow, rfl⟩ := (mem_enabledAbilities hm).mp henabled
        have hpasses := ((mem_filterAbilitiesByRequestPath h (mem_servingRows.mp hrow).1).mp ha).2
        refine ⟨row, mem_pathRows.mpr ⟨hrow, hpasses⟩, ?_, rfl⟩
        rw [← hlevel]
        exact Option.some.inj hpriority
      rintro ⟨row, hrow, hpriority, rfl⟩
      obtain ⟨hserving, hpasses⟩ := mem_pathRows.mp hrow
      apply (mem_filterAbilitiesByRequestPath h (mem_servingRows.mp hserving).1).mpr
      refine ⟨(mem_channelQuery hquery).mpr ⟨(mem_enabledAbilities hm).mpr ⟨row, hserving,
        rfl⟩, ?_⟩, hpasses⟩
      rw [hlevel, ← hpriority]
      rfl
    have hchannel : ∀ row ∈ t.pathRows json group model requestPath,
        t.getChannelById row.id = some row :=
      fun row hrow => getChannelById_eq_some h (mem_servingRows.mp (mem_pathRows.mp hrow).1).1
    by_cases hempty : abilities = []
    · simp only [if_pos hempty]
      refine iff_of_false (by simp) ?_
      rintro ⟨row, hrow, hpriority, -⟩
      exact List.ne_nil_of_mem ((hmem _).mpr ⟨row, hrow, hpriority, rfl⟩) hempty
    simp only [if_neg hempty, foldl_share]
    constructor
    · rintro ⟨random, hresult⟩
      have hpos : 0 < totalWeight share abilities := by
        obtain ⟨a, _, hcons⟩ := List.exists_cons_of_ne_nil hempty
        rw [hcons]
        exact totalWeight_pos List.mem_cons_self (Nat.succ_pos _)
      obtain ⟨a, ha, hdraw⟩ := exists_drawAbility (Nat.mod_lt random hpos)
      obtain ⟨row, hrow, hpriority, rfl⟩ := (hmem a).mp ha
      have hid : t.getChannelById (row.ability (group, model)).channelId =
          some row := hchannel row hrow
      rw [hdraw, Option.map_some, Option.getD_some, hid] at hresult
      exact ⟨row, hrow, hpriority, (Option.some.inj (Prod.mk.inj hresult).1).symm⟩
    rintro ⟨row, hrow, hpriority, rfl⟩
    obtain ⟨weight, hlt, hdraw⟩ :=
      exists_drawAbility_eq_some ((hmem _).mpr ⟨row, hrow, hpriority, rfl⟩)
    have hid : t.getChannelById (row.ability (group, model)).channelId =
        some row := hchannel row hrow
    refine ⟨weight, ?_⟩
    rw [Nat.mod_eq_of_lt hlt, hdraw, Option.map_some, Option.getD_some, hid]

/-! ### The cache -/

def cache (t : ChannelTables) (json : ChannelJson) : ChannelCache :=
  .initChannelCache (t.channels.map (·.toChannel json))

theorem cache_channelsIDM (h : Keyed t) (hc : c ∈ t.channels) :
    (t.cache json).channelsIDM c.id = some (c.toChannel json) := by
  have hfound : t.channels.find? (fun row => row.id = c.id) = some c := getChannelById_eq_some h hc
  show (t.channels.map (·.toChannel json)).find? (fun channel => channel.id = c.id) = _
  rw [find?_map]
  show (t.channels.find? fun row => row.id = c.id).map _ = _
  rw [hfound, Option.map_some]

theorem mem_cache_index :
    id ∈ (t.cache json).group2model2channels group model ↔
      ∃ c ∈ t.servingRows group model, c.id = id := by
  show id ∈ (listedIds (t.channels.map (·.toChannel json)) group model).insertionSort _ ↔ _
  rw [mem_insertionSort]
  unfold listedIds
  simp only [mem_flatMap, mem_filter, mem_map, decide_eq_true_eq]
  constructor
  · rintro ⟨-, ⟨⟨c, hc, rfl⟩, henabled⟩, _, ⟨hgroup, rfl⟩, _, ⟨hmodel, rfl⟩, rfl⟩
    refine ⟨c, mem_servingRows.mpr ⟨hc, henabled, ?_⟩, rfl⟩
    exact mem_flatMap.mpr ⟨_, hmodel, mem_map_of_mem hgroup⟩
  rintro ⟨c, hc, rfl⟩
  obtain ⟨hthere, henabled, hpair⟩ := mem_servingRows.mp hc
  obtain ⟨_, hmodel, hpair⟩ := mem_flatMap.mp hpair
  obtain ⟨_, hgroup, heq⟩ := mem_map.mp hpair
  obtain ⟨rfl, rfl⟩ := Prod.mk.inj heq
  exact ⟨_, ⟨⟨c, hthere, rfl⟩, henabled⟩, _, ⟨hgroup, rfl⟩, _, ⟨hmodel, rfl⟩, rfl⟩

theorem mem_filterChannelsByRequestPath (h : Keyed t) :
    id ∈ (t.cache json).filterChannelsByRequestPath
      ((t.cache json).group2model2channels group model) requestPath
      ↔ ∃ c ∈ t.pathRows json group model requestPath, c.id = id := by
  unfold filterChannelsByRequestPath
  split_ifs with hpath
  · rw [mem_cache_index]
    constructor
    · rintro ⟨c, hc, hid⟩
      exact ⟨c, mem_pathRows.mpr ⟨hc, .inl hpath⟩, hid⟩
    · rintro ⟨c, hc, hid⟩
      exact ⟨c, (mem_pathRows.mp hc).1, hid⟩
  -- The parsed configuration in the cache is that of the row.
  have hcached : ∀ c ∈ t.servingRows group model, (c.type ≠ channelTypeAdvancedCustom ||
        ((t.cache json).channel2advancedCustomConfig c.id).any fun config =>
          config.supportsPath requestPath)
        = (c.toChannel json).supportsRequestPath requestPath := by
    intro c hc
    have hconfig : (t.cache json).channel2advancedCustomConfig c.id
        = if c.type = channelTypeAdvancedCustom
          then json.advancedCustom c.otherSettings else none := by
      show ((t.cache json).channelsIDM c.id).bind _ = _
      rw [cache_channelsIDM h (mem_servingRows.mp hc).1]
      rfl
    rw [hconfig]
    unfold Channel.supportsRequestPath toChannel
    by_cases htype : c.type = channelTypeAdvancedCustom <;> simp [htype]
  rw [mem_filter, mem_cache_index]
  constructor
  · rintro ⟨⟨c, hc, rfl⟩, hpass⟩
    rw [cache_channelsIDM h (mem_servingRows.mp hc).1] at hpass
    exact ⟨c, mem_pathRows.mpr ⟨hc, .inr ((hcached c hc).symm.trans hpass)⟩, rfl⟩
  rintro ⟨c, hc, rfl⟩
  obtain ⟨hc, hpass⟩ := mem_pathRows.mp hc
  refine ⟨⟨c, hc, rfl⟩, ?_⟩
  rw [cache_channelsIDM h (mem_servingRows.mp hc).1]
  exact (hcached c hc).trans (hpass.resolve_left hpath)

def candidateRows (t : ChannelTables) (json : ChannelJson) (group model requestPath : String) :
    List ChannelRow :=
  if t.pathRows json group model requestPath = [] then
    t.pathRows json group (formatMatchingModelName model) requestPath
  else t.pathRows json group model requestPath

theorem mem_satisfiedChannels (h : Keyed t) :
    id ∈ (t.cache json).satisfiedChannels group model requestPath
      ↔ ∃ c ∈ t.candidateRows json group model requestPath, c.id = id := by
  have hempty : (t.cache json).filterChannelsByRequestPath
      ((t.cache json).group2model2channels group model)
      requestPath = [] ↔ t.pathRows json group model requestPath = [] := by
    rw [eq_nil_iff_forall_not_mem, eq_nil_iff_forall_not_mem]
    constructor
    · exact fun hall c hc => hall c.id ((mem_filterChannelsByRequestPath h).mpr ⟨c, hc, rfl⟩)
    · intro hall id hid
      obtain ⟨c, hc, -⟩ := (mem_filterChannelsByRequestPath h).mp hid
      exact hall c hc
  unfold satisfiedChannels candidateRows
  simp only [hempty]
  split_ifs <;> exact mem_filterChannelsByRequestPath h

def Drawn (rows : List ChannelRow) (retry : ℕ) (row : ChannelRow) : Prop :=
  row.getPriority = priorityLevel (rows.map ChannelRow.getPriority) retry ∧
    (0 < row.getWeight ∨ ∀ row' ∈ rows,
      row'.getPriority = priorityLevel (rows.map ChannelRow.getPriority) retry → row'.getWeight = 0)

/-- **The channels the cache can give** a request. -/
theorem cache_canReturn_iff (h : Keyed t) {c : Channel} :
    let rows := t.candidateRows json group model requestPath
    (t.cache json).CanReturn group model retry requestPath c ↔
      ∃ row ∈ rows, Drawn rows retry row ∧ c = row.toChannel json := by
  intro rows
  have hthere : ∀ row ∈ rows, row ∈ t.channels := by
    intro row hrow
    unfold rows candidateRows at hrow
    split_ifs at hrow <;> exact (mem_servingRows.mp (mem_pathRows.mp hrow).1).1
  obtain ⟨channels, hchannels, -⟩ := @ChannelCache.exists_lookupAll (t.cache json)
    ((t.cache json).satisfiedChannels group model requestPath) fun _ =>
      (t.cache json).isSome_channelsIDM_of_mem
  have hmem : ∀ c, c ∈ channels ↔ ∃ row ∈ rows, c = row.toChannel json := by
    intro c
    rw [(t.cache json).mem_lookupAll hchannels]
    constructor
    · rintro ⟨id, hid, hfound⟩
      obtain ⟨row, hrow, rfl⟩ := (mem_satisfiedChannels h).mp hid
      rw [cache_channelsIDM h (hthere row hrow)] at hfound
      exact ⟨row, hrow, (Option.some.inj hfound).symm⟩
    · rintro ⟨row, hrow, rfl⟩
      exact ⟨row.id, (mem_satisfiedChannels h).mpr ⟨row, hrow, rfl⟩,
        cache_channelsIDM h (hthere row hrow)⟩
  have hlevel : targetPriority channels retry =
      priorityLevel (rows.map ChannelRow.getPriority) retry := by
    show priorityLevel (channels.map Channel.getPriority) retry = _
    apply priorityLevel_congr
    intro p
    rw [List.mem_map, List.mem_map]
    constructor
    · rintro ⟨c, hc, rfl⟩
      obtain ⟨row, hrow, rfl⟩ := (hmem c).mp hc
      exact ⟨row, hrow, rfl⟩
    · rintro ⟨row, hrow, rfl⟩
      exact ⟨_, (hmem _).mpr ⟨row, hrow, rfl⟩, rfl⟩
  rw [(t.cache json).canReturn_iff hchannels, hlevel]
  constructor
  · rintro ⟨⟨hc, hpriority⟩, hweight⟩
    obtain ⟨row, hrow, rfl⟩ := (hmem c).mp hc
    refine ⟨row, hrow, ⟨hpriority, hweight.imp_right ?_⟩, rfl⟩
    exact fun hall row' hrow' => hall _ ((hmem _).mpr ⟨row', hrow', rfl⟩)
  rintro ⟨row, hrow, ⟨hpriority, hweight⟩, rfl⟩
  refine ⟨⟨(hmem _).mpr ⟨row, hrow, rfl⟩, hpriority⟩, hweight.imp_right ?_⟩
  intro hall c' hc'
  obtain ⟨row', hrow', rfl⟩ := (hmem c').mp hc'
  exact hall row' hrow'

/-! ### The comparison -/

theorem exists_drawn {rows : List ChannelRow} (h : rows ≠ []) (retry : ℕ) :
    ∃ row ∈ rows, Drawn rows retry row := by
  have hlevel := @priorityLevel_mem (rows.map ChannelRow.getPriority)
    (List.map_eq_nil_iff.not.mpr h) retry
  obtain ⟨row, hrow, hpriority⟩ := List.mem_map.mp hlevel
  by_cases hzero : ∀ row' ∈ rows,
      row'.getPriority = priorityLevel (rows.map ChannelRow.getPriority) retry → row'.getWeight = 0
  · exact ⟨row, hrow, hpriority, .inr hzero⟩
  · push Not at hzero
    obtain ⟨row', hrow', hpriority', hweight⟩ := hzero
    exact ⟨row', hrow', hpriority', .inl (Nat.pos_of_ne_zero hweight)⟩

theorem toChannel_injective (h : Keyed t) {c' : ChannelRow} (hc : c ∈ t.channels)
    (hc' : c' ∈ t.channels) (heq : c.toChannel json = c'.toChannel json) : c = c' :=
  h.channels.eq_of_key_eq hc hc' (congrArg Channel.id heq)

/-- **The cache and the database answer alike** exactly under the condition. -/
theorem selections_agree_iff (h : Keyed t) (hm : Mirrors t) :
    (∀ c, (t.cache json).CanReturn group model retry requestPath c ↔
      t.CanReturn json group model retry requestPath c)
      ↔ t.SelectionsAgree json group model retry requestPath := by
  have hthere : ∀ row ∈ t.pathRows json group model requestPath, row ∈ t.channels := fun row hrow =>
    (mem_servingRows.mp (mem_pathRows.mp hrow).1).1
  simp only [cache_canReturn_iff h, canReturn_iff h hm]
  unfold SelectionsAgree candidateRows
  by_cases hempty : t.pathRows json group model requestPath = []
  · -- The database finds nothing.
    simp only [hempty, if_true, List.not_mem_nil, false_and, exists_false, iff_false]
    constructor
    · intro hnone
      by_contra hne
      obtain ⟨row, hrow, hdrawn⟩ := exists_drawn hne retry
      exact hnone _ ⟨row, hrow, hdrawn, rfl⟩
    · rintro hnormalized c ⟨row, hrow, -⟩
      rw [hnormalized] at hrow
      exact absurd hrow List.not_mem_nil
  simp only [if_neg hempty]
  constructor
  · intro hsame
    obtain ⟨row, hrow, hdrawn⟩ := exists_drawn hempty retry
    obtain ⟨row', hrow', hlevel, heq⟩ := (hsame _).mp ⟨row, hrow, hdrawn, rfl⟩
    obtain rfl := toChannel_injective h (hthere row hrow) (hthere row' hrow') heq
    have hpriority := hdrawn.1.symm.trans hlevel
    refine ⟨hpriority, ?_⟩
    by_cases hzero : ∀ c ∈ t.pathRows json group model requestPath, c.getPriority
        = priorityLevel ((t.pathRows json group model requestPath).map ChannelRow.getPriority)
          retry → c.getWeight = 0
    · exact .inl hzero
    -- The database gives every row of the level, so each has a weight in the cache.
    refine .inr fun c hc hcp => ?_
    obtain ⟨c', hc', hdrawn', heq'⟩ := (hsame _).mpr ⟨c, hc, hcp.trans hpriority, rfl⟩
    obtain rfl := toChannel_injective h (hthere c hc) (hthere c' hc') heq'
    exact hdrawn'.2.resolve_right hzero
  rintro ⟨hpriority, hweight⟩ c
  constructor
  · rintro ⟨row, hrow, hdrawn, rfl⟩
    exact ⟨row, hrow, hdrawn.1.trans hpriority, rfl⟩
  rintro ⟨row, hrow, hlevel, rfl⟩
  have hown := hlevel.trans hpriority.symm
  refine ⟨row, hrow, ⟨hown, ?_⟩, rfl⟩
  exact hweight.symm.imp_left fun hall => hall row hrow hown

theorem selections_agree_twoChannels : Mirrors (({} : ChannelTables).batchInsertChannels
        [{ id := 1, models := "gpt-4", weight := some 1 },
         { id := 2, models := "gpt-4", weight := some 5 }]) ∧
    ∀ c, (({} : ChannelTables).batchInsertChannels
        [{ id := 1, models := "gpt-4", weight := some 1 },
         { id := 2, models := "gpt-4", weight := some 5 }]
      |>.cache .plain).CanReturn "default" "gpt-4" 0 "/v1/chat/completions" c
      ↔ (({} : ChannelTables).batchInsertChannels
        [{ id := 1, models := "gpt-4", weight := some 1 },
         { id := 2, models := "gpt-4", weight := some 5 }]).CanReturn
          .plain "default" "gpt-4" 0 "/v1/chat/completions" c := by
  have hmirrors := (mirrors_step_iff .plain keyed_empty mirrors_empty (.batchInsertChannels
    [{ id := 1, models := "gpt-4", weight := some 1 },
     { id := 2, models := "gpt-4", weight := some 5 }])).mpr
      (by unfold KeepsMirror ChannelRow.PairsDistinct; decide +kernel)
  refine ⟨hmirrors, ?_⟩
  apply (selections_agree_iff (keyed_empty.step .plain (.batchInsertChannels _)) hmirrors).mpr
  unfold SelectionsAgree
  decide +kernel

/-- A name that only its normalized form serves is found in the cache alone. -/
theorem selections_agree_normalizedName :
    Mirrors (({} : ChannelTables).insert { id := 1, models := "gpt-4-gizmo-*" }) ∧
      ((({} : ChannelTables).insert { id := 1, models := "gpt-4-gizmo-*" }).cache
        .plain).CanReturn "default"
        "gpt-4-gizmo-abc" 0 ""
        ((({ id := 1, models := "gpt-4-gizmo-*" } : ChannelRow).create).toChannel .plain) ∧
      ∀ c, ¬ (({} : ChannelTables).insert { id := 1, models := "gpt-4-gizmo-*" }).CanReturn .plain
        "default"
        "gpt-4-gizmo-abc" 0 "" c := by
  have hmirrors : Mirrors (({} : ChannelTables).insert { id := 1, models := "gpt-4-gizmo-*" }) :=
    (mirrors_insert_iff keyed_empty mirrors_empty).mpr
      (.inr (by unfold ChannelRow.PairsDistinct; decide +kernel))
  refine ⟨hmirrors, ⟨0, by decide +kernel⟩, ?_⟩
  intro c hc
  obtain ⟨_, hrow, -⟩ := (canReturn_iff (keyed_empty.insert _) hmirrors).mp hc
  exact absurd hrow List.not_mem_nil

/-- **The cache and the database accept the same preferred channels**, although they may select
different ones. -/
theorem isChannelEnabled_agree (hm : Mirrors t) (modelName : String) :
    (t.cache json).isChannelEnabledForGroupModel group modelName id
      = t.isChannelEnabledForGroupModel group modelName id := by
  have hlisted (name : String) : (t.enabledAbilities group name).any (·.channelId = id)
      = decide (id ∈ (t.cache json).group2model2channels group name) := by
    rw [Bool.eq_iff_iff, any_eq_true, decide_eq_true_eq, mem_cache_index]
    constructor
    · rintro ⟨a, ha, hid⟩
      obtain ⟨c, hc, rfl⟩ := (mem_enabledAbilities hm).mp ha
      exact ⟨c, hc, of_decide_eq_true hid⟩
    · rintro ⟨c, hc, rfl⟩
      exact ⟨_, (mem_enabledAbilities hm).mpr ⟨c, hc, rfl⟩, decide_eq_true rfl⟩
  unfold ChannelCache.isChannelEnabledForGroupModel isChannelEnabledForGroupModel
    isChannelEnabledForGroupModelDB
  simp only [hlisted]
  split_ifs with hchecks hmem
  · rfl
  · simp [hmem]
  · simp [hmem]

theorem isChannelEnabled_agree_normalizedName :
    let t := ({} : ChannelTables).insert { id := 1, models := "gpt-4-gizmo-*" }
    (t.cache .plain).isChannelEnabledForGroupModel "default" "gpt-4-gizmo-abc" 1 =
      t.isChannelEnabledForGroupModel "default" "gpt-4-gizmo-abc" 1 :=
  isChannelEnabled_agree ((mirrors_insert_iff keyed_empty mirrors_empty).mpr
    (.inr (by unfold ChannelRow.PairsDistinct; decide +kernel))) _

end ChannelTables

end TokensFlux
