import TokensFlux.Task.Equiv.Polling

/-!
# Answers reach the task they are about

The pass finds the task an answer is for by its upstream id alone, and two channels may use the same
id.  `Sound` is what every step of a pass keeps.
-/

namespace TokensFlux

open List Function PassIndex Pass PassEvent

/-! ### The maps -/

variable {channelId id : ℤ}

namespace PassIndex

variable {rows : ℤ → Task} {ids : List ℤ}

theorem ofRows_append (rows : ℤ → Task) (ids : List ℤ) (id : ℤ) :
    ofRows rows (ids ++ [id]) = (ofRows rows ids).add id (rows id) := by
  rw [ofRows, foldl_append]
  rfl

theorem lookup_add {index : PassIndex} {task : Task} (id : ℤ)
    (hnamed : task.getUpstreamTaskId ≠ "") (u : String) :
    (index.add id task).taskM.lookup u = if u = task.getUpstreamTaskId then some id
      else index.taskM.lookup u := by
  rw [add, if_neg hnamed]
  split_ifs with hu
  · rw [hu]
    exact AList.lookup_insert _
  · exact AList.lookup_insert_ne hu

theorem taskIds_add {index : PassIndex} {task : Task} (id : ℤ)
    (hnamed : task.getUpstreamTaskId ≠ "") (channelId : ℤ) :
    (index.add id task).taskIds channelId = index.taskIds channelId ++
      if task.channelId = channelId then [task.getUpstreamTaskId] else [] := by
  rw [add, if_neg hnamed, taskIds]
  split_ifs with hchannel
  · rw [← hchannel]
    simp [AList.lookup_insert]
  · rw [AList.lookup_insert_ne (Ne.symm hchannel), append_nil]
    rfl

variable {u : String}

theorem of_lookup_ofRows (h : (ofRows rows ids).taskM.lookup u = some id) :
    id ∈ ids ∧ (rows id).getUpstreamTaskId = u ∧ u ≠ "" := by
  induction ids using reverseRecOn with
  | nil => cases h
  | append_singleton _ last ih =>
    rw [ofRows_append] at h
    by_cases hnamed : (rows last).getUpstreamTaskId = ""
    · rw [add, if_pos hnamed] at h
      obtain ⟨hmem, hrest⟩ := ih h
      exact ⟨mem_append_left _ hmem, hrest⟩
    rw [lookup_add last hnamed] at h
    split_ifs at h with hu
    · cases h
      refine ⟨mem_append_right _ mem_cons_self, hu.symm, ?_⟩
      rw [hu]
      exact hnamed
    · obtain ⟨hmem, hrest⟩ := ih h
      exact ⟨mem_append_left _ hmem, hrest⟩

theorem lookup_ofRows_isSome (hid : id ∈ ids) (hnamed : (rows id).getUpstreamTaskId ≠ "") :
    ∃ id', (ofRows rows ids).taskM.lookup (rows id).getUpstreamTaskId = some id' := by
  induction ids using reverseRecOn with
  | nil => cases hid
  | append_singleton ids last ih =>
    rw [ofRows_append]
    have hold : id ∈ ids → ∃ id', ((ofRows rows ids).add last (rows last)).taskM.lookup
        (rows id).getUpstreamTaskId = some id' := by
      intro hmem
      obtain ⟨id', hid'⟩ := ih hmem
      by_cases hlast : (rows last).getUpstreamTaskId = ""
      · rw [add, if_pos hlast]
        exact ⟨id', hid'⟩
      rw [lookup_add last hlast]
      split_ifs
      · exact ⟨last, rfl⟩
      · exact ⟨id', hid'⟩
    rcases mem_append.mp hid with hmem | hmem
    · exact hold hmem
    · obtain rfl := mem_singleton.mp hmem
      rw [lookup_add id hnamed, if_pos rfl]
      exact ⟨id, rfl⟩

theorem taskIds_ofRows (rows : ℤ → Task) (ids : List ℤ) (channelId : ℤ) :
    (ofRows rows ids).taskIds channelId =
      (ids.filter fun id => (rows id).getUpstreamTaskId ≠ "" ∧ (rows id).channelId = channelId).map
        fun id => (rows id).getUpstreamTaskId := by
  induction ids using reverseRecOn with
  | nil => rfl
  | append_singleton _ last ih =>
    rw [ofRows_append, filter_append, map_append, ← ih]
    by_cases hnamed : (rows last).getUpstreamTaskId = ""
    · rw [add, if_pos hnamed]
      simp [hnamed, taskIds]
    rw [taskIds_add last hnamed]
    by_cases hchannel : (rows last).channelId = channelId
    · simp [hnamed, hchannel]
    · simp [hchannel]

theorem of_mem_nullTaskIds (h : id ∈ (ofRows rows ids).nullTaskIds) :
    (rows id).getUpstreamTaskId = "" := by
  induction ids using reverseRecOn with
  | nil => cases h
  | append_singleton _ last ih =>
    rw [ofRows_append] at h
    by_cases hnamed : (rows last).getUpstreamTaskId = ""
    · rw [add, if_pos hnamed] at h
      rcases mem_append.mp h with h | h
      · exact ih h
      · rw [mem_singleton.mp h]
        exact hnamed
    · rw [add, if_neg hnamed] at h
      exact ih h

theorem lookup_of_mem_taskIds (h : u ∈ (ofRows rows ids).taskIds channelId) :
    ∃ id, (ofRows rows ids).taskM.lookup u = some id := by
  rw [taskIds_ofRows, mem_map] at h
  obtain ⟨id, hid, rfl⟩ := h
  obtain ⟨hid, hfilter⟩ := mem_filter.mp hid
  exact lookup_ofRows_isSome hid (of_decide_eq_true hfilter).1

def upstreamIds (rows : ℤ → Task) (ids : List ℤ) : List String :=
  (ids.filter fun id => (rows id).getUpstreamTaskId ≠ "").map fun id => (rows id).getUpstreamTaskId

theorem eq_of_upstreamId_eq (hnodup : (upstreamIds rows ids).Nodup) {id' : ℤ} (hid : id ∈ ids)
    (hid' : id' ∈ ids) (hnamed : (rows id).getUpstreamTaskId ≠ "")
    (h : (rows id).getUpstreamTaskId = (rows id').getUpstreamTaskId) : id = id' := by
  apply inj_on_of_nodup_map hnodup _ _ h
  · exact mem_filter.mpr ⟨hid, decide_eq_true hnamed⟩
  · rw [h] at hnamed
    exact mem_filter.mpr ⟨hid', decide_eq_true hnamed⟩

theorem channelId_of_lookup (hnodup : (upstreamIds rows ids).Nodup)
    (hlookup : (ofRows rows ids).taskM.lookup u = some id)
    (hu : u ∈ (ofRows rows ids).taskIds channelId) :
    (rows id).channelId = channelId := by
  obtain ⟨hid, rfl, hnamed⟩ := of_lookup_ofRows hlookup
  rw [taskIds_ofRows, mem_map] at hu
  obtain ⟨_, hmem, heq⟩ := hu
  obtain ⟨hid', hfilter⟩ := mem_filter.mp hmem
  rw [eq_of_upstreamId_eq hnodup hid hid' hnamed heq.symm]
  exact (of_decide_eq_true hfilter).2

theorem count_taskIds (hnodup : (upstreamIds rows ids).Nodup) (hid : id ∈ ids)
    (hnamed : (rows id).getUpstreamTaskId ≠ "") :
    ((ofRows rows ids).taskIds (rows id).channelId).count (rows id).getUpstreamTaskId = 1 := by
  rw [taskIds_ofRows]
  apply count_eq_one_of_mem
  · apply List.Nodup.sublist _ hnodup
    apply List.Sublist.map
    apply monotone_filter_right
    intro id' h
    exact decide_eq_true (of_decide_eq_true h).1
  · apply mem_map_of_mem
    exact mem_filter.mpr ⟨hid, decide_eq_true ⟨hnamed, rfl⟩⟩

end PassIndex

/-! ### What a step does to a task -/

theorem Task.getUpstreamTaskId_of_origin {t t' : Task} (h : t.origin = t'.origin) :
    t.getUpstreamTaskId = t'.getUpstreamTaskId := by
  have hupstream : t.upstreamTaskId = t'.upstreamTaskId := congrArg TaskOrigin.upstreamTaskId h
  have htask : t.taskId = t'.taskId := congrArg TaskOrigin.taskId h
  rw [getUpstreamTaskId, getUpstreamTaskId, hupstream, htask]

namespace Pass

variable {env : TaskEnv} {s : Pass} {rows : ℤ → Task} {ids : List ℤ}

def SameTasks (rows : ℤ → Task) (s : Pass) : Prop :=
  ∀ id, (s.rows id).origin = (rows id).origin ∧ (s.mem id).origin = (rows id).origin

theorem SameTasks.onTask (h : s.SameTasks rows) (es : List (TaskEvent Unit)) (id : ℤ) :
    (s.onTask env es id).SameTasks rows := by
  have hvalues : (s.system id).Values fun t => t.origin = (rows id).origin := by
    refine ⟨(h id).1, ?_, ?_⟩
    · intro role w task hcopy
      unfold system at hcopy
      dsimp only at hcopy
      split_ifs at hcopy
      rw [← Option.some.inj hcopy]
      exact (h id).2
    · intro w save hsave
      cases (show none = some save from hsave)
  have hstep : ∀ (t : TaskSystem Unit) (e : TaskEvent Unit),
      (t.Values fun v => v.origin = (rows id).origin) →
      (t.step env e).Values fun v => v.origin = (rows id).origin := fun _ e ht => ht.origin_step e
  have hrun := Guarded.invariant_of_step hstep es hvalues
  intro id'
  by_cases hid : id' = id
  · subst hid
    unfold Pass.onTask
    simp only [update_self]
    refine ⟨hrun.row, ?_⟩
    cases hcopy : (es.foldl (TaskSystem.step env) (s.system id')).copies .poll () with
    | none => exact (h id').2
    | some task => exact hrun.copies .poll () task hcopy
  · unfold Pass.onTask
    simp only [update_of_ne hid]
    exact h id'

/-- Polled and queued ids together are those of the index. -/
structure Sound (rows : ℤ → Task) (ids : List ℤ) (hasChannel : ℤ → Bool) (s : Pass) : Prop where
  index : s.index = .ofRows rows ids
  same : s.SameTasks rows
  queued : ∀ channelId, s.queues channelId ⊆ s.index.taskIds channelId
  asked : ∀ channelId, hasChannel channelId = true → s.index.taskIds channelId =
    (s.polls.filter fun p => p.channelId = channelId).map Poll.upstreamId ++ s.queues channelId
  found : ∀ p ∈ s.polls, s.index.taskM.lookup p.upstreamId = some p.id ∧
    hasChannel p.channelId = true
  updated : s.updates ⊆ s.polls
  untouched : ∀ id, (rows id).getUpstreamTaskId ≠ "" → hasChannel (rows id).channelId = true →
    (∀ u ∈ s.updates, u.id ≠ id) → s.rows id = rows id ∧ s.mem id = rows id

variable {p : Poll} {hasChannel : ℤ → Bool}

namespace Sound

variable {hasChannel : ℤ → Bool}

theorem start (platform : TaskPlatform) (rows : ℤ → Task) (allTasks : List ℤ) (billing : Store)
    (hplatform : platform ≠ .midjourney) :
    Sound rows (platformTask rows allTasks platform) hasChannel
      (Pass.start platform rows allTasks billing) := by
  have hqueues : (Pass.start platform rows allTasks billing).queues =
      (ofRows rows (platformTask rows allTasks platform)).taskIds := by
    cases platform with
    | midjourney => exact absurd rfl hplatform
    | suno | video => rfl
  exact {
    index := rfl
    same := fun id => ⟨rfl, rfl⟩
    queued := by
      intro channelId
      rw [hqueues]
      exact List.Subset.refl _
    asked := by
      intro channelId _
      rw [hqueues]
      rfl
    found := by
      intro p hp
      cases hp
    updated := nil_subset _
    untouched := fun id _ _ _ => ⟨rfl, rfl⟩ }

variable (h : s.Sound rows ids hasChannel)

include h

theorem lookup_of_mem_queues {u : String} (hu : u ∈ s.queues channelId) :
    ∃ id, s.index.taskM.lookup u = some id := by
  have hasked := h.queued channelId hu
  rw [h.index] at hasked ⊢
  exact lookup_of_mem_taskIds hasked

theorem mem_taskIds (hp : p ∈ s.polls) :
    p.upstreamId ∈ s.index.taskIds p.channelId := by
  rw [h.asked p.channelId (h.found p hp).2]
  apply mem_append_left
  apply mem_map_of_mem
  exact mem_filter.mpr ⟨hp, decide_eq_true rfl⟩

theorem onTask (es : List (TaskEvent Unit))
    (hid : (∃ u ∈ s.updates, u.id = id) ∨ (rows id).getUpstreamTaskId = "" ∨
      hasChannel (rows id).channelId = false) :
    (s.onTask env es id).Sound rows ids hasChannel := by
  refine { h with same := h.same.onTask es id, untouched := fun id' hnamed hchannel hupdates => ?_ }
  have hne : id' ≠ id := by
    rintro rfl
    rcases hid with ⟨u, hu, hid⟩ | hid | hid
    · exact hupdates u hu hid
    · exact hnamed hid
    · rw [hid] at hchannel
      cases hchannel
  unfold Pass.onTask
  simp only [update_of_ne hne]
  exact h.untouched id' hnamed hchannel hupdates

theorem foldl_onTask (e : TaskEvent Unit) {failed : List ℤ}
    (hfailed : ∀ id ∈ failed, (rows id).getUpstreamTaskId = "" ∨
      hasChannel (rows id).channelId = false) :
    (failed.foldl (fun s id => s.onTask env [e] id) s).Sound rows ids hasChannel := by
  induction failed generalizing s with
  | nil => exact h
  | cons id _ ih =>
    apply ih (h.onTask [e] (Or.inr (hfailed id mem_cons_self)))
    intro id' hid'
    exact hfailed id' (mem_cons_of_mem _ hid')

theorem setQueue (channelId : ℤ) (rest : List String)
    (asked : List Poll) (hrest : rest ⊆ s.queues channelId)
    (hasked : ∀ p ∈ asked, p.channelId = channelId ∧
      s.index.taskM.lookup p.upstreamId = some p.id ∧ hasChannel channelId = true)
    (hqueue : hasChannel channelId = true → s.queues channelId =
      asked.map Poll.upstreamId ++ rest) :
    ({ s with
        queues := update s.queues channelId rest,
        polls := s.polls ++ asked } : Pass).Sound rows ids hasChannel where
  index := h.index
  same := h.same
  queued := by
    intro channelId'
    dsimp only
    by_cases hchannel : channelId' = channelId
    · subst hchannel
      rw [update_self]
      exact List.Subset.trans hrest (h.queued channelId')
    · rw [update_of_ne hchannel]
      exact h.queued channelId'
  asked := by
    intro channelId' hexists
    dsimp only
    rw [filter_append, map_append]
    by_cases hchannel : channelId' = channelId
    · subst hchannel
      have hall : (asked.filter fun p => p.channelId = channelId') = asked := by
        rw [filter_eq_self]
        intro p hp
        exact decide_eq_true (hasked p hp).1
      rw [update_self, hall, append_assoc, ← hqueue hexists]
      exact h.asked channelId' hexists
    have hnone : (asked.filter fun p => p.channelId = channelId') = [] := by
      rw [filter_eq_nil_iff]
      intro p hp heq
      exact hchannel ((of_decide_eq_true heq).symm.trans (hasked p hp).1)
    rw [update_of_ne hchannel, hnone, map_nil, append_nil]
    exact h.asked channelId' hexists
  found := by
    intro p hp
    rcases mem_append.mp hp with hp | hp
    · exact h.found p hp
    obtain ⟨hchannel, hlookup, hexists⟩ := hasked p hp
    refine ⟨hlookup, ?_⟩
    rw [hchannel]
    exact hexists
  updated := List.Subset.trans h.updated (subset_append_left _ _)
  untouched := h.untouched

theorem addUpdate (hp : p ∈ s.polls) :
    ({ s with updates := s.updates ++ [p] } : Pass).Sound rows ids hasChannel := by
  refine { h with
    updated := append_subset.mpr ⟨h.updated, cons_subset.mpr ⟨hp, nil_subset _⟩⟩
    untouched := fun id hnamed hchannel hupdates => h.untouched id hnamed hchannel ?_ }
  intro u hu
  exact hupdates u (mem_append_left _ hu)

theorem failTasks (hnodup : (upstreamIds rows ids).Nodup)
    (hchannel : hasChannel channelId = false) (platform : TaskPlatform) (fault : Option Err) :
    (s.failTasks env platform channelId fault).Sound rows ids hasChannel := by
  have hqueue := h.setQueue channelId [] [] (nil_subset _) (by simp) (by simp [hchannel])
  rw [append_nil] at hqueue
  apply hqueue.foldl_onTask
  intro id hid
  obtain ⟨u, hu, hlookup⟩ := mem_filterMap.mp hid
  rw [h.index] at hlookup
  have hasked : u ∈ (ofRows rows ids).taskIds channelId := by
    rw [← h.index]
    exact h.queued channelId hu
  rw [channelId_of_lookup hnodup hlookup hasked]
  exact .inr hchannel

theorem pollVideo (hchannel : hasChannel channelId = true) (e : TaskEvent Unit) :
    (s.pollVideo env channelId e).Sound rows ids hasChannel := by
  unfold Pass.pollVideo
  rcases hqueue : s.queues channelId with _ | ⟨taskId, rest⟩
  · exact h
  obtain ⟨id, hlookup⟩ : ∃ id, s.index.taskM.lookup taskId = some id := by
    apply lookup_of_mem_queues h
    rw [hqueue]
    exact mem_cons_self
  dsimp only
  rw [hlookup]
  -- The request names the id of the task, which is the one that was looked up.
  have hid : (s.mem id).getUpstreamTaskId = taskId := by
    rw [Task.getUpstreamTaskId_of_origin (h.same id).2]
    rw [h.index] at hlookup
    exact (of_lookup_ofRows hlookup).2.1
  dsimp only
  rw [hid]
  have hset := h.setQueue channelId rest [⟨channelId, taskId, id⟩]
    (by rw [hqueue]; exact subset_cons_self _ _) (by simpa using ⟨hlookup, hchannel⟩)
    (by intro _; exact hqueue)
  have hupdate := hset.addUpdate (p := ⟨channelId, taskId, id⟩) (by simp)
  exact hupdate.onTask [e] (Or.inl ⟨⟨channelId, taskId, id⟩, by simp, rfl⟩)

theorem foldl_sunoItem {answers : List SunoAnswer}
    (hanswers : ∀ a ∈ answers, ∀ id ∈ s.index.taskM.lookup a.taskId,
      (⟨channelId, a.taskId, id⟩ : Poll) ∈ s.polls) :
    (answers.foldl (sunoItem env channelId) s).Sound rows ids hasChannel := by
  induction answers generalizing s with
  | nil => exact h
  | cons a answers ih =>
    have hrest : ∀ a' ∈ answers, ∀ id ∈ s.index.taskM.lookup a'.taskId,
        (⟨channelId, a'.taskId, id⟩ : Poll) ∈ s.polls := by
      intro a' ha'
      exact hanswers a' (mem_cons_of_mem _ ha')
    rw [foldl_cons]
    cases hlookup : s.index.taskM.lookup a.taskId with
    | none =>
      have hskip : sunoItem env channelId s a = s := by
        unfold sunoItem
        rw [hlookup]
      rw [hskip]
      exact ih h hrest
    | some id =>
      have hitem : sunoItem env channelId s a =
          ({ s with updates := s.updates ++ [⟨channelId, a.taskId, id⟩] } : Pass).onTask env
            [.suno () a.item a.f, .sunoUpdate () a.fault] id := by
        unfold sunoItem
        rw [hlookup]
      rw [hitem]
      have hupdate := h.addUpdate (hanswers a mem_cons_self id hlookup)
      apply ih (hupdate.onTask _ (Or.inl ⟨⟨channelId, a.taskId, id⟩, by simp, rfl⟩))
      exact hrest

theorem pollSuno (hchannel : hasChannel channelId = true) {answers : List SunoAnswer}
    (hanswers : ∀ a ∈ answers, (s.index.taskM.lookup a.taskId).isSome →
      a.taskId ∈ s.queues channelId) :
    (s.pollSuno env channelId answers).Sound rows ids hasChannel := by
  let asked := (s.queues channelId).filterMap fun u =>
    (s.index.taskM.lookup u).map fun id => (⟨channelId, u, id⟩ : Poll)
  have hmem : ∀ p, p ∈ asked ↔ p.channelId = channelId ∧ p.upstreamId ∈ s.queues channelId ∧
      s.index.taskM.lookup p.upstreamId = some p.id := by
    rintro ⟨c, u, id⟩
    simp only [asked, mem_filterMap, Option.map_eq_some_iff, Poll.mk.injEq]
    constructor
    · rintro ⟨u', hu', _, hid', rfl, rfl, rfl⟩
      exact ⟨rfl, hu', hid'⟩
    · rintro ⟨rfl, hu, hid⟩
      exact ⟨u, hu, id, hid, rfl, rfl, rfl⟩
  have hmap : asked.map Poll.upstreamId = s.queues channelId := by
    rw [map_filterMap]
    refine Eq.trans ?_ filterMap_some
    apply filterMap_congr
    intro u hu
    obtain ⟨id, hid⟩ := h.lookup_of_mem_queues hu
    rw [hid]
    rfl
  have hset := h.setQueue channelId [] asked (nil_subset _)
    (fun p hp => ⟨((hmem p).mp hp).1, ((hmem p).mp hp).2.2, hchannel⟩)
    (fun _ => by rw [hmap, append_nil])
  apply hset.foldl_sunoItem
  intro a ha id hid
  apply mem_append_right
  exact (hmem _).mpr ⟨rfl, hanswers a ha (Option.isSome_of_eq_some hid), hid⟩

end Sound

/-- A Suno channel answers about no task but those it is asked for. -/
def AnswersAsked (s : Pass) : PassEvent → Prop
  | .suno channelId answers => ∀ a ∈ answers, (s.index.taskM.lookup a.taskId).isSome →
      a.taskId ∈ s.queues channelId
  | _ => True

instance (s : Pass) : ∀ e : PassEvent, Decidable (s.AnswersAsked e)
  | .suno _ _ => decidableBAll _ _
  | .failNull _ | .failChannel .. | .video .. => instDecidableTrue

/-- **One step of a pass over tasks that share no id.** -/
theorem Sound.step (h : s.Sound rows ids hasChannel) (hnodup : (upstreamIds rows ids).Nodup)
    (platform : TaskPlatform) {e : PassEvent} (he : s.AnswersAsked e) :
    (s.step env platform hasChannel e).Sound rows ids hasChannel := by
  unfold Pass.step
  cases e with
  | failNull =>
    apply h.foldl_onTask
    intro id hid
    rw [h.index] at hid
    exact .inl (of_mem_nullTaskIds hid)
  | failChannel _ fault =>
    dsimp only
    split_ifs with hchannel
    · exact h
    · exact h.failTasks hnodup (Bool.eq_false_iff.mpr hchannel) platform fault
  | video channelId answer now fault f =>
    dsimp only
    split
    · rename_i hchannel
      exact h.pollVideo hchannel _
    · exact h
  | suno channelId answers =>
    dsimp only
    split
    · rename_i hchannel
      split_ifs
      · exact h
      · exact h.pollSuno hchannel he
    · exact h

theorem Sound.poll_eq (h : s.Sound rows ids hasChannel) (hnodup : (upstreamIds rows ids).Nodup)
    (hp : p ∈ s.polls) : p.channelId = (rows p.id).channelId ∧
      p.upstreamId = (rows p.id).getUpstreamTaskId := by
  have hlookup := (h.found p hp).1
  have hasked := h.mem_taskIds hp
  rw [h.index] at hlookup hasked
  exact ⟨(channelId_of_lookup hnodup hlookup hasked).symm, (of_lookup_ofRows hlookup).2.1.symm⟩

theorem Sound.countP_polls (h : s.Sound rows ids hasChannel) (hnodup : (upstreamIds rows ids).Nodup)
    (hid : id ∈ ids) (hnamed : (rows id).getUpstreamTaskId ≠ "")
    (hchannel : hasChannel (rows id).channelId = true)
    (hfinished : s.queues (rows id).channelId = []) :
    s.polls.countP (·.id = id) = 1 := by
  have hcount := count_taskIds hnodup hid hnamed
  have hasked := h.asked _ hchannel
  rw [hfinished, append_nil, h.index] at hasked
  rw [← hcount, hasked, count, countP_map, countP_filter]
  apply countP_congr
  intro p hp
  obtain ⟨hown, hupstream⟩ := h.poll_eq hnodup hp
  simp only [decide_eq_true_eq, comp_apply, Bool.and_eq_true, beq_iff_eq]
  constructor
  · rintro rfl
    exact ⟨hupstream, hown⟩
  rintro ⟨heq, -⟩
  have hlookup := (h.found p hp).1
  rw [h.index] at hlookup
  apply eq_of_upstreamId_eq hnodup (of_lookup_ofRows hlookup).1 hid
  · rw [← hupstream, heq]
    exact hnamed
  · rw [← hupstream, heq]

end Pass

/-- **Answers reach the task they are about**, if no two of the tasks share an id at their
upstreams, and a Suno channel answers about no task but those it is asked for. -/
theorem pollingPass_reachesTask (env : TaskEnv) {platform : TaskPlatform}
    (hplatform : platform ≠ .midjourney) (hasChannel : ℤ → Bool) {rows : ℤ → Task}
    {allTasks : List ℤ} (billing : Store)
    (hnodup : (upstreamIds rows (platformTask rows allTasks platform)).Nodup)
    {es : List PassEvent}
    (hanswers : Guarded (step env platform hasChannel) Pass.AnswersAsked
      (.start platform rows allTasks billing) es) :
    let s := es.foldl (step env platform hasChannel) (.start platform rows allTasks billing)
    (∀ u ∈ s.updates, u.channelId = (rows u.id).channelId ∧
      u.upstreamId = (rows u.id).getUpstreamTaskId) ∧
      ∀ id ∈ platformTask rows allTasks platform, (rows id).getUpstreamTaskId ≠ "" →
        hasChannel (rows id).channelId = true →
          ((∀ u ∈ s.updates, u.id ≠ id) → s.rows id = rows id ∧ s.mem id = rows id) ∧
            (s.queues (rows id).channelId = [] → s.polls.countP (·.id = id) = 1) := by
  intro s
  have hsound : s.Sound rows (platformTask rows allTasks platform) hasChannel :=
    Guarded.invariant (fun t e ht he => ht.step hnodup platform he)
      (Pass.Sound.start platform rows allTasks billing hplatform) hanswers
  constructor
  · intro u hu
    exact hsound.poll_eq hnodup (hsound.updated hu)
  intro id hid hnamed hchannel
  refine ⟨hsound.untouched id hnamed hchannel, ?_⟩
  intro hfinished
  exact hsound.countP_polls hnodup hid hnamed hchannel hfinished

def Pass.sampleRows (upstreamId₁ upstreamId₂ : String) (id : ℤ) : Task :=
  { Task.sample (.video "50") with
    channelId := id
    upstreamTaskId := if id = 1 then upstreamId₁ else upstreamId₂ }

def PassEvent.sample : List PassEvent :=
  [.video 1 (.ofStatus .success) 0 none {}, .video 2 (.ofStatus .failure) 0 none {}]

theorem pollingPass_reachesTask_of_two : let rows := sampleRows "x" "y"
    let s := sample.foldl (step .sample (.video "50") fun _ => true)
      (.start (.video "50") rows [1, 2] Store.empty)
    (∀ u ∈ s.updates, u.channelId = (rows u.id).channelId ∧
      u.upstreamId = (rows u.id).getUpstreamTaskId) ∧
      s.polls.countP (·.id = 1) = 1 ∧ (s.rows 1).status = .success ∧
        (s.rows 2).status = .failure := by
  intro rows s
  have hnodup : (upstreamIds rows (platformTask rows [1, 2] (.video "50"))).Nodup := by
    decide +kernel
  have hanswers : Guarded (step .sample (.video "50") fun _ => true) Pass.AnswersAsked
      (.start (.video "50") rows [1, 2] Store.empty) sample := by
    decide +kernel
  have hpass := pollingPass_reachesTask .sample (by decide) (fun _ => true)
    Store.empty hnodup hanswers
  have hfirst := hpass.2 1 (by decide +kernel) (by decide +kernel) rfl
  exact ⟨hpass.1, hfirst.2 (by decide +kernel), by decide +kernel, by decide +kernel⟩

/-- Both upstreams have called their task `x`: task 2 becomes a success because channel 1 says so,
and nobody asks about task 1. -/
theorem pollingPass_mixes_tasks : let rows := sampleRows "x" "x"
    let s := sample.foldl (step .sample (.video "50") fun _ => true)
      (.start (.video "50") rows [1, 2] Store.empty)
    (⟨1, "x", 2⟩ : Poll) ∈ s.updates ∧ (rows 2).channelId = 2 ∧ s.polls.countP (·.id = 1) = 0 ∧
      s.polls.countP (·.id = 2) = 2 ∧ s.rows 1 = rows 1 ∧ (s.rows 2).status = .failure := by
  decide +kernel

end TokensFlux
