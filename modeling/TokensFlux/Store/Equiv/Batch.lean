import TokensFlux.Lib.Guarded
import TokensFlux.Store.Batch
import Mathlib.Algebra.BigOperators.Group.List.Basic
import Mathlib.Algebra.Ring.Int.Defs

/-!
# What the batch updater loses

The sum of what is stored, pending and taken is kept, except that nothing puts back the values of a
failed statement.
-/

namespace TokensFlux

open List Option Function Store BatchStores BatchStatement BatchSystem

/-! ### The maps -/

namespace BatchStores

variable (stores : BatchStores)

variable (type_ : BatchUpdateType)

theorem value_update (m : AList fun _ : ℤ => ℤ)
    (t : BatchUpdateType) (k : ℤ) :
    value (update stores type_ m) t k =
      if t = type_ then (m.lookup k).getD 0 else stores.value t k := by
  unfold value
  split_ifs with ht
  · rw [ht, update_self]
  · rw [update_of_ne ht]

theorem value_addNewRecord (id value : ℤ)
    (t : BatchUpdateType) (k : ℤ) :
    (stores.addNewRecord type_ id value).value t k =
      stores.value t k + if t = type_ ∧ k = id then value else 0 := by
  rw [addNewRecord, value_update]
  by_cases ht : t = type_
  · subst ht
    rw [if_pos rfl]
    by_cases hk : k = id
    · subst hk
      rw [if_pos ⟨rfl, rfl⟩, BatchStores.value]
      cases (stores t).lookup k with
      | none | some => simp [AList.lookup_insert]
    rw [if_neg (fun h => hk h.2), add_zero, BatchStores.value]
    cases (stores t).lookup id with
    | none | some => simp only [AList.lookup_insert_ne hk]
  · rw [if_neg ht, if_neg (fun h => ht h.1), add_zero]

theorem value_erase (id : ℤ)
    (t : BatchUpdateType) (k : ℤ) :
    (stores.erase type_ id).value t k =
      if t = type_ ∧ k = id then 0 else stores.value t k := by
  rw [erase, value_update]
  by_cases ht : t = type_
  · subst ht
    by_cases hk : k = id
    · subst hk
      simp [AList.lookup_erase]
    · simp [hk, AList.lookup_erase_ne hk, value]
  · simp [ht]

end BatchStores

/-! ### Statements -/

def Store.stored (tables : Store) : BatchUpdateType → ℤ → ℤ
  | .userQuota => tables.userQuota
  | .tokenQuota => fun id => (tables.token id).remainQuota
  | .usedQuota => tables.userUsedQuota
  | .channelUsedQuota => tables.channelUsedQuota
  | .requestCount => tables.requestCount

namespace BatchStatement

def amount : BatchStatement → BatchUpdateType → ℤ → ℤ
  | .token id quota, .tokenQuota, k => if k = id then quota else 0
  | .channel id quota, .channelUsedQuota, k => if k = id then quota else 0
  | .user id quota _ _, .userQuota, k => if k = id then quota else 0
  | .user id _ usedQuota _, .usedQuota, k => if k = id then usedQuota else 0
  | .user id _ _ requestCount, .requestCount, k => if k = id then requestCount else 0
  | _, _, _ => 0

def IsZero : BatchStatement → Prop
  | .token _ quota => quota = 0
  | .channel _ quota => quota = 0
  | .user _ quota usedQuota requestCount => quota = 0 ∧ usedQuota = 0 ∧ requestCount = 0

instance : ∀ st : BatchStatement, Decidable st.IsZero
  | .token .. | .channel .. => Int.instDecidableEq _ _
  | .user _ _ _ _ => instDecidableAnd

variable (st : BatchStatement)

theorem isZero_iff : st.IsZero ↔ ∀ t k, st.amount t k = 0 := by
  cases st with
  | token id quota =>
    constructor
    · rintro rfl t k
      cases t <;> simp [amount]
    · intro h
      show quota = 0
      simpa [amount] using h .tokenQuota id
  | channel id quota =>
    constructor
    · rintro rfl t k
      cases t <;> simp [amount]
    · intro h
      show quota = 0
      simpa [amount] using h .channelUsedQuota id
  | user id _ usedQuota requestCount =>
    constructor
    · rintro ⟨rfl, rfl, rfl⟩ t k
      cases t <;> simp [amount]
    intro h
    refine ⟨?_, ?_, ?_⟩
    · simpa [amount] using h .userQuota id
    · simpa [amount] using h .usedQuota id
    · simpa [amount] using h .requestCount id

theorem stored_exec (tables : Store) (t : BatchUpdateType) (k : ℤ) :
    (st.exec tables none).stored t k = tables.stored t k + st.amount t k := by
  have hupdate : ∀ (f : ℤ → ℤ) (id n : ℤ),
      update f id (f id + n) k = f k + if k = id then n else 0 := by
    intro f id n
    by_cases hk : k = id
    · subst hk
      simp
    · simp [hk]
  cases st with
  | token id =>
    cases t with
    | tokenQuota =>
      by_cases hk : k = id
      · subst hk
        simp [exec, addTokenQuota, stored, amount]
      · simp [exec, addTokenQuota, stored, amount, hk]
    | _ => simp [exec, addTokenQuota, stored, amount]
  | channel id quota =>
    cases t with
    | channelUsedQuota => exact hupdate tables.channelUsedQuota id quota
    | _ => simp [exec, addChannelUsedQuota, stored, amount]
  | user id quota usedQuota requestCount =>
    unfold exec updateUserQuotaUsedQuotaAndRequestCount
    dsimp only
    split_ifs with hzero
    · rw [(isZero_iff (.user id quota usedQuota requestCount)).mp hzero, add_zero]
    cases t with
    | userQuota => exact hupdate tables.userQuota id quota
    | usedQuota => exact hupdate tables.userUsedQuota id usedQuota
    | requestCount => exact hupdate tables.requestCount id requestCount
    | _ => simp [stored, amount]

theorem exec_of_fault (tables : Store) (e : Err) : st.exec tables (some e) = tables := by
  cases st with
  | token | channel => rfl
  | user =>
    unfold exec updateUserQuotaUsedQuotaAndRequestCount
    dsimp only
    split_ifs <;> rfl

theorem value_rest {stores : BatchStores} {id : ℤ} {st : BatchStatement}
    (h : next stores id = some st) (t : BatchUpdateType) (k : ℤ) :
    (st.rest stores).value t k = stores.value t k - st.amount t k := by
  unfold next at h
  split_ifs at h
  · obtain ⟨quota, hquota, rfl⟩ := map_eq_some_iff.mp h
    rw [rest, value_erase]
    split_ifs with hentry
    · obtain ⟨rfl, rfl⟩ := hentry
      simp [amount, value, hquota]
    · cases t <;> simp_all [amount]
  · obtain ⟨quota, hquota, rfl⟩ := map_eq_some_iff.mp h
    rw [rest, value_erase]
    split_ifs with hentry
    · obtain ⟨rfl, rfl⟩ := hentry
      simp [amount, value, hquota]
    · cases t <;> simp_all [amount]
  cases h
  rw [rest, value_erase, value_erase, value_erase]
  by_cases hk : k = id
  · subst hk
    cases t <;> simp [amount]
  · cases t <;> simp [amount, hk]

end BatchStatement

/-! ### Steps of a run -/

namespace BatchRun

def held : BatchRun → BatchUpdateType → ℤ → ℤ
  | .checking _ => fun _ _ => 0
  | .swapping _ stores => stores.value
  | .writing stores => stores.value
  | .finished => fun _ _ => 0

def WellFormed : BatchRun → Prop
  | .swapping types stores => types.Nodup ∧ ∀ t ∈ types, stores t = ∅
  | _ => True

def Succeeds (id : ℤ) (fault : Option Err) : BatchRun → Prop
  | .writing stores => fault = none ∨ ∀ st ∈ next stores id, st.IsZero
  | _ => True

instance (id : ℤ) (fault : Option Err) : ∀ run : BatchRun, Decidable (run.Succeeds id fault)
  | .writing _ => @instDecidableOr _ _ _ (decidableForallMem _)
  | .checking _ | .swapping .. | .finished => instDecidableTrue

theorem WellFormed.advance {run : BatchRun} (h : run.WellFormed) (tables : Store)
    (stores : BatchStores) (id : ℤ) (fault : Option Err) :
    (BatchSystem.advance tables stores id fault run).2.2.WellFormed := by
  cases run with
  | checking types =>
    obtain _ | _ := types
    · trivial
    rw [BatchSystem.advance]
    split_ifs
    · exact ⟨by decide, fun _ _ => rfl⟩
    · trivial
  | swapping types =>
    obtain _ | ⟨type_, _⟩ := types
    · trivial
    obtain ⟨hnodup, hempty⟩ := h
    rw [nodup_cons] at hnodup
    refine ⟨hnodup.2, ?_⟩
    intro t ht
    have hne : t ≠ type_ := by
      rintro rfl
      exact hnodup.1 ht
    rw [update_of_ne hne]
    exact hempty t (mem_cons_of_mem _ ht)
  | writing =>
    rw [BatchSystem.advance]
    split <;> trivial
  | finished => trivial

/-- The amounts of a statement that fails. -/
def lost (id : ℤ) (fault : Option Err) (run : BatchRun) (t : BatchUpdateType) (k : ℤ) : ℤ :=
  match fault, run with
  | some _, .writing stores =>
    match next stores id with
    | none => 0
    | some st => st.amount t k
  | _, _ => 0

theorem lost_eq_zero_iff (id : ℤ) (fault : Option Err) (run : BatchRun) :
    (∀ t k, run.lost id fault t k = 0) ↔ run.Succeeds id fault := by
  cases run with
  | writing stores =>
    cases fault with
    | none => exact iff_of_true (fun _ _ => rfl) (Or.inl rfl)
    | some =>
      cases hnext : next stores id with
      | none => simp [lost, Succeeds, hnext]
      | some st => simp [lost, Succeeds, hnext, st.isZero_iff]
  | _ => cases fault <;> exact iff_of_true (fun _ _ => rfl) trivial

theorem advance_sum {run : BatchRun} (h : run.WellFormed) (tables : Store) (stores : BatchStores)
    (id : ℤ) (fault : Option Err) (t : BatchUpdateType) (k : ℤ) :
    (advance tables stores id fault run).1.stored t k +
        (advance tables stores id fault run).2.1.value t k +
        (advance tables stores id fault run).2.2.held t k =
      tables.stored t k + stores.value t k + run.held t k - run.lost id fault t k := by
  cases run with
  | checking types =>
    have hlost : (checking types).lost id fault t k = 0 := by cases fault <;> rfl
    rw [hlost, sub_zero]
    cases types with
    | nil => rfl
    | cons =>
      rw [advance]
      split_ifs <;> rfl
  | swapping types taken =>
    have hlost : (swapping types taken).lost id fault t k = 0 := by cases fault <;> rfl
    rw [hlost, sub_zero]
    obtain _ | ⟨type_, _⟩ := types
    · rfl
    have hempty : taken type_ = ∅ := h.2 type_ mem_cons_self
    simp only [advance, held, value_update]
    split_ifs with ht
    · subst ht
      simp [value, hempty]
    · rfl
  | finished =>
    have hlost : finished.lost id fault t k = 0 := by cases fault <;> rfl
    rw [hlost, sub_zero]
    rfl
  | writing taken =>
    rcases hnext : next taken id with _ | st
    · cases fault <;> simp [advance, lost, hnext]
    have hrest := value_rest hnext t k
    cases fault with
    | none =>
      simp only [advance, hnext, held, hrest, lost, st.stored_exec]
      omega
    | some =>
      -- The values have left the maps, and the tables have not changed.
      simp only [advance, hnext, held, hrest, lost, st.exec_of_fault]
      omega

end BatchRun

/-! ### Whole runs -/

namespace BatchSystem

variable (s : BatchSystem)

/-- With what waits in the maps and what the runs have taken out of them. -/
def total (t : BatchUpdateType) (k : ℤ) : ℤ :=
  s.tables.stored t k + s.stores.value t k + (s.runs.map fun run => run.held t k).sum

def Conserves (base : BatchUpdateType → ℤ → ℤ) (s : BatchSystem) : Prop :=
  ∀ t k, s.total t k = base t k + s.recorded t k

def WellFormed : Prop := ∀ run ∈ s.runs, run.WellFormed

/-- A statement that fails would have added zero. -/
def LosesNothing : BatchEvent → Prop
  | .advance i id fault => ∀ run ∈ s.runs[i]?, run.Succeeds id fault
  | _ => True

instance (s : BatchSystem) : ∀ e : BatchEvent, Decidable (s.LosesNothing e)
  | .advance _ _ _ => decidableForallMem _
  | .record .. | .start => instDecidableTrue

/-- The maps that a run has yet to swap are empty in it. -/
theorem WellFormed.step {s : BatchSystem} (h : s.WellFormed) (e : BatchEvent) :
    (s.step e).WellFormed := by
  cases e with
  | record => exact h
  | start =>
    intro run hrun
    rcases mem_append.mp hrun with hrun | hrun
    · exact h run hrun
    · rw [mem_singleton.mp hrun]
      trivial
  | advance i id fault =>
    rw [BatchSystem.step]
    split
    · exact h
    rename_i run hrun
    intro run' hrun'
    rcases mem_or_eq_of_mem_set hrun' with hrun' | rfl
    · exact h run' hrun'
    · exact (h run (mem_of_getElem? hrun)).advance _ _ _ _

theorem sum_held_set {runs : List BatchRun} {i : ℕ} {run : BatchRun} (h : runs[i]? = some run)
    (run' : BatchRun) (t : BatchUpdateType) (k : ℤ) :
    ((runs.set i run').map fun run => run.held t k).sum =
      (runs.map fun run => run.held t k).sum - run.held t k + run'.held t k := by
  obtain ⟨hi, rfl⟩ := List.getElem?_eq_some_iff.mp h
  rw [map_set, sum_set', dif_pos (by simpa using hi)]
  simp only [getElem_map]
  omega

/-- **A step keeps the law exactly when it loses nothing.** -/
theorem conserves_step {base : BatchUpdateType → ℤ → ℤ} {s : BatchSystem} (hwf : s.WellFormed)
    (h : s.Conserves base) (e : BatchEvent) : (s.step e).Conserves base ↔ s.LosesNothing e := by
  cases e with
  | record =>
    refine iff_of_true ?_ trivial
    intro t k
    have htotal := h t k
    simp only [total, step, value_addNewRecord] at htotal ⊢
    split_ifs <;> omega
  | start =>
    refine iff_of_true ?_ trivial
    intro t k
    have htotal := h t k
    simp only [total, step, map_append, sum_append, map_cons, map_nil, sum_cons, sum_nil,
      BatchRun.held] at htotal ⊢
    omega
  | advance i id fault =>
    rw [step]
    rcases hrun : s.runs[i]? with _ | run
    · refine iff_of_true h ?_
      simp [LosesNothing, hrun]
    have hsum := BatchRun.advance_sum (hwf run (mem_of_getElem? hrun)) s.tables s.stores id fault
    simp only [LosesNothing, hrun, mem_some_iff, forall_eq', ← run.lost_eq_zero_iff]
    generalize BatchSystem.advance s.tables s.stores id fault run = next at hsum ⊢
    obtain ⟨_, _, _⟩ := next
    simp only [Conserves, total, sum_held_set hrun]
    apply forall₂_congr
    intro t k
    have hbefore := h t k
    have hafter := hsum t k
    rw [total] at hbefore
    dsimp only at hafter
    constructor <;> intro _ <;> omega

def init (tables : Store) (stores : BatchStores) : BatchSystem := { tables, stores }

end BatchSystem

/-- **When the batch updater loses nothing**: exactly if every statement that fails would have added
zero. -/
theorem batchUpdate_conserves_iff (tables : Store) (stores : BatchStores) (es : List BatchEvent) :
    Guarded step BatchSystem.LosesNothing (.init tables stores) es ↔
      ∀ es', es' <+: es → ∀ t k,
        (es'.foldl step (.init tables stores)).total t k =
          tables.stored t k + stores.value t k +
            (es'.foldl step (.init tables stores)).recorded t k := by
  let base : BatchUpdateType → ℤ → ℤ := fun t k => tables.stored t k + stores.value t k
  have hstep : ∀ (s : BatchSystem) (e : BatchEvent), s.WellFormed ∧ s.Conserves base →
      ((s.step e).WellFormed ∧ (s.step e).Conserves base ↔ s.LosesNothing e) := by
    rintro s e ⟨hwf, hlaw⟩
    rw [← conserves_step hwf hlaw e]
    exact and_iff_right (hwf.step e)
  have hwf : ∀ es' : List BatchEvent, (es'.foldl step (.init tables stores)).WellFormed := by
    intro es'
    apply Guarded.invariant_of_step (fun s e hs => hs.step e)
    intro run hrun
    cases hrun
  have hinit : (init tables stores).Conserves base := by
    intro t k
    simp [total, init, base]
  have hinitWf : (init tables stores).WellFormed := hwf []
  rw [Guarded.iff_forall_prefix hstep ⟨hinitWf, hinit⟩]
  apply forall_congr'
  intro es'
  apply imp_congr_right
  intro _
  exact and_iff_right (hwf es')

def BatchEvent.sample (fault : Option Err) : List BatchEvent :=
  [.record .tokenQuota 7 (-10), .start, .advance 0 0 none, .advance 0 0 none, .advance 0 0 none,
    .advance 0 0 none, .advance 0 0 none, .advance 0 0 none, .advance 0 0 none, .advance 0 0 none,
    .advance 0 7 fault]

example : ((BatchEvent.sample none).foldl step (.init .empty .empty)).tables.stored
    .tokenQuota 7 = -10 := by
  decide +kernel

/-- The statement for the token fails: the 10 are neither stored nor pending. -/
theorem batchUpdate_loses_failed :
    let s := (BatchEvent.sample (some "database is locked")).foldl step
      (.init .empty .empty)
    s.total .tokenQuota 7 = 0 ∧ s.recorded .tokenQuota 7 = -10 := by
  decide +kernel

end TokensFlux
