import TokensFlux.Lib.Guarded
import TokensFlux.Lib.Window
import TokensFlux.RateLimit.Basic

/-!
# What the rate limiters bound

The handler with Redis counts successful requests (`redis_accepts`).  The one in memory counts all
it has accepted, takes the limit 0 for 1 (`Tracks.request`), and a pass of `clearExpiredItems` makes
it forget them (`Tracks.dropExpired`). Main results: `slidingWindow_iff` and
`alike_iff_remembersSuccesses`.
-/

namespace TokensFlux

open List

/-! ### The queue of a key -/

namespace InMemoryRateLimiter

variable {l : InMemoryRateLimiter} {key key' : String} {n : ℕ} {d now : ℤ} {times : List ℤ}

def kept (l : InMemoryRateLimiter) (key : String) : List ℤ :=
  ((l.store key).getD []).reverse

/-- A limit of 0 is one of 1. -/
structure Tracks (l : InMemoryRateLimiter) (key : String) (n : ℕ) (d now : ℤ)
    (times : List ℤ) : Prop where
  remembers : Remembers (max 1 n) d now (l.kept key) times
  nonempty : l.store key ≠ some []

theorem request_of_ne (hne : key' ≠ key) : (l.request key n d now).1.store key' = l.store key' := by
  unfold request
  split
  · split_ifs <;> simp [put, hne]
  · simp [put, hne]

theorem expirationDuration_request :
    (l.request key n d now).1.expirationDuration = l.expirationDuration := by
  unfold request
  split
  · split_ifs <;> rfl
  · rfl

theorem request_of_some {q : ℤ} {qs : List ℤ} (h : l.store key = some (q :: qs)) :
    l.request key n d now =
      if qs.length + 1 < n then (l.put key (q :: qs ++ [now]), true)
      else if now - q ≥ d then (l.put key (qs ++ [now]), true)
      else (l, false) := by
  rw [request, h]
  rfl

theorem Tracks.congr {l' : InMemoryRateLimiter} (h : Tracks l key n d now times)
    (heq : l'.store key = l.store key) :
    Tracks l' key n d now times :=
  ⟨by rw [kept, heq]; exact h.remembers, heq ▸ h.nonempty⟩

theorem Tracks.put {queue : List ℤ} (h : Tracks l key n d now times)
    (hqueue : queue.reverse = (now :: l.kept key).take (max 1 n)) :
    Tracks (l.put key queue) key n d now (now :: times) := by
  have hpush := h.remembers.push (by omega)
  refine ⟨by simpa [kept, InMemoryRateLimiter.put, hqueue] using hpush, ?_⟩
  intro hnil
  have hempty : queue = [] := by simpa [InMemoryRateLimiter.put] using hnil
  rw [hempty, reverse_nil, show max 1 n = n - 1 + 1 by omega, take_succ_cons] at hqueue
  exact cons_ne_nil _ _ hqueue.symm

/-- **One request** is accepted exactly if fewer than the limit are recent, and is then remembered.
-/
theorem Tracks.request (h : Tracks l key n d now times) :
    (l.request key n d now).2 = decide (recent d now times < max 1 n) ∧
      Tracks (l.request key n d now).1 key n d now
        (if recent d now times < max 1 n then now :: times else times) := by
  have hdecide := h.remembers.le_recent_iff (by omega)
  have hlength := h.remembers.length_le
  cases hstore : l.store key with
  | none =>
    have hkept : l.kept key = [] := by simp [kept, hstore]
    rw [hkept, length_nil] at hdecide
    have hlt : recent d now times < max 1 n := by omega
    rw [if_pos hlt, InMemoryRateLimiter.request, hstore]
    exact ⟨(decide_eq_true hlt).symm, h.put (by rw [hkept, take_of_length_le (by simp)]; rfl)⟩
  | some queue =>
    obtain ⟨q, qs, rfl⟩ := exists_cons_of_ne_nil fun hnil : queue = [] => h.nonempty (hnil ▸ hstore)
    have hkept : l.kept key = qs.reverse ++ [q] := by simp [kept, hstore]
    have hlast : (qs.reverse ++ [q]).getLastD 0 = q := by simp
    have hsize : (qs.reverse ++ [q]).length = qs.length + 1 := by simp
    rw [hkept, hsize] at hlength
    rw [hkept, hsize, hlast] at hdecide
    rw [request_of_some hstore]
    by_cases hshort : qs.length + 1 < n
    · have hlt : recent d now times < max 1 n := by omega
      rw [if_pos hshort, if_pos hlt]
      refine ⟨(decide_eq_true hlt).symm, h.put ?_⟩
      rw [hkept, take_of_length_le (by simp; omega)]
      simp
    rw [if_neg hshort]
    by_cases hold : now - q ≥ d
    · have hlt : recent d now times < max 1 n := by omega
      rw [if_pos hold, if_pos hlt]
      refine ⟨(decide_eq_true hlt).symm, h.put ?_⟩
      rw [hkept, show max 1 n = qs.length + 1 by omega]
      simp
    · have hle : ¬recent d now times < max 1 n := by omega
      rw [if_neg hold, if_neg hle]
      exact ⟨(decide_eq_false hle).symm, h⟩

theorem store_clearExpiredItems (hpos : l.expirationDuration > 0) {queue : List ℤ}
    (hstore : l.store key = some queue) :
    (l.clearExpiredItems now).store key =
      if queue.length = 0 ∨ now - queue.getLastD 0 > l.expirationDuration then none
        else some queue := by
  unfold clearExpiredItems
  rw [if_pos hpos]
  show Option.filter _ (l.store key) = _
  rw [hstore, Option.filter_some]
  by_cases hold : queue.length = 0 ∨ now - queue.getLastD 0 > l.expirationDuration
  · rw [if_pos hold, if_neg (by rw [decide_eq_true_eq, not_not]; exact hold)]
  · rw [if_neg hold, if_pos (by simpa using hold)]

/-- What a pass leaves of the times, newest first. -/
def dropExpired (expiration now : ℤ) (times : List ℤ) : List ℤ :=
  if 0 < expiration ∧ ∀ newest ∈ times.head?, expiration < now - newest then [] else times

/-- **One pass** forgets all times of a key or none. -/
theorem Tracks.dropExpired (h : Tracks l key n d now times) :
    Tracks (l.clearExpiredItems now) key n d now (dropExpired l.expirationDuration now times) := by
  unfold InMemoryRateLimiter.dropExpired
  by_cases hpos : 0 < l.expirationDuration
  swap
  · rw [if_neg fun hdrop => hpos hdrop.1]
    exact h.congr (by rw [InMemoryRateLimiter.clearExpiredItems, if_neg hpos])
  have hnone (hcleared : (l.clearExpiredItems now).store key = none) :
      Tracks (l.clearExpiredItems now) key n d now [] := by
    refine ⟨?_, by simp [hcleared]⟩
    rw [kept, hcleared]
    exact .nil _ d now
  cases hstore : l.store key with
  | none =>
    have hcleared : (l.clearExpiredItems now).store key = none := by
      simp [InMemoryRateLimiter.clearExpiredItems, hstore, hpos]
    split_ifs
    · exact hnone hcleared
    · exact h.congr (hcleared.trans hstore.symm)
  | some queue =>
    obtain ⟨older, newest, rfl⟩ :=
      (eq_nil_or_concat queue).resolve_left fun hnil => h.nonempty (hnil ▸ hstore)
    obtain ⟨_, htimes, -⟩ := h.remembers.eq_append
    have hhead : times.head? = some newest := by
      rw [htimes]
      simp [kept, hstore]
    have hcleared : (l.clearExpiredItems now).store key = _ := store_clearExpiredItems hpos hstore
    rw [hhead]
    by_cases hold : l.expirationDuration < now - newest
    · rw [if_pos ⟨hpos, by simpa using hold⟩]
      exact hnone (by rw [hcleared, if_pos (.inr (by simpa using hold))])
    · rw [if_neg fun hdrop => hold (by simpa using hdrop.2)]
      exact h.congr (by rw [hcleared, if_neg (by simpa using hold), hstore])

theorem lt_of_head_old {expiration : ℤ} (hsorted : times.Pairwise (· ≥ ·))
    (hold : ∀ newest ∈ times.head?, expiration < now - newest) :
    ∀ t ∈ times, expiration < now - t := by
  intro t ht
  cases times with
  | nil => cases ht
  | cons newest times =>
    have hnewest := hold newest rfl
    rcases mem_cons.mp ht with rfl | ht
    · exact hnewest
    · have hle := (pairwise_cons.mp hsorted).1 t ht
      omega

/-- If times expire soon enough, a pass forgets none that is recent, now or later. -/
theorem recent_dropExpired {expiration later : ℤ} (hd : expiration ≤ 0 ∨ d ≤ expiration + 1)
    (hsorted : times.Pairwise (· ≥ ·)) (hle : now ≤ later) :
    recent d later (dropExpired expiration now times) = recent d later times := by
  unfold dropExpired
  split_ifs with hdrop
  · refine (countP_eq_zero.mpr ?_).symm
    intro t ht
    have hold := lt_of_head_old hsorted hdrop.2 t ht
    simp only [decide_eq_true_eq]
    omega
  · rfl

theorem Tracks.clearExpiredItems (h : Tracks l key n d now times)
    (hd : l.expirationDuration ≤ 0 ∨ d ≤ l.expirationDuration + 1) :
    Tracks (l.clearExpiredItems now) key n d now times := by
  have hpass := h.dropExpired
  unfold InMemoryRateLimiter.dropExpired at hpass
  split_ifs at hpass with hdrop
  · have hkept : (l.clearExpiredItems now).kept key = [] := by
      obtain ⟨_, hnil, -⟩ := hpass.remembers.eq_append
      exact (append_eq_nil_iff.mp hnil.symm).1
    refine ⟨?_, hpass.nonempty⟩
    rw [hkept]
    apply h.remembers.forget (by omega)
    intro t ht
    obtain ⟨_, htimes, -⟩ := h.remembers.eq_append
    have hold := lt_of_head_old h.remembers.sorted hdrop.2 t (htimes ▸ mem_append_left _ ht)
    omega
  · exact hpass

theorem expirationDuration_clearExpiredItems :
    (l.clearExpiredItems now).expirationDuration = l.expirationDuration := by
  unfold clearExpiredItems
  split_ifs <;> rfl

end InMemoryRateLimiter

/-! ### The sliding window -/

inductive LimiterEvent
  | request (now : ℤ) (key : String) (maxRequestNum : ℕ) (duration : ℤ)
  | clear (now : ℤ)

def LimiterEvent.time : LimiterEvent → ℤ
  | .request now _ _ _ => now
  | .clear now => now

def LimiterEvent.Uses (key : String) (n : ℕ) (d : ℤ) : LimiterEvent → Prop
  | .request _ key' n' d' => key' = key → n' = n ∧ d' = d
  | .clear _ => True

/-- With the times at which requests for one key were accepted, newest first. -/
structure LimiterRun where
  limiter : InMemoryRateLimiter
  accepted : List ℤ := []

namespace LimiterRun

variable {key : String} {n : ℕ} {d now expiration : ℤ} {s : LimiterRun}

def step (key : String) (s : LimiterRun) : LimiterEvent → LimiterRun
  | .request now key' maxRequestNum duration =>
    let (limiter, ok) := s.limiter.request key' maxRequestNum duration now
    ⟨limiter, if key' = key ∧ ok then now :: s.accepted else s.accepted⟩
  | .clear now => { s with limiter := s.limiter.clearExpiredItems now }

structure Inv (key : String) (n : ℕ) (d expiration now : ℤ) (s : LimiterRun) : Prop where
  tracks : s.limiter.Tracks key n d now s.accepted
  spaced : Spaced n d s.accepted
  expires : s.limiter.expirationDuration = expiration

theorem Inv.step {e : LimiterEvent} (h : Inv key n d expiration now s) (hn : 0 < n)
    (hd : expiration ≤ 0 ∨ d ≤ expiration + 1) (hle : now ≤ e.time) (he : e.Uses key n d) :
    Inv key n d expiration e.time (s.step key e) := by
  have htracks : s.limiter.Tracks key n d e.time s.accepted :=
    ⟨h.tracks.remembers.mono hle, h.tracks.nonempty⟩
  cases e with
  | request now key' n' d' =>
    replace htracks : s.limiter.Tracks key n d now s.accepted := htracks
    have hexpires : (s.limiter.request key' n' d' now).1.expirationDuration = expiration :=
      InMemoryRateLimiter.expirationDuration_request.trans h.expires
    by_cases hkey : key' = key
    · obtain ⟨rfl, rfl⟩ := he hkey
      subst hkey
      obtain ⟨hok, hnew⟩ := htracks.request
      rw [show max 1 n' = n' by omega] at hok hnew
      refine ⟨?_, ?_, hexpires⟩
      · show InMemoryRateLimiter.Tracks _ _ _ _ now _
        simpa [LimiterRun.step, hok] using hnew
      simp only [LimiterRun.step, hok, true_and, decide_eq_true_eq]
      split_ifs with hlt
      · exact ⟨hlt, h.spaced⟩
      · exact h.spaced
    have hsame : (s.limiter.request key' n' d' now).1.store key = s.limiter.store key :=
      InMemoryRateLimiter.request_of_ne (Ne.symm hkey)
    have haccepted : (s.step key (.request now key' n' d')).accepted = s.accepted := by
      simp [LimiterRun.step, hkey]
    exact ⟨by rw [haccepted]; exact htracks.congr hsame,
      by rw [haccepted]; exact h.spaced, hexpires⟩
  | clear =>
    refine ⟨htracks.clearExpiredItems (h.expires ▸ hd), h.spaced, ?_⟩
    exact InMemoryRateLimiter.expirationDuration_clearExpiredItems.trans h.expires

theorem Inv.run {es : List LimiterEvent} (h : Inv key n d expiration now s) (hn : 0 < n)
    (hd : expiration ≤ 0 ∨ d ≤ expiration + 1) (hafter : ∀ e ∈ es, now ≤ e.time)
    (htimes : es.Pairwise (fun e e' => e.time ≤ e'.time)) (hes : ∀ e ∈ es, e.Uses key n d) :
    Spaced n d (es.foldl (LimiterRun.step key) s).accepted := by
  induction es generalizing now s with
  | nil => exact h.spaced
  | cons _ _ ih =>
    obtain ⟨hle, -⟩ := forall_mem_cons.mp hafter
    obtain ⟨he, hes⟩ := forall_mem_cons.mp hes
    obtain ⟨hlater, htimes⟩ := pairwise_cons.mp htimes
    exact ih (h.step hn hd hle he) hlater htimes hes

def start (expiration : ℤ) : LimiterRun :=
  ⟨⟨fun _ => none, expiration⟩, []⟩

theorem inv_start (key : String) (n : ℕ) (d expiration now : ℤ) :
    Inv key n d expiration now (start expiration) :=
  ⟨⟨.nil _ d now, by simp [start]⟩, trivial, rfl⟩

theorem exists_foldl_request (key : String) (d expiration : ℤ) {m : ℕ} (hm : m ≤ n) :
    ∃ l, (List.replicate m (LimiterEvent.request 0 key n d)).foldl (step key) (start expiration) =
        ⟨l, List.replicate m 0⟩ ∧ l.Tracks key n d 0 (List.replicate m 0) ∧
        l.expirationDuration = expiration := by
  induction m with
  | zero => exact ⟨_, rfl, (inv_start key n d expiration 0).tracks, rfl⟩
  | succ m ih =>
    obtain ⟨l, hrun, htracks, hexpires⟩ := ih (by omega)
    obtain ⟨hok, hnew⟩ := htracks.request
    have hlt : recent d 0 (List.replicate m 0) < max 1 n := by
      have hle : recent d 0 (List.replicate m 0) ≤
          (List.replicate m (0 : ℤ)).length := countP_le_length
      rw [length_replicate] at hle
      omega
    rw [if_pos hlt] at hnew
    refine ⟨(l.request key n d 0).1, ?_, hnew,
      InMemoryRateLimiter.expirationDuration_request.trans hexpires⟩
    rw [replicate_succ', foldl_concat, hrun]
    simp [step, hok, hlt, replicate_succ]

/-- **The sliding window** holds for all runs exactly if the duration is at most one second longer
than the expiration of keys. -/
theorem slidingWindow_iff {maxRequestNum : ℕ} (hmax : 0 < maxRequestNum) (key : String)
    (duration expiration : ℤ) :
    (∀ es : List LimiterEvent, es.Pairwise (fun e e' => e.time ≤ e'.time) →
      (∀ e ∈ es, e.Uses key maxRequestNum duration) → ∀ a b : ℤ, b - a < duration →
        (es.foldl (step key) (start expiration)).accepted.countP (fun t => a ≤ t ∧
          t ≤ b) ≤ maxRequestNum) ↔
      expiration ≤ 0 ∨ duration ≤ expiration + 1 := by
  constructor
  · intro h
    by_contra hnot
    -- The queue is filled at 0, deleted when it expires, and one more request is accepted.
    obtain ⟨l, hrun, htracks, _⟩ :=
      exists_foldl_request key duration expiration (le_refl maxRequestNum)
    have hcleared : (l.clearExpiredItems (expiration + 1)).store key = none := by
      rcases hstore : l.store key with _ | queue
      · unfold InMemoryRateLimiter.clearExpiredItems
        split_ifs <;> simp [hstore]
      have hzero : queue.getLastD 0 = 0 := by
        obtain ⟨_, htimes, -⟩ := htracks.remembers.eq_append
        have hkept : l.kept key = queue.reverse := by simp [InMemoryRateLimiter.kept, hstore]
        rcases eq_nil_or_concat queue with rfl | ⟨_, newest, rfl⟩
        · rfl
        · have hmem : newest ∈ List.replicate maxRequestNum (0 : ℤ) := by simp [htimes, hkept]
          simpa using eq_of_mem_replicate hmem
      rw [InMemoryRateLimiter.store_clearExpiredItems (by omega) hstore, if_pos (.inr (by omega))]
    let es : List LimiterEvent :=
      List.replicate maxRequestNum (.request 0 key maxRequestNum duration) ++
      [.clear (expiration + 1), .request (expiration + 1) key maxRequestNum duration]
    have haccepted : (es.foldl (step key) (start expiration)).accepted =
        (expiration + 1) :: List.replicate maxRequestNum 0 := by
      rw [foldl_append, hrun]
      simp [step, InMemoryRateLimiter.request, hcleared]
    have hbound := h es ?_ ?_ 0 (expiration + 1) (by omega)
    · rw [haccepted, countP_eq_length.mpr, length_cons, length_replicate] at hbound
      · omega
      · simp
        omega
    · simp [es, pairwise_append, pairwise_replicate, LimiterEvent.time]
      omega
    · simp [es, LimiterEvent.Uses, or_imp, forall_and]
  intro hd es htimes hes a b hlt
  apply Spaced.countP_le _ hlt
  cases es with
  | nil => exact trivial
  | cons e =>
    refine (inv_start key maxRequestNum duration expiration e.time).run hmax hd ?_ htimes hes
    exact forall_mem_cons.mpr ⟨le_refl e.time, (pairwise_cons.mp htimes).1⟩

theorem slidingWindow_minute :
    0 < 3 ∧ ((∀ es : List LimiterEvent, es.Pairwise (fun e e' => e.time ≤ e'.time) →
      (∀ e ∈ es, e.Uses "MRRLS1" 3 60) → ∀ a b : ℤ, b - a < 60 →
        (es.foldl (step "MRRLS1") (start rateLimitKeyExpirationDuration)).accepted.countP
          (fun t => a ≤ t ∧ t ≤ b) ≤ 3) ↔
      rateLimitKeyExpirationDuration ≤ 0 ∨ 60 ≤ rateLimitKeyExpirationDuration + 1) :=
  ⟨by decide, slidingWindow_iff (by decide) "MRRLS1" 60 rateLimitKeyExpirationDuration⟩

/-- With one request an hour, two are accepted within 1201 seconds. -/
theorem not_slidingWindow_hour :
    ¬∀ es : List LimiterEvent, es.Pairwise (fun e e' => e.time ≤ e'.time) →
      (∀ e ∈ es, e.Uses "MRRLS1" 1 3600) → ∀ a b : ℤ, b - a < 3600 →
        (es.foldl (step "MRRLS1") (start rateLimitKeyExpirationDuration)).accepted.countP
          (fun t => a ≤ t ∧ t ≤ b) ≤ 1 := by
  intro h
  have hbound := h [.request 0 "MRRLS1" 1 3600, .clear 1201, .request 1201 "MRRLS1" 1 3600]
    (by simp [LimiterEvent.time]) (by simp [LimiterEvent.Uses]) 0 1201 (by decide)
  exact absurd hbound (by decide +kernel)

end LimiterRun

/-! ### The handlers -/

section

variable {key : Option RedisList} {n : ℕ} {d now : ℤ} {times : List ℤ}

structure RedisTracks (key : Option RedisList) (n : ℕ) (d now : ℤ) (times : List ℤ) : Prop where
  remembers : Remembers n d now (redisValues key now) times
  outlives : ∀ list, key = some list → ∀ t ∈ list.values, t + d ≤ list.expireAt

theorem RedisTracks.mono {now' : ℤ} (h : RedisTracks key n d now times) (hn : 0 < n)
    (hle : now ≤ now') :
    RedisTracks key n d now' times := by
  refine ⟨?_, h.outlives⟩
  have hremembers := h.remembers.mono hle
  obtain _ | list := key
  · exact hremembers
  unfold redisValues at hremembers ⊢
  dsimp only at hremembers ⊢
  by_cases hlive : now' < list.expireAt
  · rwa [if_pos (by omega)] at hremembers ⊢
  rw [if_neg hlive]
  apply hremembers.forget hn
  split_ifs
  · exact fun t ht => (h.outlives list rfl t ht).trans (not_lt.mp hlive)
  · exact forall_mem_nil _

theorem RedisTracks.store {values : List ℤ} (h : Remembers n d now values times) (hn : 0 < n) :
    RedisTracks (some ⟨values, now + d⟩) n d now times := by
  obtain ⟨_, htimes, -⟩ := h.eq_append
  have hpast : ∀ t ∈ values, t ≤ now := fun t ht => h.past t (htimes ▸ mem_append_left _ ht)
  refine ⟨?_, ?_⟩
  · unfold redisValues
    dsimp only
    split_ifs with hlive
    · exact h
    · exact h.forget hn fun t ht => by have := hpast t ht; omega
  · rintro _ ⟨⟩ t ht
    exact Int.add_le_add_right (hpast t ht) d

def successLimitReached (n : ℕ) (d now : ℤ) (succeeded : List ℤ) : Bool :=
  0 < n && n ≤ recent d now succeeded

/-- **The handler with Redis** keeps the limit. -/
theorem redis_accepts (h : 0 < n → RedisTracks key n d now times) (succeeds : Bool) :
    (redisRateLimitHandler d n now succeeds key).2 = !successLimitReached n d now times ∧
      (0 < n → RedisTracks (redisRateLimitHandler d n now succeeds key).1 n d now
        (if !successLimitReached n d now times && succeeds then now :: times else times)) := by
  unfold redisRateLimitHandler checkRedisRateLimit successLimitReached
  rcases Nat.eq_zero_or_pos n with rfl | hn
  · simp
  have htracks := h hn
  have hdecide := htracks.remembers.le_recent_iff hn
  have hrecord : RedisTracks (recordRedisRequest n d now key) n d now (now :: times) := by
    rw [recordRedisRequest, if_neg hn.ne']
    exact .store (htracks.remembers.push hn) hn
  rw [if_neg hn.ne']
  by_cases hfull : n ≤ recent d now times
  · obtain ⟨_, hrecent⟩ := hdecide.mp hfull
    rw [if_neg (by omega), if_pos hrecent]
    simpa [hn, hfull] using RedisTracks.store htracks.remembers hn
  have hkept : (if (redisValues key now).length < n then (key, true)
      else if now - (redisValues key now).getLastD 0 < d
        then (some ⟨redisValues key now, now + d⟩, false)
      else (key, true)) = (key, true) := by
    split_ifs with hshort hrecent
    · rfl
    · exact absurd (hdecide.mpr ⟨by omega, hrecent⟩) hfull
    · rfl
  rw [hkept]
  cases succeeds <;> simp [hfull, hrecord, htracks]

theorem memory_accepts {l : InMemoryRateLimiter} {userId : String}
    (h : l.Tracks ("MRRLS" ++ userId ++ "_check") n d now times) (succeeds : Bool) :
    (memoryRateLimitHandler d n userId now succeeds l).2 = decide (recent d now times < max 1 n) ∧
      (memoryRateLimitHandler d n userId now succeeds l).1.Tracks ("MRRLS" ++
        userId ++ "_check") n d now
        (if recent d now times < max 1 n then now :: times else times) := by
  obtain ⟨hok, hnew⟩ := h.request
  have hne : "MRRLS" ++ userId ++ "_check" ≠ "MRRLS" ++ userId := by
    intro heq
    have hlength := congrArg String.length heq
    simp at hlength
  unfold memoryRateLimitHandler
  dsimp only
  rw [hok]
  by_cases hlt : recent d now times < max 1 n
  · cases succeeds with
    | false => simpa [hlt] using hnew
    | true => simpa [hlt] using hnew.congr (InMemoryRateLimiter.request_of_ne hne)
  · simpa [hlt] using hnew

end

inductive HandlersEvent
  /-- A request of the user, and whether it succeeds upstream. -/
  | request (now : ℤ) (succeeds : Bool)
  /-- A pass of `clearExpiredItems`. -/
  | clear (now : ℤ)

def HandlersEvent.time : HandlersEvent → ℤ
  | .request now _ => now
  | .clear now => now

/-- Both handlers; the requests to be accepted since the last pass that has forgotten them, and
those that succeed, newest first; and whether both have decided as they should. -/
structure HandlersRun where
  redis : Option RedisList := none
  memory : InMemoryRateLimiter
  remembered : List ℤ := []
  succeeded : List ℤ := []
  alike : Bool := true

namespace HandlersRun

variable {userId : String} {n : ℕ} {d now : ℤ} {s : HandlersRun} {e : HandlersEvent}

def step (userId : String) (n : ℕ) (d : ℤ) (s : HandlersRun) : HandlersEvent → HandlersRun
  | .request now succeeds =>
    let byRedis := redisRateLimitHandler d n now succeeds s.redis
    let byMemory := memoryRateLimitHandler d n userId now succeeds s.memory
    let ok := !successLimitReached n d now s.succeeded
    { redis := byRedis.1
      memory := byMemory.1
      remembered := if ok then now :: s.remembered else s.remembered
      succeeded := if ok && succeeds then now :: s.succeeded else s.succeeded
      alike := s.alike && byRedis.2 == ok && byMemory.2 == ok }
  | .clear now =>
    { s with
      memory := s.memory.clearExpiredItems now
      remembered := InMemoryRateLimiter.dropExpired s.memory.expirationDuration now s.remembered }

/-- The requests that the handler in memory remembers reach its limit exactly if there is a limit
and successful requests reach it. -/
def RemembersSuccesses (n : ℕ) (d : ℤ) (s : HandlersRun) : HandlersEvent → Prop
  | .request now _ => max 1 n ≤ recent d now s.remembered ↔ 0 < n ∧ n ≤ recent d now s.succeeded
  | .clear _ => True

structure Inv (userId : String) (n : ℕ) (d now : ℤ) (s : HandlersRun) : Prop where
  redis : 0 < n → RedisTracks s.redis n d now s.succeeded
  memory : s.memory.Tracks ("MRRLS" ++ userId ++ "_check") n d now s.remembered

theorem Inv.mono {now' : ℤ} (h : Inv userId n d now s) (hle : now ≤ now') : Inv userId n d now' s :=
  ⟨fun hn => (h.redis hn).mono hn hle, h.memory.remembers.mono hle, h.memory.nonempty⟩

/-- **One request**, decided alike exactly if the remembered requests stand for the successful
ones. -/
theorem Inv.request {succeeds : Bool} (h : Inv userId n d now s) :
    ((s.step userId n d (.request now succeeds)).alike = true
        ↔ s.alike = true ∧ RemembersSuccesses n d s (.request now succeeds)) ∧
      ((s.step userId n d (.request now succeeds)).alike = true →
        Inv userId n d now (s.step userId n d (.request now succeeds))) := by
  obtain ⟨hredis, hredis'⟩ := redis_accepts h.redis succeeds
  obtain ⟨hmemory, hmemory'⟩ := memory_accepts h.memory succeeds
  have hagree : (decide (recent d now s.remembered < max 1 n) =
      !successLimitReached n d now s.succeeded)
      ↔ RemembersSuccesses n d s (.request now succeeds) := by
    unfold RemembersSuccesses successLimitReached
    rw [Bool.eq_iff_iff, decide_eq_true_eq, Bool.not_eq_true', ← Bool.not_eq_true, Bool.and_eq_true,
      decide_eq_true_eq, decide_eq_true_eq, ← not_le, not_iff_not]
  have halike : (s.step userId n d (.request now succeeds)).alike = true
      ↔ s.alike = true ∧ RemembersSuccesses n d s (.request now succeeds) := by
    simp [HandlersRun.step, hredis, hmemory, ← hagree]
  refine ⟨halike, ?_⟩
  intro hboth
  have hsame := hagree.mpr (halike.mp hboth).2
  refine ⟨hredis', ?_⟩
  simp only [HandlersRun.step, ← hsame, decide_eq_true_eq]
  exact hmemory'

/-- **One event.** -/
theorem Inv.step (h : Inv userId n d now s) (hle : now ≤ e.time) :
    ((s.step userId n d e).alike = true ↔ s.alike = true ∧ RemembersSuccesses n d s e) ∧
      ((s.step userId n d e).alike = true → Inv userId n d e.time (s.step userId n d e)) := by
  have hnow := h.mono hle
  cases e with
  | request now' succeeds => exact hnow.request
  | clear now' =>
    exact ⟨(and_iff_left trivial).symm, fun _ => ⟨hnow.redis, hnow.memory.dropExpired⟩⟩

theorem alike_of_step (h : (s.step userId n d e).alike = true) : s.alike = true := by
  cases e with
  | request now succeeds =>
    simp only [step, Bool.and_eq_true] at h
    exact h.1.1
  | clear => exact h

theorem alike_of_foldl {es : List HandlersEvent} (h : (es.foldl (step userId n d) s).alike = true) :
    s.alike = true := by
  induction es generalizing s with
  | nil => exact h
  | cons _ _ ih => exact alike_of_step (ih h)

theorem Inv.alike_iff {es : List HandlersEvent} (h : Inv userId n d now s) (halike : s.alike = true)
    (hafter : ∀ e ∈ es, now ≤ e.time) (htimes : es.Pairwise (fun e e' => e.time ≤ e'.time)) :
    (es.foldl (HandlersRun.step userId n d) s).alike = true
      ↔ Guarded (HandlersRun.step userId n d) (RemembersSuccesses n d) s es := by
  induction es generalizing now s with
  | nil => exact iff_of_true halike trivial
  | cons e _ ih =>
    obtain ⟨hiff, hinv⟩ := h.step (forall_mem_cons.mp hafter).1
    obtain ⟨hlater, htimes⟩ := pairwise_cons.mp htimes
    by_cases hstep : (s.step userId n d e).alike = true
    · rw [foldl_cons, ih (hinv hstep) hstep hlater htimes]
      exact (and_iff_right (hiff.mp hstep).2).symm
    · refine iff_of_false (fun hrun => hstep (alike_of_foldl hrun)) ?_
      exact fun hguard => hstep (hiff.mpr ⟨halike, hguard.1⟩)

/-- `Init` is given `expiration` by whichever limiter comes first. -/
def start (expiration : ℤ) : HandlersRun where
  memory := ⟨fun _ => none, expiration⟩

end HandlersRun

end TokensFlux
