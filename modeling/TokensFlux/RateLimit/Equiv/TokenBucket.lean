import Mathlib.Tactic.Linarith
import TokensFlux.RateLimit.Basic

/-!
# The token bucket of the total limit

What is allowed from a time on, together with the tokens that are left, is bounded by the capacity
and what has flowed in since (`BucketRun.Inv.spent`).
-/

namespace TokensFlux

open List

/-- With the times of the requests that were allowed, newest first. -/
structure BucketRun where
  bucket : Option TokenBucket := none
  allowed : List ℤ := []

namespace BucketRun

variable {total duration now now' a b : ℤ} {s : BucketRun} {times : List ℤ}

def step (total duration : ℤ) (s : BucketRun) (now : ℤ) : BucketRun :=
  let (bucket, ok) := allowTotal total duration now s.bucket
  ⟨some bucket, if ok then now :: s.allowed else s.allowed⟩

def available (total duration now : ℤ) (s : BucketRun) : ℤ :=
  availableTokens total (total * duration) now s.bucket

def countFrom (a : ℤ) (times : List ℤ) : ℤ :=
  times.countP fun t => a ≤ t

def countIn (a b : ℤ) (times : List ℤ) : ℤ :=
  times.countP fun t => a ≤ t ∧ t ≤ b

theorem countIn_le_countFrom : countIn a b times ≤ countFrom a times := by
  refine Nat.cast_le.mpr (countP_mono_left fun t _ ht => ?_)
  exact decide_eq_true (of_decide_eq_true ht).1

/-- The requests of any window and the tokens left are covered by the refill. -/
structure Inv (total duration now : ℤ) (s : BucketRun) : Prop where
  stored : ∀ bucket ∈ s.bucket, 0 ≤ bucket.tokens ∧ bucket.tokens ≤ total * duration ∧
    bucket.lastTime ≤ now
  past : ∀ t ∈ s.allowed, t ≤ now
  spent : ∀ a ≤ now, duration * countFrom a s.allowed + s.available total duration now
    ≤ total * duration + total * (now - a)
  window : ∀ a b, a ≤ b → duration * countIn a b s.allowed ≤ total * duration + total * (b - a)

theorem step_eq : s.step total duration now = if s.available total duration now ≥ duration
    then ⟨some ⟨s.available total duration now - duration, now⟩, now :: s.allowed⟩
    else ⟨some ⟨s.available total duration now, now⟩, s.allowed⟩ := by
  unfold step allowTotal rateLimitScript available
  dsimp only
  split <;> rfl

theorem available_le (total duration now : ℤ) (s : BucketRun) :
    s.available total duration now ≤ total * duration := by
  unfold available availableTokens
  split
  · exact le_refl _
  · exact min_le_left _ _

section

variable (htotal : 0 ≤ total)
include htotal

theorem available_mono (hle : now ≤ now') :
    s.available total duration now' ≤ s.available total duration now + (now' - now) * total := by
  have hflow : 0 ≤ (now' - now) * total := mul_nonneg (sub_nonneg.mpr hle) htotal
  unfold available availableTokens
  split
  · exact le_add_of_nonneg_right hflow
  rw [← min_add_add_right]
  refine min_le_min (le_add_of_nonneg_right hflow) ?_
  linarith

theorem Inv.mono (h : Inv total duration now s) (hle : now ≤ now') : Inv total duration now' s := by
  refine ⟨fun bucket hb => ?_, fun t ht => (h.past t ht).trans hle, fun a ha => ?_, h.window⟩
  · obtain ⟨hpos, hcapacity, hlast⟩ := h.stored bucket hb
    exact ⟨hpos, hcapacity, hlast.trans hle⟩
  by_cases hnow : a ≤ now
  · have hspent := h.spent a hnow
    have hflow := @available_mono total duration now now' s htotal hle
    linarith
  -- Nothing was allowed since `a`.
  have hnone : countFrom a s.allowed = 0 := by
    refine Nat.cast_eq_zero.mpr (countP_eq_zero.mpr fun t ht hat => ?_)
    exact hnow ((of_decide_eq_true hat).trans (h.past t ht))
  have hflow : 0 ≤ total * (now' - a) := mul_nonneg htotal (sub_nonneg.mpr ha)
  have hfull := available_le total duration now' s
  rw [hnone]
  linarith

variable (hduration : 0 ≤ duration)
include hduration

theorem inv_start (now : ℤ) : Inv total duration now {} := by
  have hcapacity : 0 ≤ total * duration := mul_nonneg htotal hduration
  refine ⟨(fun _ h => by cases h), forall_mem_nil _, fun a ha => ?_, fun a b hab => ?_⟩
  · have := mul_nonneg htotal (sub_nonneg.mpr ha)
    simpa [countFrom, available, availableTokens] using this
  · have := mul_nonneg htotal (sub_nonneg.mpr hab)
    simpa [countIn] using add_nonneg hcapacity this

theorem Inv.available_nonneg (h : Inv total duration now s) :
    0 ≤ s.available total duration now := by
  have hcapacity : 0 ≤ total * duration := mul_nonneg htotal hduration
  unfold available availableTokens
  split
  · exact hcapacity
  next bucket hbucket =>
    obtain ⟨hpos, -, hlast⟩ := h.stored bucket hbucket
    exact le_min hcapacity (add_nonneg hpos (mul_nonneg (sub_nonneg.mpr hlast) htotal))

/-- One run of the script. -/
theorem Inv.step (h : Inv total duration now s) :
    Inv total duration now (s.step total duration now) := by
  have hnonneg := h.available_nonneg htotal hduration
  have hfull := available_le total duration now s
  have hstored : ∀ {tokens allowed}, tokens ≤ total * duration →
      available total duration now ⟨some ⟨tokens, now⟩, allowed⟩ = tokens := by
    intro tokens allowed hle
    simp [available, availableTokens, hle]
  rw [step_eq]
  by_cases henough : s.available total duration now ≥ duration
  · rw [if_pos henough]
    have hspent : ∀ a ≤ now, duration * countFrom a (now :: s.allowed) +
        (s.available total duration now - duration)
        ≤ total * duration + total * (now - a) := by
      intro a ha
      have hbefore := h.spent a ha
      rw [countFrom, countP_cons_of_pos (by simpa using ha), Nat.cast_add_one]
      unfold countFrom at hbefore
      linarith
    refine ⟨?_, forall_mem_cons.mpr ⟨le_refl now, h.past⟩, ?_, fun a b hab => ?_⟩
    · rintro _ ⟨⟩
      exact ⟨sub_nonneg.mpr henough, (sub_le_self _ hduration).trans hfull, le_refl now⟩
    · rwa [hstored ((sub_le_self _ hduration).trans hfull)]
    by_cases hin : a ≤ now ∧ now ≤ b
    · have hcount := mul_le_mul_of_nonneg_left
        (@countIn_le_countFrom a b (now :: s.allowed)) hduration
      have hlater := mul_le_mul_of_nonneg_left (sub_le_sub_right hin.2 a) htotal
      have := hspent a hin.1
      linarith
    · rw [countIn, countP_cons_of_neg (by simpa using hin)]
      exact h.window a b hab
  rw [if_neg henough]
  refine ⟨?_, h.past, ?_, h.window⟩
  · rintro _ ⟨⟩
    exact ⟨hnonneg, hfull, le_refl now⟩
  · rw [hstored hfull]
    exact h.spent

/-- Its runs at non-decreasing times. -/
theorem Inv.run (h : Inv total duration now s) (htimes : (now :: times).Pairwise (· ≤ ·)) :
    ∃ now', Inv total duration now' (times.foldl (BucketRun.step total duration) s) := by
  induction times generalizing now s with
  | nil => exact ⟨now, h⟩
  | cons t _ ih =>
    obtain ⟨hafter, hrest⟩ := pairwise_cons.mp htimes
    exact ih ((h.mono htotal (hafter t mem_cons_self)).step htotal hduration) hrest

end

/-- **The token bucket** stays within its capacity, refuses only for want of tokens, and allows in
`w` seconds at most what it holds and what flows in. -/
theorem allowTotal_bounds (htotal : 0 < total) (hduration : 0 < duration)
    (htimes : times.Pairwise (· ≤ ·)) :
    let s := times.foldl (step total duration) {}
    (∀ bucket ∈ s.bucket, 0 ≤ bucket.tokens ∧ bucket.tokens ≤ total * duration) ∧
      (∀ now, (allowTotal total duration now s.bucket).2 = false →
        s.available total duration now < duration) ∧
      ∀ a w, 0 ≤ w → countIn a (a + w) s.allowed ≤ total + total * w / duration := by
  intro s
  obtain ⟨now, hinv⟩ : ∃ now, Inv total duration now s := by
    cases times with
    | nil => exact ⟨0, inv_start htotal.le hduration.le 0⟩
    | cons t =>
      refine (inv_start htotal.le hduration.le t).run htotal.le hduration.le
        (pairwise_cons.mpr ⟨?_, htimes⟩)
      exact forall_mem_cons.mpr ⟨le_refl t, (pairwise_cons.mp htimes).1⟩
  refine ⟨fun bucket hb => ⟨(hinv.stored bucket hb).1, (hinv.stored bucket hb).2.1⟩,
    fun now h => ?_, fun a w hw => ?_⟩
  · unfold allowTotal rateLimitScript at h
    dsimp only at h
    split_ifs at h with henough
    exact not_le.mp henough
  have hwindow := hinv.window a (a + w) (le_add_of_nonneg_right hw)
  rw [add_comm total, ← Int.add_mul_ediv_left _ _ hduration.ne', Int.le_ediv_iff_mul_le hduration]
  linarith

theorem allowTotal_bounds_minute : [0, 0, 0, 29, 30].Pairwise (· ≤ ·) ∧
    countIn 0 (0 + 30) ([0, 0, 0, 29, 30].foldl (step 2 60) {}).allowed ≤ 2 + 2 * 30 / 60 :=
  ⟨by decide, (allowTotal_bounds (by decide) (by decide) (by decide)).2.2 0 30 (by decide)⟩

end BucketRun

end TokensFlux
