import TokensFlux.Quota.Text

/-!
# The variables of a tiered price

An OpenAI report counts the cached tokens into the prompt; a Claude report does not, and nothing
adds them back.
-/

namespace TokensFlux

structure TokenBreakdown where
  text : ℕ
  cacheRead : ℕ
  cacheCreation : ℕ
  completion : ℕ
deriving DecidableEq, Repr

namespace TokenBreakdown

variable (b : TokenBreakdown)

variable (usageSemantic : String)

/-- The prompt includes the cache. -/
def openAIReport : Usage where
  promptTokens := b.text + b.cacheRead + b.cacheCreation
  completionTokens := b.completion
  usageSemantic
  cachedTokens := b.cacheRead
  cachedCreationTokens := b.cacheCreation

/-- The prompt is the text, and the cache was written for five minutes. -/
def claudeReport : Usage where
  promptTokens := b.text
  completionTokens := b.completion
  usageSemantic
  cachedTokens := b.cacheRead
  cachedCreationTokens := b.cacheCreation
  claudeCacheCreation5mTokens := b.cacheCreation

variable (usedVars : String → Bool)

def unpriced : ℕ :=
  (if usedVars "cr" then 0 else b.cacheRead) + if usedVars "cc" then 0 else b.cacheCreation

theorem unpriced_eq_zero_iff : b.unpriced usedVars = 0 ↔
      (usedVars "cr" = true ∨ b.cacheRead = 0) ∧ (usedVars "cc" = true ∨ b.cacheCreation = 0) := by
  unfold unpriced
  cases usedVars "cr" <;> cases usedVars "cc" <;> simp

def params (p : ℕ) : TokenParams where
  p := p
  c := b.completion
  len := b.text + b.cacheRead + b.cacheCreation
  cr := b.cacheRead
  cc := b.cacheCreation
  cc1h := 0
  img := 0
  imgO := 0
  ai := 0
  ao := 0

theorem buildTieredTokenParams_openAIReport {usageSemantic : String}
    (h : usageSemantic ≠ "anthropic") (usedVars : String → Bool) :
    buildTieredTokenParams (b.openAIReport usageSemantic) false usedVars
      = b.params (b.text + b.unpriced usedVars) := by
  have hp : (b.text + b.cacheRead + b.cacheCreation : ℚ)
      - (if usedVars "cr" then (b.cacheRead : ℚ) else 0)
      - (if usedVars "cc" then (b.cacheCreation : ℚ) else 0) = b.text + b.unpriced usedVars := by
    unfold unpriced
    cases usedVars "cr" <;> cases usedVars "cc" <;> simp <;> ring
  have hnonneg : ¬(b.text + b.unpriced usedVars : ℚ) < 0 := by
    exact_mod_cast Nat.not_lt_zero _
  simp [buildTieredTokenParams, openAIReport, h, params, hp, hnonneg]

theorem buildTieredTokenParams_claudeReport :
    buildTieredTokenParams (b.claudeReport usageSemantic) true usedVars = b.params b.text := by
  by_cases h : usageSemantic = "anthropic" <;> simp [buildTieredTokenParams,
    claudeReport, h, params]

end TokenBreakdown

/-- **A tiered price does not depend on the format of the report if and only if every cached token
is priced by a variable of its own.** -/
theorem buildTieredTokenParams_agree_iff (b : TokenBreakdown) (usedVars : String → Bool)
    {openAI claude : TextContext} {openAISemantic claudeSemantic : String}
    (hopenAI : isClaudeUsageSemantic openAI (some (b.openAIReport openAISemantic)) = false)
    (hclaude : isClaudeUsageSemantic claude (some (b.claudeReport claudeSemantic)) = true) :
    buildTieredTokenParams (b.openAIReport openAISemantic)
        (isClaudeUsageSemantic openAI (some (b.openAIReport openAISemantic))) usedVars
      = buildTieredTokenParams (b.claudeReport claudeSemantic)
        (isClaudeUsageSemantic claude (some (b.claudeReport claudeSemantic))) usedVars ↔
      (usedVars "cr" = true ∨ b.cacheRead = 0) ∧ (usedVars "cc" = true ∨ b.cacheCreation = 0) := by
  have hsemantic : openAISemantic ≠ "anthropic" := by
    rintro rfl
    simp [isClaudeUsageSemantic, TokenBreakdown.openAIReport] at hopenAI
  rw [hopenAI, hclaude, b.buildTieredTokenParams_openAIReport hsemantic,
    b.buildTieredTokenParams_claudeReport, ← b.unpriced_eq_zero_iff]
  constructor
  · intro h
    have hp : ((b.text + b.unpriced usedVars : ℕ) : ℚ) = (b.text : ℕ) := congrArg TokenParams.p h
    have := Nat.cast_injective hp
    omega
  · intro h
    rw [h, Nat.add_zero]

theorem buildTieredTokenParams_agree_of_cacheRead : let b : TokenBreakdown := ⟨10, 100, 0, 5⟩
    buildTieredTokenParams (b.openAIReport "") false (· ∈ ["p", "c", "cr"])
      = buildTieredTokenParams (b.claudeReport "anthropic") true (· ∈ ["p", "c", "cr"]) :=
  (@buildTieredTokenParams_agree_iff ⟨10, 100, 0, 5⟩ (· ∈ ["p", "c", "cr"]) {}
    { relayFormatClaude := true } "" "anthropic" (by decide) (by decide)).mpr (by decide)

/-- 100 cached tokens under an expression over `p` and `c` alone: an OpenAI upstream is paid for 100
tokens of input, a Claude upstream for none. -/
theorem buildTieredTokenParams_disagree : let b : TokenBreakdown := ⟨0, 100, 0, 5⟩
    let usedVars : String → Bool := (· ∈ ["p", "c"])
    isClaudeUsageSemantic {} (some (b.openAIReport "")) = false ∧
      isClaudeUsageSemantic {} (some (b.claudeReport "anthropic")) = true ∧
      (buildTieredTokenParams (b.openAIReport "") false usedVars).p = 100 ∧
      (buildTieredTokenParams (b.claudeReport "anthropic") true usedVars).p = 0 := by
  decide +kernel

/-- **The cache writes of a Claude report are all priced, and the one-hour ones as such, if and only
if a report marked as Claude's splits at least its total, and one known by its relay format alone
has no one-hour tokens and a total that covers the five-minute ones.** -/
theorem buildTieredTokenParams_cacheWrite_iff (usage : Usage) (ctx : TextContext)
    (usedVars : String → Bool) :
    let params := buildTieredTokenParams usage (isClaudeUsageSemantic ctx (some usage)) usedVars
    let split := usage.claudeCacheCreation5mTokens + usage.claudeCacheCreation1hTokens
    params.cc + params.cc1h = max usage.cachedCreationTokens split ∧
      params.cc1h = usage.claudeCacheCreation1hTokens ↔
      if usage.usageSemantic = "anthropic" then usage.cachedCreationTokens ≤ split
      else usage.claudeCacheCreation1hTokens = 0 ∧
        usage.claudeCacheCreation5mTokens ≤ usage.cachedCreationTokens := by
  intro params split
  -- The function reads the split of a marked report only, whatever the relay format says.
  by_cases h : usage.usageSemantic = "anthropic"
  · have hcc : params.cc = usage.claudeCacheCreation5mTokens := if_pos h
    have hcc1h : params.cc1h = usage.claudeCacheCreation1hTokens := if_pos h
    rw [hcc, hcc1h, if_pos h]
    norm_cast
    rw [eq_comm, max_eq_right_iff, and_iff_left rfl]
  have hcc : params.cc = usage.cachedCreationTokens := if_neg h
  have hcc1h : params.cc1h = 0 := if_neg h
  rw [hcc, hcc1h, add_zero, if_neg h]
  norm_cast
  omega

/-- A report of 100 cache writes without a split: none of them is priced. -/
theorem buildTieredTokenParams_loses_cacheWrite :
    let usage : Usage :=
      { promptTokens := 10, completionTokens := 5, usageSemantic := "anthropic",
        cachedCreationTokens := 100 }
    let params := buildTieredTokenParams usage
      (isClaudeUsageSemantic {} (some usage)) (fun _ => true)
    isClaudeUsageSemantic {} (some usage) = true ∧ params.cc + params.cc1h = 0 ∧
      max usage.cachedCreationTokens (usage.claudeCacheCreation5mTokens +
        usage.claudeCacheCreation1hTokens) = 100 := by
  decide +kernel

end TokensFlux
