import TokensFlux.Lib.Guarded
import TokensFlux.TwoFA.Basic

/-!
# A backup code works once

A save that finds its row unused takes it away; `ValidateBackupCode` does not look again before it
saves, so two calls that have both read the row both pass (`two_calls_pass`).
-/

namespace TokensFlux.LoginSystem

open List Option

variable {P : Type} [DecidableEq P] (k : CodeChecks) (userId : ℤ) (code : String)

/-! ### What is counted -/

def isOpen (row : TwoFABackupCode) : Bool :=
  row.userId = userId ∧ row.isUsed = false ∧ k.validatePasswordAndHash
    (k.normalizeBackupCode code) row.codeHash

def presents (t : TwoFA) (c : CheckCall) : Bool :=
  t.userId = userId ∧ c.isBackup ∧ k.normalizeBackupCode c.code = k.normalizeBackupCode code

def passed (r : Returned) : Bool :=
  r.userId = userId ∧ r.isBackup ∧ k.normalizeBackupCode r.code = k.normalizeBackupCode code ∧
    r.result.toOption = some true

/-- A call that presents the code finds the row that it saves unused. -/
def savesUnused (s : LoginSystem P) : LoginEvent P → Bool
  | .next p false =>
    match s.inCall p with
    | some (t, { code := code', isBackup, phase := .save saved }) =>
      presents k userId code t ⟨code', isBackup, .save saved⟩ →
        s.backupCodes.any fun row => row.id = saved.id ∧ row.isUsed = false
    | _ => true
  | _ => true

/-! ### The invariant -/

def Passing (s : LoginSystem P) (p : P) : Prop :=
  ∃ t c, s.inCall p = some (t, c) ∧ presents k userId code t c = true ∧ c.phase = .usage true

variable (rows : List TwoFABackupCode)

def Copied (t : TwoFA) (c : CheckCall) : Prop :=
  ∀ saved, c.phase = .save saved → saved.isUsed = true ∧ saved.userId = t.userId ∧
    k.validatePasswordAndHash (k.normalizeBackupCode c.code) saved.codeHash = true ∧
      ∃ row ∈ rows, row.id = saved.id ∧ row.userId = saved.userId ∧ row.codeHash = saved.codeHash

/-- Nobody has taken the open row, or one call has and will pass, or one has passed. -/
def Stage (passing : P → Prop) (passes : List Returned) : Prop :=
  rows.length ≤ 1 ∧ (∀ p, ¬passing p) ∧ passes = [] ∨ rows = [] ∧ passes = [] ∧
    (∃ p, ∀ p', passing p' → p' = p) ∨ rows = [] ∧ passes.length = 1 ∧ ∀ p, ¬passing p

/-- Unused rows, calls about to pass and calls that have passed are in step. -/
structure Inv (s : LoginSystem P) : Prop where
  ids : DistinctKeys TwoFABackupCode.id s.backupCodes
  copied : ∀ p t c, s.inCall p = some (t, c) → Copied k s.backupCodes t c
  stage : Stage (s.backupCodes.filter (isOpen k userId code)) (Passing k userId code s)
    (s.returned.filter (passed k userId code))

variable {k userId code} {s : LoginSystem P}

omit [DecidableEq P] in
theorem Stage.mono {rows rows' : List TwoFABackupCode} {passing passing' : P → Prop}
    {passes : List Returned} (h : Stage rows passing passes) (hrows : rows'.Sublist rows)
    (hpassing : ∀ p, passing' p → passing p) :
    Stage rows' passing' passes := by
  rcases h with ⟨hone, hnone, hpasses⟩ | ⟨rfl, hpasses, p, hp⟩ | ⟨rfl, hpasses, hnone⟩
  · exact .inl ⟨Nat.le_trans hrows.length_le hone, fun p hp => hnone p (hpassing p hp), hpasses⟩
  · exact .inr (.inl ⟨sublist_nil.mp hrows, hpasses, p, fun p' hp' => hp p' (hpassing p' hp')⟩)
  · exact .inr (.inr ⟨sublist_nil.mp hrows, hpasses, fun p hp => hnone p (hpassing p hp)⟩)

theorem inCall_update (tables : TwoFATables) (p p' : P) (login : Option Login)
    (returned : List Returned) :
    inCall { s with toTwoFATables := tables, logins := Function.update s.logins p login, returned }
      p' =
      if p' = p then login.bind fun login => login.call.map fun c => (login.twoFA, c)
        else s.inCall p' := by
  unfold inCall
  by_cases heq : p' = p
  · subst heq
    simp
  · simp [heq]

theorem Inv.quiet (h : Inv k userId code s) {tables : TwoFATables}
    (hrows : tables.backupCodes = s.backupCodes) (p : P)
    {login : Option Login} {returned : List Returned}
    (hreturned : returned.filter (passed k userId code) = s.returned.filter (passed k userId code))
    (hlogin : ∀ t c, login = some ⟨t, some c⟩ → Copied k s.backupCodes t c ∧
      (presents k userId code t c = true → c.phase ≠ .usage true)) :
    Inv k userId code { s with toTwoFATables := tables,
                               logins := Function.update s.logins p login, returned } := by
  have hcall : ∀ t c, (login.bind fun login => login.call.map fun c => (login.twoFA, c)) =
      some (t, c) → login = some ⟨t, some c⟩ := by
    intro t c hc
    obtain ⟨⟨t', _⟩, rfl, hmap⟩ := bind_eq_some_iff.mp hc
    obtain ⟨c', hcall, heq⟩ := map_eq_some_iff.mp hmap
    dsimp only at hcall
    rw [hcall]
    cases heq
    rfl
  refine ⟨?_, fun p' t c hc => ?_, ?_⟩
  · rw [hrows]
    exact h.ids
  · rw [inCall_update] at hc
    rw [hrows]
    split_ifs at hc
    · exact (hlogin t c (hcall t c hc)).1
    · exact h.copied p' t c hc
  rw [hrows, hreturned]
  refine h.stage.mono (.refl _) ?_
  rintro p' ⟨t, c, hc, hpresents, hphase⟩
  rw [inCall_update] at hc
  split_ifs at hc
  · exact absurd hphase ((hlogin t c (hcall t c hc)).2 hpresents)
  · exact ⟨t, c, hc, hpresents, hphase⟩

theorem Inv.returns (h : Inv k userId code s) {tables : TwoFATables}
    (hrows : tables.backupCodes = s.backupCodes) (p : P)
    (t : TwoFA) {r : Returned} (hr : passed k userId code r = false) :
    Inv k userId code
      { s with
        toTwoFATables := tables,
        logins := Function.update s.logins p (some ⟨t, none⟩), returned := s.returned ++ [r] } := by
  refine h.quiet hrows p (by simp [hr]) fun _ _ hlogin => ?_
  cases hlogin

omit [DecidableEq P] in
theorem Inv.save (h : Inv k userId code s) {p : P} {t : TwoFA} {c : CheckCall}
    {saved : TwoFABackupCode} (hc : s.inCall p = some (t, c)) (hphase : c.phase = .save saved)
    (hunused : presents k userId code t c = true → ∃ row ∈ s.backupCodes, row.id = saved.id ∧
      row.isUsed = false) :
    let rows := updateWhere (fun row => row.id = saved.id) (fun _ => saved) s.backupCodes
    DistinctKeys TwoFABackupCode.id rows ∧ Stage (rows.filter (isOpen k userId code))
      (fun p' => p' ≠ p ∧ Passing k userId code s p' ∨ p' = p ∧ presents k userId code t c = true)
      (s.returned.filter (passed k userId code)) := by
  obtain ⟨hused, huser, hmatch, old, hold, hid, holdUser, hhash⟩ := h.copied p t c hc saved hphase
  have hrows : (updateWhere (fun row => decide (row.id = saved.id)) (fun _ => saved)
      s.backupCodes).filter
      (isOpen k userId code) =
        (s.backupCodes.filter (isOpen k userId code)).filter fun row =>
          !decide (row.id = saved.id) :=
    filter_updateWhere fun row _ => by simp [isOpen, hused]
  refine ⟨h.ids.updateWhere fun row _ hrow => (of_decide_eq_true hrow).symm, ?_⟩
  rw [hrows]
  by_cases hpresents : presents k userId code t c = true
  · -- The row is open, so nobody has taken it before, and there is no other.
    have hopen : old ∈ s.backupCodes.filter (isOpen k userId code) := by
      obtain ⟨row, hrow, hrowID, hunused⟩ := hunused hpresents
      simp only [presents, decide_eq_true_eq] at hpresents
      rw [h.ids.eq_of_key_eq hrow hold (hrowID.trans hid.symm)] at hunused
      refine mem_filter.mpr ⟨hold, ?_⟩
      simp only [isOpen, decide_eq_true_eq]
      refine ⟨by rw [holdUser, huser, hpresents.1], hunused, ?_⟩
      rw [← hpresents.2.2, hhash, hmatch]
    rcases h.stage with ⟨hone, hnone, hpasses⟩ | ⟨hnil, -⟩ | ⟨hnil, -⟩
    · have hrow : ∀ row ∈ s.backupCodes.filter (isOpen k userId code), row = old := by
        obtain ⟨row, hsingle⟩ :=
          length_eq_one_iff.mp (Nat.le_antisymm hone (length_pos_of_mem hopen))
        rw [hsingle, mem_singleton] at hopen
        simp [hsingle, hopen]
      refine .inr (.inl ⟨?_, hpasses, p, ?_⟩)
      · rw [filter_eq_nil_iff]
        intro row hmem
        simp [hrow row hmem, hid]
      · rintro p' (⟨-, hp'⟩ | ⟨rfl, -⟩)
        · exact absurd hp' (hnone p')
        · rfl
    all_goals
      rw [hnil] at hopen
      cases hopen
  refine h.stage.mono filter_sublist ?_
  rintro p' (⟨-, hp'⟩ | ⟨-, hp'⟩)
  · exact hp'
  · exact absurd hp' hpresents

omit [DecidableEq P] in
theorem Stage.pass {rows : List TwoFABackupCode} {passing passing' : P → Prop}
    {passes : List Returned} {p : P} (h : Stage rows passing passes) (hp : passing p)
    (hpassing : ∀ p', passing' p' → passing p' ∧ p' ≠ p)
    (r : Returned) : Stage rows passing' (passes ++ [r]) := by
  rcases h with ⟨-, hnone, -⟩ | ⟨hrows, rfl, p₀, hp₀⟩ | ⟨-, -, hnone⟩
  · exact absurd hp (hnone p)
  · refine .inr (.inr ⟨hrows, rfl, fun p' hp' => ?_⟩)
    obtain ⟨hold, hne⟩ := hpassing p' hp'
    exact hne ((hp₀ p' hold).trans (hp₀ p hp).symm)
  · exact absurd hp (hnone p)

theorem usage_next (k : CodeChecks) (code : String) (isBackup valid : Bool)
    (clock : ℤ) (fault : Bool) (tables : TwoFATables) (t : TwoFA) : ∃ tables' t',
      (⟨code, isBackup, .usage valid⟩ : CheckCall).next k clock fault tables t =
      (tables', t', .inr (.ok valid)) ∧ tables'.backupCodes = tables.backupCodes := by
  refine ⟨_, _, rfl, ?_⟩
  split_ifs <;> rfl

/-! ### The statements of a call -/

section Statements

variable {p : P} {t : TwoFA} {code' : String} {isBackup fault : Bool}

/-- A call that goes on to `phase` without a copy of a row is as quiet as before. -/
theorem Inv.goesOn (h : Inv k userId code s) {phase : CheckPhase}
    (hsave : ∀ saved, phase ≠ .save saved)
    (husage : presents k userId code t ⟨code', isBackup, phase⟩ = true → phase ≠ .usage true) :
    Inv k userId code { s with
      logins := Function.update s.logins p (some ⟨t, some ⟨code', isBackup, phase⟩⟩) } := by
  refine h.quiet rfl p rfl fun _ _ hlogin => ?_
  cases hlogin
  exact ⟨fun saved hphase => absurd hphase (hsave saved), husage⟩

theorem Inv.check (h : Inv k userId code s)
    (hc : s.inCall p = some (t, ⟨code', isBackup, .check⟩)) :
    Inv k userId code (s.step k (.next p fault)) := by
  simp only [LoginSystem.step, hc, CheckCall.next]
  split_ifs with hlocked hbackup hvalid
  · exact h.returns rfl p t (by simp [passed, Except.toOption])
  · exact h.goesOn (by simp) (by simp)
  · exact h.returns rfl p t (by simp [passed, Except.toOption])
  · exact h.goesOn (by simp) fun hpresents => by simp [presents, hbackup] at hpresents

theorem Inv.select (h : Inv k userId code s)
    (hc : s.inCall p = some (t, ⟨code', isBackup, .select⟩)) :
    Inv k userId code (s.step k (.next p fault)) := by
  simp only [LoginSystem.step, hc, CheckCall.next]
  split_ifs
  · exact h.returns rfl p t (by simp [passed, Except.toOption])
  generalize hrow : find? _ _ = found
  cases found with
  | none => exact h.goesOn (by simp) (by simp)
  | some row =>
    have hmem := mem_filter.mp (mem_of_find?_eq_some hrow)
    have hmatch := find?_some hrow
    simp only [decide_eq_true_eq] at hmem
    refine h.quiet rfl p rfl fun _ _ hlogin => ?_
    cases hlogin
    refine ⟨fun saved hphase => ?_, by simp⟩
    cases hphase
    exact ⟨rfl, hmem.2.1, hmatch, row, hmem.1, rfl, rfl, rfl⟩

omit [DecidableEq P] in
/-- The rows that other calls have copied are there after a save as well. -/
theorem Inv.copied_save (h : Inv k userId code s) {c c' : CheckCall} {p' : P} {t' : TwoFA}
    {saved : TwoFABackupCode} (hc : s.inCall p = some (t, c)) (hphase : c.phase = .save saved)
    (hc' : s.inCall p' = some (t', c')) :
    Copied k (updateWhere (fun row => row.id = saved.id) (fun _ => saved) s.backupCodes) t' c' := by
  intro saved' hphase'
  obtain ⟨hused, huser, hmatch, row, hrow, hrow'⟩ := h.copied p' t' c' hc' saved' hphase'
  refine ⟨hused, huser, hmatch, _, mem_updateWhere.mpr ⟨row, hrow, rfl⟩, ?_⟩
  split_ifs with hid
  · -- The row that is written is this one, apart from its use.
    obtain ⟨-, -, -, old, hold, holdID, holdUser, holdHash⟩ := h.copied p t c hc saved hphase
    have hsame := h.ids.eq_of_key_eq hold hrow (holdID.trans (of_decide_eq_true hid).symm)
    rw [← holdID, ← holdUser, ← holdHash, hsame]
    exact hrow'
  · exact hrow'

theorem Inv.afterSave (h : Inv k userId code s) {saved : TwoFABackupCode}
    (hc : s.inCall p = some (t, ⟨code', isBackup, .save saved⟩))
    (hguard : savesUnused k userId code s (.next p fault) = true) :
    Inv k userId code (s.step k (.next p fault)) := by
  simp only [LoginSystem.step, hc, CheckCall.next]
  split_ifs with hfault
  · exact h.returns rfl p t (by simp [passed, Except.toOption])
  have hsave := h.save hc rfl fun hpresents => by
    simpa [savesUnused, hc, hpresents, hfault] using hguard
  refine ⟨hsave.1, fun p' t' c' hc' => ?_, hsave.2.mono (.refl _) ?_⟩
  · rw [inCall_update] at hc'
    split_ifs at hc'
    · cases hc'
      rintro _ ⟨⟩
    · exact h.copied_save hc rfl hc'
  rintro p' ⟨t', c', hc', hpresents, hphase⟩
  rw [inCall_update] at hc'
  split_ifs at hc' with heq
  · cases hc'
    exact .inr ⟨heq, hpresents⟩
  · exact .inl ⟨heq, t', c', hc', hpresents, hphase⟩

/-- The one call that is about to pass does. -/
theorem Inv.passes (h : Inv k userId code s) {tables : TwoFATables} {r : Returned}
    (hrows : tables.backupCodes = s.backupCodes) (hpassing : Passing k userId code s p)
    (hr : passed k userId code r = true) (t : TwoFA) :
    Inv k userId code
      { s with
        toTwoFATables := tables,
        logins := Function.update s.logins p (some ⟨t, none⟩), returned := s.returned ++ [r] } := by
  have hlast : [r].filter (passed k userId code) = [r] := by simp [hr]
  refine ⟨?_, fun p' t' c' hc' => ?_, ?_⟩
  · rw [hrows]
    exact h.ids
  · rw [inCall_update] at hc'
    rw [hrows]
    split_ifs at hc'
    · cases hc'
    · exact h.copied p' t' c' hc'
  rw [hrows, filter_append, hlast]
  refine h.stage.pass hpassing ?_ _
  rintro p' ⟨t', c', hc', hpassing'⟩
  rw [inCall_update] at hc'
  split_ifs at hc' with heq
  · cases hc'
  · exact ⟨⟨t', c', hc', hpassing'⟩, heq⟩

theorem Inv.usage (h : Inv k userId code s) {valid : Bool}
    (hc : s.inCall p = some (t, ⟨code', isBackup, .usage valid⟩)) :
    Inv k userId code (s.step k (.next p fault)) := by
  obtain ⟨tables, t', hnext, hrows⟩ :=
    usage_next k code' isBackup valid s.clock fault s.toTwoFATables t
  simp only [LoginSystem.step, hc, hnext]
  by_cases hpass : passed k userId code ⟨t.userId, code', isBackup, .ok valid⟩ = true
  · refine h.passes hrows ?_ hpass t'
    simp only [passed, Except.toOption, Option.some.injEq, decide_eq_true_eq] at hpass
    obtain ⟨huser, hbackup, hcode, rfl⟩ := hpass
    exact ⟨t, _, hc, by simp [presents, huser, hbackup, hcode], rfl⟩
  · exact h.returns hrows p t' (by simpa using hpass)

end Statements

/-- **One event**, in which a save for the code finds its row unused. -/
theorem Inv.step (h : Inv k userId code s) {e : LoginEvent P}
    (hguard : savesUnused k userId code s e = true) : Inv k userId code (s.step k e) := by
  cases e with
  | tick => exact ⟨h.ids, h.copied, h.stage⟩
  | load p =>
    unfold LoginSystem.step
    dsimp only
    split
    · exact h
    · refine h.quiet rfl p rfl fun t c hlogin => ?_
      obtain ⟨row, -, heq⟩ := map_eq_some_iff.mp hlogin
      cases heq
  | call p =>
    unfold LoginSystem.step
    dsimp only
    split
    · exact h.goesOn (by simp) (by simp)
    · exact h
  | next p fault =>
    cases hc : s.inCall p with
    | none =>
      simp only [LoginSystem.step, hc]
      exact h
    | some call =>
      obtain ⟨t, code', isBackup, phase⟩ := call
      cases phase with
      | check => exact h.check hc
      | select => exact h.select hc
      | save => exact h.afterSave hc hguard
      | usage => exact h.usage hc

/-- **At most one call with a backup code returns true**, if every save for the code finds its row
unused. -/
theorem passedOnce_of_savesUnused (s : LoginSystem P) (hidle : ∀ p, s.inCall p = none)
    (hreturned : s.returned = []) (hids : DistinctKeys TwoFABackupCode.id s.backupCodes)
    (hone : (s.backupCodes.filter (isOpen k userId code)).length ≤ 1) (es : List (LoginEvent P))
    (h : Guarded (step k) (fun s e => savesUnused k userId code s e = true) s es) :
    ((es.foldl (step k) s).returned.filter (passed k userId code)).length ≤ 1 := by
  have hinit : Inv k userId code s := by
    refine ⟨hids, by simp [hidle], .inl ⟨hone, ?_, by simp [hreturned]⟩⟩
    rintro p ⟨t, c, hc, -⟩
    simp [hidle] at hc
  rcases (Guarded.invariant (fun s e hs => hs.step) hinit h).stage with ⟨-, -, hnil⟩ |
    ⟨-, hnil, -⟩ | ⟨-, hlen, -⟩
  · simp [hnil]
  · simp [hnil]
  · exact Nat.le_of_eq hlen

def plainChecks : CodeChecks where
  toUpper code := String.ofList (code.toList.map Char.toUpper)
  validatePasswordAndHash password hash := password = hash
  validateTOTPCode _ _ _ := false

def oneCode : LoginSystem Bool where
  twoFAs := [{ id := 1, userId := 7, secret := "s" }]
  backupCodes := [{ id := 1, userId := 7, codeHash := "ABCD-1234" }]

def loadAndCall (p : Bool) (code : String) : List (LoginEvent Bool) :=
  [.load p 7, .call p code true, .next p false]

def twiceInTurn : List (LoginEvent Bool) :=
  loadAndCall true "abcd-1234" ++ [.next true false, .next true false] ++
    loadAndCall false "ABCD1234" ++ [.next true false, .next false false, .next false false]

theorem passedOnce_twiceInTurn :
    Guarded (step plainChecks)
    (fun s e => savesUnused plainChecks 7 "ABCD-1234" s e = true) oneCode twiceInTurn ∧
      ((twiceInTurn.foldl (step plainChecks) oneCode).returned.filter
        (passed plainChecks 7 "ABCD-1234")).length ≤ 1 := by
  have h : Guarded (step plainChecks) (fun s e =>
      savesUnused plainChecks 7 "ABCD-1234" s e = true) oneCode
      twiceInTurn := by
    decide +kernel
  exact ⟨h, passedOnce_of_savesUnused oneCode (fun _ => rfl) rfl (nodup_singleton _)
    (by decide +kernel) _ h⟩

/-- Two calls read the unused row before either of them saves it, and both return true. -/
theorem two_calls_pass : let es := loadAndCall true "ABCD-1234" ++ loadAndCall false "ABCD-1234" ++
      [.next true false, .next false false, .next true false, .next false false, .next true false,
       .next false false]
    ((es.foldl (step plainChecks) oneCode).returned.filter
      (passed plainChecks 7 "ABCD-1234")).length = 2 := by
  decide +kernel

end TokensFlux.LoginSystem
