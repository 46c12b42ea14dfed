import TokensFlux.Lib.Guarded
import TokensFlux.Store.Equiv.Ledger
import TokensFlux.Token.Basic

/-!
# What edits of a token do to its quota

A charge changes the two columns by opposite amounts.  An edit sets `remain_quota` to the value it
has loaded (or, without `status_only`, to the one of the request) and leaves `used_quota` alone.
-/

namespace TokensFlux

open Option Function TokenTables TokenSystem Except

/-! ### Charges -/

variable {fault : Option Err} {s : Store}

theorem Store.addTokenQuota_row {s' : Store} {id delta : ℤ}
    (h : s.addTokenQuota fault id delta = .ok s') :
    s'.batchUpdateEnabled = s.batchUpdateEnabled ∧ s'.token = update s.token id
        { s.token id with
          remainQuota := (s.token id).remainQuota + delta
          usedQuota := (s.token id).usedQuota - delta } := by
  cases fault with
  | some => cases h
  | none =>
    cases h
    exact ⟨rfl, rfl⟩

theorem Store.increaseTokenQuota_direct (hdirect : s.batchUpdateEnabled = false)
    (fault : Option Err) (id quota : ℤ) :
    ∀ s', s.increaseTokenQuota fault id quota = .ok s' →
      s.addTokenQuota fault id quota = .ok s' := by
  intro s' h
  unfold increaseTokenQuota at h
  split_ifs at h with _ hbatch
  · exact absurd (hdirect.symm.trans hbatch) Bool.false_ne_true
  · exact h

theorem Store.decreaseTokenQuota_direct (hdirect : s.batchUpdateEnabled = false)
    (fault : Option Err) (id quota : ℤ) :
    ∀ s', s.decreaseTokenQuota fault id quota = .ok s' →
      s.addTokenQuota fault id (-quota) = .ok s' := by
  intro s' h
  unfold decreaseTokenQuota at h
  split_ifs at h with _ hbatch
  · exact absurd (hdirect.symm.trans hbatch) Bool.false_ne_true
  · exact h

/-! ### Edits -/

namespace TokenTables

variable {t : TokenTables} {token : TokenRow} {id : ℤ}

theorem row_eq_some (h : t.row id = some token) :
    token.id = id ∧ token.toToken = t.store.token id ∧ (t.columns id).isSome := by
  rw [row, map_eq_some_iff] at h
  obtain ⟨_, hcolumns, rfl⟩ := h
  exact ⟨rfl, rfl, by rw [hcolumns]; rfl⟩

theorem getTokenByIds_ok {userId : ℤ} (h : t.getTokenByIds fault id userId = .ok token) :
    t.row id = some token := by
  unfold getTokenByIds at h
  split_ifs at h
  split at h
  · cases h
  · cases h
  · rename_i hrow
    split_ifs at h
    rw [hrow, ok.inj h]

theorem getTokenById_ok (h : t.getTokenById fault id = .ok token) : t.row id = some token := by
  unfold getTokenById at h
  split_ifs at h
  split at h
  · cases h
  · cases h
  · rename_i hrow
    rw [hrow, ok.inj h]

theorem prepareUpdate_ok {quotaPerUnit : ℚ} {now : ℤ} {req : UpdateTokenRequest}
    (h : t.prepareUpdate quotaPerUnit now fault req = .ok token) :
    ∃ cleanToken, t.row req.token.id = some cleanToken ∧
      token = cleanToken.edit req.token req.statusOnly := by
  unfold prepareUpdate at h
  split at h
  · cases h
  split at h
  · cases h
  rename_i cleanToken hget
  split at h
  · cases h
  · exact ⟨cleanToken, getTokenByIds_ok hget, (ok.inj h).symm⟩

theorem prepareDisable_ok (h : t.prepareDisable fault id = .ok token) :
    ∃ cleanToken, t.row id = some cleanToken ∧ token = cleanToken.disableLimits := by
  unfold prepareDisable at h
  cases hget : t.getTokenById fault id with
  | error => rw [hget] at h; cases h
  | ok cleanToken =>
    rw [hget] at h
    exact ⟨cleanToken, getTokenById_ok hget, (ok.inj h).symm⟩

def Exists (t : TokenTables) (token : TokenRow) : Prop :=
  (t.columns token.id).isSome

theorem exists_of_prepareUpdate {quotaPerUnit : ℚ} {now : ℤ} {req : UpdateTokenRequest}
    (h : t.prepareUpdate quotaPerUnit now fault req = .ok token) : t.Exists token := by
  obtain ⟨cleanToken, hrow, rfl⟩ := prepareUpdate_ok h
  obtain ⟨hid, -, hsome⟩ := row_eq_some hrow
  have hedit : (cleanToken.edit req.token req.statusOnly).id = cleanToken.id := by
    unfold TokenRow.edit
    split_ifs <;> rfl
  rw [Exists, hedit, hid]
  exact hsome

theorem exists_of_prepareDisable (h : t.prepareDisable fault id = .ok token) : t.Exists token := by
  obtain ⟨_, hrow, rfl⟩ := prepareDisable_ok h
  obtain ⟨hid, -, hsome⟩ := row_eq_some hrow
  rw [Exists, TokenRow.disableLimits, hid]
  exact hsome

theorem update_of_exists (htoken : t.Exists token) : ∃ t', t.update none token = .ok t' ∧
      t'.store.batchUpdateEnabled = t.store.batchUpdateEnabled ∧
      (∀ k, (t.columns k).isSome → (t'.columns k).isSome) ∧
      t'.store.token = Function.update t.store.token token.id
        { token.toToken with usedQuota := (t.store.token token.id).usedQuota } := by
  obtain ⟨_, hcolumns⟩ := isSome_iff_exists.mp htoken
  unfold update
  rw [hcolumns]
  refine ⟨_, rfl, rfl, ?_, rfl⟩
  intro k hk
  by_cases hkid : k = token.id
  · simp [hkid]
  · simpa [update_of_ne hkid] using hk

end TokenTables

namespace TokenSystem

variable {P : Type} {quotaPerUnit : ℚ} {s : TokenSystem P} {id : ℤ}

structure Sound (s : TokenSystem P) : Prop where
  direct : s.tables.store.batchUpdateEnabled = false
  edits : ∀ p token, s.edits p = some token → s.tables.Exists token

/-- The remainder without the charges so far, and the sum of its two columns. -/
def accounts (s : TokenSystem P) (id : ℤ) : ℤ × ℤ :=
  let token := s.tables.store.token id
  (token.remainQuota - s.credited id, token.remainQuota + token.usedQuota)

theorem charge_accounts {tokenId quota : ℤ} {r : Except Err Store}
    (hr : ∀ store, r = .ok store → s.tables.store.addTokenQuota fault tokenId quota = .ok store)
    (h : s.Sound)
    (id : ℤ) : (s.charge tokenId quota r).Sound ∧ (s.charge tokenId quota r).accounts id =
      s.accounts id := by
  obtain _ | store := r
  · exact ⟨h, rfl⟩
  obtain ⟨hbatch, htoken⟩ := Store.addTokenQuota_row (hr store rfl)
  refine ⟨⟨hbatch.trans h.direct, h.edits⟩, ?_⟩
  by_cases hid : id = tokenId
  · subst hid
    simp [charge, accounts, htoken]
  · simp [charge, accounts, htoken, update_of_ne hid]

variable [DecidableEq P]

/-! ### An edit with nothing in between -/

theorem tables_write (quotaPerUnit : ℚ) (s : TokenSystem P) (p : P) (write : Option Err)
    (edit : Option TokenRow) :
    (step quotaPerUnit { s with edits := update s.edits p edit } (.write p write)).tables =
      ((edit.bind fun token => (s.tables.update write token).toOption).getD s.tables) := by
  cases edit with
  | none => simp [step]
  | some token =>
    simp only [step, update_self, bind_some]
    cases s.tables.update write token <;> rfl

/-- The two statements of `UpdateToken`. -/
theorem tables_updateToken (s : TokenSystem P) (p : P) (req : UpdateTokenRequest) (now : ℤ)
    (read write : Option Err) :
    ([.updateRead p req now read, .write p write].foldl (step quotaPerUnit) s).tables =
      (s.tables.updateToken quotaPerUnit now read write req).toOption.getD s.tables := by
  refine (tables_write quotaPerUnit s p write
    (s.tables.prepareUpdate quotaPerUnit now read req).toOption).trans ?_
  unfold updateToken
  cases s.tables.prepareUpdate quotaPerUnit now read req with
  | error => rfl
  | ok token =>
    dsimp only [Except.toOption, bind_some]
    cases s.tables.update write token <;> rfl

/-- The two statements of `DisableModelLimits`. -/
theorem tables_disableModelLimits (s : TokenSystem P) (p : P) (tokenId : ℤ)
    (read write : Option Err) :
    ([.disableRead p tokenId read, .write p write].foldl (step quotaPerUnit) s).tables =
      (s.tables.disableModelLimits read write tokenId).toOption.getD s.tables := by
  refine (tables_write quotaPerUnit s p write (s.tables.prepareDisable read tokenId).toOption).trans
    ?_
  unfold disableModelLimits
  cases s.tables.prepareDisable read tokenId <;> rfl

/-! ### Any interleaving -/

def WritesCurrent (id : ℤ) (s : TokenSystem P) : TokenEvent P → Prop
  | .write p none =>
    ∀ token ∈ s.edits p, token.id = id → token.remainQuota = (s.tables.store.token id).remainQuota
  | _ => True

instance (id : ℤ) (s : TokenSystem P) : DecidablePred (s.WritesCurrent id)
  | .write p none => inferInstanceAs (Decidable (∀ token ∈ s.edits p, _ → _))
  | .write _ (some _) | .updateRead .. | .disableRead .. | .increase ..
  | .decrease .. => instDecidableTrue

theorem Sound.setEdit (h : s.Sound) (p : P) {edit : Option TokenRow}
    (hedit : ∀ token, edit = some token → s.tables.Exists token) :
    ({ s with edits := update s.edits p edit } : TokenSystem P).Sound :=
  ⟨h.direct, forall_update (fun q token _ => h.edits q token) hedit⟩

theorem write_accounts (h : s.Sound) (p : P) (fault : Option Err) (id : ℤ) :
    (step quotaPerUnit s (.write p fault)).Sound ∧
      ((step quotaPerUnit s (.write p fault)).accounts id = s.accounts id ↔
        s.WritesCurrent id (.write p fault)) := by
  rw [step]
  rcases hedit : s.edits p with _ | token
  · cases fault <;> simp [WritesCurrent, hedit, h]
  have hdone := h.setEdit p fun token htoken => absurd htoken (some_ne_none token).symm
  cases fault with
  | some => exact ⟨hdone, iff_of_true rfl trivial⟩
  | none =>
    obtain ⟨_, hupdate, hbatch, hcolumns, htoken⟩ :=
      update_of_exists (h.edits p token hedit)
    dsimp only
    rw [hupdate, WritesCurrent, hedit]
    refine ⟨⟨hbatch.trans h.direct, fun q t ht => hcolumns _ (hdone.edits q t ht)⟩, ?_⟩
    by_cases hid : token.id = id
    · subst hid
      simp [accounts, htoken]
    · simp [accounts, htoken, update_of_ne (Ne.symm hid), hid]

theorem step_accounts (h : s.Sound) (e : TokenEvent P) (id : ℤ) : (step quotaPerUnit s e).Sound ∧
      ((step quotaPerUnit s e).accounts id = s.accounts id ↔ s.WritesCurrent id e) := by
  cases e with
  | updateRead p =>
    refine ⟨h.setEdit p ?_, iff_of_true rfl trivial⟩
    intro token htoken
    exact exists_of_prepareUpdate (eq_ok_of_toOption htoken)
  | disableRead p =>
    refine ⟨h.setEdit p ?_, iff_of_true rfl trivial⟩
    intro token htoken
    exact exists_of_prepareDisable (eq_ok_of_toOption htoken)
  | write p fault => exact write_accounts h p fault id
  | increase tokenId quota fault =>
    have hcharge :=
      charge_accounts (Store.increaseTokenQuota_direct h.direct fault tokenId quota) h id
    exact ⟨hcharge.1, iff_of_true hcharge.2 trivial⟩
  | decrease tokenId quota fault =>
    have hcharge :=
      charge_accounts (Store.decreaseTokenQuota_direct h.direct fault tokenId quota) h id
    exact ⟨hcharge.1, iff_of_true hcharge.2 trivial⟩

end TokenSystem

variable {P : Type} [DecidableEq P]

/-- **Edits and charges.** No charge is lost, and the sum of the two columns is constant, throughout
a run exactly if every edit of the token that is written has the `remain_quota` the row has. -/
theorem tokenQuota_kept_iff (quotaPerUnit : ℚ) (tables : TokenTables)
    (hdirect : tables.store.batchUpdateEnabled = false) (id : ℤ) (es : List (TokenEvent P)) :
    Guarded (step quotaPerUnit) (TokenSystem.WritesCurrent id)
    (.init tables) es ↔ ∀ es', es' <+: es → let s := es'.foldl (step quotaPerUnit) (.init tables)
        let token := s.tables.store.token id
        let token₀ := tables.store.token id
        token.remainQuota = token₀.remainQuota + s.credited id ∧
          token.remainQuota + token.usedQuota = token₀.remainQuota + token₀.usedQuota := by
  let s₀ : TokenSystem P := .init tables
  have hstep : ∀ (s : TokenSystem P) (e : TokenEvent P), s.Sound ∧ s.accounts id = s₀.accounts id →
        ((s.step quotaPerUnit e).Sound ∧ (s.step quotaPerUnit e).accounts id = s₀.accounts id ↔
          s.WritesCurrent id e) := by
    rintro s e ⟨hs, haccounts⟩
    rw [← haccounts, ← (step_accounts hs e id).2]
    exact and_iff_right (step_accounts hs e id).1
  have h₀ : s₀.Sound := by
    refine ⟨hdirect, ?_⟩
    intro p token htoken
    cases htoken
  have hsound : ∀ es' : List (TokenEvent P), (es'.foldl (step quotaPerUnit) s₀).Sound := by
    intro es'
    have hkeep : ∀ (s : TokenSystem P) e, s.Sound → (s.step quotaPerUnit e).Sound :=
      fun s e hs => (step_accounts hs e id).1
    exact Guarded.invariant_of_step hkeep es' h₀
  rw [Guarded.iff_forall_prefix hstep ⟨h₀, rfl⟩]
  apply forall_congr'
  intro es'
  apply imp_congr_right
  intro _
  rw [and_iff_right (hsound es'), Prod.ext_iff]
  simp only [accounts, s₀, init, sub_zero, sub_eq_iff_eq_add]

def TokenTables.sample : TokenTables where
  store := { Store.empty with token := fun _ => ⟨50, 0, false⟩ }
  columns id :=
    if id = 7 then
      some { userId := 1, status := 1, name := "key", expiredTime := -1,
             modelLimitsEnabled := false, modelLimits := "", allowIps := none, group := "",
             crossGroupRetry := false }
    else none

def UpdateTokenRequest.sample : UpdateTokenRequest where
  userId := 1
  statusOnly := true
  token :=
    { remainQuota := 0, usedQuota := 0, unlimitedQuota := false, userId := 0,
      status := 2, name := "", expiredTime := 0, modelLimitsEnabled := false, modelLimits := "",
      allowIps := none, group := "", crossGroupRetry := false, id := 7 }

theorem tokenQuota_kept_of_sequential : sample.store.batchUpdateEnabled = false ∧
      ∀ es', es' <+: [TokenEvent.decrease 7 20 none,
        .updateRead () .sample 0 none, .write () none] →
        let s := es'.foldl (step 500000) (.init .sample)
        (s.tables.store.token 7).remainQuota = 50 + s.credited 7 ∧
          (s.tables.store.token 7).remainQuota + (s.tables.store.token 7).usedQuota = 50 + 0 :=
  ⟨rfl, (tokenQuota_kept_iff 500000 .sample rfl 7 _).mp (by decide +kernel)⟩

/-- The charge of 20 falls between the load and the write of an edit of the status. -/
theorem tokenQuota_lost_by_edit :
    let s := [TokenEvent.updateRead () .sample 0 none, .decrease 7 20 none, .write () none].foldl
      (step 500000) (.init .sample)
    s.credited 7 = -20 ∧ s.tables.store.token 7 = ⟨50, 20, false⟩ := by
  decide +kernel

end TokensFlux
