import TokensFlux.Common.Quota
import TokensFlux.Common.Str
import TokensFlux.Store.Basic

/-!
# Tokens

`Token.Update` writes `remain_quota` back whether or not it was changed, and never `used_quota`.
The charges of the relay are relative updates of both columns.  Redis is not used.
-/

namespace TokensFlux

structure TokenColumns where
  userId : ℤ
  status : ℤ
  name : String
  expiredTime : ℤ
  modelLimitsEnabled : Bool
  modelLimits : String
  allowIps : Option String
  group : String
  crossGroupRetry : Bool
deriving DecidableEq, Repr

structure TokenRow extends Token, TokenColumns where
  id : ℤ
deriving DecidableEq, Repr

def tokenStatusEnabled : ℤ := 1

def tokenStatusExpired : ℤ := 3

def tokenStatusExhausted : ℤ := 4

inductive TokenError
  | nameTooLong
  | quotaNegative
  | quotaExceedMax (max : ℤ)
  | expiredCannotEnable
  | exhaustedCannotEnable
  | other (e : Err)
deriving DecidableEq, Repr

/-- The key of the message in the package `i18n`, or the text of the error itself. -/
def TokenError.key : TokenError → String
  | .nameTooLong => "token.name_too_long"
  | .quotaNegative => "token.quota_negative"
  | .quotaExceedMax _ => "token.quota_exceed_max"
  | .expiredCannotEnable => "token.expired_cannot_enable"
  | .exhaustedCannotEnable => "token.exhausted_cannot_enable"
  | .other e => e

/-! ### The table -/

structure TokenTables where
  store : Store
  columns : ℤ → Option TokenColumns

namespace TokenTables

variable (t : TokenTables)

def row (id : ℤ) : Option TokenRow :=
  (t.columns id).map fun columns =>
    { t.store.token id with toTokenColumns := columns, id }

def getTokenByIds (fault : Option Err) (id userId : ℤ) : Except Err TokenRow :=
  if id = 0 ∨ userId = 0 then .error "id 或 userId 为空！"
  else
    match fault, t.row id with
    | some e, _ => .error e
    | none, none => .error "record not found"
    | none, some token => if token.userId = userId then .ok token else .error "record not found"

def getTokenById (fault : Option Err) (id : ℤ) : Except Err TokenRow :=
  if id = 0 then .error "id 为空！"
  else
    match fault, t.row id with
    | some e, _ => .error e
    | none, none => .error "record not found"
    | none, some token => .ok token

/-- Everything but the owner and the used quota is written. -/
def update (fault : Option Err) (token : TokenRow) : Except Err TokenTables :=
  match fault, t.columns token.id with
  | some e, _ => .error e
  | none, none => .ok t
  | none, some columns =>
    let quota := { token.toToken with usedQuota := (t.store.token token.id).usedQuota }
    .ok
      { store := { t.store with token := Function.update t.store.token token.id quota }
        columns := Function.update t.columns token.id
          (some { token.toTokenColumns with userId := columns.userId }) }

end TokenTables

/-! ### Edits -/

def checkTokenRequest (quotaPerUnit : ℚ) (token : TokenRow) : Except TokenError Unit :=
  let maxQuotaValue := truncate (1000000000 * quotaPerUnit)
  if 50 < byteLength token.name then .error .nameTooLong
  else if token.unlimitedQuota then .ok ()
  else if token.remainQuota < 0 then .error .quotaNegative
  else if maxQuotaValue < token.remainQuota then .error (.quotaExceedMax maxQuotaValue)
  else .ok ()

def checkEnable (now : ℤ) (cleanToken : TokenRow) : Except TokenError Unit :=
  if cleanToken.status = tokenStatusExpired ∧ cleanToken.expiredTime ≤ now ∧
    cleanToken.expiredTime ≠ -1 then
    .error .expiredCannotEnable
  else if cleanToken.status = tokenStatusExhausted ∧ cleanToken.remainQuota ≤ 0 ∧
      cleanToken.unlimitedQuota = false then
    .error .exhaustedCannotEnable
  else .ok ()

/-- With `status_only` the status alone. -/
def TokenRow.edit (cleanToken token : TokenRow) (statusOnly : Bool) : TokenRow :=
  if statusOnly then { cleanToken with status := token.status }
  else
    { cleanToken with
      name := token.name
      expiredTime := token.expiredTime
      remainQuota := token.remainQuota
      unlimitedQuota := token.unlimitedQuota
      modelLimitsEnabled := token.modelLimitsEnabled
      modelLimits := token.modelLimits
      allowIps := token.allowIps
      group := token.group
      crossGroupRetry := token.crossGroupRetry }

def TokenRow.disableLimits (token : TokenRow) : TokenRow :=
  { token with modelLimitsEnabled := false, modelLimits := "" }

structure UpdateTokenRequest where
  userId : ℤ
  statusOnly : Bool
  token : TokenRow
deriving DecidableEq, Repr

namespace TokenTables

variable (t : TokenTables)

def prepareUpdate (quotaPerUnit : ℚ) (now : ℤ) (fault : Option Err)
    (req : UpdateTokenRequest) : Except TokenError TokenRow :=
  match checkTokenRequest quotaPerUnit req.token with
  | .error err => .error err
  | .ok () =>
    match t.getTokenByIds fault req.token.id req.userId with
    | .error e => .error (.other e)
    | .ok cleanToken =>
      match if req.token.status = tokenStatusEnabled then checkEnable now cleanToken
          else .ok () with
      | .error err => .error err
      | .ok () => .ok (cleanToken.edit req.token req.statusOnly)

def prepareDisable (fault : Option Err) (tokenId : ℤ) : Except Err TokenRow :=
  (t.getTokenById fault tokenId).map TokenRow.disableLimits

def updateToken (quotaPerUnit : ℚ) (now : ℤ) (read write : Option Err)
    (req : UpdateTokenRequest) : Except TokenError TokenTables :=
  match t.prepareUpdate quotaPerUnit now read req with
  | .error err => .error err
  | .ok token => (t.update write token).mapError .other

def disableModelLimits (read write : Option Err) (tokenId : ℤ) : Except Err TokenTables :=
  match t.prepareDisable read tokenId with
  | .error e => .error e
  | .ok token => t.update write token

end TokenTables

/-! ### Interleavings -/

/-- The edits that have loaded a token and are about to write it, and what the charges have added to
each token. -/
structure TokenSystem (P : Type) where
  tables : TokenTables
  edits : P → Option TokenRow
  credited : ℤ → ℤ

inductive TokenEvent (P : Type)
  | updateRead (p : P) (req : UpdateTokenRequest) (now : ℤ) (fault : Option Err)
  | disableRead (p : P) (tokenId : ℤ) (fault : Option Err)
  | write (p : P) (fault : Option Err)
  | increase (tokenId quota : ℤ) (fault : Option Err)
  | decrease (tokenId quota : ℤ) (fault : Option Err)

namespace TokenSystem

variable {P : Type} [DecidableEq P]

def init (tables : TokenTables) : TokenSystem P where
  tables := tables
  edits _ := none
  credited _ := 0

def charge (s : TokenSystem P) (tokenId quota : ℤ) : Except Err Store → TokenSystem P
  | .error _ => s
  | .ok store =>
    { s with
      tables.store := store
      credited := Function.update s.credited tokenId (s.credited tokenId + quota) }

def step (quotaPerUnit : ℚ) (s : TokenSystem P) : TokenEvent P → TokenSystem P
  | .updateRead p req now fault =>
    { s with
      edits := Function.update s.edits p (s.tables.prepareUpdate quotaPerUnit now
        fault req).toOption }
  | .disableRead p tokenId fault =>
    { s with edits := Function.update s.edits p (s.tables.prepareDisable fault tokenId).toOption }
  | .write p fault =>
    match s.edits p with
    | none => s
    | some token =>
      let s := { s with edits := Function.update s.edits p none }
      match s.tables.update fault token with
      | .error _ => s
      | .ok tables => { s with tables }
  | .increase tokenId quota fault =>
    s.charge tokenId quota (s.tables.store.increaseTokenQuota fault tokenId quota)
  | .decrease tokenId quota fault =>
    s.charge tokenId (-quota) (s.tables.store.decreaseTokenQuota fault tokenId quota)

end TokenSystem

end TokensFlux
