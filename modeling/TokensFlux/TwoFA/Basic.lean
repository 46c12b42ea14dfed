import Mathlib.Data.Int.Notation
import TokensFlux.Lib.Rows

/-!
# Two-factor codes

A handler validates codes on its copy of the row; a backup code is looked up and saved as used
without a transaction.
-/

namespace TokensFlux

/-! ### Codes -/

def backupCodeLength : ℕ := 8

def maxFailAttempts : ℤ := 5

def lockoutDuration : ℤ := 300

/-- `strings.ToUpper`, bcrypt and the time-based codes. -/
structure CodeChecks where
  toUpper : String → String
  validatePasswordAndHash : String → String → Bool
  validateTOTPCode : String → String → ℤ → Bool

namespace CodeChecks

variable (k : CodeChecks)

variable (code : String)

def cleanCode : String :=
  k.toUpper (String.ofList (code.toList.filter (· ≠ '-')))

def validateBackupCode : Bool :=
  (k.cleanCode code).utf8ByteSize = backupCodeLength ∧
    (k.cleanCode code).toList.all fun char => ('A' ≤ char ∧ char ≤ 'Z') ∨ ('0' ≤ char ∧ char ≤ '9')

/-- For a code that has passed the check and so has one byte for every character. -/
def normalizeBackupCode : String :=
  let cleanCode := (k.cleanCode code).toList
  if (k.cleanCode code).utf8ByteSize = backupCodeLength
    then String.ofList (cleanCode.take 4 ++ '-' :: cleanCode.drop 4)
  else code

end CodeChecks

/-! ### Tables -/

structure TwoFA where
  id : ℤ
  userId : ℤ
  secret : String
  failedAttempts : ℤ := 0
  lockedUntil : Option ℤ := none
  lastUsedAt : Option ℤ := none
deriving DecidableEq, Repr

structure TwoFABackupCode where
  id : ℤ
  userId : ℤ
  codeHash : String
  isUsed : Bool := false
  usedAt : Option ℤ := none
deriving DecidableEq, Repr

structure TwoFATables where
  twoFAs : List TwoFA := []
  backupCodes : List TwoFABackupCode := []
deriving DecidableEq, Repr

namespace TwoFA

def isLocked (t : TwoFA) (now : ℤ) : Bool :=
  t.lockedUntil.any fun lockedUntil => now < lockedUntil

def incrementFailedAttempts (t : TwoFA) (now : ℤ) : TwoFA :=
  let failedAttempts := t.failedAttempts + 1
  { t with
    failedAttempts,
    lockedUntil := if failedAttempts ≥ maxFailAttempts then some (now + lockoutDuration)
      else t.lockedUntil }

def updateUsage (t : TwoFA) (now : ℤ) : TwoFA :=
  { t with failedAttempts := 0, lockedUntil := none, lastUsedAt := some now }

end TwoFA

/-! ### Calls -/

inductive CheckError
  | locked (lockedUntil : Option ℤ)
  | invalidCode
  | database
deriving DecidableEq, Repr

inductive CheckPhase
  | check
  | select
  | save (backupCode : TwoFABackupCode)
  | usage (valid : Bool)
deriving DecidableEq, Repr

/-- `isBackup` tells the two apart. -/
structure CheckCall where
  code : String
  isBackup : Bool
  phase : CheckPhase := .check
deriving DecidableEq, Repr

/-- The tables, the copy, and where the call is then or what it returns. -/
def CheckCall.next (k : CodeChecks) (c : CheckCall) (clock : ℤ) (fault : Bool)
    (tables : TwoFATables) (t : TwoFA) :
    TwoFATables × TwoFA × (CheckPhase ⊕ Except CheckError Bool) :=
  match c.phase with
  | .check =>
    if t.isLocked clock then (tables, t, .inr (.error (.locked t.lockedUntil)))
    else if c.isBackup then
      (tables, t, if k.validateBackupCode c.code then .inl .select else .inr (.error .invalidCode))
    else (tables, t, .inl (.usage (k.validateTOTPCode t.secret c.code clock)))
  | .select =>
    let unused := tables.backupCodes.filter fun row => row.userId = t.userId ∧ row.isUsed = false
    if fault then (tables, t, .inr (.error .database))
    else
      match unused.find? fun row => k.validatePasswordAndHash
        (k.normalizeBackupCode c.code) row.codeHash with
      | none => (tables, t, .inl (.usage false))
      | some row => (tables, t, .inl (.save { row with isUsed := true, usedAt := some clock }))
  | .save backupCode =>
    if fault then (tables, t, .inr (.error .database))
    else
      ({ tables with
          backupCodes := updateWhere (fun row => row.id = backupCode.id) (fun _ => backupCode)
            tables.backupCodes },
        t, .inl (.usage true))
  | .usage valid =>
    -- An error of this statement is only logged.
    let t := if valid then t.updateUsage clock else t.incrementFailedAttempts clock
    (if fault then tables
      else { tables with twoFAs := updateWhere (fun row => row.id =
                           t.id) (fun _ => t) tables.twoFAs },
      t, .inr (.ok valid))

/-! ### The system -/

structure Login where
  twoFA : TwoFA
  call : Option CheckCall := none
deriving DecidableEq, Repr

structure Returned where
  userId : ℤ
  code : String
  isBackup : Bool
  result : Except CheckError Bool

inductive LoginEvent (P : Type)
  | tick (seconds : ℕ)
  | load (p : P) (userId : ℤ)
  | call (p : P) (code : String) (isBackup : Bool)
  | next (p : P) (fault : Bool)

structure LoginSystem (P : Type) extends TwoFATables where
  logins : P → Option Login := fun _ => none
  clock : ℤ := 0
  returned : List Returned := []

namespace LoginSystem

variable {P : Type} [DecidableEq P]

def inCall (s : LoginSystem P) (p : P) : Option (TwoFA × CheckCall) :=
  (s.logins p).bind fun login => login.call.map fun c => (login.twoFA, c)

def step (k : CodeChecks) (s : LoginSystem P) : LoginEvent P → LoginSystem P
  | .tick seconds => { s with clock := s.clock + seconds }
  | .load p userId =>
    match s.inCall p with
    | some _ => s
    | none =>
      let row := if userId = 0 then none else s.twoFAs.find? fun row => row.userId = userId
      { s with logins := Function.update s.logins p (row.map fun twoFA => { twoFA }) }
  | .call p code isBackup =>
    match s.logins p with
    | some { twoFA, call := none } =>
      { s with logins := Function.update s.logins p (some { twoFA,
                                                            call := some { code, isBackup } }) }
    | _ => s
  | .next p fault =>
    match s.inCall p with
    | none => s
    | some (t, c) =>
      match c.next k s.clock fault s.toTwoFATables t with
      | (tables, twoFA, .inl phase) =>
        { s with
          toTwoFATables := tables,
          logins := Function.update s.logins p (some { twoFA, call := some { c with phase } }) }
      | (tables, twoFA, .inr result) =>
        { s with
          toTwoFATables := tables,
          logins := Function.update s.logins p (some { twoFA }),
          returned := s.returned ++ [⟨t.userId, c.code, c.isBackup, result⟩] }

end LoginSystem

end TokensFlux
