import TokensFlux.User.Basic

/-!
# Redemption codes

`Redeem` is one transaction.  `UpdateRedemption` loads the row and writes back the status it has
loaded.
-/

namespace TokensFlux

structure RedemptionRow extends Redemption where
  name : String
deriving DecidableEq, Repr

structure RedemptionEdit where
  name : String
  quota : ℤ
  expiredTime : ℤ
deriving DecidableEq, Repr

def validateExpiredTime (expired now : ℤ) : Bool :=
  !(decide (expired ≠ 0) && decide (expired < now))

def RedemptionRow.edit (row : RedemptionRow) (e : RedemptionEdit) : RedemptionRow :=
  { row with name := e.name, quota := e.quota, expiredTime := e.expiredTime }

/-- The user who has redeemed the code is the one column it leaves alone. -/
def RedemptionRow.update (row copy : RedemptionRow) : RedemptionRow :=
  { row with
    name := copy.name
    status := copy.status
    quota := copy.quota
    redeemedTime := copy.redeemedTime
    expiredTime := copy.expiredTime }

inductive RedeemPhase
  | loaded
  | marked (now : ℤ)
  | credited (now : ℤ)
deriving DecidableEq, Repr

structure RedeemCall where
  id : ℤ
  redemption : Redemption
  userId : ℤ
  phase : RedeemPhase
deriving DecidableEq, Repr

structure Payment where
  redemptionId : ℤ
  userId : ℤ
  quota : ℤ
deriving DecidableEq, Repr

/-- `payments` lists the credits that were committed. -/
structure RedemptionSystem (P : Type) where
  idOfKey : String → Option ℤ
  redemptions : ℤ → Option RedemptionRow
  userQuota : ℤ → ℤ
  redeems : P → Option RedeemCall := fun _ => none
  edits : P → Option (ℤ × RedemptionRow) := fun _ => none
  lock : ℤ → Option P := fun _ => none
  payments : List Payment := []

inductive RedemptionEvent (P : Type)
  | redeem (p : P) (key : String) (userId now : ℤ) (fault : Option Err)
  | mark (p : P) (now : ℤ) (fault : Option Err)
  | credit (p : P) (fault : Option Err)
  | commit (p : P) (fault : Option Err)
  | editRead (p : P) (id : ℤ) (edit : RedemptionEdit) (now : ℤ) (fault : Option Err)
  | editWrite (p : P) (fault : Option Err)
deriving DecidableEq, Repr

namespace RedemptionSystem

variable {P : Type} [DecidableEq P]

variable (s : RedemptionSystem P)

def waits (p : P) (id : ℤ) : Bool :=
  match s.lock id with
  | some q => q ≠ p
  | none => false

def release (p : P) : RedemptionSystem P :=
  { s with
    redeems := Function.update s.redeems p none
    lock := fun id => if s.lock id = some p then none else s.lock id }

def write (c : RedeemCall) (now : ℤ) : RedemptionSystem P :=
  { s with
    redemptions := Function.update s.redemptions c.id ((s.redemptions c.id).map fun row =>
      { row with status := .used, redeemedTime := now, usedUserId := c.userId })
    userQuota := Function.update s.userQuota c.userId (s.userQuota c.userId + c.redemption.quota)
    payments := s.payments ++ [⟨c.id, c.userId, c.redemption.quota⟩] }

/-- `sqlite` is `UsingMainDatabase(DatabaseTypeSQLite)`, where `lockForUpdate` locks nothing. -/
def step (sqlite : Bool) (s : RedemptionSystem P) : RedemptionEvent P → RedemptionSystem P
  | .redeem p key userId now fault =>
    if key = "" ∨ userId = 0 ∨ s.redeems p ≠ none then s
    else
      match s.idOfKey key, fault with
      | some id, none =>
        if !sqlite && s.waits p id then s
        else
          match Redemption.check ((s.redemptions id).map (·.toRedemption)) now with
          | .error _ => s
          | .ok redemption =>
            { s with
              redeems := Function.update s.redeems p (some ⟨id, redemption, userId, .loaded⟩)
              lock := if sqlite then s.lock else Function.update s.lock id (some p) }
      | _, _ => s
  | .mark p now fault =>
    match s.redeems p with
    | some ⟨id, redemption, userId, .loaded⟩ =>
      if fault ≠ none then s.release p
      else if s.waits p id then s
      -- The condition on the status is checked again; with no row affected `Redeem` rolls back.
      else if (s.redemptions id).map (·.status) = some .enabled then
        { s with
          redeems := Function.update s.redeems p (some ⟨id, redemption, userId, .marked now⟩)
          lock := Function.update s.lock id (some p) }
      else s.release p
    | _ => s
  | .credit p fault =>
    match s.redeems p with
    | some ⟨id, redemption, userId, .marked now⟩ =>
      if fault ≠ none then s.release p
      else
        { s with
          redeems := Function.update s.redeems p (some ⟨id, redemption, userId, .credited now⟩) }
    | _ => s
  | .commit p fault =>
    match s.redeems p with
    | some ⟨id, redemption, userId, .credited now⟩ =>
      if fault ≠ none then s.release p
      else (s.write ⟨id, redemption, userId, .credited now⟩ now).release p
    | _ => s
  | .editRead p id edit now fault =>
    match s.redemptions id, fault with
    | some row, none =>
      if id ≠ 0 ∧ validateExpiredTime edit.expiredTime now then
        { s with edits := Function.update s.edits p (some (id, row.edit edit)) }
      else s
    | _, _ => s
  | .editWrite p fault =>
    match s.edits p with
    | none => s
    | some (id, copy) =>
      if fault ≠ none then { s with edits := Function.update s.edits p none }
      else if s.lock id ≠ none then s
      else
        { s with
          redemptions := Function.update s.redemptions id ((s.redemptions id).map (·.update copy))
          edits := Function.update s.edits p none }

end RedemptionSystem

end TokensFlux
