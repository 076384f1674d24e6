import Treasury.Ledger.Posting
import Treasury.Process

namespace Treasury.Rewards

def lockEarnings (user : Int) : Work RewardError Earnings :=
  (Store.lockEarnings user).told (.storage ("earnings of " ++ toString user))

def writeEarnings (refuse : StoreError → RewardError) (e : Earnings) : Work RewardError Unit := do
  let now ← Work.now
  (Store.upsertEarnings { e with updatedAt := now }).told refuse

def trackIn (referrer referee : Int) (bonus : Decimal) (refuse : StoreError → RewardError) :
    Work RewardError Referral := do
  if ((← (Store.findReferralByReferee referee).told refuse)).isSome then
    Work.refuse (.alreadyReferred referee)
  else
    let id ← Work.issue Supply.referral
    let referral : Referral := ⟨id, referrer, referee, bonus, ← Work.now⟩
    (Store.insertReferral referral).told fun e =>
      if e.isUniqueViolation then .alreadyReferred referee else refuse e
    let earnings ← lockEarnings referrer
    let totalEarned ← Work.exactly (earnings.totalEarned.add bonus)
    let available ← Work.exactly (earnings.available.add bonus)
    writeEarnings refuse { earnings with totalEarned, available }
    Work.commit.told refuse
    Work.report (.of .rewards .info "Referral tracked"
      [("referrer_id", .number referrer), ("referee_id", .number referee),
        ("bonus", .shown bonus.toText), ("available", .shown available.toText)])
    return referral

def track (referrer referee : Int) (bonus : Decimal) : Task RewardError Referral :=
  if referrer = referee then Task.refuse (.selfReferral referrer)
  else if bonus ≤ 0 then Task.refuse (.invalidAmount bonus)
  else
    let refuse := RewardError.storage ("track referral of " ++ toString referee)
    Task.unit refuse (trackIn referrer referee bonus refuse)

-- A user without a row has earned nothing; the lookup writes none.
def earnings (user : Int) : Task RewardError Earnings :=
  let refuse := RewardError.storage ("earnings of " ++ toString user)
  Task.unit refuse do
    match ← (Store.findEarnings user).told refuse with
    | some e => return e
    | none => return .empty user (← Work.now)

def requestIn (policy : RewardPolicy) (user : Int) (amount : Decimal)
    (refuse : StoreError → RewardError) : Work RewardError Withdrawal := do
  let earnings ← lockEarnings user
  if earnings.available < amount then
    Work.refuse (.insufficientBalance earnings.available amount)
  else
    let wallet ← Work.found (.settlementWalletNotFound user)
      (← (Store.findWalletByOwner user policy.settlementCurrency).told refuse)
    let available ← Work.exactly (earnings.available.sub amount)
    writeEarnings refuse { earnings with available }
    let now ← Work.now
    let id ← Work.issue Supply.withdrawal
    let request : Withdrawal := ⟨id, user, amount, wallet.id, .pending, none, now, now⟩
    (Store.insertWithdrawalRequest request).told refuse
    Work.commit.told refuse
    Work.report (.of .rewards .info "Withdrawal requested"
      [("request_id", .shown (toString id)), ("user_id", .number user),
        ("wallet_id", .shown (toString wallet.id)), ("amount", .shown amount.toText)])
    return request

-- The threshold is looked at before the balance.
def request (policy : RewardPolicy) (user : Int) (amount : Decimal) : Task RewardError Withdrawal :=
  if amount ≤ 0 then Task.refuse (.invalidAmount amount)
  else if amount < policy.threshold then Task.refuse (.belowThreshold amount policy.threshold)
  else
    let refuse := RewardError.storage ("withdrawal for user " ++ toString user)
    Task.unit refuse (requestIn policy user amount refuse)

def get (id : WithdrawalId) : Task RewardError Withdrawal :=
  let refuse := RewardError.storage ("withdrawal request " ++ toString id)
  Task.unit refuse do
    Work.found (.notFound id) (← (Store.findWithdrawalRequest id).told refuse)

-- The key ties a payout to its request.
def payoutDraft (r : Withdrawal) (w : Wallet) : Draft :=
  ⟨some ("referral-withdrawal:" ++ toString r.id), .referralPayout, w.id, w.ownerId, w.currency,
    r.amount, 0, none, "Referral earnings withdrawal", .referral r.id⟩

def payOut (r : Withdrawal) : Work RewardError TransactionId := do
  let context := "pay out withdrawal request " ++ toString r.id
  let w ← Work.found (.settlementWalletNotFound r.userId)
    (← (Store.findWalletForUpdate r.walletId).told (.storage context))
  let now ← Work.now
  let id ← Work.issue Supply.transaction
  let t := { (payoutDraft r w).toTransaction id now with status := .succeeded }
  (Store.insertTransaction t).told (.storage context)
  let _ ← (Ledger.counterparty t.id .rewards w.currency (-r.amount) (-r.amount)).told (.posting context)
  let _ ← (Ledger.credit w t.id r.amount r.amount).told (.posting context)
  Work.report (.of .rewards .info "Referral payout credited"
    [("transaction_id", .shown (toString t.id)), ("wallet_id", .shown (toString w.id)),
      ("amount", .shown r.amount.toText)])
  return t.id

def carryOut (r : Withdrawal) (status : WithdrawalStatus) (e : Earnings) :
    Work RewardError (Earnings × Option TransactionId) :=
  match status with
  | .rejected => do
    let available ← Work.exactly (e.available.add r.amount)
    return ({ e with available }, r.transactionId)
  | .completed => do
    let payout ← payOut r
    let withdrawn ← Work.exactly (e.withdrawn.add r.amount)
    return ({ e with withdrawn }, some payout)
  | .approved | .pending => return (e, r.transactionId)

def updateIn (id : WithdrawalId) (status : WithdrawalStatus) (refuse : StoreError → RewardError) :
    Work RewardError Withdrawal := do
  let r ← Work.found (.notFound id) (← (Store.findWithdrawalRequestForUpdate id).told refuse)
  if r.status = status then
    Work.report (.of .rewards .debug "Withdrawal request already in status"
      [("request_id", .shown (toString id)), ("status", .shown status.name)])
    return r
  else if !r.status.canBecome status then
    Work.report (.of .rewards .warn "Rejected withdrawal status change"
      [("request_id", .shown (toString id)), ("from", .shown r.status.name),
        ("to", .shown status.name)])
    Work.refuse (.invalidStatusTransition id r.status status)
  else
    let (earnings, payout) ← carryOut r status (← lockEarnings r.userId)
    writeEarnings refuse earnings
    (Store.updateWithdrawalRequest id status payout).told refuse
    Work.commit.told refuse
    Work.report (.of .rewards .info "Withdrawal request updated"
      [("request_id", .shown (toString id)), ("user_id", .number r.userId),
        ("from", .shown r.status.name), ("to", .shown status.name)])
    return { r with status, transactionId := payout, updatedAt := ← Work.now }

-- Moves a request forward. Setting the same status again changes nothing.
def update (id : WithdrawalId) (status : WithdrawalStatus) : Task RewardError Withdrawal :=
  let refuse := RewardError.storage ("update withdrawal request " ++ toString id)
  Task.unit refuse (updateIn id status refuse)

end Treasury.Rewards
