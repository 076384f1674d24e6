import Treasury.Process
import Treasury.Wallet.Failure

namespace Treasury.Wallets

def createIn (owner : Int) (currency : Currency) (walletType : WalletType) :
    Work WalletError Wallet := do
  let now ← Work.now
  let id ← Work.issue Supply.wallet
  let w : Wallet := ⟨id, owner, currency, 0, walletType, .active, now, now⟩
  (Store.insertWallet w).told fun e =>
    if e.isUniqueViolation then .duplicateWallet owner currency
    else .storage ("insert wallet for owner " ++ toString owner) e
  return w

def create (owner : Int) (currency : Currency) (walletType : WalletType) :
    Task WalletError Wallet :=
  Task.unit (.storage "create wallet") do
    let w ← createIn owner currency walletType
    Work.commit.told (.storage ("commit wallet " ++ toString w.id))
    Work.report (.of .wallets .info "Wallet created"
      [("wallet_id", .shown (toString w.id)), ("owner_id", .number owner),
        ("currency", .shown currency.code), ("wallet_type", .text walletType.name)])
    return w

def request (owner : Int) (r : WalletRequest) : Task WalletError Wallet := do
  let (currency, walletType) ← Task.checked r.parse
  create owner currency walletType

def get (id : WalletId) : Task WalletError Wallet :=
  let refuse := WalletError.storage ("get wallet " ++ toString id)
  Task.unit refuse do
    Work.found (.notFound (toString id)) (← (Store.findWallet id).told refuse)

def ofOwner (owner : Int) (currency : Currency) : Task WalletError Wallet :=
  let refuse := WalletError.storage ("get wallet of owner " ++ toString owner ++ " in " ++ currency.code)
  Task.unit refuse do
    Work.found (.notFound ("owner " ++ toString owner ++ " " ++ currency.code))
      (← (Store.findWalletByOwner owner currency).told refuse)

-- Setting the same status again changes nothing. A wallet closes at a balance of zero, and
-- nothing opens it again.
def setStatus (id : WalletId) (status : WalletStatus) : Task WalletError Wallet :=
  let refuse := WalletError.storage ("set status of wallet " ++ toString id)
  Task.unit refuse do
    let w ← Work.found (.notFound (toString id)) (← (Store.findWalletForUpdate id).told refuse)
    if w.status = status then return w
    else if w.status = .closed then Work.refuse (.invalidStatusTransition id w.status status)
    else if status = .closed ∧ !w.balance.isZero then Work.refuse (.walletNotEmpty id)
    else
      (Store.updateWalletStatus id status).told refuse
      Work.commit.told refuse
      Work.report (.of .wallets .info "Wallet status changed"
        [("wallet_id", .shown (toString id)), ("from", .shown w.status.name),
          ("to", .shown status.name)])
      return { w with status }

def verify (id : WalletId) : Task WalletError Wallet.Audit :=
  let refuse := WalletError.storage ("verify wallet " ++ toString id)
  Task.unit refuse do
    let w ← Work.found (.notFound (toString id)) (← (Store.findWallet id).told refuse)
    let ledgerSum ← (Store.ledgerSumForWallet id).told refuse
    let audit : Wallet.Audit := ⟨id, w.balance, ledgerSum⟩
    if (← Work.exactly audit.drift).isZero then return audit
    else
      Work.report (.of .wallets .warn "Wallet balance drifted from ledger"
        [("wallet_id", .shown (toString id)), ("balance", .shown audit.balance.toText),
          ("ledger_sum", .shown audit.ledgerSum.toText)])
      return audit

end Treasury.Wallets
