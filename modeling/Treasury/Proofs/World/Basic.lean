import Treasury.Service.Wallets
import Treasury.Proofs.Service.Lawful
import Treasury.Service.Reconciliation

namespace Treasury

inductive Operation where
  | openWallet (owner : Int) (currency : Currency) (walletType : WalletType)
  | requestWallet (owner : Int) (r : WalletRequest)
  | wallet (id : WalletId)
  | walletOf (owner : Int) (currency : Currency)
  | setWalletStatus (id : WalletId) (status : WalletStatus)
  | verifyWallet (id : WalletId)
  | recordRate (r : Rate)
  | rate (base quote : Currency)
  | convert (amount : Decimal) (base quote : Currency)
  | deposit (r : DepositRequest)
  | transfer (r : TransferRequest)
  | purchaseGiftCard (g : Transactions.Gateway) (r : GiftCardRequest)
  | payOut (g : Transactions.Gateway) (r : PayoutRequest)
  | sendCrypto (g : Transactions.Gateway) (r : SendRequest)
  | transaction (id : TransactionId)
  | entries (id : TransactionId)
  | settle (c : SettleCall)
  | defer (id : TransactionId) (expected : TransactionStatus)
  | reconcile (timeout : Nat) (providers : Registry) (plan : Reconciliation.Plan)
  | trackReferral (referrer referee : Int) (bonus : Decimal)
  | earnings (user : Int)
  | requestWithdrawal (policy : RewardPolicy) (user : Int) (amount : Decimal)
  | withdrawal (id : WithdrawalId)
  | updateWithdrawal (id : WithdrawalId) (status : WithdrawalStatus)
  | sweepCatalog (pageSize : Nat)

structure Activity : Type 1 where
  {answer : Type}
  flow : Flow answer

def Operation.activity : Operation → Activity
  | .openWallet owner currency walletType => ⟨(Wallets.create owner currency walletType).run⟩
  | .requestWallet owner r => ⟨(Wallets.request owner r).run⟩
  | .wallet id => ⟨(Wallets.get id).run⟩
  | .walletOf owner currency => ⟨(Wallets.ofOwner owner currency).run⟩
  | .setWalletStatus id status => ⟨(Wallets.setStatus id status).run⟩
  | .verifyWallet id => ⟨(Wallets.verify id).run⟩
  | .recordRate r => ⟨(Rates.record r).run⟩
  | .rate base quote => ⟨(Rates.get base quote).run⟩
  | .convert amount base quote => ⟨(Rates.convert amount base quote).run⟩
  | .deposit r => ⟨(Transactions.deposit r).run⟩
  | .transfer r => ⟨(Transactions.transfer r).run⟩
  | .purchaseGiftCard g r => ⟨(Transactions.purchaseGiftCard g r).run⟩
  | .payOut g r => ⟨(Transactions.payOut g r).run⟩
  | .sendCrypto g r => ⟨(Transactions.sendCrypto g r).run⟩
  | .transaction id => ⟨(Transactions.get id).run⟩
  | .entries id => ⟨(Transactions.entries id).run⟩
  | .settle c => ⟨c.flow⟩
  | .defer id expected => ⟨(External.defer id expected).run⟩
  | .reconcile timeout providers plan => ⟨(Reconciliation.run timeout providers plan).run⟩
  | .trackReferral referrer referee bonus => ⟨(Rewards.track referrer referee bonus).run⟩
  | .earnings user => ⟨(Rewards.earnings user).run⟩
  | .requestWithdrawal policy user amount => ⟨(Rewards.request policy user amount).run⟩
  | .withdrawal id => ⟨(Rewards.get id).run⟩
  | .updateWithdrawal id status => ⟨(Rewards.update id status).run⟩
  | .sweepCatalog pageSize => ⟨(CatalogSweep.sweep pageSize).run⟩

-- Activities are numbered in the order in which they began.
inductive Event where
  | begin (operation : Operation)
  | advance (activity : Nat)
  | reply (activity : Nat) (reply : Reply)
  | page (activity : Nat) (page : Except CatalogError VendorPage)
  | availability (offline : Bool)
  | failNextCommit
  -- After so many more calls of the method, one fails.
  | failCall (method : Method) (skip : Nat) (error : StoreError)
  | clock (now : Instant)

structure World where
  server : Server
  activities : List Activity

namespace World

def start : World := ⟨.start, []⟩

-- What comes next, where it can come; an event that cannot come changes nothing.
def take (w : World) : Event → World
  | .begin operation => { w with activities := w.activities ++ [operation.activity] }
  | .advance i =>
    match w.activities[i]? with
    | some ⟨.step act next⟩ =>
      ⟨(act w.server).2, w.activities.set i ⟨next (act w.server).1⟩⟩
    | _ => w
  | .reply i reply =>
    match w.activities[i]? with
    | some ⟨.ask (.call _) next⟩ => { w with activities := w.activities.set i ⟨next reply⟩ }
    | _ => w
  | .page i page =>
    match w.activities[i]? with
    | some ⟨.ask (.page _ _) next⟩ => { w with activities := w.activities.set i ⟨next page⟩ }
    | _ => w
  | .availability offline => { w with server := { w.server with unavailable := offline } }
  | .failNextCommit => { w with server := { w.server with failNextCommit := true } }
  | .failCall method skip error =>
    { w with server := { w.server with
      faults := w.server.faults ++ [⟨method, skip, .refuse error⟩] } }
  | .clock now => { w with server := { w.server with clock := now } }

def after (w : World) (events : List Event) : World := events.foldl take w

def run (events : List Event) : World := start.after events

theorem after_append (w : World) (early late : List Event) :
    w.after (early ++ late) = (w.after early).after late := List.foldl_append

theorem run_append (early late : List Event) : run (early ++ late) = (run early).after late :=
  after_append start early late

theorem run_snoc (events : List Event) (e : Event) : run (events ++ [e]) = (run events).take e :=
  run_append events [e]

def Calls (w : World) (c : SettleCall) (e : Event) : Prop :=
  ∃ (i : Nat) (answer : Type) (next : _ → Flow answer),
    e = .advance i ∧ w.activities[i]? = some ⟨c.flow.bind next⟩

end World
end Treasury
