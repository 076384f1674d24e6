import Treasury.Store.Failure

namespace Treasury

-- What a store can be asked, beginning and committing a unit of work included.
inductive Method where
  | begin
  | commit
  | insertWallet
  | findWallet
  | findWalletForUpdate
  | findWalletByOwner
  | updateWalletBalance
  | updateWalletStatus
  | insertTransaction
  | findTransaction
  | findTransactionByKey
  | updateTransactionIf
  | touchTransactionIf
  | findStaleTransactions
  | insertLedgerEntry
  | ledgerEntriesForTransaction
  | ledgerSumForWallet
  | insertRate
  | latestRate
  | insertReferral
  | findReferralByReferee
  | findEarnings
  | lockEarnings
  | upsertEarnings
  | insertWithdrawalRequest
  | findWithdrawalRequest
  | findWithdrawalRequestForUpdate
  | updateWithdrawalRequest
  | upsertBrand
  | upsertCategory
  | upsertCountry
  | upsertProduct
  | replaceLogoUrls
  | replaceDenominations
  | upsertRedeemInstruction
  | findProductListing
  | catalogCounts
deriving DecidableEq, Repr

namespace Method

def all : List Method :=
  [.begin, .commit, .insertWallet, .findWallet, .findWalletForUpdate, .findWalletByOwner,
    .updateWalletBalance, .updateWalletStatus, .insertTransaction, .findTransaction,
    .findTransactionByKey, .updateTransactionIf, .touchTransactionIf, .findStaleTransactions,
    .insertLedgerEntry, .ledgerEntriesForTransaction, .ledgerSumForWallet, .insertRate,
    .latestRate, .insertReferral, .findReferralByReferee, .findEarnings, .lockEarnings,
    .upsertEarnings, .insertWithdrawalRequest, .findWithdrawalRequest,
    .findWithdrawalRequestForUpdate, .updateWithdrawalRequest, .upsertBrand, .upsertCategory,
    .upsertCountry, .upsertProduct, .replaceLogoUrls, .replaceDenominations,
    .upsertRedeemInstruction, .findProductListing, .catalogCounts]

def name : Method → String
  | .begin => "begin"
  | .commit => "commit"
  | .insertWallet => "insert_wallet"
  | .findWallet => "find_wallet"
  | .findWalletForUpdate => "find_wallet_for_update"
  | .findWalletByOwner => "find_wallet_by_owner"
  | .updateWalletBalance => "update_wallet_balance"
  | .updateWalletStatus => "update_wallet_status"
  | .insertTransaction => "insert_transaction"
  | .findTransaction => "find_transaction"
  | .findTransactionByKey => "find_transaction_by_key"
  | .updateTransactionIf => "update_transaction_if"
  | .touchTransactionIf => "touch_transaction_if"
  | .findStaleTransactions => "find_stale_transactions"
  | .insertLedgerEntry => "insert_ledger_entry"
  | .ledgerEntriesForTransaction => "ledger_entries_for_transaction"
  | .ledgerSumForWallet => "ledger_sum_for_wallet"
  | .insertRate => "insert_rate"
  | .latestRate => "latest_rate"
  | .insertReferral => "insert_referral"
  | .findReferralByReferee => "find_referral_by_referee"
  | .findEarnings => "find_earnings"
  | .lockEarnings => "lock_earnings"
  | .upsertEarnings => "upsert_earnings"
  | .insertWithdrawalRequest => "insert_withdrawal_request"
  | .findWithdrawalRequest => "find_withdrawal_request"
  | .findWithdrawalRequestForUpdate => "find_withdrawal_request_for_update"
  | .updateWithdrawalRequest => "update_withdrawal_request"
  | .upsertBrand => "upsert_brand"
  | .upsertCategory => "upsert_category"
  | .upsertCountry => "upsert_country"
  | .upsertProduct => "upsert_product"
  | .replaceLogoUrls => "replace_logo_urls"
  | .replaceDenominations => "replace_denominations"
  | .upsertRedeemInstruction => "upsert_redeem_instruction"
  | .findProductListing => "find_product_listing"
  | .catalogCounts => "catalog_counts"

def ofName? (s : String) : Option Method := all.find? (·.name == s)

end Method

-- A struck call fails, or does nothing and answers as if there were nothing.
inductive Strike where
  | refuse (error : StoreError)
  | nothing
deriving DecidableEq, Repr

def Strike.ofName? (told : String) : String → Option Strike
  | "unique" => some (.refuse (.uniqueViolation told))
  | "check" => some (.refuse (.checkViolation told))
  | "unavailable" => some (.refuse (.unavailable told))
  | "corrupt" => some (.refuse (.corrupt told))
  | "database" => some (.refuse (.database told))
  | "nothing" => some .nothing
  | _ => none

structure Fault where
  method : Method
  -- Calls that still pass.
  skip : Nat
  strike : Strike
deriving DecidableEq, Repr

-- One call of a method, which counts against the first fault that waits for it.
def Fault.meet (m : Method) : List Fault → Option Strike × List Fault
  | [] => (none, [])
  | f :: rest =>
    if f.method = m then
      match f.skip with
      | 0 => (some f.strike, rest)
      | left + 1 => (none, { f with skip := left } :: rest)
    else
      let (struck, rest) := meet m rest
      (struck, f :: rest)

end Treasury
