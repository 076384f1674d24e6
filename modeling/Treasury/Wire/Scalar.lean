import Treasury.Json.Printer
import Treasury.Json.Record
import Treasury.Wallet.Basic
import Treasury.Transaction.Kind
import Treasury.Catalog.Basic
import Treasury.Reward.Basic

namespace Treasury

def WalletId.ofJson? (j : Json) : Option WalletId := j.text?.bind WalletId.ofText?
def WithdrawalId.ofJson? (j : Json) : Option WithdrawalId := j.text?.bind WithdrawalId.ofText?
def TransactionId.ofJson? (j : Json) : Option TransactionId := j.text?.bind TransactionId.ofText?
def Instant.ofJson? (j : Json) : Option Instant := j.text?.bind Instant.ofText?

def WalletId.toJson (id : WalletId) : Json := .text (toString id)
def WithdrawalId.toJson (id : WithdrawalId) : Json := .text (toString id)
def TransactionId.toJson (id : TransactionId) : Json := .text (toString id)
def Instant.toJson (t : Instant) : Json := .text t.toText

def Currency.ofJson? : Json → Option Currency := Json.choice? Currency.ofCode?
def WalletType.ofJson? : Json → Option WalletType := Json.choice? WalletType.ofName?
def WalletStatus.ofJson? : Json → Option WalletStatus := Json.choice? WalletStatus.ofName?
def TransactionKind.ofJson? : Json → Option TransactionKind := Json.choice? TransactionKind.ofName?
def Direction.ofJson? : Json → Option Direction := Json.choice? Direction.ofName?
def Platform.ofJson? : Json → Option Platform := Json.choice? Platform.ofName?
def TransactionStatus.ofJson? : Json → Option TransactionStatus :=
  Json.choice? TransactionStatus.ofName?
def WithdrawalStatus.ofJson? : Json → Option WithdrawalStatus :=
  Json.choice? WithdrawalStatus.ofName?
def DenominationType.ofJson? : Json → Option DenominationType := Json.choice? DenominationType.ofName?

def Currency.toJson (c : Currency) : Json := .text c.code

end Treasury
