import Treasury.Identifier.Uuid
import Treasury.Identifier.Ulid

namespace Treasury

structure WalletId where
  uuid : Uuid
deriving DecidableEq

structure WithdrawalId where
  uuid : Uuid
deriving DecidableEq

structure ReferralId where
  uuid : Uuid
deriving DecidableEq

-- Also the correlation id of the provider call.
structure TransactionId where
  ulid : Ulid
deriving DecidableEq

structure EntryId where
  ulid : Ulid
deriving DecidableEq

instance : ToString WalletId := ⟨(·.uuid.toText)⟩
instance : ToString WithdrawalId := ⟨(·.uuid.toText)⟩
instance : ToString TransactionId := ⟨(·.ulid.toText)⟩
instance : ToString EntryId := ⟨(·.ulid.toText)⟩

def WalletId.ofText? (s : String) : Option WalletId := (Uuid.ofText? s).map .mk
def WithdrawalId.ofText? (s : String) : Option WithdrawalId := (Uuid.ofText? s).map .mk
def TransactionId.ofText? (s : String) : Option TransactionId := (Ulid.ofText? s).map .mk

instance : LT WalletId := ⟨fun a b => a.uuid < b.uuid⟩
instance (a b : WalletId) : Decidable (a < b) := inferInstanceAs (Decidable (a.uuid < b.uuid))
instance : LE TransactionId := ⟨fun a b => a.ulid ≤ b.ulid⟩
instance (a b : TransactionId) : Decidable (a ≤ b) := inferInstanceAs (Decidable (a.ulid ≤ b.ulid))

-- How many identifiers were given out. Each is used once, whatever its kind.
structure Supply where
  issued : Nat
deriving DecidableEq

namespace Supply

-- The kinds differ in the high places of the number, so a text tells its kind.
def walletMark : Nat := 0x5eedc0de0a11
def withdrawalMark : Nat := 0x5eedc0de0b22
def referralMark : Nat := 0x5eedc0de0c33
def moment : Nat := 0x0197a1b2c3d4

def marked (mark n : Nat) : Uuid := .numbered (mark * Nat.pow 2 74 + n % Nat.pow 2 62)

def wallet (s : Supply) : WalletId := ⟨marked walletMark s.issued⟩
def withdrawal (s : Supply) : WithdrawalId := ⟨marked withdrawalMark s.issued⟩
def referral (s : Supply) : ReferralId := ⟨marked referralMark s.issued⟩
def transaction (s : Supply) : TransactionId := ⟨.numbered moment s.issued⟩
def entry (s : Supply) : EntryId := ⟨.numbered moment s.issued⟩
def next (s : Supply) : Supply := ⟨s.issued + 1⟩

end Supply
end Treasury
