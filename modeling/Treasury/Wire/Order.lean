import Treasury.Wire.Scalar
import Treasury.Provider

namespace Treasury

open Json (ofInt ofNat ofDecimal option)

namespace Order

def kindName : Order → String
  | .giftCard _ _ _ _ _ _ => "order"
  | .payout _ _ _ _ _ => "payout"
  | .send _ _ _ _ _ => "send"

def members : Order → List (String × Json)
  | .giftCard productId quantity unitPrice senderAmount senderCurrency email =>
    [("product_id", ofInt productId), ("quantity", ofNat quantity.toNat),
      ("unit_price", ofDecimal unitPrice), ("sender_amount", ofDecimal senderAmount),
      ("sender_currency", .text senderCurrency), ("recipient_email", option .text email)]
  | .payout amount currency bankCode accountNumber accountName =>
    [("amount", ofDecimal amount), ("currency", .text currency), ("bank_code", .text bankCode),
      ("account_number", .text accountNumber), ("account_name", .text accountName)]
  | .send amount currency network asset address =>
    [("amount", ofDecimal amount), ("currency", .text currency), ("network", .text network),
      ("asset", .text asset), ("address", .text address)]

end Order

def Call.kindName : Call → String
  | .order _ _ o => o.kindName
  | .status _ _ => "status"

def Call.members : Call → List (String × Json)
  | .order _ _ o => o.members
  | .status _ _ => []

def Call.toJson (c : Call) : Json :=
  .object ([("call", .text c.kindName), ("provider", .text c.provider),
    ("correlation_id", c.correlation.toJson)] ++ c.members)

end Treasury
