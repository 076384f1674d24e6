import Treasury.Money
import Treasury.Time.Instant
import Treasury.Store.Failure

namespace Treasury

inductive DenominationType where
  -- Only the listed denominations can be ordered.
  | fixed
  -- Any amount between two bounds.
  | range
deriving DecidableEq, Repr

namespace DenominationType

def all : List DenominationType := [.fixed, .range]

def name : DenominationType → String
  | .fixed => "FIXED"
  | .range => "RANGE"

def id : DenominationType → Int
  | .fixed => 1
  | .range => 2

def ofName? (s : String) : Option DenominationType := all.find? (·.name == s)
def ofId? (n : Int) : Option DenominationType := all.find? (·.id == n)

end DenominationType

-- The side of an order that a list of denominations prices.
inductive DenominationKind where
  | recipient
  | sender
deriving DecidableEq, Repr

def DenominationKind.id : DenominationKind → Int
  | .recipient => 1
  | .sender => 2

def DenominationKind.ofId? (n : Int) : Option DenominationKind :=
  [DenominationKind.recipient, .sender].find? (·.id == n)

structure Brand where
  externalId : Int
  name : String
deriving DecidableEq

structure ProductCategory where
  externalId : Int
  name : String
deriving DecidableEq

structure Country where
  isoCode : String
  name : String
  flagUrl : Option String
deriving DecidableEq

structure RedeemInstruction where
  concise : Option String
  verbose : Option String
deriving DecidableEq

structure Product where
  externalId : Int
  name : String
  brandId : Int
  categoryId : Int
  countryIso : String
  isGlobal : Bool
  denominationType : DenominationType
  recipientCurrency : String
  senderCurrency : String
  senderFee : Decimal
  discountPercentage : Decimal
  minRecipientDenomination : Option Decimal
  maxRecipientDenomination : Option Decimal
  -- From the recipient's currency to the sender's.
  senderExchangeRate : Option Decimal
  syncedAt : Instant
deriving DecidableEq

-- A product with its two lists of denominations.
structure Listing where
  product : Product
  recipientDenominations : List Decimal
  senderDenominations : List Decimal
deriving DecidableEq

-- What one card of a face value costs, in the sender's currency. Fixed lists pair by position;
-- a range is converted at the vendor's rate.
def Listing.senderPrice (l : Listing) (unitPrice : Decimal) :
    Except Decimal.Overflow (Option Decimal) :=
  match l.product.denominationType with
  | .fixed =>
    .ok ((l.recipientDenominations.findIdx? fun d => decide (d.Same unitPrice)).bind fun i =>
      l.senderDenominations[i]?)
  | .range =>
    match l.product.minRecipientDenomination, l.product.maxRecipientDenomination with
    | some min, some max =>
      if unitPrice < min ∨ max < unitPrice then .ok none
      else
        match l.product.senderExchangeRate with
        | none => .ok none
        | some rate => (unitPrice.mul rate).map some
    | _, _ => .ok none

-- Rows in each table of the catalog.
structure CatalogCounts where
  brands : Nat
  categories : Nat
  countries : Nat
  products : Nat
  logoUrls : Nat
  denominations : Nat
  redeemInstructions : Nat
deriving DecidableEq

-- The sum must still be one of 64 binary digits.
def CatalogCounts.total? (c : CatalogCounts) : Option Nat :=
  some (c.brands + c.categories + c.countries + c.products + c.logoUrls + c.denominations +
    c.redeemInstructions) |>.filter (· < UInt64.size)

-- One product as the vendor lists it.
structure VendorItem where
  productId : Int
  productName : String
  isGlobal : Bool
  denominationType : DenominationType
  recipientCurrency : String
  senderCurrency : String
  senderFee : Decimal
  discountPercentage : Decimal
  minRecipientDenomination : Option Decimal
  maxRecipientDenomination : Option Decimal
  senderExchangeRate : Option Decimal
  fixedRecipientDenominations : List Decimal
  fixedSenderDenominations : List Decimal
  logoUrls : List String
  brand : Brand
  category : ProductCategory
  -- The country with its code as the vendor writes it.
  country : Country
  redeemInstruction : RedeemInstruction
deriving DecidableEq

-- One page of the vendor's list; pages are numbered from zero.
structure VendorPage where
  content : List VendorItem
  number : UInt32
  totalPages : UInt32
deriving DecidableEq

-- The next page number must still be one of 32 binary digits.
def VendorPage.isLast? (p : VendorPage) : Option Bool :=
  if p.number.toNat + 1 < UInt32.size then some (decide (p.totalPages.toNat ≤ p.number.toNat + 1))
  else none

inductive CatalogError where
  | unauthorized (status : Nat)
  | api (status : Nat) (body : String)
  | http (report : String)
  | malformedPage
  | invalidItem (productId : Int) (reason : String)
  | storage (context : String) (source : StoreError)
deriving DecidableEq

namespace CatalogError

def code : CatalogError → String
  | .unauthorized _ => "CATALOG_UNAUTHORIZED"
  | .api _ _ => "CATALOG_API_ERROR"
  | .http _ => "CATALOG_HTTP_ERROR"
  | .malformedPage => "CATALOG_DECODE_ERROR"
  | .invalidItem _ _ => "INVALID_CATALOG_ITEM"
  | .storage _ _ => "STORAGE_ERROR"

-- A vendor in trouble may recover; any other refusal is ours.
def category : CatalogError → Category
  | .unauthorized _ => .validation
  | .api status _ => if 500 ≤ status then .transient else .internal
  | .http _ => .transient
  | .malformedPage => .internal
  | .invalidItem _ _ => .validation
  | .storage _ source => source.category

def message : CatalogError → String
  | .unauthorized status => "Catalog API rejected credentials (status " ++ toString status ++ ")"
  | .api status body => "Catalog API returned status " ++ toString status ++ ": " ++ body
  | .http report => "HTTP error: " ++ report
  | .malformedPage => "Malformed catalog page"
  | .invalidItem productId reason =>
    "Invalid catalog item " ++ toString productId ++ ": " ++ reason
  | .storage context source => "Storage failure (" ++ context ++ "): " ++ source.message

instance : Reported CatalogError := ⟨code, category, message⟩

end CatalogError
end Treasury
