import Treasury.Process

namespace Treasury.CatalogSweep

structure Report where
  pages : Nat
  processed : Nat
  succeeded : Nat
  failed : Nat
  -- A page after the first could not be fetched.
  truncated : Bool
deriving DecidableEq

def Report.empty : Report := ⟨0, 0, 0, 0, false⟩

def isBlankText (s : String) : Bool := (Text.trim s.toList).isEmpty

def flaw? (item : VendorItem) : Option String :=
  if isBlankText item.productName then some "empty product name"
  else if isBlankText item.country.isoCode then some "missing country"
  else
    match item.denominationType with
    | .fixed =>
      if item.fixedRecipientDenominations.length ≠ item.fixedSenderDenominations.length then
        some "recipient and sender denominations differ in length"
      else none
    | .range =>
      if item.minRecipientDenomination.isNone ∨ item.maxRecipientDenomination.isNone then
        some "range product without bounds"
      else none

-- The code of a country is stored in capitals.
def countryOf (item : VendorItem) : Country :=
  { item.country with isoCode := item.country.isoCode.toUpper }

def productOf (item : VendorItem) (now : Instant) : Product :=
  ⟨item.productId, item.productName, item.brand.externalId, item.category.externalId,
    (countryOf item).isoCode, item.isGlobal, item.denominationType, item.recipientCurrency,
    item.senderCurrency, item.senderFee, item.discountPercentage, item.minRecipientDenomination,
    item.maxRecipientDenomination, item.senderExchangeRate, now⟩

-- Only a product of fixed denominations keeps lists of them.
def denominationsOf (item : VendorItem) : DenominationKind → List Decimal
  | .recipient =>
    if item.denominationType = .fixed then item.fixedRecipientDenominations else []
  | .sender => if item.denominationType = .fixed then item.fixedSenderDenominations else []

def writeItem (item : VendorItem) : Work StoreError Unit := do
  Store.upsertBrand item.brand
  Store.upsertCategory item.category
  Store.upsertCountry (countryOf item)
  Store.upsertProduct (productOf item (← Work.now))
  Store.replaceLogoUrls item.productId item.logoUrls
  Store.replaceDenominations item.productId .recipient (denominationsOf item .recipient)
  Store.replaceDenominations item.productId .sender (denominationsOf item .sender)
  Store.upsertRedeemInstruction item.productId item.redeemInstruction
  Work.commit

def upsertItem (item : VendorItem) : Task CatalogError Unit :=
  match flaw? item with
  | some reason => Task.refuse (.invalidItem item.productId reason)
  | none =>
    let refuse := CatalogError.storage ("sync product " ++ toString item.productId)
    Task.unit refuse do
      (writeItem item).told refuse
      Work.report (.of .catalog .debug "Catalog item upserted" [("product_id", .number item.productId)])

def takeItem (r : Report) (item : VendorItem) : Task CatalogError Report := do
  let r := { r with processed := r.processed + 1 }
  match ← (upsertItem item).attempt with
  | .ok () => return { r with succeeded := r.succeeded + 1 }
  | .error (e : CatalogError) =>
    Task.report (.of .catalog .warn "Catalog item skipped"
      [("product_id", .number item.productId), ("code", .text e.code), ("error", .shown e.message)])
    return { r with failed := r.failed + 1 }

def takeItems (r : Report) : List VendorItem → Task CatalogError Report
  | [] => return r
  | item :: rest => do takeItems (← takeItem r item) rest

def finished (r : Report) : Task CatalogError Report := do
  Task.report (.of .catalog .info "Gift card catalog synced"
    [("pages", .number r.pages), ("processed", .number r.processed),
      ("succeeded", .number r.succeeded), ("failed", .number r.failed),
      ("truncated", .flag r.truncated)])
  return r

-- Page numbers have 32 binary digits.
def maxPages : Nat := UInt32.size - 1

-- Fetches and takes pages from the one after `maxPages - left` on. The sweep ends with the page that
-- calls itself the last, with an empty one, or where a page cannot be fetched; on the first
-- page that is a failure.
def sweepFrom (pageSize : Nat) : Nat → Report → Task CatalogError Report
  | left, r => do
    let number := maxPages - left
    match ← Task.ask (.page number pageSize) with
    | .error e =>
      if number = 0 then
        Task.report (.of .catalog .error "Catalog sync aborted on first page"
          [("error", .shown e.message)])
        Task.refuse e
      else
        Task.report (.of .catalog .warn "Catalog page failed, sweep truncated"
          [("page", .number number), ("error", .shown e.message)])
        finished { r with truncated := true }
    | .ok (page : VendorPage) =>
      match left with
      | 0 => Task.breakOff .countOverflow
      | left + 1 =>
        let r ← takeItems { r with pages := r.pages + 1 } page.content
        match page.isLast? with
        | none => Task.breakOff .countOverflow
        | some last =>
          if last || page.content.isEmpty then finished r else sweepFrom pageSize left r

-- One sweep from the first page on. A page holds at least one item.
def sweep (pageSize : Nat) : Task CatalogError Report := sweepFrom (max pageSize 1) maxPages .empty

end Treasury.CatalogSweep
