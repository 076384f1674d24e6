import Treasury.Wire.Scalar

namespace Treasury

open Json (text? bool? int64? uint32? decimal? listOf?)

def Brand.ofVendor? (j : Json) : Option Brand := do
  let f ← j.fields? ["brandId", "brandName"]
  let externalId ← f.required "brandId" int64?
  return { externalId, name := ← f.required "brandName" text? }

def ProductCategory.ofVendor? (j : Json) : Option ProductCategory := do
  let f ← j.fields? ["id", "name"]
  let externalId ← f.required "id" int64?
  return { externalId, name := ← f.required "name" text? }

def Country.ofVendor? (j : Json) : Option Country := do
  let f ← j.fields? ["isoName", "name", "flagUrl"]
  let isoCode ← f.required "isoName" text?
  let name ← f.required "name" text?
  return { isoCode, name, flagUrl := ← f.optional "flagUrl" text? }

def RedeemInstruction.ofVendor? (j : Json) : Option RedeemInstruction := do
  let f ← j.fields? ["concise", "verbose"]
  let concise ← f.optional "concise" text?
  return { concise, verbose := ← f.optional "verbose" text? }

def VendorItem.fieldNames : List String :=
  ["productId", "productName", "global", "denominationType", "recipientCurrencyCode",
    "senderCurrencyCode", "senderFee", "discountPercentage", "minRecipientDenomination",
    "maxRecipientDenomination", "recipientCurrencyToSenderCurrencyExchangeRate",
    "fixedRecipientDenominations", "fixedSenderDenominations", "logoUrls", "brand", "category",
    "country", "redeemInstruction"]

def VendorItem.ofJson? (j : Json) : Option VendorItem := do
  let f ← j.fields? fieldNames
  let productId ← f.required "productId" int64?
  let productName ← f.required "productName" text?
  let isGlobal ← f.defaulted "global" false bool?
  let denominationType ← f.required "denominationType" DenominationType.ofJson?
  let recipientCurrency ← f.required "recipientCurrencyCode" text?
  let senderCurrency ← f.required "senderCurrencyCode" text?
  let senderFee ← f.defaulted "senderFee" 0 decimal?
  let discountPercentage ← f.defaulted "discountPercentage" 0 decimal?
  let minRecipientDenomination ← f.optional "minRecipientDenomination" decimal?
  let maxRecipientDenomination ← f.optional "maxRecipientDenomination" decimal?
  let senderExchangeRate ← f.optional "recipientCurrencyToSenderCurrencyExchangeRate" decimal?
  let fixedRecipientDenominations ←
    f.defaulted "fixedRecipientDenominations" [] (listOf? decimal?)
  let fixedSenderDenominations ← f.defaulted "fixedSenderDenominations" [] (listOf? decimal?)
  let logoUrls ← f.defaulted "logoUrls" [] (listOf? text?)
  let brand ← f.required "brand" Brand.ofVendor?
  let category ← f.required "category" ProductCategory.ofVendor?
  let country ← f.required "country" Country.ofVendor?
  let redeemInstruction ←
    f.defaulted "redeemInstruction" ⟨none, none⟩ RedeemInstruction.ofVendor?
  return { productId, productName, isGlobal, denominationType, recipientCurrency, senderCurrency,
           senderFee, discountPercentage, minRecipientDenomination, maxRecipientDenomination,
           senderExchangeRate, fixedRecipientDenominations, fixedSenderDenominations, logoUrls,
           brand, category, country, redeemInstruction }

def VendorPage.ofJson? (j : Json) : Option VendorPage := do
  let f ← j.fields? ["content", "number", "totalPages"]
  let content ← f.required "content" (listOf? VendorItem.ofJson?)
  let number ← f.required "number" uint32?
  return { content, number, totalPages := ← f.required "totalPages" uint32? }

end Treasury
