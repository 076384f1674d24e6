import Treasury.Settings.Address
import Treasury.Catalog.Basic

namespace Treasury.Remote

def withoutSlashes (s : String) : String :=
  .ofList (s.toList.reverse.dropWhile (· == '/')).reverse

def productsAddress (baseUrl : String) : String := withoutSlashes baseUrl ++ "/products"

def catalogRefusal? (baseUrl : String) : Option CatalogError :=
  match (Address.ofText? (productsAddress baseUrl)).filter Address.isWeb with
  | some _ => none
  | none => some (.http "builder error")

def databaseRefusal? (url : String) : Option StoreError :=
  match Address.ofText? url with
  | none => some (DatabaseFailure.malformedAddress "relative URL without a base").toStoreError
  | some a =>
    if a.isDatabase then none
    else some (DatabaseFailure.malformedAddress "unknown value for `ssl_mode`").toStoreError

end Treasury.Remote
