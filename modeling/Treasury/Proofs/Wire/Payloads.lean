import Treasury.Wire.Payload
import Treasury.Proofs.Json.Records

namespace Treasury

open Json Json.Fields

@[simp]
theorem WalletId.ofJson?_toJson (id : WalletId) : ofJson? id.toJson = some id := by
  rw [ofJson?, toJson, text?, Option.bind_some, ofText?_toString]

@[simp]
theorem WithdrawalId.ofJson?_toJson (id : WithdrawalId) : ofJson? id.toJson = some id := by
  rw [ofJson?, toJson, text?, Option.bind_some, ofText?_toString]

theorem Currency.ofCode?_code (c : Currency) : ofCode? c.code = some c := by
  cases c <;> decide

@[simp]
theorem WalletId.fits (id : WalletId) : id.toJson.Fits depth := fits_text _

@[simp]
theorem WithdrawalId.fits (id : WithdrawalId) : id.toJson.Fits depth := fits_text _

@[simp]
theorem Currency.fits (c : Currency) : c.toJson.Fits depth := fits_text _

namespace Destination

@[simp]
theorem fits (d : Destination) : d.toJson.Fits (depth + 1) := by
  cases d <;> simp [toJson]

-- Read by itself or inside a held record, whose tags may also be numbers.
theorem taggedBy?_toJson {read : Json → Option String} (words : ∀ s, read (.text s) = some s)
    (d : Destination) : ((d.toJson.taggedBy? read "kind").bind fun (variant, shape) =>
      ofShape? variant shape) = some d := by
  cases d with
  | wallet id =>
    rw [toJson, taggedBy?_cons (by simp), words]
    simp [ofShape?, required]
  | external reference institution =>
    rw [toJson, taggedBy?_cons (by simp), words]
    simp [ofShape?, required, text?, texts.option]

theorem ofJson?_toJson (d : Destination) : ofJson? d.toJson = some d := by
  rw [ofJson?, ofJsonWithin?, Fits.tagged?_eq d.fits]
  exact taggedBy?_toJson (fun _ => rfl) d

theorem ofHeld?_toJson (d : Destination) : ofHeld? d.toJson = some d :=
  taggedBy?_toJson (fun _ => rfl) d

end Destination

namespace Settlement

def plain (s : Settlement) : Settlement :=
  { s with
    settledAmount := s.settledAmount.map Decimal.plain
    adjustment := s.adjustment.map Decimal.plain
    shortfall := s.shortfall.map Decimal.plain }

@[simp]
theorem fits (s : Settlement) : s.toJson.Fits (depth + 1) := by
  simp [toJson]

theorem ofJson?_toJson (s : Settlement) : ofJson? s.toJson = some s.plain := by
  simp [toJson, ofJson?, required, text?, texts.absent, decimals.absent, plain]

theorem returned : Returns ofJson? toJson plain := ⟨fun _ => nofun, ofJson?_toJson⟩

end Settlement

namespace Details

def plain : Details → Details
  | .transfer destination rate amount currency =>
    .transfer destination (rate.map Decimal.plain) amount.plain currency
  | .giftCard productId productName quantity unitPrice currency email settlement =>
    .giftCard productId productName quantity unitPrice.plain currency email
      (settlement.map Settlement.plain)
  | .fiatPayout bankCode accountNumber accountName settlement =>
    .fiatPayout bankCode accountNumber accountName (settlement.map Settlement.plain)
  | .crypto network asset address settlement =>
    .crypto network asset address (settlement.map Settlement.plain)
  | details => details

def Numbered : Details → Prop
  | .giftCard productId _ _ _ _ _ _ =>
    Int64.minValue.toInt ≤ productId ∧ productId ≤ Int64.maxValue.toInt
  | _ => True

theorem fits {d : Details} (numbered : d.Numbered) : d.toJson.Fits (depth + 2) := by
  cases d with
  | giftCard productId productName quantity unitPrice currency email settlement =>
    have product : (ofInt productId).Fits (depth + 1) := fits_ofInt numbered.1 numbered.2
    have count : (Json.ofNat quantity.toNat).Fits (depth + 1) :=
      fits_ofInt (uint32_int64 quantity).1 (uint32_int64 quantity).2
    simp [toJson, members, product, count]
  | _ => simp [toJson, members]

theorem apart (d : Details) : ∀ m ∈ d.members, m.1 ≠ "platform" := by
  rw [← List.forall_iff_forall_mem]
  cases d <;> simp [members]

theorem ofShape?_members {d : Details} (numbered : d.Numbered) :
    ofShape? d.tag (.named d.members) = some d.plain := by
  cases d with
  | transfer destination rate amount currency =>
    have paid : heldChoice? Currency.ofCode? currency.toJson = some currency :=
      Currency.ofCode?_code currency
    simp [ofShape?, tag, members, required, Destination.ofHeld?_toJson, decimals.absent, decimals.back,
      paid, plain]
  | deposit reference => simp [ofShape?, tag, members, required, text?, plain]
  | giftCard productId productName quantity unitPrice currency email settlement =>
    simp [ofShape?, tag, members, required, text?, decimals.back, texts.absent,
      Settlement.returned.absent, int64?_ofInt numbered.1 numbered.2, uint32?_ofNat, plain]
  | fiatPayout bankCode accountNumber accountName settlement =>
    simp [ofShape?, tag, members, required, text?, Settlement.returned.absent, plain]
  | crypto network asset address settlement =>
    simp [ofShape?, tag, members, required, text?, Settlement.returned.absent, plain]
  | referral id => simp [ofShape?, tag, members, required, plain]

theorem ofJson?_toJson {d : Details} (numbered : d.Numbered) : ofJson? d.toJson = some d.plain := by
  rw [ofJson?, Fits.tagged?_eq (fits numbered), toJson, taggedBy?_cons d.apart]
  exact ofShape?_members numbered

end Details

namespace Outcome

def plain : Outcome → Outcome
  | .success reference amount => .success reference (amount.map Decimal.plain)
  | outcome => outcome

theorem fits (o : Outcome) : o.toJson.Fits (depth + 1) := by
  cases o <;> simp [toJson]

theorem ofJson?_toJson (o : Outcome) : ofJson? o.toJson = some o.plain := by
  rw [ofJson?, Fits.tagged?_eq o.fits]
  cases o with
  | success reference amount =>
    rw [toJson, taggedBy?_cons (by simp)]
    simp [required, text?, decimals.option, plain]
  | failed reason reference =>
    rw [toJson, taggedBy?_cons (by simp)]
    simp [required, text?, texts.option, plain]
  | unknown reference =>
    rw [toJson, taggedBy?_cons (by simp)]
    simp [text?, texts.option, plain]

end Outcome

namespace Account

theorem fits (a : Account) : a.toJson.Fits (depth + 1) := by
  cases a <;> simp [toJson]

theorem ofJson?_toJson (a : Account) : ofJson? a.toJson = some a := by
  cases a <;> simp [toJson, ofJson?, required, name?, ofReference?, text?]

end Account

-- Everything comes back but the sign of a zero, which no comparison sees: amounts with all their
-- fraction digits, any text, and what is absent as absent.
theorem payloads_return :
    (∀ d : Details, d.Numbered →
      (Json.ofText? d.toJson.toText).bind Details.ofJson? = some d.plain ∧
        d.plain.platform = d.platform ∧ d.plain.settlement? = d.settlement?.map Settlement.plain) ∧
    (∀ d : Destination, (Json.ofText? d.toJson.toText).bind Destination.ofJson? = some d) ∧
    (∀ s : Settlement, (Json.ofText? s.toJson.toText).bind Settlement.ofJson? = some s.plain) ∧
    (∀ o : Outcome, (Json.ofText? o.toJson.toText).bind Outcome.ofJson? = some o.plain) ∧
    (∀ a : Account, (Json.ofText? a.toJson.toText).bind Account.ofJson? = some a) ∧
    ∀ x : Decimal, x.plain.value = x.value ∧ x.plain.scale = x.scale ∧
      (x.magnitude ≠ 0 → x.plain = x) := by
  refine ⟨fun d numbered => ⟨?_, ?_, ?_⟩, fun d => ?_, fun s => ?_, fun o => ?_, fun a => ?_,
    fun x => ⟨x.value_plain, rfl, x.plain_of_ne⟩⟩
  · exact Fits.read (Details.fits numbered : d.toJson.Fits 2) (Details.ofJson?_toJson numbered)
  · cases d <;> rfl
  · cases d <;> rfl
  · exact Fits.read (d.fits : d.toJson.Fits 1) d.ofJson?_toJson
  · exact Fits.read (s.fits : s.toJson.Fits 1) s.ofJson?_toJson
  · exact Fits.read (o.fits : o.toJson.Fits 1) o.ofJson?_toJson
  · exact Fits.read (a.fits : a.toJson.Fits 1) a.ofJson?_toJson

def oddCard (unitPrice settled : Decimal) : Details :=
  .giftCard (-9223372036854775808) "a\"\\/\n\x00\x1fé😀" 4294967295 unitPrice "" (some "")
    (some ⟨"vendor", some settled, none, some 0, some ""⟩)

-- Of a price of minus zero only the sign is lost.
theorem payloads_return_odd :
    let minusZero : Decimal := ⟨true, 0, 28, by decide, by decide⟩
    let settled : Decimal := ⟨true, 1500, 2, by decide, by decide⟩
    (oddCard minusZero settled).Numbered ∧
      (Json.ofText? (oddCard minusZero settled).toJson.toText).bind Details.ofJson? =
        some (oddCard (-minusZero) settled) := by
  intro minusZero settled
  have numbered : (oddCard minusZero settled).Numbered := ⟨by decide, by decide⟩
  exact ⟨numbered, (payloads_return.1 _ numbered).1⟩

end Treasury
