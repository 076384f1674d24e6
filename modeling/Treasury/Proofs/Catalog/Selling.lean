import Treasury.Proofs.Catalog.Listings
import Treasury.Proofs.Catalog.Repeating
import Treasury.Proofs.Decimal.Product

namespace Treasury

open Decimal CatalogSweep

namespace Listing

variable {l : Listing}

-- How a product is sold that has lists.
structure SellsListed (l : Listing) : Prop where
  paired : ∀ (i : Nat) (d : Decimal), l.recipientDenominations[i]? = some d → ∀ p, d.Same p →
    (∀ (j : Nat) (e : Decimal), j < i → l.recipientDenominations[j]? = some e → ¬ e.Same p) →
    ∃ sold, l.senderDenominations[i]? = some sold ∧ 0 < sold ∧ l.senderPrice p = .ok (some sold)
  unlisted : ∀ p, l.senderPrice p = .ok none ↔ ∀ d ∈ l.recipientDenominations, ¬ d.Same p

-- How a product is sold that has bounds. The price is above zero unless it is rounded away.
structure SellsBetween (l : Listing) (min max : Decimal) (rate? : Option Decimal) : Prop where
  outside : ∀ p, p < min ∨ max < p → l.senderPrice p = .ok none
  unrated : rate? = none → ∀ p, l.senderPrice p = .ok none
  inside : ∀ rate, rate? = some rate → ∀ p, min ≤ p → p ≤ max →
    |p.value * rate.value| ≤ 2 ^ 96 - 1 → ∃ price, l.senderPrice p = .ok (some price)
  priced : ∀ rate, rate? = some rate → ∀ p price, l.senderPrice p = .ok (some price) →
    min ≤ p ∧ p ≤ max ∧ (0 < price ↔ 1 / (2 * 10 ^ 28) < p.value * rate.value) ∧
      (Fits (p.value * rate.value) → price.value = p.value * rate.value)

theorem senderPrice_unlisted (fixed : l.product.denominationType = .fixed)
    (even : l.recipientDenominations.length = l.senderDenominations.length) (p : Decimal) :
    l.senderPrice p = .ok none ↔ ∀ d ∈ l.recipientDenominations, ¬ d.Same p := by
  cases found : l.recipientDenominations.findIdx? fun d => decide (d.Same p) with
  | none =>
    have absent : ∀ d ∈ l.recipientDenominations, ¬ d.Same p := by
      simpa using List.findIdx?_eq_none_iff.mp found
    simpa [senderPrice, fixed, found] using absent
  | some i =>
    obtain ⟨sold, _, sells⟩ := senderPrice_paired fixed even found
    obtain ⟨inside, same, _⟩ := List.findIdx?_eq_some_iff_getElem.mp found
    simp only [sells, Except.ok.injEq, reduceCtorEq, false_iff]
    intro absent
    exact absent _ (List.getElem_mem inside) (by simpa using same)

theorem sellsListed (fixed : l.product.denominationType = .fixed)
    (even : l.recipientDenominations.length = l.senderDenominations.length)
    (positive : ∀ sold ∈ l.senderDenominations, 0 < sold) : l.SellsListed where
  paired i d listed p same first := by
    obtain ⟨inside, here⟩ := List.getElem?_eq_some_iff.mp listed
    have found : (l.recipientDenominations.findIdx? fun d => decide (d.Same p)) = some i := by
      rw [List.findIdx?_eq_some_iff_getElem]
      refine ⟨inside, by simpa [here] using same, fun j before => ?_⟩
      simpa using first j _ before (List.getElem?_eq_getElem (before.trans inside))
    obtain ⟨sold, stands, sells⟩ := senderPrice_paired fixed even found
    exact ⟨sold, stands, positive sold (List.mem_of_getElem? stands), sells⟩
  unlisted := senderPrice_unlisted fixed even

variable {min max : Decimal}

theorem senderPrice_range (range : l.product.denominationType = .range)
    (low : l.product.minRecipientDenomination = some min)
    (high : l.product.maxRecipientDenomination = some max) (p : Decimal) :
    l.senderPrice p = if p < min ∨ max < p then .ok none
      else l.product.senderExchangeRate.elim (.ok none) fun rate => (p.mul rate).map some := by
  unfold senderPrice
  rw [range, low, high]
  cases l.product.senderExchangeRate <;> rfl

theorem sellsBetween (range : l.product.denominationType = .range)
    (low : l.product.minRecipientDenomination = some min)
    (high : l.product.maxRecipientDenomination = some max) :
    l.SellsBetween min max l.product.senderExchangeRate where
  outside p out := (senderPrice_range range low high p).trans (if_pos out)
  unrated none p := by
    rw [senderPrice_range range low high, none]
    exact ite_self _
  inside rate rated p above below narrow := by
    obtain ⟨price, made⟩ := mul_some narrow
    have within : ¬ (p < min ∨ max < p) := by
      rw [not_or, not_lt_iff, not_lt_iff]
      exact ⟨above, below⟩
    refine ⟨price, ?_⟩
    rw [senderPrice_range range low high, if_neg within, rated, Option.elim_some, made]
    rfl
  priced rate rated p price sold := by
    rw [senderPrice_range range low high, rated, Option.elim_some] at sold
    split at sold
    · cases sold
    · rename_i within
      rw [not_or, not_lt_iff, not_lt_iff] at within
      rcases made : p.mul rate with e | product
      · rw [made] at sold
        cases sold
      · rw [made] at sold
        cases sold
        refine ⟨within.1, within.2, mul_pos_iff made, fun fits => ?_⟩
        obtain ⟨exact, found, amount⟩ := mul_exact fits
        cases made.symm.trans found
        exact amount

end Listing

namespace CatalogSweep

theorem listing?_withItem (t : Tables) (item : VendorItem) (moment : Instant) :
    (t.withItem item moment).listing? item.productId = some ⟨productOf item moment,
      denominationsOf item .recipient, denominationsOf item .sender⟩ := by
  have product : Rows.find? Product.externalId item.productId (t.withItem item moment).products =
      some (productOf item moment) := (Rows.find?_put _).trans (if_pos rfl)
  have lists (kind : DenominationKind) :
      (t.withItem item moment).denominationsOf item.productId kind = denominationsOf item kind :=
    (Tables.denominationsOf_withItem _ kind).trans (if_pos rfl)
  rw [Tables.listing?, product, Option.map_some, lists, lists]

-- An item that was stored is sold from the lists that the vendor gave, or between the vendor's
-- bounds at the vendor's rate, whatever there was before it.
theorem upsertItem_sells (answer : {β : Type} → Question β → β) (item : VendorItem) (s : Server)
    (honest : s.Honest) (stored : ((upsertItem item).run.runAlone answer s).1 = .ok ()) :
    ∃ l, ((upsertItem item).run.runAlone answer s).2.tables.listing? item.productId = some l ∧
      (item.denominationType = .fixed →
        l.recipientDenominations = item.fixedRecipientDenominations ∧
          l.senderDenominations = item.fixedSenderDenominations ∧ l.SellsListed) ∧
      (item.denominationType = .range → ∃ min max, item.minRecipientDenomination = some min ∧
        item.maxRecipientDenomination = some max ∧ l.SellsBetween min max item.senderExchangeRate) := by
  cases sound : flaw? item with
  | some reason =>
    unfold upsertItem at stored
    rw [sound] at stored
    cases stored
  | none =>
    have alone : (upsertItem item).Alone s (fun _ _ _ => True) fun _ s' _ =>
        ∃ moment, s'.tables = s.tables.withItem item moment ∧
          ∀ kind, ∀ d ∈ denominationsOf item kind, ¬ d ≤ 0 := by
      refine .acts (upsertItem_acts sound) honest ?_ fun _ _ _ _ => trivial
      rintro s' _ p _ ⟨moment, rfl, positive⟩ tables
      exact ⟨moment, tables, positive⟩
    obtain ⟨moment, tables, positive⟩ := alone.answered answer stored
    rw [tables, listing?_withItem]
    refine ⟨_, rfl, fun fixed => ?_, fun range => ?_⟩
    · have recipient : denominationsOf item .recipient = item.fixedRecipientDenominations :=
        if_pos fixed
      have sender : denominationsOf item .sender = item.fixedSenderDenominations := if_pos fixed
      refine ⟨recipient, sender, Listing.sellsListed fixed ?_ fun sold mem => ?_⟩
      · dsimp only
        rw [recipient, sender]
        exact flaw?_fixed sound fixed
      · exact not_le_iff.mp (positive .sender sold mem)
    · obtain ⟨low, high⟩ := flaw?_range sound range
      obtain ⟨min, low⟩ := Option.isSome_iff_exists.mp low
      obtain ⟨max, high⟩ := Option.isSome_iff_exists.mp high
      exact ⟨min, max, low, high, Listing.sellsBetween range low high⟩

-- Between bounds and with a rate.
def ratedCard : VendorItem := { rangeCard with senderExchangeRate := some 1 }

theorem upsertItem_sells_rated :
    Server.start.Honest ∧
      ((upsertItem ratedCard).run.runAlone (answers mixedSource) .start).1 = .ok () ∧
      ∃ l price, ((upsertItem ratedCard).run.runAlone (answers mixedSource) .start).2.tables.listing? 1 =
        some l ∧ l.senderPrice 1 = .ok (some price) ∧ 0 < price := by
  have calm : Server.start.Calm := ⟨rfl, rfl, rfl⟩
  have stored : ((upsertItem ratedCard).run.runAlone (answers mixedSource) .start).1 = .ok () := by
    decide +kernel
  have one : (1 : Decimal).value = 1 := by
    change ((Decimal.one.units : Int) : ℚ) / 10 ^ 0 = 1
    norm_num [Decimal.one, units]
  obtain ⟨l, found, _, between⟩ := upsertItem_sells (answers mixedSource) ratedCard .start calm.honest stored
  obtain ⟨min, max, low, high, sells⟩ := between rfl
  cases low
  cases high
  obtain ⟨price, sold⟩ := sells.inside 1 rfl 1 (by decide) (by decide) (by norm_num [one])
  obtain ⟨_, _, positive, _⟩ := sells.priced 1 rfl 1 price sold
  refine ⟨calm.honest, stored, l, price, found, sold, positive.mpr ?_⟩
  norm_num [one]

-- The same face value at two prices.
def doubleCard : VendorItem := { card with
  fixedRecipientDenominations := [1, 1]
  fixedSenderDenominations := [1, ofUInt32 2] }

-- A product between bounds that has no rate is stored and cannot be sold, and a face value that is
-- listed twice is not sold at its second price.
theorem upsertItem_unsold :
    let ranged := (upsertItem rangeCard).run.runAlone (answers mixedSource) .start
    let doubled := (upsertItem doubleCard).run.runAlone (answers mixedSource) .start
    (ranged.1 = .ok () ∧ rangeCard.denominationType = .range ∧ (0 : Decimal) < 1 ∧
      rangeCard.minRecipientDenomination = some 1 ∧ rangeCard.maxRecipientDenomination = some 1 ∧
      (ranged.2.tables.listing? 1).map (·.senderPrice 1) = some (.ok none)) ∧
    doubled.1 = .ok () ∧ doubleCard.denominationType = .fixed ∧
      doubleCard.fixedRecipientDenominations[1]? = some 1 ∧
      doubleCard.fixedSenderDenominations[1]? = some (ofUInt32 2) ∧
      (doubled.2.tables.listing? 1).map (·.senderPrice 1) = some (.ok (some 1)) := by
  decide +kernel

end CatalogSweep
end Treasury
