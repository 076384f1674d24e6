import Treasury.Proofs.Catalog.Items
import Treasury.Proofs.World.Frame

namespace Treasury

namespace Tables

def catalog (t : Tables) : Tables := { empty with
  brands := t.brands
  categories := t.categories
  countries := t.countries
  products := t.products
  logoUrls := t.logoUrls
  denominations := t.denominations
  redeemInstructions := t.redeemInstructions }

theorem withLocked_catalog (t : Tables) (user : Int) (moment : Instant) :
    (t.withLocked user moment).catalog = t.catalog := by
  rw [withLocked_frame]
  rfl

end Tables

variable {g g' : Gauge} {t t' : Tables} {item : VendorItem} {moment : Instant}

theorem Created.catalog (created : Created g t g' r legs t') : t'.catalog = t.catalog := by
  rw [created.scope]
  rfl

theorem CarriesOut.catalog (carries : CarriesOut g t g' w e status e' payout t') :
    t'.catalog = t.catalog := by
  cases carries with
  | rejected => rfl
  | completed _ _ created => exact created.catalog
  | approved => rfl
  | pending => rfl

theorem Step.catalog (step : Step g t g' t') :
    t'.catalog = t.catalog ∨
      ∃ item moment, CatalogSweep.fit item = true ∧ t' = t.withItem item moment := by
  cases step with
  | settle c settles =>
    refine .inl ?_
    rw [settles.scope]
    rfl
  | change change =>
    cases change with
    | same => exact .inl rfl
    | opened => exact .inl rfl
    | restated => exact .inl rfl
    | created created => exact .inl created.catalog
    | deferred => exact .inl rfl
    | rated => exact .inl rfl
    | referred => exact .inl (Tables.withLocked_catalog (t.withReferral _) _ _)
    | requested => exact .inl (Tables.withLocked_catalog t _ _)
    | decided _ _ _ carries =>
      exact .inl (carries.catalog.trans (Tables.withLocked_catalog t _ _))
    | listed item sound moment positive =>
      exact .inr ⟨item, moment, CatalogSweep.fit_iff.mpr ⟨sound, positive⟩, rfl⟩

-- What belongs to a product, according to its type.
structure Product.Stocked (t : Tables) (p : Product) : Prop where
  links : t.Links p
  instruction : (Rows.find? Prod.fst p.externalId t.redeemInstructions).isSome
  logos : ∃ urls, Rows.find? Prod.fst p.externalId t.logoUrls = some (p.externalId, urls) ∧
    urls.Nodup
  fixed : p.denominationType = .fixed →
    (t.denominationsOf p.externalId .recipient).length =
        (t.denominationsOf p.externalId .sender).length ∧
      ∀ kind, ∀ d ∈ t.denominationsOf p.externalId kind, 0 < d
  range : p.denominationType = .range →
    (∀ kind, t.denominationsOf p.externalId kind = []) ∧
      p.minRecipientDenomination.isSome ∧ p.maxRecipientDenomination.isSome

structure Tables.Stocked (t : Tables) : Prop where
  single : (t.products.map Product.externalId).Nodup
  products : ∀ p ∈ t.products, p.Stocked t
  logos : ∀ row ∈ t.logoUrls, (Rows.find? Product.externalId row.1 t.products).isSome
  denominations : ∀ row ∈ t.denominations, (Rows.find? Product.externalId row.1.1 t.products).isSome
  instructions : ∀ row ∈ t.redeemInstructions,
    (Rows.find? Product.externalId row.1 t.products).isSome

namespace CatalogSweep

theorem distinct_nodup (urls : List String) : (Store.distinct urls).Nodup := by
  -- Whatever is kept already stays without repetitions.
  suffices grows : ∀ kept : List String, kept.Nodup → List.Nodup
      (urls.foldl (fun kept url => if kept.contains url then kept else kept ++ [url]) kept) from
    grows [] .nil
  induction urls with
  | nil => exact fun _ unique => unique
  | cons url rest ih =>
    intro kept unique
    rw [List.foldl_cons]
    split
    · exact ih kept unique
    · rename_i new
      have unseen : url ∉ kept := by simpa using new
      refine ih _ (List.nodup_append.mpr ⟨unique, by simp, ?_⟩)
      rintro a mem b last rfl
      exact unseen (List.mem_singleton.mp last ▸ mem)

theorem flaw?_fixed (sound : flaw? item = none) (fixed : item.denominationType = .fixed) :
    item.fixedRecipientDenominations.length = item.fixedSenderDenominations.length := by
  unfold flaw? at sound
  split at sound
  · cases sound
  · split at sound
    · cases sound
    · simpa [fixed] using sound

theorem flaw?_range (sound : flaw? item = none) (range : item.denominationType = .range) :
    item.minRecipientDenomination.isSome ∧ item.maxRecipientDenomination.isSome := by
  unfold flaw? at sound
  split at sound
  · cases sound
  · split at sound
    · cases sound
    · simpa [range, Option.isSome_iff_ne_none] using sound

end CatalogSweep

open CatalogSweep

theorem Tables.denominationsOf_withItem (id : Int) (kind : DenominationKind) :
    (t.withItem item moment).denominationsOf id kind =
      if item.productId = id then CatalogSweep.denominationsOf item kind
      else t.denominationsOf id kind := by
  simp only [Tables.denominationsOf, withItem, Rows.find?_put, Prod.mk.injEq]
  by_cases own : item.productId = id
  · cases kind <;> simp [own]
  · simp [own]

theorem Tables.Links.withItem {p : Product} (links : t.Links p) :
    (t.withItem item moment).Links p :=
  ⟨Rows.isSome_put _ links.brand, Rows.isSome_put _ links.category,
    Rows.isSome_put _ links.country⟩

theorem CatalogSweep.productOf_stocked (t : Tables) (good : fit item = true) (moment : Instant) :
    (productOf item moment).Stocked (t.withItem item moment) := by
  obtain ⟨sound, positive⟩ := fit_iff.mp good
  have listed (kind : DenominationKind) :
      (t.withItem item moment).denominationsOf item.productId kind = denominationsOf item kind :=
    (Tables.denominationsOf_withItem _ kind).trans (if_pos rfl)
  refine ⟨t.withItem_links item moment, ?_, ?_, ?_, ?_⟩
  · exact Rows.isSome_put_self Prod.fst (instructionRow item)
  · exact ⟨_, (Rows.find?_put item.productId).trans (if_pos rfl), distinct_nodup item.logoUrls⟩
  · intro (fixed : item.denominationType = .fixed)
    have recipient : denominationsOf item .recipient = item.fixedRecipientDenominations :=
      if_pos fixed
    have sender : denominationsOf item .sender = item.fixedSenderDenominations := if_pos fixed
    refine ⟨?_, fun kind d mem => ?_⟩
    · change (t.withItem item moment |>.denominationsOf item.productId _).length =
        (t.withItem item moment |>.denominationsOf item.productId _).length
      rw [listed, listed, recipient, sender]
      exact flaw?_fixed sound fixed
    · exact Decimal.not_le_iff.mp (positive kind d (listed kind ▸ mem))
  · intro (range : item.denominationType = .range)
    refine ⟨fun kind => (listed kind).trans ?_, flaw?_range sound range⟩
    have unfixed : item.denominationType ≠ .fixed := by simp [range]
    cases kind with
    | recipient => exact if_neg unfixed
    | sender => exact if_neg unfixed

theorem Product.Stocked.withItem {p : Product} (stocked : p.Stocked t)
    (other : p.externalId ≠ item.productId) : p.Stocked (t.withItem item moment) := by
  obtain ⟨links, instruction, ⟨urls, found, unique⟩, fixed, range⟩ := stocked
  have lists (kind : DenominationKind) :
      (t.withItem item moment).denominationsOf p.externalId kind =
        t.denominationsOf p.externalId kind :=
    (Tables.denominationsOf_withItem _ kind).trans (if_neg other.symm)
  have logos : Rows.find? Prod.fst p.externalId (t.withItem item moment).logoUrls =
      Rows.find? Prod.fst p.externalId t.logoUrls := (Rows.find?_put _).trans (if_neg other.symm)
  refine ⟨links.withItem, Rows.isSome_put _ instruction, ⟨urls, logos.trans found, unique⟩, ?_, ?_⟩
  · simpa only [lists] using fixed
  · simpa only [lists] using range

namespace Tables

theorem Stocked.withItem (stocked : t.Stocked) (good : fit item = true) (moment : Instant) :
    (t.withItem item moment).Stocked := by
  have here : (Rows.find? Product.externalId item.productId
      (t.withItem item moment).products).isSome :=
    Rows.isSome_put_self Product.externalId (productOf item moment)
  refine ⟨Rows.nodup_put stocked.single, fun p mem => ?_, fun row mem => ?_, fun row mem => ?_,
    fun row mem => ?_⟩
  · rcases Rows.mem_put mem with rfl | ⟨old, other⟩
    · exact productOf_stocked t good moment
    · exact (stocked.products p old).withItem other
  · rcases Rows.mem_put mem with rfl | ⟨old, _⟩
    · exact here
    · exact Rows.isSome_put _ (stocked.logos row old)
  · rcases Rows.mem_put mem with rfl | ⟨mem, _⟩
    · exact here
    · rcases Rows.mem_put mem with rfl | ⟨old, _⟩
      · exact here
      · exact Rows.isSome_put _ (stocked.denominations row old)
  · rcases Rows.mem_put mem with rfl | ⟨old, _⟩
    · exact here
    · exact Rows.isSome_put _ (stocked.instructions row old)

theorem Stocked.empty : empty.Stocked :=
  ⟨.nil, by rintro _ ⟨⟩, by rintro _ ⟨⟩, by rintro _ ⟨⟩, by rintro _ ⟨⟩⟩

theorem stocked_catalog : t.catalog.Stocked ↔ t.Stocked := by
  have links (p : Product) : t.catalog.Links p ↔ t.Links p :=
    ⟨fun l => ⟨l.1, l.2, l.3⟩, fun l => ⟨l.1, l.2, l.3⟩⟩
  have products (p : Product) : p.Stocked t.catalog ↔ p.Stocked t :=
    ⟨fun p => ⟨(links _).mp p.1, p.2, p.3, p.4, p.5⟩,
      fun p => ⟨(links _).mpr p.1, p.2, p.3, p.4, p.5⟩⟩
  exact ⟨fun s => ⟨s.1, fun p mem => (products p).mp (s.2 p mem), s.3, s.4, s.5⟩,
    fun s => ⟨s.1, fun p mem => (products p).mpr (s.2 p mem), s.3, s.4, s.5⟩⟩

theorem Stocked.step (step : Step g t g' t') (stocked : t.Stocked) : t'.Stocked := by
  rcases step.catalog with same | ⟨item, moment, good, rfl⟩
  · rw [← stocked_catalog, same, stocked_catalog]
    exact stocked
  · exact stocked.withItem good moment

end Tables

theorem Listing.senderPrice_paired {l : Listing} (fixed : l.product.denominationType = .fixed)
    (even : l.recipientDenominations.length = l.senderDenominations.length)
    (found : (l.recipientDenominations.findIdx? fun d => decide (d.Same price)) = some i) :
    ∃ sold, l.senderDenominations[i]? = some sold ∧ l.senderPrice price = .ok (some sold) := by
  have inside : i < l.senderDenominations.length := by
    rw [← even]
    exact (List.findIdx?_eq_some_iff_findIdx_eq.mp found).1
  refine ⟨l.senderDenominations[i], List.getElem?_eq_getElem inside, ?_⟩
  unfold senderPrice
  rw [fixed]
  simp only [found, Option.bind_some, List.getElem?_eq_getElem inside]

namespace World

-- In every state that operations, answers of the vendor and faults can lead to, each product is
-- there with all that belongs to it, nothing is there without its product, and every face value
-- of a fixed product has its price.
theorem run_stocked (events : List Event) :
    let t := (run events).server.tables
    t.Stocked ∧ ∀ p ∈ t.products, ∃ l, t.listing? p.externalId = some l ∧ l.product = p ∧
      (p.denominationType = .fixed → ∀ price i,
        (l.recipientDenominations.findIdx? fun d => decide (d.Same price)) = some i →
        ∃ sold, l.senderDenominations[i]? = some sold ∧ l.senderPrice price = .ok (some sold)) := by
  intro t
  have stocked : t.Stocked := Sound.start.induct (I := fun _ t => t.Stocked)
    (fun _ _ _ _ _ step stocked => stocked.step step) .empty events
  refine ⟨stocked, fun p mem => ?_⟩
  have found : t.listing? p.externalId = some ⟨p, t.denominationsOf p.externalId .recipient,
      t.denominationsOf p.externalId .sender⟩ := by
    rw [Tables.listing?, Rows.find?_of_mem stocked.single mem, Option.map_some]
  refine ⟨_, found, rfl, fun fixed price i => ?_⟩
  exact Listing.senderPrice_paired fixed ((stocked.products p mem).fixed fixed).1

-- The first commit of a sweep fails, and an item in between must not be stored.
def interruptedEvents : List Event :=
  [.begin (.sweepCatalog 50), .page 0 (.ok ⟨[card, freeCard, card], 0, 1⟩), .failNextCommit,
    .advance 0, .advance 0, .advance 0, .advance 0, .advance 0]

theorem run_stocked_interrupted :
    (run interruptedEvents).server.tables.catalogCounts = ⟨1, 1, 1, 1, 0, 2, 1⟩ ∧
      ∃ l sold, (run interruptedEvents).server.tables.listing? 1 = some l ∧
        l.senderPrice 1 = .ok (some sold) := by
  obtain ⟨_, listed⟩ := run_stocked interruptedEvents
  have stored : ∃ p ∈ (run interruptedEvents).server.tables.products,
      p.externalId = 1 ∧ p.denominationType = .fixed := by decide +kernel
  obtain ⟨p, mem, number, fixed⟩ := stored
  obtain ⟨l, found, _, paired⟩ := listed p mem
  rw [number] at found
  have face : ((run interruptedEvents).server.tables.listing? 1).map (fun l =>
      l.recipientDenominations.findIdx? fun d => decide (d.Same 1)) = some (some 0) := by
    decide +kernel
  rw [found, Option.map_some, Option.some_inj] at face
  obtain ⟨sold, _, sells⟩ := paired fixed 1 0 face
  exact ⟨by decide +kernel, l, sold, found, sells⟩

end World
end Treasury
