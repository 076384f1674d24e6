import Treasury.Proofs.Catalog.Items

namespace Treasury

def Product.undated (p : Product) : Product := { p with syncedAt := Server.epoch }

open CatalogSweep

namespace Tables

variable {t : Tables} {dated again : List (VendorItem × Instant)}

theorem undated_products (dated : List (VendorItem × Instant)) :
    (dated.map fun d => productOf d.1 d.2).map Product.undated =
      (dated.map (·.1)).map fun item => productOf item Server.epoch := by
  rw [List.map_map, List.map_map]
  rfl

theorem withItems_again (same : again.map (·.1) = dated.map (·.1)) :
    ((t.withItems dated).withItems again).products.map Product.undated =
        (t.withItems dated).products.map Product.undated ∧
      (t.withItems dated).withItems again = { t.withItems dated with
        products := ((t.withItems dated).withItems again).products } := by
  rw [withItems_eq (t.withItems dated), withItems_eq t, same]
  refine ⟨?_, ?_⟩
  · dsimp only
    have keeps (p : Product) : p.undated.externalId = p.externalId := rfl
    rw [Rows.map_putAll keeps, Rows.map_putAll keeps, undated_products, undated_products, same,
      Rows.putAll_again]
  · simp only [Rows.putAll_again]

end Tables

namespace CatalogSweep

-- Whatever the pages hold, a later sweep over them and over the rows that the first one left comes
-- to the same end, and afterwards only moments of products differ.
theorem sweep_repeated (source : Nat → Except CatalogError VendorPage) (pageSize : Nat) (s : Server)
    (calm : s.Calm) :
    let first := (sweep pageSize).run.runAlone (answers source) s
    first.2.Calm ∧ ∀ s' : Server, s'.Calm → s'.tables = first.2.tables →
      let second := (sweep pageSize).run.runAlone (answers source) s'
      second.1 = first.1 ∧
        second.2.tables.products.map Product.undated = first.2.tables.products.map Product.undated ∧
        second.2.tables = { first.2.tables with products := second.2.tables.products } ∧
        second.2.tables.catalogCounts = first.2.tables.catalogCounts := by
  intro first
  obtain ⟨result, _, comes⟩ := sweepFrom_comes source (max pageSize 1) maxPages .empty
  obtain ⟨s₁, ran, takes⟩ := comes s calm
  have came : first = (result, s₁) := ran
  rw [came]
  refine ⟨takes.calm, ?_⟩
  intro s' calm' left second
  obtain ⟨s₂, ran', takes'⟩ := comes s' calm'
  have cameAgain : second = (result, s₂) := ran'
  obtain ⟨dated, listed, _, tables⟩ := takes.stored
  obtain ⟨again, listed', _, tables'⟩ := takes'.stored
  obtain ⟨products, rest⟩ := Tables.withItems_again (t := s.tables) (listed'.trans listed.symm)
  rw [← tables, ← left, ← tables', left] at products rest
  rw [cameAgain]
  refine ⟨rfl, products, rest, ?_⟩
  have rows := congrArg List.length products
  rw [List.length_map, List.length_map] at rows
  rw [rest]
  simp only [Tables.catalogCounts, rows]

-- A card between two bounds, of a brand that has been renamed since.
def rangeCard : VendorItem := { card with
  denominationType := .range
  minRecipientDenomination := some 1
  maxRecipientDenomination := some 1
  brand := ⟨1, "renamed"⟩ }

def renamingSource (_ : Nat) : Except CatalogError VendorPage :=
  .ok ⟨[card, rangeCard, unnamed], 0, 1⟩

theorem sweep_repeated_renamed :
    let first := (sweep 50).run.runAlone (answers renamingSource) .start
    let second := (sweep 50).run.runAlone (answers renamingSource) first.2
    Server.start.Calm ∧ first.1 = .ok ⟨1, 3, 2, 1, false⟩ ∧ second.1 = first.1 ∧
      second.2.tables.catalogCounts = ⟨1, 1, 1, 1, 0, 0, 1⟩ := by
  intro first second
  have calm : Server.start.Calm := ⟨rfl, rfl, rfl⟩
  obtain ⟨still, repeated⟩ := sweep_repeated renamingSource 50 .start calm
  obtain ⟨same, _, _, counts⟩ := repeated first.2 still rfl
  have counted : first.2.tables.catalogCounts = ⟨1, 1, 1, 1, 0, 0, 1⟩ := by decide +kernel
  exact ⟨calm, by decide +kernel, same, counts.trans counted⟩

end CatalogSweep
end Treasury
