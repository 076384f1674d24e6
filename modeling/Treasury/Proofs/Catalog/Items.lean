import Treasury.Proofs.Catalog.Sweep
import Treasury.Proofs.Service.Ensures
import Treasury.Proofs.Service.Operations

namespace Treasury

theorem Task.runAlone_then {task : Task ε α} {f : α → Task ε β}
    {answer : {γ : Type} → Question γ → γ} (ran : task.run.runAlone answer s = (.ok a, s')) :
    (task >>= f).run.runAlone answer s = (f a).run.runAlone answer s' := by
  change (Flow.bind task.run (ExceptT.bindCont f)).runAlone answer s = _
  rw [Flow.runAlone_bind, ran]
  rfl

theorem Task.Alone.unit {w : Work ε α} {tell : StoreError → ε} {B : Breakdown → Prop}
    {E : Halt ε → Server → List Exchange → Prop}
    {Q : α → Server → List Exchange → Prop} {E' : Halt ε → Prop} {Q' : α → Gauge → Option Tables → Prop}
    (runs : w.Runs E' s.gauge s.tables Q') (steady : w.Steady B) (honest : s.Honest)
    (ok : ∀ s' a p, s.Onward s' → s.clock ≤ s'.clock → Q' a s'.gauge p →
      s'.tables = p.getD s.tables → Q a s' [])
    (error : ∀ s' h, s.Still s' → s.clock ≤ s'.clock → (s.Calm → E' h) → E h s' []) :
    (Task.unit tell w).Alone s E Q := by
  have ended : s.Ended E' Q' (s.unit tell w).1 (s.unit tell w).2 := s.unit_ended runs honest
  have later := (Server.unit_steady steady tell s).1
  have step : (Task.unit tell w).run = .step (Server.unit tell w) .done := rfl
  unfold Task.Alone Task.Ensures
  rw [step]
  rintro _ rfl -
  rcases result : (s.unit tell w).1 with h | a
  · obtain ⟨tables, why⟩ := ended.refusal h result
    exact error _ h ⟨ended.onward, tables⟩ later why
  · obtain ⟨p, post, tables⟩ := ended.answer a result
    exact ok _ a p ended.onward later post tables

theorem Task.Alone.ran {task : Task ε α} {Q : α → Server → List Exchange → Prop}
    (alone : task.Alone s (fun _ _ _ => False) Q) (answer : {γ : Type} → Question γ → γ) :
    ∃ a s', task.run.runAlone answer s = (.ok a, s') ∧ ∃ heard, Q a s' heard := by
  have ended := Flow.Ensures.alone alone answer
  rcases result : task.run.runAlone answer s with ⟨h | a, s'⟩ <;> rw [result] at ended
  · exact ended.elim
  · exact ⟨a, s', rfl, _, ended⟩

namespace CatalogSweep

def logoRow (item : VendorItem) : Int × List String :=
  (item.productId, Store.distinct item.logoUrls)

def denominationRows (item : VendorItem) : List ((Int × DenominationKind) × List Decimal) :=
  [((item.productId, .recipient), denominationsOf item .recipient),
    ((item.productId, .sender), denominationsOf item .sender)]

def instructionRow (item : VendorItem) : Int × RedeemInstruction :=
  (item.productId, item.redeemInstruction)

end CatalogSweep

open CatalogSweep

namespace Tables

def withItems (t : Tables) (dated : List (VendorItem × Instant)) : Tables :=
  dated.foldl (fun t d => t.withItem d.1 d.2) t

theorem withItems_eq (t : Tables) (dated : List (VendorItem × Instant)) :
    t.withItems dated = { t with
      brands := Rows.putAll Brand.externalId ((dated.map (·.1)).map (·.brand)) t.brands
      categories := Rows.putAll ProductCategory.externalId ((dated.map (·.1)).map (·.category))
        t.categories
      countries := Rows.putAll Country.isoCode ((dated.map (·.1)).map countryOf) t.countries
      products := Rows.putAll Product.externalId (dated.map fun d => productOf d.1 d.2) t.products
      logoUrls := Rows.putAll Prod.fst ((dated.map (·.1)).map logoRow) t.logoUrls
      denominations :=
        Rows.putAll Prod.fst ((dated.map (·.1)).flatMap denominationRows) t.denominations
      redeemInstructions :=
        Rows.putAll Prod.fst ((dated.map (·.1)).map instructionRow) t.redeemInstructions } := by
  induction dated generalizing t with
  | nil => rfl
  | cons d rest ih => exact ih (t.withItem d.1 d.2)

-- What these items leave under each key of the catalog is what the last of them writes there, or
-- what was there before.
structure Relists (t : Tables) (dated : List (VendorItem × Instant)) (t' : Tables) : Prop where
  brand : ∀ id, Rows.find? Brand.externalId id t'.brands =
    (Rows.find? Brand.externalId id ((dated.map (·.1)).map (·.brand)).reverse).or
      (Rows.find? Brand.externalId id t.brands)
  category : ∀ id, Rows.find? ProductCategory.externalId id t'.categories =
    (Rows.find? ProductCategory.externalId id ((dated.map (·.1)).map (·.category)).reverse).or
      (Rows.find? ProductCategory.externalId id t.categories)
  country : ∀ code, Rows.find? Country.isoCode code t'.countries =
    (Rows.find? Country.isoCode code ((dated.map (·.1)).map countryOf).reverse).or
      (Rows.find? Country.isoCode code t.countries)
  product : ∀ id, Rows.find? Product.externalId id t'.products =
    (Rows.find? Product.externalId id (dated.map fun d => productOf d.1 d.2).reverse).or
      (Rows.find? Product.externalId id t.products)
  logoUrls : ∀ id, Rows.find? Prod.fst id t'.logoUrls =
    (Rows.find? Prod.fst id ((dated.map (·.1)).map logoRow).reverse).or
      (Rows.find? Prod.fst id t.logoUrls)
  denominations : ∀ key, Rows.find? Prod.fst key t'.denominations =
    (Rows.find? Prod.fst key ((dated.map (·.1)).flatMap denominationRows).reverse).or
      (Rows.find? Prod.fst key t.denominations)
  redeemInstruction : ∀ id, Rows.find? Prod.fst id t'.redeemInstructions =
    (Rows.find? Prod.fst id ((dated.map (·.1)).map instructionRow).reverse).or
      (Rows.find? Prod.fst id t.redeemInstructions)

theorem withItems_relists (t : Tables) (dated : List (VendorItem × Instant)) :
    t.Relists dated (t.withItems dated) := by
  rw [withItems_eq]
  constructor <;> exact fun _ => Rows.find?_putAll _

end Tables

namespace CatalogSweep

def fit (item : VendorItem) : Bool :=
  (flaw? item).isNone &&
    (denominationsOf item .recipient ++ denominationsOf item .sender).all fun d => !decide (d ≤ 0)

theorem fit_iff {item : VendorItem} :
    fit item = true ↔ flaw? item = none ∧ ∀ kind, ∀ d ∈ denominationsOf item kind, ¬ d ≤ 0 := by
  simp only [fit, Bool.and_eq_true, Option.isNone_iff_eq_none, List.all_eq_true, List.mem_append,
    Bool.not_eq_true', decide_eq_false_iff_not]
  refine and_congr_right fun _ => ⟨fun high kind d mem => high d ?_, fun high d mem => ?_⟩
  · cases kind with
    | recipient => exact .inl mem
    | sender => exact .inr mem
  · rcases mem with mem | mem
    · exact high .recipient d mem
    · exact high .sender d mem

def Report.counting (r : Report) (items : List VendorItem) : Report :=
  { r with
    processed := r.processed + items.length
    succeeded := r.succeeded + items.countP fit
    failed := r.failed + items.countP fun item => !fit item }

theorem Report.counting_cons (r : Report) (item : VendorItem) (rest : List VendorItem) :
    (r.counting [item]).counting rest = r.counting (item :: rest) := by
  simp only [Report.counting, List.length_cons, List.length_nil, List.countP_cons, List.countP_nil,
    Report.mk.injEq, true_and, and_true]
  omega

end CatalogSweep

-- A server before and after these items were taken.
structure Server.Takes (s : Server) (items : List VendorItem) (s' : Server) : Prop where
  calm : s'.Calm
  later : s.clock ≤ s'.clock
  stored : ∃ dated : List (VendorItem × Instant), dated.map (·.1) = items.filter fit ∧
    (∀ d ∈ dated, s.clock ≤ d.2 ∧ d.2 ≤ s'.clock) ∧ s'.tables = s.tables.withItems dated

namespace Server.Takes

variable {s s' s'' : Server}

theorem nothing (calm : s'.Calm) (later : s.clock ≤ s'.clock) (tables : s'.tables = s.tables) :
    s.Takes [] s' := ⟨calm, later, [], rfl, by simp, tables⟩

theorem refl (calm : s.Calm) : s.Takes [] s := nothing calm (le_refl _) rfl

theorem unfit (calm : s'.Calm) (later : s.clock ≤ s'.clock) (tables : s'.tables = s.tables)
    (bad : fit item = false) : s.Takes [item] s' :=
  ⟨calm, later, [], by simp [bad], by simp, tables⟩

theorem trans (first : s.Takes items s') (second : s'.Takes more s'') :
    s.Takes (items ++ more) s'' := by
  obtain ⟨dated, listed, during, tables⟩ := first.stored
  obtain ⟨dated', listed', during', tables'⟩ := second.stored
  refine ⟨second.calm, le_trans first.later second.later, dated ++ dated', ?_, ?_, ?_⟩
  · rw [List.map_append, listed, listed', List.filter_append]
  · intro d mem
    rcases List.mem_append.mp mem with mem | mem
    · exact ⟨(during d mem).1, le_trans (during d mem).2 second.later⟩
    · exact ⟨le_trans first.later (during' d mem).1, (during' d mem).2⟩
  · rw [tables', tables, Tables.withItems, Tables.withItems, Tables.withItems, List.foldl_append]

theorem report (takes : s.Takes items s') (event : Log.Event) : s.Takes items (s'.report event).2 :=
  ⟨⟨takes.calm.1, takes.calm.2, takes.calm.3⟩, takes.later, takes.stored⟩

end Server.Takes

namespace CatalogSweep

variable {source : Nat → Except CatalogError VendorPage} {s : Server}

theorem listItem_steady {tell : StoreError → CatalogError} {event : Log.Event} :
    Work.Steady (fun _ => False) (do (writeItem item).told tell; Work.report event) :=
  .bind (.told (writeItem_steady item) _) fun _ => .report _

theorem upsertItem_alone (calm : s.Calm) (item : VendorItem) :
    (upsertItem item).Alone s
      (fun h s' _ => (∃ e, h = .refused e) ∧ fit item = false ∧ s.Takes [item] s')
      (fun _ s' _ => fit item = true ∧ s.Takes [item] s') := by
  cases sound : flaw? item with
  | some reason =>
    have bad : fit item = false := by simp [fit, sound]
    unfold upsertItem
    rw [sound]
    exact ⟨⟨_, rfl⟩, bad, .unfit calm (le_refl _) rfl bad⟩
  | none =>
    unfold upsertItem
    rw [sound]
    refine .unit listItem_runs listItem_steady calm.honest ?_ ?_
    · rintro s' _ _ onward later ⟨rfl, clock, high⟩ tables
      have good : fit item = true := fit_iff.mpr ⟨sound, high⟩
      exact ⟨good, onward.calm calm, later, [(item, s.clock)], by simp [good], by simpa using later,
        tables⟩
    · intro s' h still later why
      obtain ⟨refused, low⟩ := why calm
      have bad : fit item = false := by
        rw [Bool.eq_false_iff, ne_eq, fit_iff]
        exact fun good => low good.2
      exact ⟨refused, bad, .unfit (still.calm calm) later still.tables bad⟩

theorem takeItem_alone (calm : s.Calm) (r : Report) (item : VendorItem) :
    (takeItem r item).Alone s (fun _ _ _ => False) fun r' s' _ =>
      r' = r.counting [item] ∧ s.Takes [item] s' := by
  refine Task.Ensures.bind (.attempt (.mono (upsertItem_alone calm item) ?_ ?_))
  · rintro _ s' calls ⟨good, takes⟩
    exact ⟨by simp [Report.counting, good], takes⟩
  · rintro _ s' calls ⟨⟨e, rfl⟩, bad, takes⟩
    refine Task.Alone.report_then ⟨by simp [Report.counting, bad], takes.report _⟩

variable {answer : {γ : Type} → Question γ → γ}

theorem takeItems_ran (calm : s.Calm) (r : Report) (items : List VendorItem) :
    ∃ s', (takeItems r items).run.runAlone answer s = (.ok (r.counting items), s') ∧
      s.Takes items s' := by
  induction items generalizing s r with
  | nil => exact ⟨s, rfl, .refl calm⟩
  | cons item rest ih =>
    obtain ⟨_, s₁, ran, _, rfl, takes⟩ := (takeItem_alone calm r item).ran answer
    obtain ⟨s₂, ran', takes'⟩ := ih takes.calm (r.counting [item])
    rw [Report.counting_cons] at ran'
    exact ⟨s₂, (Task.runAlone_then ran).trans ran', takes.trans takes'⟩

-- The pages that a sweep takes items from, the one after `maxPages - left` first. The page of the
-- last number that there is cannot be counted any more.
def visitedFrom (source : Nat → Except CatalogError VendorPage) : Nat → List VendorPage
  | 0 => []
  | left + 1 =>
    match source (maxPages - (left + 1)) with
    | .error _ => []
    | .ok page =>
      if page.isLast? = some false ∧ page.content ≠ [] then page :: visitedFrom source left
      else [page]

def visited (source : Nat → Except CatalogError VendorPage) : List VendorPage :=
  visitedFrom source maxPages

def itemsOf (pages : List VendorPage) : List VendorItem := pages.flatMap (·.content)

-- A report before and after these pages, wherever the sweep ended.
structure Report.Tells (r : Report) (taken : List VendorPage) (r' : Report) : Prop where
  pages : r'.pages = r.pages + taken.length
  processed : r'.processed = r.processed + (itemsOf taken).length
  succeeded : r'.succeeded = r.succeeded + (itemsOf taken).countP fit
  failed : r'.failed = r.failed + (itemsOf taken).countP fun item => !fit item

def Report.after (r : Report) (page : VendorPage) : Report :=
  Report.counting { r with pages := r.pages + 1 } page.content

theorem Report.Tells.next {r r' : Report} {page : VendorPage} {taken : List VendorPage}
    (tells : (r.after page).Tells taken r') : r.Tells (page :: taken) r' := by
  obtain ⟨pages, processed, succeeded, failed⟩ := tells
  simp only [Report.after, Report.counting] at pages processed succeeded failed
  have split : itemsOf (page :: taken) = page.content ++ itemsOf taken := List.flatMap_cons
  refine ⟨?_, ?_, ?_, ?_⟩
  · rw [pages, List.length_cons]
    omega
  · rw [processed, split, List.length_append]
    omega
  · rw [succeeded, split, List.countP_append]
    omega
  · rw [failed, split, List.countP_append]
    omega

theorem Report.Tells.nothing (r : Report) (truncated : Bool) : r.Tells [] { r with truncated } :=
  ⟨rfl, rfl, rfl, rfl⟩

def Comes (task : Task CatalogError Report) (source : Nat → Except CatalogError VendorPage)
    (result : Except (Halt CatalogError) Report) (items : List VendorItem) : Prop :=
  ∀ s : Server, s.Calm → ∃ s', task.run.runAlone (answers source) s = (result, s') ∧
    s.Takes items s'

theorem Comes.page_then {f : Except CatalogError VendorPage → Task CatalogError Report}
    (fetched : source number = page) (rest : Comes (f page) source result items) :
    Comes (Task.ask (.page number size) >>= f) source result items := by
  intro s calm
  subst fetched
  exact rest s calm

theorem Comes.items_then {f : Report → Task CatalogError Report}
    (rest : Comes (f (r.counting items)) source result more) :
    Comes (takeItems r items >>= f) source result (items ++ more) := by
  intro s calm
  obtain ⟨s₁, ran, takes⟩ := takeItems_ran calm r items
  obtain ⟨s₂, ran', takes'⟩ := rest s₁ takes.calm
  exact ⟨s₂, (Task.runAlone_then ran).trans ran', takes.trans takes'⟩

theorem Comes.report_then {f : Unit → Task CatalogError Report}
    (rest : Comes (f ()) source result items) :
    Comes (Task.report event >>= f) source result items := by
  intro s calm
  obtain ⟨s', ran, takes⟩ := rest (s.report event).2 ((Server.Takes.refl calm).report event).calm
  exact ⟨s', ran, ((Server.Takes.refl calm).report event).trans takes⟩

theorem Comes.pure (r : Report) : Comes (Pure.pure r) source (.ok r) [] :=
  fun s calm => ⟨s, rfl, .refl calm⟩

theorem Comes.halt (h : Halt CatalogError) : Comes (throw h) source (.error h) [] :=
  fun s calm => ⟨s, rfl, .refl calm⟩

theorem finished_comes (r : Report) : Comes (finished r) source (.ok r) [] := .report_then (.pure r)

-- How a sweep ends depends on the source alone, and what it takes are the items of its pages.
theorem sweepFrom_comes (source : Nat → Except CatalogError VendorPage) (pageSize left : Nat)
    (r : Report) :
    ∃ result, (∀ r', result = .ok r' → r.Tells (visitedFrom source left) r') ∧
      Comes (sweepFrom pageSize left r) source result (itemsOf (visitedFrom source left)) := by
  have unfetched (number : Nat) (e : CatalogError) (r : Report) {first later : Log.Event} :
      ∃ result, (∀ r', result = .ok r' → r.Tells [] r') ∧
        Comes (if number = 0 then do
            Task.report first
            Task.refuse e
          else do
            Task.report later
            finished { r with truncated := true }) source result [] := by
    split
    · exact ⟨.error (.refused e), by rintro _ ⟨⟩, .report_then (.halt _)⟩
    · refine ⟨.ok { r with truncated := true }, ?_, .report_then (finished_comes _)⟩
      rintro _ ⟨⟩
      exact .nothing r true
  induction left generalizing r with
  | zero =>
    unfold sweepFrom visitedFrom
    cases fetched : source (maxPages - 0) with
    | error e =>
      obtain ⟨result, tells, comes⟩ := unfetched (maxPages - 0) e r
      exact ⟨result, tells, .page_then fetched comes⟩
    | ok page =>
      exact ⟨.error (.broken .countOverflow), by rintro _ ⟨⟩, .page_then fetched (.halt _)⟩
  | succ left ih =>
    unfold sweepFrom visitedFrom
    cases fetched : source (maxPages - (left + 1)) with
    | error e =>
      obtain ⟨result, tells, comes⟩ := unfetched (maxPages - (left + 1)) e r
      exact ⟨result, tells, .page_then fetched comes⟩
    | ok page =>
      have last : itemsOf [page] = page.content ++ [] := List.flatMap_cons
      dsimp only
      cases told : page.isLast? with
      | none =>
        rw [if_neg (by rintro ⟨⟨⟩, _⟩), last]
        refine ⟨.error (.broken .countOverflow), by rintro _ ⟨⟩, .page_then fetched ?_⟩
        refine .items_then ?_
        rw [told]
        exact .halt _
      | some enough =>
        by_cases more : enough = false ∧ page.content ≠ []
        · obtain ⟨result, tells, comes⟩ := ih (r.after page)
          rw [if_pos ⟨congrArg some more.1, more.2⟩]
          refine ⟨result, fun r' same => (tells r' same).next, .page_then fetched ?_⟩
          refine .items_then ?_
          rw [told]
          dsimp only
          rw [if_neg (by simp [more.1, more.2])]
          exact comes
        · have ends : (enough || page.content.isEmpty) = true := by
            by_contra goesOn
            simp only [Bool.or_eq_true, List.isEmpty_iff, not_or, Bool.not_eq_true] at goesOn
            exact more goesOn
          rw [if_neg (by simpa using more), last]
          refine ⟨.ok (r.after page), ?_, .page_then fetched (.items_then ?_)⟩
          · rintro _ ⟨⟩
            exact .next (.nothing _ _)
          · rw [told]
            dsimp only
            rw [if_pos ends]
            exact finished_comes _

-- On a server that nothing is set up against, an item is stored exactly if it is fit, which is a
-- matter of the item alone. A sweep leaves in the catalog what the fit items of its pages write,
-- one after another, and nothing of any other item; all other tables stay as they are, and a
-- report counts both kinds.
theorem sweep_isolated (source : Nat → Except CatalogError VendorPage) (pageSize : Nat) (s : Server)
    (calm : s.Calm) :
    let items := itemsOf (visited source)
    let ended := (sweep pageSize).run.runAlone (answers source) s
    (∀ (item : VendorItem) (s' : Server), s'.Calm →
      (((upsertItem item).run.runAlone (answers source) s').1 = .ok () ↔ fit item = true)) ∧
    (∃ dated : List (VendorItem × Instant), dated.map (·.1) = items.filter fit ∧
      (∀ d ∈ dated, s.clock ≤ d.2 ∧ d.2 ≤ ended.2.clock) ∧
      ended.2.tables = s.tables.withItems dated ∧ s.tables.Relists dated ended.2.tables) ∧
    ended.2.tables = { s.tables with
      brands := ended.2.tables.brands, categories := ended.2.tables.categories
      countries := ended.2.tables.countries, products := ended.2.tables.products
      logoUrls := ended.2.tables.logoUrls, denominations := ended.2.tables.denominations
      redeemInstructions := ended.2.tables.redeemInstructions } ∧
    ∀ r, ended.1 = .ok r →
      r.pages = (visited source).length ∧ r.processed = items.length ∧
        r.succeeded = items.countP fit ∧ r.failed = items.countP fun item => !fit item := by
  intro items ended
  obtain ⟨result, tells, comes⟩ := sweepFrom_comes source (max pageSize 1) maxPages .empty
  obtain ⟨s', ran, takes⟩ := comes s calm
  have came : ended = (result, s') := ran
  obtain ⟨dated, listed, during, tables⟩ := takes.stored
  rw [came]
  refine ⟨fun item s' calm => ?_, ⟨dated, listed, during, tables, ?_⟩, ?_, fun r same => ?_⟩
  · have alone := Flow.Ensures.alone (upsertItem_alone calm item) (answers source)
    rcases result : ((upsertItem item).run.runAlone (answers source) s').1 with h | _ <;>
      rw [result] at alone
    · simp [alone.2.1]
    · simp [alone.1]
  · rw [tables]
    exact s.tables.withItems_relists dated
  · dsimp only
    rw [tables, Tables.withItems_eq]
  · obtain ⟨pages, processed, succeeded, failed⟩ := tells r same
    simp only [Report.empty, Nat.zero_add] at pages processed succeeded failed
    exact ⟨pages, processed, succeeded, failed⟩

-- A card that is sold for its face value, and one that is sold for nothing.
def card : VendorItem := { unnamed with
  productName := "Card"
  fixedRecipientDenominations := [1]
  fixedSenderDenominations := [1] }

def freeCard : VendorItem := { card with productId := 2, fixedSenderDenominations := [0] }

def mixedSource (_ : Nat) : Except CatalogError VendorPage := .ok ⟨[card, unnamed, freeCard], 0, 1⟩

theorem sweep_isolated_mixed :
    Server.start.Calm ∧
      ((sweep 50).run.runAlone (answers mixedSource) .start).1 = .ok ⟨1, 3, 1, 2, false⟩ ∧
      (itemsOf (visited mixedSource)).map fit = [true, false, false] ∧
      ∃ moment, ((sweep 50).run.runAlone (answers mixedSource) .start).2.tables =
        Tables.empty.withItem card moment := by
  have calm : Server.start.Calm := ⟨rfl, rfl, rfl⟩
  obtain ⟨_, ⟨dated, listed, _, tables, _⟩, _, _⟩ := sweep_isolated mixedSource 50 .start calm
  have fits : (itemsOf (visited mixedSource)).filter fit = [card] := by decide +kernel
  obtain ⟨⟨item, moment⟩, rfl, rfl⟩ := List.map_eq_singleton_iff.mp (listed.trans fits)
  exact ⟨calm, by decide +kernel, by decide +kernel, moment, tables⟩

end CatalogSweep
end Treasury
