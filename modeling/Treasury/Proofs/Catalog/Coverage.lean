import Treasury.Proofs.Catalog.Items

namespace Treasury.CatalogSweep

-- The pages bear their numbers and the length of the list, and only the last one may be empty.
def WellFormed (source : Nat → Except CatalogError VendorPage) (total : Nat) : Prop :=
  ∀ k page, k < total → source k = .ok page →
    page.number.toNat = k ∧ page.totalPages.toNat = total ∧ (k + 1 < total → page.content ≠ [])

def pagesFrom (source : Nat → Except CatalogError VendorPage) (number n : Nat) : List VendorPage :=
  (List.range' number n).filterMap fun k => (source k).toOption

-- What a sweep finds from this number on: the pages that it takes, and whether it is cut short.
inductive Stretch (source : Nat → Except CatalogError VendorPage) (total : Nat) :
    Nat → List VendorPage → Bool → Prop where
  | last (fetched : source i = .ok page) (told : page.isLast? = some true) (final : i + 1 = total) :
      Stretch source total i [page] false
  | failed (missing : source i = .error e) (later : i ≠ 0) (inside : i < total) :
      Stretch source total i [] true
  | next (fetched : source i = .ok page) (told : page.isLast? = some false)
      (filled : page.content ≠ []) (rest : Stretch source total (i + 1) pages truncated) :
      Stretch source total i (page :: pages) truncated

-- A report before and after these pages.
structure Report.Covers (r : Report) (taken : List VendorPage) (truncated : Bool) (r' : Report) :
    Prop where
  pages : r'.pages = r.pages + taken.length
  processed : r'.processed = r.processed + (itemsOf taken).length
  settled : r'.succeeded + r'.failed = r.succeeded + r.failed + (itemsOf taken).length
  truncated : r'.truncated = (truncated || r.truncated)

variable {source : Nat → Except CatalogError VendorPage} {total i left : Nat}
  {pages : List VendorPage} {truncated : Bool} {pageSize : Nat}

theorem itemsOf_cons (page : VendorPage) (pages : List VendorPage) :
    itemsOf (page :: pages) = page.content ++ itemsOf pages := List.flatMap_cons

theorem Report.Covers.next {r r₁ r' : Report} {page : VendorPage}
    (took : Report.Took { r with pages := r.pages + 1 } page.content.length r₁)
    (covers : r₁.Covers pages truncated r') : r.Covers (page :: pages) truncated r' where
  pages := by
    rw [covers.pages, took.pages, List.length_cons, Nat.add_right_comm, Nat.add_assoc]
  processed := by
    rw [covers.processed, took.processed, itemsOf_cons, List.length_append, Nat.add_assoc]
  settled := by
    rw [covers.settled, took.settled, itemsOf_cons, List.length_append, Nat.add_assoc]
  truncated := by rw [covers.truncated, took.truncated]

theorem Report.Covers.nothing (r : Report) : r.Covers [] false r := ⟨rfl, rfl, rfl, rfl⟩

theorem Stretch.inside (stretch : Stretch source total i pages truncated) : i < total := by
  induction stretch with
  | last _ _ final => omega
  | failed _ _ inside => exact inside
  | next _ _ _ _ ih => omega

theorem Stretch.left_succ (stretch : Stretch source total i pages truncated) (bounded : total ≤ maxPages)
    (here : i + left = maxPages) : ∃ l, left = l + 1 ∧ maxPages - left = i ∧ i + 1 + l = maxPages := by
  have inside := stretch.inside
  exact ⟨left - 1, by omega, by omega, by omega⟩

theorem Stretch.fetches (stretch : Stretch source total i pages truncated) (bounded : total ≤ maxPages)
    (here : i + left = maxPages) (r : Report) :
    (sweepFrom pageSize left r).Fetches source fun result asked =>
      asked = List.range' i (pages.length + truncated.toNat) ∧
        ∃ r', result = .ok r' ∧ r.Covers pages truncated r' := by
  induction stretch generalizing left r with
  | last fetched told final =>
    obtain ⟨left, rfl, number, _⟩ := (Stretch.last fetched told final).left_succ bounded here
    unfold sweepFrom
    refine .page_then ?_
    rw [number, fetched]
    refine .followed (takeItems_fetches _ _) fun r' took => ?_
    rw [told]
    exact .report_then ⟨rfl, r', rfl, .next took (.nothing r')⟩
  | failed missing later inside =>
    obtain ⟨left, rfl, number, _⟩ := (Stretch.failed missing later inside).left_succ bounded here
    unfold sweepFrom
    refine .page_then ?_
    rw [number, missing]
    dsimp only
    rw [if_neg later]
    exact .report_then (.report_then ⟨rfl, _, rfl, rfl, rfl, rfl, rfl⟩)
  | next fetched told filled rest ih =>
    obtain ⟨left, rfl, number, following⟩ := (Stretch.next fetched told filled rest).left_succ bounded here
    unfold sweepFrom
    refine .page_then ?_
    rw [number, fetched]
    refine .followed (takeItems_fetches _ _) fun r₁ took => ?_
    rw [told]
    dsimp only
    rw [if_neg (by simpa using filled)]
    refine Flow.Fetches.mono (ih following r₁) ?_
    rintro _ _ ⟨rfl, r', rfl, covers⟩
    refine ⟨?_, r', rfl, .next took covers⟩
    rw [List.length_cons, Nat.add_right_comm, List.range'_succ]

theorem takeItem_server (source : Nat → Except CatalogError VendorPage) (item : VendorItem) (s : Server) :
    ∃ s', ∀ r, ∃ r', (takeItem r item).run.runAlone (answers source) s = (.ok r', s') := by
  obtain ⟨_, _, tried, result⟩ :=
    Flow.Fetches.alone (upsertItem_tried source item) (answers source) (fun _ _ => rfl) s
  have ran : ((upsertItem item).attempt : Task CatalogError _).run.runAlone (answers source) s =
      (.ok tried, (((upsertItem item).attempt : Task CatalogError _).run.runAlone (answers source) s).2) :=
    Prod.ext result rfl
  cases tried with
  | ok => exact ⟨_, fun r => ⟨_, Task.runAlone_then ran⟩⟩
  | error e => exact ⟨_, fun r => ⟨_, Task.runAlone_then ran⟩⟩

def taken (source : Nat → Except CatalogError VendorPage) (items : List VendorItem) (s : Server) :
    Server := ((takeItems .empty items).run.runAlone (answers source) s).2

theorem takeItems_server (source : Nat → Except CatalogError VendorPage) (items : List VendorItem) (s : Server) :
    ∃ s', ∀ r, ∃ r', (takeItems r items).run.runAlone (answers source) s = (.ok r', s') := by
  induction items generalizing s with
  | nil => exact ⟨s, fun r => ⟨r, rfl⟩⟩
  | cons item rest ih =>
    obtain ⟨s₁, first⟩ := takeItem_server source item s
    obtain ⟨s₂, second⟩ := ih s₁
    refine ⟨s₂, fun r => ?_⟩
    obtain ⟨r₁, ran⟩ := first r
    obtain ⟨r₂, ran'⟩ := second r₁
    exact ⟨r₂, (Task.runAlone_then ran).trans ran'⟩

theorem takeItems_alone (source : Nat → Except CatalogError VendorPage) (r : Report) (items : List VendorItem) (s : Server) :
    ∃ r', (takeItems r items).run.runAlone (answers source) s = (.ok r', taken source items s) := by
  obtain ⟨s', ran⟩ := takeItems_server source items s
  obtain ⟨_, here⟩ := ran .empty
  obtain ⟨r', there⟩ := ran r
  have same : taken source items s = s' := congrArg Prod.snd here
  exact ⟨r', same ▸ there⟩

theorem taken_cons (item : VendorItem) (rest : List VendorItem) (s : Server) :
    taken source (item :: rest) s = taken source rest (taken source [item] s) := by
  obtain ⟨s', first⟩ := takeItem_server source item s
  obtain ⟨r, ran⟩ := first .empty
  obtain ⟨r', ran'⟩ := takeItems_alone source r rest s'
  have one : taken source [item] s = s' := congrArg Prod.snd (Task.runAlone_then ran)
  have all : (takeItems .empty (item :: rest)).run.runAlone (answers source) s =
      (.ok r', taken source rest s') := (Task.runAlone_then ran).trans ran'
  rw [one, taken, all]

theorem taken_append (items more : List VendorItem) (s : Server) :
    taken source (items ++ more) s = taken source more (taken source items s) := by
  induction items generalizing s with
  | nil => rfl
  | cons item rest ih => rw [List.cons_append, taken_cons, ih, taken_cons item rest]

theorem page_alone {f : Except CatalogError VendorPage → Task CatalogError Report} {number size : Nat}
    (fetched : source number = page) (s : Server) :
    (Task.ask (.page number size) >>= f).run.runAlone (answers source) s =
      (f page).run.runAlone (answers source) s := by
  subst fetched
  rfl

theorem Stretch.stores (stretch : Stretch source total i pages truncated) (bounded : total ≤ maxPages)
    (here : i + left = maxPages) (pageSize : Nat) (r : Report) (s : Server) :
    ((sweepFrom pageSize left r).run.runAlone (answers source) s).2.tables =
      (taken source (itemsOf pages) s).tables := by
  induction stretch generalizing left r s with
  | @last i page fetched told final =>
    obtain ⟨left, rfl, number, _⟩ := (Stretch.last fetched told final).left_succ bounded here
    obtain ⟨_, ran⟩ := takeItems_alone source { r with pages := r.pages + 1 } page.content s
    unfold sweepFrom
    rw [number, page_alone fetched, Task.runAlone_then ran, told, itemsOf_cons, taken_append]
    rfl
  | failed missing later inside =>
    obtain ⟨left, rfl, number, _⟩ := (Stretch.failed missing later inside).left_succ bounded here
    unfold sweepFrom
    rw [number, page_alone missing]
    dsimp only
    rw [if_neg later]
    rfl
  | @next i page _ _ fetched told filled rest ih =>
    obtain ⟨left, rfl, number, following⟩ :=
      (Stretch.next fetched told filled rest).left_succ bounded here
    obtain ⟨r₁, ran⟩ := takeItems_alone source { r with pages := r.pages + 1 } page.content s
    unfold sweepFrom
    rw [number, page_alone fetched, Task.runAlone_then ran, told, itemsOf_cons, taken_append]
    dsimp only
    rw [if_neg (by simpa using filled)]
    exact ih following r₁ _

theorem isLast?_numbered {page : VendorPage} (number : page.number.toNat = i)
    (listed : page.totalPages.toNat = total) (inside : i < total) :
    page.isLast? = some (decide (total ≤ i + 1)) := by
  have below := page.totalPages.toNat_lt_size
  rw [VendorPage.isLast?, number, listed, if_pos (by omega)]

theorem pagesFrom_succ (fetched : source i = .ok page) (n : Nat) :
    pagesFrom source i (n + 1) = page :: pagesFrom source (i + 1) n := by
  rw [pagesFrom, List.range'_succ, List.filterMap_cons, fetched]
  rfl

theorem pagesFrom_concat {n : Nat} (fetched : source (i + n) = .ok page) :
    pagesFrom source i (n + 1) = pagesFrom source i n ++ [page] := by
  rw [pagesFrom, List.range'_1_concat, List.filterMap_append]
  simp [fetched, pagesFrom, Except.toOption]

theorem length_pagesFrom {n : Nat} (fetched : ∀ k, i ≤ k → k < i + n → ∃ page, source k = .ok page) :
    (pagesFrom source i n).length = n := by
  induction n generalizing i with
  | zero => rfl
  | succ n ih =>
    obtain ⟨page, here⟩ := fetched i (Nat.le_refl i) (by omega)
    rw [pagesFrom_succ here, List.length_cons, ih fun k low high => fetched k (by omega) (by omega)]

theorem WellFormed.stretch (wellFormed : WellFormed source total) {n : Nat}
    (fetched : ∀ k, i ≤ k → k < i + n → ∃ page, source k = .ok page)
    (rest : Stretch source total (i + n) pages truncated) :
    Stretch source total i (pagesFrom source i n ++ pages) truncated := by
  induction n generalizing i with
  | zero => exact rest
  | succ n ih =>
    have inside := rest.inside
    obtain ⟨page, here⟩ := fetched i (Nat.le_refl i) (by omega)
    obtain ⟨number, listed, filled⟩ := wellFormed i page (by omega) here
    have told := isLast?_numbered number listed (by omega)
    rw [decide_eq_false (by omega)] at told
    rw [Nat.add_left_comm, Nat.add_comm n] at rest
    rw [pagesFrom_succ here]
    exact .next here told (filled (by omega)) (ih (fun k low high => fetched k (by omega) (by omega)) rest)

theorem WellFormed.bounded (wellFormed : WellFormed source total) (some : 0 < total)
    (first : source 0 = .ok page) : total ≤ maxPages := by
  have size : maxPages + 1 = UInt32.size := rfl
  have below := page.totalPages.toNat_lt_size
  obtain ⟨_, listed, _⟩ := wellFormed 0 page some first
  omega

-- What a server holds after the items of these pages, whatever is set up against it; on a calm one,
-- those of the fit ones among them.
structure Stored (source : Nat → Except CatalogError VendorPage) (pages : List VendorPage)
    (s s' : Server) : Prop where
  taken : s'.tables = (taken source (itemsOf pages) s).tables
  calm : s.Calm → ∃ dated : List (VendorItem × Instant), dated.map (·.1) = (itemsOf pages).filter fit ∧
    s'.tables = s.tables.withItems dated

theorem Stretch.covers (stretch : Stretch source total 0 pages truncated) (bounded : total ≤ maxPages)
    (length : pages.length = n) (pageSize : Nat) :
    ((sweep pageSize).Fetches source fun result asked =>
      asked = List.range (n + truncated.toNat) ∧ ∃ r, result = .ok r ∧ r.pages = n ∧
        r.processed = (itemsOf pages).length ∧ r.succeeded + r.failed = r.processed ∧
        r.truncated = truncated) ∧
    ∀ s, Stored source pages s ((sweep pageSize).run.runAlone (answers source) s).2 := by
  subst length
  have here : 0 + maxPages = maxPages := Nat.zero_add _
  constructor
  · refine Flow.Fetches.mono (stretch.fetches bounded here .empty) ?_
    rintro _ asked ⟨same, r, rfl, covers⟩
    obtain ⟨taken, processed, settled, cut⟩ := covers
    simp only [Report.empty, Nat.zero_add, Bool.or_false] at taken processed settled cut
    rw [← List.range_eq_range'] at same
    exact ⟨same, r, rfl, taken, processed, settled.trans processed.symm, cut⟩
  · intro s
    have tables := stretch.stores bounded here (max pageSize 1) .empty s
    refine ⟨tables, fun calm => ?_⟩
    obtain ⟨s', ran, takes⟩ : ∃ s', (takeItems .empty (itemsOf pages)).run.runAlone (answers source) s =
        (.ok (Report.empty.counting (itemsOf pages)), s') ∧ s.Takes (itemsOf pages) s' :=
      takeItems_ran calm .empty (itemsOf pages)
    obtain ⟨dated, listed, _, stored⟩ := takes.stored
    have after : taken source (itemsOf pages) s = s' := congrArg Prod.snd ran
    exact ⟨dated, listed, tables.trans (after ▸ stored)⟩

-- Every page is fetched once and in order, and all items are counted. A page that cannot be fetched
-- cuts the sweep short behind those before it; if it is the first, nothing is stored.
theorem sweep_covers (source : Nat → Except CatalogError VendorPage) (total pageSize : Nat)
    (some : 1 ≤ total) (wellFormed : WellFormed source total) :
    ((∀ k < total, ∃ page, source k = .ok page) →
      let pages := pagesFrom source 0 total
      ((sweep pageSize).Fetches source fun result asked =>
        asked = List.range total ∧ ∃ r, result = .ok r ∧ r.pages = total ∧
          r.processed = (itemsOf pages).length ∧ r.succeeded + r.failed = r.processed ∧
          r.truncated = false) ∧
      ∀ s, Stored source pages s ((sweep pageSize).run.runAlone (answers source) s).2) ∧
    (∀ k e, 0 < k → k < total → (∀ j < k, ∃ page, source j = .ok page) → source k = .error e →
      let pages := pagesFrom source 0 k
      ((sweep pageSize).Fetches source fun result asked =>
        asked = List.range (k + 1) ∧ ∃ r, result = .ok r ∧ r.pages = k ∧
          r.processed = (itemsOf pages).length ∧ r.succeeded + r.failed = r.processed ∧
          r.truncated = true) ∧
      ∀ s, Stored source pages s ((sweep pageSize).run.runAlone (answers source) s).2) ∧
    ∀ e, source 0 = .error e →
      ((sweep pageSize).Fetches source fun result asked =>
        asked = [0] ∧ result = .error (.refused e)) ∧
      ∀ s, ((sweep pageSize).run.runAlone (answers source) s).2.tables = s.tables := by
  refine ⟨fun fetched => ?_, fun k e later inside fetched missing => ?_, fun e missing => ?_⟩
  · obtain ⟨_, first⟩ := fetched 0 some
    obtain ⟨last, rfl⟩ := Nat.exists_eq_add_one_of_ne_zero (Nat.ne_of_gt some)
    obtain ⟨page, here⟩ := fetched last (Nat.lt_succ_self last)
    obtain ⟨number, listed, _⟩ := wellFormed last page (Nat.lt_succ_self last) here
    have told := isLast?_numbered number listed (Nat.lt_succ_self last)
    rw [decide_eq_true (Nat.le_refl _)] at told
    rw [← Nat.zero_add last] at here
    have final : Stretch source (last + 1) (0 + last) [page] false := .last here told (by omega)
    have stretch := wellFormed.stretch (fun k _ high => fetched k (by omega)) final
    rw [← pagesFrom_concat here] at stretch
    have length : (pagesFrom source 0 (last + 1)).length = last + 1 :=
      length_pagesFrom fun k _ high => fetched k (by omega)
    exact stretch.covers (wellFormed.bounded some first) length pageSize
  · obtain ⟨_, first⟩ := fetched 0 later
    have cut : Stretch source total (0 + k) [] true := by
      rw [Nat.zero_add]
      exact .failed missing (Nat.ne_of_gt later) inside
    have stretch := wellFormed.stretch (fun j _ high => fetched j (by omega)) cut
    rw [List.append_nil] at stretch
    have length : (pagesFrom source 0 k).length = k :=
      length_pagesFrom fun j _ high => fetched j (by omega)
    exact stretch.covers (wellFormed.bounded some first) length pageSize
  · have number : maxPages - maxPages = 0 := Nat.sub_self _
    constructor
    · unfold sweep sweepFrom
      refine .page_then ?_
      rw [number, missing]
      exact .report_then ⟨rfl, rfl⟩
    · intro s
      unfold sweep sweepFrom
      rw [number, page_alone missing]
      rfl

-- A list of three pages whose last one cannot be fetched.
def brokenSource (number : Nat) : Except CatalogError VendorPage :=
  if number < 2 then .ok ⟨[card, unnamed], UInt32.ofNat number, 3⟩ else .error .malformedPage

theorem sweep_covers_truncated :
    1 ≤ 3 ∧ WellFormed brokenSource 3 ∧
      ((sweep 50).Fetches brokenSource fun result asked => asked = [0, 1, 2] ∧ ∃ r, result = .ok r ∧
        r.pages = 2 ∧ r.processed = 4 ∧ r.succeeded + r.failed = 4 ∧ r.truncated = true) ∧
      ∃ moment moment', ((sweep 50).run.runAlone (answers brokenSource) .start).2.tables =
        (Tables.empty.withItem card moment).withItem card moment' := by
  have wellFormed : WellFormed brokenSource 3 := by
    intro k page inside fetched
    unfold brokenSource at fetched
    split at fetched
    · rename_i listed
      cases fetched
      refine ⟨?_, rfl, fun _ => List.cons_ne_nil _ _⟩
      obtain rfl | rfl : k = 0 ∨ k = 1 := by omega
      · rfl
      · rfl
    · cases fetched
  have fetched (j : Nat) (before : j < 2) : ∃ page, brokenSource j = .ok page := ⟨_, if_pos before⟩
  have pages : itemsOf (pagesFrom brokenSource 0 2) = [card, unnamed, card, unnamed] := rfl
  obtain ⟨_, cut, _⟩ := sweep_covers brokenSource 3 50 (by decide) wellFormed
  obtain ⟨told, stored⟩ := cut 2 .malformedPage (by decide) (by decide) fetched rfl
  refine ⟨by decide, wellFormed, Flow.Fetches.mono told ?_, ?_⟩
  · rintro _ asked ⟨rfl, r, rfl, taken, processed, settled, truncated⟩
    rw [processed, pages] at settled
    rw [pages] at processed
    exact ⟨rfl, r, rfl, taken, processed, settled, truncated⟩
  · obtain ⟨dated, listed, tables⟩ := (stored .start).calm ⟨rfl, rfl, rfl⟩
    have fits : (itemsOf (pagesFrom brokenSource 0 2)).filter fit = [card, card] := by decide +kernel
    rw [fits] at listed
    obtain ⟨⟨first, moment⟩, rest, rfl, rfl, again⟩ := List.map_eq_cons_iff.mp listed
    obtain ⟨⟨second, moment'⟩, rfl, rfl⟩ := List.map_eq_singleton_iff.mp again
    exact ⟨moment, moment', tables⟩

end Treasury.CatalogSweep
