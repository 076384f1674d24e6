import Treasury.Service.CatalogSweep
import Treasury.Proofs.Store.Steady

namespace Treasury

-- Every run against the source, with `P` of its answer and of the pages that it asked for. From
-- one step to the next the server may have become any other.
def Flow.Fetches (source : Nat → Except CatalogError VendorPage) :
    Flow α → (α → List Nat → Prop) → Prop
  | .done a, P => P a []
  | .step act next, P => ∀ s, (next (act s).1).Fetches source P
  | .ask (.page number _) next, P =>
    (next (source number)).Fetches source fun a asked => P a (number :: asked)
  | .ask (.call _) next, P => ∀ reply, (next reply).Fetches source P

namespace Flow.Fetches

variable {source : Nat → Except CatalogError VendorPage} {flow : Flow α} {P Q : α → List Nat → Prop}

theorem mono (fetches : flow.Fetches source P) (weaker : ∀ a asked, P a asked → Q a asked) :
    flow.Fetches source Q := by
  induction flow generalizing P Q with
  | done a => exact weaker a [] fetches
  | step act next ih => exact fun s => ih _ (fetches s) weaker
  | ask question next ih =>
    cases question with
    | call c => exact fun reply => ih reply (fetches reply) weaker
    | page number size => exact ih (source number) fetches fun a asked => weaker a (number :: asked)

theorem bind {f : α → Flow β} {Q : β → List Nat → Prop}
    (first : flow.Fetches source fun a asked =>
      (f a).Fetches source fun b more => Q b (asked ++ more)) : (flow.bind f).Fetches source Q := by
  induction flow generalizing Q with
  | done a => exact first
  | step act next ih => exact fun s => ih _ (first s)
  | ask question next ih =>
    cases question with
    | call c => exact fun reply => ih reply (first reply)
    | page number size => exact ih (source number) first

theorem alone (fetches : flow.Fetches source P) (answer : {β : Type} → Question β → β)
    (answers : ∀ number size, answer (.page number size) = source number) (s : Server) :
    ∃ asked, P (flow.runAlone answer s).1 asked := by
  induction flow generalizing s P with
  | done a => exact ⟨[], fetches⟩
  | step act next ih => exact ih _ (fetches s) (act s).2
  | ask question next ih =>
    cases question with
    | call c => exact ih _ (fetches (answer (.call c))) s
    | page number size =>
      obtain ⟨asked, post⟩ := ih (source number) fetches s
      refine ⟨number :: asked, ?_⟩
      rw [runAlone, answers]
      exact post

end Flow.Fetches

namespace Work.Steady

variable {B : Breakdown → Prop}

theorem upsertProduct (p : Product) : (Store.upsertProduct p).Steady B := by
  refine call (bind (staged _) fun linked => ?_)
  split
  · exact stage _
  · exact refuse _

theorem replaceDenominations (product : Int) (kind : DenominationKind) (amounts : List Decimal) :
    (Store.replaceDenominations product kind amounts).Steady B := by
  refine call ?_
  split
  · exact refuse _
  · exact stage _

end Work.Steady

def Task.Fetches (task : Task ε α) (source : Nat → Except CatalogError VendorPage)
    (P : Except (Halt ε) α → List Nat → Prop) : Prop := task.run.Fetches source P

namespace Task.Fetches

variable {source : Nat → Except CatalogError VendorPage} {P : Except (Halt ε) α → List Nat → Prop}

theorem followed {task : Task ε β} {f : β → Task ε α} {R : β → Prop}
    (first : task.Fetches source fun result asked => asked = [] ∧ ∃ b, result = .ok b ∧ R b)
    (rest : ∀ b, R b → (f b).Fetches source P) : (task >>= f).Fetches source P := by
  refine Flow.Fetches.bind (Flow.Fetches.mono first ?_)
  rintro _ _ ⟨rfl, b, rfl, post⟩
  exact rest b post

theorem after {task : Task ε β} {f : β → Task ε α}
    (first : task.Fetches source fun result asked => asked = [] ∧ ∃ b, result = .ok b)
    (rest : ∀ b, (f b).Fetches source P) : (task >>= f).Fetches source P := by
  refine followed (R := fun _ => True) (Flow.Fetches.mono first ?_) fun b _ => rest b
  rintro _ _ ⟨rfl, b, rfl⟩
  exact ⟨rfl, b, rfl, trivial⟩

theorem report_then {event : Log.Event} {f : Unit → Task ε α} (rest : (f ()).Fetches source P) :
    (Task.report event >>= f).Fetches source P := fun _ => rest

theorem page_then {number size : Nat} {f : Except CatalogError VendorPage → Task ε α}
    (rest : (f (source number)).Fetches source fun result asked => P result (number :: asked)) :
    (Task.ask (.page number size) >>= f).Fetches source P := rest

theorem attempt_unit {w : Work δ α} {tell : StoreError → δ} (unbroken : w.Steady fun _ => False) :
    ((Task.unit tell w).attempt : Task ε _).Fetches source fun result asked =>
      asked = [] ∧ ∃ tried, result = .ok tried := by
  intro s
  have whole := (Server.unit_steady unbroken tell s).2
  change (Flow.bind (.done (s.unit tell w).1) _).Fetches source _
  generalize (s.unit tell w).1 = ended at whole ⊢
  rcases ended with (e | reason) | a
  · exact ⟨rfl, _, rfl⟩
  · exact (whole reason rfl).elim
  · exact ⟨rfl, _, rfl⟩

end Task.Fetches

namespace VendorPage

theorem number_last {page : VendorPage} (untold : page.isLast? = none) :
    page.number.toNat = CatalogSweep.maxPages := by
  have size : CatalogSweep.maxPages + 1 = UInt32.size := rfl
  have below := page.number.toNat_lt_size
  unfold isLast? at untold
  split at untold
  · cases untold
  · omega

theorem more_pages {page : VendorPage} (told : page.isLast? = some false) :
    page.number.toNat + 1 < page.totalPages.toNat ∧
      page.totalPages.toNat ≤ CatalogSweep.maxPages := by
  refine ⟨?_, Nat.le_of_lt_succ page.totalPages.toNat_lt_size⟩
  unfold isLast? at told
  split at told
  · simpa using told
  · cases told

end VendorPage

namespace CatalogSweep

theorem writeItem_steady (item : VendorItem) : (writeItem item).Steady fun _ => False := by
  refine .bind (.write _ _) fun _ => .bind (.write _ _) fun _ => .bind (.write _ _) fun _ => ?_
  refine .bind .now fun _ => .bind (.upsertProduct _) fun _ => .bind (.write _ _) fun _ => ?_
  refine .bind (.replaceDenominations _ _ _) fun _ => .bind (.replaceDenominations _ _ _) fun _ => ?_
  exact .bind (.write _ _) fun _ => .commit

variable {source : Nat → Except CatalogError VendorPage}

-- A report before and after this many items, whatever became of each.
structure Report.Took (r : Report) (n : Nat) (r' : Report) : Prop where
  pages : r'.pages = r.pages
  processed : r'.processed = r.processed + n
  settled : r'.succeeded + r'.failed = r.succeeded + r.failed + n
  truncated : r'.truncated = r.truncated

theorem Report.Took.trans {r r' r'' : Report} (first : r.Took m r') (second : r'.Took n r'') :
    r.Took (n + m) r'' where
  pages := second.pages.trans first.pages
  processed := by
    rw [second.processed, first.processed]
    omega
  settled := by
    rw [second.settled, first.settled]
    omega
  truncated := second.truncated.trans first.truncated

theorem upsertItem_tried (source : Nat → Except CatalogError VendorPage) (item : VendorItem) :
    ((upsertItem item).attempt : Task CatalogError _).Fetches source fun result asked =>
      asked = [] ∧ ∃ tried, result = .ok tried := by
  unfold upsertItem
  split
  · exact ⟨rfl, _, rfl⟩
  · exact .attempt_unit (.bind (.told (writeItem_steady item) _) fun _ => .report _)

theorem takeItem_fetches (r : Report) (item : VendorItem) :
    (takeItem r item).Fetches source fun result asked =>
      asked = [] ∧ ∃ r', result = .ok r' ∧ r.Took 1 r' := by
  refine .after (upsertItem_tried source item) fun tried => ?_
  cases tried with
  | ok => exact ⟨rfl, _, rfl, rfl, rfl, Nat.add_right_comm .., rfl⟩
  | error e => exact .report_then ⟨rfl, _, rfl, rfl, rfl, rfl, rfl⟩

theorem takeItems_fetches (r : Report) (items : List VendorItem) :
    (takeItems r items).Fetches source fun result asked =>
      asked = [] ∧ ∃ r', result = .ok r' ∧ r.Took items.length r' := by
  induction items generalizing r with
  | nil => exact ⟨rfl, r, rfl, rfl, rfl, rfl, rfl⟩
  | cons item rest ih =>
    refine .followed (takeItem_fetches r item) fun r' first => ?_
    refine Flow.Fetches.mono (ih r') ?_
    rintro _ _ ⟨rfl, r'', rfl, second⟩
    exact ⟨rfl, r'', rfl, first.trans second⟩

-- How a sweep ends that asks for these pages, the first of them number `i`.
inductive Ends (source : Nat → Except CatalogError VendorPage) :
    Nat → List Nat → Except (Halt CatalogError) Report → Prop where
  | aborted (failed : source i = .error e) (first : i = 0) :
      Ends source i [i] (.error (.refused e))
  | truncated (failed : source i = .error e) (later : i ≠ 0) : Ends source i [i] (.ok r)
  | finished (fetched : source i = .ok page) (told : page.isLast? = some last)
      (enough : last = true ∨ page.content = []) : Ends source i [i] (.ok r)
  -- The page calls itself by the last number that there is.
  | outnumbered (fetched : source i = .ok page) (untold : page.isLast? = none) :
      Ends source i [i] (.error (.broken .countOverflow))
  | exhausted (fetched : source i = .ok page) (every : i = maxPages) :
      Ends source i [i] (.error (.broken .countOverflow))
  | next (fetched : source i = .ok page) (told : page.isLast? = some false) (left : i < maxPages)
      (rest : Ends source (i + 1) asked result) : Ends source i (i :: asked) result

theorem unfetched_fetches (r : Report) (failed : source i = .error e) :
    Task.Fetches (ε := CatalogError) (do
      if i = 0 then
        Task.report (.of .catalog .error "Catalog sync aborted on first page"
          [("error", .shown e.message)])
        Task.refuse e
      else
        Task.report (.of .catalog .warn "Catalog page failed, sweep truncated"
          [("page", .number i), ("error", .shown e.message)])
        finished { r with truncated := true }) source
      fun result asked => Ends source i (i :: asked) result := by
  split
  · rename_i first
    exact .report_then (.aborted failed first)
  · rename_i later
    exact .report_then (.report_then (.truncated failed later))

theorem sweepFrom_ends (pageSize left : Nat) (r : Report) (few : left ≤ maxPages) :
    (sweepFrom pageSize left r).Fetches source fun result asked =>
      Ends source (maxPages - left) asked result := by
  induction left generalizing r with
  | zero =>
    unfold sweepFrom
    refine .page_then ?_
    cases fetched : source (maxPages - 0) with
    | error e => exact unfetched_fetches r fetched
    | ok page => exact .exhausted fetched rfl
  | succ left ih =>
    unfold sweepFrom
    refine .page_then ?_
    cases fetched : source (maxPages - (left + 1)) with
    | error e => exact unfetched_fetches r fetched
    | ok page =>
      refine .followed (takeItems_fetches _ _) fun r _ => ?_
      cases told : page.isLast? with
      | none => exact .outnumbered fetched told
      | some last =>
        dsimp only
        split
        · rename_i enough
          simp only [Bool.or_eq_true, List.isEmpty_iff] at enough
          exact .report_then (.finished fetched told enough)
        · rename_i more
          simp only [Bool.or_eq_true, not_or, Bool.not_eq_true] at more
          have following : maxPages - left = maxPages - (left + 1) + 1 := by omega
          refine Flow.Fetches.mono (ih r (by omega)) fun result asked ends => ?_
          rw [following] at ends
          exact .next fetched (more.1 ▸ told) (by omega) ends

namespace Ends

variable {i : Nat} {asked : List Nat} {result : Except (Halt CatalogError) Report}

theorem asked_eq (ends : Ends source i asked result) : asked = List.range' i asked.length := by
  induction ends with
  | next _ _ _ _ ih => rw [List.length_cons, List.range'_succ, ← ih]
  | _ => rfl

theorem asked_few (ends : Ends source i asked result) (few : i ≤ maxPages) :
    i + asked.length ≤ UInt32.size := by
  have size : maxPages + 1 = UInt32.size := rfl
  induction ends with
  | next _ _ left _ ih =>
    have rest := ih left
    rw [List.length_cons]
    omega
  | _ =>
    rw [List.length_singleton]
    omega

theorem refused (ends : Ends source i asked (.error (.refused e))) :
    ∃ j ∈ asked, j = 0 ∧ source j = .error e := by
  generalize stopped : (Except.error (.refused e) : Except (Halt CatalogError) Report) = result at ends
  induction ends with
  | aborted failed first =>
    cases stopped
    exact ⟨_, List.mem_singleton.mpr rfl, first, failed⟩
  | next _ _ _ _ ih =>
    obtain ⟨j, mem, first, failed⟩ := ih stopped
    exact ⟨j, List.mem_cons_of_mem _ mem, first, failed⟩
  | _ => cases stopped

-- A breakdown is always the same: no number comes after the last one.
theorem broken (ends : Ends source i asked (.error (.broken reason))) :
    reason = .countOverflow ∧ ∃ j ∈ asked, ∃ page, source j = .ok page ∧
      (page.number.toNat = maxPages ∨ j = maxPages) := by
  generalize stopped : (Except.error (.broken reason) : Except (Halt CatalogError) Report) = result
    at ends
  induction ends with
  | outnumbered fetched untold =>
    cases stopped
    refine ⟨rfl, _, List.mem_singleton.mpr rfl, _, fetched, .inl ?_⟩
    exact VendorPage.number_last untold
  | exhausted fetched every =>
    cases stopped
    exact ⟨rfl, _, List.mem_singleton.mpr rfl, _, fetched, .inr every⟩
  | next _ _ _ _ ih =>
    obtain ⟨same, j, mem, rest⟩ := ih stopped
    exact ⟨same, j, List.mem_cons_of_mem _ mem, rest⟩
  | _ => cases stopped

-- While the pages bear the numbers that they were asked for by, the one after a page that is not
-- the last still belongs to the list.
theorem bounded (ends : Ends source i asked result)
    (inStep : ∀ j ∈ asked, ∀ page, source j = .ok page → page.number.toNat = j)
    (listed : ∀ j ∈ asked, ∀ page, source j = .ok page → page.totalPages.toNat ≤ total) :
    i + asked.length ≤ max (i + 1) total := by
  induction ends with
  | next fetched told left _ ih =>
    have rest := ih (fun j mem => inStep j (List.mem_cons_of_mem _ mem))
      fun j mem => listed j (List.mem_cons_of_mem _ mem)
    have number := inStep _ List.mem_cons_self _ fetched
    have pages := listed _ List.mem_cons_self _ fetched
    have more := VendorPage.more_pages told
    rw [List.length_cons]
    omega
  | _ =>
    rw [List.length_singleton]
    omega

theorem unbroken (ends : Ends source i asked (.error (.broken reason))) (early : i < maxPages)
    (inStep : ∀ j ∈ asked, ∀ page, source j = .ok page → page.number.toNat = j) : False := by
  generalize stopped : (Except.error (.broken reason) : Except (Halt CatalogError) Report) = result
    at ends
  induction ends with
  | outnumbered fetched untold =>
    have number := inStep _ List.mem_cons_self _ fetched
    have last := VendorPage.number_last untold
    omega
  | exhausted fetched every => omega
  | next fetched told left _ ih =>
    have number := inStep _ List.mem_cons_self _ fetched
    have more := VendorPage.more_pages told
    refine ih ?_ (fun j mem => inStep j (List.mem_cons_of_mem _ mem)) stopped
    omega
  | _ => cases stopped

end Ends

-- A sweep asks for the pages from the first on, each once, and comes to an end; it fails only where
-- the first cannot be fetched or no number comes after a page's. A source whose pages bear the
-- numbers that they were asked for by is not asked for more of them than it reports.
theorem sweep_ends (source : Nat → Except CatalogError VendorPage) (pageSize : Nat) :
    (sweep pageSize).Fetches source fun result asked =>
      asked = List.range asked.length ∧ asked.length ≤ UInt32.size ∧
      (∀ e, result = .error (.refused e) → source 0 = .error e) ∧
      (∀ reason, result = .error (.broken reason) → reason = .countOverflow ∧
        ∃ j ∈ asked, ∃ page, source j = .ok page ∧
          (page.number.toNat = maxPages ∨ j = maxPages)) ∧
      ((∀ j ∈ asked, ∀ page, source j = .ok page → page.number.toNat = j) →
        (∀ reason, result ≠ .error (.broken reason)) ∧
        ∀ total, (∀ j ∈ asked, ∀ page, source j = .ok page → page.totalPages.toNat ≤ total) →
          asked.length ≤ max 1 total) := by
  refine Flow.Fetches.mono (sweepFrom_ends (max pageSize 1) maxPages .empty (Nat.le_refl _)) ?_
  intro result asked ends
  rw [Nat.sub_self] at ends
  refine ⟨?_, ?_, ?_, ?_, fun inStep => ⟨?_, fun total listed => ?_⟩⟩
  · rw [List.range_eq_range']
    exact ends.asked_eq
  · have few := ends.asked_few (Nat.zero_le _)
    omega
  · rintro e rfl
    obtain ⟨j, _, rfl, failed⟩ := ends.refused
    exact failed
  · rintro reason rfl
    exact ends.broken
  · rintro reason rfl
    exact ends.unbroken (by decide) inStep
  · have bounded := ends.bounded inStep listed
    omega

def unnamed : VendorItem where
  productId := 1
  productName := ""
  isGlobal := false
  denominationType := .fixed
  recipientCurrency := "USD"
  senderCurrency := "NGN"
  senderFee := 0
  discountPercentage := 0
  minRecipientDenomination := none
  maxRecipientDenomination := none
  senderExchangeRate := none
  fixedRecipientDenominations := []
  fixedSenderDenominations := []
  logoUrls := []
  brand := ⟨1, "brand"⟩
  category := ⟨1, "category"⟩
  country := ⟨"US", "United States", none⟩
  redeemInstruction := ⟨none, none⟩

-- A list of one page, which bears the last number there is.
def outnumberedSource (_ : Nat) : Except CatalogError VendorPage := .ok ⟨[], 4294967295, 1⟩

-- A list of two pages whose first one is all that the vendor answers with, until it fails.
def stuckSource (number : Nat) : Except CatalogError VendorPage :=
  if number < 3 then .ok ⟨[unnamed], 0, 2⟩ else .error .malformedPage

def answers (source : Nat → Except CatalogError VendorPage) : {β : Type} → Question β → β
  | _, .call _ => ⟨.unknown none, none⟩
  | _, .page number _ => source number

theorem outnumbered_breaks (pageSize : Nat) :
    (sweep pageSize).Fetches outnumberedSource fun result _ =>
      result = .error (.broken .countOverflow) := by
  refine Flow.Fetches.mono (sweepFrom_ends (max pageSize 1) maxPages .empty (Nat.le_refl _)) ?_
  intro result asked ends
  cases ends with
  | outnumbered => rfl
  | exhausted => rfl
  | aborted failed => cases failed
  | truncated failed => cases failed
  | finished fetched told =>
    cases fetched
    cases told
  | next fetched told =>
    cases fetched
    cases told

theorem Ends.stuck (ends : Ends stuckSource i asked result) (few : i < 3) :
    ∃ rest, asked = i :: rest ∧ Ends stuckSource (i + 1) rest result := by
  have page : stuckSource i = .ok ⟨[unnamed], 0, 2⟩ := if_pos few
  cases ends with
  | next _ _ _ rest => exact ⟨_, rfl, rest⟩
  | aborted failed => cases page.symm.trans failed
  | truncated failed => cases page.symm.trans failed
  | finished fetched told enough =>
    cases page.symm.trans fetched
    cases told
    simp at enough
  | outnumbered fetched untold =>
    cases page.symm.trans fetched
    cases untold
  | exhausted _ every =>
    have last : 3 < maxPages := by decide
    omega

theorem sweep_overruns :
    ((sweep 200).run.runAlone (answers outnumberedSource) .start).1 =
        .error (.broken .countOverflow) ∧
      (∀ number page, stuckSource number = .ok page → page.totalPages.toNat ≤ 2) ∧
      (sweep 200).Fetches stuckSource fun _ asked => asked = [0, 1, 2, 3] := by
  refine ⟨?_, fun number page fetched => ?_, ?_⟩
  · obtain ⟨_, broken⟩ := Flow.Fetches.alone (outnumbered_breaks 200) (answers outnumberedSource)
      (fun _ _ => rfl) .start
    exact broken
  · unfold stuckSource at fetched
    split at fetched <;> cases fetched
    decide
  · refine Flow.Fetches.mono (sweepFrom_ends 200 maxPages .empty (Nat.le_refl _)) ?_
    intro result asked ends
    rw [Nat.sub_self] at ends
    obtain ⟨_, rfl, second⟩ := ends.stuck (by decide)
    obtain ⟨_, rfl, third⟩ := second.stuck (by decide)
    obtain ⟨_, rfl, fourth⟩ := third.stuck (by decide)
    cases fourth with
    | truncated => rfl
    | aborted _ first => cases first
    | finished fetched => cases fetched
    | outnumbered fetched => cases fetched
    | exhausted fetched => cases fetched
    | next fetched => cases fetched

end CatalogSweep
end Treasury
