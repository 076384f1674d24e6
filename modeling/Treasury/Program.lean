import Treasury.Settings.Basic
import Treasury.Service.CatalogSweep
import Treasury.Schedule
import Treasury.Remote

namespace Treasury.Program

def environment : List String → String
  | option :: value :: rest =>
    if option = "--env" ∨ option = "-e" then value else environment (value :: rest)
  | _ => "dev"

def starting (environment : String) : Log.Event :=
  .of .program .info "Wallet ledger starting" [("env", .shown environment)]

def inMemory : Log.Event := .of .program .info "No postgres_url configured, using in-memory store" []
def shutdown : Log.Event := .of .program .info "Shutdown signal received" []
def stopped : Log.Event := .of .program .info "Wallet ledger stopped" []

-- One pass over the payments that wait for an outcome. The program itself registers no provider.
def reconcile (s : Settings) : Task TransactionError Unit := do
  let r ← Reconciliation.run s.settlement.providerTimeoutMs .empty s.reconciliationPlan
  if 0 < r.scanned then
    Task.report (.of .program .info "Reconciliation pass finished"
      [("scanned", .number r.scanned), ("succeeded", .number r.succeeded),
        ("failed", .number r.failed), ("still_unknown", .number r.stillUnknown),
        ("errors", .number r.errors)])

def syncCatalog (s : Settings) : Task CatalogError Unit := do
  let r ← CatalogSweep.sweep s.catalogSync.pageSize
  Task.report (.of .program .info "Catalog sync finished"
    [("pages", .number r.pages), ("processed", .number r.processed),
      ("succeeded", .number r.succeeded), ("failed", .number r.failed),
      ("truncated", .flag r.truncated)])

def report (e : Log.Event) : Flow Unit := .step (Server.report e) .done

def iteration (name : String) (message : ε → String) (task : Task ε Unit) : Flow Unit :=
  task.run.bind fun
    | .ok () => report (Schedule.ran name (.ok ()))
    | .error (.refused e) => report (Schedule.ran name (.error (message e)))
    | .error (.broken _) => .done ()

-- Periodic work.
inductive Job where
  | reconciliation
  | catalogSync
deriving DecidableEq, Repr

namespace Job

def name : Job → String
  | .reconciliation => "reconciliation"
  | .catalogSync => "catalog_sync"

def intervalSecs (s : Settings) : Job → Nat
  | .reconciliation => s.reconciliation.scanIntervalSecs
  | .catalogSync => s.catalogSync.intervalSecs

def run (s : Settings) : Job → Flow Unit
  | .reconciliation => iteration "reconciliation" TransactionError.message (reconcile s)
  | .catalogSync => iteration "catalog_sync" CatalogError.message (syncCatalog s)

end Job

def jobs (s : Settings) : List Job :=
  if s.catalogSync.enabled then [.reconciliation, .catalogSync] else [.reconciliation]

def pages (s : Settings) (vendor : Nat → Nat → Except CatalogError VendorPage) (number size : Nat) :
    Except CatalogError VendorPage :=
  match Remote.catalogRefusal? s.catalogSync.baseUrl with
  | some e => .error e
  | none => vendor number size

def answer (s : Settings) (vendor : Nat → Nat → Except CatalogError VendorPage) :
    {β : Type} → Question β → β
  | _, .call _ => ⟨.unknown none, none⟩
  | _, .page number size => pages s vendor number size

-- A job and when it is due, in milliseconds since the start.
structure Pending where
  job : Job
  due : Nat

-- The program at work: what it writes its log to, the rows it keeps and the jobs that wait.
structure Running where
  settings : Settings
  output : Log.Output
  complaints : List String
  server : Server
  pending : List Pending

-- How the program ended: the exit code, what it complained of, and its log if it had one.
structure Ending where
  exitCode : Nat
  complaints : List String
  output : Option Log.Output
  events : List Log.Event

def Ending.complaint? (e : Ending) : Option String :=
  e.complaints.head?.bind fun complaint => (complaint.splitOn "\n").head?

-- Starts the program. Settings that cannot be had and a database that cannot be connected to
-- end it at once.
def start (arguments : List String) (file : String → Option String) (filterText : Option String) :
    Except Ending (Running × List Log.Event) :=
  let env := environment arguments
  match Settings.load env (file (Settings.path env)) with
  | .error _ => .error ⟨1, ["Error: loading config for " ++ env], none, []⟩
  | .ok s =>
    let output := s.logOutput filterText
    let complaints := s.logComplaints filterText
    match s.postgresUrl with
    | some _ =>
      .error ⟨1, complaints ++ ["Error: connecting to PostgreSQL"], some output, [starting env]⟩
    | none =>
      let pending := (jobs s).map fun job => ⟨job, 0⟩
      let announced := (jobs s).map fun job => Schedule.starting job.name (job.intervalSecs s)
      .ok (⟨s, output, complaints, .start, pending⟩, starting env :: inMemory :: announced)

-- Runs the jobs that are due, one after the other, each alone on the server.
def runDue (s : Settings) (vendor : Nat → Nat → Except CatalogError VendorPage) (now : Nat) :
    List Pending → Server → List Pending × Server
  | [], server => ([], server)
  | p :: rest, server =>
    if now < p.due then
      let (rest, server) := runDue s vendor now rest server
      (p :: rest, server)
    else
      let (_, server) := (p.job.run s).runAlone (answer s vendor) server
      let due := Schedule.nextDue (p.job.intervalSecs s * 1000) p.due now
      let (rest, server) := runDue s vendor now rest server
      ({ p with due } :: rest, server)

-- One look at the jobs, at a moment after the start and at a time of the clock. What was reported
-- is taken out of the journal.
def Running.turn (r : Running) (vendor : Nat → Nat → Except CatalogError VendorPage) (now : Nat)
    (clock : Instant) : List Log.Event × Running :=
  let (pending, server) := runDue r.settings vendor now r.pending { r.server with clock }
  (server.journal.toList, { r with pending, server := { server with journal := #[] } })

def Running.stop (r : Running) : List Log.Event :=
  shutdown :: r.pending.map (Schedule.stopping ·.job.name) ++ [stopped]

-- A run that is told to stop once every job has run.
def run (arguments : List String) (file : String → Option String) (filterText : Option String)
    (vendor : Nat → Nat → Except CatalogError VendorPage) : Ending :=
  match start arguments file filterText with
  | .error ending => ending
  | .ok (running, opened) =>
    let (worked, running) := running.turn vendor 0 Server.epoch
    ⟨0, running.complaints, some running.output, opened ++ worked ++ running.stop⟩

end Treasury.Program
