import Std.Time.DateTime.Timestamp
import Treasury.Program

namespace Treasury.Program

def present : IO Instant := do
  let nanos := (← Std.Time.Timestamp.now).toNanosecondsSinceUnixEpoch.val
  return ⟨nanos.fdiv 1000000000, (nanos.fmod 1000000000).toNat⟩

def contentOf (path : String) : IO (Option String) :=
  try return some (← IO.FS.readFile path)
  catch _ => return none

def record (output : Log.Output) (events : List Log.Event) : IO Unit := do
  let now := (← present).toText
  IO.FS.createDirAll output.directory
  let handle ← IO.FS.Handle.mk (output.directory ++ "/" ++ output.fileName now) .append
  for line in output.lines events do
    handle.putStrLn (Log.Output.stamped now line)
  for line in output.terminal events do
    IO.println (Log.Output.stamped now line)

-- No page of the vendor's list can be fetched from here.
def offline (_ _ : Nat) : Except CatalogError VendorPage := .error (.http "no connection")

partial def drain (input : IO.FS.Stream) : IO Unit := do
  if (← input.getLine).isEmpty then return ()
  else drain input

-- Looks at the jobs again and again until told to stop.
partial def work (r : Running) (stopped : BaseIO Bool) (begun : Nat) : IO Running := do
  let elapsed := (← IO.monoMsNow) - begun
  let (events, r) := r.turn offline elapsed (← present)
  unless events.isEmpty do
    record r.output events
  if ← stopped then return r
  else
    IO.sleep 50
    work r stopped begun

def command (arguments : List String) : IO UInt32 := do
  let content ← contentOf (Settings.path (environment arguments))
  match start arguments (fun _ => content) (← IO.getEnv "RUST_LOG") with
  | .error ending =>
    for output in ending.output do
      record output ending.events
    for complaint in ending.complaints do
      IO.eprintln complaint
    return .ofNat ending.exitCode
  | .ok (running, opened) =>
    for complaint in running.complaints do
      IO.eprintln complaint
    record running.output opened
    let input ← IO.asTask (drain (← IO.getStdin))
    let running ← work running (IO.hasFinished input) (← IO.monoMsNow)
    record running.output running.stop
    return 0

end Treasury.Program

def main (arguments : List String) : IO UInt32 := Treasury.Program.command arguments
