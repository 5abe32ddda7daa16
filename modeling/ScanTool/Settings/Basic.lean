import ScanTool.Brand.Resolver
import ScanTool.Live.Poller
import ScanTool.Settings.Value

/-!
# Settings

The settings of the program, read from the layers once these are laid one over the other, and what
follows from them for the session, the tables of brands and the poller.
-/

namespace ScanTool

/-- The settings of the program. -/
structure Settings where
  /-- The settings of the session with the adapter. -/
  session : SessionSettings
  /-- The directory with the tables of brands. -/
  brandDir : String
  /-- The file with descriptions that are added to the built-in ones, if there is one. -/
  genericFile : Option String
  /-- The requests that are set for brands, by name. -/
  queries : List (String × String)
  /-- The pause between two sweeps, in milliseconds, if it is set. -/
  pollInterval : Option Nat
  deriving Repr

namespace Settings

/-- Where the codes of brands come from under these settings. -/
def resolver (s : Settings) : ResolverSettings := ⟨s.brandDir, s.queries, none⟩

/-- How parameters are polled under these settings. -/
def poller (s : Settings) : Live.PollerSettings :=
  let usual := Live.PollerSettings.standard
  { usual with interval := s.pollInterval.getD usual.interval }

/-- The settings of a session. What is wrong with a setting that is there comes before what is left
out. -/
def readSession : Read SessionSettings := fun group v => do
  if !isGroup v then throw (.wrongShape group)
  let device ← setting v 0 "device" text
  let baudRate ← setting v 1 "baud_rate" (natural (twoTo 32))
  let protocol ← setting v 2 "protocol" (choice BusProtocol.all BusProtocol.name)
  let policy ← setting v 3 "init_policy" (choice SetupPolicy.all SetupPolicy.name)
  let setupDelay ← setting v 4 "init_delay_ms" (natural (twoTo 64))
  let settleDelay ← setting v 5 "settle_delay_ms" (natural (twoTo 64))
  let readTimeout ← setting v 6 "read_timeout_ms" (natural (twoTo 64))
  return {
    device := ← need "device" device
    baudRate := ← need "baud_rate" baudRate
    protocol := ← need "protocol" protocol
    policy := ← need "init_policy" policy
    setupDelay := ← need "init_delay_ms" setupDelay
    settleDelay := ← need "settle_delay_ms" settleDelay
    readTimeout := ← need "read_timeout_ms" readTimeout }

/-- The directory with the tables of brands, and the file with more descriptions. In a list the file
cannot be left out. -/
def readTables : Read (String × Option String) := fun group v => do
  if !isGroup v then throw (.wrongShape group)
  let brandDir ← setting v 0 "brand_dir" text
  let genericFile ← setting v 1 "generic_file" (optional text)
  let brandDir ← need "brand_dir" brandDir
  match v with
  | .list _ => return (brandDir, ← need "generic_file" genericFile)
  | _ => return (brandDir, genericFile.join)

/-- The settings of an object. -/
def ofJson (v : Json) : Except SettingsError Settings := do
  let session ← setting v 0 "adapter" readSession
  let tables ← setting v 1 "tables" readTables
  let queries ← setting v 2 "brand_queries" namedTexts
  let pollInterval ← setting v 3 "poll_interval_ms" (optional (natural (twoTo 64)))
  let session ← need "adapter" session
  let (brandDir, genericFile) ← need "tables" tables
  let queries ← need "brand_queries" queries
  return ⟨session, brandDir, genericFile, queries, pollInterval.join⟩

/-- The settings of all layers. -/
def load (files : Files) (path : Option String) (environment : List (String × String)) :
    Except SettingsError Settings :=
  (SettingsLayer.stack files path environment).bind ofJson

end Settings

end ScanTool
