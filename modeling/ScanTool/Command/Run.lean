import ScanTool.Command.Basic
import ScanTool.Report.Json
import ScanTool.Report.Text
import ScanTool.Settings.Basic

/-!
# Running commands

A command that needs the vehicle connects a session, asks for what it wants, closes the session, and
only then prints. The tables that it needs are loaded before it connects. A live view lasts as long as
its poller; its user breaking it off, which ends it without a failure, is left out.
-/

namespace ScanTool

open Trouble (CodeTable TroubleCode)

/-- What a command works with. -/
structure Workplace (σ : Type) where
  /-- The files. -/
  files : Files
  /-- The settings. -/
  settings : Settings
  /-- Whether reports are for programs. -/
  asJson : Bool
  /-- Where the draws of simulated codes start. -/
  entropy : UInt64
  /-- Opens a channel to the adapter. -/
  openChannel : SessionSettings → Except AdapterError σ

namespace Workplace

variable {σ : Type}

/-- A report in the form asked for. -/
def report (w : Workplace σ) (json : Json) (text : String) : String :=
  if w.asJson then json.pretty ++ "\n" else text

/-- The tables, simulation and requests of brands. -/
def resolver (w : Workplace σ) : Resolver := .ofSettings w.settings.resolver w.entropy

/-- The poller of a live view. -/
def poller (w : Workplace σ) (once : Bool) : Live.Poller :=
  .ofSettings { w.settings.poller with limit := if once then some 1 else none }

/-- Codes with their descriptions. -/
def codes (w : Workplace σ) (cs : List TroubleCode) : String :=
  w.report (Report.codesJson cs) (Report.codes cs)

/-- One snapshot of a live view. -/
def snapshot (w : Workplace σ) (s : Live.Snapshot) : String :=
  w.report (Report.snapshotJson s) (Report.snapshot s)

/-- What is said when codes have been erased, if the adapter has confirmed it. -/
def confirm (said : String) (confirmed : Bool) : Except CommandError String :=
  if confirmed then .ok (said ++ " codes cleared\n") else .error .unconfirmed

variable [Channel σ]

/-- Connects a session and works over it. -/
def connected (w : Workplace σ) (work : Session σ → Outcome σ) : Outcome σ :=
  match Session.connect w.settings.session (w.openChannel w.settings.session) with
  | .unopened e => .fail (.connecting w.settings.session.device e) none
  | .failed e s => .fail (.connecting w.settings.session.device e) (some s)
  | .ready s => work s

/-- Asks for something over a session, closes it, and prints what came of it. -/
def ask {α : Type} (errand : Errand) (request : Session σ → Except AdapterError α × Session σ)
    (said : α → Except CommandError String) (s : Session σ) : Outcome σ :=
  match request s with
  | (.error e, s) => .fail (.during errand e) (some s.close)
  | (.ok a, s) => .print (some s.close) (said a)

/-- Shows which parameters the vehicle supports. -/
def pids (w : Workplace σ) : Outcome σ :=
  w.connected (ask .probe Session.probe fun set =>
    .ok (w.report (Report.pidsJson set) (Report.supported set)))

/-- Shows the stored codes. -/
def readCodes (w : Workplace σ) : Outcome σ :=
  match CodeTable.extended w.files w.settings.genericFile with
  | .error e => .fail (.loading e) none
  | .ok table => w.connected (ask .readCodes (Session.readCodes table) fun cs => .ok (w.codes cs))

/-- Erases the stored codes. -/
def clearCodes (w : Workplace σ) : Outcome σ :=
  w.connected (ask .clearCodes Session.clearCodes (confirm "Trouble"))

/-- Shows the brands for which there are tables. -/
def listBrands (w : Workplace σ) : Outcome σ :=
  let names := w.resolver.available w.files
  .print none (.ok (w.report (Report.brandsJson names) (Report.brands names)))

/-- Shows the codes of a brand from the vehicle. -/
def readBrand (w : Workplace σ) (brand : String) : Outcome σ :=
  w.connected (ask (.readBrand brand)
    (fun s =>
      let (result, _, s) := w.resolver.readLive w.files brand s
      (result, s))
    fun cs => .ok (w.codes cs))

/-- Shows the codes of a brand in simulation. -/
def simulateBrand (w : Workplace σ) (brand : String) : Outcome σ :=
  .print none (.ok (w.codes (w.resolver.readSimulated w.files brand).1))

/-- Erases the codes of a brand in the vehicle. -/
def clearBrand (w : Workplace σ) (brand : String) : Outcome σ :=
  w.connected (ask (.clearBrand brand) Resolver.clearLive (confirm brand))

/-- Erases the codes of a brand in simulation, where it always succeeds. -/
def forgetBrand (_ : Workplace σ) (brand : String) : Outcome σ := .print none (confirm brand true)

/-- What a live view comes to, given the run of its poller. -/
def shown (w : Workplace σ) (r : Live.Poller.Run σ) : Outcome σ :=
  { output := String.join (r.snapshots.map w.snapshot)
    failure :=
      match r.result with
      | .ok () => none
      | .error e => some (.during .poll e)
    session := some r.session.close }

/-- Shows the values of all parameters, once or until polling fails. The rounds are counted by
`fuel`; if it runs out, there is no outcome. -/
def live (w : Workplace σ) (fuel : Nat) (once : Bool) : Option (Outcome σ) :=
  match Session.connect w.settings.session (w.openChannel w.settings.session) with
  | .unopened e => some (.fail (.connecting w.settings.session.device e) none)
  | .failed e s => some (.fail (.connecting w.settings.session.device e) (some s))
  | .ready s => ((w.poller once).run fuel none s).map w.shown

/-- Runs a command. Only a live view can run out of fuel, and one of a single sweep does not if
there are two rounds of it. -/
def run (w : Workplace σ) (fuel : Nat) : Command → Option (Outcome σ)
  | .live once => w.live fuel once
  | .pids => some w.pids
  | .readCodes => some w.readCodes
  | .clearCodes => some w.clearCodes
  | .listBrands => some w.listBrands
  | .readBrand brand simulate => some (if simulate then w.simulateBrand brand else w.readBrand brand)
  | .clearBrand brand simulate => some (if simulate then w.forgetBrand brand else w.clearBrand brand)

end Workplace

end ScanTool
