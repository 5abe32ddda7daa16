import ScanTool.Adapter.Opening
import ScanTool.Brand.TableFile

/-!
# Commands

The commands of the program, the ways in which one can fail, and what one comes to. A command that
fails prints nothing, apart from what a live view has shown by then.
-/

namespace ScanTool

/-- The commands. -/
inductive Command where
  /-- Shows the values of all parameters, once or until it is stopped. -/
  | live (once : Bool)
  /-- Shows which parameters the vehicle supports. -/
  | pids
  /-- Shows the stored codes. -/
  | readCodes
  /-- Erases the stored codes. -/
  | clearCodes
  /-- Shows the brands for which there are tables. -/
  | listBrands
  /-- Shows the codes of a brand, from the vehicle or simulated. -/
  | readBrand (brand : String) (simulate : Bool)
  /-- Erases the codes of a brand, in the vehicle or simulated. -/
  | clearBrand (brand : String) (simulate : Bool)
  deriving DecidableEq, Repr, Inhabited

/-- What a command does over a session. -/
inductive Errand where
  /-- It asks for the supported parameters. -/
  | probe
  /-- It polls parameters. -/
  | poll
  /-- It reads the stored codes. -/
  | readCodes
  /-- It erases the stored codes. -/
  | clearCodes
  /-- It reads the codes of a brand. -/
  | readBrand (brand : String)
  /-- It erases the codes of a brand. -/
  | clearBrand (brand : String)
  deriving DecidableEq, Repr, Inhabited

/-- What is said when an errand fails. -/
def Errand.failure : Errand → String
  | probe => "capability probe failed"
  | poll => "live polling failed"
  | readCodes => "reading stored codes failed"
  | clearCodes => "clearing stored codes failed"
  | readBrand brand => "reading " ++ brand ++ " codes failed"
  | clearBrand brand => "clearing " ++ brand ++ " codes failed"

/-- What lies beneath the failure of a command. -/
inductive Cause where
  /-- A failure of the session. -/
  | adapter (error : AdapterError)
  /-- A failure of a table file. -/
  | table (error : TableError)
  deriving DecidableEq, Repr, Inhabited

/-- The wording of a cause. -/
def Cause.message : Cause → String
  | adapter e => e.message
  | table e => e.message

/-- The ways in which a command can fail. -/
inductive CommandError where
  /-- The session could not be connected. -/
  | connecting (device : String) (error : AdapterError)
  /-- An errand over the session failed. -/
  | during (errand : Errand) (error : AdapterError)
  /-- The file with descriptions could not be loaded. -/
  | loading (error : TableError)
  /-- The adapter did not confirm that codes were erased. -/
  | unconfirmed
  deriving DecidableEq, Repr, Inhabited

namespace CommandError

/-- The wording of a failure, without its cause. -/
def message : CommandError → String
  | connecting device _ => "failed to connect to adapter on " ++ device
  | during errand _ => errand.failure
  | loading _ => "failed to load generic code table"
  | unconfirmed => "adapter did not confirm the clear"

/-- What lies beneath a failure, if anything does. -/
def cause? : CommandError → Option Cause
  | connecting _ e => some (.adapter e)
  | during _ e => some (.adapter e)
  | loading e => some (.table e)
  | unconfirmed => none

end CommandError

/-- What a command comes to. -/
structure Outcome (σ : Type) where
  /-- What is printed. -/
  output : String
  /-- How the command has failed, if it has. -/
  failure : Option CommandError
  /-- The session afterwards, if a channel was opened. -/
  session : Option (Session σ)

namespace Outcome

variable {σ : Type}

/-- A failure that prints nothing. -/
def fail (e : CommandError) (session : Option (Session σ)) : Outcome σ := ⟨"", some e, session⟩

/-- Prints a report, unless there is none. -/
def print (session : Option (Session σ)) : Except CommandError String → Outcome σ
  | .ok output => ⟨output, none, session⟩
  | .error e => fail e session

end Outcome

end ScanTool
