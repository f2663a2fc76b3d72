import SandboxProfile.Config.Save
import SandboxProfile.Console.Line
import SandboxProfile.Log.Layout
import SandboxProfile.Policy.Compose
import SandboxProfile.Request.Load

/-! Outcomes of a run: how it ends, what it writes, and the disk after it. -/
namespace SandboxProfile
open Files (Disk)

inductive ExitCode where
  | success
  | failure
  | config
  | parameter
  | assembly
  deriving Repr, DecidableEq

def ExitCode.number : ExitCode → Nat
  | .success => 0
  | .failure => 1
  | .config => 2
  | .parameter => 3
  | .assembly => 4

/-- Faults that no command reports and that end the run as they are. -/
inductive Escape where
  /-- A text for the console ends a style that it has not started. -/
  | markup
  | overlay
  | request (fault : RequestFileFault)
  | binding (fault : ParameterFault)
  | policy (fault : PolicyFault)
  | save (fault : SaveFault)
  deriving Repr, BEq

def Escape.message : Escape → String
  | .markup => "a text for the console ends a style that it has not started"
  | .overlay => OverlayFault.notSection.message
  | .request fault => fault.message
  | .binding fault => fault.message
  | .policy fault => fault.message
  | .save fault => fault.message

/-- What is written about the run itself, behind its log. -/
inductive Notice where
  | usage
  /-- The configuration cannot be used. -/
  | badConfig (s : String)
  | text (s : String)
  deriving Repr, DecidableEq

def Notice.shown : Notice → String
  | .usage => "Usage: sbprofile [OPTIONS] COMMAND [ARGS]...\n"
  | .badConfig s | .text s => s

structure Outcome where
  exit : ExitCode
  output : String
  records : List LogRecord
  notices : List Notice
  escape : Option Escape
  disk : Disk

namespace Outcome

def success (d : Disk) (output : String) : Outcome := ⟨.success, output, [], [], none, d⟩

def usage (d : Disk) : Outcome := ⟨.config, "", [], [.usage], none, d⟩

def escaped (d : Disk) (e : Escape) : Outcome := ⟨.failure, "", [], [], some e, d⟩

/-- Ends with a text about the run, as a notice of some form. -/
def reportAs (form : String → Notice) (d : Disk) (exit : ExitCode) (s : String) : Outcome :=
  match Console.print? s with
  | some line => ⟨exit, "", [], [form line], none, d⟩
  | none => escaped d .markup

def report : Disk → ExitCode → String → Outcome := reportAs .text

/-- Ends with lines of output. The lines in front of one that cannot be written stay. -/
def lines (d : Disk) : List String → Outcome
  | [] => success d ""
  | s :: rest =>
    match Console.print? s with
    | none => escaped d .markup
    | some line =>
      let others := lines d rest
      { others with output := line ++ others.output }

def withRecords (records : List LogRecord) (o : Outcome) : Outcome :=
  { o with records := records ++ o.records }

/-- What goes to the error stream: the log in its form, then the notices. -/
def errorText (logging : LogSettings) (stamp : String) (o : Outcome) : String :=
  String.join ((logging.lines stamp o.records).map (· ++ "\n") ++ o.notices.map Notice.shown)

end Outcome
end SandboxProfile
