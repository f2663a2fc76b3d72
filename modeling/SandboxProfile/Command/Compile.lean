import SandboxProfile.Command.Outcome
import SandboxProfile.Command.Task
import SandboxProfile.Policy.Explain

/-! Compiling and explaining a parameter file. What the command line says goes before what
the file says, and that before the configuration. -/
namespace SandboxProfile
open Files (Disk)

/-- Why there is no document. -/
inductive Stop where
  | request (fault : RequestFileFault)
  | library (fault : Library.UnknownLibrary)
  | binding (fault : ParameterFault)
  | composing (fault : ComposeFault)
  | printing (fault : PolicyFault)
  deriving Repr, BEq

namespace Stop

/-- How a run ends with a fault that is reported: its code, and the label of the report. -/
structure Verdict where
  exit : ExitCode
  label : String
  fragment : Option String
  message : String

def parameterVerdict (fragment : Option String) (fault : ParameterFault) : Verdict :=
  ⟨.parameter, "Parameter error", fragment, fault.message⟩

def ofPolicy (fragment : Option String) (fault : PolicyFault) : Escape ⊕ Verdict :=
  match fault with
  | .parameter f =>
    if f.concernsParameter then .inr (parameterVerdict fragment f) else .inl (.binding f)
  | f =>
    if f.isMalformed then .inl (.policy f)
    else .inr ⟨.assembly, "Assembly failed", fragment, f.message⟩

def ofRequest (fault : RequestFileFault) : Escape ⊕ Verdict :=
  match fault with
  | .notText _ | .noHome | .content (.scalar _) => .inl (.request fault)
  | fault => .inr ⟨.parameter, "Invalid parameter file", none, fault.message⟩

def verdict : Stop → Escape ⊕ Verdict
  | .request fault => ofRequest fault
  | .library fault => .inr ⟨.config, "Config error", none, fault.message⟩
  | .binding fault =>
    if fault.concernsParameter then .inr (parameterVerdict none fault) else .inl (.binding fault)
  | .composing (.inFragment id fault) => ofPolicy (some id) fault
  | .composing (.inAlias fault) => ofPolicy none fault
  | .composing fault => .inr ⟨.assembly, "Assembly failed", fault.fragment?, fault.message⟩
  | .printing fault => ofPolicy none fault

def Verdict.text (v : Verdict) : String :=
  let place := match v.fragment with
    | none | some "" => ""
    | some id => s!" (fragment {Text.quoted id})"
  v.label ++ place ++ ": " ++ v.message

def outcome (d : Disk) (s : Stop) : Outcome :=
  match s.verdict with
  | .inl e => .escaped d e
  | .inr v => .report d v.exit v.text

end Stop

/-- All that a composition needs. -/
structure Job where
  library : Library
  store : Store
  tier : Option Tier
  roles : List String

namespace Job

def chooseTier (s : Selection) (r : Request) (c : Config) : Option Tier :=
  match s.tier, r.tier with
  | some t, _ => t
  | none, some t => some t
  | none, none => c.compile.tier

def chooseRoles (s : Selection) (r : Request) (c : Config) : List String :=
  if !s.roles.isEmpty then s.roles
  else if !r.roles.isEmpty then r.roles
  else c.compile.roles

def prepare (d : Disk) (env : Environment) (c : Config) (s : Selection) :
    Traced LogRecord Stop Job := do
  let request ← Traced.ofExcept ((Request.load d env s.file).mapError .request)
  let library ← Traced.ofExcept ((Library.named request.library).mapError .library)
  let store ← Traced.ofExcept (request.toStore.mapError .binding)
  Traced.note store.builtRecord
  pure ⟨library, store, chooseTier s request c, chooseRoles s request c⟩

def compose (j : Job) : Traced LogRecord Stop Document :=
  ((j.library.composeChosen j.store j.tier j.roles).mapNotes Event.record).mapError .composing

/-- A document and its text. -/
def compile (j : Job) : Traced LogRecord Stop (Document × String) := do
  let document ← j.compose
  let text ← Traced.ofExcept (document.emit.mapError .printing)
  pure (document, text)

def explain (j : Job) : Traced LogRecord Stop String := do
  let document ← j.compose
  Traced.ofExcept ((j.library.explainDocument j.store document).mapError .printing)

end Job

namespace Outcome

/-- Goes on where there is a result, and reports the fault where there is none. -/
def ofTraced (d : Disk) (run : Traced LogRecord Stop α) (done : α → Outcome) : Outcome :=
  match run.result with
  | .error stop => (stop.outcome d).withRecords run.notes
  | .ok a => (done a).withRecords run.notes

end Outcome

/-- Writes the text of a document to a file. -/
def writeDocument (d : Disk) (path : String) (document : Document) (text : String) : Outcome :=
  match (Files.write (Files.Path.ofText path).toText text.toUTF8.toList).on d with
  | (.error fault, d) => .report d .failure ("Cannot write output: " ++ fault.message)
  | (.ok _, d) =>
    let hash := document.contentHash.toOption.getD ""
    .report d .success
      s!"✓  Wrote {path} ({document.statements.length} statement(s), hash={hash})"

def compileTask (d : Disk) (env : Environment) (c : Config) (s : Selection)
    (output : Option String) : Outcome :=
  .ofTraced d (Job.prepare d env c s >>= Job.compile) fun (document, text) =>
    match output with
    | none => .success d (Console.echo text)
    | some path => writeDocument d path document text

def explainTask (d : Disk) (env : Environment) (c : Config) (s : Selection) : Outcome :=
  .ofTraced d (Job.prepare d env c s >>= Job.explain) fun text =>
    .success d (Console.echo (text ++ "\n"))

end SandboxProfile
