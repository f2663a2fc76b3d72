/-! Log records: how grave, from which part of the program, and what happened. -/
namespace SandboxProfile

inductive Severity where
  | debug
  | info
  | warning
  | error
  | critical
  deriving Repr, DecidableEq

namespace Severity

def all : List Severity := [.debug, .info, .warning, .error, .critical]

def name : Severity → String
  | .debug => "debug"
  | .info => "info"
  | .warning => "warning"
  | .error => "error"
  | .critical => "critical"

def rank : Severity → Nat
  | .debug => 10
  | .info => 20
  | .warning => 30
  | .error => 40
  | .critical => 50

/-- Whether a record of this severity passes a threshold. -/
def reaches (s threshold : Severity) : Bool := threshold.rank ≤ s.rank

end Severity

structure LogRecord where
  severity : Severity
  logger : String
  event : String
  deriving Repr, DecidableEq

/-- The records that pass a threshold, in order. -/
def LogRecord.above (threshold : Severity) (records : List LogRecord) : List LogRecord :=
  records.filter fun r => r.severity.reaches threshold

end SandboxProfile
