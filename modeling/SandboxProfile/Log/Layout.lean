import SandboxProfile.Config.Basic
import SandboxProfile.Text.Json

/-! Log records as the program writes them: which ones, in which form, and where to. -/
namespace SandboxProfile

namespace LogRecord

/-- Only records of the program itself are written. -/
def rootLogger : String := "sbprofile"

def isOwn (r : LogRecord) : Bool :=
  r.logger == rootLogger || (rootLogger ++ ".").toList.isPrefixOf r.logger.toList

/-- A record in one line, in columns. -/
def columns (stamp : String) (r : LogRecord) : String :=
  s!"{stamp} [{Text.padRight 9 r.severity.name}] {Text.padRight 30 r.event} [{r.logger}]"

/-- A record as an object, its keys in sorted order. -/
def toObject (stamp : String) (r : LogRecord) : Value :=
  Json.object [("event", .text r.event), ("level", .text r.severity.name),
    ("logger", .text r.logger), ("timestamp", .text stamp)]

end LogRecord

namespace LogSettings

def passes (s : LogSettings) (r : LogRecord) : Bool :=
  r.isOwn && r.severity.reaches s.level.severity

/-- The line of a record. -/
def line (s : LogSettings) (stamp : String) (r : LogRecord) : String :=
  match s.format with
  | .text => r.columns stamp
  | .json => Json.line (r.toObject stamp)

/-- The lines of the records that pass. -/
def lines (s : LogSettings) (stamp : String) (records : List LogRecord) : List String :=
  (records.filter s.passes).map (s.line stamp)

end LogSettings

/-- Where records go. -/
structure LogHandler where
  /-- Whether the program has installed it. -/
  own : Bool
  format : LogFormat
  deriving Repr, DecidableEq

structure Logger where
  level : LogLevel
  handlers : List LogHandler
  deriving Repr, DecidableEq

namespace Logger

def installed (l : Logger) : List LogHandler := l.handlers.filter (·.own)

/-- Installs a handler in the place of those that were installed before. Handlers
from elsewhere stay. -/
def configure (l : Logger) (s : LogSettings) : Logger :=
  ⟨s.level, l.handlers.filter (!·.own) ++ [⟨true, s.format⟩]⟩

theorem configure_configure (l : Logger) (s t : LogSettings) :
    (l.configure s).configure t = l.configure t := by
  simp [configure]

/-- However often a logger has been configured, only the last settings count, and there
is one handler that was installed. -/
theorem installed_configure (l : Logger) (earlier : List LogSettings) (s : LogSettings) :
    (earlier.foldl configure l).configure s = l.configure s ∧
      (l.configure s).installed = [⟨true, s.format⟩] := by
  constructor
  · induction earlier generalizing l with
    | nil => rfl
    | cons t rest ih => rw [List.foldl_cons, ih, configure_configure]
  · simp [installed, configure]

end Logger
end SandboxProfile
