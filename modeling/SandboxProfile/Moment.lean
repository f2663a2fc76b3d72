import SandboxProfile.Text.Layout

/-! Points in time: a date, and for most uses a time of day. -/
namespace SandboxProfile

structure Clock where
  hour : Nat
  minute : Nat
  second : Nat
  microsecond : Nat
  /-- Seconds ahead of universal time, if that is known. -/
  offset : Option Int
  deriving Repr, DecidableEq

structure Moment where
  year : Nat
  month : Nat
  day : Nat
  clock : Option Clock
  deriving Repr, DecidableEq

/-- The causes for which a point in time does not exist. -/
inductive MomentFault where
  | year (y : Nat)
  | month
  | day
  | hour
  | minute
  | second
  /-- An offset from universal time of a day or more, in seconds. -/
  | offset (seconds : Int)
  deriving Repr, DecidableEq

/-- A span of time in whole days and the seconds after them. -/
def durationLiteral (seconds : Int) : String :=
  let days := seconds.fdiv 86400
  let rest := seconds.fmod 86400
  let parts := (if days == 0 then [] else [s!"days={days}"]) ++
    (if rest == 0 then [] else [s!"seconds={rest}"])
  "datetime.timedelta(" ++ (if parts.isEmpty then "0" else Text.joinWith ", " parts) ++ ")"

def MomentFault.message : MomentFault → String
  | .year y => s!"year {y} is out of range"
  | .month => "month must be in 1..12"
  | .day => "day is out of range for month"
  | .hour => "hour must be in 0..23"
  | .minute => "minute must be in 0..59"
  | .second => "second must be in 0..59"
  | .offset seconds =>
    "offset must be a timedelta strictly between -timedelta(hours=24) and timedelta(hours=24), not " ++
      durationLiteral seconds ++ "."

namespace Clock

def zoneLiteral : Option Int → List String
  | none => []
  | some 0 => ["tzinfo=datetime.timezone.utc"]
  | some seconds => [s!"tzinfo=datetime.timezone({durationLiteral seconds})"]

/-- The parts of a time; seconds and fractions only as far as they are not zero. -/
def parts (c : Clock) : List String :=
  let small := if c.microsecond != 0 then [c.second, c.microsecond]
    else if c.second != 0 then [c.second]
    else []
  ([c.hour, c.minute] ++ small).map toString ++ zoneLiteral c.offset

/-- A time of day as messages show it. -/
def literal (c : Clock) : String := "datetime.time(" ++ Text.joinWith ", " c.parts ++ ")"

end Clock

namespace Moment

def isLeap (year : Nat) : Bool := year % 4 == 0 && (year % 100 != 0 || year % 400 == 0)

def daysIn (year month : Nat) : Nat :=
  if month == 2 then if isLeap year then 29 else 28
  else if [4, 6, 9, 11].contains month then 30
  else 31

/-- The first reason for which there is no such moment. -/
def fault? (m : Moment) : Option MomentFault :=
  let offset := (m.clock.bind (·.offset)).getD 0
  let clock (holds : Clock → Bool) : Bool := m.clock.any holds
  if offset ≥ 86400 || offset ≤ -86400 then some (.offset offset)
  else if m.year == 0 then some (.year 0)
  else if m.month == 0 || m.month > 12 then some .month
  else if m.day == 0 || m.day > daysIn m.year m.month then some .day
  else if clock (·.hour > 23) then some .hour
  else if clock (·.minute > 59) then some .minute
  else if clock (·.second > 59) then some .second
  else none

/-- A moment as messages show it. -/
def literal (m : Moment) : String :=
  let date := [m.year, m.month, m.day].map toString
  match m.clock with
  | none => "datetime.date(" ++ Text.joinWith ", " date ++ ")"
  | some c => "datetime.datetime(" ++ Text.joinWith ", " (date ++ c.parts) ++ ")"

end Moment
end SandboxProfile
