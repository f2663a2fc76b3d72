import SandboxProfile.Platform.Version

/-! Complaints about values that do not fit: where in the value, and why. A check of
several parts gathers the complaints about all of them, in the order of the parts. -/
namespace SandboxProfile

/-- Why a value does not fit. -/
inductive Misfit where
  | extraEntry
  | keyNotText
  | notTable
  /-- A section of the configuration is not a table; sections are known by a model name. -/
  | notSection (model : String)
  | notList
  | notText
  | textNotUnicode
  | notTruth
  | truthUnclear
  | notInteger
  | integerUnclear
  | integerFractional
  | integerNotFinite
  | integerTooLarge
  | notTier
  | notFamily
  | unknownLevel
  | unknownFormat
  | version (fault : InvalidVersion)
  deriving Repr, DecidableEq

namespace Misfit

private def refused (reason : String) : String := "Value error, " ++ reason

def message : Misfit → String
  | .extraEntry => "Extra inputs are not permitted"
  | .keyNotText => "Keys should be strings"
  | .notTable => "Input should be a valid dictionary"
  | .notSection model => "Input should be a valid dictionary or instance of " ++ model
  | .notList => "Input should be a valid list"
  | .notText => "Input should be a valid string"
  | .textNotUnicode =>
    "Input should be a valid string, unable to parse raw data as a unicode string"
  | .notTruth => "Input should be a valid boolean"
  | .truthUnclear => "Input should be a valid boolean, unable to interpret input"
  | .notInteger => "Input should be a valid integer"
  | .integerUnclear => "Input should be a valid integer, unable to parse string as an integer"
  | .integerFractional => "Input should be a valid integer, got a number with a fractional part"
  | .integerNotFinite => "Input should be a finite number"
  | .integerTooLarge => "Unable to parse input string as an integer, exceeded maximum size"
  | .notTier => "Input should be 1, 2 or 3"
  | .notFamily => "Input should be 'macos', 'linux' or 'windows'"
  | .unknownLevel =>
    refused "Log level must be one of: \x7b'DEBUG', 'ERROR', 'INFO', 'WARNING'\x7d"
  | .unknownFormat => refused "Log format must be 'text' or 'json'"
  | .version fault => refused fault.message

end Misfit

structure Complaint where
  /-- Keys and positions, from the outside to the inside. -/
  location : List String
  misfit : Misfit
  deriving Repr, DecidableEq

/-- A complaint in one line. -/
def Complaint.line (separator : String) (c : Complaint) : String :=
  Text.joinWith separator c.location ++ ": " ++ c.misfit.message

/-- The outcome of a check: a result, or every complaint about the value. -/
inductive Checked (α : Type) where
  | fits (a : α)
  | misfits (complaints : List Complaint)
  deriving Repr

namespace Checked

protected def map (f : α → β) : Checked α → Checked β
  | .fits a => .fits (f a)
  | .misfits cs => .misfits cs

/-- Both parts are checked, whatever comes of the first one. -/
protected def seq (x : Checked (α → β)) (y : Checked α) : Checked β :=
  match x, y with
  | .fits f, .fits a => .fits (f a)
  | .fits _, .misfits cs => .misfits cs
  | .misfits cs, .fits _ => .misfits cs
  | .misfits cs, .misfits ds => .misfits (cs ++ ds)

instance : Applicative Checked where
  pure := .fits
  map := Checked.map
  seq x y := x.seq (y ())

def misfit (m : Misfit) : Checked α := .misfits [⟨[], m⟩]

def ofExcept : Except Misfit α → Checked α
  | .ok a => .fits a
  | .error m => misfit m

/-- What a check of a part says, seen from the whole. -/
def within (key : String) : Checked α → Checked α
  | .fits a => .fits a
  | .misfits cs => .misfits (cs.map fun c => { c with location := key :: c.location })

/-- All results, or the complaints about all parts. -/
def all : List (Checked α) → Checked (List α)
  | [] => .fits []
  | x :: rest => (x.map fun a as => a :: as).seq (all rest)

theorem within_eq_fits_iff {key : String} {x : Checked α} {a : α} :
    x.within key = .fits a ↔ x = .fits a := by
  cases x <;> simp [within]

theorem all_fits (as : List α) : all (as.map Checked.fits) = .fits as := by
  induction as with
  | nil => rfl
  | cons a as ih => simp [all, ih, Checked.map, Checked.seq]

end Checked
end SandboxProfile
