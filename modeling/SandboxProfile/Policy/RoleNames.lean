import SandboxProfile.Text.Blank
import SandboxProfile.Text.Layout

/-! Lists of role names as one text: commas between them, blanks around them, and
nothing between two commas counts as no name. -/
namespace SandboxProfile.RoleNames

def ofText (s : String) : List String := ((Text.split ',' s).map Text.trim).filter (· ≠ "")

def toText (roles : List String) : String := Text.joinWith "," roles

end SandboxProfile.RoleNames
