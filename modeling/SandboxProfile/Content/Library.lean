import SandboxProfile.Content.Base

/-! The content library: its tiers, the addenda of its roles, and the renames that
old versions need. -/
namespace SandboxProfile.Content
open Guard (versionAtMost)

def globalRead : Fragment :=
  described "Global read access" (always "tier-1-global-read" [allow ["file-read*"] []])

def restrictedRead : Fragment :=
  described "Global read except ~/Library and the profile directory" <|
    always "tier-2-restricted-read"
      [allow ["file-read*"] [homeSubpath "/Library/Caches/TemporaryItems"],
        choose (.isTrue hasSandboxedProfile)
          [allow ["file-read*"]
            [.all [.not (homeSubpath "/Library"),
              .not (templated .subpath [requiredParam profileDir])]]]
          [allow ["file-read*"] [.not (homeSubpath "/Library")]]]

def noGlobalRead : Fragment :=
  described "No global read access" (always "tier-3-no-global-read" [])

def fileAddendum : Fragment :=
  described "file:// content processes read everything and draw file icons" <|
    always "file-addendum"
      [allow ["file-read*"] [],
        allow ["mach-lookup"] [named .globalName "com.apple.iconservices"]]

def audioAddendum : Fragment :=
  described "Audio access for processes without audio remoting" <|
    always "audio-addendum"
      [legacyShm,
        allow ["mach-lookup"]
          (eachNamed .globalName ["com.apple.audio.coreaudiod", "com.apple.audio.audiohald"]),
        allow ["iokit-open"] [named .iokitUserClientClass "IOAudioEngineUserClient"],
        allow ["device-microphone"] []]

/-- Version 10.7 spells every operation on shared memory alike. -/
def shmAliases : AliasSet :=
  ⟨versionAtMost 1007,
    [("ipc-posix-shm*", "ipc-posix-shm"), ("ipc-posix-shm-read-data", "ipc-posix-shm"),
      ("ipc-posix-shm-read*", "ipc-posix-shm"), ("ipc-posix-shm-write-data", "ipc-posix-shm")]⟩

def libraryName : String := "content"

def defaultRole : String := "default"

def sections : Sections where
  name := libraryName
  posture := posture
  base := base
  tiers := [(.level1, [globalRead]), (.level2, [restrictedRead]), (.level3, [noGlobalRead])]
  addenda := [(defaultRole, []), ("file", [fileAddendum]), ("audio", [audioAddendum])]
  aliases := [shmAliases]

def library : Library where
  toSections := sections
  ids_nodup := by decide

end SandboxProfile.Content

namespace SandboxProfile.Library

/-- The built-in libraries by name. -/
def builtIn : List (String × Library) := [(Content.libraryName, Content.library)]

def builtInNames : List String := Text.sortedDistinct (builtIn.map (·.1))

structure UnknownLibrary where
  name : String
  deriving Repr, DecidableEq

def UnknownLibrary.message (u : UnknownLibrary) : String :=
  s!"Unknown fragment library {Text.quoted u.name} (available: " ++
    (Value.list (builtInNames.map .text)).literal ++ ")"

def named (name : String) : Except UnknownLibrary Library :=
  match builtIn.lookup name with
  | some l => .ok l
  | none => .error ⟨name⟩

end SandboxProfile.Library
