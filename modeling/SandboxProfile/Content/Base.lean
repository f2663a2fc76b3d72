import SandboxProfile.Content.Names
import SandboxProfile.Content.Rules

/-! The posture and the base of the content library: what holds for every content
process. Versions are major times a hundred plus minor. -/
namespace SandboxProfile.Content
open Guard (versionAtLeast versionAtMost)

def fileMapExecutable : Guard := .defined "file-map-executable"
def iokitGetProperties : Guard := .defined "iokit-get-properties"

/-- Names of shared memory that version 10.7 and older ones need. -/
def legacyShm : Node :=
  whenHolds (versionAtMost 1007)
    [allow ["ipc-posix-shm-read-data", "ipc-posix-shm-write-data"]
      (eachNamed .ipcPosixNameRegex legacyShmNames)]

def posture : Fragment :=
  described "Deny everything by default" (always "deny-default" [denyQuietly "default"])

def extraDenies : Fragment :=
  described "Operations not covered by deny default" <| always "extra-denies"
    [whenHolds (versionAtLeast 1009) [denyQuietly "process-info*"],
      whenHolds (.defined "nvram*") [denyQuietly "nvram*"],
      whenHolds iokitGetProperties [denyQuietly "iokit-get-properties"],
      whenHolds fileMapExecutable [denyQuietly "file-map-executable"]]

def debugLogging : Fragment := guarded "debug-logging" (.isTrue shouldLog) [debug "deny"]

def systemFilters : List Filter :=
  systemSubpaths.map subpath ++ [templated .subpath [param appPath]]

def systemPaths : Fragment :=
  always "system-paths"
    [choose fileMapExecutable
      [whenHolds (.isTrue "IS_ROSETTA_TRANSLATED")
          [allow ["file-map-executable"] [subpath "/private/var/db/oah"]],
        allow ["file-map-executable", "file-read*"] systemFilters]
      [allow ["file-read*"] systemFilters]]

def worldReadableSystem : Fragment :=
  always "world-readable-system"
    [allow ["file-read*"]
        [.all [.only .fileMode (.mode 4) [],
          .any [subpath "/Library/Filesystems/NetFSPlugins", subpath "/usr/share"]]],
      allow ["file-read-metadata"] [subpath "/"]]

def timezone : Fragment :=
  always "timezone"
    [allow ["file-read*"]
      [subpath "/private/var/db/timezone", subpath "/usr/share/zoneinfo",
        subpath "/usr/share/zoneinfo.default", literal "/private/etc/localtime"]]

def specialFiles : Fragment :=
  always "special-files"
    [allow ["file-read*"]
        [literal "/dev/autofs_nowait", literal "/dev/random", literal "/dev/urandom"],
      allow ["file-read*", "file-write-data"] [literal "/dev/null", literal "/dev/zero"],
      allow ["file-read*", "file-write-data", "file-ioctl"] [literal "/dev/dtracehelper"]]

def processInfo : Fragment :=
  guarded "process-info" (versionAtLeast 1009)
    [allow ["process-info-pidinfo", "process-info-setcontrol"] [symbol .target "self"]]

/-- Version 10.9 has no filter on names of kernel state, so that reading is all
or nothing there. -/
def sysctl : Fragment :=
  always "sysctl"
    [choose (versionAtMost 1009)
        [allow ["sysctl-read"] []]
        [allow ["sysctl-read"]
          (pattern .sysctlNameRegex "^sysctl\\." :: eachNamed .sysctlName sysctlNames)],
      whenHolds (.compare versionParameter .gt 1009)
        [allow ["sysctl-write"] [named .sysctlName "kern.tcsm_enable"]]]

def legacyShmFragment : Fragment := always "legacy-shm" [legacyShm]

def signalsAndDevices : Fragment :=
  always "signals-and-devices"
    [allow ["signal"] [symbol .target "self"],
      allow ["job-creation"] [literal "/Library/CoreMediaIO/Plug-Ins/DAL"],
      allow ["iokit-set-properties"] [named .iokitProperty "IOAudioControlValue"]]

def crashReporter : Fragment :=
  guarded "crash-reporter" (.isSet "CRASH_PORT")
    [allow ["mach-lookup"] [templated .globalName [param "CRASH_PORT"]]]

def windowServer : Fragment :=
  guarded "window-server" (.isTrue "HAS_WINDOW_SERVER")
    [allow ["mach-lookup"] [named .globalName "com.apple.windowserver.active"]]

def coreServices : Fragment :=
  always "core-services"
    [allow ["mach-lookup"]
        (eachNamed .globalName
          ["com.apple.system.opendirectoryd.libinfo", "com.apple.CoreServices.coreservicesd",
            "com.apple.coreservices.launchservicesd", "com.apple.lsd.mapdb"]),
      whenHolds (versionAtLeast 1013)
        [allow ["mach-lookup"]
          (eachNamed .xpcServiceName
            ["com.apple.coremedia.videodecoder", "com.apple.coremedia.videoencoder"])],
      whenHolds (.compare versionParameter .eq 1009)
        [allow ["mach-lookup"] [named .globalName "com.apple.xpcd"]],
      allow ["mach-lookup"] [named .globalName "com.apple.trustd.agent"],
      allow ["iokit-open"] [named .iokitUserClientClass "IOHIDParamUserClient"]]

def iokitProperties : Fragment :=
  guarded "iokit-properties" iokitGetProperties
    [allow ["iokit-get-properties"] (eachNamed .iokitProperty deviceProperties),
      whenHolds (versionAtLeast 1100)
        [allowWithin (named .iokitRegistryEntryClass "IOPlatformDevice") ["iokit-get-properties"]
            (eachNamed .iokitProperty
              ["product-id", "IORegistryEntryPropertyKeys", "ean-storage-present"]),
          allowWithin (named .iokitRegistryEntryClass "IOService") ["iokit-get-properties"]
            (eachNamed .iokitProperty
              ["housing-color", "syscfg-erly-kbgs-allow-load", "syscfg-erly-kbgs-data-class",
                "syscfg-erly-kbgs-allow-unsealed", "syscfg-v2-data"])]]

def preferences : Fragment :=
  always "preferences"
    [whenHolds (versionAtLeast 1008)
        [allow ["user-preference-read"] [named .preferenceDomain "com.apple.HIToolbox"]],
      allow ["file-read-data"] [literal "/Library/Preferences/com.apple.HIToolbox.plist"],
      whenHolds (versionAtLeast 1008)
        [allow ["user-preference-read"] [named .preferenceDomain "com.apple.ATS"],
          allow ["user-preference-read"]
            [allNamed .preferenceDomain "kCFPreferencesAnyApplication" otherPreferenceDomains]]]

def globalPreferences : Fragment :=
  always "global-preferences"
    [allow ["file-read-data"]
        [literal "/Library/Preferences/.GlobalPreferences.plist",
          homeLiteral "/Library/Preferences/.GlobalPreferences.plist",
          homeRegex "/Library/Preferences/ByHost/\\.GlobalPreferences.*",
          homeLiteral "/Library/Preferences/com.apple.universalaccess.plist"],
      allow ["mach-lookup"]
        (eachNamed .globalName ["com.apple.cfprefsd.agent", "com.apple.cfprefsd.daemon"]),
      choose (versionAtMost 1007)
        [allow ["ipc-posix-shm"] []]
        [allow ["ipc-posix-shm-read-data"]
          [pattern .ipcPosixNameRegex "^apple\\.cfprefs\\..*"]]]

def userResources : Fragment :=
  always "user-resources"
    [allow ["file-read*"]
      [subpath "/Library/ColorSync/Profiles", subpath "/Library/Spelling", literal "/",
        literal "/private/tmp", literal "/private/var/tmp", homeLiteral "/.CFUserTextEncoding",
        homeLiteral "/Library/Preferences/com.apple.DownloadAssessment.plist",
        homeSubpath "/Library/Colors", homeSubpath "/Library/ColorSync/Profiles",
        homeSubpath "/Library/Keyboard Layouts", homeSubpath "/Library/Input Methods",
        homeSubpath "/Library/Spelling"]]

def testingFilters : List Filter :=
  (List.range testingReadPathCount).map fun i =>
    templated .subpath [param (testingReadPath (i + 1))]

def testingReadPaths : Fragment :=
  described "Extra read paths supplied by test harnesses" <| always "testing-read-paths"
    [choose fileMapExecutable
      (testingFilters.map fun f => allow ["file-read*", "file-map-executable"] [f])
      (testingFilters.map fun f => allow ["file-read*"] [f])]

def fontRegistry : Fragment :=
  always "font-registry"
    [allow ["file-read*"]
      [templated .subpath [param "DARWIN_USER_CACHE_DIR", .fixed "/com.apple.FontRegistry"]]]

def debugWriteDir : Fragment :=
  guarded "debug-write-dir" (.isSet "DEBUG_WRITE_DIR")
    [allow ["file-write-data"] [templated .subpath [param "DEBUG_WRITE_DIR"]],
      allow ["file-write-create"]
        [.all [templated .subpath [param "DEBUG_WRITE_DIR"], symbol .vnodeType "REGULAR-FILE"]]]

def pluginContainerPreferences : Fragment :=
  always "plugin-container-prefs"
    [allow ["file-read*"]
      [homeRegex ("/Library/Preferences/" ++ Template.regexQuote "org.mozilla.plugincontainer")]]

def extensionDirectories : Fragment :=
  always "extensions-dirs"
    [allow ["file-read*"]
      [homeRegex "/Library/Application Support/[^/]+/Extensions/",
        regexes "^/Library/Application Support/[^/]+/Extensions/" []]]

def profileExtensions : Fragment :=
  described "Read access to $PROFILE/\x7bextensions,chrome\x7d at every tier" <|
    guarded "profile-extensions" (.isTrue hasSandboxedProfile)
      [allow ["file-read*"] [profileSubpath "/extensions", profileSubpath "/chrome"]]

def graphics : Fragment :=
  always "graphics"
    [whenHolds (versionAtLeast 1008)
        [allow ["user-preference-read"]
          (eachNamed .preferenceDomain ["com.apple.opengl", "com.nvidia.OpenGL"])],
      allow ["mach-lookup"] [named .globalName "com.apple.cvmsServ"],
      whenHolds (versionAtLeast 1014)
        [allow ["mach-lookup"] [named .globalName "com.apple.MTLCompilerService"]],
      allow ["iokit-open"]
        (named .iokitConnection "IOAccelerator" ::
          eachNamed .iokitUserClientClass graphicsUserClients),
      allow ["iokit-open"]
        (eachNamed .iokitUserClientClass ["NVDVDContextTesla", "Gen6DVDContext"])]

def fonts : Fragment :=
  always "fonts"
    [allow ["file-read*"]
        [subpath "/Library/Fonts", subpath "/Library/Application Support/Apple/Fonts",
          homeSubpath "/Library/Fonts", named .extension "com.apple.app-sandbox.read"],
      allow ["mach-lookup"]
        (eachNamed .globalName ["com.apple.fonts", "com.apple.FontObjectsServer"]),
      whenHolds (versionAtMost 1011)
        [allow ["mach-lookup"] [named .globalName "com.apple.FontServer"]]]

def openglProfiler : Fragment :=
  guarded "opengl-profiler" (.defined "mach-register")
    [allow ["mach-register"] [pattern .globalNameRegex "^_oglprof_attach_<[0-9]+>$"]]

def mediaAccessibility : Fragment :=
  always "media-accessibility"
    [allow ["file-read*"] [homeLiteral "/Library/Preferences/com.apple.mediaaccessibility.plist"],
      allow ["file-read*", "file-write*"]
        [homeLiteral "/Library/Preferences/com.apple.mediaaccessibility.public.plist"]]

/-- Up to version 10.11 no extensions are issued for fonts. -/
def legacyFonts : Fragment :=
  described "Font extensions are not issued automatically on 10.11 and earlier" <|
    guarded "legacy-fonts" (versionAtMost 1011)
      [allow ["file-read*"]
        [regexes "\\.[oO][tT][fF]$"
            ["\\.[tT][tT][fF]$", "\\.[tT][tT][cC]$", "\\.[oO][tT][cC]$",
              "\\.[dD][fF][oO][nN][tT]$"],
          homeSubpath "/Library/FontCollections",
          homeSubpath "/Library/Application Support/Adobe/CoreSync/plugins/livetype",
          homeSubpath "/Library/Application Support/FontAgent",
          homeSubpath "/Library/Extensis/UTC", subpath "/Library/Extensis/UTC",
          regexes "\\.fontvault/" [], homeSubpath "/FontExplorer X/Font Library"]]

def audioRegistrar : Fragment :=
  guarded "audio-registrar" (versionAtLeast 1013)
    [allow ["mach-lookup"] [named .globalName "com.apple.audio.AudioComponentRegistrar"]]

def base : List Fragment :=
  [extraDenies, debugLogging, systemPaths, worldReadableSystem, timezone, specialFiles,
    processInfo, sysctl, legacyShmFragment, signalsAndDevices, crashReporter, windowServer,
    coreServices, iokitProperties, preferences, globalPreferences, userResources,
    testingReadPaths, fontRegistry, debugWriteDir, pluginContainerPreferences,
    extensionDirectories, profileExtensions, graphics, fonts, openglProfiler, mediaAccessibility,
    legacyFonts, audioRegistrar]

end SandboxProfile.Content
