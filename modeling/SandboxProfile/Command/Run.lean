import SandboxProfile.Command.Compile

/-! A run of the program: the command line is read, the configuration loaded, and the task
performed. Nothing is performed under a configuration that cannot be used. -/
namespace SandboxProfile
open Files (Disk Path)

/-- What a run finds around it. -/
structure Host where
  disk : Disk
  environment : Environment
  runtime : String
  system : String
  machine : String
  /-- The version of the system, where it tells one. -/
  release : String

def programVersion : String := "0.3.0"

def versionLine : String := s!"sbprofile {programVersion}"

namespace Host

/-! ### Parameters and versions -/

def specJson (s : ParameterSpec) : Value :=
  Json.object [("name", .text s.name), ("kind", .text s.kind.name), ("required", .bool s.required),
    ("description", .text s.description)]

def specLine (s : ParameterSpec) : String :=
  let mark := if s.required then "*" else " "
  s!" {mark} {Text.padRight 24 s.name} {Text.padRight 16 s.kind.name} {s.description}"

def paramsTask (h : Host) (json : Bool) : Outcome :=
  if json then
    .success h.disk (Json.pretty (.list (contentParameters.map specJson)) ++ "\n")
  else
    .lines h.disk ("\nContent Process Parameters\n" :: contentParameters.map specLine ++
      ["\n  * required\n"])

def versionTask (h : Host) (json : Bool) : Outcome :=
  if json then
    let libraries := Value.list (Library.builtInNames.map .text)
    .success h.disk (Json.pretty (Json.object
      [("sbprofile", .text programVersion), ("python", .text h.runtime),
        ("platform", .text h.system), ("arch", .text h.machine), ("libraries", libraries)]) ++ "\n")
  else
    .lines h.disk [versionLine, "Python " ++ h.runtime, s!"Platform: {h.system} {h.machine}",
      "Libraries: " ++ Text.joinWith ", " Library.builtInNames]

/-! ### Capabilities -/

/-- The platform that a query is about. Parts that it leaves open are configured. -/
def queriedPlatform (h : Host) (c : Config) (q : CapabilityQuery) : Except PlatformFault Platform :=
  if q.host then Platform.ofHost h.system h.release
  else do
    let parse (s : String) : Except PlatformFault Version :=
      (Version.parse s).mapError .invalidVersion
    let settings := c.platform
    let least ← parse ((Task.nonEmpty q.least).getD settings.least.text)
    let greatest ← match q.greatest with
      | none => pure (settings.greatest.map (·.version))
      | some "" => pure none
      | some s => some <$> parse s
    Platform.create (q.family.getD settings.family) least greatest

def capabilityLine (entry : String × Value) : String :=
  let shown := match entry.2 with
    | .bool b => if b then "yes" else "no"
    | v => v.display
  s!"  {Text.padRight 28 entry.1} {shown}"

def capabilitiesTask (h : Host) (c : Config) (q : CapabilityQuery) : Outcome :=
  match h.queriedPlatform c q with
  | .error fault => .report h.disk .failure ("Invalid platform: " ++ fault.message)
  | .ok p =>
    let entries := (Capabilities.ofPlatform p).entries
    let shown : Outcome :=
      if q.json then
        .success h.disk (Json.pretty (Json.object
          [("platform", .text p.describe), ("capabilities", Json.object entries)]) ++ "\n")
      else .lines h.disk (s!"Capabilities  ({p.describe})\n" :: entries.map capabilityLine)
    shown.withRecords [Capabilities.resolvedRecord p]

/-! ### The configuration -/

def configShowTask (h : Host) (c : Config) (json : Bool) : Outcome :=
  if json then
    let sections := c.sections.map fun (name, settings) => (name, Json.object settings)
    .success h.disk (Json.pretty (Json.object sections) ++ "\n")
  else
    .lines h.disk (c.sections.flatMap fun (name, settings) =>
      name :: settings.map fun (key, v) => s!"  {Text.padRight 16 key} {v.display}")

def configInitTask (h : Host) (c : Config) (path : Option String) (force : Bool) : Outcome :=
  let p := (path.map Path.ofText).getD h.environment.configPath
  if h.disk.holds p.toText && !force then
    .report h.disk .failure s!"Config already exists: {p.toText}\nUse --force to overwrite it."
  else
    match Config.save c.toTable p h.disk with
    | (.ok p, d) => .lines d ["Config written: " ++ p.toText]
    | (.error (.unwritten path fault), d) =>
      let cause := (fault.map fun f => ": " ++ f.message).getD ""
      .report d .config ("Config error: " ++ (SaveFault.unwritten path fault).message ++ cause)
    | (.error fault, d) => .escaped d (.save fault)

/-! ### Runs -/

def perform (h : Host) (c : Config) (task : Task) : Outcome :=
  match task with
  | .compile s output => compileTask h.disk h.environment c s output
  | .explain s => explainTask h.disk h.environment c s
  | .params json => h.paramsTask json
  | .capabilities q => h.capabilitiesTask c q
  | .configInit path force => h.configInitTask c path force
  | .configShow json => h.configShowTask c json
  | .version json => h.versionTask json
  | .help => .success h.disk Notice.usage.shown

/-- The end of a run whose configuration cannot be loaded. -/
def refuse (h : Host) (fault : ConfigFault) : Outcome :=
  let line (more : List String) : String :=
    "Config error: " ++ Text.joinWith "\n  " (fault.message :: more)
  match fault with
  | .overlay .notSection => .escaped h.disk .overlay
  | .unreadable _ => .reportAs .badConfig h.disk .config (line [])
  | .misfit complaints => .reportAs .badConfig h.disk .config (line (complaints.map (·.line ".")))
  | _ => .report h.disk .config (line [])

/-- The configuration, with the level of the command line if it names one. -/
def configure (h : Host) (options : RootOptions) : Except ConfigFault Config := do
  let c ← Config.load h.disk h.environment (options.config.map Path.ofText)
  match options.logLevel with
  | none => pure c
  | some level =>
    match (LogLevel.ofValue (.text level)).within "level" with
    | .fits level => pure { c with logging := { c.logging with level := level } }
    | .misfits complaints => throw (.misfit complaints)

/-- The outcome of a run, and how its log is written. -/
def run (h : Host) (args : List String) : LogSettings × Outcome :=
  match RootRequest.ofArguments? h.disk args with
  | none => ({}, .usage h.disk)
  | some .version => ({}, .success h.disk (versionLine ++ "\n"))
  | some .help => ({}, .success h.disk Notice.usage.shown)
  | some (.command options name rest) =>
    match h.configure options with
    | .error fault => ({}, h.refuse fault)
    | .ok c =>
      match Task.ofCommand? h.disk name rest with
      | none => (c.logging, .usage h.disk)
      | some task => (c.logging, h.perform c task)

end Host
end SandboxProfile
