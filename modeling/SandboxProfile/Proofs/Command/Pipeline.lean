import SandboxProfile.Command.Run
import SandboxProfile.Proofs.Command.Arguments
import SandboxProfile.Proofs.Console.Plain
import SandboxProfile.Proofs.Policy.Chosen

/-! What the commands make of a parameter file. The library's steps are put together here without
a console: a file is read, its library found, its parameters bound, and the library composed. Both
commands end as these steps do. -/
namespace SandboxProfile
open Files (Disk)

namespace Host

/-- What a selection asks to compose. The command line goes before the file and the file before
the configuration, each as far as it says something. -/
def job (h : Host) (c : Config) (s : Selection) : Except Stop Job := do
  let request ← (Request.load h.disk h.environment s.file).mapError .request
  let library ← (Library.named request.library).mapError .library
  let store ← request.toStore.mapError .binding
  let tier := (s.tier.or (request.tier.map some)).getD c.compile.tier
  let roles := ([s.roles, request.roles].find? (!·.isEmpty)).getD c.compile.roles
  pure ⟨library, store, tier, roles⟩

/-- The document that a selection asks for, or the first step that fails. -/
def document (h : Host) (c : Config) (s : Selection) : Except Stop Document := do
  let j ← h.job c s
  (j.library.composeChosen j.store j.tier j.roles).result.mapError .composing

end Host

/-! ### Outcomes -/

/-- An end with a code and nothing else to show for it. -/
structure Outcome.Fails (o : Outcome) (exit : ExitCode) (d : Disk) : Prop where
  exit : o.exit = exit
  output : o.output = ""
  escape : o.escape = none
  disk : o.disk = d

theorem Outcome.Fails.withRecords {o : Outcome} {exit : ExitCode} {d : Disk}
    (fails : o.Fails exit d) (records : List LogRecord) : (o.withRecords records).Fails exit d :=
  ⟨fails.exit, fails.output, fails.escape, fails.disk⟩

/-! ### Faults -/

/-- Whether a request cannot be had for a reason that the program knows about. Text that is no
Unicode, a scalar without a value and a home that is not there are none of its own faults. -/
def RequestFileFault.isOwn : RequestFileFault → Bool
  | .notText _ | .noHome | .content (.scalar _) => false
  | _ => true

/-- The code for a fault: one of a parameter, or else one of the assembly. -/
def PolicyFault.exit : PolicyFault → ExitCode
  | .parameter _ => .parameter
  | _ => .assembly

namespace ComposeFault

def isOwn : ComposeFault → Bool
  | .inFragment _ fault | .inAlias fault => fault.isOwn
  | _ => true

def exit : ComposeFault → ExitCode
  | .inFragment _ fault | .inAlias fault => fault.exit
  | _ => .assembly

end ComposeFault

namespace Stop

def isOwn : Stop → Bool
  | .request fault => fault.isOwn
  | .library _ => true
  | .binding fault => fault.concernsParameter
  | .composing fault => fault.isOwn
  | .printing fault => fault.isOwn

def exit : Stop → ExitCode
  | .request _ | .binding _ => .parameter
  | .library _ => .config
  | .composing fault => fault.exit
  | .printing fault => fault.exit

def message : Stop → String
  | .request fault => fault.message
  | .library fault => fault.message
  | .binding fault => fault.message
  | .composing fault => fault.message
  | .printing fault => fault.message

def fragment? : Stop → Option String
  | .composing fault => fault.fragment?
  | _ => none

/-- A fault of the program's own, with nothing in its message that could be a tag. -/
structure Plain (stop : Stop) : Prop where
  own : stop.isOwn = true
  tagless : Markup.Tagless stop.message.toList

/-- What a verdict takes from its fault. -/
structure Settles (exit : ExitCode) (fragment : Option String) (message : String) (v : Verdict) :
    Prop where
  exit : v.exit = exit
  label : '[' ∉ v.label.toList
  fragment : v.fragment = fragment
  message : v.message = message

theorem settles_parameter (fragment : Option String) (fault : ParameterFault) :
    Settles .parameter fragment fault.message (parameterVerdict fragment fault) :=
  ⟨rfl, (by decide : '[' ∉ "Parameter error".toList), rfl, rfl⟩

theorem settles_assembly (fragment : Option String) (message : String) :
    Settles .assembly fragment message ⟨.assembly, "Assembly failed", fragment, message⟩ :=
  ⟨rfl, (by decide : '[' ∉ "Assembly failed".toList), rfl, rfl⟩

theorem exists_ofPolicy (id : Option String) {fault : PolicyFault} (own : fault.isOwn = true) :
    ∃ v, ofPolicy id fault = .inr v ∧ Settles fault.exit id fault.message v := by
  cases fault with
  | parameter fault => exact ⟨_, if_pos own, settles_parameter id fault⟩
  | notGuard | notFilter | notArgument | notNode => contradiction
  | requiredUnset | unresolvedTemplate | unresolvedRegex => exact ⟨_, rfl, settles_assembly id _⟩

/-- Every fault of the program's own is reported. -/
theorem exists_verdict {stop : Stop} (own : stop.isOwn = true) :
    ∃ v, stop.verdict = .inr v ∧ Settles stop.exit stop.fragment? stop.message v := by
  cases stop with
  | request fault =>
    have told : ofRequest fault =
        .inr ⟨.parameter, "Invalid parameter file", none, fault.message⟩ := by
      unfold ofRequest
      split
      · contradiction
      · contradiction
      · contradiction
      · rfl
    exact ⟨_, told, rfl, (by decide : '[' ∉ "Invalid parameter file".toList), rfl, rfl⟩
  | library fault => exact ⟨_, rfl, rfl, (by decide : '[' ∉ "Config error".toList), rfl, rfl⟩
  | binding fault => exact ⟨_, if_pos own, settles_parameter none fault⟩
  | composing fault =>
    cases fault with
    | inFragment id fault =>
      obtain ⟨v, told, settles⟩ := exists_ofPolicy (some id) own
      have blamed : (composing (.inFragment id fault)).fragment? = some id :=
        ComposeFault.fragment?_inFragment id own
      exact ⟨v, told, blamed ▸ settles⟩
    | inAlias fault => exact exists_ofPolicy none own
    | _ => exact ⟨_, rfl, settles_assembly _ _⟩
  | printing fault => exact exists_ofPolicy none own

/-- The report of a fault can be written, unless the name of a fragment stands in its way. -/
theorem outcome_fails {stop : Stop} (isPlain : stop.Plain)
    (plain : ∀ id, stop.fragment? = some id → '[' ∉ id.toList) (d : Disk) :
    (stop.outcome d).Fails stop.exit d := by
  obtain ⟨v, told, settles⟩ := exists_verdict isPlain.own
  have report : Markup.Tagless v.text.toList := by
    unfold Verdict.text
    dsimp only
    rw [String.toList_append, settles.message]
    refine isPlain.tagless.append ?_
    simp only [String.toList_append, List.mem_append, not_or]
    refine ⟨⟨settles.label, ?_⟩, by decide⟩
    split
    · simp
    · simp
    · next id _ attributed =>
      have name := Text.not_mem_quoted (plain id (settles.fragment ▸ attributed))
      simp only [String.toList_append, List.mem_append, not_or]
      exact ⟨⟨(by decide : '[' ∉ " (fragment ".toList), name⟩, (by decide : '[' ∉ ")".toList)⟩
  obtain ⟨line, printed⟩ := Console.exists_print report
  rw [outcome, told]
  dsimp only
  rw [Outcome.report, Outcome.reportAs, printed]
  exact ⟨settles.exit, rfl, rfl, rfl⟩

end Stop

/-! ### The content library -/

namespace Content

theorem library_isProper : library.isProper = true := by decide +kernel

theorem guards_areProper : ∀ f ∈ library.fragments, f.guard.isProper = true := by decide +kernel

theorem ids_plain : ∀ f ∈ library.fragments, '[' ∉ f.id.toList := by decide +kernel

end Content

theorem Library.eq_of_named {name : String} {l : Library} (found : Library.named name = .ok l) :
    l = Content.library := by
  unfold named at found
  split at found
  · next l' listed =>
    obtain rfl := Except.ok.inj found
    obtain ⟨front, back, single, -⟩ := List.lookup_eq_some_iff.mp listed
    have member : (name, l') ∈ builtIn := single ▸ List.mem_append_right front List.mem_cons_self
    exact congrArg Prod.snd (List.mem_singleton.mp member)
  · contradiction

/-- The list of the libraries is in brackets, but there is no tag in it. -/
theorem Library.UnknownLibrary.tagless {u : UnknownLibrary} (absent : '[' ∉ u.name.toList) :
    Markup.Tagless u.message.toList := by
  have shown : ((Value.list (builtInNames.map .text)).literal ++ ")").toList =
      '[' :: "'content'])".toList := by decide +kernel
  have names : Markup.Tagless ((Value.list (builtInNames.map .text)).literal ++ ")").toList := by
    intro c there
    rw [shown] at there
    rcases List.infix_cons_iff.mp there with first | later
    · have quote : c = '\'' := by simpa using (List.cons_prefix_cons.mp first).2
      rw [quote]
      decide
    · exact Markup.Tagless.of_not_mem (by decide) c later
  have split : u.message.toList =
      ("Unknown fragment library " ++ Text.quoted u.name ++ " (available: ").toList ++
        ((Value.list (builtInNames.map .text)).literal ++ ")").toList := by
    rw [← String.toList_append, ← String.append_assoc]
    rfl
  rw [split]
  refine names.append ?_
  have name := Text.not_mem_quoted absent
  simp only [String.toList_append, List.mem_append, not_or]
  exact ⟨⟨by decide, name⟩, by decide⟩

/-! ### Lines of a document -/

theorem Text.infix_joinWith {sep s : String} {texts : List String} (member : s ∈ texts) :
    s.toList <:+: (joinWith sep texts).toList := by
  induction texts with
  | nil => contradiction
  | cons first rest ih =>
    cases rest with
    | nil =>
      obtain rfl := List.mem_singleton.mp member
      exact List.infix_rfl
    | cons second others =>
      rw [joinWith, String.toList_append, String.toList_append]
      · rcases List.mem_cons.mp member with rfl | later
        · exact ⟨[], _, by rw [List.nil_append, List.append_assoc]⟩
        · exact (ih later).trans (List.suffix_append _ _).isInfix
      · exact List.cons_ne_nil _ _

theorem Document.infix_emit {d : Document} {a : Statement} {text line : String}
    (written : d.emit = .ok text) (member : a ∈ d.statements) (shown : a.render 0 = .ok line) :
    line.toList <:+: text.toList := by
  obtain ⟨lines, rendered, same⟩ := Outcome.bind_eq_ok.mp written
  obtain rfl := Except.ok.inj same
  have listed : line ∈ lines := by
    obtain ⟨line', listed, shown'⟩ := Outcome.exists_mem_of_mapM rendered member
    obtain rfl := Except.ok.inj (shown.symm.trans shown')
    exact listed
  rw [String.toList_append]
  exact (Text.infix_joinWith (List.mem_cons_of_mem _ listed)).trans
    (List.prefix_append _ _).isInfix

/-! ### Steps -/

theorem Job.compose_result (j : Job) : j.compose.result =
    (j.library.composeChosen j.store j.tier j.roles).result.mapError .composing := rfl

namespace Host
variable {h : Host} {c : Config} {s : Selection}

theorem chooseTier_eq (request : Request) : Job.chooseTier s request c =
    (s.tier.or (request.tier.map some)).getD c.compile.tier := by
  unfold Job.chooseTier
  cases s.tier <;> cases request.tier <;> rfl

theorem chooseRoles_eq (request : Request) : Job.chooseRoles s request c =
    ([s.roles, request.roles].find? (!·.isEmpty)).getD c.compile.roles := by
  unfold Job.chooseRoles
  cases s.roles <;> cases request.roles <;> rfl

theorem prepare_result : (Job.prepare h.disk h.environment c s).result = h.job c s := by
  simp only [Job.prepare, job, Traced.result_bind, Traced.result_ofExcept, Traced.result_note,
    Traced.result_pure, Outcome.ok_bind, chooseTier_eq, chooseRoles_eq]
  rfl

theorem fragment?_of_job {stop : Stop} (failed : h.job c s = .error stop) :
    stop.fragment? = none := by
  rcases Outcome.bind_eq_error.mp failed with unread | ⟨request, -, failed⟩
  · obtain ⟨fault, -, rfl⟩ := Outcome.mapError_eq_error.mp unread
    rfl
  · rcases Outcome.bind_eq_error.mp failed with unknown | ⟨library, -, failed⟩
    · obtain ⟨fault, -, rfl⟩ := Outcome.mapError_eq_error.mp unknown
      rfl
    · rcases Outcome.bind_eq_error.mp failed with unbound | ⟨store, -, failed⟩
      · obtain ⟨fault, -, rfl⟩ := Outcome.mapError_eq_error.mp unbound
        rfl
      · contradiction

theorem document_of_unknown {request : Request} {fault : Library.UnknownLibrary}
    (loaded : Request.load h.disk h.environment s.file = .ok request)
    (unknown : Library.named request.library = .error fault) :
    h.document c s = .error (.library fault) := by
  rw [document, job, loaded, Outcome.mapError_ok, Outcome.ok_bind, unknown,
    Outcome.mapError_error, Outcome.error_bind, Outcome.error_bind]

theorem library_of_job {j : Job} (prepared : h.job c s = .ok j) : j.library = Content.library := by
  obtain ⟨request, -, prepared⟩ := Outcome.bind_eq_ok.mp prepared
  obtain ⟨library, found, prepared⟩ := Outcome.bind_eq_ok.mp prepared
  obtain ⟨store, -, prepared⟩ := Outcome.bind_eq_ok.mp prepared
  obtain rfl := Except.ok.inj prepared
  exact Library.eq_of_named (Outcome.mapError_eq_ok.mp found)

/-- No fault of the steps has a bracket in the name of its fragment. -/
theorem plain_of_document {stop : Stop} (failed : h.document c s = .error stop) :
    ∀ id, stop.fragment? = some id → '[' ∉ id.toList := by
  intro id blamed
  rcases Outcome.bind_eq_error.mp failed with early | ⟨j, prepared, late⟩
  · rw [fragment?_of_job early] at blamed
    contradiction
  · obtain ⟨fault, wrong, rfl⟩ := Outcome.mapError_eq_error.mp late
    obtain ⟨f, member, rfl⟩ := Library.exists_fragment_of_fault wrong blamed
    rw [library_of_job prepared] at member
    exact Content.ids_plain f member

theorem exists_texts {j : Job} {d : Document} (prepared : h.job c s = .ok j)
    (composed : (j.library.composeChosen j.store j.tier j.roles).result = .ok d) :
    (∃ text, d.emit = .ok text) ∧ ∃ text, j.library.explainDocument j.store d = .ok text := by
  have content := library_of_job prepared
  exact Library.exists_texts (content ▸ Content.library_isProper)
    (content ▸ Content.guards_areProper) composed

/-- Both commands compose first and then make something of the document. -/
theorem result_of_error {α : Type} {stop : Stop} (failed : h.document c s = .error stop)
    (finish : Job → Document → Traced LogRecord Stop α) :
    (Job.prepare h.disk h.environment c s >>= fun j => j.compose >>= finish j).result =
      .error stop := by
  rw [Traced.result_bind, prepare_result]
  rcases Outcome.bind_eq_error.mp failed with early | ⟨j, prepared, late⟩
  · rw [early, Outcome.error_bind]
  · rw [prepared, Outcome.ok_bind, Traced.result_bind, Job.compose_result, late,
      Outcome.error_bind]

theorem result_of_document {α : Type} {j : Job} {d : Document} (prepared : h.job c s = .ok j)
    (composed : (j.library.composeChosen j.store j.tier j.roles).result = .ok d)
    (finish : Job → Document → Traced LogRecord Stop α) :
    (Job.prepare h.disk h.environment c s >>= fun j => j.compose >>= finish j).result =
      (finish j d).result := by
  rw [Traced.result_bind, prepare_result, prepared, Outcome.ok_bind, Traced.result_bind,
    Job.compose_result, composed, Outcome.mapError_ok, Outcome.ok_bind]

/-! ### Tasks -/

theorem ofTraced_fails {α : Type} {stop : Stop} (failed : h.document c s = .error stop)
    (isPlain : stop.Plain) {run : Traced LogRecord Stop α} (result : run.result = .error stop)
    (done : α → Outcome) : (Outcome.ofTraced h.disk run done).Fails stop.exit h.disk := by
  rw [Outcome.ofTraced, result]
  exact (Stop.outcome_fails isPlain (plain_of_document failed) h.disk).withRecords run.notes

theorem compileTask_fails {stop : Stop} (failed : h.document c s = .error stop)
    (isPlain : stop.Plain) (output : Option String) :
    (compileTask h.disk h.environment c s output).Fails stop.exit h.disk :=
  ofTraced_fails failed isPlain (result_of_error failed _) _

theorem explainTask_fails {stop : Stop} (failed : h.document c s = .error stop)
    (isPlain : stop.Plain) :
    (explainTask h.disk h.environment c s).Fails stop.exit h.disk :=
  ofTraced_fails failed isPlain (result_of_error failed _) _

theorem compileTask_prints {d : Document} (made : h.document c s = .ok d) : ∃ text,
    d.emit = .ok text ∧ (compileTask h.disk h.environment c s none).exit = .success ∧
      (compileTask h.disk h.environment c s none).output = Console.echo text := by
  obtain ⟨j, prepared, composed⟩ := Outcome.bind_eq_ok.mp made
  have composed := Outcome.mapError_eq_ok.mp composed
  obtain ⟨⟨text, written⟩, -⟩ := exists_texts prepared composed
  have result : (Job.prepare h.disk h.environment c s >>= Job.compile).result =
      .ok (d, text) := by
    refine (result_of_document prepared composed _).trans ?_
    rw [Traced.result_bind, Traced.result_ofExcept, written]
    rfl
  refine ⟨text, written, ?_⟩
  rw [compileTask, Outcome.ofTraced, result]
  exact ⟨rfl, rfl⟩

theorem explainTask_succeeds {d : Document} (made : h.document c s = .ok d) :
    (explainTask h.disk h.environment c s).exit = .success := by
  obtain ⟨j, prepared, composed⟩ := Outcome.bind_eq_ok.mp made
  have composed := Outcome.mapError_eq_ok.mp composed
  obtain ⟨-, text, explained⟩ := exists_texts prepared composed
  have result : (Job.prepare h.disk h.environment c s >>= Job.explain).result = .ok text := by
    refine (result_of_document prepared composed _).trans ?_
    rw [Traced.result_ofExcept, explained]
    rfl
  rw [explainTask, Outcome.ofTraced, result]
  rfl

/-! ### Command lines -/

/-- With some options in front, every command is performed under one configuration. -/
def Configures (h : Host) (front : List String) (c : Config) : Prop :=
  ∃ options, h.configure options = .ok c ∧ ∀ name command given,
    CommandName.ofName? name = some command →
      RootRequest.ofArguments? h.disk (front ++ name :: given) =
        some (.command options command given)

/-- One command line is enough to see that. -/
theorem configures_of_command {front given : List String} {name : String} {options : RootOptions}
    {command : CommandName} (loaded : h.configure options = .ok c)
    (asked : RootRequest.ofArguments? h.disk (front ++ name :: given) =
      some (.command options command given)) : h.Configures front c :=
  ⟨options, loaded, fun _ _ others known =>
    RootRequest.ofArguments?_behind asked known others⟩

theorem run_of_configures {front given : List String} {name : String} {command : CommandName}
    {task : Task} (configured : h.Configures front c)
    (known : CommandName.ofName? name = some command)
    (asked : Task.ofCommand? h.disk command given = some task) :
    (h.run (front ++ name :: given)).2 = h.perform c task := by
  obtain ⟨options, loaded, told⟩ := configured
  rw [run, told name command given known]
  dsimp only
  rw [loaded]
  dsimp only
  rw [asked]

/-- Compiling refines the steps of the library, whatever the configuration and the arguments. If
one of them fails with a fault of the program's own, the command ends with the code of the fault,
prints no output and leaves all files as they are. Otherwise it prints the text of the document,
which arrives as it is exactly if there is no escape sequence in it. Explaining with the same
arguments has the same code. -/
theorem compile_refines {front : List String} (configured : h.Configures front c)
    (isPlain : ∀ stop, h.document c s = .error stop → stop.Plain) :
    (∀ given output, Task.compile? h.disk given = some (.compile s output) →
      let o := (h.run (front ++ "compile" :: given)).2
      (∀ stop, h.document c s = .error stop → o.Fails stop.exit h.disk) ∧
      (output = none → ∀ d, h.document c s = .ok d → ∃ text, d.emit = .ok text ∧
        o.exit = .success ∧ o.output = Console.echo text ∧
        (o.output = text ↔ ¬Console.HoldsSequence text.toList))) ∧
    ∀ given, Task.explain? h.disk given = some (.explain s) →
      (h.run (front ++ "explain" :: given)).2.exit =
        (h.run (front ++ "compile" :: given)).2.exit := by
  have compile : CommandName.ofName? "compile" = some .compile := by rfl
  have explain : CommandName.ofName? "explain" = some .explain := by rfl
  refine ⟨fun given output asked => ?_, fun given asked => ?_⟩
  · rw [run_of_configures configured compile asked]
    refine ⟨fun stop failed => compileTask_fails failed (isPlain stop failed) output, ?_⟩
    rintro rfl d made
    obtain ⟨text, written, exit, output⟩ := compileTask_prints made
    refine ⟨text, written, exit, output, ?_⟩
    rw [← Console.echo_eq_self_iff, ← output]
    rfl
  · rw [run_of_configures configured explain asked,
      run_of_configures configured compile (Task.compile?_of_explain? asked)]
    cases made : h.document c s with
    | error stop =>
      exact (explainTask_fails made (isPlain stop made)).exit.trans
        (compileTask_fails made (isPlain stop made) none).exit.symm
    | ok d =>
      obtain ⟨text, -, exit, -⟩ := compileTask_prints made
      exact (explainTask_succeeds made).trans exit.symm

/-- The parameters that no policy does without, given the path of the application as a file
has it. -/
def sampleParameters (path : String) : String :=
  "parameters:\n  MAC_OS_VERSION: 1013\n  HOME_PATH: /a\n  APP_PATH: " ++ path ++ "\n"

/-- Three parameter files and an old document. One path has an escape sequence in it. -/
def sampleHost : Host where
  disk :=
    { tree :=
        [("plain.yaml", sampleParameters "/b"),
          ("bold.yaml", sampleParameters "\"/\\e[mb\""),
          ("other.yaml", "library: other\n"), ("out.sb", "(version 1)\n")].map
          fun (name, content) => ([name], .file content.toUTF8.toList Files.newFileMode)
      current := []
      refuses := fun _ _ => false }
  environment := []
  runtime := ""
  system := ""
  machine := ""
  release := ""

theorem sampleHost_configures : sampleHost.Configures [] {} := by
  have loaded : sampleHost.configure ⟨none, none⟩ = .ok {} := by decide +kernel
  have asked : RootRequest.ofArguments? sampleHost.disk ([] ++ ["version"]) =
      some (.command ⟨none, none⟩ .version []) := by decide +kernel
  exact configures_of_command loaded asked

/-- A file without tier and roles, compiled for no tier; and a file for a library that does not
exist, which leaves the old document alone. -/
theorem compile_refines_sample :
    let plain : Selection := ⟨"plain.yaml", some none, []⟩
    let other : Selection := ⟨"other.yaml", none, []⟩
    (∃ d text, sampleHost.document {} plain = .ok d ∧ d.tier = none ∧ d.emit = .ok text ∧
      (sampleHost.run ("compile" :: plain.arguments)).2.exit = .success ∧
      (sampleHost.run ("compile" :: plain.arguments)).2.output = Console.echo text) ∧
    (sampleHost.run ("explain" :: plain.arguments)).2.exit = .success ∧
    (sampleHost.run ["compile", "-o", "out.sb", "other.yaml"]).2.Fails .config sampleHost.disk ∧
    (sampleHost.run ("explain" :: other.arguments)).2.exit = .config := by
  intro plain other
  have composes : (sampleHost.document {} plain).toOption.any (·.tier.isNone) = true := by
    decide +kernel
  obtain ⟨d, made, noTier⟩ := (Option.any_eq_true _ _).mp composes
  have made := Outcome.eq_ok_of_toOption made
  have names : (Request.load sampleHost.disk sampleHost.environment "other.yaml").toOption.any
      (·.library == "other") = true := by decide +kernel
  obtain ⟨request, loaded, name⟩ := (Option.any_eq_true _ _).mp names
  have unknown : Library.named request.library = .error ⟨"other"⟩ := by
    rw [beq_iff_eq.mp name]
    rfl
  have refused : sampleHost.document {} other = .error (.library ⟨"other"⟩) :=
    document_of_unknown (Outcome.eq_ok_of_toOption loaded) unknown
  have told : (Stop.library ⟨"other"⟩).Plain :=
    ⟨rfl, Library.UnknownLibrary.tagless (by decide)⟩
  have asksPlain : Task.explain? sampleHost.disk plain.arguments = some (.explain plain) :=
    plain.explain?_arguments (by decide +kernel)
  have asksOther : Task.explain? sampleHost.disk other.arguments = some (.explain other) :=
    other.explain?_arguments (by decide +kernel)
  have asksOutput : Task.compile? sampleHost.disk ["-o", "out.sb", "other.yaml"] =
      some (.compile other (some "out.sb")) := by decide +kernel
  have fine : ∀ stop, sampleHost.document {} plain = .error stop → stop.Plain := by
    intro stop failed
    rw [made] at failed
    contradiction
  have reported : ∀ stop, sampleHost.document {} other = .error stop → stop.Plain := by
    intro stop failed
    rw [refused] at failed
    exact Except.error.inj failed ▸ told
  obtain ⟨compiles, explains⟩ := compile_refines sampleHost_configures fine
  obtain ⟨refuses, agrees⟩ := compile_refines sampleHost_configures reported
  obtain ⟨text, written, exit, output, -⟩ :=
    (compiles _ none (Task.compile?_of_explain? asksPlain)).2 rfl d made
  have fails := (refuses _ _ asksOutput).1 _ refused
  have failsPlainly := (refuses _ _ (Task.compile?_of_explain? asksOther)).1 _ refused
  simp only [List.nil_append] at exit output fails failsPlainly explains agrees
  exact ⟨⟨d, text, made, Option.isNone_iff_eq_none.mp noTier, written, exit, output⟩,
    (explains _ asksPlain).trans exit, fails, (agrees _ asksOther).trans failsPlainly.exit⟩

/-- It is not so that the text of the document is what is printed, although the code is that of
success. -/
theorem compile_not_exact :
    ∃ d text, sampleHost.document {} ⟨"bold.yaml", none, []⟩ = .ok d ∧ d.emit = .ok text ∧
      (sampleHost.run ["compile", "bold.yaml"]).2.exit = .success ∧
      (sampleHost.run ["compile", "bold.yaml"]).2.output ≠ text := by
  have bold : (sampleHost.document {} ⟨"bold.yaml", none, []⟩).toOption.any (fun d =>
      (d.statements.find? (·.operations == ["file-map-executable", "file-read*"])).any fun a =>
        (a.render 0).toOption.any fun line =>
          decide (['\x1b', '[', 'm'] <:+: line.toList)) = true := by decide +kernel
  obtain ⟨d, made, bold⟩ := (Option.any_eq_true _ _).mp bold
  obtain ⟨a, found, bold⟩ := (Option.any_eq_true _ _).mp bold
  obtain ⟨line, shown, bold⟩ := (Option.any_eq_true _ _).mp bold
  have made := Outcome.eq_ok_of_toOption made
  obtain ⟨text, written, exit, output⟩ := compileTask_prints made
  have inside := Document.infix_emit written (List.mem_of_find?_eq_some found)
    (Outcome.eq_ok_of_toOption shown)
  have holds : Console.HoldsSequence text.toList :=
    ⟨_, ⟨[], 'm', rfl, by simp, by decide⟩, (of_decide_eq_true bold).trans inside⟩
  have compile : CommandName.ofName? "compile" = some .compile := by rfl
  have asked : Task.compile? sampleHost.disk ["bold.yaml"] =
      some (.compile ⟨"bold.yaml", none, []⟩ none) := by decide +kernel
  have run := run_of_configures sampleHost_configures compile asked
  refine ⟨d, text, made, written, ?_, ?_⟩
  · exact (congrArg Outcome.exit run).trans exit
  · intro same
    exact Console.echo_eq_self_iff.mp (output.symm.trans ((congrArg Outcome.output run).symm.trans same)) holds

end Host
end SandboxProfile
