import SandboxProfile.Command.Task

/-! Arguments that are read as before when others change. A command with one more option reads
what it read without it, and the options in front of a command do not depend on the command. -/
namespace SandboxProfile

/-- How arguments are read, one after the other. -/
inductive Arguments.Reads (specs : List OptionSpec) (optionsFirst : Bool) :
    List String → Arguments → Prop where
  | nothing : Reads specs optionsFirst [] ⟨[], []⟩
  | stop (rest : List String) : Reads specs optionsFirst ("--" :: rest) ⟨[], rest⟩
  | options {arg rest options a} : arg ≠ "--" → isOption arg = true →
      Given.ofArgument? specs arg = some ⟨options, none⟩ → Reads specs optionsFirst rest a →
      Reads specs optionsFirst (arg :: rest) (a.withOptions options)
  | valued {arg v rest options key a} : arg ≠ "--" → isOption arg = true →
      Given.ofArgument? specs arg = some ⟨options, some key⟩ → Reads specs optionsFirst rest a →
      Reads specs optionsFirst (arg :: v :: rest) (a.withOptions (options ++ [(key, v)]))
  | command {arg} (rest : List String) : arg ≠ "--" → isOption arg = false → optionsFirst = true →
      Reads specs optionsFirst (arg :: rest) ⟨[], arg :: rest⟩
  | operand {arg rest a} : arg ≠ "--" → isOption arg = false → optionsFirst = false →
      Reads specs optionsFirst rest a →
      Reads specs optionsFirst (arg :: rest) { a with operands := arg :: a.operands }

namespace Arguments
variable {specs : List OptionSpec} {optionsFirst : Bool} {args : List String} {a : Arguments}

theorem parse?_eq_some_iff :
    parse? specs optionsFirst args = some a ↔ Reads specs optionsFirst args a := by
  constructor
  · intro read
    fun_induction parse? specs optionsFirst args generalizing a with
    | case1 =>
      obtain rfl := Option.some.inj read
      exact .nothing
    | case2 rest =>
      obtain rfl := Option.some.inj read
      exact .stop rest
    | case3 => cases read
    | case4 arg rest other option options given ih =>
      obtain ⟨b, later, rfl⟩ := Option.map_eq_some_iff.mp read
      exact .options other option given (ih later)
    | case5 => cases read
    | case6 arg other option options key given v rest ih =>
      obtain ⟨b, later, rfl⟩ := Option.map_eq_some_iff.mp read
      exact .valued other option given (ih later)
    | case7 arg rest other plain first =>
      obtain rfl := Option.some.inj read
      exact .command rest other (Bool.not_eq_true _ ▸ plain) first
    | case8 arg rest other plain first ih =>
      obtain ⟨b, later, rfl⟩ := Option.map_eq_some_iff.mp read
      exact .operand other (Bool.not_eq_true _ ▸ plain) (Bool.not_eq_true _ ▸ first) (ih later)
  · intro reads
    induction reads with
    | nothing => rfl
    | stop rest => simp [parse?]
    | options other option given _ ih => simp [parse?, other, option, given, ih]
    | valued other option given _ ih => simp [parse?, other, option, given, ih]
    | command rest other plain first => simp [parse?, other, plain, first]
    | operand other plain first _ ih =>
      subst first
      simp [parse?, other, plain, ih]

end Arguments

/-! ### One more option -/

namespace OptionSpec
variable {specs : List OptionSpec} {extra : OptionSpec} {name : String}

/-- No name of an option is taken, and the long ones start with two dashes. -/
structure Fresh (specs : List OptionSpec) (extra : OptionSpec) : Prop where
  free : ∀ name ∈ extra.names, find? specs name = none
  dashed : ∀ name ∈ extra.names,
    Given.isShort name = true ∨ ['-', '-'].isPrefixOf name.toList = true

theorem find?_cons (fresh : Fresh specs extra) {o : OptionSpec} (found : find? specs name = some o) :
    find? (extra :: specs) name = some o := by
  have other : extra.names.contains name = false := by
    rw [List.contains_eq_mem, decide_eq_false_iff_not]
    intro member
    rw [fresh.free name member] at found
    contradiction
  rwa [find?, List.find?_cons_of_neg (by rw [other]; exact Bool.false_ne_true)]

theorem find?_cons_of_none (missing : find? specs name = none) (other : name ∉ extra.names) :
    find? (extra :: specs) name = none := by
  have untold : extra.names.contains name = false := by simpa using other
  rwa [find?, List.find?_cons_of_neg (by rw [untold]; exact Bool.false_ne_true)]

end OptionSpec

namespace Given
variable {specs : List OptionSpec} {extra : OptionSpec}

theorem short?_cons (fresh : OptionSpec.Fresh specs extra) {cs : List Char} {g : Given}
    (given : short? specs cs = some g) : short? (extra :: specs) cs = some g := by
  induction cs generalizing g with
  | nil => exact given
  | cons c rest ih =>
    rw [short?] at given ⊢
    cases found : OptionSpec.find? specs (String.ofList ['-', c]) with
    | none =>
      rw [found] at given
      contradiction
    | some spec =>
      rw [found] at given
      rw [OptionSpec.find?_cons fresh found]
      dsimp only at given ⊢
      split
      · next valued => rwa [if_pos valued] at given
      · next plain =>
        rw [if_neg plain] at given
        obtain ⟨later, read, rfl⟩ := Option.map_eq_some_iff.mp given
        rw [ih read, Option.map_some]

theorem ofArgument?_cons (fresh : OptionSpec.Fresh specs extra) {arg : String} {g : Given}
    (given : ofArgument? specs arg = some g) : ofArgument? (extra :: specs) arg = some g := by
  unfold ofArgument? at given ⊢
  dsimp only at given ⊢
  have front : arg.toList.takeWhile (· ≠ '=') <+: arg.toList := List.takeWhile_prefix _
  generalize named : String.ofList (arg.toList.takeWhile (· ≠ '=')) = name at given ⊢
  have chars : name.toList <+: arg.toList := by rwa [← named, String.toList_ofList]
  have letters (given : (if ['-', '-'].isPrefixOf arg.toList then none
      else short? specs (arg.toList.drop 1)) = some g) :
      (if ['-', '-'].isPrefixOf arg.toList then none
      else short? (extra :: specs) (arg.toList.drop 1)) = some g := by
    obtain ⟨single, read⟩ := Option.ite_none_left_eq_some.mp given
    rw [if_neg single, short?_cons fresh read]
  by_cases short : isShort name = true
  · rw [if_pos short] at given ⊢
    exact letters given
  · rw [if_neg short] at given ⊢
    cases found : OptionSpec.find? specs name with
    | some spec =>
      rw [found] at given
      rwa [OptionSpec.find?_cons fresh found]
    | none =>
      rw [found] at given
      have other : name ∉ extra.names := by
        intro member
        have dashed := (fresh.dashed name member).resolve_left short
        have double : ['-', '-'].isPrefixOf arg.toList = true := by
          rw [List.isPrefixOf_iff_prefix] at dashed ⊢
          exact dashed.trans chars
        exact (Option.ite_none_left_eq_some.mp given).1 double
      rw [OptionSpec.find?_cons_of_none found other]
      exact letters given

end Given

namespace Arguments
variable {specs : List OptionSpec} {extra : OptionSpec} {optionsFirst : Bool} {args : List String}
  {a : Arguments}

theorem Reads.cons (fresh : OptionSpec.Fresh specs extra) (reads : Reads specs optionsFirst args a) :
    Reads (extra :: specs) optionsFirst args a := by
  induction reads with
  | nothing => exact .nothing
  | stop rest => exact .stop rest
  | options other option given _ ih =>
    exact .options other option (Given.ofArgument?_cons fresh given) ih
  | valued other option given _ ih =>
    exact .valued other option (Given.ofArgument?_cons fresh given) ih
  | command rest other plain first => exact .command rest other plain first
  | operand other plain first _ ih => exact .operand other plain first ih

end Arguments

/-! ### Options that were not given -/

theorem OptionSpec.key_of_find? {specs : List OptionSpec} {name : String} {spec : OptionSpec}
    (found : find? specs name = some spec) : spec.key ∈ specs.map key :=
  List.mem_map_of_mem (List.mem_of_find?_eq_some found)

namespace Given
variable {specs : List OptionSpec}

/-- Every option that an argument gives is one of those that can be given. -/
structure Known (specs : List OptionSpec) (g : Given) : Prop where
  options : ∀ entry ∈ g.options, entry.1 ∈ specs.map OptionSpec.key
  pending : ∀ key, g.pending = some key → key ∈ specs.map OptionSpec.key

theorem known_of_long? {spec : OptionSpec} (known : spec.key ∈ specs.map OptionSpec.key)
    {value : Option String} {g : Given} (given : long? spec value = some g) : Known specs g := by
  unfold long? at given
  split at given
  · obtain rfl := Option.some.inj given
    exact ⟨by simpa using known, by simp⟩
  · obtain rfl := Option.some.inj given
    exact ⟨by simp, by simpa using known⟩
  · contradiction
  · obtain rfl := Option.some.inj given
    exact ⟨by simpa using known, by simp⟩

theorem known_of_short? {cs : List Char} {g : Given} (given : short? specs cs = some g) :
    Known specs g := by
  induction cs generalizing g with
  | nil =>
    obtain rfl := Option.some.inj given
    exact ⟨by simp, by simp⟩
  | cons c rest ih =>
    rw [short?] at given
    split at given
    · contradiction
    · next spec found =>
      have known := OptionSpec.key_of_find? found
      split at given
      · obtain rfl := Option.some.inj given
        split
        · exact ⟨by simp, by simpa using known⟩
        · exact ⟨by simpa using known, by simp⟩
      · obtain ⟨later, read, rfl⟩ := Option.map_eq_some_iff.mp given
        exact ⟨List.forall_mem_cons.mpr ⟨known, (ih read).options⟩, (ih read).pending⟩

theorem known_of_ofArgument? {arg : String} {g : Given} (given : ofArgument? specs arg = some g) :
    Known specs g := by
  unfold ofArgument? at given
  dsimp only at given
  split at given
  · next spec found =>
    split at found
    · contradiction
    · exact known_of_long? (OptionSpec.key_of_find? found) given
  · exact known_of_short? (Option.ite_none_left_eq_some.mp given).2

end Given

namespace Arguments
variable {specs : List OptionSpec} {optionsFirst : Bool} {args : List String} {a : Arguments}

theorem Reads.known (reads : Reads specs optionsFirst args a) :
    ∀ entry ∈ a.options, entry.1 ∈ specs.map OptionSpec.key := by
  induction reads with
  | nothing | stop | command => simp
  | options _ _ given _ ih =>
    exact List.forall_mem_append.mpr ⟨(Given.known_of_ofArgument? given).options, ih⟩
  | valued _ _ given _ ih =>
    have known := Given.known_of_ofArgument? given
    exact List.forall_mem_append.mpr ⟨List.forall_mem_append.mpr
      ⟨known.options, List.forall_mem_singleton.mpr (known.pending _ rfl)⟩, ih⟩
  | operand _ _ _ _ ih => exact ih

theorem Reads.value?_eq_none (reads : Reads specs optionsFirst args a) {option : String}
    (unknown : option ∉ specs.map OptionSpec.key) : a.value? option = none := by
  have absent : a.values option = [] := by
    rw [values, List.map_eq_nil_iff, List.filter_eq_nil_iff]
    intro entry member same
    have known := reads.known entry member
    rw [beq_iff_eq.mp same] at known
    exact unknown known
  rw [value?, absent, List.getLast?_nil]

/-! ### Options in front of a command -/

theorem Reads.operands_suffix (reads : Reads specs true args a) : a.operands <:+ args := by
  induction reads with
  | nothing => exact List.suffix_rfl
  | stop rest => exact List.suffix_cons "--" rest
  | options _ _ _ _ ih => exact ih.trans (List.suffix_cons _ _)
  | valued _ _ _ _ ih => exact (ih.trans (List.suffix_cons _ _)).trans (List.suffix_cons _ _)
  | command => exact List.suffix_rfl
  | operand _ _ last => contradiction

/-- Another command behind the same options. What is left of the arguments tells where the
options end: it is no longer than what stands behind them. -/
theorem Reads.behind {front rest : List String} {name : String}
    (reads : Reads specs true (front ++ name :: rest) a) (ends : a.operands = name :: rest)
    {other : String} (proper : other ≠ "--") (plain : isOption other = false)
    (rest' : List String) :
    Reads specs true (front ++ other :: rest') ⟨a.options, other :: rest'⟩ := by
  generalize whole : front ++ name :: rest = args at reads
  have short {b : Arguments} {rest₀ : List String} (later : Reads specs true rest₀ b)
      (same : b.operands = name :: rest) : rest.length < rest₀.length := by
    have shorter := later.operands_suffix.length_le
    rw [same, List.length_cons] at shorter
    exact shorter
  induction reads generalizing front with
  | nothing => simp at whole
  | stop after =>
    obtain rfl : after = name :: rest := ends
    obtain rfl : front = ["--"] := List.append_cancel_right whole
    exact .stop _
  | @options arg after given b proper' option read later ih =>
    cases front with
    | nil =>
      obtain ⟨rfl, rfl⟩ := List.cons_eq_cons.mp whole
      exact absurd (short later ends) (Nat.lt_irrefl _)
    | cons first front =>
      obtain ⟨rfl, same⟩ := List.cons_eq_cons.mp whole
      exact .options proper' option read (ih ends same)
  | @valued arg v after given key b proper' option read later ih =>
    cases front with
    | nil =>
      obtain ⟨rfl, rfl⟩ := List.cons_eq_cons.mp whole
      have shorter := short later ends
      rw [List.length_cons] at shorter
      omega
    | cons first front =>
      obtain ⟨rfl, same⟩ := List.cons_eq_cons.mp whole
      cases front with
      | nil =>
        obtain ⟨rfl, rfl⟩ := List.cons_eq_cons.mp same
        exact absurd (short later ends) (Nat.lt_irrefl _)
      | cons second front =>
        obtain ⟨rfl, behind⟩ := List.cons_eq_cons.mp same
        exact .valued proper' option read (ih ends behind)
  | @command arg after =>
    obtain ⟨rfl, rfl⟩ := List.cons_eq_cons.mp ends
    obtain rfl : front = [] := List.append_cancel_right (whole.trans (List.nil_append _).symm)
    exact .command rest' proper plain rfl
  | operand _ _ last => contradiction

end Arguments

/-! ### Command lines -/

theorem CommandName.plain_of_ofName? {name : String} {command : CommandName}
    (known : ofName? name = some command) :
    name ≠ "--" ∧ Arguments.isOption name = false := by
  have plain : ∀ entry ∈ CommandName.all,
      entry.1 ≠ "--" ∧ Arguments.isOption entry.1 = false := by decide +kernel
  obtain ⟨front, back, listed, -⟩ := List.lookup_eq_some_iff.mp known
  exact plain (name, command) (listed ▸ List.mem_append_right front List.mem_cons_self)

open Files (Disk)

/-- The options in front of a command mean the same for every command. -/
theorem RootRequest.ofArguments?_behind {d : Disk} {front rest : List String}
    {name other : String} {options : RootOptions} {command another : CommandName}
    (asked : ofArguments? d (front ++ name :: rest) = some (.command options command rest))
    (known : CommandName.ofName? other = some another) (rest' : List String) :
    ofArguments? d (front ++ other :: rest') = some (.command options another rest') := by
  obtain ⟨proper, plain⟩ := CommandName.plain_of_ofName? known
  obtain ⟨a, read, asked⟩ := Option.bind_eq_some_iff.mp asked
  have reads := Arguments.parse?_eq_some_iff.mp read
  rw [if_neg (by simp)] at asked
  split at asked
  · simp at asked
  · next version =>
    split at asked
    · simp at asked
    · next help =>
      dsimp only at asked
      split at asked
      · next name' after operands =>
        obtain ⟨allowed, asked⟩ := Option.ite_none_right_eq_some.mp asked
        obtain ⟨command', -, same⟩ := Option.map_eq_some_iff.mp asked
        obtain ⟨rfl, rfl, rfl⟩ := RootRequest.command.inj same
        have ends : a.operands = name :: after := by
          have suffix := reads.operands_suffix
          rw [operands] at suffix ⊢
          have both := List.suffix_of_suffix_length_le suffix (List.suffix_append front _)
            (Nat.le_of_eq rfl)
          exact both.eq_of_length rfl
        have again := Arguments.parse?_eq_some_iff.mpr (reads.behind ends proper plain rest')
        have has (option : String) :
            Arguments.has ⟨a.options, other :: rest'⟩ option = a.has option := rfl
        have value (option : String) :
            Arguments.value? ⟨a.options, other :: rest'⟩ option = a.value? option := rfl
        rw [ofArguments?, again]
        simp [has, value, version, help, allowed, known]
      · contradiction

namespace Task
variable {d : Disk} {given : List String} {s : Selection}

theorem compile?_of_explain? (selects : explain? d given = some (.explain s)) :
    compile? d given = some (.compile s none) := by
  obtain ⟨a, read, found⟩ := Option.bind_eq_some_iff.mp selects
  have reads := Arguments.parse?_eq_some_iff.mp read
  have fresh : OptionSpec.Fresh selectionSpecs (valued ["--output", "-o"]) := by
    constructor <;> decide +kernel
  split at found
  · simp at found
  · next help =>
    obtain ⟨s', selected, same⟩ := Option.map_eq_some_iff.mp found
    obtain rfl : s' = s := by simpa using same
    have more := Arguments.parse?_eq_some_iff.mpr (reads.cons fresh)
    have unsaid : a.value? "--output" = none := reads.value?_eq_none (by decide +kernel)
    rw [compile?, ofArguments, more, Option.bind_some, if_neg help]
    simp [selected, unsaid, nonEmpty]

end Task

/-! ### Arguments for a selection -/

namespace Selection

def options (s : Selection) : List (String × String) :=
  s.tier.toList.map (fun t => ("--tier", (t.elim 0 Tier.toNat).repr)) ++
    s.roles.map (("--role", ·))

/-- Arguments that say all that is in a selection. -/
def arguments (s : Selection) : List String :=
  s.options.flatMap (fun (name, value) => [name, value]) ++ ["--", s.file]

theorem reads_options {options : List (String × String)} (rest : List String)
    (known : ∀ entry ∈ options, entry.1 = "--tier" ∨ entry.1 = "--role") :
    Arguments.Reads Task.selectionSpecs false
      (options.flatMap (fun (name, value) => [name, value]) ++ "--" :: rest) ⟨options, rest⟩ := by
  induction options with
  | nil => exact .stop rest
  | cons entry others ih =>
    obtain ⟨name, value⟩ := entry
    obtain ⟨here, later⟩ := List.forall_mem_cons.mp known
    have name_ne : name ≠ "--" := by rcases here with rfl | rfl <;> decide
    have dashed : Arguments.isOption name = true := by
      rcases here with rfl | rfl <;> decide +kernel
    have given : Given.ofArgument? Task.selectionSpecs name = some ⟨[], some name⟩ := by
      rcases here with rfl | rfl <;> rfl
    exact .valued name_ne dashed given (ih later)

theorem tier?_repr (t : Option Tier) : Task.tier? (t.elim 0 Tier.toNat).repr = some t := by
  rcases t with _ | _ | _ | _ <;> rfl

/-- Every selection of a file that is there can be asked for. -/
theorem explain?_arguments {d : Disk} (s : Selection)
    (there : Task.mayBeFile d true s.file = true) :
    Task.explain? d s.arguments = some (.explain s) := by
  have known : ∀ entry ∈ s.options, entry.1 = "--tier" ∨ entry.1 = "--role" := by
    rw [options, List.forall_mem_append]
    constructor
    · exact List.forall_mem_map.mpr fun t _ => .inl rfl
    · exact List.forall_mem_map.mpr fun role _ => .inr rfl
  have reads := reads_options [s.file] known
  have noTiers : (s.roles.map (("--role", ·))).filter (·.1 == "--tier") = [] := by
    simp [List.filter_eq_nil_iff]
  have allRoles : (s.roles.map (("--role", ·))).filter (·.1 == "--role") =
      s.roles.map (("--role", ·)) := by
    simp [List.filter_eq_self]
  have tier : Task.valueAs? Task.tier? (Arguments.value? ⟨s.options, [s.file]⟩ "--tier") =
      some s.tier := by
    rw [Arguments.value?, Arguments.values, options, List.filter_append, noTiers]
    cases s.tier with
    | none => rfl
    | some t => exact congrArg (Option.map some) (tier?_repr t)
  have roles : Arguments.values ⟨s.options, [s.file]⟩ "--role" = s.roles := by
    rw [Arguments.values, options, List.filter_append, allRoles]
    cases s.tier <;> simp [Function.comp_def]
  have help : Arguments.has ⟨s.options, [s.file]⟩ "--help" = false := by
    rw [Arguments.has, List.any_eq_false]
    intro entry member
    rcases known entry member with same | same <;> rw [same] <;> decide
  rw [Task.explain?, Task.ofArguments, arguments, Arguments.parse?_eq_some_iff.mpr reads]
  simp [help, Task.selection?, there, tier, roles]

end Selection
end SandboxProfile
