import Mathlib.Data.List.Nodup
import SandboxProfile.Content.Library
import SandboxProfile.Proofs.Policy.Alike
import SandboxProfile.Proofs.Policy.Forecast
import SandboxProfile.Proofs.Policy.Repetition

/-! When the content library can be composed. From a store that was built with the
content catalogue only six things can go wrong, and they count in the order in which the
fragments come upon them. -/
namespace SandboxProfile.Content

def knownRoles : List String := [defaultRole, "file", "audio"]

/-- The id of the fragment that a role adds. -/
def addendumId (role : String) : String := role ++ "-addendum"

/-- Whether the profile is said to be protected. -/
def protectsProfile (s : Store) : Bool :=
  (s.find? hasSandboxedProfile).any (·.setting == some (.flag true))

def hasProfile (s : Store) : Bool := (s.find? profileDir).any (·.isSet)

/-- The fault of the first fragment that refers to a name, if the name is not bound. -/
def unboundIn (s : Store) (id name : String) : Option ComposeFault :=
  if s.isBound name then none else some (.inFragment id (.parameter (.notBound name)))

/-- The fault of a protected profile without a directory. -/
def profileMissing (s : Store) : Option ComposeFault :=
  if protectsProfile s && !hasProfile s then
    some (.inFragment "profile-extensions" (.requiredUnset profileDir))
  else none

/-- The fault of the first role that is requested again and has a fragment. -/
def roleRepeated (roles : List String) : Option ComposeFault :=
  (firstRepeated [] (roles.filter (· ≠ defaultRole))).map fun role =>
    .duplicateFragment (addendumId role)

/-- What the fragments miss, in the order of the fragments. -/
def missed (s : Store) (roles : List String) : List (Option ComposeFault) :=
  [unboundIn s "extra-denies" versionParameter, unboundIn s "system-paths" appPath,
    unboundIn s "global-preferences" homePath, profileMissing s, roleRepeated roles]

/-- The first thing that is wrong with a composition, if anything is. -/
def firstFault (s : Store) (roles : List String) : Option ComposeFault :=
  leftmost ((roles.find? (· ∉ knownRoles)).map .unknownRole :: missed s roles)

/-- What a composition needs of a store and of the roles. -/
structure Composable (s : Store) (roles : List String) : Prop where
  known : ∀ role ∈ roles, role = defaultRole ∨ role = "file" ∨ role = "audio"
  version : s.isBound versionParameter = true
  app : s.isBound appPath = true
  home : s.isBound homePath = true
  profile : protectsProfile s = true → hasProfile s = true
  file : roles.count "file" ≤ 1
  audio : roles.count "audio" ≤ 1

theorem addendum?_isSome_iff {role : String} :
    (library.addendum? role).isSome = true ↔ role ∈ knownRoles := by
  rw [Sections.addendum?, List.lookup_isSome_iff]
  simp [library, sections, knownRoles]

theorem isNone_addendum?_eq :
    (fun role => (library.addendum? role).isNone) = fun role => decide (role ∉ knownRoles) := by
  funext role
  rw [Bool.eq_iff_iff, decide_eq_true_iff, ← addendum?_isSome_iff]
  simp

theorem unboundIn_eq_none_iff {s : Store} {id name : String} :
    unboundIn s id name = none ↔ s.isBound name = true := by
  simp [unboundIn]

theorem profileMissing_eq_none_iff {s : Store} :
    profileMissing s = none ↔ (protectsProfile s = true → hasProfile s = true) := by
  simp [profileMissing]

theorem roleRepeated_eq_none_iff {roles : List String} (known : ∀ role ∈ roles, role ∈ knownRoles) :
    roleRepeated roles = none ↔ roles.count "file" ≤ 1 ∧ roles.count "audio" ≤ 1 := by
  rw [roleRepeated, Option.map_eq_none_iff, firstRepeated_eq_none_iff, List.nodup_iff_count_le_one]
  simp only [List.not_mem_nil, not_false_eq_true, implies_true, and_true]
  constructor
  · intro single
    have file := single "file"
    have audio := single "audio"
    rw [List.count_filter (by decide)] at file audio
    exact ⟨file, audio⟩
  · rintro ⟨file, audio⟩ role
    by_cases member : role ∈ roles.filter (· ≠ defaultRole)
    · obtain ⟨requested, special⟩ := List.mem_filter.mp member
      have counted : (roles.filter (· ≠ defaultRole)).count role = roles.count role :=
        List.count_filter special
      rw [counted]
      have other : role ≠ defaultRole := by simpa using special
      rcases List.mem_cons.mp (known role requested) with rfl | rest
      · contradiction
      · rcases List.mem_cons.mp rest with rfl | rest
        · exact file
        · rwa [List.mem_singleton.mp rest]
    · rw [List.count_eq_zero_of_not_mem member]
      exact Nat.zero_le 1

/-- Nothing is wrong exactly if the composition is possible. -/
theorem firstFault_eq_none_iff {s : Store} {roles : List String} :
    firstFault s roles = none ↔ Composable s roles := by
  have parts : firstFault s roles = none ↔ (∀ role ∈ roles, role ∈ knownRoles) ∧
      s.isBound versionParameter = true ∧ s.isBound appPath = true ∧ s.isBound homePath = true ∧
      (protectsProfile s = true → hasProfile s = true) ∧ roleRepeated roles = none := by
    simp [firstFault, missed, leftmost_eq_none_iff, unboundIn_eq_none_iff,
      profileMissing_eq_none_iff, List.find?_eq_none]
  rw [parts]
  have listed (role : String) :
      role ∈ knownRoles ↔ role = defaultRole ∨ role = "file" ∨ role = "audio" := by
    simp [knownRoles]
  constructor
  · rintro ⟨known, version, app, home, profile, once⟩
    obtain ⟨file, audio⟩ := (roleRepeated_eq_none_iff known).mp once
    exact ⟨fun role requested => (listed role).mp (known role requested), version, app, home,
      profile, file, audio⟩
  · rintro ⟨known, version, app, home, profile, file, audio⟩
    have known' : ∀ role ∈ roles, role ∈ knownRoles := fun role requested =>
      (listed role).mpr (known role requested)
    exact ⟨known', version, app, home, profile, (roleRepeated_eq_none_iff known').mpr ⟨file, audio⟩⟩

/-! What can be told of the fragments before a store is built. -/

/-- The outlook on all stores that can be built. -/
def bareOutlook : Outlook := .ofCatalogue contentParameters [] false

/-- The outlook on stores that bind the given names and know their primitives. -/
def outlook (bound : List String) : Outlook := .ofCatalogue contentParameters bound true

/-- The outlook on stores that bind all that must be supplied. -/
def fullOutlook : Outlook := outlook [versionParameter, appPath, homePath]

/-- The base and what a tier adds to it. -/
def layered (tier : Option Tier) : List Fragment :=
  base ++ (Tier.levels tier).flatMap fun t => (library.tier? t).getD []

/-- What the roles add. -/
def addenda (roles : List String) : List Fragment :=
  roles.flatMap fun role => (library.addendum? role).getD []

theorem posture_told : Fragment.forecastRow bareOutlook [] [posture] = .gives () := by
  decide +kernel

theorem base_told_unversioned :
    Fragment.forecastRow (bareOutlook.assume versionParameter .unbound) [posture.id] base =
      .fails (.lacking "extra-denies" (.unbound versionParameter)) := by
  decide +kernel

theorem base_told_without_app :
    Fragment.forecastRow ((outlook [versionParameter]).assume appPath .unbound) [posture.id] base =
      .fails (.lacking "system-paths" (.unbound appPath)) := by
  decide +kernel

theorem base_told_without_home :
    Fragment.forecastRow ((outlook [versionParameter, appPath]).assume homePath .unbound)
      [posture.id] base = .fails (.lacking "global-preferences" (.unbound homePath)) := by
  decide +kernel

theorem base_told_without_profile :
    Fragment.forecastRow ((fullOutlook.assume hasSandboxedProfile (.flag (some true))).assume
      profileDir .unset) [posture.id] base =
        .fails (.lacking "profile-extensions" (.unset profileDir)) := by
  decide +kernel

theorem layered_told_unprotected (tier : Option Tier) :
    Fragment.forecastRow (fullOutlook.assume hasSandboxedProfile (.flag (some false)))
      [posture.id] (layered tier) = .gives () := by
  rcases tier with _ | _ | _ | _ <;> decide +kernel

theorem layered_told_with_profile (tier : Option Tier) :
    Fragment.forecastRow (fullOutlook.assume profileDir .text) [posture.id] (layered tier) =
      .gives () := by
  rcases tier with _ | _ | _ | _ <;> decide +kernel

theorem addenda_told : ∀ f ∈ [fileAddendum, audioAddendum], f.forecast fullOutlook = .gives () := by
  decide +kernel

theorem aliases_told : ∀ a ∈ library.aliases, a.guard.forecast fullOutlook = .gives none := by
  decide +kernel

variable {s : Store} {tier : Option Tier} {roles : List String}

theorem allows_unbound {name : String} (unbound : s.isBound name = false) :
    Shape.unbound.Allows name (s.setting name) := by
  rw [Store.setting_of_unbound unbound]
  exact .unbound

/-! The addenda: a role that is known has one fragment of its own, or none if it is the
default role. -/

theorem addendum?_getD_cases {role : String} (known : role ∈ knownRoles) :
    role = defaultRole ∧ (library.addendum? role).getD [] = [] ∨
      role ≠ defaultRole ∧ ∃ f ∈ [fileAddendum, audioAddendum], f.id = addendumId role ∧
        (library.addendum? role).getD [] = [f] := by
  rcases List.mem_cons.mp known with rfl | rest
  · exact .inl ⟨rfl, rfl⟩
  · rcases List.mem_cons.mp rest with rfl | rest
    · exact .inr ⟨by decide, fileAddendum, by simp, rfl, rfl⟩
    · obtain rfl := List.mem_singleton.mp rest
      exact .inr ⟨by decide, audioAddendum, by simp, rfl, rfl⟩

/-- By induction on the roles; the default role adds nothing to the row. -/
theorem addenda_eq (known : ∀ role ∈ roles, role ∈ knownRoles) :
    (∀ f ∈ addenda roles, f ∈ [fileAddendum, audioAddendum]) ∧
    (addenda roles).map (·.id) = (roles.filter (· ≠ defaultRole)).map addendumId := by
  induction roles with
  | nil => simp [addenda]
  | cons role rest ih =>
    obtain ⟨here, others⟩ := List.forall_mem_cons.mp known
    obtain ⟨members, ids⟩ := ih others
    have first : addenda (role :: rest) = (library.addendum? role).getD [] ++ addenda rest :=
      List.flatMap_cons
    rcases addendum?_getD_cases here with ⟨plain, none⟩ | ⟨special, f, listed, named, one⟩
    · rw [first, none, List.nil_append, List.filter_cons_of_neg (by simp [plain])]
      exact ⟨members, ids⟩
    · rw [first, one, List.singleton_append]
      refine ⟨List.forall_mem_cons.mpr ⟨listed, members⟩, ?_⟩
      simpa [special, named] using ids

theorem addendumId_injective (a b : String) (same : addendumId a = addendumId b) : a = b :=
  (String.append_left_inj "-addendum").mp same

theorem addendumId_fresh (tier : Option Tier) :
    ∀ role ∈ knownRoles, addendumId role ∉ posture.id :: (layered tier).map (·.id) := by
  rcases tier with _ | _ | _ | _ <;> decide +kernel

/-- Behind the base and a tier, the addenda can only repeat each other. -/
theorem leftmost_addenda (full : fullOutlook.Covers s)
    (known : ∀ role ∈ roles, role ∈ knownRoles) :
    leftmost (Fragment.faultsBehind s (posture.id :: (layered tier).map (·.id)) (addenda roles)) =
      roleRepeated roles := by
  obtain ⟨members, ids⟩ := addenda_eq known
  have resolves : ∀ f ∈ addenda roles, ∃ out, f.outcome s = .ok out := by
    intro f member
    obtain ⟨out, resolved, -⟩ := (f.forecast_meets full).exists_ok (addenda_told f (members f member))
    exact ⟨out, resolved⟩
  have fresh : ∀ id ∈ (roles.filter (· ≠ defaultRole)).map addendumId,
      id ∉ posture.id :: (layered tier).map (·.id) := by
    intro id member
    obtain ⟨role, requested, rfl⟩ := List.mem_map.mp member
    exact addendumId_fresh tier role (known role (List.mem_filter.mp requested).1)
  have firsts : firstRepeated [] ((roles.filter (· ≠ defaultRole)).map addendumId) =
      (firstRepeated [] (roles.filter (· ≠ defaultRole))).map addendumId :=
    firstRepeated_map addendumId_injective [] _
  rw [Fragment.leftmost_of_resolves resolves, ids, firstRepeated_of_fresh fresh, firsts,
    Option.map_map]
  rfl

theorem leftmost_aliases (full : fullOutlook.Covers s) :
    leftmost (library.aliases.map (AliasSet.fault s)) = none := by
  rw [Library.leftmost_aliasFaults_eq_none_iff]
  intro a member
  obtain ⟨active, decided, -⟩ := (a.guard.forecast_meets full).exists_ok (aliases_told a member)
  exact ⟨active, decided⟩

/-- A denial of an operation, quiet unless denials are logged. -/
def quietly (on : Bool) (operation : String) : Statement :=
  ⟨.deny, [operation], [], if on then [] else ["no-log"], none⟩

theorem resolve_denyQuietly {on : Bool} (logs : s.setting shouldLog = .ok (some (.flag on)))
    (id operation : String) :
    (Node.resolve s id (denyQuietly operation)).result = .ok [quietly on operation] := by
  have decides : (Guard.isTrue shouldLog).evaluate s = .ok on := by
    simp only [Guard.evaluate, Guard.toggleHolds, logs]
    rfl
  rw [denyQuietly, choose, Node.resolve, decides]
  cases on <;> rfl

theorem posture_contribution {on : Bool} (logs : s.setting shouldLog = .ok (some (.flag on))) :
    posture.contribution s = [quietly on defaultOperation] := by
  have resolved : posture.outcome s = .ok (some [quietly on defaultOperation]) := by
    have single : posture.body = [denyQuietly defaultOperation] := rfl
    rw [Fragment.outcome_eq, single, Node.resolveList, Traced.result_bind,
      resolve_denyQuietly logs]
    rfl
  rw [Fragment.contribution, resolved]

section Built
variable {values : List (String × Value)} {given : Option (List String)}
  (built : Store.build values (some contentParameters) given versionParameter = .ok s)
include built

theorem covers_bareOutlook : bareOutlook.Covers s :=
  Outlook.covers_of_build built (by simp) (by simp)

theorem covers_outlook (bound : List String) (version : s.isBound versionParameter = true)
    (others : ∀ name ∈ bound, s.isBound name = true) :
    (outlook (versionParameter :: bound)).Covers s := by
  obtain ⟨spec, listed, isInt⟩ : ∃ spec, contentParameters.find? versionParameter = some spec ∧
    spec.kind = .int := ⟨_, rfl, rfl⟩
  exact Outlook.covers_of_build built (List.forall_mem_cons.mpr ⟨version, others⟩) fun _ =>
    Store.primitives_of_build built listed isInt version

/-- A toggle of the catalogue is on or off. -/
theorem find?_toggle (name : String) {spec : ParameterSpec}
    (listed : contentParameters.find? name = some spec) (optional : spec.required = false)
    (isBool : spec.kind = .bool) : ∃ p on, s.find? name = some p ∧ p.setting = some (.flag on) := by
  obtain ⟨p, found, admitted⟩ := Store.parameter_of_optional built listed optional
  rw [isBool] at admitted
  obtain ⟨on, toggle⟩ := ParamKind.admits_bool_iff.mp admitted
  exact ⟨p, on, found, toggle⟩

theorem find?_profileDir : ∃ p, s.find? profileDir = some p ∧
    (p.setting = none ∨ ∃ path, p.setting = some (.text path)) := by
  obtain ⟨spec, listed, optional, isPath⟩ : ∃ spec, contentParameters.find? profileDir = some spec ∧
    spec.required = false ∧ spec.kind = .optionalPath := ⟨_, rfl, rfl, rfl⟩
  obtain ⟨p, found, admitted⟩ := Store.parameter_of_optional built listed optional
  exact ⟨p, found, Store.setting_of_admitted admitted (by simp [isPath])⟩

theorem postureFault_eq_none : library.postureFault s = none := by
  obtain ⟨p, on, found, logs⟩ := find?_toggle built shouldLog rfl rfl rfl
  have contributed := posture_contribution ((Store.setting_of_find? found).trans (congrArg _ logs))
  exact Library.postureFault_eq_none_iff.mpr ⟨_, [], contributed, rfl⟩

/-- Only the fragments behind the posture and the alias sets can fail. -/
theorem leftmost_faults_eq : leftmost (library.faults s tier roles) =
    (leftmost (Fragment.faultsBehind s [posture.id] (library.following tier roles))).or
      (leftmost (library.aliases.map (AliasSet.fault s))) := by
  have opening := Fragment.leftmost_of_gives (covers_bareOutlook built) posture_told
  rw [Fragment.faultsBehind_cons, leftmost_cons, Option.or_eq_none_iff] at opening
  have alone : library.posture.faultBehind s [] = none := opening.1
  rw [Library.faults, alone, postureFault_eq_none built, List.cons_append, leftmost_none,
    List.cons_append, leftmost_none, leftmost_append]
  rfl

theorem leftmost_of_base_fails {o : Outlook} (covers : o.Covers s) {obstacle : Obstacle}
    (told : Fragment.forecastRow o [posture.id] base = .fails obstacle) :
    leftmost (library.faults s tier roles) = some obstacle.fault := by
  have rows : library.following tier roles =
      base ++ ((Tier.levels tier).flatMap (fun t => (library.tier? t).getD []) ++ addenda roles) :=
    List.append_assoc ..
  rw [leftmost_faults_eq built, rows, Fragment.faultsBehind_append, leftmost_append,
    Fragment.leftmost_of_fails covers told, Option.some_or, Option.some_or]

theorem leftmost_of_layered_gives (full : fullOutlook.Covers s)
    (known : ∀ role ∈ roles, role ∈ knownRoles) {o : Outlook} (covers : o.Covers s)
    (told : Fragment.forecastRow o [posture.id] (layered tier) = .gives ()) :
    leftmost (library.faults s tier roles) = roleRepeated roles := by
  have rows : library.following tier roles = layered tier ++ addenda roles := rfl
  rw [leftmost_faults_eq built, rows, Fragment.faultsBehind_append, leftmost_append,
    Fragment.leftmost_of_gives covers told, List.singleton_append, leftmost_addenda full known,
    leftmost_aliases full, Option.none_or, Option.or_none]

/-- With all bound that must be, only the profile and the roles are left. -/
theorem leftmost_of_bound (full : fullOutlook.Covers s)
    (known : ∀ role ∈ roles, role ∈ knownRoles) :
    leftmost (library.faults s tier roles) = (profileMissing s).or (roleRepeated roles) := by
  obtain ⟨p, on, foundP, toggle⟩ := find?_toggle built hasSandboxedProfile rfl rfl rfl
  obtain ⟨q, foundQ, directory⟩ := find?_profileDir built
  have protects : protectsProfile s = on := by
    cases on <;> simp [protectsProfile, foundP, toggle]
  have flagged : (Shape.flag (some on)).Allows hasSandboxedProfile
      (s.setting hasSandboxedProfile) := by
    rw [Store.setting_of_find? foundP, toggle]
    exact .flag (by simp [Tells])
  rcases directory with unset | ⟨path, set⟩
  · have without : hasProfile s = false := by simp [hasProfile, foundQ, Parameter.isSet, unset]
    cases on with
    | false =>
      rw [leftmost_of_layered_gives built full known (full.assume flagged)
        (layered_told_unprotected tier)]
      simp [profileMissing, protects]
    | true =>
      have missing : Shape.unset.Allows profileDir (s.setting profileDir) := by
        rw [Store.setting_of_find? foundQ, unset]
        exact .unset
      rw [leftmost_of_base_fails built ((full.assume flagged).assume missing)
        base_told_without_profile]
      simp [profileMissing, protects, without, Obstacle.fault, Lack.fault]
  · have present : hasProfile s = true := by simp [hasProfile, foundQ, Parameter.isSet, set]
    have text : Shape.text.Allows profileDir (s.setting profileDir) := by
      rw [Store.setting_of_find? foundQ, set]
      exact .text path
    rw [leftmost_of_layered_gives built full known (full.assume text)
      (layered_told_with_profile tier)]
    simp [profileMissing, present]

/-- For known roles the leftmost fault is the first thing that is missed. The outlook
grows with each name that turns out to be bound. -/
theorem leftmost_faults (known : ∀ role ∈ roles, role ∈ knownRoles) :
    leftmost (library.faults s tier roles) = leftmost (missed s roles) := by
  cases version : s.isBound versionParameter with
  | false =>
    have covers := covers_bareOutlook built
    rw [leftmost_of_base_fails built (covers.assume (allows_unbound version))
      base_told_unversioned]
    simp [missed, unboundIn, version, Obstacle.fault, Lack.fault]
  | true =>
    cases app : s.isBound appPath with
    | false =>
      have covers := covers_outlook built [] version (by simp)
      rw [leftmost_of_base_fails built (covers.assume (allows_unbound app)) base_told_without_app]
      simp [missed, unboundIn, version, app, Obstacle.fault, Lack.fault]
    | true =>
      cases home : s.isBound homePath with
      | false =>
        have covers := covers_outlook built [appPath] version (by simp [app])
        rw [leftmost_of_base_fails built (covers.assume (allows_unbound home))
          base_told_without_home]
        simp [missed, unboundIn, version, app, home, Obstacle.fault, Lack.fault]
      | true =>
        have full : fullOutlook.Covers s :=
          covers_outlook built [appPath, homePath] version (by simp [app, home])
        rw [leftmost_of_bound built full known]
        simp [missed, unboundIn, version, app, home, leftmost_cons]

/-- A composition for a tier that can be asked for ends with the first thing that is
wrong, or with a document if nothing is. -/
theorem compose_result {requested : Value}
    (asked : requested ∈ [.null, .int 1, .int 2, .int 3]) (roles : List String) :
    ∃ d, (library.compose s requested roles).result =
      match firstFault s roles with
      | some fault => .error fault
      | none => .ok d := by
  obtain ⟨tier, selected⟩ : ∃ tier, Library.selectTier requested = .ok tier := by
    simp only [List.mem_cons, List.not_mem_nil, or_false] at asked
    rcases asked with rfl | rfl | rfl | rfl
    · exact ⟨none, rfl⟩
    · exact ⟨some .level1, rfl⟩
    · exact ⟨some .level2, rfl⟩
    · exact ⟨some .level3, rfl⟩
  have declared : ∀ t ∈ tier, (library.tier? t).isSome := by
    rintro t -
    cases t <;> rfl
  refine ⟨library.assembled s tier roles, ?_⟩
  cases search : roles.find? (· ∉ knownRoles) with
  | some role =>
    have refused : library.checkRoles roles = .error (.unknownRole role) := by
      rw [Library.checkRoles, isNone_addendum?_eq, search]
    have found : firstFault s roles = some (.unknownRole role) := by
      rw [firstFault, search]
      rfl
    simp only [Library.compose, Library.composeChosen, Traced.result_bind, Traced.result_ofExcept,
      selected, Library.checkTier_eq_ok_iff.mpr declared, refused, Outcome.ok_bind,
      Outcome.error_bind, found]
  | none =>
    have known : ∀ role ∈ roles, role ∈ knownRoles := by
      simpa [List.find?_eq_none] using search
    have faults : leftmost (library.faults s tier roles) = firstFault s roles := by
      rw [leftmost_faults built known, firstFault, search]
      rfl
    rw [← faults, Library.compose_of_valid selected declared fun role requested =>
      addendum?_isSome_iff.mpr (known role requested)]
    exact Library.composeSelected_result

theorem exists_document {requested : Value} (asked : requested ∈ [.null, .int 1, .int 2, .int 3])
    (fine : firstFault s roles = none) :
    ∃ d, (library.compose s requested roles).result = .ok d := by
  obtain ⟨d, result⟩ := compose_result built asked roles
  rw [fine] at result
  exact ⟨d, result⟩

end Built

/-- From every store that can be built, for no tier or any of the three, a composition
succeeds exactly if the roles are known and requested as often as they may be and the
parameters that all content processes need are there. If it fails, then with the first
fault in the order of the fragments, and with no other one. -/
theorem compose_succeeds_iff {values : List (String × Value)} {given : Option (List String)}
    {s : Store} {requested : Value}
    (built : Store.build values (some contentParameters) given versionParameter = .ok s)
    (asked : requested ∈ [.null, .int 1, .int 2, .int 3]) (roles : List String) :
    ((∃ d, (library.compose s requested roles).result = .ok d) ↔ Composable s roles) ∧
    ∀ fault, (library.compose s requested roles).result = .error fault ↔
      firstFault s roles = some fault := by
  obtain ⟨document, result⟩ := compose_result built asked roles
  rw [result, ← firstFault_eq_none_iff]
  cases firstFault s roles <;> simp

/-- The values that must be supplied, and a protected profile with its directory. -/
def suppliedValues : List (String × Value) :=
  [("MAC_OS_VERSION", .int 1014), ("HOME_PATH", .text "/Users/a"), ("APP_PATH", .text "/App"),
    ("HAS_SANDBOXED_PROFILE", .text "true"), ("PROFILE_DIR", .text "/Users/a/P")]

def suppliedStore : Store where
  catalogue := some contentParameters
  parameters := contentParameters.filterMap fun spec =>
    match Store.bindingFor suppliedValues spec with
    | some (name, kind, raw) =>
      match coerce name kind raw with
      | .ok setting => some ⟨name, kind, setting⟩
      | .error _ => none
    | none => none
  primitives := some (primitivesFor 1014)
  frozen := true

theorem suppliedStore_built :
    Store.build suppliedValues (some contentParameters) none versionParameter =
      .ok suppliedStore := rfl

theorem compose_succeeds_iff_supplied :
    Store.build suppliedValues (some contentParameters) none versionParameter =
      .ok suppliedStore ∧
    Value.int 2 ∈ [.null, .int 1, .int 2, .int 3] ∧
    (∃ d, (library.compose suppliedStore (.int 2) ["default", "file"]).result = .ok d) ∧
    (library.compose suppliedStore (.int 2) ["audio", "audio"]).result =
      .error (.duplicateFragment "audio-addendum") := by
  have built : Store.build suppliedValues (some contentParameters) none versionParameter =
      .ok suppliedStore := rfl
  have asked : Value.int 2 ∈ [.null, .int 1, .int 2, .int 3] := by simp
  have composable : Composable suppliedStore ["default", "file"] :=
    ⟨by decide, by decide +kernel, by decide +kernel, by decide +kernel, by decide +kernel,
      by decide, by decide⟩
  exact ⟨built, asked, (compose_succeeds_iff built asked ["default", "file"]).1.mpr composable,
    ((compose_succeeds_iff built asked ["audio", "audio"]).2 _).mpr rfl⟩

end SandboxProfile.Content
