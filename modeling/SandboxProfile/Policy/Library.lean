import SandboxProfile.Policy.Fragment
import SandboxProfile.Table

/-! Libraries: the fragments for one kind of process, in sections. No two
fragments of a library have one id. -/
namespace SandboxProfile

/-- The sections of a library as they are declared. -/
structure Sections where
  name : String
  posture : Fragment
  base : List Fragment
  tiers : List (Tier × List Fragment)
  addenda : List (String × List Fragment)
  aliases : List AliasSet
  deriving Repr

namespace Sections

def tier? (s : Sections) (t : Tier) : Option (List Fragment) := s.tiers.lookup t

def addendum? (s : Sections) (role : String) : Option (List Fragment) := s.addenda.lookup role

/-- Every fragment: the posture, the base, the tiers from the least restrictive
one upwards, and the addenda in their order. -/
def fragments (s : Sections) : List Fragment :=
  s.posture :: s.base ++ Tier.all.flatMap (fun t => (s.tier? t).getD []) ++
    s.addenda.flatMap (·.2)

/-- Only the last declaration of a tier or role counts. -/
def normalize (s : Sections) : Sections :=
  { s with tiers := Table.ofPairs s.tiers, addenda := Table.ofPairs s.addenda }

end Sections

/-- The first text in a list that stands further left as well. -/
def firstRepeated (seen : List String) : List String → Option String
  | [] => none
  | id :: rest => if seen.contains id then some id else firstRepeated (id :: seen) rest

theorem firstRepeated_eq_none {seen ids : List String} (h : firstRepeated seen ids = none) :
    ids.Nodup ∧ ∀ id ∈ ids, id ∉ seen := by
  induction ids generalizing seen with
  | nil => simp
  | cons id rest ih =>
    simp only [firstRepeated] at h
    split at h
    · simp at h
    · next hc =>
      obtain ⟨nodup, fresh⟩ := ih h
      simp only [List.contains_eq_mem, decide_eq_true_eq] at hc
      refine ⟨List.nodup_cons.mpr ⟨fun hm => ?_, nodup⟩, fun x hx => ?_⟩
      · exact fresh id hm (List.mem_cons_self ..)
      · rcases List.mem_cons.mp hx with rfl | hx
        · exact hc
        · exact fun hs => fresh x hx (List.mem_cons_of_mem _ hs)

structure Library extends Sections where
  ids_nodup : (toSections.fragments.map (·.id)).Nodup

structure DuplicateDeclaration where
  library : String
  id : String
  deriving Repr, DecidableEq

def DuplicateDeclaration.message (d : DuplicateDeclaration) : String :=
  s!"Library {Text.quoted d.library} declares fragment {Text.quoted d.id} twice"

namespace Library

/-- Constructs a library from its sections, unless an id is declared twice. -/
def ofSections (declared : Sections) : Except DuplicateDeclaration Library :=
  let s := declared.normalize
  match h : firstRepeated [] (s.fragments.map (·.id)) with
  | some id => .error ⟨s.name, id⟩
  | none => .ok ⟨s, (firstRepeated_eq_none h).1⟩

def roles (l : Library) : List String := l.addenda.map (·.1)

def declaredTiers (l : Library) : List Tier := Tier.all.filter fun t => (l.tier? t).isSome

def find? (l : Library) (id : String) : Option Fragment := l.fragments.find? (·.id == id)

/-- The fragments of a tier and of every more restrictive one, the most
restrictive first. -/
def tierFragments (l : Library) (t : Tier) : List Fragment :=
  (Tier.all.reverse.filter fun u => t.toNat ≤ u.toNat).flatMap fun u => (l.tier? u).getD []

end Library
end SandboxProfile
