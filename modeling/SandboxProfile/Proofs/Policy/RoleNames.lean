import SandboxProfile.Proofs.Config.Overlay
import SandboxProfile.Proofs.Config.Reading
import SandboxProfile.Proofs.Text.Separation
import SandboxProfile.Proofs.Text.Trimming
import SandboxProfile.Request.Basic

/-! Role names and the texts that hold them. A text is read as the names among the items between
its commas, and names that are joined with commas are read again, whatever blanks and blank items
were put around them. Requests and the defaults of a compilation read every text alike. -/
namespace SandboxProfile

section Without
variable {α : Type} {key k : String} {fallback : α} {check : Value → Checked α}
  {entries : List (Value × Value)}

/-- A table without what it has under a key. -/
def Value.without (key : String) (entries : List (Value × Value)) : List (Value × Value) :=
  entries.filter fun entry => entry.1 != .text key

theorem Value.entry?_without_self (key : String) (entries : List (Value × Value)) :
    entry? key (without key entries) = none := by
  rw [entry?_eq_lookup, List.lookup_eq_none_iff]
  intro entry member
  have kept : (entry.1 != .text key) = true := (List.mem_filter.mp member).2
  rw [bne_comm]
  exact kept

theorem Value.entry?_without_of_ne (other : k ≠ key) (entries : List (Value × Value)) :
    entry? k (without key entries) = entry? k entries := by
  have kept : ∀ v : Value, (Value.text k, v).1 != .text key := by simpa using other
  rw [entry?_eq_lookup, entry?_eq_lookup]
  exact Table.lookup_filter kept entries

theorem Checked.field_without_self :
    field key fallback check (Value.without key entries) = .fits fallback :=
  field_of_missing (Value.entry?_without_self key entries)

/-- A field does not see what a table has under other keys. -/
theorem Checked.field_without_of_ne (other : k ≠ key) :
    field k fallback check (Value.without key entries) = field k fallback check entries := by
  rw [field, field, Value.entry?_without_of_ne other]

/-- An entry that requests have is no stranger, whatever its value. -/
theorem Request.noStrangers_without (known : key ∈ fieldNames) :
    noStrangers (Value.without key entries) = noStrangers entries := by
  have same : strangers (Value.without key entries) = strangers entries := by
    rw [strangers, strangers, Value.without, List.filterMap_filter]
    apply List.filterMap_congr
    rintro ⟨k, v⟩ -
    by_cases here : k = .text key
    · simp [here, known]
    · simp [here]
  rw [noStrangers, noStrangers, same]

end Without

namespace RoleNames
open Text
variable {s name item : String} {names items : List String}

/-! ### Names and items -/

/-- A name as a text can hold it among others. -/
structure IsName (name : String) : Prop where
  filled : name ≠ ""
  bare : Bare isBlank name.toList
  free : ',' ∉ name.toList

/-- Items that have the names among them, in their order and as often as they are there: around each
name stand blanks, and all other items are blank. -/
inductive Written : List String → List String → Prop
  | nil : Written [] []
  | name {name item : String} {names items : List String} :
      Surrounded isBlank name.toList item.toList → Written names items →
      Written (name :: names) (item :: items)
  | blank {item : String} {names items : List String} :
      (∀ c ∈ item.toList, isBlank c = true) → Written names items → Written names (item :: items)

theorem Written.refl (names : List String) : Written names names := by
  induction names with
  | nil => exact .nil
  | cons name rest ih => exact .name (.refl name.toList) ih

theorem isName_trim (filled : trim item ≠ "") (free : ',' ∉ item.toList) : IsName (trim item) where
  filled := filled
  bare := bare_trim item
  free := fun member => free ((surrounded_trim item).subset member)

/-- Whatever the items are, they have the names that are found in them and are blank elsewhere. -/
theorem written_trimmed (items : List String) :
    Written ((items.map trim).filter (· ≠ "")) items := by
  induction items with
  | nil => exact .nil
  | cons item rest ih =>
    rw [List.map_cons]
    by_cases empty : trim item = ""
    · rw [List.filter_cons_of_neg (by simpa using empty)]
      exact .blank (trim_eq_empty_iff.mp empty) ih
    · rw [List.filter_cons_of_pos (by simpa using empty)]
      exact .name (surrounded_trim item) ih

/-- No other names are found in items than those they were written for. -/
theorem Written.trimmed (written : Written names items) (sound : ∀ name ∈ names, IsName name) :
    (items.map trim).filter (· ≠ "") = names := by
  induction written with
  | nil => rfl
  | @name name item names items around _ ih =>
    obtain ⟨first, others⟩ := List.forall_mem_cons.mp sound
    have found : trim item = name := trim_eq_of_surrounded around first.bare
    rw [List.map_cons, found, List.filter_cons_of_pos (by simpa using first.filled), ih others]
  | @blank item names items blank _ ih =>
    have empty : trim item = "" := trim_eq_empty_iff.mpr blank
    rw [List.map_cons, empty, List.filter_cons_of_neg (by simp), ih sound]

theorem Written.free (written : Written names items) (sound : ∀ name ∈ names, IsName name) :
    ∀ item ∈ items, ',' ∉ item.toList := by
  have filled : ¬isBlank ',' = true := by decide
  induction written with
  | nil => exact List.forall_mem_nil _
  | name around _ ih =>
    obtain ⟨first, others⟩ := List.forall_mem_cons.mp sound
    refine List.forall_mem_cons.mpr ⟨fun member => ?_, ih others⟩
    exact (around.mem member).elim first.free filled
  | blank blank _ ih =>
    exact List.forall_mem_cons.mpr ⟨fun member => filled (blank _ member), ih sound⟩

/-! ### Texts -/

/-- A text is read as the names among its items. -/
theorem written_ofText (s : String) :
    ∃ items, Separated ',' s items ∧ Written (ofText s) items :=
  ⟨split ',' s, separated_iff.mpr rfl, written_trimmed (split ',' s)⟩

theorem isName_of_mem_ofText (member : name ∈ ofText s) : IsName name := by
  obtain ⟨found, filled⟩ := List.mem_filter.mp member
  obtain ⟨item, present, rfl⟩ := List.mem_map.mp found
  have separated : Separated ',' s (split ',' s) := separated_iff.mpr rfl
  exact isName_trim (by simpa using filled) (separated.free item present)

/-- What was written is read, also where there is no item at all. -/
theorem ofText_toText (written : Written names items) (sound : ∀ name ∈ names, IsName name) :
    ofText (toText items) = names := by
  by_cases none : items = []
  · obtain rfl := none
    cases written
    rfl
  · have separated : Separated ',' (toText items) items := ⟨none, written.free sound, rfl⟩
    rw [ofText, separated_iff.mp separated]
    exact written.trimmed sound

/-! ### Tables with role names -/

/-- A text that is taken for a list of names by requests and by the defaults of a compilation.
Whatever else a table holds is read as if the text were not there. -/
structure ReadAs (s : String) (names : List String) : Prop where
  request : ∀ entries, Value.entry? "roles" entries = some (.text s) →
    Request.ofTable entries =
      ({ · with roles := names }) <$> Request.ofTable (Value.without "roles" entries)
  defaults : ∀ entries, Value.entry? "default_roles" entries = some (.text s) →
    CompileDefaults.ofTable entries = ({ · with roles := names }) <$>
      CompileDefaults.ofTable (Value.without "default_roles" entries)

theorem readAs_ofText (s : String) : ReadAs s (ofText s) where
  request := by
    intro entries given
    have named : Checked.field "roles" [] Checked.roles entries = .fits (ofText s) :=
      Checked.field_of_fits given rfl
    rw [Request.ofTable, Request.ofTable, named, Checked.field_without_self,
      Request.noStrangers_without (by decide), Checked.field_without_of_ne (by decide),
      Checked.field_without_of_ne (by decide), Checked.field_without_of_ne (by decide)]
    -- Complaints about the other parts are gathered in the same order on either side.
    cases Checked.field "parameters" [] Request.bindings entries <;>
      cases Checked.field "tier" none Checked.tier entries <;>
      cases Checked.field "library" Content.libraryName Checked.text entries <;>
      cases Request.noStrangers entries <;> rfl
  defaults := by
    intro entries given
    have named : Checked.field "default_roles" [Content.defaultRole] Checked.roles entries =
        .fits (ofText s) := Checked.field_of_fits given rfl
    rw [CompileDefaults.ofTable, CompileDefaults.ofTable, named, Checked.field_without_self,
      Checked.field_without_of_ne (by decide), Checked.field_without_of_ne (by decide)]
    cases Checked.field "library" Content.libraryName Checked.text entries <;>
      cases Checked.field "default_tier" (some .level3) CompileDefaults.tierOfValue entries <;> rfl

/-- The list that a text is read as is its only one: a table with nothing else shows it. -/
theorem readAs_iff : ReadAs s names ↔ names = ofText s := by
  constructor
  · intro read
    have alone := (read.request [(.text "roles", .text s)] rfl).symm.trans
      ((readAs_ofText s).request [(.text "roles", .text s)] rfl)
    exact congrArg Request.roles (Checked.fits.inj alone)
  · rintro rfl
    exact readAs_ofText s

theorem readAs_toText (written : Written names items) (sound : ∀ name ∈ names, IsName name) :
    ReadAs (toText items) names := by
  rw [readAs_iff, ofText_toText written sound]

/-- Texts and lists of names. Every text is read as just one list of names by requests and by the
defaults of a compilation: the names among the items between its commas, none of them empty, with a
blank at an end or with a comma. Joined with commas they are read as the same list, and so are names
that were written with blanks and blank items around them. -/
theorem lists_decode :
    (∀ s, ∃ names, (∀ others, ReadAs s others ↔ others = names) ∧ (∀ name ∈ names, IsName name) ∧
      (∃ items, Separated ',' s items ∧ Written names items) ∧ ReadAs (toText names) names) ∧
    ∀ names items, (∀ name ∈ names, IsName name) → Written names items →
      ReadAs (toText items) names := by
  constructor
  · intro s
    have sound : ∀ name ∈ ofText s, IsName name := fun name => isName_of_mem_ofText
    exact ⟨ofText s, fun _ => readAs_iff, sound, written_ofText s, readAs_toText (.refl _) sound⟩
  · intro names items sound written
    exact readAs_toText written sound

theorem lists_decode_padded :
    (∀ name ∈ ["file", "my role", "file"], IsName name) ∧
      Written ["file", "my role", "file"] ["", " file\t", "my role", "\u2003", "file", ""] ∧
      Request.ofTable [(.text "roles", .text ", file\t,my role,\u2003,file,")] =
        .fits ⟨[], none, ["file", "my role", "file"], Content.libraryName⟩ ∧
      CompileDefaults.ofTable [(.text "default_roles", .text ", file\t,my role,\u2003,file,")] =
        .fits { roles := ["file", "my role", "file"] } := by
  have sound : ∀ name ∈ ["file", "my role", "file"], IsName name := by
    have read : ofText "file,my role,file" = ["file", "my role", "file"] := rfl
    rw [← read]
    exact fun name => isName_of_mem_ofText
  have written :
      Written ["file", "my role", "file"] ["", " file\t", "my role", "\u2003", "file", ""] := by
    refine .blank ?_ (.name ⟨[' '], ['\t'], ?_, ?_, rfl⟩ (.name (.refl _) (.blank ?_
      (.name (.refl _) (.blank ?_ .nil)))))
    all_goals exact List.all_eq_true.mp rfl
  have decoded := lists_decode.2 _ _ sound written
  exact ⟨sound, written, decoded.request _ rfl, decoded.defaults _ rfl⟩

end RoleNames
end SandboxProfile
