import SandboxProfile.Proofs.Table
import SandboxProfile.Proofs.Toml.Document
import Mathlib.Data.List.Forall2

/-! Documents of sections, each of them a header with settings behind it. Sections of plain
values under distinct names are read back from what is written for them: line by line the
document holds what has been read so far. -/
namespace SandboxProfile.Toml

/-- Settings by name, in sections. -/
abbrev Sections := List (String × List (String × Value))

/-- The entries of a section. -/
def settingEntries (settings : List (String × Value)) : Entries :=
  settings.map fun setting => (.text setting.1, setting.2)

/-- The table that has the sections as its tables. -/
def sectionEntries (sections : Sections) : Entries :=
  sections.map fun part => (.text part.1, .table (settingEntries part.2))

variable {d : Document} {read : Sections} {name key : String} {settings : List (String × Value)}
  {v : Value}

theorem entry?_of_missing {entries : Entries} (missing : Value.text key ∉ entries.map (·.1)) :
    Value.entry? key entries = none := by
  rw [Value.entry?, Option.map_eq_none_iff, List.find?_eq_none]
  exact fun entry member same => missing (List.mem_map.mpr ⟨entry, member, eq_of_beq same⟩)

theorem entry?_append {front : Entries} (missing : Value.text key ∉ front.map (·.1))
    (back : Entries) : Value.entry? key (front ++ (.text key, v) :: back) = some v := by
  have absent := entry?_of_missing missing
  rw [Value.entry?, Option.map_eq_none_iff] at absent
  rw [Value.entry?, List.find?_append, absent, Option.none_or, List.find?_cons_of_pos]
  · rfl
  · exact beq_self_eq_true _

theorem settingEntries_concat (settings : List (String × Value)) (key : String) (v : Value) :
    settingEntries (settings ++ [(key, v)]) = settingEntries settings ++ [(.text key, v)] :=
  List.map_append

theorem sectionEntries_concat (sections : Sections) (name : String)
    (settings : List (String × Value)) : sectionEntries (sections ++ [(name, settings)]) =
      sectionEntries sections ++ [(.text name, .table (settingEntries settings))] :=
  List.map_append

theorem not_mem_settingEntries (new : key ∉ settings.map (·.1)) :
    Value.text key ∉ (settingEntries settings).map (·.1) := by
  simpa [settingEntries] using new

theorem not_mem_sectionEntries (fresh : name ∉ read.map (·.1)) :
    Value.text name ∉ (sectionEntries read).map (·.1) := by
  simpa [sectionEntries] using fresh

/-- A table is made where it is missing. -/
theorem atPath_of_missing {f : Entries → Except Fault Entries} {entries made : Entries}
    (missing : Value.text name ∉ entries.map (·.1)) (changed : f [] = .ok made) :
    atPath true f [name] entries = .ok (entries ++ [(.text name, .table made)]) := by
  have added := Table.insert_append missing (.table made) []
  rw [List.append_nil] at added
  rw [atPath, entry?_of_missing missing, atPath, changed]
  exact congrArg Except.ok added

/-- The table at the end is changed in its place. -/
theorem atPath_last {f : Entries → Except Fault Entries} {front before after : Entries}
    (missing : Value.text name ∉ front.map (·.1)) (changed : f before = .ok after) :
    atPath true f [name] (front ++ [(.text name, .table before)]) =
      .ok (front ++ [(.text name, .table after)]) := by
  have replaced := Table.insert_append missing (.table after) [(.text name, .table before)]
  rw [Table.insert_cons] at replaced
  rw [atPath, entry?_append missing]
  dsimp only
  rw [atPath, changed]
  exact congrArg Except.ok replaced

theorem addNew_of_missing {entries : Entries} (missing : Value.text key ∉ entries.map (·.1))
    (v : Value) : addNew key v entries = .ok (entries ++ [(.text key, v)]) := by
  rw [addNew, entry?_of_missing missing]

/-- A document that has read sections. -/
structure Document.Holds (d : Document) (read : Sections) : Prop where
  entries : d.entries = sectionEntries read
  declared : ∀ path ∈ d.declared, ∃ part ∈ read, path = [part.1]
  reached : d.reached = []
  closed : ∀ path ∈ d.closed, path.length = 2

namespace Document.Holds

theorem empty : Document.empty.Holds [] := ⟨rfl, nofun, rfl, nofun⟩

/-- What stands in brackets is no section. -/
theorem not_covers (holds : d.Holds read) (name : String) : covers d.closed [name] = false := by
  rw [covers, Bool.and_eq_false_iff]
  refine .inr (List.any_eq_false.mpr fun path member front => ?_)
  have longer := (List.isPrefixOf_iff_prefix.mp front).length_le
  rw [holds.closed path member] at longer
  exact absurd longer (by simp)

/-- A header with a new name opens a section. -/
theorem openTable (holds : d.Holds read) (fresh : name ∉ read.map (·.1)) :
    ∃ d', d.openTable [name] = .ok d' ∧ d'.Holds (read ++ [(name, [])]) ∧ d'.current = [name] := by
  have undeclared : d.declared.contains [name] = false := by
    rw [Bool.eq_false_iff, Ne, List.contains_iff_mem]
    intro member
    obtain ⟨part, found, same⟩ := holds.declared _ member
    obtain rfl := (List.cons.inj same).1
    exact fresh (List.mem_map_of_mem found)
  have opened := atPath_of_missing (not_mem_sectionEntries fresh) (f := .ok) rfl
  refine ⟨⟨sectionEntries (read ++ [(name, [])]), [name], [name] :: d.declared, [], d.closed⟩, ?_,
    ⟨rfl, ?_, rfl, holds.closed⟩, rfl⟩
  · rw [Document.openTable, settle, holds.reached, holds.entries]
    dsimp only
    rw [List.nil_append, undeclared, holds.not_covers, if_neg (by decide), opened,
      sectionEntries_concat]
    rfl
  · rintro path (_ | ⟨_, member⟩)
    · exact ⟨(name, []), List.mem_append_right read List.mem_cons_self, rfl⟩
    · obtain ⟨part, found, same⟩ := holds.declared path member
      exact ⟨part, List.mem_append_left _ found, same⟩

/-- A line with a new key adds a setting to the section that was opened last. -/
theorem set (holds : d.Holds (read ++ [(name, settings)])) (current : d.current = [name])
    (fresh : name ∉ read.map (·.1)) (new : key ∉ settings.map (·.1)) :
    ∃ d', d.set [key] v = .ok d' ∧ d'.Holds (read ++ [(name, settings ++ [(key, v)])]) ∧
      d'.current = [name] := by
  have added := atPath_last (not_mem_sectionEntries fresh)
    (addNew_of_missing (not_mem_settingEntries new) v)
  refine ⟨⟨sectionEntries (read ++ [(name, settings ++ [(key, v)])]), [name], d.declared, [],
    if isClosed v then [name, key] :: d.closed else d.closed⟩, ?_, ⟨rfl, ?_, rfl, ?_⟩, rfl⟩
  · have through : between [name] [key] = [] := rfl
    have outside : covers d.closed ([name] ++ []) = false := holds.not_covers name
    rw [Document.set, current, holds.entries, sectionEntries_concat, sectionEntries_concat,
      settingEntries_concat]
    show (if covers d.closed ([name] ++ []) = true then _ else _) = _
    rw [if_neg (by rw [outside]; decide)]
    show (atPath true (addNew key v) [name] _ >>= _) = _
    rw [added, holds.reached]
    rfl
  · intro path member
    obtain ⟨part, found, rfl⟩ := holds.declared path member
    rcases List.mem_append.mp found with found | last
    · exact ⟨part, List.mem_append_left _ found, rfl⟩
    · obtain rfl := List.mem_singleton.mp last
      exact ⟨(name, settings ++ [(key, v)]), List.mem_append_right _ List.mem_cons_self, rfl⟩
  · intro path member
    dsimp only at member
    split at member
    · rcases List.mem_cons.mp member with rfl | member
      · rfl
      · exact holds.closed path member
    · exact holds.closed path member

end Document.Holds

/-! ### Reading -/

/-- A line that gives a key its value. -/
def SettingLine (setting : String × Value) (line : String) : Prop :=
  ∃ text, Denotes text setting.2 ∧
    line.toList = (keyText setting.1).toList ++ (" = ".toList ++ (text ++ ['\n']))

/-- The header of a section, and behind it a line for each setting. -/
def SectionText (part : String × List (String × Value)) (text : String) : Prop :=
  ∃ lines, List.Forall₂ SettingLine part.2 lines ∧
    text.toList = '[' :: ((keyText part.1).toList ++ ']' :: '\n' :: (String.join lines).toList)

theorem Leads.header {d' : Document} (opened : d.openTable [name] = .ok d') (rest : List Char) :
    Leads d ('[' :: ((keyText name).toList ++ ']' :: '\n' :: rest)) d' rest := by
  have line : '[' :: ((keyText name).toList ++ ']' :: '\n' :: rest) =
      '[' :: ((keyText name).toList ++ [']']) ++ '\n' :: rest := by
    simp
  have statement := statement_header name ('\n' :: rest)
  rw [line] at statement ⊢
  exact Leads.line (by simp; decide) statement opened

theorem Leads.setting {d' : Document} {text : List Char} (set : d.set [key] v = .ok d')
    (denotes : Denotes text v) (rest : List Char) :
    Leads d ((keyText key).toList ++ (" = ".toList ++ (text ++ ['\n'])) ++ rest) d' rest := by
  obtain ⟨c, cs, first, starts, -⟩ := keyText_begins key
  have line : (keyText key).toList ++ (" = ".toList ++ (text ++ ['\n'])) ++ rest =
      (keyText key).toList ++ (" = ".toList ++ text) ++ '\n' :: rest := by
    simp
  have statement := statement_setting key denotes rest
  rw [line]
  rw [← List.append_assoc, ← List.append_assoc, List.append_assoc _ _ text] at statement
  refine Leads.line (by simp [first, starts]) statement set

/-- Among distinct names, one is not among those in front of it. -/
theorem fresh_of_nodup {β : Type} {front back : List (String × β)} {entry : String × β}
    (distinct : ((front ++ entry :: back).map (·.1)).Nodup) : entry.1 ∉ front.map (·.1) := by
  rw [List.map_append, List.nodup_append] at distinct
  exact fun member => distinct.2.2 _ member _ List.mem_cons_self rfl

/-- The lines of a section are read one after the other; by induction on the lines. -/
theorem settings_read {lines : List String} {before : List (String × Value)}
    (written : List.Forall₂ SettingLine settings lines)
    (holds : d.Holds (read ++ [(name, before)])) (current : d.current = [name])
    (fresh : name ∉ read.map (·.1)) (distinct : ((before ++ settings).map (·.1)).Nodup)
    (rest : List Char) : ∃ d', Leads d ((String.join lines).toList ++ rest) d' rest ∧
      d'.Holds (read ++ [(name, before ++ settings)]) := by
  induction written generalizing d before with
  | nil =>
    rw [List.append_nil]
    exact ⟨d, Leads.refl d rest, holds⟩
  | @cons setting line settings lines first _ ih =>
    obtain ⟨text, denotes, shape⟩ := first
    obtain ⟨d₁, set, holds₁, current₁⟩ :=
      holds.set current fresh (fresh_of_nodup distinct) (v := setting.2)
    rw [List.append_cons before] at distinct ⊢
    obtain ⟨d', others, holds'⟩ := ih holds₁ current₁ distinct
    refine ⟨d', ?_, holds'⟩
    rw [String.join_cons, String.toList_append, List.append_assoc, shape]
    exact (Leads.setting set denotes _).trans others

theorem section_read {part : String × List (String × Value)} {text : String}
    (written : SectionText part text) (holds : d.Holds read) (fresh : part.1 ∉ read.map (·.1))
    (distinct : (part.2.map (·.1)).Nodup) (rest : List Char) :
    ∃ d', Leads d (text.toList ++ rest) d' rest ∧ d'.Holds (read ++ [part]) := by
  obtain ⟨lines, settings, shape⟩ := written
  obtain ⟨d₁, opened, holds₁, current⟩ := holds.openTable fresh
  obtain ⟨d', others, holds'⟩ := settings_read settings holds₁ current fresh distinct rest
  refine ⟨d', ?_, holds'⟩
  rw [shape]
  have header := Leads.header opened ((String.join lines).toList ++ rest)
  simpa using header.trans others

/-- Sections with an empty line between them are read; by induction on the sections. -/
theorem sections_read {sections : Sections} {texts : List String}
    (written : List.Forall₂ SectionText sections texts) (holds : d.Holds read)
    (names : ((read ++ sections).map (·.1)).Nodup)
    (keys : ∀ part ∈ sections, (part.2.map (·.1)).Nodup) :
    ∃ d', Leads d (Text.joinWith "\n" texts).toList d' [] ∧ d'.Holds (read ++ sections) := by
  induction written generalizing d read with
  | nil =>
    rw [List.append_nil]
    exact ⟨d, Leads.refl d [], holds⟩
  | @cons part text sections texts first others ih =>
    have fresh := fresh_of_nodup names
    have distinct := keys part List.mem_cons_self
    rw [List.append_cons] at names ⊢
    cases others with
    | nil =>
      obtain ⟨d', leads, holds'⟩ := section_read first holds fresh distinct []
      rw [List.append_nil] at leads ⊢
      exact ⟨d', leads, holds'⟩
    | @cons next nextText =>
      obtain ⟨d₁, leads, holds₁⟩ := section_read first holds fresh distinct _
      obtain ⟨d', more, holds'⟩ := ih holds₁ names fun part member =>
        keys part (List.mem_cons_of_mem _ member)
      refine ⟨d', ?_, holds'⟩
      rw [Text.joinWith, String.toList_append, String.toList_append, List.append_assoc]
      · exact leads.trans ((Leads.blank d₁ _).trans more)
      · exact List.cons_ne_nil nextText _

/-! ### Writing -/

theorem needsHeaders_texts (texts : List String) :
    needsHeaders (texts.map .text) = some false := by
  cases texts <;> rfl

/-- A plain value has a line of its own. -/
theorem parts?_plain {entries : Entries} {s : String} {p : Parts} (plain : Plain v)
    (written : valueText? 0 v = some s) (others : parts? name entries = some p) :
    parts? name ((.text key, v) :: entries) =
      some ⟨(keyText key ++ " = " ++ s ++ "\n") :: p.lines, p.tables⟩ := by
  rw [parts?, keyText?, others]
  simp only [Option.bind_eq_bind, Option.bind_some]
  cases plain with
  | text _ =>
    dsimp only
    rw [written, Option.bind_some]
  | texts texts =>
    dsimp only
    rw [needsHeaders_texts, Option.bind_some, if_neg Bool.false_ne_true, written, Option.bind_some]
  | digit _ =>
    dsimp only
    rw [written, Option.bind_some]

/-- By induction on the settings. -/
theorem settings_written (name : String) (plain : ∀ setting ∈ settings, Plain setting.2) :
    ∃ lines, parts? name (settingEntries settings) = some ⟨lines, []⟩ ∧
      List.Forall₂ SettingLine settings lines := by
  induction settings with
  | nil => exact ⟨[], by rw [settingEntries, List.map_nil, parts?], .nil⟩
  | cons setting settings ih =>
    obtain ⟨first, others⟩ := List.forall_mem_cons.mp plain
    obtain ⟨s, written, denotes⟩ := first.exists_text
    obtain ⟨lines, parts, settingLines⟩ := ih others
    refine ⟨_, parts?_plain first written parts, .cons ⟨s.toList, denotes, ?_⟩ settingLines⟩
    simp

/-- The text of a table without further ones has a header and its own lines. -/
theorem assemble_lines (named : name ≠ "") (lines : List String) :
    assemble name false ⟨lines, []⟩ = "[" ++ name ++ "]\n" ++ String.join lines := by
  have alone (own : String) : Text.joinWith "\n" (if own == "" then [] else own :: []) = own := by
    split
    · next empty => exact (eq_of_beq empty).symm
    · rfl
  rw [assemble, alone, if_neg Bool.false_ne_true, if_pos (by simp [named])]
  rfl

theorem keyText_ne_empty (s : String) : keyText s ≠ "" := by
  obtain ⟨c, cs, first, -⟩ := exists_keyText s
  intro empty
  rw [empty] at first
  contradiction

theorem sections_written {sections : Sections}
    (plain : ∀ part ∈ sections, ∀ setting ∈ part.2, Plain setting.2) :
    ∃ texts, parts? "" (sectionEntries sections) = some ⟨[], texts⟩ ∧
      List.Forall₂ SectionText sections texts := by
  induction sections with
  | nil => exact ⟨[], by rw [sectionEntries, List.map_nil, parts?], .nil⟩
  | cons part sections ih =>
    obtain ⟨first, others⟩ := List.forall_mem_cons.mp plain
    obtain ⟨lines, inner, settingLines⟩ := settings_written (qualified "" (keyText part.1)) first
    obtain ⟨texts, parts, sectionTexts⟩ := ih others
    refine ⟨assemble (keyText part.1) false ⟨lines, []⟩ :: texts, ?_,
      .cons ⟨lines, settingLines, ?_⟩ sectionTexts⟩
    · show parts? "" ((.text part.1, .table (settingEntries part.2)) :: sectionEntries sections) = _
      rw [parts?, keyText?, parts]
      show (parts? (qualified "" (keyText part.1)) _ >>= _) = _
      rw [inner]
      rfl
    · rw [assemble_lines (keyText_ne_empty part.1)]
      simp

/-! ### No carriage returns -/

theorem forall_right {α β : Type} {r : α → β → Prop} {p : β → Prop} {as : List α} {bs : List β}
    (given : ∀ a b, r a b → p b) (related : List.Forall₂ r as bs) : ∀ b ∈ bs, p b := by
  induction related with
  | nil => exact List.forall_mem_nil p
  | cons first _ ih => exact List.forall_mem_cons.mpr ⟨given _ _ first, ih⟩

theorem SettingLine.unbroken (setting : String × Value) (line : String)
    (written : SettingLine setting line) : '\r' ∉ line.toList := by
  obtain ⟨text, denotes, shape⟩ := written
  simp [shape, keyText_unbroken, denotes.unbroken]

theorem SectionText.unbroken (part : String × List (String × Value)) (text : String)
    (written : SectionText part text) : '\r' ∉ text.toList := by
  obtain ⟨lines, settings, shape⟩ := written
  have unbroken := forall_right SettingLine.unbroken settings
  simpa [shape, keyText_unbroken] using unbroken

theorem joinWith_unbroken {texts : List String} (unbroken : ∀ text ∈ texts, '\r' ∉ text.toList) :
    '\r' ∉ (Text.joinWith "\n" texts).toList := by
  induction texts with
  | nil => exact List.not_mem_nil
  | cons text texts ih =>
    obtain ⟨first, others⟩ := List.forall_mem_cons.mp unbroken
    cases texts with
    | nil => exact first
    | cons next texts =>
      rw [Text.joinWith]
      · simp [first, ih others]
      · exact List.cons_ne_nil next texts

/-- Sections of plain values are read back from what is written for them. -/
theorem load_write {sections : Sections} (names : (sections.map (·.1)).Nodup)
    (keys : ∀ part ∈ sections, (part.2.map (·.1)).Nodup)
    (plain : ∀ part ∈ sections, ∀ setting ∈ part.2, Plain setting.2) :
    ∃ text, write? (sectionEntries sections) = some text ∧
      load text = .ok (sectionEntries sections) := by
  obtain ⟨texts, parts, written⟩ := sections_written plain
  obtain ⟨d, leads, holds⟩ := sections_read written .empty names keys
  have text : assemble "" false ⟨[], texts⟩ = Text.joinWith "\n" texts := by
    simp [assemble, String.join_nil]
  refine ⟨Text.joinWith "\n" texts, ?_, ?_⟩
  · rw [write?, parts, Option.map_some, text]
  · rw [load_of_leads ?_ leads, holds.entries]
    · rfl
    · exact joinWith_unbroken (forall_right SectionText.unbroken written)

end SandboxProfile.Toml
