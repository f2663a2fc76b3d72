import SandboxProfile.Proofs.Policy.Sealed

/-! Values in regular expressions. A regular expression is written as it is, so a double
quote would end it; no path has one, and quoting for a regular expression adds none. -/
namespace SandboxProfile

theorem hasDoubleQuote_append (s t : String) :
    hasDoubleQuote (s ++ t) = (hasDoubleQuote s || hasDoubleQuote t) := by
  simp [hasDoubleQuote]

/-- Quoting for a regular expression brings no quotes in. -/
theorem hasDoubleQuote_regexQuote (s : String) :
    hasDoubleQuote (Template.regexQuote s) = hasDoubleQuote s := by
  have quoted (cs : List Char) : '"' ∈ Template.regexQuoteList cs ↔ '"' ∈ cs := by
    induction cs with
    | nil => rfl
    | cons c cs ih =>
      rw [Template.regexQuoteList] at ih
      by_cases special : Template.isMeta c = true <;>
        simp [Template.regexQuoteList, special, ih]
  rw [Bool.eq_iff_iff]
  simp [hasDoubleQuote, Template.regexQuote, quoted]

namespace Store

/-- The stores that bind some names, if at all, as paths. -/
def BindsPaths (paths : List String) (s : Store) : Prop :=
  ∀ name ∈ paths, ∀ p, s.find? name = some p → p.kind = .path ∨ p.kind = .optionalPath

theorem setting_of_bindsPaths {s : Store} (reached : s.Reached) {paths : List String}
    (bound : s.BindsPaths paths) {name : String} (member : name ∈ paths) {setting : Setting}
    (found : s.setting name = .ok (some setting)) :
    ∃ path, setting = .text path ∧ hasDoubleQuote path = false := by
  unfold Store.setting Store.get at found
  cases lookup : s.find? name with
  | none => rw [lookup] at found; contradiction
  | some p =>
    rw [lookup] at found
    have set : p.setting = some setting := Except.ok.inj found
    have admitted := (reached.fits_of_find? lookup).admitted
    rcases bound name member p lookup with kind | kind
    · rw [kind, set] at admitted
      cases setting <;> simp_all [ParamKind.admits]
    · rw [kind, set] at admitted
      cases setting <;> simp_all [ParamKind.admits]

end Store

/-- A reference to a path stands for a text without quotes. -/
theorem Ref.resolve_unquoted {s : Store} (reached : s.Reached) {paths : List String}
    (bound : s.BindsPaths paths) {r : Ref} (member : r.param ∈ paths) {text : String}
    (resolved : r.resolve s = .ok (some text)) : hasDoubleQuote text = false := by
  unfold Ref.resolve at resolved
  split at resolved
  · contradiction
  · split at resolved <;> simp at resolved
  · next on found =>
    obtain ⟨path, flag, -⟩ := Store.setting_of_bindsPaths reached bound member found
    contradiction
  · next i found =>
    obtain ⟨path, number, -⟩ := Store.setting_of_bindsPaths reached bound member found
    contradiction
  · next path found =>
    obtain ⟨_, same, unquoted⟩ := Store.setting_of_bindsPaths reached bound member found
    obtain rfl := Setting.text.inj same
    obtain rfl := Option.some.inj (Except.ok.inj resolved)
    unfold Ref.resolve.write
    split
    · rwa [hasDoubleQuote_regexQuote]
    · exact unquoted

/-- A sealed template never ends the regular expression that it stands in. -/
theorem Template.render_unquoted {s : Store} (reached : s.Reached) {paths : List String}
    (bound : s.BindsPaths paths) {parts : Template} (isSealed : parts.isSealed paths = true)
    {text : String} (rendered : Template.render s parts = .ok (some text)) :
    hasDoubleQuote text = false := by
  induction parts generalizing text with
  | nil =>
    obtain rfl := Option.some.inj (Except.ok.inj rendered)
    rfl
  | cons part rest ih =>
    simp only [Template.isSealed, List.all_cons, Bool.and_eq_true] at isSealed
    cases part with
    | fixed prefixed =>
      obtain ⟨out, others, joined⟩ := Outcome.map_eq_ok.mp rendered
      obtain ⟨tail, rfl, rfl⟩ := Option.map_eq_some_iff.mp joined
      rw [hasDoubleQuote_append, ih isSealed.2 others]
      simpa using isSealed.1
    | ref r =>
      obtain ⟨value, resolved, rendered⟩ := Outcome.bind_eq_ok.mp rendered
      cases value with
      | none => simp [pure, Except.pure] at rendered
      | some value =>
        obtain ⟨out, others, joined⟩ := Outcome.map_eq_ok.mp rendered
        obtain ⟨tail, rfl, rfl⟩ := Option.map_eq_some_iff.mp joined
        rw [hasDoubleQuote_append, ih isSealed.2 others]
        simpa using r.resolve_unquoted reached bound (by simpa using isSealed.1) resolved

end SandboxProfile
