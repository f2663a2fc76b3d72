import SandboxProfile.Proofs.Policy.Paired

/-! Parameters that are supplied. A statement that refers to one parameter only, and does not
require it, is absent as long as the parameter is not set. If the parameter is set to a text,
then the statement is there, and the text stands in one of its filters. -/
namespace SandboxProfile

/-- Whether a template refers to one parameter only, as it is and without requiring it. -/
def Template.asksOnly (name : String) (parts : Template) : Bool :=
  parts.all fun
    | .fixed _ => true
    | .ref r => r == ⟨name, false, false⟩

def Arg.asksOnly (name : String) : Arg → Bool
  | .template parts => parts.asksOnly name
  | a => a.isFixed

def Arg.texts : Arg → List String
  | .text content => [content]
  | _ => []

namespace Filter

mutual
def texts : Filter → List String
  | .only _ first others => first.texts ++ others.flatMap Arg.texts
  | .all filters => textsOf filters
  | .any filters => textsOf filters
  | .not filter => texts filter
  | .stray _ => []

def textsOf : List Filter → List String
  | [] => []
  | f :: rest => texts f ++ textsOf rest
end

theorem textsOf_eq_flatMap (filters : List Filter) : textsOf filters = filters.flatMap texts := by
  induction filters with
  | nil => rfl
  | cons f rest ih => rw [textsOf, ih, List.flatMap_cons]

end Filter

/-- Whether a value stands in one of some texts. -/
def StandsIn (value : String) (texts : List String) : Prop :=
  ∃ text ∈ texts, value.toList <:+: text.toList

def Filter.Contains (value : String) (f : Filter) : Prop := StandsIn value f.texts

theorem StandsIn.append_left {value : String} {texts : List String} (h : StandsIn value texts)
    (more : List String) : StandsIn value (texts ++ more) := by
  obtain ⟨text, member, inside⟩ := h
  exact ⟨text, List.mem_append_left more member, inside⟩

theorem StandsIn.append_right {value : String} {texts : List String} (h : StandsIn value texts)
    (more : List String) : StandsIn value (more ++ texts) := by
  obtain ⟨text, member, inside⟩ := h
  exact ⟨text, List.mem_append_right more member, inside⟩

/-- A part of a policy in two stores: in the first it is absent exactly if it mentions the
parameter, and in the second it is there and, if it does mention it, has a property. -/
structure Fills (mentioned : Prop) (has : α → Prop) (x y : Except PolicyFault (Option α)) :
    Prop where
  without : ∃ out, x = .ok out ∧ (out = none ↔ mentioned)
  within : ∃ a, y = .ok (some a) ∧ (mentioned → has a)

namespace Fills
variable {α β γ : Type} {mentioned also : Prop} {has : α → Prop} {hasToo : β → Prop}
  {hasAll : γ → Prop} {x y : Except PolicyFault (Option α)} {z w : Except PolicyFault (Option β)}

theorem unmentioned (a : α) (has : α → Prop) : Fills False has (.ok (some a)) (.ok (some a)) :=
  ⟨⟨some a, rfl, by simp⟩, ⟨a, rfl, False.elim⟩⟩

theorem map (fills : Fills mentioned has x y) {f : α → β} (next : ∀ a, has a → hasToo (f a)) :
    Fills mentioned hasToo (x.map (Option.map f)) (y.map (Option.map f)) := by
  obtain ⟨⟨out, rfl, absent⟩, ⟨a, rfl, present⟩⟩ := fills
  exact ⟨⟨out.map f, rfl, by rw [Option.map_eq_none_iff, absent]⟩,
    ⟨f a, rfl, fun mentions => next a (present mentions)⟩⟩

/-- One part and then another one, which is not looked at if the first is absent. -/
theorem both (first : Fills mentioned has x y) (second : Fills also hasToo z w)
    {f g : Option α → Except PolicyFault (Option γ)} {k : α → β → γ}
    (absent : f none = .ok none) (present : ∀ a, f (some a) = z.map (Option.map (k a)))
    (alsoPresent : ∀ a, g (some a) = w.map (Option.map (k a)))
    (left : ∀ a b, has a → hasAll (k a b)) (right : ∀ a b, hasToo b → hasAll (k a b)) :
    Fills (mentioned ∨ also) hasAll (x >>= f) (y >>= g) := by
  obtain ⟨⟨out, rfl, without⟩, ⟨a, rfl, within⟩⟩ := first
  obtain ⟨⟨other, rfl, withoutToo⟩, ⟨b, rfl, withinToo⟩⟩ := second
  constructor
  · cases out with
    | none => exact ⟨none, absent, by simp [← without]⟩
    | some a' =>
      refine ⟨other.map (k a'), present a', ?_⟩
      rw [Option.map_eq_none_iff, withoutToo, ← without]
      simp
  · refine ⟨k a b, alsoPresent a, ?_⟩
    rintro (mentions | mentions)
    · exact left a b (within mentions)
    · exact right a b (withinToo mentions)

theorem congr (fills : Fills mentioned has x y) (same : mentioned ↔ also) : Fills also has x y :=
  propext same ▸ fills

end Fills

section Supply
variable {name value : String} {s t : Store} (supply : Store.Supply name value s t)
include supply

theorem Template.render_fills : ∀ {parts : Template}, parts.asksOnly name = true →
    Fills (.parameter name ∈ parts.mentions) (fun text => value.toList <:+: text.toList)
      (Template.render s parts) (Template.render t parts) := by
  intro parts asks
  induction parts with
  | nil => exact (Fills.unmentioned "" _).congr (by simp [mentions])
  | cons part rest ih =>
    simp only [asksOnly, List.all_cons, Bool.and_eq_true] at asks
    have later := ih asks.2
    cases part with
    | fixed text =>
      refine (later.map fun out inside => ?_).congr (by simp [mentions])
      rw [String.toList_append]
      exact inside.trans (List.suffix_append _ _).isInfix
    | ref r =>
      have plain : r = ⟨name, false, false⟩ := by simpa using asks.1
      subst plain
      have here : Fills True (fun text => value.toList <:+: text.toList)
          (Ref.resolve s ⟨name, false, false⟩) (Ref.resolve t ⟨name, false, false⟩) := by
        constructor
        · exact ⟨none, by simp [Ref.resolve, supply.unset], by simp⟩
        · refine ⟨value, by simp [Ref.resolve, supply.supplied, Ref.resolve.write], fun _ => ?_⟩
          exact List.infix_rfl
      rw [render, render]
      refine Fills.congr (here.both later (k := (· ++ ·)) rfl (fun _ => rfl) (fun _ => rfl)
        ?_ ?_) (by simp [mentions])
      · intro text out inside
        rw [String.toList_append]
        exact inside.trans (List.prefix_append _ _).isInfix
      · intro text out inside
        rw [String.toList_append]
        exact inside.trans (List.suffix_append _ _).isInfix

theorem Arg.instantiate_fills {a : Arg} (asks : a.asksOnly name = true) :
    Fills (.parameter name ∈ a.mentions) (fun b => StandsIn value b.texts)
      (a.instantiate s) (a.instantiate t) := by
  cases a with
  | template parts =>
    exact (Template.render_fills supply asks).map fun text inside =>
      ⟨text, List.mem_cons_self, inside⟩
  | regex pattern =>
    cases pattern with
    | fixed text => exact (Fills.unmentioned _ _).congr (by simp [mentions])
    | template parts => contradiction
  | stray value => contradiction
  | _ => exact (Fills.unmentioned _ _).congr (by simp [mentions])

theorem traverse_fills {args : List Arg} (asks : args.all (Arg.asksOnly name) = true) :
    Fills (.parameter name ∈ args.flatMap Arg.mentions)
      (fun bs => StandsIn value (bs.flatMap Arg.texts))
      (traverseOption (Arg.instantiate s) args) (traverseOption (Arg.instantiate t) args) := by
  induction args with
  | nil => exact (Fills.unmentioned [] _).congr (by simp)
  | cons a rest ih =>
    rw [List.all_cons, Bool.and_eq_true] at asks
    rw [traverseOption, traverseOption]
    refine Fills.congr ((Arg.instantiate_fills supply asks.1).both (ih asks.2) (k := List.cons)
      rfl (fun _ => rfl) (fun _ => rfl) ?_ ?_) (by simp)
    · exact fun b bs inside => inside.append_left _
    · exact fun b bs inside => inside.append_right _

end Supply

namespace Filter
variable {name value : String} {s t : Store}

mutual
theorem instantiate_fills (supply : Store.Supply name value s t) : ∀ {f : Filter},
    f.every (Arg.asksOnly name) = true →
    Fills (.parameter name ∈ f.mentions) (Contains value) (f.instantiate s) (f.instantiate t)
  | .only kind first others, asks => by
    rw [every, Bool.and_eq_true] at asks
    rw [instantiate, instantiate]
    refine Fills.congr ((Arg.instantiate_fills supply asks.1).both (traverse_fills supply asks.2)
      (k := .only kind) rfl (fun _ => rfl) (fun _ => rfl) ?_ ?_) (by simp [mentions])
    · exact fun a others inside => inside.append_left _
    · exact fun a others inside => inside.append_right _
  | .all filters, asks => by
    rw [instantiate, instantiate]
    exact (instantiateList_fills supply asks).map fun _ inside => inside
  | .any filters, asks => by
    rw [instantiate, instantiate]
    exact (instantiateList_fills supply asks).map fun _ inside => inside
  | .not filter, asks => by
    rw [instantiate, instantiate]
    exact (instantiate_fills supply (f := filter) asks).map fun _ inside => inside
  | .stray value, asks => by contradiction

theorem instantiateList_fills (supply : Store.Supply name value s t) : ∀ {filters : List Filter},
    everyList (Arg.asksOnly name) filters = true →
    Fills (.parameter name ∈ mentionsOf filters) (fun fs => StandsIn value (textsOf fs))
      (instantiateList s filters) (instantiateList t filters)
  | [], _ => (Fills.unmentioned [] _).congr (by simp [mentionsOf])
  | f :: rest, asks => by
    rw [everyList, Bool.and_eq_true] at asks
    rw [instantiateList, instantiateList]
    refine Fills.congr ((instantiate_fills supply asks.1).both
      (instantiateList_fills supply asks.2) (k := List.cons) rfl (fun _ => rfl) (fun _ => rfl)
      ?_ ?_) (by simp [mentionsOf])
    · exact fun g gs inside => inside.append_left _
    · exact fun g gs inside => inside.append_right _
end

end Filter

namespace Statement

/-- Whether a statement without a scope refers to one parameter only, and does so. -/
def asksOnly (name : String) (a : Statement) : Bool :=
  a.scope.isNone && Filter.everyList (Arg.asksOnly name) a.filters &&
    (Filter.mentionsOf a.filters).contains (.parameter name)

/-- Such a statement is absent without the parameter, and with it there is a filter that
contains the text. -/
theorem instantiate_of_asksOnly {name value : String} {s t : Store}
    (supply : Store.Supply name value s t) {a : Statement} (asks : a.asksOnly name = true) :
    a.instantiate s = .ok none ∧ ∃ filters, (∃ f ∈ filters, f.Contains value) ∧
      a.instantiate t = .ok (some { a with filters := filters }) := by
  simp only [asksOnly, Bool.and_eq_true, Option.isNone_iff_eq_none, List.contains_iff_mem] at asks
  obtain ⟨⟨scope, filters⟩, mentions⟩ := asks
  obtain ⟨⟨out, without, absent⟩, ⟨filled, within, present⟩⟩ :=
    Filter.instantiateList_fills supply filters
  obtain rfl := absent.mpr mentions
  obtain ⟨text, member, inside⟩ := present mentions
  rw [Filter.textsOf_eq_flatMap] at member
  obtain ⟨f, listed, told⟩ := List.mem_flatMap.mp member
  refine ⟨?_, filled, ⟨f, listed, text, told, inside⟩, ?_⟩
  · rw [instantiate, without]
    rfl
  · rw [instantiate, within, Outcome.ok_bind, scope]
    simp only [instantiateScope, Except.map, Option.map_some]

end Statement
end SandboxProfile
