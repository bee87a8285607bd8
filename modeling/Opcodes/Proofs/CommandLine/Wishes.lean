import Mathlib.Data.List.Perm.Basic
import Mathlib.Data.List.ReduceOption
import Mathlib.Data.Option.Basic
import Opcodes.Proofs.CommandLine.Switches

/-! Options as a set, apart from any line that they are written on. Taken in one after the other, they
   end in the same choices, whatever their order. -/
namespace Opcodes.CommandLine

/-- A value that every form of its option can carry. -/
structure Value where
  text : String
  opens : ∃ c rest, text.toList = c :: rest ∧ c ≠ '-' ∧ c ≠ '='
  deriving DecidableEq

structure TargetName extends Value where
  target : Target
  accepted : Target.parse text = .ok target

inductive Wish where
  | switch (s : Switch)
  | parameter (p : Parameter) (value : Value)
  deriving DecidableEq

/-- A set of options, each there once at most. -/
structure Wishes where
  input : Option Value := none
  output : Option Value := none
  target : Option TargetName := none
  strict : Bool := false
  quiet : Bool := false
  mode : Mode := .write

def Mode.switch? : Mode → Option Switch
  | .write => none
  | .check => some .check
  | .list => some .list

namespace Wish

def option : Wish → Opt
  | .switch s => .switch s
  | .parameter p _ => .parameter p

def IsSound : Wish → Prop
  | .switch s => s ≠ .help ∧ s ≠ .version
  | .parameter .target value => ∃ target, Target.parse value.text = .ok target
  | .parameter _ _ => True

def textOf? (p : Parameter) : Wish → Option String
  | .switch _ => none
  | .parameter q value => if q = p then some value.text else none

def target? (wish : Wish) : Option Target :=
  (wish.textOf? .target).bind fun text => (Target.parse text).toOption

def mode? : Wish → Option Switch
  | .switch s => if s.choosesMode then some s else none
  | .parameter _ _ => none

end Wish

namespace Wishes

def switchIf (asked : Bool) (s : Switch) : Option Wish := if asked then some (.switch s) else none

def slots (wishes : Wishes) : List (Option Wish) :=
  [wishes.input.map (.parameter .input), wishes.output.map (.parameter .out),
    wishes.target.map fun name => .parameter .target name.toValue,
    switchIf wishes.strict .strict, switchIf wishes.quiet .quiet, wishes.mode.switch?.map .switch]

def all (wishes : Wishes) : List Wish := wishes.slots.reduceOption

def invocation (wishes : Wishes) : Invocation where
  input := wishes.input.map (·.text)
  output := (wishes.output.map (·.text)).getD ({} : Settings).output
  target := (wishes.target.map (·.target)).getD .js
  strict := wishes.strict
  quiet := wishes.quiet
  mode := wishes.mode

theorem options_of_slots {slots : List (Option Wish)} {order : List Opt}
    (ordered : List.Forall₂ (fun slot option => ∀ wish ∈ slot, wish.option = option) slots order) :
    (slots.reduceOption.map Wish.option).Sublist order := by
  induction ordered with
  | nil => exact List.Sublist.slnil
  | @cons slot option slots order same _ ih =>
    cases slot with
    | none => exact ih.cons option
    | some wish =>
      rw [List.reduceOption_cons_of_some, List.map_cons, same wish rfl]
      exact ih.cons_cons option

theorem slot_option {α : Type} {slot : Option α} {f : α → Wish} {option : Opt}
    (same : ∀ a ∈ slot, (f a).option = option) : ∀ wish ∈ slot.map f, wish.option = option := by
  intro wish there
  obtain ⟨a, given, rfl⟩ := Option.map_eq_some_iff.mp there
  exact same a given

theorem switch_option {asked : Bool} {s : Switch} {wish : Wish} (there : wish ∈ switchIf asked s) :
    wish = .switch s := by
  cases asked with
  | false => cases there
  | true => exact (Option.some.inj there).symm

variable (wishes : Wishes)

theorem distinct : (wishes.all.map Wish.option).Nodup := by
  let last : Switch := wishes.mode.switch?.getD .check
  have ordered : List.Forall₂ (fun slot option => ∀ wish ∈ slot, wish.option = option) wishes.slots
      [.parameter .input, .parameter .out, .parameter .target, .switch .strict, .switch .quiet,
        .switch last] := by
    refine .cons ?_ (.cons ?_ (.cons ?_ (.cons ?_ (.cons ?_ (.cons ?_ .nil)))))
    · exact slot_option fun _ _ => rfl
    · exact slot_option fun _ _ => rfl
    · exact slot_option fun _ _ => rfl
    · intro wish there
      rw [switch_option there, Wish.option]
    · intro wish there
      rw [switch_option there, Wish.option]
    · apply slot_option
      intro s there
      simp only [Wish.option, last, Option.mem_def.mp there, Option.getD_some]
  refine (options_of_slots ordered).nodup ?_
  cases mode : wishes.mode <;> simp [last, mode, Mode.switch?]

theorem sound : ∀ wish ∈ wishes.all, wish.IsSound := by
  intro wish listed
  have slot := List.reduceOption_mem_iff.mp listed
  simp only [slots, List.mem_cons, List.not_mem_nil, or_false] at slot
  rcases slot with input | output | target | strict | quiet | mode
  · obtain ⟨value, _, rfl⟩ := Option.map_eq_some_iff.mp input.symm
    trivial
  · obtain ⟨value, _, rfl⟩ := Option.map_eq_some_iff.mp output.symm
    trivial
  · obtain ⟨name, _, rfl⟩ := Option.map_eq_some_iff.mp target.symm
    exact ⟨name.target, name.accepted⟩
  · obtain rfl := switch_option strict.symm
    exact ⟨nofun, nofun⟩
  · obtain rfl := switch_option quiet.symm
    exact ⟨nofun, nofun⟩
  · obtain ⟨s, chosen, rfl⟩ := Option.map_eq_some_iff.mp mode.symm
    cases asked : wishes.mode with
    | write =>
      rw [asked] at chosen
      cases chosen
    | check | list =>
      rw [asked] at chosen
      obtain rfl := Option.some.inj chosen
      exact ⟨nofun, nofun⟩

end Wishes

namespace Choices

def holding (ws : List Wish) : Choices where
  input := (ws.filterMap (Wish.textOf? .input)).head?
  output := (ws.filterMap (Wish.textOf? .out)).head?
  target := (ws.filterMap Wish.target?).head?
  strict := .switch .strict ∈ ws
  quiet := .switch .quiet ∈ ws
  modes := ws.filterMap Wish.mode?

section Taking
variable {ws : List Wish}

/-- What only one option tells is not told as long as it is not there. -/
theorem untold {α : Type} {f : Wish → Option α} {option : Opt}
    (about : ∀ wish a, f wish = some a → wish.option = option) (new : option ∉ ws.map Wish.option) :
    ws.filterMap f = [] := by
  refine List.filterMap_eq_nil_iff.mpr fun wish listed => ?_
  cases told : f wish with
  | none => rfl
  | some a =>
    rw [← about wish a told] at new
    exact absurd (List.mem_map_of_mem listed) new

theorem text_option {p : Parameter} (wish : Wish) (text : String) (told : wish.textOf? p = some text) :
    wish.option = .parameter p := by
  cases wish with
  | switch s => cases told
  | parameter q value =>
    by_cases same : q = p
    · rw [Wish.option, same]
    · rw [Wish.textOf?, if_neg same] at told
      cases told

theorem target_option (wish : Wish) (target : Target) (told : wish.target? = some target) :
    wish.option = .parameter .target := by
  obtain ⟨text, named, _⟩ := Option.bind_eq_some_iff.mp told
  exact text_option wish text named

theorem mode_option {wish : Wish} {s : Switch} (chosen : wish.mode? = some s) :
    wish.option = .switch s := by
  cases wish with
  | parameter p value => cases chosen
  | switch t =>
    by_cases chooses : t.choosesMode = true
    · rw [Wish.mode?, if_pos chooses] at chosen
      rw [Wish.option, Option.some.inj chosen]
    · rw [Wish.mode?, if_neg chooses] at chosen
      cases chosen

theorem mode_new {s : Switch} (new : .switch s ∉ ws.map Wish.option) :
    s ∉ ws.filterMap Wish.mode? := by
  intro listed
  obtain ⟨wish, there, chosen⟩ := List.mem_filterMap.mp listed
  rw [← mode_option chosen] at new
  exact new (List.mem_map_of_mem there)

theorem assign_holding {p : Parameter} {value : Value} (sound : (Wish.parameter p value).IsSound)
    (new : .parameter p ∉ ws.map Wish.option) :
    (holding ws).assign p value.text = .ok (holding (ws ++ [.parameter p value])) := by
  have text := untold text_option new
  obtain ⟨c, rest, chars, _⟩ := value.opens
  have given : value.text ≠ "" := by
    intro empty
    rw [empty] at chars
    cases chars
  cases p with
  | input | out =>
    simp [assign, holding, text, given, Wish.textOf?, Wish.target?, Wish.mode?]
  | target =>
    obtain ⟨named, accepted⟩ := sound
    have target := untold target_option new
    simp [assign, holding, target, accepted, Wish.textOf?, Wish.target?, Wish.mode?,
      Except.toOption]

theorem turn_on_holding {s : Switch} (sound : (Wish.switch s).IsSound)
    (new : .switch s ∉ ws.map Wish.option) :
    (holding ws).turnOn s = .ok (holding (ws ++ [.switch s])) := by
  have absent : .switch s ∉ ws := fun listed => new (List.mem_map_of_mem listed)
  have mode := mode_new new
  cases s with
  | help => exact absurd rfl sound.1
  | version => exact absurd rfl sound.2
  | strict | quiet =>
    simp [turnOn, holding, absent, Wish.textOf?, Wish.target?, Wish.mode?, Switch.choosesMode]
  | check | list =>
    have first : (holding ws).modes = ws.filterMap Wish.mode? := rfl
    rw [← first] at mode
    rw [turnOn, if_neg mode]
    simp [holding, Wish.textOf?, Wish.target?, Wish.mode?, Switch.choosesMode]

end Taking
end Choices

namespace Wishes

theorem single_of_perm {α : Type} {f : Wish → Option α} {ws vs : List Wish} {told : Option α}
    (perm : ws.Perm vs) (single : vs.filterMap f = told.toList) : ws.filterMap f = told.toList := by
  have images := perm.filterMap f
  rw [single] at images
  cases told with
  | none => exact images.eq_nil
  | some a => exact List.perm_singleton.mp images

variable (wishes : Wishes)

def choices : Choices where
  input := wishes.input.map (·.text)
  output := wishes.output.map (·.text)
  target := wishes.target.map (·.target)
  strict := wishes.strict
  quiet := wishes.quiet
  modes := wishes.mode.switch?.toList

/-- What only one slot tells is all that is told. -/
theorem told_by_slot {α : Type} {f : Wish → Option α} {slots : List (Option Wish)}
    {told : Option α} (before after : Nat)
    (images : slots.map (·.bind f) = List.replicate before none ++ told :: List.replicate after none) :
    slots.reduceOption.filterMap f = told.toList := by
  have filtered : slots.reduceOption.filterMap f = (slots.map (·.bind f)).reduceOption := by
    simp [List.reduceOption, List.filterMap_filterMap, List.filterMap_map]
  rw [filtered, images, List.reduceOption_append, List.reduceOption_replicate_none, List.nil_append]
  cases told with
  | none => rw [List.reduceOption_cons_of_none, List.reduceOption_replicate_none, Option.toList_none]
  | some a => rw [List.reduceOption_cons_of_some, List.reduceOption_replicate_none, Option.toList_some]

def value? (wishes : Wishes) : Parameter → Option Value
  | .input => wishes.input
  | .out => wishes.output
  | .target => wishes.target.map (·.toValue)

theorem texts_of_all (p : Parameter) :
    wishes.all.filterMap (Wish.textOf? p) = ((wishes.value? p).map (·.text)).toList := by
  apply told_by_slot p.ctorIdx (5 - p.ctorIdx)
  cases p <;>
    simp [slots, switchIf, value?, Wish.textOf?, Option.map_eq_bind, Option.bind_assoc,
      List.replicate, Parameter.ctorIdx]

theorem target_of_all :
    wishes.all.filterMap Wish.target? = (wishes.target.map (·.target)).toList := by
  apply told_by_slot 2 3
  simp [slots, switchIf, Wish.target?, Wish.textOf?, Option.map_eq_bind, Option.bind_assoc,
    TargetName.accepted, Except.toOption, List.replicate]

theorem modes_of_all : wishes.all.filterMap Wish.mode? = wishes.mode.switch?.toList := by
  apply told_by_slot 5 0
  cases mode : wishes.mode <;>
    simp [slots, switchIf, Wish.mode?, Switch.choosesMode, Mode.switch?, mode, List.replicate]

def asksFor (wishes : Wishes) : Switch → Bool
  | .strict => wishes.strict
  | .quiet => wishes.quiet
  | s => wishes.mode.switch? = some s

theorem switch_in_all (s : Switch) : .switch s ∈ wishes.all ↔ wishes.asksFor s = true := by
  cases mode : wishes.mode <;> cases s <;>
    simp [all, slots, List.reduceOption_mem_iff, switchIf, asksFor, mode, Mode.switch?]

end Wishes
end Opcodes.CommandLine
