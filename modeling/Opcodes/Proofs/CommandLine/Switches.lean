import Opcodes.Proofs.CommandLine.Steps

/-! The switches on a command line. A line with a switch put in front of it is read as the line itself
   is, apart from that switch, unless the switch comes again. -/
namespace Opcodes.CommandLine

/-- The switches among the letters after one hyphen. What follows a parameter is its value. -/
def switchLetters : List Char → List Switch
  | [] => []
  | letter :: rest =>
    match Opt.ofShort? letter with
    | some (.switch s) => s :: switchLetters rest
    | _ => []

def Argument.switches : Argument → List Switch
  | .letters cs => switchLetters cs
  | .long name none =>
    match Opt.ofLong? name with
    | some (.switch s) => [s]
    | _ => []
  | _ => []

def switchesOf (arguments : List String) : List Switch :=
  arguments.flatMap fun text => (Argument.ofText text).switches

def Switch.choosesMode : Switch → Bool
  | .check | .list => true
  | _ => false

theorem bind_map {ε α β : Type} {first : Except ε α} {f : α → α} {g : β → β}
    {next : α → Except ε β} (commutes : ∀ a, next (f a) = (next a).map g) :
    (first.map f >>= next) = (first >>= next).map g := by
  cases first with
  | error e => rfl
  | ok a => exact commutes a

section Steps

theorem switches_of_letters (letters : List Char) :
    (letterSteps letters).filterMap Step.switch? = switchLetters letters := by
  induction letters with
  | nil => rfl
  | cons letter rest ih =>
    simp only [letterSteps, switchLetters]
    cases Opt.ofShort? letter with
    | none => rfl
    | some option =>
      cases option with
      | switch s => exact congrArg (s :: ·) ih
      | parameter p =>
        simp only [valueStep]
        split <;> rfl

theorem switches_of_argument (argument : Argument) :
    argument.steps.filterMap Step.switch? = argument.switches := by
  cases argument with
  | letters letters => exact switches_of_letters letters
  | word text => rfl
  | long name value =>
    cases known : Opt.ofLong? name with
    | none => cases value <;> simp [Argument.steps, longStep, Argument.switches, known, Step.switch?]
    | some option =>
      cases option <;> cases value <;>
        simp [Argument.steps, longStep, Argument.switches, known, Step.switch?]

theorem switches_of_steps (arguments : List String) :
    (lineSteps arguments).filterMap Step.switch? = switchesOf arguments := by
  fun_induction lineSteps arguments with
  | case1 => rfl
  | case2 => rfl
  | case3 extra rest ih => exact ih
  | case4 argument rest notLast notEnd ih =>
    rw [List.filterMap_append, switches_of_argument, ih]
    rfl

end Steps

namespace Choices

def given (s : Switch) (c : Choices) : Choices :=
  { c with
    strict := s = .strict || c.strict
    quiet := s = .quiet || c.quiet
    modes := [s].filter Switch.choosesMode ++ c.modes }

section Given
variable {s : Switch} (c : Choices)

theorem assign_given (p : Parameter) (value : String) :
    (c.given s).assign p value = (c.assign p value).map (given s) := by
  have input : (c.given s).input = c.input := rfl
  have output : (c.given s).output = c.output := rfl
  have target : (c.given s).target = c.target := rfl
  cases p with
  | input =>
    simp only [assign, input]
    split
    · rfl
    · split <;> rfl
  | out =>
    simp only [assign, output]
    split
    · rfl
    · split <;> rfl
  | target =>
    simp only [assign, target]
    split
    · rfl
    · cases Target.parse value <;> rfl

theorem settle_given : (c.given s).settle = c.settle.map (given s) := by
  have pending : (c.given s).pending = c.pending := rfl
  unfold settle
  rw [pending]
  split
  · rfl
  · rfl
  · exact assign_given { c with pending := none } _ _

theorem turn_on_given {t : Switch} (other : t ≠ s) :
    (c.given s).turnOn t = (c.turnOn t).map (given s) := by
  have apart : (s = t) = False := eq_false other.symm
  have listed : t ∈ (c.given s).modes ↔ t ∈ c.modes := by simp [given, other]
  cases t with
  | help | version => rfl
  | strict | quiet =>
    simp only [turnOn, given, apart, decide_false, Bool.false_or]
    split
    · rfl
    · simp [Except.map, given]
  | check | list =>
    simp only [turnOn, listed]
    split
    · rfl
    · simp [Except.map, given]

theorem take_given {step : Step} (other : s ∉ step.switch?) :
    (c.given s).take step = (c.take step).map (given s) := by
  cases step with
  | turn t =>
    have apart : t ≠ s := fun same => other (congrArg some same)
    rw [take, settle_given]
    exact bind_map fun settled => turn_on_given settled apart
  | assign p value =>
    rw [take, settle_given]
    exact bind_map fun settled => assign_given settled p value
  | await p =>
    rw [take, settle_given]
    exact bind_map fun settled => rfl
  | supply value =>
    have pending : (c.given s).pending = c.pending := rfl
    simp only [take, pending]
    split <;> rfl
  | refuse e => rfl

theorem take_all_given {steps : List Step} (absent : s ∉ steps.filterMap Step.switch?) :
    (c.given s).takeAll steps = (c.takeAll steps).map (given s) := by
  induction steps generalizing c with
  | nil => rfl
  | cons step steps ih =>
    rw [List.mem_filterMap] at absent
    rw [take_all_cons, take_all_cons, take_given]
    · refine bind_map fun next => ih next fun later => ?_
      obtain ⟨other, listed, same⟩ := List.mem_filterMap.mp later
      exact absent ⟨other, List.mem_cons_of_mem step listed, same⟩
    · exact fun same => absent ⟨step, List.mem_cons_self, same⟩

theorem conclude_given {steps : List Step} (absent : s ∉ steps.filterMap Step.switch?) :
    (c.given s).conclude steps = (c.conclude steps).map (given s) := by
  rw [conclude, take_all_given c absent]
  exact bind_map settle_given

end Given

structure TakesIn (c : Choices) (ss : List Switch) (next : Choices) : Prop where
  quiet : next.quiet = (c.quiet || decide (.quiet ∈ ss))
  modes : next.modes = c.modes ++ ss.filter Switch.choosesMode

section TakesIn
variable {c next last : Choices}

theorem TakesIn.trans {first second : List Switch} (begun : c.TakesIn first next)
    (goneOn : next.TakesIn second last) : c.TakesIn (first ++ second) last where
  quiet := by
    rw [goneOn.quiet, begun.quiet, Bool.or_assoc, ← Bool.decide_or]
    simp only [List.mem_append]
  modes := by rw [goneOn.modes, begun.modes, List.append_assoc, List.filter_append]

theorem Takes.takes_in {step : Step} (taken : c.Takes step next) :
    c.TakesIn ([step].filterMap Step.switch?) next := by
  cases taken with
  | mode chooses first => rcases chooses with rfl | rfl <;> exact ⟨by simp [Step.switch?], rfl⟩
  | _ =>
    exact ⟨by simp [Step.switch?, Choices.await],
      by simp [Step.switch?, Choices.await, Switch.choosesMode]⟩

theorem Settles.takes_in (settled : c.Settles next) : c.TakesIn [] next := by
  rcases settled with rfl | ⟨p, value, awaited, taken⟩
  · exact ⟨by simp, by simp⟩
  · exact ⟨taken.takes_in.quiet, taken.takes_in.modes⟩

theorem conclude_takes {steps : List Step} (concluded : c.conclude steps = .ok next) :
    c.TakesIn (steps.filterMap Step.switch?) next := by
  refine conclude_keeps (R := fun done d => c.TakesIn (done.filterMap Step.switch?) d) ?_ ?_ ?_ concluded
  · intro done d e held settled
    have all := held.trans settled.takes_in
    rwa [List.append_nil] at all
  · intro done step d e held taken
    have all := held.trans taken.takes_in
    rwa [← List.filterMap_append] at all
  · exact ⟨by simp, by simp⟩

end TakesIn

theorem quiet_invocation (c : Choices) :
    (c.given .quiet).toInvocation = c.toInvocation.map fun inv => { inv with quiet := true } := by
  have modes : (c.given .quiet).modes = c.modes := rfl
  simp only [toInvocation, modes]
  split <;> rfl

theorem check_invocation {c : Choices} {inv : Invocation} (unchosen : c.modes = [])
    (asked : c.toInvocation = .ok inv) :
    (c.given .check).toInvocation = .ok { inv with mode := .check } := by
  have modes : (c.given .check).modes = [.check] := by
    rw [given, unchosen]
    rfl
  simp only [toInvocation, unchosen] at asked
  obtain rfl := Except.ok.inj asked
  simp only [toInvocation, modes]
  rfl

theorem quiet_of_choices {c : Choices} {inv : Invocation} (asked : c.toInvocation = .ok inv) :
    inv.quiet = c.quiet := by
  revert asked
  fun_cases toInvocation c with
  | case1 => exact nofun
  | _ =>
    intro asked
    obtain rfl := Except.ok.inj asked
    rfl

theorem unchosen_of_write {c : Choices} {inv : Invocation} {ss : List Switch}
    (chosen : c.modes = ss.filter Switch.choosesMode) (asked : c.toInvocation = .ok inv)
    (writes : inv.mode = .write) : c.modes = [] := by
  revert asked
  fun_cases toInvocation c with
  | case1 => exact nofun
  | case2 =>
    intro asked
    obtain rfl := Except.ok.inj asked
    cases writes
  | case3 =>
    intro asked
    obtain rfl := Except.ok.inj asked
    cases writes
  | case4 _ notTwo notCheck notList =>
    intro _
    cases modes : c.modes with
    | nil => rfl
    | cons first rest =>
      have mode : first.choosesMode = true := by
        have listed : first ∈ ss.filter Switch.choosesMode := by simp [← chosen, modes]
        exact (List.mem_filter.mp listed).2
      cases rest with
      | cons second more => exact (notTwo _ _ _ modes).elim
      | nil =>
        cases first with
        | check => exact (notCheck modes).elim
        | list => exact (notList modes).elim
        | _ => cases mode

end Choices

section InFront
variable {arguments : List String}

def Request.silenced : Request → Request
  | .work inv => .work { inv with quiet := true }
  | request => request

theorem read_quiet_in_front (absent : .quiet ∉ switchesOf arguments) :
    ({} : Choices).readArguments ("-q" :: arguments) =
      (({} : Choices).readArguments arguments).map fun inv => { inv with quiet := true } := by
  have taken : ({} : Choices).conclude (lineSteps ("-q" :: arguments)) =
      (Choices.given .quiet {}).conclude (lineSteps arguments) := rfl
  rw [← switches_of_steps] at absent
  rw [Choices.read_arguments_eq, Choices.read_arguments_eq, taken, Choices.conclude_given _ absent]
  exact bind_map Choices.quiet_invocation

theorem quiet_in_front {request : Request} (absent : .quiet ∉ switchesOf arguments)
    (parsed : Request.ofArguments arguments = .ok request) :
    Request.ofArguments ("-q" :: arguments) = .ok request.silenced := by
  unfold Request.ofArguments at parsed ⊢
  rw [read_quiet_in_front absent]
  cases read : ({} : Choices).readArguments arguments with
  | ok inv =>
    rw [read] at parsed
    obtain rfl := Except.ok.inj parsed
    rfl
  | error stop =>
    rw [read] at parsed
    cases stop with
    | wrong e => cases parsed
    | help | version =>
      obtain rfl := Except.ok.inj parsed
      rfl

theorem work_read {inv : Invocation} (parsed : Request.ofArguments arguments = .ok (.work inv)) :
    ∃ last, ({} : Choices).conclude (lineSteps arguments) = .ok last ∧ last.toInvocation = .ok inv := by
  unfold Request.ofArguments at parsed
  split at parsed
  · rename_i asked read
    cases parsed
    rw [Choices.read_arguments_eq] at read
    exact bind_ok_iff.mp read
  · cases parsed
  · cases parsed
  · cases parsed

theorem loud_of_absent {inv : Invocation} (absent : .quiet ∉ switchesOf arguments)
    (parsed : Request.ofArguments arguments = .ok (.work inv)) : inv.quiet = false := by
  obtain ⟨last, read, asked⟩ := work_read parsed
  have taken := Choices.conclude_takes read
  rw [Choices.quiet_of_choices asked, taken.quiet, switches_of_steps]
  simp [absent]

theorem check_in_front {inv : Invocation} (parsed : Request.ofArguments arguments = .ok (.work inv))
    (writes : inv.mode = .write) :
    Request.ofArguments ("--check" :: arguments) = .ok (.work { inv with mode := .check }) := by
  obtain ⟨last, read, asked⟩ := work_read parsed
  have chosen : last.modes = ((lineSteps arguments).filterMap Step.switch?).filter Switch.choosesMode :=
    (Choices.conclude_takes read).modes
  have unchosen := Choices.unchosen_of_write chosen asked writes
  have absent : .check ∉ (lineSteps arguments).filterMap Step.switch? := by
    intro listed
    rw [unchosen] at chosen
    exact List.filter_eq_nil_iff.mp chosen.symm .check listed rfl
  have taken : ({} : Choices).conclude (lineSteps ("--check" :: arguments)) =
      (Choices.given .check {}).conclude (lineSteps arguments) := rfl
  have whole : ({} : Choices).readArguments ("--check" :: arguments) =
      .ok { inv with mode := .check } := by
    rw [Choices.read_arguments_eq, taken, Choices.conclude_given _ absent, read]
    exact Choices.check_invocation unchosen asked
  rw [Request.ofArguments, whole]

end InFront

end Opcodes.CommandLine
