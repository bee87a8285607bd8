import Opcodes.CommandLine.Arguments
import Opcodes.Proofs.Generation

/-! A command line as a series of steps. How an argument is spelled decides only which steps it asks for.
   What a step can do to the choices is told here once, and so is the induction over a line. -/
namespace Opcodes.CommandLine

inductive Step where
  | turn (s : Switch)
  | assign (p : Parameter) (value : String)
  | await (p : Parameter)
  | supply (value : String)
  | refuse (e : UsageError)
  deriving DecidableEq, Repr

def Step.switch? : Step → Option Switch
  | .turn s => some s
  | _ => none

def valueStep (p : Parameter) : List Char → Step
  | [] => .await p
  | '=' :: value => .assign p (String.ofList value)
  | value => .assign p (String.ofList value)

theorem value_step_attached (p : Parameter) {c : Char} (sign : c ≠ '=') (rest : List Char) :
    valueStep p (c :: rest) = .assign p (String.ofList (c :: rest)) := by
  simp [valueStep, sign]

def letterSteps : List Char → List Step
  | [] => []
  | letter :: rest =>
    match Opt.ofShort? letter with
    | none => [.refuse (.unexpectedArgument (String.ofList ['-', letter]))]
    | some (.switch s) => .turn s :: letterSteps rest
    | some (.parameter p) => [valueStep p rest]

def longStep (name : String) (value : Option String) : Step :=
  match Opt.ofLong? name, value with
  | none, _ => .refuse (.unexpectedArgument ("--" ++ name))
  | some (.switch s), some value => .refuse (.unexpectedValue value s)
  | some (.switch s), none => .turn s
  | some (.parameter p), some value => .assign p value
  | some (.parameter p), none => .await p

def Argument.steps : Argument → List Step
  | .letters cs => letterSteps cs
  | .long name value => [longStep name value]
  | .word text => [.supply text]

/-- The steps of a line. Those behind a refusal are listed too, though none of them is taken. -/
def lineSteps : List String → List Step
  | [] => []
  | ["--"] => []
  | "--" :: extra :: rest => .refuse (.unexpectedArgument extra) :: lineSteps (extra :: rest)
  | argument :: rest => (Argument.ofText argument).steps ++ lineSteps rest

theorem ok_of_unless {ε α : Type} {refused : Prop} [Decidable refused] {e : ε} {a b : α}
    (accepted : (if refused then .error e else .ok a : Except ε α) = .ok b) : ¬ refused ∧ a = b := by
  split at accepted
  · cases accepted
  · rename_i free
    exact ⟨free, Except.ok.inj accepted⟩

namespace Choices

def take (c : Choices) : Step → Except Stop Choices
  | .turn s => do (← c.settle).turnOn s
  | .assign p value => do (← c.settle).assign p value
  | .await p => do return (← c.settle).await p
  | .supply value =>
    match c.pending with
    | some ⟨p, none⟩ => .ok { c with pending := some ⟨p, some value⟩ }
    | _ => .error (.wrong (.unexpectedArgument value))
  | .refuse e => .error (.wrong e)

def takeAll (c : Choices) (steps : List Step) : Except Stop Choices := steps.foldlM take c

def conclude (c : Choices) (steps : List Step) : Except Stop Choices := c.takeAll steps >>= settle

section Reading
variable (c : Choices)

theorem take_all_cons (step : Step) (steps : List Step) :
    c.takeAll (step :: steps) = c.take step >>= fun next => next.takeAll steps := rfl

theorem take_all_single (step : Step) : c.takeAll [step] = c.take step := by
  rw [take_all_cons]
  exact bind_pure _

theorem take_all_append (first second : List Step) :
    c.takeAll (first ++ second) = c.takeAll first >>= fun next => next.takeAll second :=
  List.foldlM_append

theorem conclude_append (first second : List Step) :
    c.conclude (first ++ second) = c.takeAll first >>= fun next => next.conclude second := by
  rw [conclude, take_all_append, bind_assoc]
  rfl

theorem read_letters_eq (letters : List Char) :
    c.readLetters letters = c.takeAll (letterSteps letters) := by
  induction letters generalizing c with
  | nil => rfl
  | cons letter rest ih =>
    simp only [readLetters, letterSteps]
    cases Opt.ofShort? letter with
    | none => rfl
    | some option =>
      cases option with
      | switch s =>
        simp only [take_all_cons, take, bind_assoc, ih]
      | parameter p =>
        simp only [take_all_single]
        fun_cases valueStep p rest with
        | case1 => rfl
        | case2 value => rfl
        | case3 _ empty sign =>
          refine bind_congr fun settled => ?_
          split
          · exact (empty rfl).elim
          · exact (sign _ rfl).elim
          · rfl

theorem read_argument_eq (text : String) :
    c.readArgument text = c.takeAll (Argument.ofText text).steps := by
  unfold readArgument
  cases Argument.ofText text with
  | letters letters => exact read_letters_eq c letters
  | word text => exact (take_all_single c (.supply text)).symm
  | long name value =>
    simp only [Argument.steps, longStep, take_all_single]
    cases Opt.ofLong? name with
    | none => rfl
    | some option => cases option <;> cases value <;> rfl

theorem read_arguments_eq (arguments : List String) :
    c.readArguments arguments = c.conclude (lineSteps arguments) >>= toInvocation := by
  fun_induction readArguments c arguments with
  | case1 c => rfl
  | case2 c => rfl
  | case3 c extra rest => rfl
  | case4 c argument rest notLast notEnd ih =>
    have steps : lineSteps (argument :: rest) = (Argument.ofText argument).steps ++ lineSteps rest :=
      lineSteps.eq_4 argument rest notLast notEnd
    rw [read_argument_eq, steps, conclude_append, bind_assoc]
    exact bind_congr ih

end Reading

/-- A step as the choices take it in that are not waiting for anything to be settled. -/
inductive Takes (c : Choices) : Step → Choices → Prop
  | input {path : String} (first : ¬ c.input.isSome) (named : path ≠ "") :
      Takes c (.assign .input path) { c with input := some path }
  | output {path : String} (first : ¬ c.output.isSome) (named : path ≠ "") :
      Takes c (.assign .out path) { c with output := some path }
  | target {name : String} {target : Target} (first : ¬ c.target.isSome)
      (accepted : Target.parse name = .ok target) :
      Takes c (.assign .target name) { c with target := some target }
  | strict (first : ¬ c.strict) : Takes c (.turn .strict) { c with strict := true }
  | quiet (first : ¬ c.quiet) : Takes c (.turn .quiet) { c with quiet := true }
  | mode {s : Switch} (chooses : s = .check ∨ s = .list) (first : s ∉ c.modes) :
      Takes c (.turn s) { c with modes := c.modes ++ [s] }
  | await {p : Parameter} : Takes c (.await p) (c.await p)
  | supply {p : Parameter} {value : String} (awaited : c.pending = some ⟨p, none⟩) :
      Takes c (.supply value) { c with pending := some ⟨p, some value⟩ }

def Settles (c next : Choices) : Prop :=
  next = c ∨ ∃ p value, c.pending = some ⟨p, some value⟩ ∧
    Takes { c with pending := none } (.assign p value) next

section Taking
variable {c next : Choices}

theorem assign_cases {p : Parameter} {value : String} (assigned : c.assign p value = .ok next) :
    c.Takes (.assign p value) next := by
  revert assigned
  fun_cases assign c p value with
  | case3 first named =>
    intro assigned
    obtain rfl := Except.ok.inj assigned
    exact .input first named
  | case6 first named =>
    intro assigned
    obtain rfl := Except.ok.inj assigned
    exact .output first named
  | case9 first target accepted =>
    intro assigned
    obtain rfl := Except.ok.inj assigned
    exact .target first accepted
  | _ => exact nofun

theorem turn_on_cases {s : Switch} (turned : c.turnOn s = .ok next) : c.Takes (.turn s) next := by
  cases s with
  | help | version => cases turned
  | strict =>
    obtain ⟨first, rfl⟩ := ok_of_unless turned
    exact .strict first
  | quiet =>
    obtain ⟨first, rfl⟩ := ok_of_unless turned
    exact .quiet first
  | check =>
    obtain ⟨first, rfl⟩ := ok_of_unless turned
    exact .mode (Or.inl rfl) first
  | list =>
    obtain ⟨first, rfl⟩ := ok_of_unless turned
    exact .mode (Or.inr rfl) first

theorem settle_cases (settled : c.settle = .ok next) : c.Settles next := by
  revert settled
  fun_cases settle c with
  | case1 =>
    intro settled
    exact Or.inl (Except.ok.inj settled).symm
  | case2 => exact nofun
  | case3 p value awaited =>
    intro settled
    exact Or.inr ⟨p, value, awaited, assign_cases settled⟩

theorem take_cases {step : Step} (taken : c.take step = .ok next) :
    ∃ settled, c.Settles settled ∧ settled.Takes step next := by
  cases step with
  | turn s =>
    obtain ⟨settled, settles, turns⟩ := bind_ok_iff.mp taken
    exact ⟨settled, settle_cases settles, turn_on_cases turns⟩
  | assign p value =>
    obtain ⟨settled, settles, assigns⟩ := bind_ok_iff.mp taken
    exact ⟨settled, settle_cases settles, assign_cases assigns⟩
  | await p =>
    obtain ⟨settled, settles, awaits⟩ := bind_ok_iff.mp taken
    obtain rfl := Except.ok.inj awaits
    exact ⟨settled, settle_cases settles, .await⟩
  | supply value =>
    simp only [take] at taken
    split at taken
    · rename_i awaited
      obtain rfl := Except.ok.inj taken
      exact ⟨c, Or.inl rfl, .supply awaited⟩
    · cases taken
  | refuse e => cases taken

variable {R : List Step → Choices → Prop}
  (settles : ∀ {done : List Step} {d e : Choices}, R done d → d.Settles e → R done e)
  (takes : ∀ {done : List Step} {step : Step} {d e : Choices}, R done d → d.Takes step e →
    R (done ++ [step]) e)
include settles takes

theorem take_all_keeps {done steps : List Step} (held : R done c)
    (taken : c.takeAll steps = .ok next) : R (done ++ steps) next := by
  induction steps generalizing c done with
  | nil =>
    obtain rfl := Except.ok.inj taken
    rwa [List.append_nil]
  | cons step steps ih =>
    obtain ⟨d, first, later⟩ := bind_ok_iff.mp taken
    obtain ⟨settled, settling, taking⟩ := take_cases first
    rw [List.append_cons]
    exact ih (takes (settles held settling) taking) later

/-- What settling and every step preserve holds at the end of the line, for all of its steps. -/
theorem conclude_keeps {steps : List Step} (start : R [] c)
    (concluded : c.conclude steps = .ok next) : R steps next := by
  obtain ⟨last, taken, settled⟩ := bind_ok_iff.mp concluded
  have all := take_all_keeps (R := R) settles takes start taken
  rw [List.nil_append] at all
  exact settles all (settle_cases settled)

end Taking

end Choices
end Opcodes.CommandLine
