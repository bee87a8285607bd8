import Opcodes.Proofs.CommandLine.Colour
import Opcodes.Proofs.CommandLine.Wishes

/-! The same options, written in another order or in other forms. Reading puts a separate value off
   until it meets the next option, so the choices after an argument are compared as they are once
   they have settled. -/
namespace Opcodes.CommandLine
open Files

def Parameter.longName : Parameter → String
  | .input => "input"
  | .out => "out"
  | .target => "target"

def Parameter.letter : Parameter → Char
  | .input => 'i'
  | .out => 'o'
  | .target => 't'

/-- Where a value stands that belongs to a letter. -/
inductive Place where
  | apart | attached | assigned
  deriving DecidableEq, Repr

def Place.arguments (letters : List Char) (value : String) : Place → List String
  | .apart => [String.ofList ('-' :: letters), value]
  | .attached => [String.ofList ('-' :: (letters ++ value.toList))]
  | .assigned => [String.ofList ('-' :: (letters ++ '=' :: value.toList))]

def Place.steps (p : Parameter) (value : String) : Place → List Step
  | .apart => [.await p, .supply value]
  | .attached | .assigned => [.assign p value]

/-- An option as it is written, or two with one hyphen. -/
inductive Written where
  | switch (s : Switch)
  | quietLetter
  | long (p : Parameter) (assigned : Bool) (value : Value)
  | short (afterQuiet : Bool) (p : Parameter) (place : Place) (value : Value)
  deriving DecidableEq

namespace Written

def quietWishes (afterQuiet : Bool) : List Wish := if afterQuiet then [.switch .quiet] else []

def quietLetters (afterQuiet : Bool) : List Char := if afterQuiet then ['q'] else []

def wishes : Written → List Wish
  | .switch s => [.switch s]
  | .quietLetter => [.switch .quiet]
  | .long p _ value => [.parameter p value]
  | .short afterQuiet p _ value => quietWishes afterQuiet ++ [.parameter p value]

def arguments : Written → List String
  | .switch s => [s.usage]
  | .quietLetter => ["-q"]
  | .long p true value => ["--" ++ p.longName ++ "=" ++ value.text]
  | .long p false value => ["--" ++ p.longName, value.text]
  | .short afterQuiet p place value =>
    place.arguments (quietLetters afterQuiet ++ [p.letter]) value.text

def quietSteps (afterQuiet : Bool) : List Step := if afterQuiet then [.turn .quiet] else []

def steps : Written → List Step
  | .switch s => [.turn s]
  | .quietLetter => [.turn .quiet]
  | .long p true value => Place.assigned.steps p value.text
  | .long p false value => Place.apart.steps p value.text
  | .short afterQuiet p place value => quietSteps afterQuiet ++ place.steps p value.text

end Written

structure Line where
  options : List Written
  marked : Bool := false

namespace Line

def wishes (line : Line) : List Wish := line.options.flatMap Written.wishes

def arguments (line : Line) : List String :=
  line.options.flatMap Written.arguments ++ if line.marked then ["--"] else []

def Spells (line : Line) (wishes : Wishes) : Prop := line.wishes.Perm wishes.all

end Line

namespace Argument

theorem of_switch (s : Switch) :
    ∃ name, ofText s.usage = .long name none ∧ Opt.ofLong? name = some (.switch s) ∧ name ≠ "" := by
  cases s
  · exact ⟨"strict", by decide⟩
  · exact ⟨"check", by decide⟩
  · exact ⟨"list", by decide⟩
  · exact ⟨"quiet", by decide⟩
  · exact ⟨"help", by decide⟩
  · exact ⟨"version", by decide⟩

theorem of_long_name (p : Parameter) : ofText ("--" ++ p.longName) = .long p.longName none := by
  cases p <;> decide

theorem of_assigned (p : Parameter) (value : String) :
    ofText ("--" ++ p.longName ++ "=" ++ value) = .long p.longName (some value) := by
  have chars : ("--" ++ p.longName ++ "=" ++ value).toList =
      '-' :: '-' :: (p.longName.toList ++ '=' :: value.toList) := by
    simp
  have noSign : p.longName.toList.all (fun c => decide (c ≠ '=')) = true := by
    cases p <;> decide
  have apart := List.all_eq_true.mp noSign
  have name : (p.longName.toList ++ '=' :: value.toList).takeWhile (· ≠ '=') =
      p.longName.toList := by
    rw [List.takeWhile_append_of_pos apart, List.takeWhile_cons_of_neg (by decide),
      List.append_nil]
  have rest : (p.longName.toList ++ '=' :: value.toList).dropWhile (· ≠ '=') =
      '=' :: value.toList := by
    rw [List.dropWhile_append_of_pos apart, List.dropWhile_cons_of_neg (by decide)]
  rw [ofText, chars]
  simp only [name, rest, String.ofList_toList]

theorem of_letters {c : Char} (letter : c ≠ '-') (cs : List Char) :
    ofText (String.ofList ('-' :: c :: cs)) = .letters (c :: cs) := by
  rw [ofText, String.toList_ofList]
  split
  · rename_i same
    exact absurd (List.cons.inj (List.cons.inj same).2).1 letter
  · rename_i same
    obtain ⟨rfl, rfl⟩ := List.cons.inj (List.cons.inj same).2
    rfl
  · rename_i other
    exact absurd rfl (other c cs)

theorem of_value (value : Value) : ofText value.text = .word value.text := by
  obtain ⟨c, rest, chars, hyphen, _⟩ := value.opens
  simp [ofText, chars, hyphen]

end Argument

section Steps

theorem steps_of_argument {text : String} (other : Argument.ofText text ≠ .long "" none)
    (rest : List String) :
    lineSteps (text :: rest) = (Argument.ofText text).steps ++ lineSteps rest := by
  have mark : Argument.ofText "--" = .long "" none := by decide
  have unmarked : text ≠ "--" := fun same => other (same ▸ mark)
  rw [lineSteps]
  · exact fun same _ => unmarked same
  · exact fun _ _ same _ => unmarked same

theorem steps_of_long {text name : String} {value : Option String}
    (form : Argument.ofText text = .long name value) (marked : name ≠ "" ∨ value ≠ none)
    (rest : List String) : lineSteps (text :: rest) = longStep name value :: lineSteps rest := by
  have other : Argument.ofText text ≠ .long "" none := by
    rw [form]
    intro same
    obtain ⟨rfl, rfl⟩ := Argument.long.inj same
    rcases marked with named | given
    · exact named rfl
    · exact given rfl
  rw [steps_of_argument other, form]
  rfl

theorem steps_of_value (value : Value) (rest : List String) :
    lineSteps (value.text :: rest) = .supply value.text :: lineSteps rest := by
  have form := Argument.of_value value
  rw [steps_of_argument (by rw [form]; exact nofun), form]
  rfl

theorem steps_of_letters {letter : Char} (sign : letter ≠ '-') (more : List Char)
    (rest : List String) :
    lineSteps (String.ofList ('-' :: letter :: more) :: rest) =
      letterSteps (letter :: more) ++ lineSteps rest := by
  have form := Argument.of_letters sign more
  rw [steps_of_argument (by rw [form]; exact nofun), form]
  rfl

variable (p : Parameter)

theorem known_name : Opt.ofLong? p.longName = some (.parameter p) := by
  cases p <;> decide

theorem known_letter : Opt.ofShort? p.letter = some (.parameter p) := by
  cases p <;> decide

theorem steps_of_group (afterQuiet : Bool) (more : List Char) (rest : List String) :
    lineSteps (String.ofList ('-' :: (Written.quietLetters afterQuiet ++ p.letter :: more)) :: rest) =
      Written.quietSteps afterQuiet ++ valueStep p more :: lineSteps rest := by
  have letter : letterSteps (p.letter :: more) = [valueStep p more] := by
    simp only [letterSteps, known_letter]
  cases afterQuiet with
  | false =>
    have sign : p.letter ≠ '-' := by cases p <;> decide
    exact (steps_of_letters sign more rest).trans (congrArg (· ++ lineSteps rest) letter)
  | true =>
    have known : Opt.ofShort? 'q' = some (.switch .quiet) := by decide
    have group : letterSteps ('q' :: p.letter :: more) = [.turn .quiet, valueStep p more] := by
      rw [letterSteps, known, letter]
    exact (steps_of_letters (by decide) _ rest).trans (congrArg (· ++ lineSteps rest) group)

theorem steps_of_name (rest : List String) :
    lineSteps (("--" ++ p.longName) :: rest) = .await p :: lineSteps rest := by
  have named : p.longName ≠ "" := by cases p <;> decide
  rw [steps_of_long (Argument.of_long_name p) (Or.inl named)]
  simp only [longStep, known_name]

theorem steps_of_assignment (value : String) (rest : List String) :
    lineSteps (("--" ++ p.longName ++ "=" ++ value) :: rest) = .assign p value :: lineSteps rest := by
  rw [steps_of_long (Argument.of_assigned p value) (Or.inr nofun)]
  simp only [longStep, known_name]

theorem steps_of_switch (s : Switch) (rest : List String) :
    lineSteps (s.usage :: rest) = .turn s :: lineSteps rest := by
  obtain ⟨name, form, known, named⟩ := Argument.of_switch s
  rw [steps_of_long form (Or.inl named)]
  simp only [longStep, known]

theorem steps_of_place (afterQuiet : Bool) (place : Place) (value : Value) (rest : List String) :
    lineSteps (place.arguments (Written.quietLetters afterQuiet ++ [p.letter]) value.text ++ rest) =
      Written.quietSteps afterQuiet ++ place.steps p value.text ++ lineSteps rest := by
  obtain ⟨first, more, chars, _, sign⟩ := value.opens
  cases place with
  | apart =>
    have group := steps_of_group p afterQuiet [] (value.text :: rest)
    rw [steps_of_value] at group
    simpa [Place.arguments, Place.steps, valueStep] using group
  | attached =>
    have group := steps_of_group p afterQuiet value.text.toList rest
    have step : valueStep p value.text.toList = .assign p value.text := by
      rw [chars, value_step_attached p sign, ← chars, String.ofList_toList]
    simpa [Place.arguments, Place.steps, step] using group
  | assigned =>
    have group := steps_of_group p afterQuiet ('=' :: value.text.toList) rest
    simpa [Place.arguments, Place.steps, valueStep] using group

theorem steps_of_written (w : Written) (rest : List String) :
    lineSteps (w.arguments ++ rest) = w.steps ++ lineSteps rest := by
  cases w with
  | switch s => exact steps_of_switch s rest
  | quietLetter => rfl
  | long p assigned value =>
    cases assigned with
    | true => exact steps_of_assignment p value.text rest
    | false => exact (steps_of_name p _).trans (congrArg _ (steps_of_value value rest))
  | short afterQuiet p place value => exact steps_of_place p afterQuiet place value rest

theorem steps_of_line (line : Line) :
    lineSteps line.arguments = line.options.flatMap Written.steps := by
  obtain ⟨options, marked⟩ := line
  rw [Line.arguments]
  induction options with
  | nil => cases marked <;> rfl
  | cons w options ih =>
    rw [List.flatMap_cons, List.flatMap_cons, List.append_assoc, steps_of_written, ih]

end Steps

namespace Choices

section Holding
variable {c : Choices} {ws : List Wish}

theorem distinct_before {later : List Wish} (distinct : ((ws ++ later).map Wish.option).Nodup) :
    (ws.map Wish.option).Nodup := by
  rw [List.map_append] at distinct
  exact distinct.of_append_left

theorem new_of_distinct {wish : Wish} (distinct : ((ws ++ [wish]).map Wish.option).Nodup) :
    wish.option ∉ ws.map Wish.option := by
  rw [List.map_append, List.map_singleton, List.nodup_append] at distinct
  intro listed
  exact distinct.2.2 _ listed _ (List.mem_singleton_self _) rfl

/-- A value that was put off settles as if it had been taken in at once. -/
theorem awaited_settles (p : Parameter) (value : String) :
    settle { holding ws with pending := some ⟨p, some value⟩ } = (holding ws).assign p value := rfl

theorem holding_settled : (holding ws).settle = .ok (holding ws) := rfl

variable (held : c.settle = .ok (holding ws))
include held

theorem take_switch {s : Switch} (sound : (Wish.switch s).IsSound)
    (distinct : ((ws ++ [Wish.switch s]).map Wish.option).Nodup) :
    c.take (.turn s) = .ok (holding (ws ++ [.switch s])) := by
  rw [take, held]
  exact turn_on_holding sound (new_of_distinct distinct)

theorem conclude_value {p : Parameter} {value : Value} (place : Place)
    (sound : (Wish.parameter p value).IsSound)
    (distinct : ((ws ++ [Wish.parameter p value]).map Wish.option).Nodup) :
    c.conclude (place.steps p value.text) = .ok (holding (ws ++ [.parameter p value])) := by
  have taken := assign_holding sound (new_of_distinct distinct)
  cases place with
  | apart =>
    have awaits : c.takeAll [.await p, .supply value.text] =
        .ok { holding ws with pending := some ⟨p, some value.text⟩ } := by
      rw [take_all_cons, take, held]
      rfl
    rw [conclude, Place.steps, awaits]
    exact (awaited_settles p value.text).trans taken
  | attached | assigned =>
    rw [conclude, Place.steps, take_all_single, take, held]
    change (holding ws).assign p value.text >>= settle = _
    rw [taken]
    exact holding_settled

theorem conclude_written (w : Written) (sound : ∀ wish ∈ w.wishes, wish.IsSound)
    (distinct : ((ws ++ w.wishes).map Wish.option).Nodup) :
    c.conclude w.steps = .ok (holding (ws ++ w.wishes)) := by
  cases w with
  | switch | quietLetter =>
    have wish := sound _ (List.mem_singleton_self _)
    rw [conclude, Written.steps, take_all_single, take_switch held wish distinct]
    exact holding_settled
  | long p assigned value =>
    have wish := sound _ (List.mem_singleton_self _)
    cases assigned with
    | true => exact conclude_value held .assigned wish distinct
    | false => exact conclude_value held .apart wish distinct
  | short afterQuiet p place value =>
    have wish := sound _ (List.mem_append_right _ (List.mem_singleton_self _))
    cases afterQuiet with
    | false => exact conclude_value held place wish distinct
    | true =>
      have quiet := sound _ (List.mem_append_left _ (List.mem_singleton_self _))
      rw [Written.wishes, ← List.append_assoc] at distinct ⊢
      rw [Written.steps, conclude_append, Written.quietSteps, if_pos rfl, take_all_single,
        take_switch held quiet (distinct_before distinct)]
      exact conclude_value holding_settled place wish distinct

theorem conclude_options {options : List Written}
    (sound : ∀ wish ∈ options.flatMap Written.wishes, wish.IsSound)
    (distinct : ((ws ++ options.flatMap Written.wishes).map Wish.option).Nodup) :
    c.conclude (options.flatMap Written.steps) =
      .ok (holding (ws ++ options.flatMap Written.wishes)) := by
  -- The choices between two options may still have a value to take in; what they settle to is
  -- what the next option finds.
  induction options generalizing c ws with
  | nil =>
    rw [List.flatMap_nil, List.flatMap_nil, List.append_nil]
    exact held
  | cons w options ih =>
    rw [List.flatMap_cons] at sound ⊢
    rw [List.flatMap_cons, ← List.append_assoc] at distinct ⊢
    obtain ⟨first, later⟩ := List.forall_mem_append.mp sound
    have written := conclude_written held w first (distinct_before distinct)
    obtain ⟨next, taken, settled⟩ := bind_ok_iff.mp written
    rw [conclude_append, taken]
    exact ih settled later distinct

end Holding

theorem conclude_line {line : Line} (sound : ∀ wish ∈ line.wishes, wish.IsSound)
    (distinct : (line.wishes.map Wish.option).Nodup) :
    ({} : Choices).conclude (lineSteps line.arguments) = .ok (holding line.wishes) := by
  have nothing : ({} : Choices).settle = .ok (holding []) := by
    simp [settle, holding]
  rw [steps_of_line]
  exact conclude_options nothing sound distinct

end Choices

namespace Wishes
variable {wishes : Wishes}

theorem choices_spelled {line : Line} (spelled : line.Spells wishes) :
    Choices.holding line.wishes = wishes.choices := by
  have input := single_of_perm spelled (wishes.texts_of_all .input)
  have output := single_of_perm spelled (wishes.texts_of_all .out)
  have target := single_of_perm spelled wishes.target_of_all
  have modes := single_of_perm spelled wishes.modes_of_all
  simp only [Choices.holding, input, output, target, modes, spelled.mem_iff, switch_in_all,
    Option.head?_toList, Bool.decide_eq_true]
  rfl

theorem invocation_of_choices : wishes.choices.toInvocation = .ok wishes.invocation := by
  obtain ⟨input, output, target, strict, quiet, mode⟩ := wishes
  cases mode <;> rfl

theorem spelled_invocation {line : Line} (spelled : line.Spells wishes) :
    Request.ofArguments line.arguments = .ok (.work wishes.invocation) := by
  have sound : ∀ wish ∈ line.wishes, wish.IsSound :=
    fun wish there => wishes.sound wish (spelled.mem_iff.mp there)
  have distinct : (line.wishes.map Wish.option).Nodup :=
    (spelled.map Wish.option).nodup_iff.mpr wishes.distinct
  have read := Choices.conclude_line sound distinct
  rw [choices_spelled spelled] at read
  have whole : ({} : Choices).readArguments line.arguments = .ok wishes.invocation := by
    rw [Choices.read_arguments_eq, read]
    exact invocation_of_choices
  rw [Request.ofArguments, whole]

end Wishes

/-- Neither the order of the options nor their forms make a difference. All lines with the same
    options ask for the same, so on the same files they run alike. -/
theorem spelling_makes_no_difference (wishes : Wishes) (first second : Line)
    (spelled : first.Spells wishes) (respelled : second.Spells wishes) :
    Request.ofArguments first.arguments = .ok (.work wishes.invocation) ∧
    Request.ofArguments second.arguments = .ok (.work wishes.invocation) ∧
    ∀ (tree : Tree) (colour : Bool),
      shown colour first.arguments tree = shown colour second.arguments tree := by
  have parsed := Wishes.spelled_invocation spelled
  have reparsed := Wishes.spelled_invocation respelled
  refine ⟨parsed, reparsed, ?_⟩
  intro tree colour
  unfold shown
  rw [run_request parsed, run_request reparsed]

theorem spellings_write_alike :
    ∃ (wishes : Wishes) (first second : Line) (tree : Tree),
      first.arguments = ["-qid-e=f", "--strict", "-t=JSON", "-o", "ir"] ∧
      second.arguments =
        ["--target", "JSON", "--out=ir", "--quiet", "--strict", "--input", "d-e=f", "--"] ∧
      first.Spells wishes ∧ second.Spells wishes ∧
      wishes.invocation =
        { input := some "d-e=f", output := "ir", target := .json, strict := true, quiet := true } ∧
      Request.ofArguments first.arguments = .ok (.work wishes.invocation) ∧
      Request.ofArguments second.arguments = .ok (.work wishes.invocation) ∧
      (shown false first.arguments tree).status = 0 ∧
      (shown false first.arguments tree).files.find? ["ir"] ≠ tree.find? ["ir"] ∧
      ∀ colour, shown colour first.arguments tree = shown colour second.arguments tree := by
  let input : Value := ⟨"d-e=f", 'd', ['-', 'e', '=', 'f'], by decide⟩
  let output : Value := ⟨"ir", 'i', ['r'], by decide⟩
  let target : TargetName := ⟨⟨"JSON", 'J', ['S', 'O', 'N'], by decide⟩, .json, by decide⟩
  let wishes : Wishes :=
    { input := some input, output := some output, target := some target, strict := true,
      quiet := true }
  let first : Line :=
    ⟨[.short true .input .attached input, .switch .strict,
      .short false .target .assigned target.toValue, .short false .out .apart output], false⟩
  let second : Line :=
    ⟨[.long .target false target.toValue, .long .out true output, .switch .quiet, .switch .strict,
      .long .input false input], true⟩
  let tree : Tree := ⟨[(["d-e=f"], .file "add sub".toUTF8)]⟩
  have spelled : first.Spells wishes := by
    unfold Line.Spells
    decide
  have respelled : second.Spells wishes := by
    unfold Line.Spells
    decide
  have success : (shown false first.arguments tree).status = 0 := by decide +kernel
  have written : (shown false first.arguments tree).files.find? ["ir"] ≠ tree.find? ["ir"] := by
    decide +kernel
  obtain ⟨parsed, reparsed, alike⟩ :=
    spelling_makes_no_difference wishes first second spelled respelled
  exact ⟨wishes, first, second, tree, by decide, by decide, spelled, respelled, by decide, parsed,
    reparsed, success, written, alike tree⟩

end Opcodes.CommandLine
