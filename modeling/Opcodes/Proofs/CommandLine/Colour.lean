import Opcodes.Proofs.CommandLine.Effects
import Opcodes.Proofs.CommandLine.Switches
import Opcodes.Proofs.Messages
import Opcodes.Proofs.Quiet

/-! Colours on the outputs of a command line. They are put around texts that have no control
   sequences of their own, unless an argument brings one in as part of a path. The help and usage
   errors are not looked at. -/
namespace Opcodes.CommandLine
open Files Text

structure Shown where
  status : Nat
  stdout : String
  stderr : String
  files : Tree

def shown (colour : Bool) (arguments : List String) (tree : Tree) : Shown :=
  let response := (run arguments tree).1
  ⟨response.status, response.stdout colour, response.stderr colour, (run arguments tree).2⟩

def Step.IsClean : Step → Prop
  | .assign _ value | .supply value => HasNoEscape value
  | _ => True

theorem value_step_clean {p : Parameter} {rest : List Char} (free : '\x1b' ∉ rest) :
    (valueStep p rest).IsClean := by
  have value (cs : List Char) (part : cs ⊆ rest) : HasNoEscape (String.ofList cs) := by
    rw [HasNoEscape, String.toList_ofList]
    exact fun escape => free (part escape)
  unfold valueStep
  split
  · trivial
  · exact value _ (List.subset_cons_self _ _)
  · exact value _ (List.Subset.refl _)

theorem letter_steps_clean {letters : List Char} (free : '\x1b' ∉ letters) :
    ∀ step ∈ letterSteps letters, step.IsClean := by
  induction letters with
  | nil => exact List.forall_mem_nil _
  | cons letter rest ih =>
    have later : '\x1b' ∉ rest := mt (List.mem_cons_of_mem letter) free
    rw [letterSteps]
    split
    · exact List.forall_mem_singleton.mpr trivial
    · exact List.forall_mem_cons.mpr ⟨trivial, ih later⟩
    · exact List.forall_mem_singleton.mpr (value_step_clean later)

theorem long_step_clean {name : String} {value : Option String}
    (free : ∀ text ∈ value, HasNoEscape text) : (longStep name value).IsClean := by
  unfold longStep
  split
  · trivial
  · trivial
  · trivial
  · exact free _ rfl
  · trivial

theorem argument_steps_clean {text : String} (clean : HasNoEscape text) :
    ∀ step ∈ (Argument.ofText text).steps, step.IsClean := by
  unfold HasNoEscape at clean
  fun_cases Argument.ofText text with
  | case1 cs chars name all => exact List.forall_mem_singleton.mpr (long_step_clean nofun)
  | case2 cs chars name sign value rest =>
    refine List.forall_mem_singleton.mpr (long_step_clean ?_)
    intro other given escape
    obtain rfl := Option.some.inj given
    rw [String.toList_ofList] at escape
    have later : '\x1b' ∈ cs.dropWhile (· ≠ '=') := by
      rw [rest]
      exact List.mem_cons_of_mem sign escape
    have inside : '\x1b' ∈ cs := (List.dropWhile_sublist _).subset later
    rw [chars] at clean
    exact clean (by simp [inside])
  | case3 c cs notDouble chars =>
    apply letter_steps_clean
    rw [chars] at clean
    exact mt (List.mem_cons_of_mem _) clean
  | case4 => exact List.forall_mem_singleton.mpr clean

theorem line_steps_clean {arguments : List String}
    (free : ∀ argument ∈ arguments, HasNoEscape argument) :
    ∀ step ∈ lineSteps arguments, step.IsClean := by
  fun_induction lineSteps arguments with
  | case1 => exact List.forall_mem_nil _
  | case2 => exact List.forall_mem_nil _
  | case3 extra rest ih =>
    exact List.forall_mem_cons.mpr ⟨trivial, ih (List.forall_mem_cons.mp free).2⟩
  | case4 argument rest notLast notEnd ih =>
    obtain ⟨first, later⟩ := List.forall_mem_cons.mp free
    exact List.forall_mem_append.mpr ⟨argument_steps_clean first, ih later⟩

namespace Choices

structure IsClean (c : Choices) : Prop where
  input : ∀ path ∈ c.input, HasNoEscape path
  output : ∀ path ∈ c.output, HasNoEscape path
  pending : ∀ awaited ∈ c.pending, ∀ value ∈ awaited.value, HasNoEscape value

theorem Takes.clean {c next : Choices} {step : Step} (clean : c.IsClean) (free : step.IsClean)
    (taken : c.Takes step next) : next.IsClean := by
  cases taken with
  | input => exact ⟨by simpa [Step.IsClean] using free, clean.output, clean.pending⟩
  | output => exact ⟨clean.input, by simpa [Step.IsClean] using free, clean.pending⟩
  | target | strict | quiet | mode => exact ⟨clean.input, clean.output, clean.pending⟩
  | await => exact ⟨clean.input, clean.output, by simp [Choices.await]⟩
  | supply => exact ⟨clean.input, clean.output, by simpa [Step.IsClean] using free⟩

theorem Settles.clean {c next : Choices} (clean : c.IsClean) (settled : c.Settles next) :
    next.IsClean := by
  rcases settled with rfl | ⟨p, value, awaited, taken⟩
  · exact clean
  · have before : IsClean { c with pending := none } := ⟨clean.input, clean.output, nofun⟩
    have free : (Step.assign p value).IsClean := clean.pending _ awaited value rfl
    exact taken.clean before free

theorem conclude_clean {c next : Choices} {steps : List Step} (clean : c.IsClean)
    (free : ∀ step ∈ steps, step.IsClean) (concluded : c.conclude steps = .ok next) :
    next.IsClean := by
  refine conclude_keeps (R := fun done d => (∀ step ∈ done, step.IsClean) → d.IsClean) ?_ ?_ ?_
    concluded free
  · intro done d e held settled free
    exact settled.clean (held free)
  · intro done step d e held taken free
    obtain ⟨before, last⟩ := List.forall_mem_append.mp free
    exact taken.clean (held before) (last step (List.mem_singleton_self step))
  · exact fun _ => clean

end Choices

structure Invocation.IsClean (inv : Invocation) : Prop where
  input : ∀ path ∈ inv.input, HasNoEscape path
  output : HasNoEscape inv.output

theorem Choices.IsClean.invocation {c : Choices} {inv : Invocation} (clean : c.IsClean)
    (asked : c.toInvocation = .ok inv) : inv.IsClean := by
  have output : HasNoEscape (c.output.getD ({} : Settings).output) := by
    cases given : c.output with
    | none => decide
    | some path => exact clean.output path given
  revert asked
  fun_cases toInvocation c with
  | case1 =>
    intro asked
    cases asked
  | _ =>
    intro asked
    obtain rfl := Except.ok.inj asked
    exact ⟨clean.input, output⟩

theorem work_clean {arguments : List String} {inv : Invocation}
    (parsed : Request.ofArguments arguments = .ok (.work inv))
    (free : ∀ argument ∈ arguments, HasNoEscape argument) : inv.IsClean := by
  obtain ⟨last, read, asked⟩ := work_read parsed
  have nothing : ({} : Choices).IsClean := ⟨nofun, nofun, nofun⟩
  exact (Choices.conclude_clean nothing (line_steps_clean free) read).invocation asked

/-- Answers in which only styles bring in control sequences. -/
structure Answer.IsClean (answer : Answer) : Prop where
  output : ∀ fragment ∈ answer.output, HasNoEscape fragment.text
  notices : ∀ notice ∈ answer.notices, HasNoEscape notice.message

namespace Answer
variable {notices : List Notice} (clean : ∀ notice ∈ notices, HasNoEscape notice.message)
include clean

theorem last_clean {last : Notice} (free : HasNoEscape last.message) :
    ∀ notice ∈ notices ++ [last], HasNoEscape notice.message :=
  List.forall_mem_append.mpr ⟨clean, List.forall_mem_singleton.mpr free⟩

theorem fail_clean {reason : String} (free : HasNoEscape reason) : (fail notices reason).IsClean :=
  ⟨List.forall_mem_nil _, last_clean clean free⟩

theorem succeed_clean : (succeed [] notices).IsClean := ⟨List.forall_mem_nil _, clean⟩

end Answer

theorem padded_no_escape {text : String} (free : HasNoEscape text) (width : Nat) :
    HasNoEscape (String.ofList (text.toList.leftpad width ' ')) ∧
      HasNoEscape (String.ofList (text.toList.rightpad width ' ')) := by
  have apart : '\x1b' ≠ ' ' := by decide
  unfold HasNoEscape at *
  simp [List.leftpad, List.rightpad, free, apart]

theorem list_line_clean {entry : Entry} (plain : Unicode.IsPlainText entry.mnemonic.name) :
    ∀ fragment ∈ listLine entry, HasNoEscape fragment.text := by
  have code := (padded_no_escape (numeral_no_escape entry.code.toNat) 4).1
  have name := (padded_no_escape (plain_no_escape plain) 16).2
  have upper : HasNoEscape entry.mnemonic.upper := plain_no_escape (Unicode.upper_plain plain)
  intro fragment listed
  simp only [listLine, List.mem_cons, List.not_mem_nil, or_false] at listed
  rcases listed with rfl | rfl | rfl | rfl
  · exact code
  · exact no_escape_append.mpr ⟨no_escape_append.mpr ⟨by decide, name⟩, by decide⟩
  · exact upper
  · decide

section Modes
variable {settings : Settings}

theorem list_clean : (list settings).IsClean := by
  have warnings : ∀ notice ∈ settings.table.notices, HasNoEscape notice.message :=
    fun _ => Settings.warning_no_escape
  cases numbered : settings.table.result with
  | error e =>
    rw [list_refused numbered]
    exact Answer.fail_clean warnings (Settings.table_blames_plain numbered).no_escape
  | ok table =>
    rw [list_numbered numbered]
    refine ⟨?_, warnings⟩
    intro fragment printed
    obtain ⟨entry, listed, line⟩ := List.mem_flatMap.mp printed
    rw [Settings.table_of_listing numbered] at listed
    exact list_line_clean (Table.entry_plain listed) fragment line

variable (clean : HasNoEscape settings.output) (tree : Tree)
include clean

theorem check_clean : ((check settings).on tree).1.IsClean := by
  have warnings : ∀ notice ∈ (settings.isDelivered.on tree).1.notices, HasNoEscape notice.message := by
    rw [Settings.compare_notices]
    exact fun _ => Settings.warning_no_escape
  rw [check_on]
  split
  · rename_i e compared
    apply Answer.fail_clean warnings
    rcases Settings.compare_error_iff.mp compared with refused | ⟨_, _, _, unread, _, rfl⟩
    · exact (Settings.product_blames_plain refused).no_escape
    · exact (file_errors_no_escape clean (Tree.fault_no_escape (Tree.read_fault_listed unread))).1
  · have upToDate : HasNoEscape (Notice.upToDate settings.output).message :=
      no_escape_append.mpr ⟨clean, by decide⟩
    exact Answer.succeed_clean (Answer.last_clean warnings upToDate)
  · exact Answer.fail_clean warnings (no_escape_append.mpr ⟨clean, by decide⟩)

theorem write_clean : ((write settings).on tree).1.IsClean := by
  have warnings : ∀ notice ∈ settings.product.notices, HasNoEscape notice.message :=
    fun _ => Settings.warning_no_escape
  rw [write_on]
  cases made : settings.product.result with
  | error e =>
    rw [Settings.deliver_refused made]
    exact Answer.fail_clean warnings (Settings.product_blames_plain made).no_escape
  | ok product =>
    rw [Settings.deliver_made made]
    cases written : tree.write settings.output product.text.toUTF8 with
    | error fault =>
      have reason := Tree.fault_no_escape (Tree.write_fault_listed written)
      exact Answer.fail_clean warnings (file_errors_no_escape clean reason).2
    | ok after =>
      have wrote := wrote_no_escape clean product.table.size settings.target
      exact Answer.succeed_clean (Answer.last_clean warnings wrote)

end Modes

namespace Invocation

theorem answer_unread {inv : Invocation} {tree : Tree} {e : Error}
    (unread : (inv.source.on tree).1 = .error e) :
    inv.answer.on tree = (.fail [] e.message, tree) := by
  unfold answer
  rw [Action.on_bind, source_keeps, unread]
  rfl

variable {inv : Invocation} (clean : inv.IsClean) (tree : Tree)
include clean

theorem unread_source_clean {e : Error} (unread : (inv.source.on tree).1 = .error e) :
    HasNoEscape e.message := by
  unfold source at unread
  cases input : inv.input with
  | none =>
    rw [input] at unread
    cases unread
  | some path =>
    rw [input] at unread
    exact read_failure_no_escape (clean.input path input) unread

theorem answer_clean : (inv.answer.on tree).1.IsClean := by
  cases found : (inv.source.on tree).1 with
  | error e =>
    rw [answer_unread found]
    exact Answer.fail_clean (List.forall_mem_nil _) (unread_source_clean clean tree found)
  | ok source =>
    have output : HasNoEscape (inv.settings source).output := clean.output
    rw [answer_with_source (source_ok_iff.mp found)]
    cases inv.mode with
    | list => exact list_clean
    | check => exact check_clean output tree
    | write => exact write_clean output tree

theorem perform_clean : (inv.perform.on tree).1.IsClean := by
  have answered := answer_clean clean tree
  rw [perform_on]
  exact ⟨answered.output, fun notice told => answered.notices notice (List.mem_of_mem_filter told)⟩

end Invocation

theorem Answer.IsClean.styled {answer : Answer} (clean : answer.IsClean) :
    ∀ fragment ∈ answer.notices.flatMap Notice.styled, HasNoEscape fragment.text := by
  intro fragment told
  obtain ⟨notice, listed, part⟩ := List.mem_flatMap.mp told
  simp only [Notice.styled, List.mem_cons, List.not_mem_nil, or_false] at part
  rcases part with rfl | rfl
  · cases notice.severity <;> decide
  · have message := clean.notices notice listed
    exact no_escape_append.mpr ⟨no_escape_append.mpr ⟨by decide, message⟩, by decide⟩

/-- Where no argument has a control sequence in it, colours are decoration. A run with them ends with
    the same status and the same files, and its outputs are those without them, once all sequences
    are taken out. -/
theorem colour_is_decoration (arguments : List String) (tree : Tree) (inv : Invocation)
    (parsed : Request.ofArguments arguments = .ok (.work inv))
    (free : ∀ argument ∈ arguments, '\x1b' ∉ argument.toList) :
    (shown true arguments tree).status = (shown false arguments tree).status ∧
    (shown true arguments tree).files = (shown false arguments tree).files ∧
    uncoloured (shown true arguments tree).stdout = (shown false arguments tree).stdout ∧
    uncoloured (shown true arguments tree).stderr = (shown false arguments tree).stderr := by
  have clean := Invocation.perform_clean (work_clean parsed free) tree
  unfold shown
  rw [run_request parsed]
  refine ⟨rfl, rfl, ?_, ?_⟩
  · exact uncoloured_render clean.output
  · exact uncoloured_render clean.styled

theorem decoration_of_listing :
    ∃ (arguments : List String) (tree : Tree) (inv : Invocation),
      arguments = ["-iops", "--list"] ∧
      tree.find? ["ops"] = some (.file "\x1b[31m 31m".toUTF8) ∧
      Request.ofArguments arguments = .ok (.work inv) ∧
      (∀ argument ∈ arguments, '\x1b' ∉ argument.toList) ∧
      (shown true arguments tree).stdout =
        "\x1b[36m   0\x1b[0m  31m              \x1b[1m31M\x1b[0m\n" ++
          "\x1b[36m   1\x1b[0m  31m              \x1b[1m31M\x1b[0m\n" ∧
      uncoloured (shown true arguments tree).stdout = (shown false arguments tree).stdout ∧
      (shown false arguments tree).stdout =
        "   0  31m              31M\n   1  31m              31M\n" ∧
      (shown true arguments tree).stderr ≠ (shown false arguments tree).stderr ∧
      uncoloured (shown true arguments tree).stderr = (shown false arguments tree).stderr := by
  let arguments : List String := ["-iops", "--list"]
  let tree : Tree := ⟨[(["ops"], .file "\x1b[31m 31m".toUTF8)]⟩
  let inv : Invocation := { input := some "ops", mode := .list }
  have parsed : Request.ofArguments arguments = .ok (.work inv) := by decide +kernel
  have free : ∀ argument ∈ arguments, '\x1b' ∉ argument.toList := by decide
  have coloured : (shown true arguments tree).stdout =
      "\x1b[36m   0\x1b[0m  31m              \x1b[1m31M\x1b[0m\n" ++
        "\x1b[36m   1\x1b[0m  31m              \x1b[1m31M\x1b[0m\n" := by
    decide +kernel
  have plain : (shown false arguments tree).stdout =
      "   0  31m              31M\n   1  31m              31M\n" := by
    decide +kernel
  have differs : (shown true arguments tree).stderr ≠ (shown false arguments tree).stderr := by
    decide +kernel
  obtain ⟨_, _, output, told⟩ := colour_is_decoration arguments tree inv parsed free
  exact ⟨arguments, tree, inv, rfl, rfl, parsed, free, coloured, output, plain, differs, told⟩

end Opcodes.CommandLine
