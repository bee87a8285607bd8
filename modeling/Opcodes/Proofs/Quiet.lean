import Mathlib.Data.List.Forall2
import Opcodes.Proofs.CommandLine.Effects
import Opcodes.Proofs.CommandLine.Switches
import Opcodes.Proofs.Session.Failures

/-! The wish for quiet, in a session and on the command line. Two runs that differ in nothing else do the
   same, and show the same but for information, of which there is one notice at most, after all
   warnings. -/
namespace Opcodes
open Files

theorem Notice.log_append (colour : Bool) (first second : List Notice) :
    log colour (first ++ second) = log colour first ++ log colour second := by
  simp only [log, Text.render, List.flatMap_append, List.map_append, String.join_append]

theorem map_is_ok {ε α β : Type} (result : Except ε α) (f : α → β) :
    (result.map f).isOk = result.isOk := by
  cases result <;> rfl

/-- The notices are those of the first list, which are no information, and then those of the second,
    which has one piece of information at most. -/
structure InParts (notices shown information : List Notice) : Prop where
  whole : notices = shown ++ information
  always : ∀ notice ∈ shown, notice.severity ≠ .info
  only : ∀ notice ∈ information, notice.severity = .info
  single : information.length ≤ 1

namespace InParts
variable {notices shown information : List Notice}

theorem all_shown (always : ∀ notice ∈ notices, notice.severity ≠ .info) :
    InParts notices notices [] :=
  ⟨(List.append_nil _).symm, always, nofun, Nat.zero_le 1⟩

theorem told_nothing {promise : Prop} (always : ∀ notice ∈ notices, notice.severity ≠ .info) :
    ∃ shown information, InParts notices shown information ∧ (information ≠ [] → promise) :=
  ⟨notices, [], all_shown always, absurd rfl⟩

theorem of_no_notices {promise : Prop} :
    ∃ shown information, InParts [] shown information ∧ (information ≠ [] → promise) :=
  told_nothing (List.forall_mem_nil _)

theorem with_last (always : ∀ notice ∈ notices, notice.severity ≠ .info) {last : Notice}
    (informs : last.severity = .info) : InParts (notices ++ [last]) notices [last] :=
  ⟨rfl, always, by simpa using informs, Nat.le_refl 1⟩

theorem filter_shown (parts : InParts notices shown information) (quiet : Bool) :
    notices.filter (Notice.isShown quiet) = shown ++ if quiet then [] else information := by
  have keeps : shown.filter (Notice.isShown quiet) = shown := by
    refine List.filter_eq_self.mpr fun notice listed => ?_
    simp [Notice.isShown, parts.always notice listed]
  rw [parts.whole, List.filter_append, keeps]
  cases quiet with
  | true =>
    have drops : information.filter (Notice.isShown true) = [] := by
      refine List.filter_eq_nil_iff.mpr fun notice listed => ?_
      simp [Notice.isShown, parts.only notice listed]
    rw [drops, if_pos rfl]
  | false =>
    have all : information.filter (Notice.isShown false) = information :=
      List.filter_eq_self.mpr fun notice _ => rfl
    rw [all, if_neg Bool.false_ne_true]

end InParts

namespace Settings

theorem table_warns_only (settings : Settings) :
    ∀ notice ∈ settings.table.notices, notice.severity ≠ .info := by
  intro notice given
  obtain ⟨r, _, rfl⟩ := table_warned given
  exact nofun

theorem product_warns_only (settings : Settings) :
    ∀ notice ∈ settings.product.notices, notice.severity ≠ .info :=
  settings.table_warns_only

theorem deliver_parts (settings : Settings) (tree : Tree) :
    ∃ information, InParts (settings.deliver.on tree).1.notices settings.product.notices information ∧
      (information ≠ [] → (settings.deliver.on tree).1.result.isOk = true) := by
  have always := settings.product_warns_only
  cases made : settings.product.result with
  | error e =>
    rw [deliver_refused made]
    exact ⟨[], .all_shown always, absurd rfl⟩
  | ok product =>
    rw [deliver_made made]
    split
    · exact ⟨[], .all_shown always, absurd rfl⟩
    · exact ⟨_, .with_last always rfl, fun _ => rfl⟩

end Settings

namespace Session

structure Agrees (s t : Session) : Prop where
  settings : s.settings = t.settings
  table : s.table = t.table
  files : s.files = t.files

inductive Step.Alike : Step → Step → Prop
  | same (st : Step) : Alike st st
  | setQuiet (a b : Bool) : Alike (.setQuiet a) (.setQuiet b)

/-- The outcomes of a step in two sessions with wishes for quiet of their own. -/
structure Outcome.Alike (st : Step) (quietA quietB : Bool) (a b : Outcome) : Prop where
  result : st ≠ .showQuiet → a.result = b.result
  notices : ∃ shown information, InParts (shown ++ information) shown information ∧
    a.notices = (shown ++ if quietA then [] else information) ∧
    b.notices = (shown ++ if quietB then [] else information) ∧
    (information ≠ [] → st = .deliver ∧ a.result.isOk = true)

def hush (quiet : Bool) (tried : Attempt) : Attempt :=
  ⟨tried.notices, tried.result.map fun (answer, next) => (answer, { next with quiet := quiet })⟩

theorem hush_follow {α : Type} (quiet : Bool) (report : Report α) (next : α → Reply × Session) :
    hush quiet (follow report next) =
      follow report fun a => ((next a).1, { (next a).2 with quiet := quiet }) := by
  simp only [hush, follow]
  cases report.result <;> rfl

theorem hush_answers (quiet : Bool) (tried : Attempt) :
    (hush quiet tried).result.map Prod.fst = tried.result.map Prod.fst := by
  simp only [hush]
  cases tried.result <;> rfl

theorem attempt_hushed (s : Session) (quiet : Bool) (tree : Tree) {st : Step}
    (other : st ≠ .showQuiet) (unset : ∀ value, st ≠ .setQuiet value) :
    ({ s with quiet := quiet }.attempt st).on tree =
      (hush quiet ((s.attempt st).on tree).1, ((s.attempt st).on tree).2) := by
  obtain ⟨settings, table, _, files⟩ := s
  cases st with
  | setQuiet value => exact absurd rfl (unset value)
  | showQuiet => exact absurd rfl other
  | setTarget name =>
    simp only [attempt]
    cases Target.parse name <;> rfl
  | loadSource path =>
    simp only [attempt, Action.on_bind]
    cases ((Files.readText path).on tree).1 <;> rfl
  | number =>
    simp only [attempt, Action.on_pure, hush_follow]
  | produce =>
    simp only [attempt, Action.on_pure, hush_follow]
    rfl
  | deliver =>
    simp only [attempt, Action.on_bind, Action.on_pure, hush_follow]
    rfl
  | compare =>
    simp only [attempt, Action.on_bind, Action.on_pure, hush_follow]
  | findCode name | showTable =>
    simp only [attempt]
    cases table <;> rfl
  | findName code =>
    simp only [attempt]
    cases table with
    | none => rfl
    | some table =>
      simp only [Action.on_pure, hush_follow]
  | writeText path text =>
    simp only [attempt, Action.on_bind]
    cases ((Files.writeText path text).on tree).1 <;> rfl
  | readText path =>
    simp only [attempt, Action.on_bind]
    cases ((Files.readText path).on tree).1 <;> rfl
  | holdsText path text =>
    simp only [attempt, Action.on_bind]
    cases ((Files.holdsText path text).on tree).1 <;> rfl
  | _ => rfl

theorem attempt_parts (s : Session) (st : Step) (tree : Tree) :
    ∃ shown information, InParts ((s.attempt st).on tree).1.notices shown information ∧
      (information ≠ [] → st = .deliver ∧ ((s.attempt st).on tree).1.result.isOk = true) := by
  cases st with
  | deliver =>
    obtain ⟨information, parts, told⟩ := s.settings.deliver_parts tree
    simp only [attempt, Action.on_bind, Action.on_pure, follow, map_is_ok]
    exact ⟨_, information, parts, fun tells => ⟨trivial, told tells⟩⟩
  | number => exact InParts.told_nothing s.settings.table_warns_only
  | produce => exact InParts.told_nothing s.settings.product_warns_only
  | compare =>
    simp only [attempt, Action.on_bind, Action.on_pure]
    refine InParts.told_nothing ?_
    rw [follow, Settings.compare_notices]
    exact s.settings.product_warns_only
  | setTarget name =>
    simp only [attempt]
    cases Target.parse name <;> exact InParts.of_no_notices
  | loadSource path | readText path =>
    simp only [attempt, Action.on_bind]
    cases ((Files.readText path).on tree).1 <;> exact InParts.of_no_notices
  | writeText path text =>
    simp only [attempt, Action.on_bind]
    cases ((Files.writeText path text).on tree).1 <;> exact InParts.of_no_notices
  | holdsText path text =>
    simp only [attempt, Action.on_bind]
    cases ((Files.holdsText path text).on tree).1 <;> exact InParts.of_no_notices
  | findCode name | findName code | showTable =>
    simp only [attempt]
    cases s.table <;> exact InParts.of_no_notices
  | _ => exact InParts.of_no_notices

section Step
variable {s t : Session} {st other : Step}

theorem Agrees.quiet_only (agrees : s.Agrees t) : t = { s with quiet := t.quiet } := by
  obtain ⟨settings, table, quiet, files⟩ := t
  obtain ⟨rfl, rfl, rfl⟩ := agrees
  rfl

theorem step_notices (s : Session) (st : Step) :
    (s.step st).1.notices =
      ((s.attempt st).on s.files).1.notices.filter (Notice.isShown s.quiet) := by
  simp only [step]
  split <;> rfl

theorem step_result (s : Session) (st : Step) :
    (s.step st).1.result = ((s.attempt st).on s.files).1.result.map Prod.fst := by
  simp only [step]
  split <;> rename_i answered <;> rw [answered] <;> rfl

theorem step_hushed (agrees : s.Agrees t) (hidden : st ≠ .showQuiet)
    (unset : ∀ value, st ≠ .setQuiet value) :
    (s.step st).2.Agrees (t.step st).2 ∧ (s.step st).1.result = (t.step st).1.result ∧
      ((t.attempt st).on t.files).1.notices = ((s.attempt st).on s.files).1.notices := by
  have hushed := attempt_hushed s t.quiet s.files hidden unset
  rw [← agrees.quiet_only, agrees.files] at hushed
  refine ⟨?_, ?_, ?_⟩
  · simp only [step, agrees.files, hushed]
    cases result : ((s.attempt st).on t.files).1.result with
    | error e =>
      simp only [hush, result, Except.map]
      exact ⟨agrees.settings, agrees.table, rfl⟩
    | ok answered =>
      simp only [hush, result, Except.map]
      exact ⟨rfl, rfl, rfl⟩
  · rw [step_result, step_result, agrees.files, hushed, hush_answers]
  · rw [agrees.files, hushed]
    rfl

theorem step_alike (agrees : s.Agrees t) (alike : st.Alike other) :
    (s.step st).2.Agrees (t.step other).2 ∧
      Outcome.Alike st s.quiet t.quiet (s.step st).1 (t.step other).1 := by
  have untold {a b : Reply} (same : st ≠ .showQuiet → a = b) :
      Outcome.Alike st s.quiet t.quiet ⟨[], .ok a⟩ ⟨[], .ok b⟩ := by
    refine ⟨fun hidden => congrArg Except.ok (same hidden), [], [], .all_shown nofun, ?_, ?_, ?_⟩
    · simp only [List.nil_append, ite_self]
    · simp only [List.nil_append, ite_self]
    · exact fun told => absurd rfl told
  -- The wish for quiet is read by no attempt but that of `showQuiet`, and set by `setQuiet` alone.
  cases alike with
  | setQuiet a b => exact ⟨⟨agrees.settings, agrees.table, agrees.files⟩, untold fun _ => rfl⟩
  | same =>
    by_cases shown : st = .showQuiet
    · subst shown
      exact ⟨⟨agrees.settings, agrees.table, agrees.files⟩, untold (absurd rfl ·)⟩
    by_cases set : ∃ value, st = .setQuiet value
    · obtain ⟨value, rfl⟩ := set
      exact ⟨⟨agrees.settings, agrees.table, agrees.files⟩, untold fun _ => rfl⟩
    obtain ⟨next, result, notices⟩ := step_hushed agrees shown (not_exists.mp set)
    obtain ⟨always, information, parts, told⟩ := s.attempt_parts st s.files
    refine ⟨next, fun _ => result, always, information, ?_, ?_, ?_, ?_⟩
    · exact parts.whole ▸ parts
    · rw [step_notices, parts.filter_shown]
    · rw [step_notices, notices, parts.filter_shown]
    · intro tells
      obtain ⟨delivers, succeeds⟩ := told tells
      rw [step_result, map_is_ok]
      exact ⟨delivers, succeeds⟩

end Step

theorem steps_agree {s t : Session} {sts others : List Step} (agrees : s.Agrees t)
    (alike : List.Forall₂ Step.Alike sts others) : (s.steps sts).2.Agrees (t.steps others).2 := by
  induction alike generalizing s t with
  | nil => exact agrees
  | cons first _ ih => exact ih (step_alike agrees first).1

/-- The outcomes of a series at a position are those of its step in the session that the steps before it
    lead to. -/
theorem outcome_at (s : Session) (sts : List Step) (position : Nat) :
    (s.steps sts).1[position]? =
      sts[position]?.map fun st => ((s.steps (sts.take position)).2.step st).1 := by
  induction sts generalizing s position with
  | nil => rfl
  | cons st rest ih =>
    cases position with
    | zero => rfl
    | succ position => exact ih (s.step st).2 position

end Session

namespace CommandLine

theorem fail_parts {notices : List Notice} (always : ∀ notice ∈ notices, notice.severity ≠ .info)
    (reason : String) :
    ∀ notice ∈ (Answer.fail notices reason).notices, notice.severity ≠ .info := by
  intro notice listed
  rcases List.mem_append.mp listed with told | failed
  · exact always notice told
  · obtain rfl := List.mem_singleton.mp failed
    exact nofun

theorem answer_parts (inv : Invocation) (tree : Tree) :
    ∃ shown record, InParts (inv.answer.on tree).1.notices shown record ∧
      (record ≠ [] → (inv.answer.on tree).1.status = 0) := by
  by_cases given : ∃ source, inv.HasSource tree source
  · obtain ⟨source, given⟩ := given
    have always := (inv.settings source).product_warns_only
    rw [Invocation.answer_with_source given]
    cases inv.mode with
    | list =>
      have numbered := (inv.settings source).table_warns_only
      simp only [list]
      cases (inv.settings source).table.result with
      | error e => exact InParts.told_nothing (fail_parts numbered e.message)
      | ok table => exact InParts.told_nothing numbered
    | check =>
      simp only [check_on, Settings.compare_notices]
      cases ((inv.settings source).isDelivered.on tree).1.result with
      | error e => exact InParts.told_nothing (fail_parts always e.message)
      | ok same =>
        cases same with
        | false => exact InParts.told_nothing (fail_parts always _)
        | true => exact ⟨_, _, .with_last always rfl, fun _ => rfl⟩
    | write =>
      obtain ⟨information, parts, told⟩ := (inv.settings source).deliver_parts tree
      simp only [write_on]
      cases delivered : ((inv.settings source).deliver.on tree).1.result with
      | ok product => exact ⟨_, information, parts, fun _ => rfl⟩
      | error e =>
        rw [delivered] at told
        obtain rfl : information = [] := by
          by_contra tells
          cases told tells
        refine InParts.told_nothing (fail_parts ?_ e.message)
        rw [parts.whole, List.append_nil]
        exact always
  · obtain ⟨reason, failed⟩ := Invocation.answer_without_source (not_exists.mp given)
    rw [failed]
    exact InParts.told_nothing (fail_parts (List.forall_mem_nil _) reason)

theorem silenced_parts {request : Request} (loud : ∀ inv, request = .work inv → inv.quiet = false)
    (tree : Tree) :
    ∃ (answer : Answer) (after : Tree) (shown record : List Notice),
      request.perform.on tree = ({ answer with notices := shown ++ record }, after) ∧
      request.silenced.perform.on tree = ({ answer with notices := shown }, after) ∧
      InParts (shown ++ record) shown record ∧ (record ≠ [] → answer.status = 0) := by
  cases request with
  | help =>
    exact ⟨.succeed helpText [], tree, [], [], rfl, rfl, .all_shown nofun, absurd rfl⟩
  | version =>
    exact ⟨.succeed [.plain versionText] [], tree, [], [], rfl, rfl, .all_shown nofun, absurd rfl⟩
  | work inv =>
    obtain ⟨shown, record, parts, told⟩ := answer_parts inv tree
    have same : ({ inv with quiet := true } : Invocation).answer = inv.answer := rfl
    refine ⟨(inv.answer.on tree).1, (inv.answer.on tree).2, shown, record, ?_, ?_,
      parts.whole ▸ parts, told⟩
    · rw [Request.perform, Invocation.perform_on, parts.filter_shown, loud inv rfl,
        if_neg Bool.false_ne_true]
    · rw [Request.silenced, Request.perform, Invocation.perform_on, same, parts.filter_shown,
        if_pos rfl, List.append_nil]

end CommandLine

/-- The wish for quiet keeps back information and nothing else. Series of steps that differ in no more
    than what they set it to reach the same settings, table and files after each step, and answer
    the same unless they are asked for it. A command line with the switch put in front does the
    same to the files and ends with the same status and output. Each time the notices that are
    shown differ by one piece of information at most, which stands last and tells of a success. -/
theorem quiet_hides_only_information :
    (∀ (s t : Session) (sts others : List Session.Step), s.Agrees t →
      List.Forall₂ Session.Step.Alike sts others → ∀ position,
        (s.steps (sts.take position)).2.Agrees (t.steps (others.take position)).2 ∧
        ∀ st, sts[position]? = some st →
          ∃ a b, (s.steps sts).1[position]? = some a ∧ (t.steps others).1[position]? = some b ∧
            Session.Outcome.Alike st (s.steps (sts.take position)).2.quiet
              (t.steps (others.take position)).2.quiet a b) ∧
    ∀ (arguments : List String) (request : CommandLine.Request) (tree : Tree),
      CommandLine.Request.ofArguments arguments = .ok request →
      .quiet ∉ CommandLine.switchesOf arguments →
        (CommandLine.run ("-q" :: arguments) tree).2 = (CommandLine.run arguments tree).2 ∧
        (CommandLine.run ("-q" :: arguments) tree).1.status =
          (CommandLine.run arguments tree).1.status ∧
        (∀ colour, (CommandLine.run ("-q" :: arguments) tree).1.stdout colour =
          (CommandLine.run arguments tree).1.stdout colour) ∧
        ∃ shown record, InParts (shown ++ record) shown record ∧
          (record ≠ [] → (CommandLine.run arguments tree).1.status = 0) ∧
          ∀ colour,
            (CommandLine.run arguments tree).1.stderr colour =
              Notice.log colour shown ++ Notice.log colour record ∧
            (CommandLine.run ("-q" :: arguments) tree).1.stderr colour =
              Notice.log colour shown := by
  constructor
  · intro s t sts others agrees alike position
    have before := Session.steps_agree agrees (List.forall₂_take position alike)
    refine ⟨before, fun st there => ?_⟩
    obtain ⟨inside, found⟩ := List.getElem?_eq_some_iff.mp there
    have alsoInside : position < others.length := alike.length_eq ▸ inside
    have taken : st.Alike others[position] := found ▸ alike.get inside alsoInside
    refine ⟨_, _, ?_, ?_, (Session.step_alike before taken).2⟩
    · rw [Session.outcome_at, there]
      rfl
    · rw [Session.outcome_at, List.getElem?_eq_getElem alsoInside]
      rfl
  · intro arguments request tree parsed absent
    have loud : ∀ inv, request = .work inv → inv.quiet = false := by
      rintro inv rfl
      exact CommandLine.loud_of_absent absent parsed
    obtain ⟨answer, after, shown, record, asked, silenced, parts, told⟩ :=
      CommandLine.silenced_parts loud tree
    rw [CommandLine.run_request parsed, asked,
      CommandLine.run_request (CommandLine.quiet_in_front absent parsed), silenced]
    exact ⟨rfl, rfl, fun _ => rfl, shown, record, parts, told,
      fun colour => ⟨Notice.log_append colour shown record, rfl⟩⟩

theorem quiet_delivery_warns :
    ∃ (loud quiet : List Session.Step) (a b : Session.Outcome) (arguments : List String)
      (tree : Tree),
      loud = [.setSource "pop_ add pop_", .setOutput "ir.js", .setQuiet false, .deliver,
        .showQuiet] ∧
      quiet = [.setSource "pop_ add pop_", .setOutput "ir.js", .setQuiet true, .deliver,
        .showQuiet] ∧
      (({} : Session).steps loud).1[3]? = some a ∧ (({} : Session).steps quiet).1[3]? = some b ∧
      a.result = b.result ∧
      a.notices.map Notice.severity = [.warning, .info] ∧
      b.notices.map Notice.severity = [.warning] ∧
      (({} : Session).steps loud).2.files = (({} : Session).steps quiet).2.files ∧
      arguments = ["--input", "ops", "-o", "ir", "-tjson"] ∧
      tree.find? ["ops"] = some (.file "add sub add".toUTF8) ∧
      (CommandLine.run ("-q" :: arguments) tree).2 = (CommandLine.run arguments tree).2 ∧
      (CommandLine.run arguments tree).2 ≠ tree ∧
      (CommandLine.run ("-q" :: arguments) tree).1.stderr false =
        "warning: `add` is declared at codes 0 and 2; lookups by name resolve to 2\n" ∧
      (CommandLine.run arguments tree).1.stderr false =
        "warning: `add` is declared at codes 0 and 2; lookups by name resolve to 2\n" ++
          "info: wrote 3 opcodes to ir (json)\n" := by
  let steps (quiet : Bool) : List Session.Step :=
    [.setSource "pop_ add pop_", .setOutput "ir.js", .setQuiet quiet, .deliver, .showQuiet]
  let arguments : List String := ["--input", "ops", "-o", "ir", "-tjson"]
  let tree : Tree := ⟨[(["ops"], .file "add sub add".toUTF8)]⟩
  have told (quiet : Bool) :
      (({} : Session).steps (steps quiet)).1[3]?.map (·.notices.map Notice.severity) =
        some (if quiet then [.warning] else [.warning, .info]) := by
    cases quiet <;> decide +kernel
  have agrees : Session.Agrees {} {} := ⟨rfl, rfl, rfl⟩
  have alike : List.Forall₂ Session.Step.Alike (steps false) (steps true) :=
    .cons (.same _) (.cons (.same _) (.cons (.setQuiet false true)
      (.cons (.same _) (.cons (.same _) .nil))))
  have series := quiet_hides_only_information.1 {} {} _ _ agrees alike
  have whole (quiet : Bool) : (steps quiet).take 5 = steps quiet := rfl
  have last := (series 5).1.files
  rw [whole false, whole true] at last
  obtain ⟨a, b, loud, quiet, same⟩ := (series 3).2 .deliver rfl
  have loudly := told false
  have quietly := told true
  rw [loud] at loudly
  rw [quiet] at quietly
  have parsed : CommandLine.Request.ofArguments arguments =
      .ok (.work { input := some "ops", output := "ir", target := .json }) := by decide +kernel
  have absent : .quiet ∉ CommandLine.switchesOf arguments := by decide +kernel
  obtain ⟨files, _⟩ := quiet_hides_only_information.2 arguments _ tree parsed absent
  have changed : (CommandLine.run arguments tree).2 ≠ tree := by decide +kernel
  have warned : (CommandLine.run ("-q" :: arguments) tree).1.stderr false =
      "warning: `add` is declared at codes 0 and 2; lookups by name resolve to 2\n" := by
    decide +kernel
  have informed : (CommandLine.run arguments tree).1.stderr false =
      "warning: `add` is declared at codes 0 and 2; lookups by name resolve to 2\n" ++
        "info: wrote 3 opcodes to ir (json)\n" := by
    decide +kernel
  exact ⟨steps false, steps true, a, b, arguments, tree, rfl, rfl, loud, quiet, same.result nofun,
    Option.some.inj loudly, Option.some.inj quietly, last, rfl, rfl, files, changed,
    warned, informed⟩

end Opcodes
