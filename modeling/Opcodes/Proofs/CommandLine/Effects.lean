import Mathlib.Data.List.Basic
import Opcodes.CommandLine.Response
import Opcodes.Proofs.Delivery

/-! What a command line does to the files, and with which status it ends. Only an artifact that is
   written changes anything, and then no more than the one file that its path leads to. -/
namespace Opcodes.CommandLine
open Files

def run (arguments : List String) (tree : Tree) : Response × Tree := (respond arguments).on tree

/-- What can keep the work of a mode from succeeding, once its source has been read. -/
inductive WorkFails (mode : Mode) (settings : Settings) (tree : Tree) : Prop
  | numbering {e : Error} (refused : settings.table.result = .error e)
  | rendering {table : Table} {e : Error} (rendered : mode ≠ .list)
      (numbered : settings.table.result = .ok table)
      (refused : settings.render table = .error e)
  | writing {product : Product} {fault : Fault} (writes : mode = .write)
      (made : settings.product.result = .ok product)
      (unwritable : tree.write settings.output product.text.toUTF8 = .error fault)
  | reading {product : Product} {fault : Fault} (checks : mode = .check)
      (made : settings.product.result = .ok product)
      (unreadable : tree.read settings.output = .error fault) (there : fault.kind ≠ .missing)
  | absent {product : Product} {fault : Fault} (checks : mode = .check)
      (made : settings.product.result = .ok product)
      (unreadable : tree.read settings.output = .error fault) (missing : fault.kind = .missing)
  | stale {product : Product} {content : ByteArray} (checks : mode = .check)
      (made : settings.product.result = .ok product)
      (held : tree.read settings.output = .ok content) (differs : content ≠ product.text.toUTF8)

namespace Invocation

/-- The source that an invocation is about: the builtin listing, or the text whose bytes are in the
    input file. -/
def HasSource (inv : Invocation) (tree : Tree) (source : String) : Prop :=
  match inv.input with
  | none => source = Listing.builtin
  | some path => tree.read path = .ok source.toUTF8

inductive Fails (inv : Invocation) (tree : Tree) : Prop
  | input (unread : ∀ source, ¬ inv.HasSource tree source)
  | work {source : String} (given : inv.HasSource tree source)
      (failed : WorkFails inv.mode (inv.settings source) tree)

/-- How the work of an invocation ends, by its status and the tree after it. Only work that writes
    changes the tree, and only when nothing fails. -/
inductive Ends (inv : Invocation) (tree : Tree) (status : Nat) (after : Tree) : Prop
  | failed (failure : status = 1) (fails : inv.Fails tree) (kept : after = tree)
  | looked (success : status = 0) (succeeds : ¬ inv.Fails tree) (looks : inv.mode ≠ .write)
      (kept : after = tree)
  | wrote {source : String} {product : Product} (success : status = 0)
      (succeeds : ¬ inv.Fails tree) (writes : inv.mode = .write)
      (given : inv.HasSource tree source)
      (made : (inv.settings source).product.result = .ok product)
      (written : tree.write inv.output product.text.toUTF8 = .ok after)

theorem source_keeps (inv : Invocation) (tree : Tree) : (inv.source.on tree).2 = tree := by
  unfold source
  cases inv.input with
  | none => rfl
  | some path => simp only [read_text_on]

theorem source_ok_iff {inv : Invocation} {tree : Tree} {source : String} :
    (inv.source.on tree).1 = .ok source ↔ inv.HasSource tree source := by
  unfold Invocation.source HasSource
  cases inv.input with
  | none => simp [eq_comm]
  | some path => exact read_text_ok_iff

theorem source_unique {inv : Invocation} {tree : Tree} {a b : String}
    (first : inv.HasSource tree a) (second : inv.HasSource tree b) : a = b := by
  have same := (source_ok_iff.mpr first).symm.trans (source_ok_iff.mpr second)
  exact Except.ok.inj same

end Invocation

section Modes
variable {mode : Mode} {settings : Settings} {tree : Tree}

theorem work_fails_of_refusal {e : Error} (rendered : mode ≠ .list)
    (refused : settings.product.result = .error e) : WorkFails mode settings tree := by
  rcases Settings.product_error_iff.mp refused with unnumbered | ⟨table, numbered, unrendered⟩
  · exact .numbering unnumbered
  · exact .rendering rendered numbered unrendered

theorem file_fails {product : Product} (failed : WorkFails mode settings tree)
    (made : settings.product.result = .ok product) :
    (mode = .write ∧ ∃ fault, tree.write settings.output product.text.toUTF8 = .error fault) ∨
      mode = .check ∧ tree.read settings.output ≠ .ok product.text.toUTF8 := by
  cases failed with
  | numbering refused =>
    rw [Settings.product_error_iff.mpr (Or.inl refused)] at made
    cases made
  | rendering rendered numbered refused =>
    rw [Settings.product_error_iff.mpr (Or.inr ⟨_, numbered, refused⟩)] at made
    cases made
  | writing writes other unwritable =>
    obtain rfl := Except.ok.inj (made.symm.trans other)
    exact Or.inl ⟨writes, _, unwritable⟩
  | reading checks _ unreadable _ =>
    rw [unreadable]
    exact Or.inr ⟨checks, nofun⟩
  | absent checks _ unreadable _ =>
    rw [unreadable]
    exact Or.inr ⟨checks, nofun⟩
  | stale checks other held differs =>
    obtain rfl := Except.ok.inj (made.symm.trans other)
    rw [held]
    exact Or.inr ⟨checks, fun same => differs (Except.ok.inj same)⟩

theorem list_refused {e : Error} (refused : settings.table.result = .error e) :
    list settings = .fail settings.table.notices e.message := by
  simp only [list, refused]

theorem list_numbered {table : Table} (numbered : settings.table.result = .ok table) :
    list settings = .succeed (table.entries.flatMap listLine) settings.table.notices := by
  simp only [list, numbered]

theorem list_ends :
    (list settings).status = 1 ∧ WorkFails .list settings tree ∨
      (list settings).status = 0 ∧ ¬ WorkFails .list settings tree := by
  cases numbered : settings.table.result with
  | error e =>
    rw [list_refused numbered]
    exact Or.inl ⟨rfl, .numbering numbered⟩
  | ok table =>
    rw [list_numbered numbered]
    refine Or.inr ⟨rfl, fun failed => ?_⟩
    cases failed with
    | numbering refused =>
      rw [refused] at numbered
      cases numbered
    | rendering rendered => exact rendered rfl
    | writing writes => cases writes
    | reading checks => cases checks
    | absent checks => cases checks
    | stale checks => cases checks

theorem check_on (settings : Settings) (tree : Tree) :
    (check settings).on tree =
      (match (settings.isDelivered.on tree).1.result with
        | .error e => .fail (settings.isDelivered.on tree).1.notices e.message
        | .ok true =>
          .succeed [] ((settings.isDelivered.on tree).1.notices ++ [.upToDate settings.output])
        | .ok false => .fail (settings.isDelivered.on tree).1.notices
          (settings.output ++ " is out of date; rerun irgen"), tree) := by
  unfold check
  rw [Action.on_bind, Settings.compare_keeps]
  cases (settings.isDelivered.on tree).1.result with
  | error e => rfl
  | ok same => cases same <;> rfl

theorem check_ends :
    ((check settings).on tree).1.status = 1 ∧ WorkFails .check settings tree ∨
      ((check settings).on tree).1.status = 0 ∧ ¬ WorkFails .check settings tree := by
  rw [check_on]
  split
  · rename_i e compared
    refine Or.inl ⟨rfl, ?_⟩
    rcases Settings.compare_error_iff.mp compared with refused | ⟨_, _, made, unread, there, _⟩
    · exact work_fails_of_refusal nofun refused
    · exact .reading rfl made unread there
  · rename_i compared
    obtain ⟨product, made, held⟩ := Settings.compare_true_iff.mp compared
    refine Or.inr ⟨rfl, fun failed => ?_⟩
    rcases file_fails failed made with ⟨writes, _⟩ | ⟨_, differs⟩
    · cases writes
    · exact differs held
  · rename_i compared
    refine Or.inl ⟨rfl, ?_⟩
    obtain ⟨product, made, ⟨fault, unread, missing⟩ | ⟨content, held, differs⟩⟩ :=
      Settings.compare_false_iff.mp compared
    · exact .absent rfl made unread missing
    · exact .stale rfl made held differs

theorem write_on (settings : Settings) (tree : Tree) :
    (write settings).on tree =
      (match (settings.deliver.on tree).1.result with
        | .error e => .fail (settings.deliver.on tree).1.notices e.message
        | .ok _ => .succeed [] (settings.deliver.on tree).1.notices,
        (settings.deliver.on tree).2) := by
  unfold write
  rw [Action.on_bind]
  cases (settings.deliver.on tree).1.result <;> rfl

theorem write_ends :
    ((write settings).on tree).1.status = 1 ∧ WorkFails .write settings tree ∧
        ((write settings).on tree).2 = tree ∨
      ((write settings).on tree).1.status = 0 ∧ ¬ WorkFails .write settings tree ∧
        ∃ product, settings.product.result = .ok product ∧
          tree.write settings.output product.text.toUTF8 = .ok ((write settings).on tree).2 := by
  rw [write_on]
  cases made : settings.product.result with
  | error e =>
    rw [Settings.deliver_refused made]
    exact Or.inl ⟨rfl, work_fails_of_refusal nofun made, rfl⟩
  | ok product =>
    rw [Settings.deliver_made made]
    cases written : tree.write settings.output product.text.toUTF8 with
    | error fault => exact Or.inl ⟨rfl, .writing rfl made written, rfl⟩
    | ok after =>
      refine Or.inr ⟨rfl, fun failed => ?_, product, rfl, written⟩
      rcases file_fails failed made with ⟨_, fault, unwritable⟩ | ⟨checks, _⟩
      · rw [written] at unwritable
        cases unwritable
      · cases checks

end Modes

namespace Invocation
variable {inv : Invocation} {tree : Tree}

theorem perform_on (inv : Invocation) (tree : Tree) :
    inv.perform.on tree =
      ({ (inv.answer.on tree).1 with
          notices := (inv.answer.on tree).1.notices.filter (Notice.isShown inv.quiet) },
        (inv.answer.on tree).2) := by
  unfold perform
  rw [Action.on_bind]
  rfl

theorem answer_without_source (unread : ∀ source, ¬ inv.HasSource tree source) :
    ∃ reason, inv.answer.on tree = (.fail [] reason, tree) := by
  unfold answer
  rw [Action.on_bind, source_keeps]
  cases found : (inv.source.on tree).1 with
  | error e => exact ⟨e.message, rfl⟩
  | ok source => exact absurd (source_ok_iff.mp found) (unread source)

theorem answer_with_source {source : String} (given : inv.HasSource tree source) :
    inv.answer.on tree =
      match inv.mode with
      | .list => (list (inv.settings source), tree)
      | .check => (check (inv.settings source)).on tree
      | .write => (write (inv.settings source)).on tree := by
  unfold answer
  rw [Action.on_bind, source_keeps, source_ok_iff.mpr given]
  cases inv.mode <;> rfl

theorem fails_with_source {source : String} (given : inv.HasSource tree source) :
    inv.Fails tree ↔ WorkFails inv.mode (inv.settings source) tree := by
  constructor
  · intro failed
    cases failed with
    | input unread => exact absurd given (unread source)
    | work other failed =>
      rw [source_unique given other]
      exact failed
  · exact .work given

theorem answer_ends (inv : Invocation) (tree : Tree) :
    inv.Ends tree (inv.answer.on tree).1.status (inv.answer.on tree).2 := by
  by_cases given : ∃ source, inv.HasSource tree source
  · obtain ⟨source, given⟩ := given
    have fails := fails_with_source given
    rw [answer_with_source given]
    cases mode : inv.mode with
    | list =>
      rw [mode] at fails
      rcases list_ends with ⟨failure, failed⟩ | ⟨success, succeeds⟩
      · exact .failed failure (fails.mpr failed) rfl
      · exact .looked success (fails.not.mpr succeeds) (by simp [mode]) rfl
    | check =>
      rw [mode] at fails
      have kept : ((check (inv.settings source)).on tree).2 = tree := by rw [check_on]
      rcases check_ends with ⟨failure, failed⟩ | ⟨success, succeeds⟩
      · exact .failed failure (fails.mpr failed) kept
      · exact .looked success (fails.not.mpr succeeds) (by simp [mode]) kept
    | write =>
      rw [mode] at fails
      rcases write_ends with ⟨failure, failed, kept⟩ | ⟨success, succeeds, product, made, written⟩
      · exact .failed failure (fails.mpr failed) kept
      · exact .wrote success (fails.not.mpr succeeds) mode given made written
  · have unread := not_exists.mp given
    obtain ⟨reason, failed⟩ := answer_without_source unread
    rw [failed]
    exact .failed rfl (.input unread) rfl

end Invocation

theorem run_refused {arguments : List String} {e : UsageError}
    (refused : Request.ofArguments arguments = .error e) (tree : Tree) :
    run arguments tree = (.refused e, tree) := by
  simp only [run, respond, refused]
  rfl

theorem run_request {arguments : List String} {request : Request}
    (parsed : Request.ofArguments arguments = .ok request) (tree : Tree) :
    run arguments tree = (.answered (request.perform.on tree).1, (request.perform.on tree).2) := by
  simp only [run, respond, parsed, Action.on_bind]
  rfl

section Work
variable {arguments : List String} {inv : Invocation}
  (parsed : Request.ofArguments arguments = .ok (.work inv)) (tree : Tree)
include parsed

theorem run_ends : inv.Ends tree (run arguments tree).1.status (run arguments tree).2 := by
  rw [run_request parsed, Request.perform, Invocation.perform_on]
  exact inv.answer_ends tree

theorem run_writes {place : Location}
    (changed : (run arguments tree).2.find? place ≠ tree.find? place) :
    tree.placeOf? inv.output = some place ∧ tree.find? place ≠ some .directory ∧
      ∃ content, (run arguments tree).2.find? place = some (.file content) := by
  cases run_ends parsed tree with
  | failed _ _ kept =>
    rw [kept] at changed
    exact absurd rfl changed
  | looked _ _ _ kept =>
    rw [kept] at changed
    exact absurd rfl changed
  | wrote _ _ _ _ _ written =>
    obtain ⟨leads, free, there⟩ := Tree.write_touches_place written changed
    exact ⟨leads, free, _, there⟩

end Work

/-- A run changes at most the regular file that its output path leads to, and only when it is to
    write and nothing fails. Then the file holds the product of the source, as the source was
    before the run. The status is 1 exactly for what fails after the line has been read. -/
theorem run_touches_only_output (arguments : List String) (tree : Tree) :
    (∀ place, (run arguments tree).2.find? place ≠ tree.find? place →
      ∃ inv, Request.ofArguments arguments = .ok (.work inv) ∧
        tree.placeOf? inv.output = some place ∧ tree.find? place ≠ some .directory ∧
        ∃ content, (run arguments tree).2.find? place = some (.file content)) ∧
    (∀ e, Request.ofArguments arguments = .error e →
      (run arguments tree).1.status = 2 ∧ (run arguments tree).2 = tree) ∧
    (∀ request, Request.ofArguments arguments = .ok request →
      request = .help ∨ request = .version →
        (run arguments tree).1.status = 0 ∧ (run arguments tree).2 = tree) ∧
    ∀ inv, Request.ofArguments arguments = .ok (.work inv) →
      ((run arguments tree).1.status = 0 ∨ (run arguments tree).1.status = 1) ∧
      ((run arguments tree).1.status = 1 ↔ inv.Fails tree) ∧
      (inv.mode ≠ .write ∨ inv.Fails tree → (run arguments tree).2 = tree) ∧
      (inv.mode = .write → (run arguments tree).1.status = 0 →
        ∃ source product place, inv.HasSource tree source ∧
          (inv.settings source).product.result = .ok product ∧
          tree.placeOf? inv.output = some place ∧
          (run arguments tree).2 = tree.put place (.file product.text.toUTF8) ∧
          (run arguments tree).2.find? place = some (.file product.text.toUTF8)) := by
  refine ⟨?_, ?_, ?_, ?_⟩
  · intro place changed
    cases parsed : Request.ofArguments arguments with
    | error e =>
      rw [run_refused parsed] at changed
      exact absurd rfl changed
    | ok request =>
      cases request with
      | help =>
        rw [run_request parsed] at changed
        exact absurd rfl changed
      | version =>
        rw [run_request parsed] at changed
        exact absurd rfl changed
      | work inv => exact ⟨inv, rfl, run_writes parsed tree changed⟩
  · intro e refused
    rw [run_refused refused]
    exact ⟨rfl, rfl⟩
  · rintro request parsed (rfl | rfl)
    · rw [run_request parsed]
      exact ⟨rfl, rfl⟩
    · rw [run_request parsed]
      exact ⟨rfl, rfl⟩
  · intro inv parsed
    cases run_ends parsed tree with
    | failed failure fails kept =>
      refine ⟨Or.inr failure, ⟨fun _ => fails, fun _ => failure⟩, fun _ => kept, ?_⟩
      intro _ success
      rw [failure] at success
      cases success
    | looked success succeeds looks kept =>
      refine ⟨Or.inl success, ?_, fun _ => kept, fun writes => absurd writes looks⟩
      rw [success]
      exact ⟨nofun, fun fails => absurd fails succeeds⟩
    | wrote success succeeds writes given made written =>
      refine ⟨Or.inl success, ?_, ?_, fun _ _ => ?_⟩
      · rw [success]
        exact ⟨nofun, fun fails => absurd fails succeeds⟩
      · rintro (looks | fails)
        · exact absurd writes looks
        · exact absurd fails succeeds
      · obtain ⟨place, leads, _, there⟩ := Tree.written_place written
        obtain ⟨_, alsoLeads, _, put⟩ := Tree.write_ok_iff.mp written
        obtain rfl := Option.some.inj (leads.symm.trans alsoLeads)
        exact ⟨_, _, place, given, made, leads, put, there⟩

/-- The output path is a detour to the input file, whose words are still what is written. -/
theorem run_overwrites_its_input :
    ∃ (arguments : List String) (tree : Tree) (inv : Invocation) (product : Product),
      arguments = ["--input", "d/ops", "-o", "d/./../d/ops", "-tjson"] ∧
      tree.find? ["d", "ops"] = some (.file "add sub".toUTF8) ∧
      Request.ofArguments arguments = .ok (.work inv) ∧
      (inv.settings "add sub").product.result = .ok product ∧
      (run arguments tree).1.status = 0 ∧
      (run arguments tree).2.find? ["d", "ops"] = some (.file product.text.toUTF8) := by
  let arguments : List String := ["--input", "d/ops", "-o", "d/./../d/ops", "-tjson"]
  let tree : Tree := ⟨[(["d"], .directory), (["d", "ops"], .file "add sub".toUTF8)]⟩
  let inv : Invocation := { input := some "d/ops", output := "d/./../d/ops", target := .json }
  have parsed : Request.ofArguments arguments = .ok (.work inv) := by decide +kernel
  have success : (run arguments tree).1.status = 0 := by decide +kernel
  have listed : inv.HasSource tree "add sub" := by
    change tree.read "d/ops" = .ok "add sub".toUTF8
    decide +kernel
  have target : tree.placeOf? inv.output = some ["d", "ops"] := by decide +kernel
  obtain ⟨_, _, _, works⟩ := run_touches_only_output arguments tree
  obtain ⟨_, _, _, writes⟩ := works inv parsed
  obtain ⟨source, product, place, given, made, leads, _, there⟩ := writes rfl success
  obtain rfl := Invocation.source_unique given listed
  obtain rfl := Option.some.inj (leads.symm.trans target)
  exact ⟨arguments, tree, inv, product, rfl, rfl, parsed, made, success, there⟩

end Opcodes.CommandLine
