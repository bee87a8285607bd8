import Opcodes.Proofs.CommandLine.Effects
import Opcodes.Proofs.CommandLine.Switches

/-! A command line that has written its artifact, run once more. As long as the artifact is not the input
   itself, the second run reads the same source and finds its work done. -/
namespace Opcodes.CommandLine
open Files

namespace Invocation
variable {inv : Invocation} {tree after : Tree} {source : String}

theorem source_after_write {content : ByteArray} (given : inv.HasSource tree source)
    (apart : ∀ path ∈ inv.input, tree.placeOf? path ≠ tree.placeOf? inv.output)
    (written : tree.write inv.output content = .ok after) : inv.HasSource after source := by
  unfold HasSource at given ⊢
  cases input : inv.input with
  | none =>
    rw [input] at given
    exact given
  | some path =>
    rw [input] at given
    exact Tree.read_elsewhere written (apart path input) given

end Invocation

section Work
variable {arguments : List String} {inv : Invocation} {tree after : Tree} {source : String}
  {product : Product} (parsed : Request.ofArguments arguments = .ok (.work inv))
  (given : inv.HasSource tree source)
  (made : (inv.settings source).product.result = .ok product)
include parsed given made

theorem run_written (writes : inv.mode = .write)
    (written : tree.write inv.output product.text.toUTF8 = .ok after) :
    run arguments tree =
      (.answered ⟨0, [], ((inv.settings source).product.notices ++
        [Notice.wrote product.table.size inv.output inv.target]).filter (Notice.isShown inv.quiet)⟩,
        after) := by
  have delivered := Settings.deliver_made made tree
  have place : (inv.settings source).output = inv.output := rfl
  rw [place, written] at delivered
  rw [run_request parsed, Request.perform, Invocation.perform_on,
    Invocation.answer_with_source given, writes]
  simp only [write_on, delivered]
  rfl

theorem run_checked (checks : inv.mode = .check)
    (held : tree.read inv.output = .ok product.text.toUTF8) :
    (run arguments tree).1.status = 0 ∧ (run arguments tree).2 = tree := by
  cases run_ends parsed tree with
  | failed _ fails _ =>
    have failed := (Invocation.fails_with_source given).mp fails
    rcases file_fails failed made with ⟨writes, _⟩ | ⟨_, differs⟩
    · rw [checks] at writes
      cases writes
    · exact absurd held differs
  | looked success _ _ kept => exact ⟨success, kept⟩
  | wrote _ _ writes =>
    rw [checks] at writes
    cases writes

end Work

/-- After a run that has written its artifact, a check of the same line passes and changes nothing, and
    the same run ends in every respect as before: with the same status, the same outputs and the
    same files. -/
theorem regeneration_is_idempotent (arguments : List String) (tree : Tree) (inv : Invocation)
    (parsed : Request.ofArguments arguments = .ok (.work inv)) (writes : inv.mode = .write)
    (apart : ∀ path ∈ inv.input, tree.placeOf? path ≠ tree.placeOf? inv.output)
    (success : (run arguments tree).1.status = 0) :
    (run ("--check" :: arguments) (run arguments tree).2).1.status = 0 ∧
    (run ("--check" :: arguments) (run arguments tree).2).2 = (run arguments tree).2 ∧
    run arguments (run arguments tree).2 = run arguments tree := by
  cases run_ends parsed tree with
  | failed failure =>
    rw [failure] at success
    cases success
  | looked _ _ looks => exact absurd writes looks
  | wrote _ _ _ given made written =>
    have again := Invocation.source_after_write given apart written
    have held := Tree.read_after_write written
    have first := run_written parsed given made writes written
    have second := run_written parsed again made writes (Tree.write_same held)
    have checked := run_checked (check_in_front parsed writes) again made rfl held
    exact ⟨checked.1, checked.2, second.trans first.symm⟩

theorem regeneration_warns_again :
    ∃ (arguments : List String) (tree : Tree) (inv : Invocation),
      arguments = ["--input", "d/ops", "-o", "d/./../d/ir", "-tjson"] ∧
      tree.find? ["d", "ops"] = some (.file "add sub add".toUTF8) ∧
      Request.ofArguments arguments = .ok (.work inv) ∧
      tree.placeOf? "d/ops" ≠ tree.placeOf? inv.output ∧
      (run arguments tree).2 ≠ tree ∧
      (run ("--check" :: arguments) (run arguments tree).2).1.status = 0 ∧
      (run arguments (run arguments tree).2).2 = (run arguments tree).2 ∧
      (run arguments (run arguments tree).2).1.stderr false =
        "warning: `add` is declared at codes 0 and 2; lookups by name resolve to 2\n" ++
          "info: wrote 3 opcodes to d/./../d/ir (json)\n" := by
  let arguments : List String := ["--input", "d/ops", "-o", "d/./../d/ir", "-tjson"]
  let tree : Tree := ⟨[(["d"], .directory), (["d", "ops"], .file "add sub add".toUTF8)]⟩
  let inv : Invocation := { input := some "d/ops", output := "d/./../d/ir", target := .json }
  have parsed : Request.ofArguments arguments = .ok (.work inv) := by decide +kernel
  have success : (run arguments tree).1.status = 0 := by decide +kernel
  have places : tree.placeOf? "d/ops" ≠ tree.placeOf? inv.output := by decide +kernel
  have apart : ∀ path ∈ inv.input, tree.placeOf? path ≠ tree.placeOf? inv.output := by
    intro path named
    obtain rfl := Option.some.inj named
    exact places
  have changed : (run arguments tree).2 ≠ tree := by decide +kernel
  have said : (run arguments tree).1.stderr false =
      "warning: `add` is declared at codes 0 and 2; lookups by name resolve to 2\n" ++
        "info: wrote 3 opcodes to d/./../d/ir (json)\n" := by
    decide +kernel
  obtain ⟨passes, _, again⟩ := regeneration_is_idempotent arguments tree inv parsed rfl apart success
  refine ⟨arguments, tree, inv, rfl, rfl, parsed, places, changed, passes, ?_, ?_⟩
  · rw [again]
  · rw [again]
    exact said

end Opcodes.CommandLine
