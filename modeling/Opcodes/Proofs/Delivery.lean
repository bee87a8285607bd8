import Opcodes.Generation
import Opcodes.Proofs.Files.Texts
import Opcodes.Proofs.Generation

/-! Delivering and comparing an artifact on a tree. Both make the artifact first, and then go to
   the same place: what one would write there is what the other looks for. -/
namespace Opcodes.Settings
open Files

section Stages
variable {settings : Settings}

theorem deliver_refused {e : Error} (refused : settings.product.result = .error e) (tree : Tree) :
    settings.deliver.on tree = (⟨settings.product.notices, .error e⟩, tree) := by
  unfold deliver
  simp only [refused]
  rfl

theorem deliver_made {product : Product} (made : settings.product.result = .ok product)
    (tree : Tree) :
    settings.deliver.on tree =
      match tree.write settings.output product.text.toUTF8 with
      | .error fault =>
        (⟨settings.product.notices, .error (.unwritable settings.output fault)⟩, tree)
      | .ok after =>
        (⟨settings.product.notices ++
          [.wrote product.table.size settings.output settings.target], .ok product⟩, after) := by
  unfold deliver
  simp only [made, Action.on_bind, write_text_on]
  cases tree.write settings.output product.text.toUTF8 <;> rfl

theorem compare_on (settings : Settings) (tree : Tree) :
    settings.isDelivered.on tree =
      (⟨settings.product.notices, settings.product.result >>= fun product =>
        ((holdsText settings.output product.text).on tree).1⟩, tree) := by
  unfold isDelivered
  cases made : settings.product.result with
  | error e =>
    simp only [made]
    rfl
  | ok product =>
    have kept : ((holdsText settings.output product.text).on tree).2 = tree := by rw [holds_text_on]
    simp only [made, Action.on_bind, Action.on_pure, kept]
    rfl

theorem compare_keeps (settings : Settings) (tree : Tree) :
    (settings.isDelivered.on tree).2 = tree := by
  rw [compare_on]

theorem compare_notices (settings : Settings) (tree : Tree) :
    (settings.isDelivered.on tree).1.notices = settings.product.notices := by
  rw [compare_on]

theorem deliver_ok {product : Product} {tree : Tree}
    (delivered : (settings.deliver.on tree).1.result = .ok product) :
    settings.product.result = .ok product ∧
      tree.write settings.output product.text.toUTF8 = .ok (settings.deliver.on tree).2 := by
  cases made : settings.product.result with
  | error e =>
    rw [deliver_refused made] at delivered
    cases delivered
  | ok other =>
    rw [deliver_made made] at delivered ⊢
    cases written : tree.write settings.output other.text.toUTF8 with
    | error fault =>
      rw [written] at delivered
      cases delivered
    | ok after =>
      rw [written] at delivered
      obtain rfl := Except.ok.inj delivered
      exact ⟨rfl, written⟩

theorem deliver_failed {e : Error} {tree : Tree}
    (failed : (settings.deliver.on tree).1.result = .error e) :
    (settings.deliver.on tree).2 = tree := by
  cases made : settings.product.result with
  | error reason => rw [deliver_refused made]
  | ok product =>
    rw [deliver_made made] at failed ⊢
    cases written : tree.write settings.output product.text.toUTF8 with
    | error fault => rfl
    | ok after =>
      rw [written] at failed
      cases failed

theorem compare_true_iff {tree : Tree} :
    (settings.isDelivered.on tree).1.result = .ok true ↔
      ∃ product, settings.product.result = .ok product ∧
        tree.read settings.output = .ok product.text.toUTF8 := by
  rw [compare_on, bind_ok_iff]
  simp only [holds_text_true_iff]

/-- Where a delivery succeeds, a comparison before it gives an answer and no fault. -/
theorem compare_before_delivery {product : Product} {tree : Tree}
    (delivered : (settings.deliver.on tree).1.result = .ok product) :
    ∃ same, (settings.isDelivered.on tree).1.result = .ok same ∧
      (same = true ↔ tree.read settings.output = .ok product.text.toUTF8) := by
  obtain ⟨made, written⟩ := deliver_ok delivered
  rw [compare_on, made]
  by_cases held : tree.read settings.output = .ok product.text.toUTF8
  · exact ⟨true, holds_text_true_iff.mpr held, fun _ => held, fun _ => rfl⟩
  · refine ⟨false, holds_text_false_iff.mpr ?_, nofun, fun other => absurd other held⟩
    rcases Tree.readable_of_writable written with missing | ⟨old, there⟩
    · exact Or.inl ⟨_, missing, rfl⟩
    · refine Or.inr ⟨old, there, ?_⟩
      rintro rfl
      exact held there

theorem compare_after_delivery {product : Product} {tree : Tree}
    (delivered : (settings.deliver.on tree).1.result = .ok product) :
    (settings.isDelivered.on (settings.deliver.on tree).2).1.result = .ok true := by
  obtain ⟨made, written⟩ := deliver_ok delivered
  exact compare_true_iff.mpr ⟨product, made, Tree.read_after_write written⟩

theorem deliver_same {tree : Tree} (same : (settings.isDelivered.on tree).1.result = .ok true) :
    (∃ product, (settings.deliver.on tree).1.result = .ok product) ∧
      (settings.deliver.on tree).2 = tree := by
  obtain ⟨product, made, held⟩ := compare_true_iff.mp same
  rw [deliver_made made, Tree.write_same held]
  exact ⟨⟨product, rfl⟩, rfl⟩

theorem compare_false_iff {tree : Tree} :
    (settings.isDelivered.on tree).1.result = .ok false ↔
      ∃ product, settings.product.result = .ok product ∧
        ((∃ fault, tree.read settings.output = .error fault ∧ fault.kind = .missing) ∨
          ∃ content, tree.read settings.output = .ok content ∧ content ≠ product.text.toUTF8) := by
  rw [compare_on, bind_ok_iff]
  simp only [holds_text_false_iff]

theorem compare_error_iff {tree : Tree} {e : Error} :
    (settings.isDelivered.on tree).1.result = .error e ↔
      settings.product.result = .error e ∨
      ∃ product fault, settings.product.result = .ok product ∧
        tree.read settings.output = .error fault ∧ fault.kind ≠ .missing ∧
        e = .unreadable settings.output fault := by
  rw [compare_on, bind_error_iff]
  simp only [holds_text_error_iff, exists_and_left]

theorem deliver_unreadable {product : Product} {fault : Fault} {tree : Tree}
    (made : settings.product.result = .ok product)
    (unreadable : tree.read settings.output = .error fault) (there : fault.kind ≠ .missing) :
    ∃ other, (settings.deliver.on tree).1.result = .error (.unwritable settings.output other) := by
  obtain ⟨other, failed⟩ :=
    Tree.unwritable_of_unreadable unreadable there product.text.toUTF8
  rw [deliver_made made, failed]
  exact ⟨other, rfl⟩

end Stages

/-- A comparison tells exactly whether a delivery would change anything. It changes nothing itself,
    it finds no difference after a delivery, and it fails on no tree on which the delivery
    does not fail too. -/
theorem comparison_tells_delivery (settings : Settings) (tree : Tree) :
    (settings.isDelivered.on tree).2 = tree ∧
    (∀ product, (settings.deliver.on tree).1.result = .ok product →
      (∃ same, (settings.isDelivered.on tree).1.result = .ok same ∧
        (same = true ↔ (settings.deliver.on tree).2 = tree) ∧
        (same = false →
          ∃ place, (settings.deliver.on tree).2.find? place ≠ tree.find? place)) ∧
      (settings.isDelivered.on (settings.deliver.on tree).2).1.result = .ok true) ∧
    ((settings.isDelivered.on tree).1.result = .ok true →
      (∃ product, (settings.deliver.on tree).1.result = .ok product) ∧
        (settings.deliver.on tree).2 = tree) ∧
    ∀ e, (settings.isDelivered.on tree).1.result = .error e →
      (∃ reason, (settings.deliver.on tree).1.result = .error reason) ∧
      (∀ refusal, settings.product.result = .error refusal →
        e = refusal ∧ (settings.deliver.on tree).1.result = .error refusal) ∧
      ∀ path fault, e = .unreadable path fault →
        path = settings.output ∧
          ∃ other, (settings.deliver.on tree).1.result =
            .error (.unwritable settings.output other) := by
  refine ⟨compare_keeps settings tree, ?_, deliver_same, ?_⟩
  · intro product delivered
    obtain ⟨made, written⟩ := deliver_ok delivered
    obtain ⟨same, answered, decides⟩ := compare_before_delivery delivered
    refine ⟨⟨same, answered, ?_, ?_⟩, compare_after_delivery delivered⟩
    · exact decides.trans (Tree.write_changes_iff written).symm
    · rintro rfl
      obtain ⟨place, leads, _, there⟩ := Tree.written_place written
      -- Were the place as before, the comparison would have found the artifact there.
      refine ⟨place, fun unchanged => ?_⟩
      rw [there] at unchanged
      have held := Tree.read_ok_iff.mpr ⟨place, leads, unchanged.symm⟩
      exact Bool.false_ne_true (decides.mpr held)
  · intro e failed
    rcases compare_error_iff.mp failed with refused | ⟨product, fault, made, unread, there, rfl⟩
    · have delivered : (settings.deliver.on tree).1.result = .error e := by
        rw [deliver_refused refused]
      refine ⟨⟨e, delivered⟩, ?_, ?_⟩
      · intro refusal other
        rw [refused] at other
        obtain rfl := Except.error.inj other
        exact ⟨rfl, delivered⟩
      · -- A product is refused for what its listing says, never for a file.
        rintro path fault rfl
        exact (product_refusal refused).elim
    · obtain ⟨other, unwritten⟩ := deliver_unreadable made unread there
      refine ⟨⟨_, unwritten⟩, ?_, ?_⟩
      · intro refusal refused
        rw [made] at refused
        cases refused
      · rintro path reason same
        obtain ⟨rfl, rfl⟩ := Error.unreadable.inj same
        exact ⟨rfl, other, unwritten⟩

theorem comparison_tells_cut_file :
    ∃ (settings : Settings) (tree : Tree) (product : Product),
      settings.output = "out//ir.js" ∧
      tree.find? ["out", "ir.js"] = some (.file "const IR".toUTF8) ∧
      (settings.deliver.on tree).1.result = .ok product ∧
      (settings.isDelivered.on tree).1.result = .ok false ∧
      (settings.deliver.on tree).2 ≠ tree ∧
      (settings.isDelivered.on (settings.deliver.on tree).2).1.result = .ok true := by
  let settings : Settings := { source := "add sub", output := "out//ir.js" }
  let tree : Tree := ⟨[(["out"], .directory), (["out", "ir.js"], .file "const IR".toUTF8)]⟩
  have succeeds : (settings.deliver.on tree).1.result.isOk = true := by decide +kernel
  have differs : (settings.isDelivered.on tree).1.result.toOption = some false := by
    decide +kernel
  obtain ⟨_, told, _⟩ := comparison_tells_delivery settings tree
  cases delivered : (settings.deliver.on tree).1.result with
  | error e =>
    rw [delivered] at succeeds
    cases succeeds
  | ok product =>
    obtain ⟨⟨same, answered, unchanged, _⟩, afterwards⟩ := told product delivered
    rw [answered] at differs
    obtain rfl := Option.some.inj differs
    refine ⟨settings, tree, product, rfl, rfl, delivered, answered, ?_, afterwards⟩
    intro kept
    exact Bool.false_ne_true (unchanged.mpr kept)

end Opcodes.Settings
