import Opcodes.Files.Action
import Opcodes.Proofs.Files.Places

/-! The accesses to texts, done on a tree. Only a write that succeeds changes the tree. -/
namespace Opcodes.Files

theorem text_of_bytes_iff {content : ByteArray} {text : String} :
    String.fromUTF8? content = some text ↔ content = text.toUTF8 := by
  unfold String.fromUTF8?
  constructor
  · intro decoded
    split at decoded
    · obtain rfl := Option.some.inj decoded
      rfl
    · cases decoded
  · rintro rfl
    rw [String.toUTF8_eq_toByteArray, dif_pos text.isValidUTF8]
    rfl

theorem same_bytes_iff {content : ByteArray} {text : String} :
    (content.data == text.toUTF8.data) = true ↔ content = text.toUTF8 := by
  rw [beq_iff_eq, ByteArray.ext_iff]

theorem read_text_on (path : String) (tree : Tree) :
    (readText path).on tree =
      (match tree.read path with
        | .error fault => .error (.unreadable path fault)
        | .ok content =>
          match String.fromUTF8? content with
          | some text => .ok text
          | none => .error (.unreadable path .notText), tree) := by
  rw [readText, Action.on]
  cases tree.read path with
  | error fault => rfl
  | ok content => cases decoded : String.fromUTF8? content <;> simp [decoded]

theorem write_text_on (path text : String) (tree : Tree) :
    (writeText path text).on tree =
      match tree.write path text.toUTF8 with
      | .error fault => (.error (.unwritable path fault), tree)
      | .ok after => (.ok (), after) := by
  rw [writeText, Action.on]
  cases tree.write path text.toUTF8 <;> rfl

theorem write_text_failed {path text : String} {tree : Tree} {e : Error}
    (failed : ((writeText path text).on tree).1 = .error e) :
    ((writeText path text).on tree).2 = tree := by
  rw [write_text_on] at failed ⊢
  cases written : tree.write path text.toUTF8 with
  | error fault => rfl
  | ok after =>
    rw [written] at failed
    cases failed

theorem holds_text_on (path text : String) (tree : Tree) :
    (holdsText path text).on tree =
      (match tree.read path with
        | .error fault =>
          if fault.kind = .missing then .ok false else .error (.unreadable path fault)
        | .ok content => .ok (content.data == text.toUTF8.data), tree) := by
  rw [holdsText, Action.on]
  cases tree.read path with
  | error fault => by_cases missing : fault.kind = .missing <;> simp [missing]
  | ok content => rfl

theorem read_text_ok_iff {path text : String} {tree : Tree} :
    ((readText path).on tree).1 = .ok text ↔ tree.read path = .ok text.toUTF8 := by
  rw [read_text_on]
  cases tree.read path with
  | error fault => simp
  | ok content =>
    rw [Except.ok.injEq, ← text_of_bytes_iff]
    cases decoded : String.fromUTF8? content <;> simp [decoded]

theorem holds_text_true_iff {path text : String} {tree : Tree} :
    ((holdsText path text).on tree).1 = .ok true ↔ tree.read path = .ok text.toUTF8 := by
  rw [holds_text_on]
  cases tree.read path with
  | error fault => by_cases missing : fault.kind = .missing <;> simp [missing]
  | ok content =>
    rw [Except.ok.injEq, Except.ok.injEq]
    exact same_bytes_iff

theorem holds_text_false_iff {path text : String} {tree : Tree} :
    ((holdsText path text).on tree).1 = .ok false ↔
      (∃ fault, tree.read path = .error fault ∧ fault.kind = .missing) ∨
      ∃ content, tree.read path = .ok content ∧ content ≠ text.toUTF8 := by
  rw [holds_text_on]
  cases tree.read path with
  | error fault => by_cases missing : fault.kind = .missing <;> simp [missing]
  | ok content =>
    rw [Except.ok.injEq, ← Bool.not_eq_true, same_bytes_iff]
    simp

theorem holds_text_error_iff {path text : String} {tree : Tree} {e : Error} :
    ((holdsText path text).on tree).1 = .error e ↔
      ∃ fault, tree.read path = .error fault ∧ fault.kind ≠ .missing ∧
        e = .unreadable path fault := by
  rw [holds_text_on]
  cases tree.read path with
  | error fault =>
    by_cases missing : fault.kind = .missing
    · simp [missing]
    · simp [missing, eq_comm (a := e)]
  | ok content => simp

end Opcodes.Files
