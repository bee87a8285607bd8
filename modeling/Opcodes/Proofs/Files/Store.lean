import Mathlib.Data.List.Basic
import Opcodes.Proofs.Files.Texts

/-! The files of a tree as a store of texts. What is written to a path is what every spelling of it
   reads and compares, and a second write leaves nothing of the first. How reading fails decides how
   comparing ends. Nothing is said about a write that is interrupted. -/
namespace Opcodes.Files

namespace Tree

theorem put_in_again (place : Location) (first second : Node) (nodes : List (Location × Node)) :
    putIn place second (putIn place first nodes) = putIn place second nodes := by
  induction nodes with
  | nil => simp [putIn]
  | cons head rest ih =>
    obtain ⟨p, n⟩ := head
    by_cases here : p = place
    · simp [putIn, here]
    · simp [putIn, here, ih]

theorem put_again (tree : Tree) (place : Location) (first second : Node) :
    (tree.put place first).put place second = tree.put place second := by
  by_cases root : place = []
  · simp [put, root]
  · simp [put, root, put_in_again]

theorem write_again {tree after : Tree} {path : String} {first : ByteArray}
    (written : tree.write path first = .ok after) (second : ByteArray) :
    ∃ last, after.write path second = .ok last ∧ tree.write path second = .ok last := by
  obtain ⟨place, leads, free, rfl⟩ := write_ok_iff.mp written
  have filled : (tree.put place (.file first)).find? place ≠ some .directory := by
    simp [find_put, place_below_root leads]
  have same := put_again tree place (.file first) (.file second)
  exists tree.put place (.file second)
  constructor
  · exact write_ok_iff.mpr ⟨place, place_put first free leads, filled, same.symm⟩
  · exact write_ok_iff.mpr ⟨place, leads, free, rfl⟩

def accessFaults : List Fault := [.missing, .notDirectory, .directory, .nameTooLong, .nulInPath]

theorem spelling_fault_listed {path : String} {fault : Fault}
    (spelled : spellingFault? path = some fault) : fault ∈ accessFaults := by
  unfold spellingFault? at spelled
  split at spelled
  · simp [accessFaults, ← Option.some.inj spelled]
  · split at spelled
    · simp [accessFaults, ← Option.some.inj spelled]
    · split at spelled
      · simp [accessFaults, ← Option.some.inj spelled]
      · cases spelled

theorem walk_fault_listed {tree : Tree} {here : Location} {names : List String} {fault : Fault}
    (failed : tree.walk here names = .error fault) : fault ∈ accessFaults := by
  fun_induction walk tree here names with
  | case1 => cases failed
  | case2 here rest ih => exact ih failed
  | case3 here rest moves ih => exact ih failed
  | case4 => simp [accessFaults, ← Except.error.inj failed]
  | case5 => simp [accessFaults, ← Except.error.inj failed]
  | case6 => simp [accessFaults, ← Except.error.inj failed]
  | case7 here name rest moves down short isDirectory ih => exact ih failed

theorem destination_fault_listed {tree : Tree} {path : String} {fault : Fault}
    (failed : tree.destination path = .error fault) : fault ∈ accessFaults := by
  unfold destination at failed
  split at failed
  · rename_i other spelled
    obtain rfl := Except.error.inj failed
    exact spelling_fault_listed spelled
  · simp only at failed
    split at failed
    · rename_i other walked
      obtain rfl := Except.error.inj failed
      exact walk_fault_listed walked
    · split at failed
      · cases failed
      · split at failed <;> cases failed

theorem read_fault_listed {tree : Tree} {path : String} {fault : Fault}
    (unread : tree.read path = .error fault) : fault ∈ accessFaults := by
  revert unread
  fun_cases read tree path with
  | case1 other failed =>
    intro unread
    obtain rfl := Except.error.inj unread
    exact destination_fault_listed failed
  | case7 =>
    intro unread
    cases unread
  | _ =>
    intro unread
    simp [accessFaults, ← Except.error.inj unread]

theorem write_fault_listed {tree : Tree} {path : String} {content : ByteArray} {fault : Fault}
    (unwritten : tree.write path content = .error fault) : fault ∈ accessFaults := by
  revert unwritten
  fun_cases write tree path content with
  | case1 other failed =>
    intro unwritten
    obtain rfl := Except.error.inj unwritten
    exact destination_fault_listed failed
  | case6 =>
    intro unwritten
    cases unwritten
  | _ =>
    intro unwritten
    simp [accessFaults, ← Except.error.inj unwritten]

theorem read_fault_not_data {tree : Tree} {path : String} {fault : Fault}
    (unread : tree.read path = .error fault) : fault.kind ≠ .badData := by
  have kinds : ∀ other ∈ accessFaults, other.kind ≠ .badData := by decide
  exact kinds fault (read_fault_listed unread)

theorem write_keeps_elsewhere {tree after : Tree} {path : String} {content : ByteArray}
    (written : tree.write path content = .ok after) {place : Location}
    (apart : tree.placeOf? path ≠ some place) : after.find? place = tree.find? place := by
  by_cases same : after.find? place = tree.find? place
  · exact same
  · exact absurd (write_touches_place written same).1 apart

theorem write_keeps_directories {tree after : Tree} {path : String} {content : ByteArray}
    (written : tree.write path content = .ok after) (place : Location) :
    after.find? place = some .directory ↔ tree.find? place = some .directory := by
  by_cases same : after.find? place = tree.find? place
  · simp [same]
  · obtain ⟨_, free, filled⟩ := write_touches_place written same
    simp [filled, free]

end Tree

/-- What a tree is after a text has been written to a path in another one. -/
structure Stores (before : Tree) (path text : String) (after : Tree) : Prop where
  reads : ∀ other, before.placeOf? other = before.placeOf? path →
    (readText other).on after = (.ok text, after)
  compares : ∀ other compared, before.placeOf? other = before.placeOf? path →
    (holdsText other compared).on after = (.ok (decide (text = compared)), after)
  elsewhere : ∀ place, before.placeOf? path ≠ some place →
    after.find? place = before.find? place
  directories : ∀ place, after.find? place = some .directory ↔
    before.find? place = some .directory
  others_read : ∀ other content, before.placeOf? other ≠ before.placeOf? path →
    before.read other = .ok content → after.read other = .ok content
  overwritten : ∀ later, ∃ last, (writeText path later).on after = (.ok (), last) ∧
    (writeText path later).on before = (.ok (), last)

section Texts
variable {tree after : Tree} {path : String}

theorem text_written {text : String} (written : (writeText path text).on tree = (.ok (), after)) :
    tree.write path text.toUTF8 = .ok after := by
  rw [write_text_on] at written
  cases stored : tree.write path text.toUTF8 with
  | error fault =>
    rw [stored] at written
    cases written
  | ok changed =>
    rw [stored] at written
    obtain rfl := congrArg Prod.snd written
    rfl

theorem read_text_of_bytes {text : String} (held : tree.read path = .ok text.toUTF8) :
    (readText path).on tree = (.ok text, tree) := by
  have result := read_text_ok_iff.mpr held
  rw [read_text_on] at result ⊢
  exact Prod.ext result rfl

theorem compare_text_of_bytes {text : String} (held : tree.read path = .ok text.toUTF8)
    (compared : String) :
    (holdsText path compared).on tree = (.ok (decide (text = compared)), tree) := by
  have same : (text.toUTF8.data == compared.toUTF8.data) = decide (text = compared) := by
    rw [Bool.eq_iff_iff, same_bytes_iff, decide_eq_true_iff, String.toUTF8_eq_toByteArray,
      String.toUTF8_eq_toByteArray, String.toByteArray_inj]
  simp only [holds_text_on, held, same]

theorem stores_written {text : String} (written : tree.write path text.toUTF8 = .ok after) :
    Stores tree path text after := by
  constructor
  · intro other same
    exact read_text_of_bytes (Tree.read_same_place written same)
  · intro other compared same
    exact compare_text_of_bytes (Tree.read_same_place written same) compared
  · intro place apart
    exact Tree.write_keeps_elsewhere written apart
  · intro place
    exact Tree.write_keeps_directories written place
  · intro other content apart isRead
    exact Tree.read_elsewhere written apart isRead
  · intro later
    obtain ⟨last, again, alone⟩ := Tree.write_again written later.toUTF8
    exists last
    simp only [write_text_on, again, alone, and_self]

theorem compare_no_text {content : ByteArray} (held : tree.read path = .ok content)
    (undecoded : String.fromUTF8? content = none) (text : String) :
    ((holdsText path text).on tree).1 = .ok false := by
  apply holds_text_false_iff.mpr
  refine Or.inr ⟨content, held, ?_⟩
  intro same
  rw [text_of_bytes_iff.mpr same] at undecoded
  cases undecoded

theorem comparison_of_unread {e : Error} (unread : ((readText path).on tree).1 = .error e)
    (text : String) :
    ∃ fault, e = .unreadable path fault ∧
      ((holdsText path text).on tree).1 =
        if fault.kind = .missing ∨ fault.kind = .badData then .ok false
        else .error (.unreadable path fault) := by
  rw [read_text_on] at unread
  cases isRead : tree.read path with
  | error fault =>
    simp only [isRead, Except.error.injEq] at unread
    exists fault
    have other := Tree.read_fault_not_data isRead
    simp [holds_text_on, isRead, unread, other]
  | ok content =>
    cases decoded : String.fromUTF8? content with
    | some held => simp [isRead, decoded] at unread
    | none =>
      simp only [isRead, decoded, Except.error.injEq] at unread
      exists .notText
      have kind : Fault.notText.kind = .badData := rfl
      simp [unread, kind, compare_no_text isRead decoded]

end Texts

/-- The files are a store of texts. A write that succeeds is read back, compares as equal to its own
    text only, touches nothing else and can be done again; one that fails changes nothing. What a
    comparison says follows from what reading the same path says. -/
theorem files_store_texts :
    (∀ (tree : Tree) (path text : String),
      (∀ after, (writeText path text).on tree = (.ok (), after) → Stores tree path text after) ∧
      ∀ e, ((writeText path text).on tree).1 = .error e →
        ((writeText path text).on tree).2 = tree) ∧
    ∀ (tree : Tree) (path text : String),
      ((readText path).on tree).2 = tree ∧ ((holdsText path text).on tree).2 = tree ∧
      (∀ held, ((readText path).on tree).1 = .ok held →
        ((holdsText path text).on tree).1 = .ok (decide (text = held))) ∧
      ∀ e, ((readText path).on tree).1 = .error e →
        ∃ fault, e = .unreadable path fault ∧
          ((holdsText path text).on tree).1 =
            if fault.kind = .missing ∨ fault.kind = .badData then .ok false
            else .error (.unreadable path fault) := by
  constructor
  · intro tree path text
    constructor
    · intro after written
      exact stores_written (text_written written)
    · intro e failed
      exact write_text_failed failed
  · intro tree path text
    refine ⟨by rw [read_text_on], by rw [holds_text_on], ?_, ?_⟩
    · intro held isRead
      have compared := compare_text_of_bytes (read_text_ok_iff.mp isRead) text
      simp only [compared, eq_comm]
    · intro e unread
      exact comparison_of_unread unread text

theorem spellings_share_one_text :
    ∃ tree after : Tree,
      tree.find? ["out", "ir.js"] = some (.file "a much longer text".toUTF8) ∧
      (writeText "./out//ir.js" "short").on tree = (.ok (), after) ∧
      (readText "out/../out/ir.js").on after = (.ok "short", after) ∧
      (holdsText "out/ir.js" "shorter").on after = (.ok false, after) ∧
      after.find? ["data"] = tree.find? ["data"] ∧
      (writeText "out" "short").on tree = (.error (.unwritable "out" .directory), tree) ∧
      ((readText "out/ir.js").on after).1 = .ok "short" ∧
      ((holdsText "out/ir.js" "short").on after).1 = .ok true ∧
      ((readText "data").on tree).1 = .error (.unreadable "data" .notText) ∧
      ((holdsText "data" "").on tree).1 = .ok false ∧
      ((readText "out").on tree).1 = .error (.unreadable "out" .directory) ∧
      ((holdsText "out" "short").on tree).1 = .error (.unreadable "out" .directory) := by
  let tree : Tree := ⟨[(["out"], .directory),
    (["out", "ir.js"], .file "a much longer text".toUTF8), (["data"], .file ⟨#[0xff]⟩)]⟩
  let after : Tree := ((writeText "./out//ir.js" "short").on tree).2
  have written : (writeText "./out//ir.js" "short").on tree = (.ok (), after) :=
    Prod.ext (by decide +kernel) rfl
  have spelled : tree.placeOf? "out/../out/ir.js" = tree.placeOf? "./out//ir.js" := by
    decide +kernel
  have plainly : tree.placeOf? "out/ir.js" = tree.placeOf? "./out//ir.js" := by decide +kernel
  have apart : tree.placeOf? "./out//ir.js" ≠ some ["data"] := by decide +kernel
  have refused : ((writeText "out" "short").on tree).1 = .error (.unwritable "out" .directory) := by
    decide +kernel
  have binary : ((readText "data").on tree).1 = .error (.unreadable "data" .notText) := by
    decide +kernel
  have unread : ((readText "out").on tree).1 = .error (.unreadable "out" .directory) := by
    decide +kernel
  obtain ⟨writes, compares⟩ := files_store_texts
  have stored := (writes tree _ _).1 after written
  have kept := (writes tree _ _).2 _ refused
  have isRead : ((readText "out/ir.js").on after).1 = .ok "short" :=
    congrArg Prod.fst (stored.reads _ plainly)
  have equal := (compares after "out/ir.js" "short").2.2.1 _ isRead
  obtain ⟨_, sameFault, different⟩ := (compares tree "data" "").2.2.2 _ binary
  obtain rfl := (Error.unreadable.inj sameFault).2
  obtain ⟨_, sameFault, uncompared⟩ := (compares tree "out" "short").2.2.2 _ unread
  obtain rfl := (Error.unreadable.inj sameFault).2
  exact ⟨tree, after, rfl, written, stored.reads _ spelled, stored.compares _ _ plainly,
    stored.elsewhere _ apart, Prod.ext refused kept, isRead, equal, binary, different, unread,
    uncompared⟩

end Opcodes.Files
