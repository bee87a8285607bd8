import Opcodes.Proofs.Files.Store
import Opcodes.Proofs.Generation
import Opcodes.Proofs.Table.Numbering
import Opcodes.Proofs.Table.Repeats
import Opcodes.Proofs.Text.Colour
import Opcodes.Proofs.Text.LineReading

/-! What the messages of a run are made of: texts of their own, numerals, words of the listing, and
   paths. Only a path can bring a control sequence into them. -/
namespace Opcodes
open Files Text Unicode

theorem plain_no_escape {text : String} (plain : IsPlainText text) : HasNoEscape text := by
  intro escape
  exact absurd (plain '\x1b' escape) (by decide)

theorem numeral_no_escape (n : Nat) : HasNoEscape (Nat.repr n) := by
  intro escape
  rw [Nat.toList_repr] at escape
  exact absurd (digits_are_digits n '\x1b' escape) (by decide)

theorem target_no_escape (target : Target) : HasNoEscape target.name := by
  cases target <;> decide

theorem Files.Tree.fault_no_escape {fault : Fault} (listed : fault ∈ accessFaults) :
    HasNoEscape fault.reason := by
  have all : ∀ other ∈ accessFaults, HasNoEscape other.reason := by decide
  exact all fault listed

def Table.IsPlain (table : Table) : Prop :=
  ∀ entry ∈ table.entries, IsPlainText entry.mnemonic.name

theorem Table.listing_is_plain (source : String) : (ofListing source).IsPlain :=
  fun _ listed => entry_plain listed

theorem Table.repeated_is_declared {latest : Std.TreeMap String Code} {entries : List Entry}
    {r : Repeat} (found : r ∈ repeatsFrom latest entries) :
    ∃ entry ∈ entries, r.mnemonic = entry.mnemonic := by
  induction entries generalizing latest with
  | nil => cases found
  | cons entry rest ih =>
    rcases mem_repeats_cons.mp found with ⟨earlier, _, rfl⟩ | later
    · exact ⟨entry, List.mem_cons_self, rfl⟩
    · obtain ⟨other, listed, same⟩ := ih later
      exact ⟨other, List.mem_cons_of_mem entry listed, same⟩

theorem Table.IsPlain.repeated {table : Table} (plain : table.IsPlain) {r : Repeat}
    (found : r ∈ table.repeats) : IsPlainText r.mnemonic.name := by
  obtain ⟨entry, listed, same⟩ := repeated_is_declared found
  rw [same]
  exact plain entry listed

def Error.BlamesPlain : Error → Prop
  | .repeatedMnemonic name _ _ | .notAnIdentifier name | .variantClash name _ _ =>
    IsPlainText name
  | _ => False

theorem Error.BlamesPlain.no_escape {e : Error} (blames : e.BlamesPlain) :
    HasNoEscape e.message := by
  have code (code : Code) : HasNoEscape code.decimal := numeral_no_escape code.toNat
  cases e with
  | repeatedMnemonic name | notAnIdentifier name | variantClash name =>
    have word : HasNoEscape name := plain_no_escape blames
    unfold Error.message
    simp only [no_escape_append, word, code, and_true]
    decide
  | _ => cases blames

theorem Entry.IsBlamedBy.blames_plain {entry : Entry} {e : Error} (blamed : entry.IsBlamedBy e)
    (plain : IsPlainText entry.mnemonic.name) : e.BlamesPlain := by
  cases e with
  | notAnIdentifier name =>
    obtain rfl := blamed
    exact plain
  | variantClash variant first second =>
    obtain ⟨rfl, _⟩ := blamed
    exact variant_plain plain
  | _ => cases blamed

namespace Settings
variable {settings : Settings}

theorem repeat_is_plain {r : Repeat} (found : r ∈ (Table.ofListing settings.source).repeats) :
    IsPlainText r.mnemonic.name :=
  (Table.listing_is_plain settings.source).repeated found

theorem table_blames_plain {e : Error} (refused : settings.table.result = .error e) :
    e.BlamesPlain := by
  obtain ⟨r, found, rfl⟩ := table_refused refused
  exact repeat_is_plain found

theorem product_blames_plain {e : Error} (refused : settings.product.result = .error e) :
    e.BlamesPlain := by
  rcases product_error_iff.mp refused with unnumbered | ⟨table, numbered, unrendered⟩
  · exact table_blames_plain unnumbered
  · rw [table_of_listing numbered] at unrendered
    obtain ⟨entry, listed, blamed⟩ := render_error unrendered
    exact blamed.blames_plain (Table.entry_plain listed)

theorem warning_no_escape {notice : Notice} (given : notice ∈ settings.table.notices) :
    HasNoEscape notice.message := by
  obtain ⟨r, found, rfl⟩ := table_warned given
  have word := plain_no_escape (repeat_is_plain found)
  have code (code : Code) : HasNoEscape code.decimal := numeral_no_escape code.toNat
  simp only [Notice.message, no_escape_append, word, code, and_true]
  decide

end Settings

section Paths
variable {path : String} (clean : HasNoEscape path)
include clean

theorem file_errors_no_escape {fault : Fault} (reason : HasNoEscape fault.reason) :
    HasNoEscape (Error.unreadable path fault).message ∧
      HasNoEscape (Error.unwritable path fault).message := by
  unfold Error.message
  simp only [no_escape_append, clean, reason, and_true]
  decide

theorem wrote_no_escape (count : Nat) (target : Target) :
    HasNoEscape (Notice.wrote count path target).message := by
  simp only [Notice.message, no_escape_append, clean, numeral_no_escape, target_no_escape, and_true]
  decide

theorem read_failure_no_escape {tree : Tree} {e : Error}
    (unread : ((readText path).on tree).1 = .error e) : HasNoEscape e.message := by
  rw [read_text_on] at unread
  simp only at unread
  split at unread
  · rename_i fault failed
    obtain rfl := Except.error.inj unread
    exact (file_errors_no_escape clean (Tree.fault_no_escape (Tree.read_fault_listed failed))).1
  · split at unread
    · cases unread
    · obtain rfl := Except.error.inj unread
      exact (file_errors_no_escape clean (by decide)).1

end Paths
end Opcodes
