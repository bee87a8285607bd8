import Opcodes.Generation

/-! What a product was made from, and on what grounds there is none. -/
namespace Opcodes

/-- The errors that a listing is refused with. They say nothing about files. -/
def Error.IsRefusal : Error → Prop
  | .repeatedMnemonic .. | .notAnIdentifier _ | .variantClash .. => True
  | _ => False

def Error.BlamesVariant : Error → Prop
  | .notAnIdentifier _ | .variantClash .. => True
  | _ => False

def Entry.IsBlamedBy (entry : Entry) : Error → Prop
  | .notAnIdentifier name => name = entry.mnemonic.name
  | .variantClash variant _ code => variant = entry.mnemonic.variant ∧ code = entry.code
  | _ => False

theorem Error.BlamesVariant.is_refusal {e : Error} (blames : e.BlamesVariant) : e.IsRefusal := by
  cases e with
  | notAnIdentifier | variantClash => trivial
  | _ => cases blames

theorem Entry.IsBlamedBy.blames_variant {entry : Entry} {e : Error} (blamed : entry.IsBlamedBy e) :
    e.BlamesVariant := by
  cases e with
  | notAnIdentifier | variantClash => trivial
  | _ => cases blamed

section Binding
variable {ε α β : Type} {first : Except ε α} {next : α → Except ε β}

theorem bind_ok_iff {b : β} : first >>= next = .ok b ↔ ∃ a, first = .ok a ∧ next a = .ok b := by
  cases first with
  | error e => simp [bind, Except.bind]
  | ok a => simp [bind, Except.bind]

theorem bind_error_iff {e : ε} :
    first >>= next = .error e ↔ first = .error e ∨ ∃ a, first = .ok a ∧ next a = .error e := by
  cases first with
  | error reason => simp [bind, Except.bind]
  | ok a => simp [bind, Except.bind]

end Binding

theorem ok_of_succeeds {α : Type} {result : Except Error α} (succeeds : result.isOk = true) :
    ∃ a, result = .ok a := by
  cases result with
  | error e => cases succeeds
  | ok a => exact ⟨a, rfl⟩

theorem Table.of_distinct {ms : List Mnemonic} {table : Table}
    (accepted : ofDistinct ms = .ok table) :
    table = ofMnemonics ms ∧ (ofMnemonics ms).repeats = [] := by
  cases found : (ofMnemonics ms).repeats with
  | nil =>
    simp only [ofDistinct, found] at accepted
    exact ⟨(Except.ok.inj accepted).symm, rfl⟩
  | cons r later =>
    simp only [ofDistinct, found] at accepted
    cases accepted

theorem Table.of_distinct_error {ms : List Mnemonic} {e : Error}
    (failed : ofDistinct ms = .error e) :
    ∃ r later, (ofMnemonics ms).repeats = r :: later ∧
      e = .repeatedMnemonic r.mnemonic.name r.earlier r.later := by
  cases found : (ofMnemonics ms).repeats with
  | nil =>
    simp only [ofDistinct, found] at failed
    cases failed
  | cons r later =>
    simp only [ofDistinct, found] at failed
    exact ⟨r, later, rfl, (Except.error.inj failed).symm⟩

theorem Artifact.Script.render_error {names : ScriptNames} {table : Table} {e : Error}
    (failed : render names table = .error e) : ∃ entry ∈ table.entries, entry.IsBlamedBy e := by
  unfold render at failed
  split at failed
  · rename_i entry found
    obtain rfl := Except.error.inj failed
    exact ⟨entry, List.mem_of_find?_eq_some found, rfl⟩
  · cases failed

theorem Artifact.Enumeration.arms_error {taken : Std.TreeMap String Code} {entries : List Entry}
    {e : Error} (failed : armsFrom taken entries = .error e) :
    ∃ entry ∈ entries, entry.IsBlamedBy e := by
  induction entries generalizing taken with
  | nil => cases failed
  | cons entry rest ih =>
    simp only [armsFrom] at failed
    split at failed
    · split at failed
      · obtain rfl := Except.error.inj failed
        exact ⟨entry, List.mem_cons_self, rfl, rfl⟩
      · split at failed
        · rename_i reason failedLater
          obtain rfl := Except.error.inj failed
          obtain ⟨other, listed, blamed⟩ := ih failedLater
          exact ⟨other, List.mem_cons_of_mem entry listed, blamed⟩
        · cases failed
    · obtain rfl := Except.error.inj failed
      exact ⟨entry, List.mem_cons_self, rfl⟩

theorem Artifact.Enumeration.render_error {enumName : String} {table : Table} {e : Error}
    (failed : render enumName table = .error e) : ∃ entry ∈ table.entries, entry.IsBlamedBy e := by
  unfold render at failed
  split at failed
  · rename_i reason failedArms
    obtain rfl := Except.error.inj failed
    exact arms_error failedArms
  · cases failed

namespace Settings

variable {settings : Settings}

theorem table_permissive (lenient : settings.refusesRepeats = false) :
    settings.table =
      ⟨(Table.ofListing settings.source).repeats.map .shadowed,
        .ok (.ofListing settings.source)⟩ := by
  unfold Settings.table
  rw [if_neg (by simp [lenient])]
  rfl

theorem table_strict (strict : settings.refusesRepeats = true) :
    settings.table = ⟨[], Table.ofDistinct (Listing.mnemonics settings.source)⟩ := by
  unfold Settings.table
  rw [if_pos strict]

theorem table_of_listing {table : Table} (numbered : settings.table.result = .ok table) :
    table = .ofListing settings.source := by
  cases strict : settings.refusesRepeats with
  | true =>
    rw [table_strict strict] at numbered
    exact (Table.of_distinct numbered).1
  | false =>
    rw [table_permissive strict] at numbered
    exact (Except.ok.inj numbered).symm

theorem table_refused {e : Error} (refused : settings.table.result = .error e) :
    ∃ r ∈ (Table.ofListing settings.source).repeats,
      e = .repeatedMnemonic r.mnemonic.name r.earlier r.later := by
  cases strict : settings.refusesRepeats with
  | true =>
    rw [table_strict strict] at refused
    obtain ⟨r, later, repeats, same⟩ := Table.of_distinct_error refused
    exact ⟨r, repeats ▸ List.mem_cons_self, same⟩
  | false =>
    rw [table_permissive strict] at refused
    cases refused

theorem table_warned {notice : Notice} (given : notice ∈ settings.table.notices) :
    ∃ r ∈ (Table.ofListing settings.source).repeats, notice = .shadowed r := by
  cases strict : settings.refusesRepeats with
  | true =>
    rw [table_strict strict] at given
    cases given
  | false =>
    rw [table_permissive strict] at given
    obtain ⟨r, found, same⟩ := List.mem_map.mp given
    exact ⟨r, found, same.symm⟩

theorem product_parts {product : Product} (accepted : settings.product.result = .ok product) :
    product.table = .ofListing settings.source ∧
      settings.render (.ofListing settings.source) = .ok product.text := by
  obtain ⟨table, numbered, rest⟩ := bind_ok_iff.mp accepted
  obtain ⟨text, rendered, whole⟩ := bind_ok_iff.mp rest
  obtain rfl := Except.ok.inj whole
  obtain rfl := table_of_listing numbered
  exact ⟨rfl, rendered⟩

theorem product_enumerated {product : Product} (rust : settings.target = .rust)
    (accepted : settings.product.result = .ok product) :
    product.table = .ofListing settings.source ∧
      Artifact.Enumeration.render "Opcode" (.ofListing settings.source) = .ok product.text := by
  obtain ⟨table, rendered⟩ := product_parts accepted
  rw [render, rust] at rendered
  exact ⟨table, rendered⟩

theorem product_error_iff {e : Error} :
    settings.product.result = .error e ↔
      settings.table.result = .error e ∨
      ∃ table, settings.table.result = .ok table ∧ settings.render table = .error e := by
  rw [product, bind_error_iff]
  refine or_congr_right (exists_congr fun table => and_congr_right fun _ => ?_)
  rw [bind_error_iff]
  exact or_iff_left fun ⟨_, _, whole⟩ => nomatch whole

theorem render_error {table : Table} {e : Error}
    (failed : settings.render table = .error e) : ∃ entry ∈ table.entries, entry.IsBlamedBy e := by
  unfold render at failed
  split at failed
  · exact Artifact.Script.render_error failed
  · exact Artifact.Enumeration.render_error failed
  · cases failed

theorem product_refusal {e : Error} (failed : settings.product.result = .error e) :
    e.IsRefusal := by
  rcases product_error_iff.mp failed with refused | ⟨table, _, unrendered⟩
  · obtain ⟨r, _, rfl⟩ := table_refused refused
    trivial
  · obtain ⟨entry, _, blamed⟩ := render_error unrendered
    exact blamed.blames_variant.is_refusal

end Settings
end Opcodes
