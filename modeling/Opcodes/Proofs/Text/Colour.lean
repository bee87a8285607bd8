import Mathlib.Data.List.TakeWhile
import Opcodes.Text

/-! Text for a terminal with its styles taken out again. Only sequences that set colours and the like
   are taken out; what the text itself says is not looked at, so it must not hold their first
   character. -/
namespace Opcodes.Text

def isParameter (c : Char) : Bool := c.isDigit || c = ';'

/-- The length of the sequence that stands in front, or zero where none does. -/
def sequenceLength : List Char → Nat
  | '\x1b' :: '[' :: cs =>
    let parameters := cs.takeWhile isParameter
    if (cs.drop parameters.length).head? = some 'm' then parameters.length + 3 else 0
  | _ => 0

/-- Leaves out every sequence, where `inside` counts the characters that are still to come of the
    sequence before. -/
def uncolouredFrom (inside : Nat) : List Char → List Char
  | [] => []
  | c :: rest =>
    match inside with
    | left + 1 => uncolouredFrom left rest
    | 0 =>
      match sequenceLength (c :: rest) with
      | left + 1 => uncolouredFrom left rest
      | 0 => c :: uncolouredFrom 0 rest

def uncoloured (text : String) : String := String.ofList (uncolouredFrom 0 text.toList)

def HasNoEscape (text : String) : Prop := '\x1b' ∉ text.toList

instance (text : String) : Decidable (HasNoEscape text) :=
  inferInstanceAs (Decidable ('\x1b' ∉ text.toList))

@[simp] theorem no_escape_append {a b : String} :
    HasNoEscape (a ++ b) ↔ HasNoEscape a ∧ HasNoEscape b := by
  unfold HasNoEscape
  rw [String.toList_append, List.mem_append, not_or]

theorem uncoloured_inside (cs rest : List Char) :
    uncolouredFrom cs.length (cs ++ rest) = uncolouredFrom 0 rest := by
  induction cs with
  | nil => rfl
  | cons c cs ih => exact ih

theorem length_of_sequence {parameters : List Char}
    (all : ∀ c ∈ parameters, isParameter c = true) (rest : List Char) :
    sequenceLength ('\x1b' :: '[' :: (parameters ++ 'm' :: rest)) = parameters.length + 3 := by
  have taken : (parameters ++ 'm' :: rest).takeWhile isParameter = parameters := by
    rw [List.takeWhile_append_of_pos all, List.takeWhile_cons_of_neg (by decide), List.append_nil]
  rw [sequenceLength, taken, List.drop_left]
  rfl

theorem uncoloured_sequence {parameters : List Char}
    (all : ∀ c ∈ parameters, isParameter c = true) (rest : List Char) :
    uncolouredFrom 0 ('\x1b' :: '[' :: (parameters ++ 'm' :: rest)) = uncolouredFrom 0 rest := by
  have later : (parameters ++ ['m']).length = parameters.length + 1 := List.length_append
  have skipped := uncoloured_inside ('[' :: (parameters ++ ['m'])) rest
  rw [List.length_cons, later, List.cons_append, List.append_assoc] at skipped
  rw [uncolouredFrom, length_of_sequence all]
  exact skipped

theorem uncoloured_text {cs : List Char} (clean : '\x1b' ∉ cs) (rest : List Char) :
    uncolouredFrom 0 (cs ++ rest) = cs ++ uncolouredFrom 0 rest := by
  induction cs with
  | nil => rfl
  | cons c cs ih =>
    rw [List.mem_cons, not_or] at clean
    have none : sequenceLength (c :: (cs ++ rest)) = 0 := by
      unfold sequenceLength
      split
      · rename_i start
        exact absurd (List.cons.inj start).1.symm clean.1
      · rfl
    rw [List.cons_append, uncolouredFrom, none, ih clean.2]
    rfl

theorem style_parameters (style : Style) :
    ∀ p ∈ style.parameters, ∀ c ∈ p.toList, isParameter c = true := by
  have all : style.parameters.all (fun p => p.toList.all isParameter) = true := by
    cases style <;> decide
  intro p listed
  exact List.all_eq_true.mp (List.all_eq_true.mp all p listed)

theorem uncoloured_sequences {ps : List String}
    (all : ∀ p ∈ ps, ∀ c ∈ p.toList, isParameter c = true) (rest : List Char) :
    uncolouredFrom 0 ((String.join (ps.map fun p => "\x1b[" ++ p ++ "m")).toList ++ rest) =
      uncolouredFrom 0 rest := by
  induction ps with
  | nil => rfl
  | cons p ps ih =>
    obtain ⟨first, later⟩ := List.forall_mem_cons.mp all
    have parts : (String.join ((p :: ps).map fun p => "\x1b[" ++ p ++ "m")).toList ++ rest =
        '\x1b' :: '[' :: (p.toList ++
          'm' :: ((String.join (ps.map fun p => "\x1b[" ++ p ++ "m")).toList ++ rest)) := by
      simp [String.join_cons]
    rw [parts, uncoloured_sequence first, ih later]

theorem uncoloured_switch_on (style : Style) (rest : List Char) :
    uncolouredFrom 0 (style.switchOn.toList ++ rest) = uncolouredFrom 0 rest :=
  uncoloured_sequences (style_parameters style) rest

theorem uncoloured_switch_off (rest : List Char) :
    uncolouredFrom 0 (Style.switchOff.toList ++ rest) = uncolouredFrom 0 rest := by
  have zero : isParameter '0' = true := by decide
  exact uncoloured_sequence (List.forall_mem_singleton.mpr zero) rest

theorem uncoloured_fragment {fragment : Fragment} (clean : HasNoEscape fragment.text)
    (rest : List Char) :
    uncolouredFrom 0 ((fragment.render true).toList ++ rest) =
      (fragment.render false).toList ++ uncolouredFrom 0 rest := by
  obtain ⟨style, text⟩ := fragment
  cases style with
  | none => exact uncoloured_text clean rest
  | some style =>
    have coloured : (Fragment.render true ⟨some style, text⟩).toList ++ rest =
        style.switchOn.toList ++ (text.toList ++ (Style.switchOff.toList ++ rest)) := by
      simp [Fragment.render]
    rw [coloured, uncoloured_switch_on, uncoloured_text clean, uncoloured_switch_off]
    rfl

theorem uncoloured_fragments {fragments : List Fragment}
    (clean : ∀ fragment ∈ fragments, HasNoEscape fragment.text) :
    uncolouredFrom 0 (render true fragments).toList = (render false fragments).toList := by
  induction fragments with
  | nil => rfl
  | cons fragment fragments ih =>
    obtain ⟨first, later⟩ := List.forall_mem_cons.mp clean
    have parts (colour : Bool) : (render colour (fragment :: fragments)).toList =
        (fragment.render colour).toList ++ (render colour fragments).toList := by
      simp [render, String.join_cons]
    rw [parts, parts, uncoloured_fragment first, ih later]

theorem uncoloured_render {fragments : List Fragment}
    (clean : ∀ fragment ∈ fragments, HasNoEscape fragment.text) :
    uncoloured (render true fragments) = render false fragments := by
  rw [uncoloured, uncoloured_fragments clean, String.ofList_toList]

/-- A sequence that is cut off stays, and so does one of another kind. -/
example : uncoloured "\x1b[1;31merror:\x1b[m \x1b[31\x1b[2K" = "error: \x1b[31\x1b[2K" := by decide

end Opcodes.Text
