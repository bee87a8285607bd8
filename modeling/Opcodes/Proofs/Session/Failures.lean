import Opcodes.Proofs.Delivery
import Opcodes.Session

/-! Steps of a session that fail. Such a step leaves the session as it was, so a series of steps
   goes on as if the step had not been there. -/
namespace Opcodes.Session
open Files

theorem attempt_failed {s : Session} {st : Step} {e : Error}
    (failed : ((s.attempt st).on s.files).1.result = .error e) :
    ((s.attempt st).on s.files).2 = s.files := by
  cases st with
  | setTarget name =>
    simp only [attempt]
    cases Target.parse name <;> rfl
  | loadSource path =>
    simp only [attempt, Action.on_bind, read_text_on]
    split <;> rfl
  | deliver =>
    simp only [attempt, Action.on_bind, Action.on_pure] at failed ⊢
    cases delivered : (s.settings.deliver.on s.files).1.result with
    | error reason => exact Settings.deliver_failed delivered
    | ok product =>
      simp only [follow, delivered] at failed
      cases failed
  | compare =>
    simp only [attempt, Action.on_bind, Action.on_pure]
    exact Settings.compare_keeps s.settings s.files
  | findCode name =>
    simp only [attempt]
    cases s.table <;> rfl
  | findName code =>
    simp only [attempt]
    cases s.table <;> rfl
  | showTable =>
    simp only [attempt]
    cases s.table <;> rfl
  | writeText path text =>
    simp only [attempt, Action.on_bind] at failed ⊢
    cases written : ((Files.writeText path text).on s.files).1 with
    | error reason => exact write_text_failed written
    | ok _ =>
      simp only [written] at failed
      cases failed
  | readText path =>
    simp only [attempt, Action.on_bind, read_text_on]
    split <;> rfl
  | holdsText path text =>
    simp only [attempt, Action.on_bind, holds_text_on]
    split <;> rfl
  | _ => rfl

theorem step_failed {s : Session} {st : Step} {e : Error}
    (failed : (s.step st).1.result = .error e) : (s.step st).2 = s := by
  unfold step at failed ⊢
  simp only at failed ⊢
  split at failed
  · rename_i reason answered
    rw [attempt_failed answered]
  · cases failed

theorem steps_cons (s : Session) (st : Step) (rest : List Step) :
    s.steps (st :: rest) =
      ((s.step st).1 :: ((s.step st).2.steps rest).1, ((s.step st).2.steps rest).2) := rfl

def kept {α : Type} (keep : Nat → Bool) : List α → List α
  | [] => []
  | item :: rest =>
    let later := kept (fun position => keep (position + 1)) rest
    if keep 0 then item :: later else later

/-- In a series, a step that fails passes the session on to the next one as it got it. -/
theorem failure_passes_on {s : Session} {sts : List Step} {position : Nat} {outcome : Outcome}
    {e : Error} (answered : (s.steps sts).1[position]? = some outcome)
    (failed : outcome.result = .error e) :
    (s.steps (sts.take (position + 1))).2 = (s.steps (sts.take position)).2 := by
  induction sts generalizing s position with
  | nil => cases answered
  | cons st rest ih =>
    rw [steps_cons] at answered
    cases position with
    | zero =>
      obtain rfl := Option.some.inj answered
      exact step_failed failed
    | succ position => exact ih answered

theorem steps_kept {s : Session} {sts : List Step} {keep : Nat → Bool}
    (onlyFailures : ∀ position outcome, (s.steps sts).1[position]? = some outcome →
      keep position = false → ∃ e, outcome.result = .error e) :
    s.steps (kept keep sts) = (kept keep (s.steps sts).1, (s.steps sts).2) := by
  induction sts generalizing s keep with
  | nil => rfl
  | cons st rest ih =>
    have later := @ih (s.step st).2 (fun position => keep (position + 1))
      fun position => onlyFailures (position + 1)
    simp only [kept, steps_cons]
    cases first : keep 0 with
    | true =>
      simp only [if_true, steps_cons]
      rw [later]
    | false =>
      -- The step that is left out failed, so the rest starts from `s` with it and without it.
      obtain ⟨e, failed⟩ := onlyFailures 0 _ rfl first
      rw [step_failed failed] at later ⊢
      exact later

/-- Failed steps cannot be told from steps that were never taken. Each leaves settings, table, quiet
    and files as they were, and any of them can be left out: all other outcomes, their results
    and their notices, stay the same, and so does the session at the end. -/
theorem failed_steps_are_invisible (s : Session) (sts : List Step) :
    (∀ position outcome e, (s.steps sts).1[position]? = some outcome →
      outcome.result = .error e →
        (s.steps (sts.take (position + 1))).2 = (s.steps (sts.take position)).2) ∧
    ∀ keep : Nat → Bool,
      (∀ position outcome, (s.steps sts).1[position]? = some outcome → keep position = false →
        ∃ e, outcome.result = .error e) →
      (s.steps (kept keep sts)).1 = kept keep (s.steps sts).1 ∧
        (s.steps (kept keep sts)).2 = (s.steps sts).2 := by
  constructor
  · intro position outcome e answered failed
    exact failure_passes_on answered failed
  · intro keep onlyFailures
    rw [steps_kept onlyFailures]
    exact ⟨rfl, rfl⟩

theorem delivery_between_failures :
    ∃ (sts : List Step) (keep : Nat → Bool),
      kept keep sts = [.setSource "pop_ add pop_", .setStrict true, .setStrict false,
        .setOutput "ir.js", .deliver, .compare] ∧
      (({} : Session).steps sts).1.map (·.result.isOk) =
        [true, true, false, true, false, false, true, true, false, false, true] ∧
      (({} : Session).steps (kept keep sts)).1 = kept keep (({} : Session).steps sts).1 ∧
      (({} : Session).steps (kept keep sts)).2 = (({} : Session).steps sts).2 := by
  let sts : List Step :=
    [.setSource "pop_ add pop_", .setStrict true, .number, .setStrict false, .deliver,
      .loadSource "gone.txt", .setOutput "ir.js", .deliver, .findName 3, .setTarget "lua", .compare]
  let succeeds : List Bool :=
    [true, true, false, true, false, false, true, true, false, false, true]
  have results : (({} : Session).steps sts).1.map (·.result.isOk) = succeeds := by
    decide +kernel
  have onlyFailures : ∀ position outcome, (({} : Session).steps sts).1[position]? = some outcome →
      succeeds.getD position true = false → ∃ e, outcome.result = .error e := by
    intro position outcome answered dropped
    have same : (succeeds[position]?) = some outcome.result.isOk := by
      rw [← results, List.getElem?_map, answered, Option.map_some]
    rw [List.getD_eq_getElem?_getD, same, Option.getD_some] at dropped
    cases result : outcome.result with
    | error e => exact ⟨e, rfl⟩
    | ok reply =>
      rw [result] at dropped
      cases dropped
  have leftOut := (failed_steps_are_invisible {} sts).2 (succeeds.getD · true) onlyFailures
  exact ⟨sts, (succeeds.getD · true), by decide, results, leftOut⟩

end Opcodes.Session
