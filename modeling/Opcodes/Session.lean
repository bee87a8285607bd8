import Opcodes.Generation

/-! A session keeps settings, the table of the last success and a wish for quiet over a series
   of steps on a tree of files. A step that fails leaves all of them as they were, but its
   warnings are still shown. -/
namespace Opcodes

structure Session where
  settings : Settings := {}
  table : Option Table := none
  quiet : Bool := false
  files : Files.Tree := .empty
  deriving DecidableEq

namespace Session

inductive Step where
  | reset
  | setSource (text : String)
  | setOutput (path : String)
  | setTarget (name : String)
  | setStrict (value : Bool)
  | setNames (names : Artifact.ScriptNames)
  | loadSource (path : String)
  | showSettings
  | number
  | produce
  | deliver
  | compare
  | findCode (name : String)
  | findName (code : Code)
  | showTable
  | setQuiet (value : Bool)
  | showQuiet
  | writeText (path text : String)
  | readText (path : String)
  | holdsText (path text : String)
  deriving DecidableEq, Repr

inductive Reply where
  | done
  | settings (settings : Settings)
  | table (table : Table)
  | product (product : Product)
  | truth (value : Bool)
  | code (found : Option Code)
  | text (value : String)
  | noTable
  deriving DecidableEq, Repr

/-- A reply and the session after it, up to the files, which the action itself changes. -/
abbrev Attempt := Report (Reply × Session)

def reply (s : Session) (answer : Reply) : Attempt := ⟨[], .ok (answer, s)⟩

def change (s : Session) : Attempt := s.reply .done

def fail (e : Error) : Attempt := ⟨[], .error e⟩

def follow {α : Type} (report : Report α) (next : α → Reply × Session) : Attempt :=
  ⟨report.notices, report.result.map next⟩

def keepProduct (s : Session) (product : Product) : Reply × Session :=
  (.product product, { s with table := some product.table })

def attempt (s : Session) : Step → Files.Action Attempt
  | .reset => pure (change { s with settings := {} })
  | .setSource text => pure (change { s with settings.source := text })
  | .setOutput path => pure (change { s with settings.output := path })
  | .setTarget name =>
    match Target.parse name with
    | .error e => pure (fail e)
    | .ok target => pure (change { s with settings.target := target })
  | .setStrict value => pure (change { s with settings.strict := value })
  | .setNames names => pure (change { s with settings.names := names })
  | .loadSource path => do
    match ← Files.readText path with
    | .error e => pure (fail e)
    | .ok text => pure (change { s with settings.source := text })
  | .showSettings => pure (s.reply (.settings s.settings))
  | .number =>
    pure (follow s.settings.table fun table => (.table table, { s with table := some table }))
  | .produce => pure (follow s.settings.product s.keepProduct)
  | .deliver => do return follow (← s.settings.deliver) s.keepProduct
  | .compare => do return follow (← s.settings.isDelivered) fun same => (.truth same, s)
  | .findCode name =>
    match s.table with
    | none => pure (s.reply .noTable)
    | some table => pure (s.reply (.code (table.codeOf? name)))
  | .findName code =>
    match s.table with
    | none => pure (s.reply .noTable)
    | some table => pure (follow ⟨[], table.nameOf code⟩ fun name => (.text name, s))
  | .showTable =>
    match s.table with
    | none => pure (s.reply .noTable)
    | some table => pure (s.reply (.table table))
  | .setQuiet value => pure (change { s with quiet := value })
  | .showQuiet => pure (s.reply (.truth s.quiet))
  | .writeText path text => do
    match ← Files.writeText path text with
    | .error e => pure (fail e)
    | .ok () => pure (change s)
  | .readText path => do
    match ← Files.readText path with
    | .error e => pure (fail e)
    | .ok text => pure (s.reply (.text text))
  | .holdsText path text => do
    match ← Files.holdsText path text with
    | .error e => pure (fail e)
    | .ok same => pure (s.reply (.truth same))

structure Outcome where
  notices : List Notice
  result : Except Error Reply

def step (s : Session) (st : Step) : Outcome × Session :=
  let (report, files) := (s.attempt st).on s.files
  let shown := report.notices.filter (Notice.isShown s.quiet)
  match report.result with
  | .error e => (⟨shown, .error e⟩, { s with files := files })
  | .ok (answer, next) => (⟨shown, .ok answer⟩, { next with files := files })

def steps (s : Session) : List Step → List Outcome × Session
  | [] => ([], s)
  | st :: rest =>
    let (outcome, next) := s.step st
    let (outcomes, last) := next.steps rest
    (outcome :: outcomes, last)

end Session
end Opcodes
