import Opcodes.Artifact
import Opcodes.Files.Action
import Opcodes.Settings

/-! From settings to an artifact, in two stages that touch no file: the listing is numbered,
   then the table is rendered. Notices are kept also when a later stage fails. The artifact is then
   written to its file, or compared with it; nothing is written before the whole text is there. -/
namespace Opcodes

structure Report (α : Type) where
  notices : List Notice
  result : Except Error α

structure Product where
  table : Table
  text : String
  deriving DecidableEq, Repr

namespace Settings

def table (settings : Settings) : Report Table :=
  let ms := Listing.mnemonics settings.source
  if settings.refusesRepeats then ⟨[], Table.ofDistinct ms⟩
  else
    let table := Table.ofMnemonics ms
    ⟨table.repeats.map .shadowed, .ok table⟩

def render (settings : Settings) (table : Table) : Except Error String :=
  match settings.target with
  | .js => Artifact.Script.render settings.names table
  | .rust => Artifact.Enumeration.render "Opcode" table
  | .json => .ok (Artifact.Document.render table)

def product (settings : Settings) : Report Product :=
  let numbered := settings.table
  ⟨numbered.notices, do
    let table ← numbered.result
    let text ← settings.render table
    return ⟨table, text⟩⟩

def deliver (settings : Settings) : Files.Action (Report Product) :=
  let made := settings.product
  match made.result with
  | .error e => pure ⟨made.notices, .error e⟩
  | .ok product => do
    match ← Files.writeText settings.output product.text with
    | .error e => pure ⟨made.notices, .error e⟩
    | .ok () =>
      let wrote := Notice.wrote product.table.size settings.output settings.target
      pure ⟨made.notices ++ [wrote], .ok product⟩

def isDelivered (settings : Settings) : Files.Action (Report Bool) :=
  let made := settings.product
  match made.result with
  | .error e => pure ⟨made.notices, .error e⟩
  | .ok product => do
    let answer ← Files.holdsText settings.output product.text
    pure ⟨made.notices, answer⟩

end Settings
end Opcodes
