import Opcodes.Instruction
import Opcodes.Main
import Opcodes.Mnemonic.Variant
import Opcodes.Session
import Opcodes.Proofs.Artifact.BareWords
import Opcodes.Proofs.Artifact.DocumentReading
import Opcodes.Proofs.Artifact.EnumerationReading
import Opcodes.Proofs.Artifact.Keywords
import Opcodes.Proofs.Artifact.Literals
import Opcodes.Proofs.Artifact.ObjectLiteral
import Opcodes.Proofs.Artifact.ScriptKeys
import Opcodes.Proofs.Artifact.ScriptReading
import Opcodes.Proofs.Artifact.VariantClashes
import Opcodes.Proofs.Artifact.VariantFaults
import Opcodes.Proofs.Artifact.VariantNames
import Opcodes.Proofs.CommandLine.Colour
import Opcodes.Proofs.CommandLine.Effects
import Opcodes.Proofs.CommandLine.PrintedTable
import Opcodes.Proofs.CommandLine.Regeneration
import Opcodes.Proofs.CommandLine.Spelling
import Opcodes.Proofs.CommandLine.Steps
import Opcodes.Proofs.CommandLine.Switches
import Opcodes.Proofs.CommandLine.Wishes
import Opcodes.Proofs.Delivery
import Opcodes.Proofs.Files.Places
import Opcodes.Proofs.Files.Store
import Opcodes.Proofs.Files.Texts
import Opcodes.Proofs.Generation
import Opcodes.Proofs.Instruction
import Opcodes.Proofs.Listing.Joining
import Opcodes.Proofs.Listing.MaximalRuns
import Opcodes.Proofs.Listing.Scanning
import Opcodes.Proofs.Messages
import Opcodes.Proofs.Mnemonic.Sorting
import Opcodes.Proofs.Mnemonic.Variant
import Opcodes.Proofs.Quiet
import Opcodes.Proofs.Session.Failures
import Opcodes.Proofs.Shadowing
import Opcodes.Proofs.Strictness
import Opcodes.Proofs.Table.Appending
import Opcodes.Proofs.Table.Lookups
import Opcodes.Proofs.Table.Numbering
import Opcodes.Proofs.Table.Reordering
import Opcodes.Proofs.Table.RepeatChains
import Opcodes.Proofs.Table.Repeats
import Opcodes.Proofs.Text.ByteOrder
import Opcodes.Proofs.Text.Colour
import Opcodes.Proofs.Text.Fields
import Opcodes.Proofs.Text.Json
import Opcodes.Proofs.Text.JsonReading
import Opcodes.Proofs.Text.LineReading
import Opcodes.Proofs.Text.Offsets
import Opcodes.Proofs.Unicode.Casing
import Opcodes.Proofs.Unicode.Identifier
import Opcodes.Proofs.Unicode.Plain
import Opcodes.Proofs.Unicode.Settling
