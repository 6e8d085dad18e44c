import EffectTables.Main
import EffectTables.Proofs.Device.Additions
import EffectTables.Proofs.Device.WellFormed
import EffectTables.Proofs.Device.Rearranged
import EffectTables.Proofs.Document.Tag
import EffectTables.Proofs.Device.Catalog
import EffectTables.Proofs.Document.Description
import EffectTables.Proofs.Document.Sound
import EffectTables.Proofs.Document.Reading
import EffectTables.Proofs.Code.Cases
import EffectTables.Proofs.Code.Answers
import EffectTables.Proofs.Code.Collisions
import EffectTables.Proofs.Code.Hygiene
import EffectTables.Proofs.Code.Resolution
import EffectTables.Proofs.Text.Decimal
import EffectTables.Proofs.Text.Delimited
import EffectTables.Proofs.Text.Lines
import EffectTables.Proofs.Code.Literal
import EffectTables.Proofs.Code.Rendering
import EffectTables.Proofs.Code.Layout
import EffectTables.Proofs.Code.Recovery
import EffectTables.Proofs.Code.Coherence
import EffectTables.Proofs.Markup.Lexing
import EffectTables.Proofs.Markup.Reference
import EffectTables.Proofs.Markup.Spelling
import EffectTables.Proofs.Document.Complete
import EffectTables.Proofs.Document.Part
import EffectTables.Proofs.Document.Node
import EffectTables.Proofs.Document.Roundtrip
import EffectTables.Proofs.Document.Concatenation
import EffectTables.Proofs.Document.Interleaving
import EffectTables.Proofs.Delivery.Generation
import EffectTables.Proofs.Delivery.Cleaning
import EffectTables.Proofs.Delivery.Runs
import EffectTables.Proofs.Delivery.AllOrNothing
import EffectTables.Proofs.Document.Accounts
import EffectTables.Proofs.Code.Sentinels
import EffectTables.Proofs.Code.Inclusion
import EffectTables.Proofs.Code.Unquoting
import EffectTables.Proofs.Code.References
import EffectTables.Proofs.Delivery.Input
import EffectTables.Proofs.Settings
import EffectTables.Proofs.Command.Level
import EffectTables.Proofs.Command.Line
import EffectTables.Proofs.Document.Numeral
import EffectTables.Proofs.Symbol
import EffectTables.Proofs.Code.Keywords
import EffectTables.Proofs.Command.Report
import EffectTables.Proofs.Document.InStep
import EffectTables.Proofs.Document.Marking
import EffectTables.Proofs.Device.Lookups
import EffectTables.Proofs.Code.Catalog
import EffectTables.Proofs.Code.Draft
import EffectTables.Proofs.Code.Reading
import EffectTables.Proofs.Code.Contents
