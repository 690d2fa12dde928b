import InstrumentBench.Main
import InstrumentBench.Proofs.Catalog.CacheRun
import InstrumentBench.Proofs.Catalog.Columns
import InstrumentBench.Proofs.Command.BareValue
import InstrumentBench.Proofs.Command.Braces
import InstrumentBench.Proofs.Command.CellPrinting
import InstrumentBench.Proofs.Command.FixedValues
import InstrumentBench.Proofs.Command.Layout
import InstrumentBench.Proofs.CommandLine.Models
import InstrumentBench.Proofs.CommandLine.Settings
import InstrumentBench.Proofs.Configuration
import InstrumentBench.Proofs.Documents
import InstrumentBench.Proofs.History.AuditLine
import InstrumentBench.Proofs.History.Chronology
import InstrumentBench.Proofs.History.Recording
import InstrumentBench.Proofs.History.WrittenTime
import InstrumentBench.Proofs.Instrument.Identification
import InstrumentBench.Proofs.Instrument.Identity
import InstrumentBench.Proofs.Instrument.Renaming
import InstrumentBench.Proofs.Script.Acceptance
import InstrumentBench.Proofs.Script.Closing
import InstrumentBench.Proofs.Script.Edits
import InstrumentBench.Proofs.Script.Shape
import InstrumentBench.Proofs.Session.Agreement
import InstrumentBench.Proofs.Session.LogLines
import InstrumentBench.Proofs.Session.Unaudited
import InstrumentBench.Proofs.Storage.Absolute
import InstrumentBench.Proofs.Storage.Succession
import InstrumentBench.Proofs.Storage.Written
