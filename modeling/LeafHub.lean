import LeafHub.Boot
import LeafHub.Cell
import LeafHub.CommandTable
import LeafHub.Config.Basic
import LeafHub.Config.Blob
import LeafHub.Config.Document
import LeafHub.Config.Stored
import LeafHub.Device
import LeafHub.Drain
import LeafHub.EventFlags
import LeafHub.Execution
import LeafHub.Fault
import LeafHub.Hub.Basic
import LeafHub.Hub.Catalogue
import LeafHub.Hub.Cells
import LeafHub.Hub.Characteristic
import LeafHub.Hub.Keypad
import LeafHub.Hub.Led
import LeafHub.Hub.Persistence
import LeafHub.Hub.SettingsLeaf
import LeafHub.Hub.Work
import LeafHub.Identity
import LeafHub.Journal
import LeafHub.Leaf
import LeafHub.Lifecycle
import LeafHub.Pool
import LeafHub.Routine
import LeafHub.Scenario.Answer
import LeafHub.Scenario.Bench
import LeafHub.Scenario.CellSteps
import LeafHub.Scenario.LeafSteps
import LeafHub.Scenario.Perform
import LeafHub.Scenario.Run
import LeafHub.Scenario.Step
import LeafHub.Scenario.StoreSteps
import LeafHub.Scenario.WorkSteps
import LeafHub.Shell
import LeafHub.Store.Basic
import LeafHub.Store.Medium
import LeafHub.Store.Slot
import LeafHub.Text.Blank
import LeafHub.Text.Bounded
import LeafHub.Text.Digits
import LeafHub.Text.Json
import LeafHub.Text.Quoted
import LeafHub.Text.Utf8
import LeafHub.Text.Visible
import LeafHub.Value.Basic
import LeafHub.Value.Raw
import LeafHub.Value.Text
import LeafHub.WorkQueue
import LeafHub.Proofs.Store.Bindings
import LeafHub.Proofs.Hub.Frame
import LeafHub.Proofs.Hub.Coherent
import LeafHub.Proofs.Value.RawForm
import LeafHub.Proofs.Hub.Loading
import LeafHub.Proofs.Hub.Reload
import LeafHub.Proofs.Routine.Uses
import LeafHub.Proofs.Work.Account
import LeafHub.Proofs.Work.History
import LeafHub.Proofs.Lifecycle.Flags
import LeafHub.Proofs.Lifecycle.Operations
import LeafHub.Proofs.Lifecycle.RunningReady
import LeafHub.Proofs.Work.InOrder
import LeafHub.Proofs.Hub.Mutation
import LeafHub.Proofs.Hub.CellForm
import LeafHub.Proofs.Hub.AllOrNothing
import LeafHub.Proofs.Hub.OnCall
import LeafHub.Proofs.Hub.Notified
import LeafHub.Proofs.Lifecycle.Schedule
import LeafHub.Proofs.Lifecycle.Carried
import LeafHub.Proofs.Lifecycle.Standing
import LeafHub.Proofs.Lifecycle.WholeBoot
import LeafHub.Proofs.Config.Kept
import LeafHub.Proofs.Lifecycle.PollChain
import LeafHub.Proofs.Lifecycle.KeyHistory
import LeafHub.Proofs.Hub.Lamp
import LeafHub.Proofs.Lifecycle.Beside
import LeafHub.Proofs.Lifecycle.LampHistory
import LeafHub.Proofs.Config.OutOfReach
import LeafHub.Proofs.Hub.Outfit
import LeafHub.Proofs.Lifecycle.Reinit
import LeafHub.Proofs.Hub.Record
import LeafHub.Proofs.Lifecycle.Lookups
import LeafHub.Proofs.Hub.Station
import LeafHub.Proofs.Lifecycle.BootPoint
import LeafHub.Proofs.Lifecycle.AddressAtBoot
import LeafHub.Proofs.Value.Number
import LeafHub.Proofs.Value.RawCodec
import LeafHub.Proofs.Text.Numeral
import LeafHub.Proofs.Value.TextForm
import LeafHub.Proofs.Hub.Splicing
import LeafHub.Proofs.Hub.Chunks
import LeafHub.Proofs.Hub.Port
import LeafHub.Proofs.Hub.SavePass
import LeafHub.Proofs.Hub.SetAndPersist
import LeafHub.Proofs.Hub.Beacon
import LeafHub.Proofs.Hub.BeaconActs
import LeafHub.Proofs.Lifecycle.BeaconHistory
import LeafHub.Proofs.Hub.Configured
import LeafHub.Proofs.Lifecycle.OkHistory
import LeafHub.Proofs.Text.ByteOrder
import LeafHub.Proofs.Hub.Commands
import LeafHub.Proofs.Hub.RawRead
import LeafHub.Proofs.Lifecycle.FanOut
import LeafHub.Proofs.Lifecycle.LeafReports
import LeafHub.Proofs.Work.Promotion
import LeafHub.Proofs.Identity.Advertised
import LeafHub.Proofs.Config.Encodings
import LeafHub.Proofs.Hub.Locking
import LeafHub.Proofs.Lifecycle.Initialising
import LeafHub.Proofs.Text.JsonForm
import LeafHub.Proofs.Config.DocumentForm
import LeafHub.Proofs.Text.Clipped
import LeafHub.Proofs.Hub.CellNames
