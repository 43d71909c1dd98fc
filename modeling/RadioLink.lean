import RadioLink.Digest.Md5
import RadioLink.Text.Blank
import RadioLink.Text.Utf8
import RadioLink.Text.Quoted
import RadioLink.Text.Decimal
import RadioLink.Uuid
import RadioLink.Net.IpAddress
import RadioLink.Duration.Text
import RadioLink.Json.Lexer
import RadioLink.Json.Record
import RadioLink.Json.Writer
import RadioLink.Error
import RadioLink.Frame.Stream
import RadioLink.Message
import RadioLink.Device.Json
import RadioLink.Config.Json
import RadioLink.Slots
import RadioLink.Discovery.Registry
import RadioLink.Discovery.Tracker
import RadioLink.Update.Invitation
import RadioLink.Update.Transfer
import RadioLink.Link.State
import RadioLink.Transport
import RadioLink.Discovery.BrowseError
import RadioLink.Gatt.Operation
import RadioLink.Link.Connection
import RadioLink.Link.Tcp
import RadioLink.Link.Ble
import RadioLink.Discovery.Scan
import RadioLink.Update.BleUpdater
import RadioLink.Update.WifiUpdater
import RadioLink.Bench.LinkBench
import RadioLink.Bench.ScanBench
import RadioLink.Bench.UpdateBench
import RadioLink.Bench.DirectBench
import RadioLink.Config.Path
import RadioLink.CommandLine.Arguments
import RadioLink.CommandLine.Form
import RadioLink.CommandLine.Manual
import RadioLink.Network.Connecting
import RadioLink.Network.Updating
import RadioLink.CommandLine.Program
import RadioLink.Main
import RadioLink.Proofs.Frame.Search
import RadioLink.Proofs.Frame.Decoding
import RadioLink.Proofs.Frame.Cuts
import RadioLink.Proofs.Frame.Noise
import RadioLink.Proofs.Link.History
import RadioLink.Proofs.Link.Calls
import RadioLink.Proofs.Link.Stages
import RadioLink.Proofs.Link.Progress
import RadioLink.Proofs.Link.Ending
import RadioLink.Proofs.Link.Inbound
import RadioLink.Proofs.Link.Sends
import RadioLink.Proofs.Link.Usage
import RadioLink.Proofs.Link.Writes
import RadioLink.Proofs.Link.Outbound
import RadioLink.Proofs.Link.Mailbox
import RadioLink.Proofs.Update.BleCourse
import RadioLink.Proofs.Update.BleOutcome
import RadioLink.Proofs.Update.BleCancelling
import RadioLink.Proofs.Update.WifiMoves
import RadioLink.Proofs.Update.Cancelling
import RadioLink.Proofs.Slots.Outcomes
import RadioLink.Proofs.Update.BleRecord
import RadioLink.Proofs.Update.BleReleasing
import RadioLink.Proofs.Update.WifiHandshake
import RadioLink.Proofs.Link.Dialling
import RadioLink.Proofs.Link.Lifecycle
import RadioLink.Proofs.Update.Turns
import RadioLink.Proofs.Update.Callers
import RadioLink.Proofs.Update.Running
import RadioLink.Proofs.Update.IdleCancelling
import RadioLink.Proofs.Update.WifiWriting
import RadioLink.Proofs.Update.WifiTransfer
import RadioLink.Proofs.Update.Invitations
import RadioLink.Proofs.Update.Replies
import RadioLink.Proofs.Update.Completion
import RadioLink.Proofs.Discovery.Identity
import RadioLink.Proofs.Discovery.Following
import RadioLink.Proofs.Discovery.ScanMoves
import RadioLink.Proofs.Update.Windows
import RadioLink.Proofs.Update.Filling
import RadioLink.Proofs.Discovery.Watching
import RadioLink.Proofs.Discovery.Sightings
import RadioLink.Proofs.Config.Validity
import RadioLink.Proofs.Json.Values
import RadioLink.Proofs.Json.Records
import RadioLink.Proofs.Duration.Spelling
import RadioLink.Proofs.Frame.Conservation
import RadioLink.Proofs.Gatt.Subscriptions
import RadioLink.Proofs.Link.Attempts
import RadioLink.Proofs.Net.Addresses
import RadioLink.Proofs.Config.Settings
import RadioLink.Proofs.Discovery.Tracking
import RadioLink.Proofs.Text.Trimming
import RadioLink.Proofs.Device.Targets
import RadioLink.Proofs.Device.Stored
import RadioLink.Proofs.Discovery.Addressing
