import MeterGateway.Config.Environment
import MeterGateway.Config.File
import MeterGateway.Network
import MeterGateway.Proofs.Line.History
import MeterGateway.Proofs.Line.Conservation
import MeterGateway.Proofs.Line.HalfDuplex
import MeterGateway.Proofs.Line.Correlation
import MeterGateway.Proofs.Framer.Chunks
import MeterGateway.Proofs.Framer.Greedy
import MeterGateway.Proofs.Framer.Streams
import MeterGateway.Proofs.Registry.Devices
import MeterGateway.Proofs.Site.Traffic
import MeterGateway.Proofs.Registry.Inventory
import MeterGateway.Proofs.Service.Overview
import MeterGateway.Proofs.Service.Turns
import MeterGateway.Proofs.Service.Connectors
import MeterGateway.Proofs.Service.Inventory
import MeterGateway.Proofs.Service.Tokens
import MeterGateway.Proofs.Keyed
import MeterGateway.Proofs.Registry.Estate
import MeterGateway.Proofs.Session.Steps
import MeterGateway.Proofs.Site.Steps
import MeterGateway.Proofs.Session.Gate
import MeterGateway.Proofs.Site.Contacts
import MeterGateway.Proofs.Site.Handshake
import MeterGateway.Proofs.Site.Admission
import MeterGateway.Proofs.Site.Devices
import MeterGateway.Proofs.Site.Polls
import MeterGateway.Proofs.Schedule.Timetable
import MeterGateway.Proofs.Schedule.Tasks
import MeterGateway.Proofs.Site.Jobs
import MeterGateway.Proofs.Meter.RoundTrip
import MeterGateway.Proofs.Service.Procedure
import MeterGateway.Proofs.Service.References
import MeterGateway.Proofs.Outcome
import MeterGateway.Proofs.Checksum
import MeterGateway.Proofs.Line.Damage
import MeterGateway.Proofs.Meter.Purchase
import MeterGateway.Proofs.Meter.Requests
import MeterGateway.Proofs.Converter.MeterWrites
import MeterGateway.Proofs.Converter.RegisterWrites
import MeterGateway.Proofs.Converter.MeterAnswers
import MeterGateway.Proofs.Converter.RegisterValues
import MeterGateway.Proofs.Session.Accounts
import MeterGateway.Proofs.Session.Ending
import MeterGateway.Proofs.Site.Postings
import MeterGateway.Proofs.Site.Calls
import MeterGateway.Proofs.Json
import MeterGateway.Proofs.Registry.Changes
import MeterGateway.Proofs.Site.Repeats
import MeterGateway.Proofs.Site.Replies
import MeterGateway.Proofs.Site.Routes
import MeterGateway.Proofs.Framer.Readable
import MeterGateway.Proofs.Framer.Passes
import MeterGateway.Proofs.Registry.Replacement
import MeterGateway.Proofs.Wire
import MeterGateway.Proofs.Site.Rounds
import MeterGateway.Proofs.Site.Payloads
import MeterGateway.Proofs.Line.Mismatch
import MeterGateway.Proofs.Acknowledgement
import MeterGateway.Proofs.Converter.MeterParams
import MeterGateway.Proofs.Hex
import MeterGateway.Proofs.Meter.Address
