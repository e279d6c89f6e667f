import Tunnel.Adapter.Basic
import Tunnel.Adapter.Driver
import Tunnel.Address.Basic
import Tunnel.Address.Ipv4
import Tunnel.Address.Ipv6
import Tunnel.Address.Text
import Tunnel.Base64
import Tunnel.Command.Help
import Tunnel.Command.Line
import Tunnel.Command.Run
import Tunnel.Config.Basic
import Tunnel.Config.Document
import Tunnel.Config.Parser
import Tunnel.Config.Printer
import Tunnel.Error.Basic
import Tunnel.Error.Errno
import Tunnel.Error.Values
import Tunnel.Image.Compile
import Tunnel.Image.Decode
import Tunnel.Image.Record
import Tunnel.Image.Report
import Tunnel.Key.Basic
import Tunnel.Key.Exchange
import Tunnel.Main
import Tunnel.Netlink.Attribute
import Tunnel.Netlink.Connection
import Tunnel.Netlink.KernelTable
import Tunnel.Netlink.Links
import Tunnel.Netlink.Packet
import Tunnel.Netlink.Payload
import Tunnel.Netlink.Request
import Tunnel.Network.Pass
import Tunnel.Network.Table
import Tunnel.Octets
import Tunnel.Prefix
import Tunnel.Proofs.Adapter.Applied
import Tunnel.Proofs.Adapter.Course
import Tunnel.Proofs.Adapter.Growth
import Tunnel.Proofs.Adapter.Lifetime
import Tunnel.Proofs.Adapter.ReadBack
import Tunnel.Proofs.Adapter.Readings
import Tunnel.Proofs.Address.Ipv4
import Tunnel.Proofs.Address.Ipv6
import Tunnel.Proofs.Address.Portless
import Tunnel.Proofs.Address.Text
import Tunnel.Proofs.Base64
import Tunnel.Proofs.Base64.Spelling
import Tunnel.Proofs.Command.Down
import Tunnel.Proofs.Config.Append
import Tunnel.Proofs.Config.Edits
import Tunnel.Proofs.Config.EndpointPort
import Tunnel.Proofs.Config.Entry
import Tunnel.Proofs.Config.FirstFault
import Tunnel.Proofs.Config.Meaning
import Tunnel.Proofs.Config.RoundTrip
import Tunnel.Proofs.Config.Value
import Tunnel.Proofs.Config.Written
import Tunnel.Proofs.Image.Buffer
import Tunnel.Proofs.Image.Flag
import Tunnel.Proofs.Image.Layout
import Tunnel.Proofs.Image.NormalForm
import Tunnel.Proofs.Image.Record
import Tunnel.Proofs.Image.Report
import Tunnel.Proofs.Image.RoundTrip
import Tunnel.Proofs.Image.Truncation
import Tunnel.Proofs.Image.Walk
import Tunnel.Proofs.Image.Writing
import Tunnel.Proofs.Journal
import Tunnel.Proofs.Key
import Tunnel.Proofs.Mirror
import Tunnel.Proofs.Netlink.Acknowledgement
import Tunnel.Proofs.Netlink.Assembly
import Tunnel.Proofs.Netlink.Attribute
import Tunnel.Proofs.Netlink.Exchange
import Tunnel.Proofs.Netlink.Packet
import Tunnel.Proofs.Netlink.LastAttribute
import Tunnel.Proofs.Netlink.LinkChanges
import Tunnel.Proofs.Netlink.PacketPlaces
import Tunnel.Proofs.Netlink.RouteListing
import Tunnel.Proofs.Netlink.TableRequests
import Tunnel.Proofs.Network.Account
import Tunnel.Proofs.Network.Addition
import Tunnel.Proofs.Network.AdditionAccount
import Tunnel.Proofs.Network.Removal
import Tunnel.Proofs.Octets
import Tunnel.Proofs.Outcome
import Tunnel.Proofs.Prefix
import Tunnel.Proofs.Service.Bypass
import Tunnel.Proofs.Service.Connect
import Tunnel.Proofs.Service.Disconnect
import Tunnel.Proofs.Service.Isolation
import Tunnel.Proofs.Service.Ledger
import Tunnel.Proofs.Service.Observation
import Tunnel.Proofs.Service.Plan
import Tunnel.Proofs.Service.Pursuit
import Tunnel.Proofs.Service.Registry
import Tunnel.Proofs.Service.Upkeep
import Tunnel.Proofs.Text.Cut
import Tunnel.Proofs.Text.Numeral
import Tunnel.Proofs.Watch.Ahead
import Tunnel.Proofs.Watch.Delivery
import Tunnel.Proofs.Watch.EventSequence
import Tunnel.Proofs.Watch.Freshness
import Tunnel.Proofs.Watch.Ownership
import Tunnel.Proofs.Watch.Publication
import Tunnel.Proofs.Watch.Quiescence
import Tunnel.Proofs.Watch.Refresh
import Tunnel.Proofs.Watch.Resubscription
import Tunnel.Proofs.Watch.Run
import Tunnel.Proofs.Watch.Sections
import Tunnel.Proofs.Watch.Starts
import Tunnel.Proofs.Watch.Truthful
import Tunnel.Rehearsal.Directory
import Tunnel.Rehearsal.Sockets
import Tunnel.Rehearsal.Stage
import Tunnel.Rehearsal.Terminal
import Tunnel.Rehearsal.World
import Tunnel.Service.Basic
import Tunnel.Service.Method
import Tunnel.Status
import Tunnel.Text.Basic
import Tunnel.Text.CombiningMark
import Tunnel.Text.Numeral
import Tunnel.Text.Printable
import Tunnel.Text.Quoted
import Tunnel.Text.Unassigned
import Tunnel.Text.Utf8
import Tunnel.Watch.Basic
import Tunnel.Watch.Machine
import Tunnel.Watch.Schedule
