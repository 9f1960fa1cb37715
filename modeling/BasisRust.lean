import BasisRust.Client.Connect
import BasisRust.Client.Merged
import BasisRust.Client.Reliable
import BasisRust.Protocol.Repack
import BasisRust.Protocol.Bundle
import BasisRust.Transport.Ack
import BasisRust.Lib.DepthFirst
import BasisRust.Permissions.Store
import BasisRust.Lib.Run
import BasisRust.Lib.Visit
import BasisRust.Lib.Text
import BasisRust.P2p.Broker
import BasisRust.Permissions.Effective
import BasisRust.P2p.Offload
import BasisRust.Lib.FinalState
import BasisRust.Transport.Handle
import BasisRust.Transport.ServerInfo
import BasisRust.Transport.Process
import BasisRust.Transport.Effect
import BasisRust.Transport.System
import BasisRust.Transport.Tables
import BasisRust.Transport.Ids
import BasisRust.Transport.Departures
import BasisRust.Server.Roster
import BasisRust.Server.Departures
import BasisRust.Transport.Delivery
import BasisRust.Transport.Receive
import BasisRust.Transport.Resend
import BasisRust.Transport.AckComplete
import BasisRust.Transport.PeerRun
import BasisRust.Transport.Retained
import BasisRust.Transport.Window
import BasisRust.Transport.Unreliable
import BasisRust.Transport.Exchange
import BasisRust.Transport.Frame
import BasisRust.Lib.Checked
import BasisRust.Transport.Checked
import BasisRust.P2p.Introduction
import BasisRust.P2p.Unchanged
import BasisRust.Server.Joining
import BasisRust.Protocol.Requests
import BasisRust.Protocol.Database
import BasisRust.Permissions.Manager
import BasisRust.Admin.Moderation
import BasisRust.Admin.Indexes
import BasisRust.Resources.State
import BasisRust.Resources.NetIds
import BasisRust.Resources.Unchanged
import BasisRust.Avatar.Sync
import BasisRust.Avatar.Tick
import BasisRust.Avatar.Arrival
import BasisRust.Avatar.Slices
import BasisRust.Avatar.Passes
import BasisRust.Avatar.Bundle
import BasisRust.Avatar.Packets
import BasisRust.Avatar.Grid
import BasisRust.Avatar.Sends
import BasisRust.Avatar.Pacing
import BasisRust.Core.State
import BasisRust.Core.Login
import BasisRust.Core.Admin
import BasisRust.Core.Message
import BasisRust.Core.Frame
import BasisRust.Core.System
import BasisRust.Core.Cleanup
import BasisRust.Core.Limit
import BasisRust.Core.Order
import BasisRust.Core.Ban
import BasisRust.Permissions.Unchanged
import BasisRust.Permissions.Xml
import BasisRust.Permissions.XmlLine
import BasisRust.Permissions.Restart
import BasisRust.Core.Authority
import BasisRust.Core.Gate
import BasisRust.Core.Roster
import BasisRust.Core.Reply
import BasisRust.Permissions.Monotone
import BasisRust.Permissions.Wire
import BasisRust.Resources.Preload
import BasisRust.Core.Scene
import BasisRust.Core.Ownership
import BasisRust.Core.Voice
import BasisRust.Client.Voice
import BasisRust.Admin.Reban
import BasisRust.Core.InitialAvatar
import BasisRust.P2p.Departure
import BasisRust.Protocol.Bits
import BasisRust.Transport.Introduce
import BasisRust.Permissions.Escape
import BasisRust.Lib.StartCode
import BasisRust.Lib.Lacing
import BasisRust.Transport.Trimmed
import BasisRust.Client.Ogg
import BasisRust.Protocol.Stored
import BasisRust.Lib.Replay
import BasisRust.Lib.Yields
import BasisRust.Protocol.Accepted
import BasisRust.Protocol.Answers
import BasisRust.Replica.Cameras
import BasisRust.Replica.Loaded
import BasisRust.Replica.NetIds
import BasisRust.Replica.Owners
import BasisRust.Replica.Players
import BasisRust.Replica.Relay
import BasisRust.Replica.Settings
import BasisRust.Replica.Spheres
import BasisRust.Client.Delivered
import BasisRust.Client.Settled
import BasisRust.Lib.Interleave
import BasisRust.Avatar.Flush
