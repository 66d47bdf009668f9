import FreeRdp.Library.Bits
import FreeRdp.Library.BitWindow
import FreeRdp.Library.BitLists
import FreeRdp.Library.Copy
import FreeRdp.Library.Ring
import FreeRdp.Library.Slots
import FreeRdp.Library.Search
import FreeRdp.Library.Buckets
import FreeRdp.Library.Window
import FreeRdp.Library.Strided
import FreeRdp.Library.Arrivals
import FreeRdp.Library.KeyStream
import FreeRdp.Library.Runs
import FreeRdp.Library.Pieces
import FreeRdp.Library.Segments
import FreeRdp.Library.Readers
import FreeRdp.Library.Attempts
import FreeRdp.Winpr.Crt
import FreeRdp.Winpr.Stream
import FreeRdp.Winpr.BitStream
import FreeRdp.Winpr.BitStreamRoundTrip
import FreeRdp.Winpr.CommandLine.Arguments
import FreeRdp.Winpr.Collections.Slots
import FreeRdp.Winpr.Collections.BipBuffer
import FreeRdp.Winpr.Collections.BipReserve
import FreeRdp.Winpr.Collections.BufferPool
import FreeRdp.Winpr.Collections.HashTable
import FreeRdp.Winpr.Collections.MessageQueue
import FreeRdp.Winpr.Collections.Queue
import FreeRdp.Winpr.Collections.StreamPool
import FreeRdp.Winpr.Collections.ArrayListSearch
import FreeRdp.Winpr.Ntlm.Seal
import FreeRdp.Winpr.Ntlm.Channel
import FreeRdp.Codec.Mppc.Basic
import FreeRdp.Codec.Mppc.Codes
import FreeRdp.Codec.Mppc.Symbols
import FreeRdp.Codec.Mppc.RoundTrip
import FreeRdp.Codec.Mppc.Session
import FreeRdp.Codec.Mppc.Bounds
import FreeRdp.Codec.Planar.ImageRoundTrip
import FreeRdp.Codec.Interleaved.Safety
import FreeRdp.Codec.Clear.Sequence
import FreeRdp.Codec.Clear.Bars
import FreeRdp.Codec.Clear.Drawing
import FreeRdp.Utils.RingBuffer
import FreeRdp.Core.Tpkt
import FreeRdp.Core.Nego.Basic
import FreeRdp.Core.Nego.Step
import FreeRdp.Core.Nego.Properties
import FreeRdp.Core.Nego.Termination
import FreeRdp.Core.Nego.Selection
import FreeRdp.Core.Nego.Request
import FreeRdp.Core.Transport.Basic
import FreeRdp.Core.Transport.Framing
import FreeRdp.Core.Transport.Properties
import FreeRdp.Core.BufferedBio
import FreeRdp.Core.Bulk
import FreeRdp.Core.Mcs.RoundTrip
import FreeRdp.Core.Nla.Credentials
import FreeRdp.Core.Nla.TsRequest
import FreeRdp.Core.Server.Dvc
import FreeRdp.Core.Server.DvcDelivery
import FreeRdp.Core.FastPath.Basic
import FreeRdp.Core.FastPath.Headers
import FreeRdp.Core.FastPath.Fragments
import FreeRdp.Core.FastPath.Session
import FreeRdp.Codec.Region.Basic
import FreeRdp.Codec.Region.Items
import FreeRdp.Codec.Region.Bands
import FreeRdp.Codec.Region.Union
import FreeRdp.Codec.Region.WellFormed
import FreeRdp.Codec.Region.Operations
import FreeRdp.Codec.Region.Runs
import FreeRdp.Codec.Region.Canonical
import FreeRdp.Codec.Xcrush.Safety
import FreeRdp.Codec.Zgfx.Basic
import FreeRdp.Codec.Zgfx.RoundTrip
import FreeRdp.Codec.Zgfx.History
import FreeRdp.Core.Gateway.ChunkedRead
import FreeRdp.Core.Gateway.TunnelRead
import FreeRdp.Core.Gateway.ConnectOrder
import FreeRdp.Core.Gateway.WebsocketRuns
import FreeRdp.Core.Gateway.WebsocketSend
import FreeRdp.Core.Gateway.Rts.HeaderSafety
import FreeRdp.Core.Orders.Types
import FreeRdp.Core.Orders.Read
import FreeRdp.Core.Orders.Primary
import FreeRdp.Core.Orders.Incremental
import FreeRdp.Core.Orders.Decoding
import FreeRdp.Core.Orders.Runs
import FreeRdp.Core.Orders.Counts
import FreeRdp.Core.Orders.Numbers
import FreeRdp.Core.Orders.Secondary
import FreeRdp.Core.Orders.CacheBitmaps
import FreeRdp.Core.Orders.CacheGlyphs
import FreeRdp.Channels.Drdynvc
import FreeRdp.Channels.DvcMessages
import FreeRdp.Channels.DrdynvcDelivery
import FreeRdp.Channels.Rdpei
import FreeRdp.Core.Orders.Intact
import FreeRdp.Core.Orders.CacheSent
import FreeRdp.Core.Orders.BoundsSync
import FreeRdp.Crypto.Base64RoundTrip
import FreeRdp.Crypto.Base64Grammar
import FreeRdp.Gdi.Clipping
import FreeRdp.Common.Assistance
import FreeRdp.Codec.Nsc.Safety
import FreeRdp.Codec.Rlgr.Basic
import FreeRdp.Codec.Rlgr.Stream
import FreeRdp.Codec.Rlgr.RoundTrip
import FreeRdp.Codec.Rlgr.Safety
import FreeRdp.Codec.ImageCopy.Scroll
import FreeRdp.Codec.ImageCopy.Disjoint
import FreeRdp.Winpr.Ini.RoundTrip
import FreeRdp.Winpr.Ntlm.AvPairs
import FreeRdp.Codec.Region.Pixels
