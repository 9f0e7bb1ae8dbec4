import Zboss.Common.TimerQueue
import Zboss.Nwk.BeaconRoundTrip
import Zboss.Nwk.TreeSkip
import Zboss.Nwk.TreeRouting
import Zboss.Aps.AckRuns
import Zboss.Aps.HeaderCodec
import Zboss.Common.BufDelayed
import Zboss.Secur.KeyConsistency
import Zboss.Secur.KeyUse
import Zboss.Secur.KeyProtection
import Zboss.Secur.KeyGate
import Zboss.Secur.KeyAgreement
import Zboss.Nwk.DataConfirm
import Zboss.Zdo.EndDeviceBindRuns
import Zboss.Nwk.ParseBounds
import Zboss.Nwk.RouteExpiry
import Zboss.Nwk.PathCost
import Zboss.Nwk.PendingGrants
import Zboss.Mac.McpsData
import Zboss.Mac.PendingQueue
import Zboss.Mac.ManagementRuns
import Zboss.Nwk.ParentChoice
import Zboss.Nwk.PanIdChoice
import Zboss.Aps.DataRequest
import Zboss.Aps.GroupDelivery
import Zboss.Aps.Dups
import Zboss.Nwk.AllocGrants
import Zboss.Nwk.RouteBuffers
import Zboss.Nwk.Formation
import Zboss.Nwk.LockedRefs
import Zboss.Common.InfoBases
import Zboss.Mac.ScanChannels
import Zboss.Mac.Poll
import Zboss.Secur.CommandBuffers
import Zboss.Secur.NwkSecuring
import Zboss.Secur.Aes
import Zboss.Zdo.MatchDesc
import Zboss.Zdo.EnergyReport
import Zboss.Nwk.ReceiveBuffers
import Zboss.Zdo.BindRequests
import Zboss.Nwk.ParentRecord
import Zboss.Mac.Fcs
import Zboss.Common.AddressSorted
import Zboss.Osif.NvramCounter
import Zboss.Nwk.BroadcastCopies
import Zboss.Zdo.PollParent
import Zboss.Nwk.NlmeLeave
import Zboss.Nwk.AssociationStatus
import Zboss.Zdo.ChannelManager
