import Ployz.Verif.Agreement
import Ployz.Verif.Replan
import Ployz.Verif.Concurrent
import Ployz.Verif.Resubscribe
import Ployz.Verif.Broadcast
import Ployz.Verif.Connection
import Ployz.Verif.Tunnel
import Ployz.Verif.MachineRecord
import Ployz.Verif.Propagation
import Ployz.Verif.Restore
import Ployz.Verif.Domain
import Ployz.Verif.MachineName
import Ployz.Verif.Mapper
import Ployz.Verif.Payload
import Ployz.Verif.Registry
import Ployz.Verif.Reload
import Ployz.Verif.Redirect
import Ployz.Verif.Clock
import Ployz.Verif.DiskFile
import Ployz.Verif.Upstream
import Ployz.Verif.Chunks
import Ployz.Verif.Admin
import Ployz.Verif.StoreOrder
import Ployz.Verif.Reclaim
import Ployz.Verif.Waker
import Ployz.Verif.Duration
import Ployz.Verif.Compaction
import Ployz.Verif.Rotation
import Ployz.Verif.EndpointChange
import Ployz.Verif.Journal
import Ployz.Verif.Destination
import Ployz.Verif.PeerStatus
import Ployz.Verif.Quote
import Ployz.Verif.Version
import Ployz.Verif.Escape
