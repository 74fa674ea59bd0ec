import Quorum.Time
import Quorum.Rafthttp.Sink
import Quorum.Rafthttp.Monitor
import Quorum.Rafthttp.Prober
import Quorum.Rafthttp.Transport
import Quorum.Rafthttp.Reachable
import Quorum.Rafthttp.Wellformed
import Quorum.Rafthttp.Runs
import Quorum.Rafthttp.Independence
import Quorum.Geth.Passwords
import Quorum.Geth.Vault
