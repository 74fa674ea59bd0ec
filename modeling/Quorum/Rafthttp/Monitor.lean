import Quorum.Rafthttp.Sink
import Mathlib.Data.List.Chain

set_option autoImplicit false

/-!
# The health monitor

`monitorProbingStatus lg s id` loops forever on a `select` between a timer of `interval` and the
stop signal of the status handle `s`. On the timer it reads the handle, warns when the peer is
unhealthy or its clock is ahead by more than a second, observes the smoothed round-trip time,
and picks the next interval from the health it read; on the stop signal it returns.

The model takes the handle as the way each wait ends (`Wake`): the timer fires and the handle
reads a `Snapshot`, or the stop signal is closed. A run over any finite sequence of wakes is the
list of `Round`s the loop goes through.

* `pollStatus` is the body of the timer case; `pollStatus_interval` and the `countP_*` lemmas say
  what one poll does.
* `monitorLoop_wakes`: the loop takes every wake up to the first stop and no other, so the stop
  case is its only way out.
* `monitorLoop_chain`: the interval of every wait after the first is the one the previous poll
  picked from the health it read.
-/

namespace Quorum.Rafthttp

open Duration

/-- `statusMonitoringInterval`, the wait after a healthy poll. -/
def statusMonitoringInterval : Duration := 30 * second

/-- `statusErrorInterval`, the first wait and the wait after an unhealthy poll. -/
def statusErrorInterval : Duration := 5 * second

/-- Modelled from the spec: the status handle is the vendored `probing.Status`, which is not in
the source, and one poll reads it as one snapshot of `Health()`, `SRTT()`, `Err()` and
`ClockDiff()`. -/
structure Snapshot where
  health : Bool
  srtt : Duration
  err : Option String
  clockDiff : Duration
  deriving DecidableEq, Repr

/-- The warning for an unhealthy status. -/
def warnUnhealthy (lg : Logger) (s : Snapshot) (id : String) : Out :=
  match lg with
  | .zap => .warn "prober detected unhealthy status"
      [.string "remote-peer-id" id, .duration "rtt" s.srtt, .error s.err]
  | .plog => .warningf "health check for peer %s could not connect: %v" [.string id, .error s.err]

/-- The warning for a high clock drift. The `zap` entry files `SRTT()` under `clock-drift` and
`ClockDiff()` under `rtt`, as the source does. -/
def warnClockDrift (lg : Logger) (s : Snapshot) (id : String) : Out :=
  match lg with
  | .zap => .warn "prober found high clock drift"
      [.string "remote-peer-id" id, .duration "clock-drift" s.srtt, .duration "rtt" s.clockDiff,
        .error s.err]
  | .plog => .warningf "the clock difference against peer %s is too high [%v > %v]"
      [.string id, .duration s.clockDiff, .duration second]

/-- The timer case of the loop: the next interval, and what the poll writes. -/
def pollStatus (lg : Logger) (s : Snapshot) (id : String) : Duration × List Out :=
  let (interval, unhealthy) :=
    if !s.health then (statusErrorInterval, [warnUnhealthy lg s id])
    else (statusMonitoringInterval, [])
  let drift := if s.clockDiff > second then [warnClockDrift lg s id] else []
  (interval, unhealthy ++ drift ++ [.observe id s.srtt])

/-- How a wait of the loop ends: `time.After(interval)` fires and the handle reads `s`, or
`s.StopNotify()` is closed. -/
inductive Wake
  | timer (s : Snapshot)
  | stop
  deriving DecidableEq, Repr

/-- One pass through the `select`: the interval waited, how the wait ended, what was written. -/
structure Round where
  interval : Duration
  wake : Wake
  out : List Out
  deriving DecidableEq, Repr

/-- The loop of `monitorProbingStatus` with `interval` as its variable, over the way its waits
end. -/
def monitorLoop (lg : Logger) (id : String) (interval : Duration) : List Wake → List Round
  | [] => []
  | .stop :: _ => [⟨interval, .stop, []⟩]
  | .timer s :: ws =>
    ⟨interval, .timer s, (pollStatus lg s id).2⟩ :: monitorLoop lg id (pollStatus lg s id).1 ws

/-- `monitorProbingStatus lg s id`, the handle `s` given as the way each wait ends. -/
def monitorProbingStatus (lg : Logger) (ws : List Wake) (id : String) : List Round :=
  monitorLoop lg id statusErrorInterval ws

/-- The wakes up to and including the first stop. -/
def untilStop : List Wake → List Wake
  | [] => []
  | .stop :: _ => [.stop]
  | .timer s :: ws => .timer s :: untilStop ws

/-! ## One poll -/

section Poll

variable (lg : Logger) (s : Snapshot) (id : String)

theorem pollStatus_eq : pollStatus lg s id =
    ((if s.health then statusMonitoringInterval else statusErrorInterval),
      (if s.health then [] else [warnUnhealthy lg s id]) ++
        (if s.clockDiff > second then [warnClockDrift lg s id] else []) ++ [.observe id s.srtt]) := by
  unfold pollStatus; cases s.health <;> rfl

theorem pollStatus_interval : (pollStatus lg s id).1 =
    if s.health then statusMonitoringInterval else statusErrorInterval := by
  rw [pollStatus_eq]

@[simp] theorem event_warnUnhealthy : (warnUnhealthy lg s id).event = some .unhealthy := by
  cases lg <;> rfl

@[simp] theorem event_warnClockDrift : (warnClockDrift lg s id).event = some .clockDrift := by
  cases lg <;> rfl

@[simp] theorem peer_warnUnhealthy : (warnUnhealthy lg s id).peer = some id := by
  cases lg <;> rfl

@[simp] theorem peer_warnClockDrift : (warnClockDrift lg s id).peer = some id := by
  cases lg <;> rfl

@[simp] theorem event_observe (label : String) (rtt : Duration) :
    (Out.observe label rtt).event = some .rtt := rfl

@[simp] theorem peer_observe (label : String) (rtt : Duration) :
    (Out.observe label rtt).peer = some label := rfl

/-- A poll observes the round-trip time once, under its peer's label. -/
theorem filter_rtt_pollStatus :
    (pollStatus lg s id).2.filter (·.event = some .rtt) = [.observe id s.srtt] := by
  rw [pollStatus_eq]; split_ifs <;> simp

/-- A poll warns of an unhealthy status exactly when the status it read is unhealthy. -/
theorem countP_unhealthy_pollStatus :
    (pollStatus lg s id).2.countP (·.event = some .unhealthy) = if s.health then 0 else 1 := by
  rw [pollStatus_eq]; split_ifs <;> simp

/-- A poll warns of clock drift for its own peer exactly when `ClockDiff()` is above a second,
whatever the health it read. -/
theorem countP_clockDrift_peer_pollStatus :
    (pollStatus lg s id).2.countP (fun o => o.event = some .clockDrift ∧ o.peer = some id) =
      if s.clockDiff > second then 1 else 0 := by
  rw [pollStatus_eq]; split_ifs <;> simp

/-- A poll writes only unhealthy-status and clock-drift warnings and the round-trip time. -/
theorem event_pollStatus : ∀ o ∈ (pollStatus lg s id).2,
    o.event = some .unhealthy ∨ o.event = some .clockDrift ∨ o.event = some .rtt := by
  rw [pollStatus_eq]; split_ifs <;> simp

/-- Everything a poll writes is tagged with its peer. -/
theorem peer_pollStatus : ∀ o ∈ (pollStatus lg s id).2, o.peer = some id := by
  rw [pollStatus_eq]; split_ifs <;> simp

end Poll

/-! ## The loop -/

section Loop

variable (lg : Logger) (id : String)

/-- The loop takes every wake up to the first stop, and none after it. -/
theorem monitorLoop_wakes (interval : Duration) (ws : List Wake) :
    (monitorLoop lg id interval ws).map Round.wake = untilStop ws := by
  induction ws generalizing interval with
  | nil => rfl
  | cons w ws ih =>
    cases w with
    | timer s => simp only [monitorLoop, untilStop, List.map_cons, ih]
    | stop => rfl

/-- The first wait is for the interval the loop starts from. -/
theorem monitorLoop_head (interval : Duration) (ws : List Wake) :
    ∀ r ∈ (monitorLoop lg id interval ws).head?, r.interval = interval := by
  rcases ws with _ | ⟨_ | _, _⟩ <;> simp [monitorLoop]

/-- Every wait after the first is for the interval the previous poll picked. -/
theorem monitorLoop_chain (interval : Duration) (ws : List Wake) :
    (monitorLoop lg id interval ws).Chain' fun r r' => ∃ s, r.wake = .timer s ∧
      r'.interval = if s.health then statusMonitoringInterval else statusErrorInterval := by
  induction ws generalizing interval with
  | nil => exact List.chain'_nil
  | cons w ws ih =>
    cases w with
    | timer s =>
      refine (ih _).cons' fun r hr => ⟨s, rfl, ?_⟩
      rw [monitorLoop_head lg id _ ws r hr, pollStatus_interval]
    | stop => exact List.chain'_singleton _

/-- A round of the loop is a poll, which writes what `pollStatus` writes, or the stop case,
which writes nothing. -/
theorem out_of_mem_monitorLoop {interval : Duration} {ws : List Wake} {r : Round}
    (h : r ∈ monitorLoop lg id interval ws) :
    r.out = match r.wake with
      | .timer s => (pollStatus lg s id).2
      | .stop => [] := by
  induction ws generalizing interval with
  | nil => cases h
  | cons w ws ih =>
    cases w with
    | timer s =>
      rcases List.mem_cons.1 h with rfl | h
      · rfl
      · exact ih h
    | stop => rw [List.mem_singleton.1 h]

end Loop

/-- **The monitor's law.** Over any sequence of wakes and with either logger: the first wait is
for `statusErrorInterval`; the wait after a poll is for `statusErrorInterval` when the poll read
an unhealthy status and for `statusMonitoringInterval` when it read a healthy one; every poll
observes its snapshot's `SRTT()` once under the label `id`, warns of an unhealthy status exactly
when the status is unhealthy, and tags all it writes with `id`; the stop case writes nothing, and
the loop takes every wake up to the first stop and none after it. -/
theorem monitorProbingStatus_law (lg : Logger) (ws : List Wake) (id : String) :
    let rs := monitorProbingStatus lg ws id
    (∀ r ∈ rs.head?, r.interval = statusErrorInterval) ∧
    rs.Chain' (fun r r' => ∃ s, r.wake = .timer s ∧
      r'.interval = if s.health then statusMonitoringInterval else statusErrorInterval) ∧
    (∀ r ∈ rs, ∀ s, r.wake = .timer s →
      r.out.filter (·.event = some .rtt) = [.observe id s.srtt] ∧
      r.out.countP (·.event = some .unhealthy) = (if s.health then 0 else 1) ∧
      ∀ o ∈ r.out, o.peer = some id) ∧
    (∀ r ∈ rs, r.wake = .stop → r.out = []) ∧
    rs.map Round.wake = untilStop ws := by
  refine ⟨monitorLoop_head lg id _ ws, monitorLoop_chain lg id _ ws, fun r hr s hs => ?_,
    fun r hr hs => by rw [out_of_mem_monitorLoop lg id hr, hs], monitorLoop_wakes lg id _ ws⟩
  rw [out_of_mem_monitorLoop lg id hr, hs]
  exact ⟨filter_rtt_pollStatus lg s id, countP_unhealthy_pollStatus lg s id, peer_pollStatus lg s id⟩

/-- Every poll of every run warns of clock drift for `id` exactly when
`ClockDiff() > time.Second`, a signed comparison, whatever the health it read. -/
theorem monitorProbingStatus_clockDrift (lg : Logger) (ws : List Wake) (id : String) :
    ∀ r ∈ monitorProbingStatus lg ws id, ∀ s, r.wake = .timer s →
      r.out.countP (fun o => o.event = some .clockDrift ∧ o.peer = some id) =
        if s.clockDiff > second then 1 else 0 :=
  fun r hr s hs => by
    rw [out_of_mem_monitorLoop lg id hr, hs, countP_clockDrift_peer_pollStatus]

theorem monitorProbingStatus_clockDrift_behind :
    let s : Snapshot := ⟨false, 0, some "dial timeout", 2 * second⟩
    let r : Round := ⟨statusErrorInterval, .timer s, (pollStatus .plog s "p").2⟩
    r ∈ monitorProbingStatus .plog [.timer s] "p" ∧ r.wake = .timer s ∧
      r.out.countP (fun o => o.event = some .clockDrift ∧ o.peer = some "p") = 1 := by
  intro s r
  exact ⟨List.mem_singleton_self r, rfl,
    (monitorProbingStatus_clockDrift .plog [.timer s] "p" r (List.mem_singleton_self r) s rfl).trans
      (by decide)⟩

/-- Measured by absolute value, the drift of a peer two seconds ahead would be reported; the
loop's signed comparison does not report it. -/
theorem monitorProbingStatus_silent_when_peer_ahead :
    ¬ ∀ (lg : Logger) (ws : List Wake) (id : String), ∀ r ∈ monitorProbingStatus lg ws id,
      ∀ s, r.wake = .timer s →
        r.out.countP (fun o => o.event = some .clockDrift ∧ o.peer = some id) =
          if second.toInt < |s.clockDiff.toInt| then 1 else 0 := fun h => by
  have := h .zap [.timer ⟨true, 0, none, -(2 * second)⟩] "p" _ (List.mem_singleton_self _) _ rfl
  revert this; decide

end Quorum.Rafthttp
