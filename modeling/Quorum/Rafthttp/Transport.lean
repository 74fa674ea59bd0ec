import Quorum.Rafthttp.Monitor
import Quorum.Rafthttp.Prober
import Mathlib.Data.Multiset.Basic

set_option autoImplicit false

/-!
# Registering peers with the prober

`addPeerToProber lg p id us` registers a probe for `id` at the addresses `us`, each with the
probing prefix appended, asks the prober for the status handle of `id`, and spawns a
`monitorProbingStatus` goroutine on it; when `Status` fails it logs a warning instead. The error
`AddHTTP` returns is dropped.

A `Transport` is the prober, the monitor goroutines running, the log, and the number of
goroutines started so far. It moves by the four `Action`s: a call of `addPeerToProber`, a removal
of a peer from the prober by its caller, a poll of one goroutine, and one goroutine taking its
stop case, which it can only do once the stop signal of its handle is closed. `Reachable allowed`
is every state reached from `init` by the steps `allowed` admits.

The code keeps no count of its goroutines: `Transport.spawned` is ghost state that only proofs
read. It numbers every goroutine by the call that starts it (`Goroutine.serial`), so that two
goroutines in the same state, which Go keeps apart, are two goroutines of the model too, and a
poll or a stop names the one it is of.

* `addPeerToProber_eq`: under the prober's contract `Status` never fails after `AddHTTP`, so
  every call spawns one monitor, whatever `us` is, bound to the handle of `id`.
* `step_addPeer`, `step_removePeer`, `step_poll`, `step_stop`: what each action does.
-/

namespace Quorum.Rafthttp

open Duration

/-- A running `monitorProbingStatus` goroutine: its logger, the handle it polls, its peer id and
its loop variable. -/
structure Monitor where
  lg : Logger
  handle : Nat
  id : String
  interval : Duration
  deriving DecidableEq, Repr

/-- The warning for a peer the prober has no status for. -/
def warnAddFailed (lg : Logger) (id : String) : Out :=
  match lg with
  | .zap => .warn "failed to add peer into prober" [.string "remote-peer-id" id]
  | .plog => .errorf "failed to add peer %s into prober" [.string id]

section Registration

/-! `ProbingPrefix` and `ConnReadTimeout` are constants of the transport that are not in the
source. -/

variable (probingPrefix : String) (connReadTimeout : Duration)

/-- `proberInterval = ConnReadTimeout - time.Second`. -/
def proberInterval : Duration := connReadTimeout - second

/-- The probes sample more often than the read timeout exactly when `ConnReadTimeout` is at
least a second above `math.MinInt64`; below that the subtraction wraps. -/
theorem proberInterval_lt_iff :
    proberInterval connReadTimeout < connReadTimeout ↔ -2 ^ 63 + 1000000000 ≤ connReadTimeout.toInt := by
  rw [Duration.lt_iff, proberInterval, Duration.toInt_sub_second]
  have := connReadTimeout.toInt_bounds
  split_ifs <;> omega

/-- `addPeerToProber(lg, p, id, us)`: the prober after the call, the monitor it spawns, and what
it logs. -/
def addPeerToProber (lg : Logger) (p : Prober) (id : String) (us : List String) :
    Prober × Option Monitor × List Out :=
  let hus := us.map (· ++ probingPrefix)
  let p := (p.addHTTP id (proberInterval connReadTimeout) hus).1
  match p.status id with
  | .error _ => (p, none, [warnAddFailed lg id])
  | .ok s => (p, some ⟨lg, s, id, statusErrorInterval⟩, [])

/-- Every call spawns one monitor, bound to the handle `id` has after the call, and logs nothing:
the failure branch is never taken. -/
theorem addPeerToProber_eq (lg : Logger) (p : Prober) (id : String) (us : List String) :
    addPeerToProber probingPrefix connReadTimeout lg p id us =
      ((p.addHTTP id (proberInterval connReadTimeout) (us.map (· ++ probingPrefix))).1,
        some ⟨lg, ((p.targets id).map Probe.handle).getD p.fresh, id, statusErrorInterval⟩, []) := by
  simp only [addPeerToProber, Prober.status_addHTTP]

/-! ## The transport -/

/-- A running goroutine: the monitor it runs, and its number among the goroutines the transport
has started. -/
structure Goroutine extends Monitor where
  serial : Nat
  deriving DecidableEq, Repr

/-- The prober, the goroutines running (a multiset: goroutines have no order), the log, and the
number of goroutines started so far. -/
structure Transport where
  prober : Prober
  monitors : Multiset Goroutine
  log : List Out
  spawned : Nat

/-- What the transport can do next. -/
inductive Action
  /-- A call `addPeerToProber(lg, p, id, us)`. -/
  | addPeer (lg : Logger) (id : String) (us : List String)
  /-- The caller removes `id` from the prober, `p.Remove(id)`. -/
  | removePeer (id : String)
  /-- The timer of the running goroutine `m` fires and its handle reads `s`. -/
  | poll (m : Goroutine) (s : Snapshot)
  /-- The running goroutine `m` takes its stop case. -/
  | stop (m : Goroutine)

/-- The state before any peer is added. -/
def Transport.init : Transport := ⟨Prober.empty, 0, [], 0⟩

/-- One step; `none` when the action is not enabled. A call numbers the goroutine it spawns by
the count of those started before it. -/
def Transport.step (t : Transport) : Action → Option Transport
  | .addPeer lg id us =>
    let (p, m, out) := addPeerToProber probingPrefix connReadTimeout lg t.prober id us
    match m with
    | none => some ⟨p, t.monitors, t.log ++ out, t.spawned⟩
    | some m => some ⟨p, ⟨m, t.spawned⟩ ::ₘ t.monitors, t.log ++ out, t.spawned + 1⟩
  | .removePeer id => some { t with prober := (t.prober.remove id).1 }
  | .poll m s =>
    if m ∈ t.monitors then
      let (interval, out) := pollStatus m.lg s m.id
      some { t with monitors := { m with interval } ::ₘ t.monitors.erase m, log := t.log ++ out }
    else none
  | .stop m =>
    if m ∈ t.monitors ∧ m.handle ∈ t.prober.stopped then
      some { t with monitors := t.monitors.erase m }
    else none

/-- The states reached from `init` by the steps `allowed` admits. -/
inductive Reachable (allowed : Transport → Action → Prop) : Transport → Prop
  | init : Reachable allowed Transport.init
  | step {t t' : Transport} {a : Action} :
      Reachable allowed t → allowed t a → t.step probingPrefix connReadTimeout a = some t' →
        Reachable allowed t'

/-- A call that registers an id whose probe is present. -/
def Action.reRegisters (t : Transport) : Action → Prop
  | .addPeer _ id _ => (t.prober.targets id).isSome
  | _ => False

/-- A call that registers the id whose probe is bound to the handle `h`, while that probe is
present: it binds one more goroutine to `h`. -/
def Action.reRegistersOn (t : Transport) (h : Nat) : Action → Prop
  | .addPeer _ id _ => (t.prober.targets id).map Probe.handle = some h
  | _ => False

theorem Action.not_reRegistersOn {t : Transport} {a : Action} (ha : ¬ a.reRegisters t) (h : Nat) :
    ¬ a.reRegistersOn t h := by
  cases a with
  | addPeer lg id us =>
    simp only [Action.reRegisters, Action.reRegistersOn, Option.not_isSome_iff_eq_none] at ha ⊢
    simp [ha]
  | removePeer | poll | stop => exact not_false

/-! ## What one step does -/

variable {probingPrefix connReadTimeout} {t t' : Transport}

theorem step_addPeer (lg : Logger) (id : String) (us : List String) :
    t.step probingPrefix connReadTimeout (.addPeer lg id us) =
      some ⟨(t.prober.addHTTP id (proberInterval connReadTimeout) (us.map (· ++ probingPrefix))).1,
        ⟨⟨lg, ((t.prober.targets id).map Probe.handle).getD t.prober.fresh, id, statusErrorInterval⟩,
          t.spawned⟩ ::ₘ t.monitors, t.log, t.spawned + 1⟩ := by
  simp [Transport.step, addPeerToProber_eq]

theorem step_removePeer (id : String) :
    t.step probingPrefix connReadTimeout (.removePeer id) =
      some { t with prober := (t.prober.remove id).1 } := rfl

theorem step_poll {m : Goroutine} {s : Snapshot}
    (h : t.step probingPrefix connReadTimeout (.poll m s) = some t') :
    m ∈ t.monitors ∧ t' = ⟨t.prober, { m with interval := (pollStatus m.lg s m.id).1 } ::ₘ
      t.monitors.erase m, t.log ++ (pollStatus m.lg s m.id).2, t.spawned⟩ := by
  simp only [Transport.step] at h
  split_ifs at h with hm
  cases h
  exact ⟨hm, rfl⟩

theorem step_stop {m : Goroutine} (h : t.step probingPrefix connReadTimeout (.stop m) = some t') :
    m ∈ t.monitors ∧ m.handle ∈ t.prober.stopped ∧
      t' = ⟨t.prober, t.monitors.erase m, t.log, t.spawned⟩ := by
  simp only [Transport.step] at h
  split_ifs at h with hm
  cases h
  exact ⟨hm.1, hm.2, rfl⟩

end Registration

/-- The state after a first peer `p` is added at one address. -/
def firstPeer : Transport :=
  (Transport.init.step "/raft/probing" (5 * second) (.addPeer .zap "p" ["10.0.0.1"])).getD .init

theorem reachable_firstPeer :
    Reachable "/raft/probing" (5 * second) (fun t a => ¬ a.reRegisters t) firstPeer :=
  @Reachable.step _ _ _ _ _ (.addPeer .zap "p" ["10.0.0.1"]) .init Bool.false_ne_true rfl

/-- From `firstPeer`: `q` is added, the goroutine of `p` reads a healthy status, `p` is removed,
and `p` is added again at another address. The first goroutine of `p`, now waiting
`statusMonitoringInterval`, still runs on the stopped handle `0`, beside the goroutine of `q` on
the handle `1` and the second goroutine of `p` on `2`. -/
def busyPeers : Transport :=
  [.addPeer .zap "q" ["10.0.0.2"], .poll ⟨⟨.zap, 0, "p", statusErrorInterval⟩, 0⟩ ⟨true, 0, none, 0⟩,
    .removePeer "p", .addPeer .zap "p" ["10.0.0.3"]].foldl
    (fun t a => (t.step "/raft/probing" (5 * second) a).getD .init) firstPeer

theorem reachable_busyPeers :
    Reachable "/raft/probing" (5 * second) (fun t a => ¬ a.reRegisters t) busyPeers :=
  @Reachable.step _ _ _ _ _ (.addPeer .zap "p" ["10.0.0.3"])
    (@Reachable.step _ _ _ _ _ (.removePeer "p")
      (@Reachable.step _ _ _ _ _ (.poll ⟨⟨.zap, 0, "p", statusErrorInterval⟩, 0⟩ ⟨true, 0, none, 0⟩)
        (@Reachable.step _ _ _ _ _ (.addPeer .zap "q" ["10.0.0.2"]) reachable_firstPeer
          Bool.false_ne_true rfl)
        not_false rfl)
      not_false rfl)
    Bool.false_ne_true rfl

end Quorum.Rafthttp
