import Quorum.Rafthttp.Wellformed

set_option autoImplicit false

/-!
# Each goroutine in a run of the transport

A run of the transport interleaves calls of `addPeerToProber`, removals, and the polls and stops
of every goroutine. `Goroutine.wakes m as` is what the goroutine `m` sees of the actions `as`:
each poll of it is a timer wake, after which it is `m` at the interval that poll picked, and its
stop ends it. The actions of the others are not its wakes. Goroutines are told apart by their
number, which no step hands out twice (`serial_step`).

* `run_log`: a run logs what its polls write, in order; calls, removals and stops write
  nothing.
* `Transport.run_follows`: along any run, a goroutine that is the only one with its number takes
  its stop case only once the stop signal of its handle is closed, and leaves no goroutine with
  its number; until then the goroutine it has become is the only one with its number, at the
  interval its own `monitorLoop` has reached over its wakes.
* `run_addPeer_monitorProbingStatus`: so the goroutine a call spawns runs
  `monitorProbingStatus`, whatever the other goroutines do.
* `run_addPeer_probe`: the probe of an id is the one the call that registered it asked for, until
  the id is removed.
* `Reachable.monitorsOn_stopped_run`: a call binds its goroutine to a live handle, so from a
  reachable state no run adds a goroutine to a handle whose stop signal is closed.
* `run_silent`: along a run that registers no `id`, from a state where no goroutine tagged with
  `id` runs, nothing logged names `id`.
-/

namespace Quorum.Rafthttp

open Duration

section Run

variable (probingPrefix : String) (connReadTimeout : Duration)

/-- The steps `as`, one after another; `none` as soon as one is not enabled. -/
def Transport.run (t : Transport) : List Action → Option Transport
  | [] => some t
  | a :: as => (t.step probingPrefix connReadTimeout a).bind fun t' => t'.run as

end Run

/-- What an action writes to the log. -/
def Action.out : Action → List Out
  | .poll m s => (pollStatus m.lg s m.id).2
  | _ => []

/-- The wakes of the goroutine `m` along the actions `as`. -/
def Goroutine.wakes (m : Goroutine) : List Action → List Wake
  | [] => []
  | .poll m' s :: as =>
    if m' = m then .timer s :: Goroutine.wakes { m with interval := (pollStatus m.lg s m.id).1 } as
    else m.wakes as
  | .stop m' :: as => if m' = m then [.stop] else m.wakes as
  | _ :: as => m.wakes as

/-- An action is a poll of `m`, its stop, or no wake of it. -/
theorem Goroutine.wakes_cons (m : Goroutine) (a : Action) (as : List Action) :
    (∃ s, a = .poll m s ∧ m.wakes (a :: as) =
      .timer s :: Goroutine.wakes { m with interval := (pollStatus m.lg s m.id).1 } as) ∨
    (a = .stop m ∧ m.wakes (a :: as) = [.stop]) ∨
    (m.wakes [a] = [] ∧ m.wakes (a :: as) = m.wakes as) := by
  cases a with
  | poll m' s =>
    by_cases e : m' = m
    · exact .inl ⟨s, e ▸ rfl, by simp [Goroutine.wakes, e]⟩
    · exact .inr (.inr (by simp [Goroutine.wakes, e]))
  | stop m' =>
    by_cases e : m' = m
    · exact .inr (.inl ⟨e ▸ rfl, by simp [Goroutine.wakes, e]⟩)
    · exact .inr (.inr (by simp [Goroutine.wakes, e]))
  | addPeer | removePeer => exact .inr (.inr ⟨rfl, rfl⟩)

variable {probingPrefix : String} {connReadTimeout : Duration} {t t' t'' : Transport} {a : Action}
  {as : List Action}

theorem Transport.run_cons :
    t.run probingPrefix connReadTimeout (a :: as) = some t'' ↔
      ∃ t', t.step probingPrefix connReadTimeout a = some t' ∧
        t'.run probingPrefix connReadTimeout as = some t'' :=
  Option.bind_eq_some

/-! ## One step -/

/-- A step writes what its action writes. -/
theorem step_log (h : t.step probingPrefix connReadTimeout a = some t') :
    t'.log = t.log ++ a.out := by
  cases a with
  | addPeer lg id us => rw [step_addPeer] at h; cases h; exact (List.append_nil _).symm
  | removePeer id => rw [step_removePeer] at h; cases h; exact (List.append_nil _).symm
  | poll m s => obtain ⟨-, rfl⟩ := step_poll h; rfl
  | stop m => obtain ⟨-, -, rfl⟩ := step_stop h; exact (List.append_nil _).symm

/-- No step reopens a stop signal. -/
theorem stopped_subset_step (h : t.step probingPrefix connReadTimeout a = some t') :
    t.prober.stopped ⊆ t'.prober.stopped := by
  cases a with
  | addPeer lg id us =>
    rw [step_addPeer] at h
    cases h
    rw [Prober.stopped_addHTTP]
    exact List.Subset.refl _
  | removePeer id =>
    rw [step_removePeer] at h
    cases h
    rw [Prober.stopped_remove]
    exact List.subset_append_right _ _
  | poll m s => rw [(frame_poll h).prober]; exact List.Subset.refl _
  | stop m => rw [(frame_stop h).prober]; exact List.Subset.refl _

/-- No step hands out a number again: a call numbers its goroutine by the count of goroutines
started, which only grows, so the goroutines with a number already handed out never become
more. -/
theorem serial_step (h : t.step probingPrefix connReadTimeout a = some t') {n : Nat}
    (hn : n < t.spawned) :
    n < t'.spawned ∧ t'.monitors.countP (·.serial = n) ≤ t.monitors.countP (·.serial = n) := by
  cases a with
  | addPeer lg id us =>
    rw [step_addPeer] at h
    cases h
    exact ⟨Nat.lt_succ_of_lt hn, le_of_eq (Multiset.countP_cons_of_neg _ hn.ne')⟩
  | removePeer id => rw [step_removePeer] at h; cases h; exact ⟨hn, le_rfl⟩
  | poll m s => obtain ⟨hm, rfl⟩ := step_poll h; exact ⟨hn, le_of_eq (countP_cons_erase hm Iff.rfl)⟩
  | stop m =>
    obtain ⟨-, -, rfl⟩ := step_stop h
    exact ⟨hn, Multiset.countP_le_of_le _ (Multiset.erase_le _ _)⟩

/-- A step that is no wake of the goroutine `m` leaves it running. -/
theorem mem_monitors_step (h : t.step probingPrefix connReadTimeout a = some t') {m : Goroutine}
    (hm : m ∈ t.monitors) (ha : m.wakes [a] = []) : m ∈ t'.monitors := by
  cases a with
  | addPeer lg id us => rw [step_addPeer] at h; cases h; exact Multiset.mem_cons_of_mem hm
  | removePeer id => rw [step_removePeer] at h; cases h; exact hm
  | poll m' s =>
    obtain ⟨-, rfl⟩ := step_poll h
    have e : m ≠ m' := by rintro rfl; simp [Goroutine.wakes] at ha
    exact Multiset.mem_cons_of_mem ((Multiset.mem_erase_of_ne e).2 hm)
  | stop m' =>
    obtain ⟨-, -, rfl⟩ := step_stop h
    have e : m ≠ m' := by rintro rfl; simp [Goroutine.wakes] at ha
    exact (Multiset.mem_erase_of_ne e).2 hm

/-- A call leaves `id` with the probe it had, or, when it had none, with the probe the call asked
for. -/
theorem targets_addPeer {lg : Logger} {id : String} {us : List String}
    (h : t.step probingPrefix connReadTimeout (.addPeer lg id us) = some t') :
    t'.prober.targets id = some ((t.prober.targets id).getD
      ⟨t.prober.fresh, proberInterval connReadTimeout, us.map (· ++ probingPrefix)⟩) := by
  rw [step_addPeer] at h
  cases h
  cases hid : t.prober.targets id with
  | none => simp [Prober.targets_addHTTP _ _ hid]
  | some pr => simp [Prober.addHTTP_of_some _ _ hid, hid]

/-- A step that does not remove `id` leaves the probe of `id`, if it has one, as it is. -/
theorem targets_step (h : t.step probingPrefix connReadTimeout a = some t') {id : String}
    (ha : a ≠ .removePeer id) {pr : Probe} (hp : t.prober.targets id = some pr) :
    t'.prober.targets id = some pr := by
  cases a with
  | addPeer lg id' us =>
    rw [step_addPeer] at h
    cases h
    cases hid : t.prober.targets id' with
    | none =>
      have ne : id ≠ id' := by rintro rfl; rw [hid] at hp; cases hp
      simp only [Prober.targets_addHTTP _ _ hid, if_neg ne, hp]
    | some pr' => rw [Prober.addHTTP_of_some _ _ hid]; exact hp
  | removePeer id' =>
    rw [step_removePeer] at h
    cases h
    have ne : id ≠ id' := fun e => ha (e ▸ rfl)
    simp only [Prober.targets_remove, if_neg ne, hp]
  | poll m s => rw [(frame_poll h).prober]; exact hp
  | stop m => rw [(frame_stop h).prober]; exact hp

/-- A call binds its goroutine to a live handle, so no step adds a goroutine to a stopped one. -/
theorem monitorsOn_stopped_step (w : Wellformed t)
    (h : t.step probingPrefix connReadTimeout a = some t') {x : Nat} (hx : x ∈ t.prober.stopped) :
    t'.monitorsOn x ≤ t.monitorsOn x := by
  cases a with
  | addPeer lg id us =>
    rw [step_addPeer] at h
    cases h
    have live : ((t.prober.targets id).map Probe.handle).getD t.prober.fresh ≠ x := by
      cases hid : t.prober.targets id with
      | none => exact (w.stopped_lt x hx).ne'
      | some pr => exact fun e => w.live id pr hid (by subst e; exact hx)
    simp only [Transport.monitorsOn, countP_handle_cons, if_neg live, Nat.add_zero, le_refl]
  | removePeer id => rw [step_removePeer] at h; cases h; exact le_rfl
  | poll m s => exact (frame_poll h).monitorsOn_le x
  | stop m => exact (frame_stop h).monitorsOn_le x

/-- A step that registers no `id`, taken while no goroutine tagged with `id` runs, starts none
and writes nothing naming `id`. -/
theorem untagged_step {id : String} (h : t.step probingPrefix connReadTimeout a = some t')
    (hm : ∀ m ∈ t.monitors, m.id ≠ id) (ha : ∀ lg us, a ≠ .addPeer lg id us) :
    (∀ m ∈ t'.monitors, m.id ≠ id) ∧ ∀ o ∈ a.out, o.peer ≠ some id := by
  cases a with
  | addPeer lg id' us =>
    rw [step_addPeer] at h
    cases h
    refine ⟨fun m' hm' => ?_, nofun⟩
    rcases Multiset.mem_cons.1 hm' with rfl | hm'
    · exact fun e => ha lg us (e ▸ rfl)
    · exact hm m' hm'
  | removePeer id' => rw [step_removePeer] at h; cases h; exact ⟨hm, nofun⟩
  | poll m s =>
    obtain ⟨hm₀, rfl⟩ := step_poll h
    refine ⟨fun m' hm' => ?_, fun o ho e =>
      hm m hm₀ (Option.some.inj ((peer_pollStatus m.lg s m.id o ho).symm.trans e))⟩
    rcases Multiset.mem_cons.1 hm' with rfl | hm'
    · exact hm m hm₀
    · exact hm m' (Multiset.mem_of_mem_erase hm')
  | stop m =>
    obtain ⟨-, -, rfl⟩ := step_stop h
    exact ⟨fun m' hm' => hm m' (Multiset.mem_of_mem_erase hm'), nofun⟩

/-! ## Every run -/

/-- A run logs what its polls write, in order. -/
theorem run_log (h : t.run probingPrefix connReadTimeout as = some t') :
    t'.log = t.log ++ (as.map Action.out).flatten := by
  induction as generalizing t with
  | nil => cases h; exact (List.append_nil _).symm
  | cons a as ih =>
    obtain ⟨t₁, h₁, h⟩ := Transport.run_cons.1 h
    rw [ih h, step_log h₁, List.map_cons, List.flatten_cons, List.append_assoc]

/-- A peer that fails its first poll and then recovers: one unhealthy-status warning, then
round-trip times only. -/
example :
    (Transport.init.run "/raft/probing" (5 * second)
      [.addPeer .zap "P1" ["10.0.0.1"],
        .poll ⟨⟨.zap, 0, "P1", statusErrorInterval⟩, 0⟩ ⟨false, 0, some "dial timeout", 0⟩,
        .poll ⟨⟨.zap, 0, "P1", statusErrorInterval⟩, 0⟩ ⟨true, 12000000, none, 50000000⟩]).map
        Transport.log =
      some [.warn "prober detected unhealthy status"
          [.string "remote-peer-id" "P1", .duration "rtt" 0, .error (some "dial timeout")],
        .observe "P1" 0, .observe "P1" 12000000] := rfl

theorem stopped_subset_run (h : t.run probingPrefix connReadTimeout as = some t') :
    t.prober.stopped ⊆ t'.prober.stopped := by
  induction as generalizing t with
  | nil => cases h; exact List.Subset.refl _
  | cons a as ih =>
    obtain ⟨t₁, h₁, h⟩ := Transport.run_cons.1 h
    exact (stopped_subset_step h₁).trans (ih h)

theorem serial_run (h : t.run probingPrefix connReadTimeout as = some t') {n : Nat}
    (hn : n < t.spawned) :
    n < t'.spawned ∧ t'.monitors.countP (·.serial = n) ≤ t.monitors.countP (·.serial = n) := by
  induction as generalizing t with
  | nil => cases h; exact ⟨hn, le_rfl⟩
  | cons a as ih =>
    obtain ⟨t₁, h₁, h⟩ := Transport.run_cons.1 h
    obtain ⟨hn₁, hc₁⟩ := serial_step h₁ hn
    obtain ⟨hn', hc'⟩ := ih h hn₁
    exact ⟨hn', hc'.trans hc₁⟩

theorem targets_run (h : t.run probingPrefix connReadTimeout as = some t') {id : String}
    (ha : Action.removePeer id ∉ as) {pr : Probe} (hp : t.prober.targets id = some pr) :
    t'.prober.targets id = some pr := by
  induction as generalizing t with
  | nil => cases h; exact hp
  | cons a as ih =>
    obtain ⟨t₁, h₁, h⟩ := Transport.run_cons.1 h
    rw [List.mem_cons, not_or] at ha
    exact ih h ha.2 (targets_step h₁ (Ne.symm ha.1) hp)

/-- What the goroutine `m` writes over its wakes is written, in order, by the actions. -/
theorem out_monitorLoop_wakes_sublist (m : Goroutine) (as : List Action) :
    ((monitorLoop m.lg m.id m.interval (m.wakes as)).map Round.out).flatten.Sublist
      (as.map Action.out).flatten := by
  induction as generalizing m with
  | nil => exact List.nil_sublist _
  | cons a as ih =>
    rcases m.wakes_cons a as with ⟨s, rfl, e⟩ | ⟨rfl, e⟩ | ⟨-, e⟩ <;>
      simp only [e, monitorLoop, Action.out, List.map_cons, List.map_nil, List.flatten_cons,
        List.flatten_nil]
    · exact (ih { m with interval := (pollStatus m.lg s m.id).1 }).append_left _
    · exact List.nil_sublist _
    · exact ih m |>.trans (List.sublist_append_right _ _)

/-- **Every goroutine follows its own loop.** Along any run from a state where `m` runs, is the
only goroutine with its number, and that number is handed out, the goroutine `m` takes its stop
case only once the stop signal of its handle is closed, after which no goroutine has its number;
until then the goroutine it has become is running and is the only one with its number: `m` at
the interval its `monitorLoop` has reached over its wakes, from which the loop goes on. -/
theorem Transport.run_follows (h : t.run probingPrefix connReadTimeout as = some t')
    {m : Goroutine} (hm : m ∈ t.monitors) (hu : t.monitors.countP (·.serial = m.serial) ≤ 1)
    (hn : m.serial < t.spawned) :
    (Wake.stop ∈ m.wakes as → m.handle ∈ t'.prober.stopped ∧
      t'.monitors.countP (·.serial = m.serial) = 0) ∧
    (Wake.stop ∉ m.wakes as → ∃ i, { m with interval := i } ∈ t'.monitors ∧
      t'.monitors.countP (·.serial = m.serial) = 1 ∧
      ∀ ws, monitorLoop m.lg m.id m.interval (m.wakes as ++ ws) =
        monitorLoop m.lg m.id m.interval (m.wakes as) ++ monitorLoop m.lg m.id i ws) := by
  induction as generalizing t m with
  | nil =>
    cases h
    exact ⟨nofun, fun _ => ⟨m.interval, hm,
      le_antisymm hu (Multiset.countP_pos_of_mem hm rfl), fun _ => rfl⟩⟩
  | cons a as ih =>
    obtain ⟨t₁, h₁, h⟩ := Transport.run_cons.1 h
    rcases m.wakes_cons a as with ⟨s, rfl, e⟩ | ⟨rfl, e⟩ | ⟨ha, e⟩ <;> rw [e]
    · -- a poll of `m`: the goroutine goes on as the one the poll leaves, with the same number
      obtain ⟨-, rfl⟩ := step_poll h₁
      obtain ⟨ih₁, ih₂⟩ :=
        ih h (Multiset.mem_cons_self _ _) (le_trans (le_of_eq (countP_cons_erase hm Iff.rfl)) hu) hn
      refine ⟨fun hs => ih₁ ((List.mem_cons.1 hs).resolve_left nofun), fun hs => ?_⟩
      obtain ⟨i, hi, hc, hl⟩ := ih₂ fun hs' => hs (List.mem_cons_of_mem _ hs')
      exact ⟨i, hi, hc, fun ws => congrArg (_ :: ·) (hl ws)⟩
    · -- its stop: enabled only once the handle is stopped, and it leaves none with its number
      obtain ⟨-, hs, rfl⟩ := step_stop h₁
      have gone : (t.monitors.erase m).countP (·.serial = m.serial) + 1 =
          t.monitors.countP (·.serial = m.serial) := countP_erase_add_one hm rfl
      refine ⟨fun _ => ⟨stopped_subset_run h hs, ?_⟩, fun hs' => absurd (List.mem_singleton_self _) hs'⟩
      have : t'.monitors.countP (·.serial = m.serial) ≤
          (t.monitors.erase m).countP (·.serial = m.serial) := (serial_run h hn).2
      omega
    · obtain ⟨hn₁, hu₁⟩ := serial_step h₁ hn
      exact ih h (mem_monitors_step h₁ hm ha) (hu₁.trans hu) hn₁

/-- **The goroutine a call spawns runs `monitorProbingStatus`.** In any run from a reachable
state that starts with `addPeerToProber(lg, p, id, us)`, whatever else it interleaves, the
goroutine the call spawns is bound to the handle of the probe of `id` and numbered by the count
of goroutines started before it. It writes the rounds of `monitorProbingStatus` over its wakes in
order into what the run logs after the call. It takes its stop case only once the stop signal of
its handle is closed, after which no goroutine has its number; until then it is running, the only
goroutine with its number, at the interval from which `monitorProbingStatus` goes on. -/
theorem run_addPeer_monitorProbingStatus {allowed : Transport → Action → Prop}
    (r : Reachable probingPrefix connReadTimeout allowed t) {lg : Logger} {id : String}
    {us : List String}
    (h : t.run probingPrefix connReadTimeout (.addPeer lg id us :: as) = some t') :
    let m : Goroutine := ⟨⟨lg, ((t.prober.targets id).map Probe.handle).getD t.prober.fresh, id,
      statusErrorInterval⟩, t.spawned⟩
    let rs := monitorProbingStatus lg (m.wakes as) id
    (∃ rest, t'.log = t.log ++ rest ∧ (rs.map Round.out).flatten.Sublist rest) ∧
    (Wake.stop ∈ m.wakes as → m.handle ∈ t'.prober.stopped ∧
      t'.monitors.countP (·.serial = m.serial) = 0) ∧
    (Wake.stop ∉ m.wakes as → ∃ i, { m with interval := i } ∈ t'.monitors ∧
      t'.monitors.countP (·.serial = m.serial) = 1 ∧
      ∀ ws, monitorProbingStatus lg (m.wakes as ++ ws) id = rs ++ monitorLoop lg id i ws) := by
  intro m rs
  obtain ⟨t₁, h₁, h⟩ := Transport.run_cons.1 h
  rw [step_addPeer] at h₁
  cases h₁
  -- no goroutine running before the call has the number the call gives its own
  have fresh : t.monitors.countP (·.serial = t.spawned) = 0 :=
    Multiset.countP_eq_zero.2 fun m' hm' => (r.wellformed.serial_lt m' hm').ne
  have hl := run_log h
  exact ⟨⟨_, hl, out_monitorLoop_wakes_sublist m as⟩,
    Transport.run_follows h (Multiset.mem_cons_self _ _)
      (by simp [Multiset.countP_cons, m, fresh]) (Nat.lt_succ_self _)⟩

/-- The goroutine of `p` polls twice, `p` is removed, and the goroutine stops. -/
def firstRunActions : List Action :=
  [.poll ⟨⟨.zap, 0, "p", statusErrorInterval⟩, 0⟩ ⟨false, 0, some "dial timeout", 0⟩,
    .poll ⟨⟨.zap, 0, "p", statusErrorInterval⟩, 0⟩ ⟨true, 0, none, 2 * second⟩,
    .removePeer "p", .stop ⟨⟨.zap, 0, "p", statusMonitoringInterval⟩, 0⟩]

theorem run_addPeer_monitorProbingStatus_firstRun :
    let as := Action.addPeer .zap "p" ["10.0.0.1"] :: firstRunActions
    let t' := (Transport.init.run "/raft/probing" (5 * second) as).getD .init
    let m : Goroutine := ⟨⟨.zap, 0, "p", statusErrorInterval⟩, 0⟩
    let rs := monitorProbingStatus .zap (m.wakes firstRunActions) "p"
    Reachable "/raft/probing" (5 * second) (fun _ _ => True) Transport.init ∧
    Transport.init.run "/raft/probing" (5 * second) as = some t' ∧
    (∃ rest, t'.log = Transport.init.log ++ rest ∧ (rs.map Round.out).flatten.Sublist rest) ∧
    (Wake.stop ∈ m.wakes firstRunActions → m.handle ∈ t'.prober.stopped ∧
      t'.monitors.countP (·.serial = m.serial) = 0) ∧
    (Wake.stop ∉ m.wakes firstRunActions → ∃ i, { m with interval := i } ∈ t'.monitors ∧
      t'.monitors.countP (·.serial = m.serial) = 1 ∧
      ∀ ws, monitorProbingStatus .zap (m.wakes firstRunActions ++ ws) "p" =
        rs ++ monitorLoop .zap "p" i ws) := by
  intro as t' m rs
  have r : Reachable "/raft/probing" (5 * second) (fun _ _ => True) Transport.init := .init
  have h : Transport.init.run "/raft/probing" (5 * second) as = some t' := rfl
  exact ⟨r, h, run_addPeer_monitorProbingStatus r h⟩

/-- When `p` is registered twice, its two goroutines are two: the polls of the first are no
wakes of the second, although both run the same monitor. -/
example :
    let m₀ : Goroutine := ⟨⟨.zap, 0, "p", statusErrorInterval⟩, 0⟩
    let m₁ : Goroutine := ⟨⟨.zap, 0, "p", statusErrorInterval⟩, 1⟩
    let as := [Action.poll m₀ ⟨false, 0, none, 0⟩, .poll m₀ ⟨true, 0, none, 0⟩]
    m₀.wakes as = [.timer ⟨false, 0, none, 0⟩, .timer ⟨true, 0, none, 0⟩] ∧ m₁.wakes as = [] :=
  ⟨rfl, rfl⟩

/-- **A probe is what its registering call asked for.** Along a run that starts with a call
`addPeerToProber(lg, p, id, us)` and does not remove `id` after it, `id` keeps the probe it had
when the call came, and the call's own addresses are dropped; when it had none, its probe is the
one the call registered: the fresh handle, `proberInterval`, and the addresses `us`, each with
the probing prefix appended. -/
theorem run_addPeer_probe {lg : Logger} {id : String} {us : List String}
    (h : t.run probingPrefix connReadTimeout (.addPeer lg id us :: as) = some t')
    (ha : Action.removePeer id ∉ as) :
    t'.prober.targets id = some ((t.prober.targets id).getD
      ⟨t.prober.fresh, proberInterval connReadTimeout, us.map (· ++ probingPrefix)⟩) := by
  obtain ⟨t₁, h₁, h⟩ := Transport.run_cons.1 h
  exact targets_run h ha (targets_addPeer h₁)

/-- `p` is registered at one address, registered again at another, and its goroutine polls. -/
def probeAgainActions : List Action :=
  [.addPeer .zap "p" ["10.0.0.9"],
    .poll ⟨⟨.zap, 0, "p", statusErrorInterval⟩, 0⟩ ⟨true, 0, none, 0⟩]

theorem run_addPeer_probe_again :
    let as := Action.addPeer .zap "p" ["10.0.0.1"] :: probeAgainActions
    let t' := (Transport.init.run "/raft/probing" (5 * second) as).getD .init
    Transport.init.run "/raft/probing" (5 * second) as = some t' ∧
      Action.removePeer "p" ∉ probeAgainActions ∧
      t'.prober.targets "p" = some ((Transport.init.prober.targets "p").getD
        ⟨Transport.init.prober.fresh, proberInterval (5 * second),
          ["10.0.0.1"].map (· ++ "/raft/probing")⟩) := by
  intro as t'
  have h : Transport.init.run "/raft/probing" (5 * second) as = some t' := rfl
  have ha : Action.removePeer "p" ∉ probeAgainActions := by simp [probeAgainActions]
  exact ⟨h, ha, run_addPeer_probe h ha⟩

/-- **A stopped handle gets no new goroutine.** From any reachable state, along any run, the
number of goroutines bound to a handle whose stop signal is closed never grows: once a peer is
removed, the goroutines on its handle only leave. -/
theorem Reachable.monitorsOn_stopped_run {allowed : Transport → Action → Prop}
    (r : Reachable probingPrefix connReadTimeout allowed t)
    (h : t.run probingPrefix connReadTimeout as = some t') {x : Nat}
    (hx : x ∈ t.prober.stopped) : t'.monitorsOn x ≤ t.monitorsOn x := by
  replace r := r.mono fun _ _ _ => trivial
  induction as generalizing t with
  | nil => cases h; exact le_rfl
  | cons a as ih =>
    obtain ⟨t₁, h₁, h⟩ := Transport.run_cons.1 h
    calc t'.monitorsOn x
      _ ≤ t₁.monitorsOn x := ih h (stopped_subset_step h₁ hx) (.step r trivial h₁)
      _ ≤ t.monitorsOn x := monitorsOn_stopped_step r.wellformed h₁ hx

/-- The state after `p` is added and removed again. -/
def firstRemoved : Transport :=
  (firstPeer.step "/raft/probing" (5 * second) (.removePeer "p")).getD .init

theorem monitorsOn_stopped_run_readd :
    let as := [Action.addPeer .zap "p" ["10.0.0.1"]]
    let t' := (firstRemoved.run "/raft/probing" (5 * second) as).getD .init
    Reachable "/raft/probing" (5 * second) (fun t a => ¬ a.reRegisters t) firstRemoved ∧
      firstRemoved.run "/raft/probing" (5 * second) as = some t' ∧
      (0 : Nat) ∈ firstRemoved.prober.stopped ∧ t'.monitorsOn 0 ≤ firstRemoved.monitorsOn 0 := by
  intro as t'
  have r : Reachable "/raft/probing" (5 * second) (fun t a => ¬ a.reRegisters t) firstRemoved :=
    @Reachable.step _ _ _ _ _ (.removePeer "p") reachable_firstPeer not_false rfl
  have h : firstRemoved.run "/raft/probing" (5 * second) as = some t' := rfl
  have hx : (0 : Nat) ∈ firstRemoved.prober.stopped := List.mem_singleton_self 0
  exact ⟨r, h, hx, Reachable.monitorsOn_stopped_run r h hx⟩

/-- **A peer with no goroutine is silent.** Along any run that registers no `id`, from a state
where no running goroutine is tagged with `id`, nothing the run logs names `id`: once the
goroutines of a removed peer have taken their stop case, nothing more is written for it until it
is registered again. -/
theorem run_silent {id : String} (h : t.run probingPrefix connReadTimeout as = some t')
    (hm : ∀ m ∈ t.monitors, m.id ≠ id) (ha : ∀ lg us, Action.addPeer lg id us ∉ as) :
    ∃ rest, t'.log = t.log ++ rest ∧ ∀ o ∈ rest, o.peer ≠ some id := by
  refine ⟨_, run_log h, ?_⟩
  induction as generalizing t with
  | nil => exact nofun
  | cons a as ih =>
    obtain ⟨t₁, h₁, h⟩ := Transport.run_cons.1 h
    obtain ⟨hm₁, hout⟩ :=
      untagged_step h₁ hm fun lg us e => ha lg us (e ▸ List.mem_cons_self _ _)
    intro o ho
    rw [List.map_cons, List.flatten_cons, List.mem_append] at ho
    rcases ho with ho | ho
    · exact hout o ho
    · exact ih h hm₁ (fun lg us hmem => ha lg us (List.mem_cons_of_mem _ hmem)) o ho

/-- Another peer is added and its goroutine polls, from the state before any peer. -/
def otherPeerActions : List Action :=
  [.addPeer .zap "q" ["10.0.0.2"],
    .poll ⟨⟨.zap, 0, "q", statusErrorInterval⟩, 0⟩ ⟨false, 0, some "dial timeout", 0⟩]

theorem run_silent_otherPeer :
    let t' := (Transport.init.run "/raft/probing" (5 * second) otherPeerActions).getD .init
    Transport.init.run "/raft/probing" (5 * second) otherPeerActions = some t' ∧
      (∀ m ∈ Transport.init.monitors, m.id ≠ "p") ∧
      (∀ lg us, Action.addPeer lg "p" us ∉ otherPeerActions) ∧
      ∃ rest, t'.log = Transport.init.log ++ rest ∧ ∀ o ∈ rest, o.peer ≠ some "p" := by
  intro t'
  have h : Transport.init.run "/raft/probing" (5 * second) otherPeerActions = some t' := rfl
  have hm : ∀ m ∈ Transport.init.monitors, m.id ≠ "p" := fun _ hm => absurd hm nofun
  have ha : ∀ lg us, Action.addPeer lg "p" us ∉ otherPeerActions := by
    intro lg us hmem
    simp [otherPeerActions] at hmem
  exact ⟨h, hm, ha, run_silent h hm ha⟩

end Quorum.Rafthttp
