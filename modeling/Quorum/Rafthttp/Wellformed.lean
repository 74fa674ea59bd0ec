import Quorum.Rafthttp.Reachable

set_option autoImplicit false

/-!
# What registration leaves behind

Beyond which handles are monitored (`Monitored`), every reachable state keeps the shape of the
calls that built it (`Wellformed`):

* no two ids share a handle, and a goroutine bound to the handle of a registered id is tagged
  with that id (`Reachable.monitor_tagged`), so all it writes names that peer;
* every live handle is the handle of a registered id, so a registered id has exactly one
  goroutine on a live handle when its id is not registered again while its probe is present, and
  any other id has none (`Reachable.live_monitors_of_id`);
* every goroutine waits `statusErrorInterval` or `statusMonitoringInterval`
  (`Reachable.monitor_interval`);
* the log holds only what polls write, so the warning for a failed registration never appears
  (`Reachable.log_events`);
* every goroutine is numbered below the count of goroutines started.
-/

namespace Quorum.Rafthttp

open Duration

variable (probingPrefix : String) (connReadTimeout : Duration)

/-- The shape every reachable state keeps. -/
structure Wellformed (t : Transport) : Prop where
  handle_inj : ∀ id id' pr pr', t.prober.targets id = some pr → t.prober.targets id' = some pr' →
    pr.handle = pr'.handle → id = id'
  stopped_lt : ∀ h ∈ t.prober.stopped, h < t.prober.fresh
  live : ∀ id pr, t.prober.targets id = some pr → pr.handle ∉ t.prober.stopped
  registered : ∀ h < t.prober.fresh, h ∉ t.prober.stopped →
    ∃ id pr, t.prober.targets id = some pr ∧ pr.handle = h
  tagged : ∀ m ∈ t.monitors, ∀ id pr, t.prober.targets id = some pr → m.handle = pr.handle →
    m.id = id
  interval : ∀ m ∈ t.monitors,
    m.interval = statusErrorInterval ∨ m.interval = statusMonitoringInterval
  log : ∀ o ∈ t.log, o.event = some .unhealthy ∨ o.event = some .clockDrift ∨ o.event = some .rtt
  serial_lt : ∀ m ∈ t.monitors, m.serial < t.spawned

variable {probingPrefix connReadTimeout} {t t' : Transport}

theorem wellformed_init : Wellformed Transport.init where
  handle_inj _ _ _ _ h := by cases h
  stopped_lt _ h := by cases h
  live _ _ h := by cases h
  registered _ h := (Nat.not_lt_zero _ h).elim
  tagged _ h := by cases h
  interval _ h := by cases h
  log _ h := by cases h
  serial_lt _ h := by cases h

/-- A call for an id without a probe registers a probe under a handle no other id and no
goroutine has, and numbers its goroutine by the count of those started before. -/
theorem Wellformed.addPeer_of_none (w : Wellformed t) (c : Monitored t) {id : String}
    (hid : t.prober.targets id = none) (lg : Logger) (i : Duration) (e : List String) :
    Wellformed ⟨(t.prober.addHTTP id i e).1,
      ⟨⟨lg, t.prober.fresh, id, statusErrorInterval⟩, t.spawned⟩ ::ₘ t.monitors, t.log,
      t.spawned + 1⟩ where
  handle_inj id₁ id₂ pr₁ pr₂ h₁ h₂ e := by
    simp only [Prober.targets_addHTTP _ _ hid] at h₁ h₂
    split_ifs at h₁ h₂ with e₁ e₂ e₂
    · rw [e₁, e₂]
    · cases h₁; exact absurd e (c.handle_lt _ _ h₂).ne'
    · cases h₂; exact absurd e (c.handle_lt _ _ h₁).ne
    · exact w.handle_inj _ _ _ _ h₁ h₂ e
  stopped_lt x hx := by
    rw [Prober.stopped_addHTTP] at hx
    rw [Prober.fresh_addHTTP _ _ hid]
    exact Nat.lt_succ_of_lt (w.stopped_lt x hx)
  live id' pr h := by
    simp only [Prober.targets_addHTTP _ _ hid, Prober.stopped_addHTTP] at h ⊢
    split_ifs at h
    · cases h; exact fun hs => Nat.lt_irrefl _ (w.stopped_lt _ hs)
    · exact w.live _ _ h
  registered x hx hs := by
    rw [Prober.fresh_addHTTP _ _ hid] at hx
    rw [Prober.stopped_addHTTP] at hs
    rcases Nat.lt_succ_iff_lt_or_eq.1 hx with hx | rfl
    · obtain ⟨id', pr, h, e⟩ := w.registered x hx hs
      have ne : id' ≠ id := by rintro rfl; rw [hid] at h; cases h
      exact ⟨id', pr, by rw [Prober.targets_addHTTP _ _ hid, if_neg ne, h], e⟩
    · exact ⟨id, _, by rw [Prober.targets_addHTTP _ _ hid, if_pos rfl], rfl⟩
  tagged m hm id' pr h e := by
    simp only [Prober.targets_addHTTP _ _ hid] at h
    rcases Multiset.mem_cons.1 hm with rfl | hm <;> split_ifs at h with e'
    · exact e'.symm
    · exact absurd e (c.handle_lt _ _ h).ne'
    · cases h; exact absurd e (c.monitor_lt m hm).ne
    · exact w.tagged m hm _ _ h e
  interval m hm := by
    rcases Multiset.mem_cons.1 hm with rfl | hm
    · exact .inl rfl
    · exact w.interval m hm
  log := w.log
  serial_lt m hm := by
    rcases Multiset.mem_cons.1 hm with rfl | hm
    · exact Nat.lt_succ_self _
    · exact Nat.lt_succ_of_lt (w.serial_lt m hm)

/-- A call for an id with a probe binds one more goroutine, tagged with the id, to its handle. -/
theorem Wellformed.addPeer_of_some (w : Wellformed t) {id : String} {pr : Probe}
    (hid : t.prober.targets id = some pr) (lg : Logger) :
    Wellformed ⟨t.prober, ⟨⟨lg, pr.handle, id, statusErrorInterval⟩, t.spawned⟩ ::ₘ t.monitors,
      t.log, t.spawned + 1⟩ where
  handle_inj := w.handle_inj
  stopped_lt := w.stopped_lt
  live := w.live
  registered := w.registered
  tagged m hm id' pr' h e := by
    rcases Multiset.mem_cons.1 hm with rfl | hm
    · exact w.handle_inj _ _ _ _ hid h e
    · exact w.tagged m hm _ _ h e
  interval m hm := by
    rcases Multiset.mem_cons.1 hm with rfl | hm
    · exact .inl rfl
    · exact w.interval m hm
  log := w.log
  serial_lt m hm := by
    rcases Multiset.mem_cons.1 hm with rfl | hm
    · exact Nat.lt_succ_self _
    · exact Nat.lt_succ_of_lt (w.serial_lt m hm)

/-- Removing a peer stops the handle of its probe, which no other id has. -/
theorem Wellformed.removePeer (w : Wellformed t) (c : Monitored t) (id : String) :
    Wellformed { t with prober := (t.prober.remove id).1 } := by
  have shrink : ∀ id' pr, (t.prober.remove id).1.targets id' = some pr →
      id' ≠ id ∧ t.prober.targets id' = some pr := fun id' pr h => by
    rw [Prober.targets_remove] at h
    split_ifs at h with e
    exact ⟨e, h⟩
  refine ⟨fun _ _ _ _ h₁ h₂ => w.handle_inj _ _ _ _ (shrink _ _ h₁).2 (shrink _ _ h₂).2,
    fun x hx => ?_, fun id' pr h => ?_, fun x hx hs => ?_,
    fun m hm _ _ h => w.tagged m hm _ _ (shrink _ _ h).2, w.interval, w.log, w.serial_lt⟩
  · simp only [Prober.stopped_remove, Prober.fresh_remove, List.mem_append, Option.mem_toList,
      Option.mem_def, Option.map_eq_some'] at hx ⊢
    rcases hx with ⟨pr, h, rfl⟩ | hx
    · exact c.handle_lt _ _ h
    · exact w.stopped_lt x hx
  · obtain ⟨e, h⟩ := shrink _ _ h
    simp only [Prober.stopped_remove, List.mem_append, Option.mem_toList, Option.mem_def,
      Option.map_eq_some', not_or, not_exists, not_and]
    exact ⟨fun pr' h' e' => e (w.handle_inj _ _ _ _ h h' e'.symm), w.live _ _ h⟩
  · simp only [Prober.fresh_remove, Prober.stopped_remove, List.mem_append, Option.mem_toList,
      Option.mem_def, Option.map_eq_some', not_or, not_exists, not_and] at hx hs
    obtain ⟨id', pr, h, e⟩ := w.registered x hx hs.2
    have ne : id' ≠ id := by rintro rfl; exact hs.1 pr h e
    exact ⟨id', pr, by rw [Prober.targets_remove, if_neg ne, h], e⟩

theorem Wellformed.step (w : Wellformed t) (c : Monitored t) {a : Action}
    (h : t.step probingPrefix connReadTimeout a = some t') : Wellformed t' := by
  cases a with
  | addPeer lg id us =>
    rw [step_addPeer] at h
    cases h
    cases hid : t.prober.targets id with
    | none => simpa only [hid] using w.addPeer_of_none c hid lg _ _
    | some pr => simpa only [hid, Prober.addHTTP_of_some _ _ hid] using w.addPeer_of_some hid lg
  | removePeer id =>
    rw [step_removePeer] at h
    cases h
    exact w.removePeer c id
  | poll m s =>
    obtain ⟨hm, rfl⟩ := step_poll h
    refine ⟨w.handle_inj, w.stopped_lt, w.live, w.registered, fun m' hm' => ?_,
      fun m' hm' => ?_, fun o ho => ?_, fun m' hm' => ?_⟩
    · rcases Multiset.mem_cons.1 hm' with rfl | hm'
      · exact w.tagged m hm
      · exact w.tagged m' (Multiset.mem_of_mem_erase hm')
    · rcases Multiset.mem_cons.1 hm' with rfl | hm'
      · rw [pollStatus_interval]; split_ifs <;> simp
      · exact w.interval m' (Multiset.mem_of_mem_erase hm')
    · rcases List.mem_append.1 ho with ho | ho
      · exact w.log o ho
      · exact event_pollStatus _ _ _ o ho
    · rcases Multiset.mem_cons.1 hm' with rfl | hm'
      · exact w.serial_lt m hm
      · exact w.serial_lt m' (Multiset.mem_of_mem_erase hm')
  | stop m =>
    obtain ⟨-, -, rfl⟩ := step_stop h
    exact ⟨w.handle_inj, w.stopped_lt, w.live, w.registered,
      fun m' hm' => w.tagged m' (Multiset.mem_of_mem_erase hm'),
      fun m' hm' => w.interval m' (Multiset.mem_of_mem_erase hm'), w.log,
      fun m' hm' => w.serial_lt m' (Multiset.mem_of_mem_erase hm')⟩

/-! ## Every run -/

variable {allowed : Transport → Action → Prop}

theorem Reachable.wellformed (r : Reachable probingPrefix connReadTimeout allowed t) :
    Wellformed t := by
  induction r with
  | init => exact wellformed_init
  | step r _ h w => exact w.step r.monitored h

/-- In every reachable state, a running goroutine bound to the handle of a registered peer is
tagged with that peer's id, so everything each of its polls writes names that peer. -/
theorem Reachable.monitor_tagged (r : Reachable probingPrefix connReadTimeout allowed t)
    {m : Goroutine} (hm : m ∈ t.monitors) {id : String} {pr : Probe}
    (h : t.prober.targets id = some pr) (e : m.handle = pr.handle) :
    m.id = id ∧ ∀ s, ∀ o ∈ (pollStatus m.lg s m.id).2, o.peer = some id := by
  obtain rfl := r.wellformed.tagged m hm id pr h e
  exact ⟨rfl, fun s => peer_pollStatus m.lg s m.id⟩

theorem monitor_tagged_firstPeer :
    let m : Goroutine := ⟨⟨.zap, 0, "p", statusErrorInterval⟩, 0⟩
    m ∈ firstPeer.monitors ∧ firstPeer.prober.targets "p" =
      some ⟨0, proberInterval (5 * second), ["10.0.0.1/raft/probing"]⟩ ∧
      m.id = "p" ∧ ∀ s, ∀ o ∈ (pollStatus m.lg s m.id).2, o.peer = some "p" := by
  intro m
  have hm : m ∈ firstPeer.monitors := Multiset.mem_cons_self m 0
  have h : firstPeer.prober.targets "p" =
      some ⟨0, proberInterval (5 * second), ["10.0.0.1/raft/probing"]⟩ := rfl
  exact ⟨hm, h, Reachable.monitor_tagged reachable_firstPeer hm h rfl⟩

/-- **One goroutine per registered peer.** Let `x` be the handle of the probe of `id`, if it has
one. In every state reached without a call that registers, while it is present, the id whose
probe is bound to `x`, the id has exactly one running goroutine tagged with it on a handle whose
stop signal is open if the id is registered, and none if it is not. Calls that register other
ids again do not matter, and goroutines left on the stopped handle of an earlier registration of
the id are not counted: they may still poll until they take their stop case. -/
theorem Reachable.live_monitors_of_id {x : Nat}
    (r : Reachable probingPrefix connReadTimeout (fun t a => ¬ a.reRegistersOn t x) t)
    (id : String) (hx : ∀ pr, t.prober.targets id = some pr → pr.handle = x) :
    t.monitors.countP (fun m => m.id = id ∧ m.handle ∉ t.prober.stopped) =
      if (t.prober.targets id).isSome then 1 else 0 := by
  have w := r.wellformed
  have c := r.monitored
  -- a goroutine on a live handle is tagged with the id that handle is registered under
  have owner : ∀ m ∈ t.monitors, m.handle ∉ t.prober.stopped →
      ∃ pr, t.prober.targets m.id = some pr ∧ pr.handle = m.handle := fun m hm hs => by
    obtain ⟨id', pr, h, e⟩ := w.registered _ (c.monitor_lt m hm) hs
    obtain rfl := w.tagged m hm id' pr h e.symm
    exact ⟨pr, h, e⟩
  cases hid : t.prober.targets id with
  | none =>
    refine Multiset.countP_eq_zero.2 fun m hm ⟨e, hs⟩ => ?_
    obtain ⟨pr, h, -⟩ := owner m hm hs
    rw [e, hid] at h
    cases h
  | some pr =>
    have live := w.live id pr hid
    have lt := c.handle_lt id pr hid
    obtain rfl := hx pr hid
    calc t.monitors.countP (fun m => m.id = id ∧ m.handle ∉ t.prober.stopped)
      _ = t.monitorsOn pr.handle := Multiset.countP_congr rfl fun m hm => propext
          ⟨fun ⟨e, hs⟩ => by
            obtain ⟨pr', h, e'⟩ := owner m hm hs
            rw [e, hid] at h
            cases h
            exact e'.symm,
          fun e => ⟨w.tagged m hm id pr hid e, e ▸ live⟩⟩
      _ = 1 := le_antisymm r.once (c.live_monitored _ lt live)

theorem live_monitors_of_id_busyPeers :
    Reachable "/raft/probing" (5 * second) (fun t a => ¬ a.reRegistersOn t 2) busyPeers ∧
      (∀ pr, busyPeers.prober.targets "p" = some pr → pr.handle = 2) ∧
      busyPeers.monitors.countP (fun m => m.id = "p" ∧ m.handle ∉ busyPeers.prober.stopped) =
        if (busyPeers.prober.targets "p").isSome then 1 else 0 := by
  have r : Reachable "/raft/probing" (5 * second) (fun t a => ¬ a.reRegistersOn t 2) busyPeers :=
    reachable_busyPeers.mono fun _ _ ha => Action.not_reRegistersOn ha 2
  have hx : ∀ pr, busyPeers.prober.targets "p" = some pr → pr.handle = 2 := by
    rintro _ ⟨⟩
    rfl
  exact ⟨r, hx, Reachable.live_monitors_of_id r "p" hx⟩

/-- In every reachable state every running goroutine waits `statusErrorInterval` or
`statusMonitoringInterval`. -/
theorem Reachable.monitor_interval (r : Reachable probingPrefix connReadTimeout allowed t)
    {m : Goroutine} (hm : m ∈ t.monitors) :
    m.interval = statusErrorInterval ∨ m.interval = statusMonitoringInterval :=
  r.wellformed.interval m hm

theorem monitor_interval_busyPeers :
    let m : Goroutine := ⟨⟨.zap, 0, "p", statusMonitoringInterval⟩, 0⟩
    m ∈ busyPeers.monitors ∧
      (m.interval = statusErrorInterval ∨ m.interval = statusMonitoringInterval) := by
  intro m
  have hm : m ∈ busyPeers.monitors := by decide
  exact ⟨hm, Reachable.monitor_interval reachable_busyPeers hm⟩

/-- In every reachable state the log holds only unhealthy-status and clock-drift warnings and
round-trip times: no run logs a failed registration. -/
theorem Reachable.log_events (r : Reachable probingPrefix connReadTimeout allowed t)
    {o : Out} (ho : o ∈ t.log) :
    o.event = some .unhealthy ∨ o.event = some .clockDrift ∨ o.event = some .rtt :=
  r.wellformed.log o ho

/-- The state after the goroutine of `p` polls once and reads an unhealthy status. -/
def firstPoll : Transport :=
  (firstPeer.step "/raft/probing" (5 * second)
    (.poll ⟨⟨.zap, 0, "p", statusErrorInterval⟩, 0⟩ ⟨false, 0, some "dial timeout", 0⟩)).getD .init

theorem log_events_firstPoll :
    let o := Out.observe "p" 0
    o ∈ firstPoll.log ∧
      (o.event = some .unhealthy ∨ o.event = some .clockDrift ∨ o.event = some .rtt) := by
  intro o
  have r : Reachable "/raft/probing" (5 * second) (fun t a => ¬ a.reRegisters t) firstPoll :=
    @Reachable.step _ _ _ _ _
      (.poll ⟨⟨.zap, 0, "p", statusErrorInterval⟩, 0⟩ ⟨false, 0, some "dial timeout", 0⟩)
      reachable_firstPeer id rfl
  have ho : o ∈ firstPoll.log := by decide
  exact ⟨ho, Reachable.log_events r ho⟩

end Quorum.Rafthttp
