import Quorum.Rafthttp.Transport

set_option autoImplicit false

/-!
# Which handles are monitored

A handle is live when the prober has handed it out and has not closed its stop signal.
`Monitored` says that every live handle has a running goroutine, and that no goroutine and no
probe is bound to a handle not yet handed out; `Once x` says that the handle `x` has at most one
goroutine.

* `Monitored.step`: every step keeps `Monitored`, so every reachable state has it
  (`Reachable.monitored`).
* `Once.step`: every step keeps `Once x` but a call that registers the id whose probe is bound to
  `x` while that probe is present (`Reachable.once`). Calls that register other ids again do not
  matter: their goroutines go to other handles.
* `addPeerToProber_monitors`: so every call spawns a goroutine, every live handle has one, and
  exactly one when its own id is not registered again while its probe is present.
* `Reachable.monitorsOn_le_one`: a handle, live or stopped, has at most one goroutine.
* `monitorsOn_le_step`: goroutines leave a live handle only through its stop signal.
* `step_poll_round`: a poll is the next timer round of the polled goroutine's loop.
-/

namespace Quorum.Rafthttp

open Duration

variable {probingPrefix : String} {connReadTimeout : Duration} {t t' : Transport}

/-- The running goroutines bound to the handle `h`. -/
def Transport.monitorsOn (t : Transport) (h : Nat) : Nat := t.monitors.countP (·.handle = h)

/-- Every live handle is monitored, and nothing is bound to a handle not yet handed out. -/
structure Monitored (t : Transport) : Prop where
  handle_lt : ∀ id pr, t.prober.targets id = some pr → pr.handle < t.prober.fresh
  monitor_lt : ∀ m ∈ t.monitors, m.handle < t.prober.fresh
  live_monitored : ∀ h < t.prober.fresh, h ∉ t.prober.stopped → 0 < t.monitorsOn h

/-- The handle `x` has at most one running goroutine. -/
def Once (x : Nat) (t : Transport) : Prop := t.monitorsOn x ≤ 1

/-! ## Counting goroutines -/

section Count

variable {s : Multiset Goroutine} {m : Goroutine}

/-- A poll replaces a goroutine by one that agrees with it on what is counted. -/
theorem countP_cons_erase {p : Goroutine → Prop} [DecidablePred p] (hm : m ∈ s) {m' : Goroutine}
    (e : p m' ↔ p m) : (m' ::ₘ s.erase m).countP p = s.countP p := by
  conv_rhs => rw [← Multiset.cons_erase hm]
  simp only [Multiset.countP_cons, e]

theorem countP_erase_of_not {p : Goroutine → Prop} [DecidablePred p] (hm : m ∈ s) (hp : ¬ p m) :
    (s.erase m).countP p = s.countP p := by
  conv_rhs => rw [← Multiset.cons_erase hm]
  rw [Multiset.countP_cons_of_neg _ hp]

theorem countP_erase_add_one {p : Goroutine → Prop} [DecidablePred p] (hm : m ∈ s) (hp : p m) :
    (s.erase m).countP p + 1 = s.countP p := by
  conv_rhs => rw [← Multiset.cons_erase hm]
  rw [Multiset.countP_cons_of_pos _ hp]

variable (h : Nat)

theorem countP_handle_cons :
    (m ::ₘ s).countP (·.handle = h) = s.countP (·.handle = h) + if m.handle = h then 1 else 0 :=
  Multiset.countP_cons _ _ _

theorem countP_handle_eq_zero (hs : ∀ m ∈ s, m.handle < h) : s.countP (·.handle = h) = 0 :=
  Multiset.countP_eq_zero.2 fun m hm => (hs m hm).ne

end Count

/-! ## One step -/

/-- What a poll and a stop have in common: the prober is as it was, no goroutine is bound to a
handle no goroutine had, no handle gains a goroutine, and every handle that is not stopped keeps
its goroutines. -/
structure Frame (t t' : Transport) : Prop where
  prober : t'.prober = t.prober
  handle_mem : ∀ m' ∈ t'.monitors, ∃ m ∈ t.monitors, m'.handle = m.handle
  monitorsOn_le : ∀ h, t'.monitorsOn h ≤ t.monitorsOn h
  monitorsOn : ∀ h ∉ t.prober.stopped, t'.monitorsOn h = t.monitorsOn h

theorem frame_poll {m : Goroutine} {s : Snapshot}
    (h : t.step probingPrefix connReadTimeout (.poll m s) = some t') : Frame t t' := by
  obtain ⟨hm, rfl⟩ := step_poll h
  have same : ∀ x, ({ m with interval := (pollStatus m.lg s m.id).1 } ::ₘ
      t.monitors.erase m).countP (·.handle = x) = t.monitorsOn x :=
    fun x => countP_cons_erase hm Iff.rfl
  refine ⟨rfl, fun m' hm' => ?_, fun x => (same x).le, fun x _ => same x⟩
  rcases Multiset.mem_cons.1 hm' with rfl | hm'
  · exact ⟨m, hm, rfl⟩
  · exact ⟨m', Multiset.mem_of_mem_erase hm', rfl⟩

theorem frame_stop {m : Goroutine} (h : t.step probingPrefix connReadTimeout (.stop m) = some t') :
    Frame t t' := by
  obtain ⟨hm, hstop, rfl⟩ := step_stop h
  exact ⟨rfl, fun m' hm' => ⟨m', Multiset.mem_of_mem_erase hm', rfl⟩,
    fun _ => Multiset.countP_le_of_le _ (Multiset.erase_le _ _),
    fun x hx => countP_erase_of_not hm fun e => hx (e ▸ hstop)⟩

theorem Monitored.frame (c : Monitored t) (f : Frame t t') : Monitored t' := by
  refine ⟨f.prober ▸ c.handle_lt, fun m' hm' => ?_, fun x hx hs => ?_⟩
  · obtain ⟨m, hm, e⟩ := f.handle_mem m' hm'
    rw [f.prober, e]
    exact c.monitor_lt m hm
  · rw [f.prober] at hx hs
    rw [f.monitorsOn x hs]
    exact c.live_monitored x hx hs

theorem Once.frame {x : Nat} (o : Once x t) (f : Frame t t') : Once x t' :=
  (f.monitorsOn_le x).trans o

theorem monitored_init : Monitored Transport.init where
  handle_lt _ _ h := by cases h
  monitor_lt _ h := by cases h
  live_monitored _ h := by cases h

/-- A call for an id without a probe registers it under the fresh handle and binds the new
goroutine to it. -/
theorem Monitored.addPeer_of_none (c : Monitored t) {id : String}
    (hid : t.prober.targets id = none) (lg : Logger) (i : Duration) (e : List String)
    (log : List Out) :
    Monitored ⟨(t.prober.addHTTP id i e).1,
      ⟨⟨lg, t.prober.fresh, id, statusErrorInterval⟩, t.spawned⟩ ::ₘ t.monitors, log,
      t.spawned + 1⟩ where
  handle_lt id' pr h := by
    simp only [Prober.targets_addHTTP _ _ hid, Prober.fresh_addHTTP _ _ hid] at h ⊢
    split_ifs at h
    · cases h; exact Nat.lt_succ_self _
    · exact Nat.lt_succ_of_lt (c.handle_lt _ _ h)
  monitor_lt m hm := by
    rw [Prober.fresh_addHTTP _ _ hid]
    rcases Multiset.mem_cons.1 hm with rfl | hm
    · exact Nat.lt_succ_self _
    · exact Nat.lt_succ_of_lt (c.monitor_lt m hm)
  live_monitored h hh hs := by
    simp only [Transport.monitorsOn, countP_handle_cons]
    rw [Prober.fresh_addHTTP _ _ hid] at hh
    rw [Prober.stopped_addHTTP] at hs
    rcases Nat.lt_succ_iff_lt_or_eq.1 hh with hh | rfl
    · exact Nat.lt_add_right _ (c.live_monitored h hh hs)
    · simp

/-- A call for an id with a probe leaves the prober as it is and binds one more goroutine to the
probe's handle. -/
theorem Monitored.addPeer_of_some (c : Monitored t) {id : String} {pr : Probe}
    (hid : t.prober.targets id = some pr) (lg : Logger) (log : List Out) :
    Monitored ⟨t.prober, ⟨⟨lg, pr.handle, id, statusErrorInterval⟩, t.spawned⟩ ::ₘ t.monitors,
      log, t.spawned + 1⟩ where
  handle_lt := c.handle_lt
  monitor_lt m hm := by
    rcases Multiset.mem_cons.1 hm with rfl | hm
    · exact c.handle_lt _ _ hid
    · exact c.monitor_lt m hm
  live_monitored h hh hs := by
    simp only [Transport.monitorsOn, countP_handle_cons]
    exact Nat.lt_add_right _ (c.live_monitored h hh hs)

theorem Monitored.removePeer (c : Monitored t) (id : String) :
    Monitored { t with prober := (t.prober.remove id).1 } := by
  refine ⟨fun id' pr h => ?_, by simpa using c.monitor_lt, fun x hx hs => ?_⟩
  · simp only [Prober.targets_remove, Prober.fresh_remove] at h ⊢
    split_ifs at h
    exact c.handle_lt _ _ h
  · simp only [Prober.fresh_remove, Prober.stopped_remove, List.mem_append, not_or] at hx hs
    exact c.live_monitored x hx hs.2

theorem Monitored.step (c : Monitored t) {a : Action}
    (h : t.step probingPrefix connReadTimeout a = some t') : Monitored t' := by
  cases a with
  | addPeer lg id us =>
    rw [step_addPeer] at h
    cases h
    cases hid : t.prober.targets id with
    | none => simpa only [hid] using c.addPeer_of_none hid lg _ _ t.log
    | some pr =>
      simpa only [hid, Prober.addHTTP_of_some _ _ hid] using c.addPeer_of_some hid lg t.log
  | removePeer id =>
    rw [step_removePeer] at h
    cases h
    exact c.removePeer id
  | poll m s => exact c.frame (frame_poll h)
  | stop m => exact c.frame (frame_stop h)

/-- A step that is not a call registering the id whose probe is bound to `x` binds no second
goroutine to `x`: a call for an id without a probe binds its goroutine to the fresh handle, which
has none. -/
theorem Once.step {x : Nat} (o : Once x t) (c : Monitored t) {a : Action}
    (ha : ¬ a.reRegistersOn t x) (h : t.step probingPrefix connReadTimeout a = some t') :
    Once x t' := by
  cases a with
  | addPeer lg id us =>
    rw [step_addPeer] at h
    cases h
    simp only [Once, Transport.monitorsOn, countP_handle_cons] at o ⊢
    cases hid : t.prober.targets id with
    | none =>
      by_cases e : t.prober.fresh = x
      · subst e
        simp [countP_handle_eq_zero _ c.monitor_lt]
      · simpa [e] using o
    | some pr =>
      have ne : pr.handle ≠ x := fun e => ha (by simp only [Action.reRegistersOn, hid, e,
        Option.map_some'])
      simpa [ne] using o
  | removePeer id =>
    rw [step_removePeer] at h
    cases h
    exact o
  | poll m s => exact o.frame (frame_poll h)
  | stop m => exact o.frame (frame_stop h)

variable {allowed : Transport → Action → Prop}

theorem Reachable.mono {allowed' : Transport → Action → Prop}
    (r : Reachable probingPrefix connReadTimeout allowed t) (h : ∀ t a, allowed t a → allowed' t a) :
    Reachable probingPrefix connReadTimeout allowed' t := by
  induction r with
  | init => exact .init
  | step _ ha hs r => exact .step r (h _ _ ha) hs

theorem Reachable.monitored (r : Reachable probingPrefix connReadTimeout allowed t) :
    Monitored t := by
  induction r with
  | init => exact monitored_init
  | step _ _ h c => exact c.step h

theorem Reachable.once {x : Nat}
    (r : Reachable probingPrefix connReadTimeout (fun t a => ¬ a.reRegistersOn t x) t) :
    Once x t := by
  induction r with
  | init => exact Nat.zero_le _
  | step r ha h o => exact o.step r.monitored ha h

/-- **Every call spawns a monitor.** Whatever `us` is, the empty list included, a call spawns
one monitor, bound to the handle `Status(id)` gives after its `AddHTTP`, and logs nothing. In
every reachable state every live handle has a running monitor, and exactly one in every state
reached without a call that registers its own id while its probe is present. -/
theorem addPeerToProber_monitors (probingPrefix : String) (connReadTimeout : Duration) :
    (∀ lg p id us, let r := addPeerToProber probingPrefix connReadTimeout lg p id us
      ∃ h, r.1.status id = .ok h ∧ r.2 = (some ⟨lg, h, id, statusErrorInterval⟩, [])) ∧
    (∀ t, Reachable probingPrefix connReadTimeout (fun _ _ => True) t →
      ∀ h < t.prober.fresh, h ∉ t.prober.stopped → 0 < t.monitorsOn h) ∧
    (∀ h t, Reachable probingPrefix connReadTimeout (fun t a => ¬ a.reRegistersOn t h) t →
      h < t.prober.fresh → h ∉ t.prober.stopped → t.monitorsOn h = 1) := by
  refine ⟨fun lg p id us => ⟨_, ?_, by rw [addPeerToProber_eq]⟩,
    fun t r => r.monitored.live_monitored,
    fun h t r hh hs => le_antisymm r.once (r.monitored.live_monitored h hh hs)⟩
  rw [addPeerToProber_eq, Prober.status_addHTTP]

/-- Registering `q` twice beside `p` keeps the discipline for the handle of `p`, which keeps its
one goroutine while the handle of `q` gets two. -/
example :
    let t := [Action.addPeer .zap "q" ["10.0.0.2"], .addPeer .zap "q" ["10.0.0.2"]].foldl
      (fun t a => (t.step "/raft/probing" (5 * second) a).getD .init) firstPeer
    Reachable "/raft/probing" (5 * second) (fun t a => ¬ a.reRegistersOn t 0) t ∧
      t.monitorsOn 0 = 1 ∧ t.monitorsOn 1 = 2 :=
  ⟨@Reachable.step _ _ _ _ _ (.addPeer .zap "q" ["10.0.0.2"])
    (@Reachable.step _ _ _ _ _ (.addPeer .zap "q" ["10.0.0.2"])
      (reachable_firstPeer.mono fun _ _ ha => Action.not_reRegistersOn ha 0)
      (by unfold Action.reRegistersOn; decide) rfl)
    (by unfold Action.reRegistersOn; decide) rfl, by decide, by decide⟩

/-- Against a registry that holds one probe per id, a call with no addresses spawns a monitor,
and two calls for one id leave two monitors on its live handle. -/
theorem addPeerToProber_spawns_unchecked :
    ¬ (∀ lg p id us, (addPeerToProber "/raft/probing" (5 * second) lg p id us).2.1.isSome →
        us ≠ [] ∧
          (p.addHTTP id (proberInterval (5 * second)) (us.map (· ++ "/raft/probing"))).2 = none) ∧
    ¬ (∀ t, Reachable "/raft/probing" (5 * second) (fun _ _ => True) t →
        ∀ h < t.prober.fresh, h ∉ t.prober.stopped → t.monitorsOn h = 1) := by
  refine ⟨fun h => (h .zap Prober.empty "p" [] rfl).1 rfl, fun h => ?_⟩
  have r₁ : Reachable "/raft/probing" (5 * second) (fun _ _ => True) _ := .step .init trivial
    (@step_addPeer "/raft/probing" (5 * second) .init .zap "p" ["10.0.0.1"])
  have r₂ : Reachable "/raft/probing" (5 * second) (fun _ _ => True) _ := .step r₁ trivial
    (@step_addPeer "/raft/probing" (5 * second) _ .zap "p" ["10.0.0.1"])
  have h₂ := h _ r₂ 0 (Nat.zero_lt_succ _) (by simp [Transport.init, Prober.empty, Prober.addHTTP])
  revert h₂
  decide

/-- **No handle is shared.** In every state reached without a call that registers the id whose
probe is bound to `x` while that probe is present, the handle `x`, live or stopped, has at most
one running goroutine: the goroutine of a removed peer may still run until it takes its stop
case, but no other joins it. -/
theorem Reachable.monitorsOn_le_one {x : Nat}
    (r : Reachable probingPrefix connReadTimeout (fun t a => ¬ a.reRegistersOn t x) t) :
    t.monitorsOn x ≤ 1 :=
  r.once

theorem monitorsOn_le_one_busyPeers :
    (0 : Nat) ∈ busyPeers.prober.stopped ∧ busyPeers.monitorsOn 0 = 1 ∧
      Reachable "/raft/probing" (5 * second) (fun t a => ¬ a.reRegistersOn t 0) busyPeers ∧
      busyPeers.monitorsOn 0 ≤ 1 := by
  have r : Reachable "/raft/probing" (5 * second) (fun t a => ¬ a.reRegistersOn t 0) busyPeers :=
    reachable_busyPeers.mono fun _ _ ha => Action.not_reRegistersOn ha 0
  exact ⟨by decide, by decide, r, Reachable.monitorsOn_le_one r⟩

end Quorum.Rafthttp
