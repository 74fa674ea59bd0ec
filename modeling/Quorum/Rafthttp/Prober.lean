import Quorum.Time

set_option autoImplicit false

/-!
# The prober

The transport hands every peer to a `probing.Prober`, which keeps one probe per peer id and
reports on it through a status handle. The prober is vendored and not in the source; the model
is a registry with at most one probe per id (`targets` is a function of the id), which hands out
handles from a counter and closes a handle's stop signal when its probe is removed.

* `addHTTP` fails with `exist` and leaves the registry as it is when the id has a probe;
  otherwise it registers a probe under a fresh handle.
* `status` succeeds exactly when the id has a probe, so it always succeeds after `addHTTP`
  (`status_addHTTP`).
* `remove` closes the stop signal of the id's probe and deletes the probe.
-/

namespace Quorum.Rafthttp

/-- A probe: the status handle it reports through, its sampling interval, and its endpoints. -/
structure Probe where
  handle : Nat
  interval : Duration
  endpoints : List String
  deriving DecidableEq, Repr

/-- Why a prober call fails. -/
inductive ProbeError
  /-- `AddHTTP` of an id that has a probe. -/
  | exist
  /-- `Status` or `Remove` of an id that has none. -/
  | notFound
  deriving DecidableEq, Repr

/-- Modelled from the spec: the vendored `probing.Prober` is not in the source, and the model is
the registry the spec describes, with at most one probe per id. Handles are numbered from `0` and
`fresh` is the next one; `stopped` lists the handles whose stop signal has been closed. -/
structure Prober where
  targets : String → Option Probe
  fresh : Nat
  stopped : List Nat

namespace Prober

/-- The prober a transport starts with. -/
def empty : Prober := ⟨fun _ => none, 0, []⟩

/-- `AddHTTP(id, interval, endpoints)`. -/
def addHTTP (p : Prober) (id : String) (interval : Duration) (endpoints : List String) :
    Prober × Option ProbeError :=
  match p.targets id with
  | some _ => (p, some .exist)
  | none =>
    ({ p with
        targets := fun id' => if id' = id then some ⟨p.fresh, interval, endpoints⟩ else p.targets id'
        fresh := p.fresh + 1 }, none)

/-- `Status(id)`: the handle of the probe of `id`. -/
def status (p : Prober) (id : String) : Except ProbeError Nat :=
  match p.targets id with
  | some pr => .ok pr.handle
  | none => .error .notFound

/-- `Remove(id)`: closes the stop signal of the probe of `id` and deletes it. -/
def remove (p : Prober) (id : String) : Prober × Option ProbeError :=
  match p.targets id with
  | some pr =>
    ({ p with
        targets := fun id' => if id' = id then none else p.targets id'
        stopped := pr.handle :: p.stopped }, none)
  | none => (p, some .notFound)

variable {p : Prober} {id : String} {pr : Probe} (interval : Duration) (endpoints : List String)

theorem addHTTP_of_some (h : p.targets id = some pr) :
    p.addHTTP id interval endpoints = (p, some .exist) := by
  simp [addHTTP, h]

section Absent

variable (h : p.targets id = none)
include h

@[simp] theorem targets_addHTTP (id' : String) : (p.addHTTP id interval endpoints).1.targets id' =
    if id' = id then some ⟨p.fresh, interval, endpoints⟩ else p.targets id' := by
  simp [addHTTP, h]

@[simp] theorem fresh_addHTTP : (p.addHTTP id interval endpoints).1.fresh = p.fresh + 1 := by
  simp [addHTTP, h]

end Absent

/-- `AddHTTP` closes no stop signal. -/
@[simp] theorem stopped_addHTTP : (p.addHTTP id interval endpoints).1.stopped = p.stopped := by
  unfold addHTTP; split <;> rfl

/-- After `AddHTTP`, whether it failed or not, `Status` finds the probe of `id`: the one it had,
or the one just registered under the fresh handle. -/
theorem status_addHTTP (p : Prober) (id : String) :
    (p.addHTTP id interval endpoints).1.status id = .ok (((p.targets id).map Probe.handle).getD p.fresh) := by
  cases h : p.targets id with
  | some pr => simp [addHTTP_of_some _ _ h, status, h]
  | none => simp [status, targets_addHTTP _ _ h]

variable (p : Prober) (id : String)

@[simp] theorem targets_remove (id' : String) :
    (p.remove id).1.targets id' = if id' = id then none else p.targets id' := by
  unfold remove
  split
  · rfl
  · split_ifs with h' <;> simp_all

@[simp] theorem fresh_remove : (p.remove id).1.fresh = p.fresh := by
  unfold remove; split <;> rfl

/-- `Remove` stops the handle of the probe it deletes, if there is one. -/
theorem stopped_remove :
    (p.remove id).1.stopped = ((p.targets id).map Probe.handle).toList ++ p.stopped := by
  unfold remove; split <;> simp_all

end Prober

end Quorum.Rafthttp
