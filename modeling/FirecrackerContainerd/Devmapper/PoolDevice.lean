import FirecrackerContainerd.Devmapper.MetaStore

/-!
# The thin-pool controller

`PoolDevice` is the snapshotter's façade over the device-mapper `thin-pool` and `thin` targets.
Its Go code is not among the sources; the three calls the snapshotter makes are modelled from
the spec (§4.1, and the failure semantics of §4.2) at the level the snapshotter sees them. A
call either fails its checks and changes nothing — a name in use, a missing parent or device,
or a device held open that is removed without deferral (`Busy`) — or gets past them and ends
in `settle`: with its whole effect, or with a step failing mid-flight. The controller's own
rollback then undoes the partial work; when that rollback fails too, the device stays, marked
`Faulty`, and the error is surfaced. `PoolFaults` says what the host does to one call, so every
failure pattern of the host is a choice of arguments.

* `createThinDevice` — a fresh thin volume under a new name (`add`).
* `createSnapshotDevice` — a thin snapshot of an existing device, recording the parent's
  thin-device-id.
* `removeDevice` — the dm node and its thin id are released (`drop`), or the device is left
  `Faulty` (`markFaulty`).

`createThinDevice_eq_ok`, `createSnapshotDevice_eq_ok` and `removeDevice_eq_ok` say what a
successful call did, and the `_eq_error` lemmas what a failed one left.
-/

namespace FirecrackerContainerd.Devmapper

/-- A thin device: its dm name, the thin-device-id the pool assigned, the parent's
thin-device-id for a snapshot, its size in bytes, and whether an operation that failed on it
left it `Faulty`. -/
structure Device where
  name : String
  deviceID : Nat
  parentID : Option Nat
  size : Nat
  faulty : Bool
  deriving DecidableEq, Repr

/-- The pool: its thin devices and the counter for the next thin-device-id. -/
structure PoolDevice where
  devices : List Device
  nextDeviceID : Nat
  deriving DecidableEq, Repr

/-- What the host does to one pool call: whether a step of it fails mid-flight, whether the
controller's rollback of that step fails too, and whether the device it removes is held open. -/
structure PoolFaults where
  fail : Bool := false
  rollback : Bool := false
  held : Bool := false
  deriving DecidableEq, Repr

/-- Modelled from the spec: `dmsetup.GetFullDevicePath` (§4.1 `GetDevicePath`), whose code is not
among the sources: the node device-mapper creates for a device. -/
def getFullDevicePath (deviceName : String) : String := "/dev/mapper/" ++ deviceName

namespace PoolDevice

/-- A pool with no thin devices yet. -/
def empty : PoolDevice := ⟨[], 0⟩

/-- The names of the pool's devices. -/
def names (p : PoolDevice) : List String := p.devices.map Device.name

/-- The device named `name`, if any. -/
def find? (p : PoolDevice) (name : String) : Option Device := p.devices.find? (·.name == name)

/-- The pool with a new device `name` under the next thin-device-id, `Faulty` or not. -/
def add (p : PoolDevice) (name : String) (parentID : Option Nat) (size : Nat) (faulty : Bool) :
    PoolDevice :=
  ⟨⟨name, p.nextDeviceID, parentID, size, faulty⟩ :: p.devices, p.nextDeviceID + 1⟩

/-- The pool without the device `name`. -/
def drop (p : PoolDevice) (name : String) : PoolDevice :=
  { p with devices := p.devices.filter (·.name != name) }

/-- The pool with the device `name` marked `Faulty`. -/
def markFaulty (p : PoolDevice) (name : String) : PoolDevice :=
  { p with devices := p.devices.map fun d => if d.name = name then { d with faulty := true } else d }

/-- How a call that got past its checks ends: with its effect `done`, or with the error of the
step `op` that failed, and the pool as it was (the controller's rollback undid the partial
work) or, when that rollback failed too, `faulty`. -/
def settle (pf : PoolFaults) (op : String) (p done faulty : PoolDevice) :
    Except (Error × PoolDevice) PoolDevice :=
  if pf.fail then .error (.host op, if pf.rollback then faulty else p) else .ok done

/-- Modelled from the spec: `PoolDevice.CreateThinDevice` (§4.1), whose code is not among the
sources. A new name gets the next thin-device-id. -/
def createThinDevice (pf : PoolFaults) (deviceName : String) (size : Nat) (p : PoolDevice) :
    Except (Error × PoolDevice) PoolDevice :=
  if deviceName ∈ p.names then .error (.alreadyExists s!"device {deviceName}", p)
  else settle pf "create_thin" p (p.add deviceName none size false) (p.add deviceName none size true)

/-- Modelled from the spec: `PoolDevice.CreateSnapshotDevice` (§4.1), whose code is not among
the sources. The parent must exist; the snapshot records the parent's thin-device-id. -/
def createSnapshotDevice (pf : PoolFaults) (deviceName snapshotName : String) (size : Nat)
    (p : PoolDevice) : Except (Error × PoolDevice) PoolDevice :=
  match p.find? deviceName with
  | none => .error (.notFound s!"device {deviceName}", p)
  | some parent =>
    if snapshotName ∈ p.names then .error (.alreadyExists s!"device {snapshotName}", p)
    else settle pf "create_snap" p (p.add snapshotName (some parent.deviceID) size false)
      (p.add snapshotName (some parent.deviceID) size true)

/-- Modelled from the spec: `PoolDevice.RemoveDevice` (§4.1), whose code is not among the
sources. Suspend, remove the node and delete the thin id; a device held open fails with `Busy`
unless the removal is deferred, which lets the open descriptors drain. -/
def removeDevice (pf : PoolFaults) (deviceName : String) (deferred : Bool) (p : PoolDevice) :
    Except (Error × PoolDevice) PoolDevice :=
  if deviceName ∉ p.names then .error (.notFound s!"device {deviceName}", p)
  else if pf.held && !deferred then .error (.busy s!"device {deviceName} is busy", p)
  else settle pf "remove" p (p.drop deviceName) (p.markFaulty deviceName)

/-! ## What each call does to the devices -/

theorem find?_mem {p : PoolDevice} {name : String} {d : Device} (h : p.find? name = some d) :
    d ∈ p.devices ∧ d.name = name :=
  ⟨List.mem_of_find?_eq_some h, by simpa using List.find?_some h⟩

section Settle

variable {pf : PoolFaults} {op : String} {p done faulty p' : PoolDevice} {e : Error}

theorem settle_eq_ok (h : settle pf op p done faulty = .ok p') : pf.fail = false ∧ p' = done := by
  unfold settle at h
  split at h
  · cases h
  · cases h; exact ⟨by simpa using ‹¬pf.fail = true›, rfl⟩

theorem settle_eq_error (h : settle pf op p done faulty = .error (e, p')) :
    p' = p ∨ pf.fail = true ∧ pf.rollback = true ∧ p' = faulty := by
  unfold settle at h
  split at h
  · cases h; split
    · exact .inr ⟨‹_›, ‹_›, rfl⟩
    · exact .inl rfl
  · cases h

end Settle

section Calls

variable {pf : PoolFaults} {name parent : String} {size : Nat} {deferred : Bool}
  {p p' : PoolDevice} {e : Error}

theorem createThinDevice_eq_ok (h : createThinDevice pf name size p = .ok p') :
    name ∉ p.names ∧ pf.fail = false ∧ p' = p.add name none size false := by
  unfold createThinDevice at h
  split at h
  · cases h
  · exact ⟨‹_›, settle_eq_ok h⟩

theorem createThinDevice_eq_error (h : createThinDevice pf name size p = .error (e, p')) :
    p' = p ∨ name ∉ p.names ∧ pf.fail = true ∧ pf.rollback = true ∧
      p' = p.add name none size true := by
  unfold createThinDevice at h
  split at h
  · cases h; exact .inl rfl
  · exact (settle_eq_error h).imp_right fun h' => ⟨‹_›, h'⟩

theorem createSnapshotDevice_eq_ok (h : createSnapshotDevice pf parent name size p = .ok p') :
    ∃ d, p.find? parent = some d ∧ name ∉ p.names ∧ pf.fail = false ∧
      p' = p.add name (some d.deviceID) size false := by
  unfold createSnapshotDevice at h
  split at h
  · cases h
  · rename_i d hd
    split at h
    · cases h
    · exact ⟨d, hd, ‹_›, settle_eq_ok h⟩

theorem createSnapshotDevice_eq_error
    (h : createSnapshotDevice pf parent name size p = .error (e, p')) :
    p' = p ∨ ∃ d, p.find? parent = some d ∧ name ∉ p.names ∧ pf.fail = true ∧
      pf.rollback = true ∧ p' = p.add name (some d.deviceID) size true := by
  unfold createSnapshotDevice at h
  split at h
  · cases h; exact .inl rfl
  · rename_i d hd
    split at h
    · cases h; exact .inl rfl
    · exact (settle_eq_error h).imp_right fun h' => ⟨d, hd, ‹_›, h'⟩

theorem removeDevice_eq_ok (h : removeDevice pf name deferred p = .ok p') :
    name ∈ p.names ∧ (pf.held = true → deferred = true) ∧ pf.fail = false ∧
      p' = p.drop name := by
  unfold removeDevice at h
  split at h
  · cases h
  · split at h
    · cases h
    · refine ⟨by simpa using ‹¬name ∉ p.names›, fun hh => ?_, settle_eq_ok h⟩
      simpa [hh] using ‹¬(pf.held && !deferred) = true›

theorem removeDevice_eq_error (h : removeDevice pf name deferred p = .error (e, p')) :
    p' = p ∨ name ∈ p.names ∧ pf.fail = true ∧ pf.rollback = true ∧ p' = p.markFaulty name := by
  unfold removeDevice at h
  split at h
  · cases h; exact .inl rfl
  · split at h
    · cases h; exact .inl rfl
    · exact (settle_eq_error h).imp_right fun h' => ⟨by simpa using ‹¬name ∉ p.names›, h'⟩

end Calls

/-- Without a holder, deferral changes nothing. -/
theorem removeDevice_of_not_held {pf : PoolFaults} (h : pf.held = false) (p : PoolDevice)
    (name : String) (deferred : Bool) :
    p.removeDevice pf name deferred = p.removeDevice pf name true := by
  simp [removeDevice, h]

/-- A deferred removal does not depend on whether the device is held. -/
theorem removeDevice_deferred (pf : PoolFaults) (p : PoolDevice) (name : String) :
    p.removeDevice pf name true = p.removeDevice { pf with held := false } name true := by
  simp only [removeDevice, Bool.not_true, Bool.and_false]
  rfl

/-- A held device removed without deferral: the call fails and leaves the pool as it was. -/
theorem removeDevice_of_held {pf : PoolFaults} (h : pf.held = true) (p : PoolDevice)
    (name : String) : ∃ e, p.removeDevice pf name false = .error (e, p) := by
  unfold removeDevice
  split
  · exact ⟨_, rfl⟩
  · simp [h]

/-! ## Names and devices after each change -/

@[simp] theorem names_cons (d : Device) (ds : List Device) (n : Nat) :
    names ⟨d :: ds, n⟩ = d.name :: names ⟨ds, n⟩ := rfl

@[simp] theorem add_devices (p : PoolDevice) (name : String) (parentID : Option Nat) (size : Nat)
    (faulty : Bool) :
    (p.add name parentID size faulty).devices =
      ⟨name, p.nextDeviceID, parentID, size, faulty⟩ :: p.devices := rfl

@[simp] theorem names_add (p : PoolDevice) (name : String) (parentID : Option Nat) (size : Nat)
    (faulty : Bool) : (p.add name parentID size faulty).names = name :: p.names := rfl

theorem mem_names_drop {p : PoolDevice} {name n : String} :
    n ∈ (p.drop name).names ↔ n ∈ p.names ∧ n ≠ name := by
  simp only [drop, names, List.mem_map, List.mem_filter, bne_iff_ne, ne_eq]
  constructor
  · rintro ⟨d, ⟨hd, hne⟩, rfl⟩; exact ⟨⟨d, hd, rfl⟩, hne⟩
  · rintro ⟨⟨d, hd, rfl⟩, hne⟩; exact ⟨d, ⟨hd, hne⟩, rfl⟩

@[simp] theorem names_markFaulty (p : PoolDevice) (name : String) :
    (p.markFaulty name).names = p.names := by
  simp only [markFaulty, names, List.map_map]
  congr 1; funext d; simp only [Function.comp]; split <;> rfl

theorem mem_markFaulty {p : PoolDevice} {name : String} {d' : Device} :
    d' ∈ (p.markFaulty name).devices ↔
      ∃ d ∈ p.devices, d' = if d.name = name then { d with faulty := true } else d := by
  simp only [markFaulty, List.mem_map]
  exact ⟨fun ⟨d, hd, he⟩ => ⟨d, hd, he.symm⟩, fun ⟨d, hd, he⟩ => ⟨d, hd, he.symm⟩⟩

/-- Marking a device `Faulty` keeps every device with its name, thin-device-id and parent. -/
theorem markFaulty_keeps {p : PoolDevice} {name : String} {d : Device} (hd : d ∈ p.devices) :
    ∃ d' ∈ (p.markFaulty name).devices,
      d'.name = d.name ∧ d'.deviceID = d.deviceID ∧ d'.parentID = d.parentID :=
  ⟨_, mem_markFaulty.2 ⟨d, hd, rfl⟩, by split <;> exact ⟨rfl, rfl, rfl⟩⟩

/-- A device that is not `Faulty` after marking one was in the pool before. -/
theorem mem_of_mem_markFaulty {p : PoolDevice} {name : String} {d' : Device}
    (hd' : d' ∈ (p.markFaulty name).devices) (hf : d'.faulty = false) : d' ∈ p.devices := by
  obtain ⟨d, hd, rfl⟩ := mem_markFaulty.1 hd'
  by_cases hn : d.name = name
  · simp [hn] at hf
  · simpa [hn] using hd

/-! ## Pools without `Faulty` devices -/

/-- No device of the pool is `Faulty`. -/
def NoFaulty (p : PoolDevice) : Prop := ∀ d ∈ p.devices, d.faulty = false

theorem NoFaulty.add {p : PoolDevice} (h : p.NoFaulty) (name : String) (parentID : Option Nat)
    (size : Nat) : (p.add name parentID size false).NoFaulty := by
  simp only [NoFaulty, add_devices, List.mem_cons, forall_eq_or_imp]
  exact ⟨trivial, h⟩

theorem NoFaulty.drop {p : PoolDevice} (h : p.NoFaulty) (name : String) : (p.drop name).NoFaulty :=
  fun d hd => h d (List.mem_filter.1 hd).1

end PoolDevice

end FirecrackerContainerd.Devmapper
