import FirecrackerContainerd.Strconv
import FirecrackerContainerd.Runtime.Vsock

/-!
# The VM configuration `startVM` builds

After a CID is allocated, `startVM` builds the `firecracker.Config` it passes to `NewMachine`:
the shim's settings, one vsock device bound to the CID, 256 MiB of memory, and the drives —
drive `"1"` is the configured root drive, then one drive `strconv.Itoa(i + 2)` for each mount
`i` of the request's rootfs, whose type must be ext4 (`attachDrives`).

* `attachDrives_eq_ok` — the loop accepts exactly the lists of ext4 mounts, and appends their
  drives in order.
* `vmConfig_drives` — the configuration: drives `"1"`, `"2"`, …, `"n+1"`, pairwise distinct, the
  first the root drive and the only root device, drive `i + 2` backed by mount `i`.
-/

namespace FirecrackerContainerd.Runtime

/-- A mount of the request's rootfs (containerd's `types.Mount`). -/
structure Mount where
  type : String
  source : String
  deriving DecidableEq, Repr

/-- `models.Drive`. -/
structure Drive where
  driveID : String
  pathOnHost : String
  isRootDevice : Bool
  isReadOnly : Bool
  deriving DecidableEq, Repr

/-- `firecracker.VsockDevice`. -/
structure VsockDevice where
  path : String
  cid : UInt32
  deriving DecidableEq, Repr

/-- `models.MachineConfiguration`. -/
structure MachineConfiguration where
  vcpuCount : Int
  cpuTemplate : String
  memSizeMib : Int
  deriving DecidableEq, Repr

/-- `firecracker.Config`, the fields `startVM` sets. -/
structure MachineConfig where
  socketPath : String
  vsockDevices : List VsockDevice
  kernelImagePath : String
  kernelArgs : String
  machineCfg : MachineConfiguration
  logFifo : String
  logLevel : String
  metricsFifo : String
  debug : Bool
  drives : List Drive
  deriving DecidableEq, Repr

/-- The shim's `Config`, the fields `startVM` reads. -/
structure Config where
  socketPath : String
  kernelImagePath : String
  kernelArgs : String
  cpuCount : Nat
  cpuTemplate : String
  logFifo : String
  logLevel : String
  metricsFifo : String
  debug : Bool
  rootDrive : String
  firecrackerBinaryPath : String
  deriving DecidableEq, Repr

/-- The only filesystem type a rootfs mount may have. -/
def supportedMountFSType : String := "ext4"

/-- The loop over `request.Rootfs`: mount `i` becomes drive `strconv.Itoa(i + 2)`, and a mount
that is not ext4 stops the loop with an error. -/
def attachDrives (drives : List Drive) : Nat → List Mount → Except Error (List Drive)
  | _, [] => .ok drives
  | i, mnt :: rest =>
    if mnt.type ≠ supportedMountFSType then
      .error (.new s!"unsupported mount type '{mnt.type}', expected '{supportedMountFSType}'")
    else attachDrives (drives ++ [⟨toString (i + 2), mnt.source, false, false⟩]) (i + 1) rest

/-- The root drive: `strconv.Itoa(1)`, backed by the configured root drive image. -/
def rootDrive (config : Config) : Drive := ⟨toString 1, config.rootDrive, true, false⟩

/-- The configuration `startVM` fills in before adding drives. -/
def baseConfig (config : Config) (cid : UInt32) : MachineConfig :=
  { socketPath := config.socketPath
    vsockDevices := [⟨"root", cid⟩]
    kernelImagePath := config.kernelImagePath
    kernelArgs := config.kernelArgs
    machineCfg := ⟨config.cpuCount, config.cpuTemplate, 256⟩
    logFifo := config.logFifo
    logLevel := config.logLevel
    metricsFifo := config.metricsFifo
    debug := config.debug
    drives := [] }

/-- The configuration `startVM` passes to `NewMachine` for CID `cid` and the request's rootfs,
or the error of the drive loop. -/
def vmConfig (config : Config) (cid : UInt32) (rootfs : List Mount) : Except Error MachineConfig :=
  let cfg := baseConfig config cid
  let cfg := { cfg with drives := cfg.drives ++ [rootDrive config] }
  (attachDrives cfg.drives 0 rootfs).map fun drives => { cfg with drives := drives }

/-- The drive of mount `i`. -/
def mountDrive (i : Nat) (mnt : Mount) : Drive := ⟨toString (i + 2), mnt.source, false, false⟩

/-- The loop accepts exactly the lists of ext4 mounts, and then appends their drives in order. -/
theorem attachDrives_eq_ok (drives : List Drive) (i : Nat) (rootfs : List Mount)
    (result : List Drive) :
    attachDrives drives i rootfs = .ok result ↔
      (∀ m ∈ rootfs, m.type = supportedMountFSType) ∧
        result = drives ++ rootfs.mapIdx fun j m => mountDrive (i + j) m := by
  induction rootfs generalizing drives i with
  | nil => simp [attachDrives, eq_comm]
  | cons mnt rest ih =>
    simp only [attachDrives, List.mem_cons, forall_eq_or_imp, List.mapIdx_cons]
    split_ifs with ht
    · simp [ht]
    · rw [ih]
      simp only [Nat.add_zero, List.append_assoc, List.singleton_append, not_not.1 ht, true_and]
      constructor <;> rintro ⟨h1, h2⟩ <;> refine ⟨h1, ?_⟩ <;>
        simpa [mountDrive, Nat.add_assoc, Nat.add_comm 1] using h2

theorem attachDrives_isOk (drives : List Drive) (i : Nat) (rootfs : List Mount) :
    (∃ result, attachDrives drives i rootfs = .ok result) ↔
      ∀ m ∈ rootfs, m.type = supportedMountFSType := by
  simp only [attachDrives_eq_ok, exists_and_left, exists_eq, and_true]

/-- The configuration is the base one with the root drive and one drive per mount, when every
mount is ext4. -/
theorem vmConfig_eq_ok {config : Config} {cid : UInt32} {rootfs : List Mount} {cfg : MachineConfig} :
    vmConfig config cid rootfs = .ok cfg ↔ (∀ m ∈ rootfs, m.type = supportedMountFSType) ∧
      cfg = { baseConfig config cid with
        drives := rootDrive config :: rootfs.mapIdx fun j m => mountDrive j m } := by
  unfold vmConfig
  rcases h : attachDrives ((baseConfig config cid).drives ++ [rootDrive config]) 0 rootfs with
    e | drives
  · simp only [Except.map, h, reduceCtorEq, false_iff, not_and]
    intro hall
    obtain ⟨r, hr⟩ := (attachDrives_isOk _ _ _).2 hall
    rw [h] at hr; cases hr
  · obtain ⟨hall, rfl⟩ := (attachDrives_eq_ok _ _ _ _).1 h
    simp only [Except.map, h, Except.ok.injEq]
    simp only [Nat.zero_add, List.nil_append, List.singleton_append, baseConfig]
    exact ⟨fun h => ⟨hall, h.symm⟩, fun h => h.2.symm⟩

/-- The drive IDs for `n` mounts: `"1"`, …, `"n+1"`. -/
theorem driveIDs (config : Config) (rootfs : List Mount) :
    (rootDrive config :: rootfs.mapIdx fun j m => mountDrive j m).map Drive.driveID =
      (List.range (rootfs.length + 1)).map fun k => toString (k + 1) := by
  rw [List.range_succ_eq_map]
  simp only [List.map_cons, List.map_map, Function.comp_def, rootDrive, Nat.zero_add]
  congr 1
  apply List.ext_getElem <;> simp [mountDrive]

/-- The drives of the configuration for CID `cid`, root drive image `root` and rootfs `rootfs`:
one vsock device bound to the CID; drive IDs `"1"`, …, `"n+1"` in order and pairwise distinct;
drive `"1"` the root drive and the only root device; drive `i + 2` backed by mount `i`. -/
structure DriveLayout (root : String) (cid : UInt32) (rootfs : List Mount) (cfg : MachineConfig) :
    Prop where
  vsock : cfg.vsockDevices = [⟨"root", cid⟩]
  driveIDs : cfg.drives.map Drive.driveID =
    (List.range (rootfs.length + 1)).map fun k => toString (k + 1)
  nodup : (cfg.drives.map Drive.driveID).Nodup
  rootDrive : cfg.drives.head? = some ⟨"1", root, true, false⟩
  onlyRoot : ∀ d ∈ cfg.drives.tail, d.isRootDevice = false
  mountDrives : ∀ i (h : i < rootfs.length),
    cfg.drives[i + 1]? = some ⟨toString (i + 2), rootfs[i].source, false, false⟩

/-- **The VM configuration.** For every shim configuration, CID and rootfs list: `startVM`'s
configuration exists exactly when every mount is ext4, and it then has the drive layout. -/
theorem vmConfig_drives (config : Config) (cid : UInt32) (rootfs : List Mount) :
    ((∃ cfg, vmConfig config cid rootfs = .ok cfg) ↔ ∀ m ∈ rootfs, m.type = "ext4") ∧
    ∀ cfg, vmConfig config cid rootfs = .ok cfg → DriveLayout config.rootDrive cid rootfs cfg := by
  refine ⟨by simp only [vmConfig_eq_ok, exists_and_left, exists_eq, and_true]; rfl, ?_⟩
  rintro cfg h
  obtain ⟨-, rfl⟩ := vmConfig_eq_ok.1 h
  refine ⟨rfl, driveIDs config rootfs, ?_, rfl, ?_, fun i hi => ?_⟩
  · rw [driveIDs]
    exact (List.nodup_range _).map fun a b h => by simpa using h
  · simp only [List.tail_cons, List.mem_mapIdx]
    rintro _ ⟨_, _, rfl⟩
    rfl
  · simp [mountDrive, hi]

end FirecrackerContainerd.Runtime
