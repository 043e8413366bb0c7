import FirecrackerContainerd.Devmapper.PoolDevice

/-!
# The devmapper snapshotter

`Snapshotter` implements containerd's snapshotter contract with a MetaStore for the records and
a thin pool for the volumes. Every call runs its body through `withTransaction`; Prepare and
View create a record and a device, Remove deletes both, Commit and Update touch only the
record, Stat, Mounts and Walk read.

A call's host and store calls may fail; `Faults` says which do in one call, so a failure
pattern of a run is a list of `Faults`. A call returns its Go results and the snapshotter
after it (`Reply`).

Concurrent calls: a writable call holds bolt's single write transaction from
`TransactionContext` to `Commit`/`Rollback`, and its pool calls happen in between, so writable
calls run one after another in the order they take the writer lock; read-only calls change
neither the store nor the pool. A run is therefore a list of calls (`run`).

The lemmas at the end describe `withTransaction` and the two callbacks completely
(`withTransaction_store`, `createSnapshot_cases`, `removeDevice_cases`), and from them every
writing call (`create_cases`, `remove_cases`, `commit_cases`, `update_cases`); the theorems
about the snapshotter cite these.
-/

namespace FirecrackerContainerd.Devmapper

/-- `mount.Mount`: a mount the snapshotter hands to the runtime. -/
structure Mount where
  type : String
  source : String
  options : List String
  deriving DecidableEq, Repr

/-- `fsTypeExt4`. -/
def fsTypeExt4 : String := "ext4"

/-- The two fields of the snapshotter's `Config` that the modelled calls read. -/
structure Config where
  poolName : String
  baseImageSizeBytes : Nat
  deriving DecidableEq, Repr

/-- The snapshotter: the committed store, the pool, and the configuration. -/
structure Snapshotter where
  store : Store
  pool : PoolDevice
  config : Config
  deriving DecidableEq, Repr

/-- Which host and store calls fail during one snapshotter call: `TransactionContext`, the one
pool call (and its own rollback, and whether the device it removes is held open), the
`mkfs.ext4` exec, and the transaction's `Commit` and `Rollback`. -/
structure Faults where
  begin : Bool := false
  pool : PoolFaults := {}
  mkfs : Bool := false
  commit : Bool := false
  rollback : Bool := false
  deriving DecidableEq, Repr

/-- What a callback leaves when it returns inside a transaction: its result and error, the
transaction's view of the store, and the pool, which no transaction covers. -/
structure TxRun (α : Type) where
  value : α
  err : Option Error
  store : Store
  pool : PoolDevice

/-- A call's Go results, and the snapshotter after it. -/
structure Reply (α : Type) where
  value : α
  err : Option Error
  dm : Snapshotter

/-- `result.ErrorOrNil()` with `withTransaction`'s unwrapping of a single error. -/
def unwrapErrors : List Error → Option Error
  | [] => none
  | [e] => some e
  | es => some (.multi es)

namespace Snapshotter

variable {α : Type}

/-- `getDeviceName`: the pool name as prefix avoids collisions with other pools. -/
def getDeviceName (dm : Snapshotter) (snapID : String) : String :=
  dm.config.poolName ++ "-snap-" ++ snapID

@[simp] theorem getDeviceName_with (dm : Snapshotter) (st : Store) (p : PoolDevice) :
    ({ dm with store := st, pool := p } : Snapshotter).getDeviceName = dm.getDeviceName := rfl

/-- `getDevicePath`. -/
def getDevicePath (dm : Snapshotter) (snap : Snapshot) : String :=
  getFullDevicePath (dm.getDeviceName snap.id)

/-- `buildMounts`: one ext4 mount of the snapshot's device, read-only unless Active. -/
def buildMounts (dm : Snapshotter) (snap : Snapshot) : List Mount :=
  [⟨fsTypeExt4, dm.getDevicePath snap, if snap.kind ≠ .active then ["ro"] else []⟩]

/-- The arguments `mkfs` passes to `mkfs.ext4`: no zeroing in advance on thin devices. -/
def mkfsArgs (deviceName : String) : List String :=
  ["-E", "nodiscard,lazy_itable_init=0,lazy_journal_init=0", getFullDevicePath deviceName]

/-- `mkfs`: run `mkfs.ext4` on the device; `fail` is the exec's outcome. -/
def mkfs (fail : Bool) (deviceName : String) : Option Error :=
  if fail then some (.host ("mkfs.ext4 " ++ " ".intercalate (mkfsArgs deviceName))) else none

/-- `withTransaction`: run `fn` on the transaction's view; roll back if it failed or the
transaction is read-only, commit otherwise, and collect the errors. -/
def withTransaction (dm : Snapshotter) (f : Faults) (writable : Bool) (zero : α)
    (fn : Store → PoolDevice → TxRun α) : Reply α :=
  if f.begin then ⟨zero, some (.host "begin transaction"), dm⟩ else
  let r := fn dm.store dm.pool
  if r.err.isSome || !writable then
    let rollback := if f.rollback then [Error.wrap "rollback failed" (.host "rollback")] else []
    ⟨r.value, unwrapErrors (r.err.toList ++ rollback), { dm with pool := r.pool }⟩
  else if f.commit then
    ⟨r.value, unwrapErrors [.wrap "commit failed" (.host "commit")], { dm with pool := r.pool }⟩
  else ⟨r.value, none, { dm with store := r.store, pool := r.pool }⟩

/-- `createSnapshot`: the record first, then a fresh formatted thin device for a snapshot
without parents, or a snapshot device of the nearest parent's device. -/
def createSnapshot (dm : Snapshotter) (f : Faults) (kind : Kind) (key parent : String)
    (labels : List (String × String)) (st : Store) (pool : PoolDevice) : TxRun (List Mount) :=
  match Store.createSnapshot kind key parent labels st with
  | .error e => ⟨[], some e, st, pool⟩
  | .ok (snap, st) =>
    match snap.parentIDs with
    | [] =>
      let deviceName := dm.getDeviceName snap.id
      match pool.createThinDevice f.pool deviceName dm.config.baseImageSizeBytes with
      | .error (e, pool) => ⟨[], some e, st, pool⟩
      | .ok pool =>
        match mkfs f.mkfs deviceName with
        | some e => ⟨[], some e, st, pool⟩
        | none => ⟨dm.buildMounts snap, none, st, pool⟩
    | parentID :: _ =>
      match pool.createSnapshotDevice f.pool (dm.getDeviceName parentID)
          (dm.getDeviceName snap.id) dm.config.baseImageSizeBytes with
      | .error (e, pool) => ⟨[], some e, st, pool⟩
      | .ok pool => ⟨dm.buildMounts snap, none, st, pool⟩

/-- `removeDevice`: delete the record, then the device with deferred removal. -/
def removeDevice (dm : Snapshotter) (f : Faults) (key : String) (st : Store)
    (pool : PoolDevice) : TxRun Unit :=
  match Store.remove key st with
  | .error e => ⟨(), some e, st, pool⟩
  | .ok (snapID, _, st) =>
    match pool.removeDevice f.pool (dm.getDeviceName snapID) true with
    | .error (e, pool) => ⟨(), some e, st, pool⟩
    | .ok pool => ⟨(), none, st, pool⟩

/-- `Stat`. -/
def stat (dm : Snapshotter) (f : Faults) (key : String) : Reply Info :=
  dm.withTransaction f false default fun st pool =>
    match Store.getInfo key st with
    | .ok (_, info) => ⟨info, none, st, pool⟩
    | .error e => ⟨default, some e, st, pool⟩

/-- `Update`: the caller's `info` comes back unchanged if no transaction could begin. -/
def update (dm : Snapshotter) (f : Faults) (info : Info) (fieldpaths : List String) :
    Reply Info :=
  dm.withTransaction f true info fun st pool =>
    match Store.updateInfo info fieldpaths st with
    | .ok (info, st) => ⟨info, none, st, pool⟩
    | .error e => ⟨default, some e, st, pool⟩

/-- `Usage`: not implemented. -/
def usage (dm : Snapshotter) (_key : String) : Reply Unit :=
  ⟨(), some (.new "usage not implemented"), dm⟩

/-- `Mounts`: the mounts of the snapshot read in a read-only transaction. The transaction's
error is not returned. -/
def mounts (dm : Snapshotter) (f : Faults) (key : String) : Reply (List Mount) :=
  let r := dm.withTransaction f false default fun st pool =>
    match Store.getSnapshot key st with
    | .ok snap => ⟨snap, none, st, pool⟩
    | .error e => ⟨default, some e, st, pool⟩
  ⟨dm.buildMounts r.value, none, r.dm⟩

/-- The snapshotter `NewSnapshotter` builds on a fresh root directory: an empty `metadata.db`
and a pool with no thin devices. -/
def newSnapshotter (config : Config) : Snapshotter := ⟨Store.empty, PoolDevice.empty, config⟩

/-- `Prepare`: an Active snapshot. -/
def prepare (dm : Snapshotter) (f : Faults) (key parent : String)
    (labels : List (String × String)) : Reply (List Mount) :=
  dm.withTransaction f true [] (dm.createSnapshot f .active key parent labels)

/-- `View`: a read-only snapshot. -/
def view (dm : Snapshotter) (f : Faults) (key parent : String)
    (labels : List (String × String)) : Reply (List Mount) :=
  dm.withTransaction f true [] (dm.createSnapshot f .view key parent labels)

/-- `Commit`. -/
def commit (dm : Snapshotter) (f : Faults) (name key : String)
    (labels : List (String × String)) : Reply Unit :=
  dm.withTransaction f true () fun st pool =>
    match Store.commitActive key name labels st with
    | .ok (_, st) => ⟨(), none, st, pool⟩
    | .error e => ⟨(), some e, st, pool⟩

/-- `Remove`. -/
def remove (dm : Snapshotter) (f : Faults) (key : String) : Reply Unit :=
  dm.withTransaction f true () (dm.removeDevice f key)

/-- `Walk`. -/
def walk (dm : Snapshotter) (f : Faults) (fn : Info → Option Error) : Reply Unit :=
  dm.withTransaction f false () fun st pool => ⟨(), Store.walkInfo fn st, st, pool⟩

end Snapshotter

/-- One call of the snapshotter contract with its arguments; a label list stands for the
`snapshots.Opt`s. -/
inductive Call where
  | stat (key : String)
  | update (info : Info) (fieldpaths : List String)
  | usage (key : String)
  | mounts (key : String)
  | prepare (key parent : String) (labels : List (String × String))
  | view (key parent : String) (labels : List (String × String))
  | commit (name key : String) (labels : List (String × String))
  | remove (key : String)
  | walk (fn : Info → Option Error)

/-- Forget a reply's value: the error and the snapshotter after the call. -/
def Reply.forget {α : Type} (r : Reply α) : Reply Unit := ⟨(), r.err, r.dm⟩

/-- Whether a call runs in a writable transaction. -/
def Call.writable : Call → Bool
  | .update .. | .prepare .. | .view .. | .commit .. | .remove .. => true
  | _ => false

/-- Prepare and View: the calls that create a snapshot. -/
def Call.creates : Call → Bool
  | .prepare .. | .view .. => true
  | _ => false

namespace Snapshotter

/-- One call: its error and the snapshotter after it. -/
def call (dm : Snapshotter) (f : Faults) : Call → Reply Unit
  | .stat key => (dm.stat f key).forget
  | .update info fieldpaths => (dm.update f info fieldpaths).forget
  | .usage key => (dm.usage key).forget
  | .mounts key => (dm.mounts f key).forget
  | .prepare key parent labels => (dm.prepare f key parent labels).forget
  | .view key parent labels => (dm.view f key parent labels).forget
  | .commit name key labels => (dm.commit f name key labels).forget
  | .remove key => (dm.remove f key).forget
  | .walk fn => (dm.walk f fn).forget

/-- The snapshotter after a run of calls, each with its failure pattern. -/
def run (dm : Snapshotter) (calls : List (Call × Faults)) : Snapshotter :=
  calls.foldl (fun dm c => (dm.call c.2 c.1).dm) dm

@[simp] theorem run_nil (dm : Snapshotter) : dm.run [] = dm := rfl

@[simp] theorem run_cons (dm : Snapshotter) (c : Call × Faults) (cs : List (Call × Faults)) :
    dm.run (c :: cs) = (dm.call c.2 c.1).dm.run cs := rfl

/-! ## `withTransaction` -/

section WithTransaction

variable (dm : Snapshotter) (f : Faults) (w : Bool) (zero : α)
  (fn : Store → PoolDevice → TxRun α)

@[simp] theorem withTransaction_config : (dm.withTransaction f w zero fn).dm.config = dm.config := by
  unfold withTransaction; split <;> [rfl; (dsimp only; split <;> [rfl; split <;> rfl])]

/-- The store takes the callback's view only for a writable call whose callback succeeded and
whose commit went through. -/
theorem withTransaction_store :
    (dm.withTransaction f w zero fn).dm.store =
      if f.begin = false ∧ (fn dm.store dm.pool).err.isNone ∧ w = true ∧ f.commit = false
      then (fn dm.store dm.pool).store else dm.store := by
  unfold withTransaction
  generalize fn dm.store dm.pool = r
  obtain ⟨_, e, _, _⟩ := r
  obtain ⟨b, _, _, c, _⟩ := f
  cases b <;> cases w <;> cases c <;> cases e <;> rfl

theorem withTransaction_err_eq_none :
    (dm.withTransaction f w zero fn).err = none ↔
      f.begin = false ∧ (fn dm.store dm.pool).err = none ∧
        (if w then f.commit = false else f.rollback = false) := by
  unfold withTransaction
  generalize fn dm.store dm.pool = r
  obtain ⟨_, e, _, _⟩ := r
  obtain ⟨b, _, _, c, rb⟩ := f
  cases b <;> cases w <;> cases c <;> cases rb <;> cases e <;> simp [unwrapErrors]

theorem withTransaction_value :
    (dm.withTransaction f w zero fn).value = if f.begin then zero else (fn dm.store dm.pool).value := by
  unfold withTransaction; split <;> [rfl; (dsimp only; split <;> [rfl; split <;> rfl])]

theorem withTransaction_dm_of_begin (hb : f.begin = true) :
    (dm.withTransaction f w zero fn).dm = dm := by
  simp [withTransaction, hb]

theorem withTransaction_dm_of_err (hb : f.begin = false)
    (he : (fn dm.store dm.pool).err.isSome) :
    (dm.withTransaction f w zero fn).dm = { dm with pool := (fn dm.store dm.pool).pool } := by
  simp [withTransaction, hb, he]

theorem withTransaction_dm_of_readonly (hb : f.begin = false) :
    (dm.withTransaction f false zero fn).dm = { dm with pool := (fn dm.store dm.pool).pool } := by
  simp [withTransaction, hb]

theorem withTransaction_dm_of_ok (hb : f.begin = false) (he : (fn dm.store dm.pool).err = none)
    (hc : f.commit = false) :
    (dm.withTransaction f true zero fn).dm =
      { dm with store := (fn dm.store dm.pool).store, pool := (fn dm.store dm.pool).pool } := by
  simp [withTransaction, hb, he, hc]

theorem withTransaction_dm_of_commit (hb : f.begin = false) (hc : f.commit = true) :
    (dm.withTransaction f true zero fn).dm = { dm with pool := (fn dm.store dm.pool).pool } := by
  unfold withTransaction
  generalize fn dm.store dm.pool = r
  obtain ⟨_, e, _, _⟩ := r
  cases e <;> simp [hb, hc]

end WithTransaction

/-! ## The two callbacks -/

/-- `pool'` is `pool` with the device of the new snapshot `snap` under a fresh name, `Faulty` or
not: a fresh thin device for a snapshot without parents, a snapshot of the nearest parent's
device otherwise. -/
inductive DeviceAdded (dm : Snapshotter) (snap : Snapshot) (faulty : Bool) (pool : PoolDevice) :
    PoolDevice → Prop
  | thin : dm.getDeviceName snap.id ∉ pool.names → snap.parentIDs = [] →
      DeviceAdded dm snap faulty pool
        (pool.add (dm.getDeviceName snap.id) none dm.config.baseImageSizeBytes faulty)
  | snapshot {parentID : String} {rest : List String} {pd : Device} :
      dm.getDeviceName snap.id ∉ pool.names → snap.parentIDs = parentID :: rest →
      pool.find? (dm.getDeviceName parentID) = some pd →
      DeviceAdded dm snap faulty pool
        (pool.add (dm.getDeviceName snap.id) (some pd.deviceID) dm.config.baseImageSizeBytes faulty)

theorem mkfs_fail {fail : Bool} {deviceName : String} {e : Error}
    (h : mkfs fail deviceName = some e) : fail = true := by
  cases fail
  · cases h
  · rfl

section Callbacks

variable {dm : Snapshotter} {f : Faults} {kind : Kind} {key parent : String}
  {labels : List (String × String)} {st : Store} {pool : PoolDevice}

/-- Everything `createSnapshot` can do: fail with the pool untouched; create the record and its
device; create the record and a thin device that `mkfs` then fails on; or create the record and
a device whose pool call failed and whose rollback failed too, so that it stays `Faulty`. -/
theorem createSnapshot_cases {r : TxRun (List Mount)}
    (hr : dm.createSnapshot f kind key parent labels st pool = r) :
    (r.err.isSome ∧ r.pool = pool) ∨
    (r.err = none ∧ ∃ snap, Store.createSnapshot kind key parent labels st = .ok (snap, r.store) ∧
      DeviceAdded dm snap false pool r.pool ∧ r.value = dm.buildMounts snap) ∨
    (r.err.isSome ∧ f.mkfs = true ∧ ∃ snap st', snap.parentIDs = [] ∧
      Store.createSnapshot kind key parent labels st = .ok (snap, st') ∧
      DeviceAdded dm snap false pool r.pool) ∨
    (r.err.isSome ∧ f.pool.fail = true ∧ f.pool.rollback = true ∧ ∃ snap st',
      Store.createSnapshot kind key parent labels st = .ok (snap, st') ∧
      DeviceAdded dm snap true pool r.pool) := by
  subst hr
  unfold createSnapshot
  rcases hs : Store.createSnapshot kind key parent labels st with e | ⟨snap, st'⟩
  · exact .inl ⟨rfl, rfl⟩
  dsimp only
  split
  · rename_i hp
    rcases hc : pool.createThinDevice f.pool (dm.getDeviceName snap.id)
      dm.config.baseImageSizeBytes with ⟨e, pool'⟩ | pool'
    · rcases PoolDevice.createThinDevice_eq_error hc with rfl | ⟨hn, hf, hrb, rfl⟩
      · exact .inl ⟨rfl, rfl⟩
      · exact .inr (.inr (.inr ⟨rfl, hf, hrb, snap, st', rfl, .thin hn hp⟩))
    obtain ⟨hn, -, rfl⟩ := PoolDevice.createThinDevice_eq_ok hc
    rcases hm : mkfs f.mkfs (dm.getDeviceName snap.id) with _ | e
    · exact .inr (.inl ⟨rfl, snap, rfl, .thin hn hp, rfl⟩)
    · exact .inr (.inr (.inl ⟨rfl, mkfs_fail hm, snap, st', hp, rfl, .thin hn hp⟩))
  · rename_i parentID _ hp
    rcases hc : pool.createSnapshotDevice f.pool (dm.getDeviceName parentID)
      (dm.getDeviceName snap.id) dm.config.baseImageSizeBytes with ⟨e, pool'⟩ | pool'
    · rcases PoolDevice.createSnapshotDevice_eq_error hc with rfl | ⟨pd, hpd, hn, hf, hrb, rfl⟩
      · exact .inl ⟨rfl, rfl⟩
      · exact .inr (.inr (.inr ⟨rfl, hf, hrb, snap, st', rfl, .snapshot hn hp hpd⟩))
    obtain ⟨pd, hpd, hn, -, rfl⟩ := PoolDevice.createSnapshotDevice_eq_ok hc
    exact .inr (.inl ⟨rfl, snap, rfl, .snapshot hn hp hpd, rfl⟩)

/-- Everything `removeDevice` can do: fail with the pool untouched; delete the record and its
device; or delete the record and leave its device `Faulty`, when the device removal and its
rollback both failed. -/
theorem removeDevice_cases {r : TxRun Unit} (hr : dm.removeDevice f key st pool = r) :
    (r.err.isSome ∧ r.pool = pool) ∨
    (r.err = none ∧ ∃ snapID kind, Store.remove key st = .ok (snapID, kind, r.store) ∧
      dm.getDeviceName snapID ∈ pool.names ∧ r.pool = pool.drop (dm.getDeviceName snapID)) ∨
    (r.err.isSome ∧ f.pool.fail = true ∧ f.pool.rollback = true ∧ ∃ snapID kind st',
      Store.remove key st = .ok (snapID, kind, st') ∧ dm.getDeviceName snapID ∈ pool.names ∧
      r.pool = pool.markFaulty (dm.getDeviceName snapID)) := by
  subst hr
  unfold removeDevice
  split
  · exact .inl ⟨rfl, rfl⟩
  · rename_i snapID kind st' hs
    split
    · rename_i hc
      rcases PoolDevice.removeDevice_eq_error hc with rfl | ⟨hn, hf, hrb, rfl⟩
      · exact .inl ⟨rfl, rfl⟩
      · exact .inr (.inr ⟨rfl, hf, hrb, snapID, kind, st', hs, hn, rfl⟩)
    · rename_i hc
      obtain ⟨hn, -, -, rfl⟩ := PoolDevice.removeDevice_eq_ok hc
      exact .inr (.inl ⟨rfl, snapID, kind, hs, hn, rfl⟩)

end Callbacks

/-! ## The calls -/

section Calls

variable (dm : Snapshotter) (f : Faults)

theorem withTransaction_err_of_begin {w : Bool} {zero : α} {fn : Store → PoolDevice → TxRun α}
    (hb : f.begin = true) : (dm.withTransaction f w zero fn).err ≠ none := by
  simp [withTransaction, hb]

theorem withTransaction_err_of_fn {w : Bool} {zero : α} {fn : Store → PoolDevice → TxRun α}
    (he : (fn dm.store dm.pool).err.isSome) : (dm.withTransaction f w zero fn).err ≠ none := by
  rw [Ne, withTransaction_err_eq_none]
  rintro ⟨-, he', -⟩
  simp [he'] at he

theorem withTransaction_err_of_commit {zero : α} {fn : Store → PoolDevice → TxRun α}
    (hc : f.commit = true) : (dm.withTransaction f true zero fn).err ≠ none := by
  rw [Ne, withTransaction_err_eq_none]
  simp [hc]

/-- A read-only call whose callback leaves the pool alone changes nothing. -/
theorem withTransaction_readonly {zero : α} {fn : Store → PoolDevice → TxRun α}
    (hfn : ∀ st p, (fn st p).pool = p) : (dm.withTransaction f false zero fn).dm = dm := by
  cases hb : f.begin
  · rw [withTransaction_dm_of_readonly dm f zero fn hb, hfn]
  · exact withTransaction_dm_of_begin dm f false zero fn hb

theorem stat_dm (key : String) : (dm.stat f key).dm = dm :=
  withTransaction_readonly dm f fun st p => by unfold Store.getInfo; split <;> rfl

theorem mounts_dm (key : String) : (dm.mounts f key).dm = dm := by
  unfold mounts
  exact withTransaction_readonly dm f fun st _ => by cases Store.getSnapshot key st <;> rfl

theorem walk_dm (fn : Info → Option Error) : (dm.walk f fn).dm = dm :=
  withTransaction_readonly dm f fun _ _ => rfl

/-- Everything Prepare and View can do: fail and change nothing; succeed with the record
committed and its device added; fail after adding the device, when `mkfs.ext4` or the commit
fails; or fail and leave the device `Faulty`, when the pool call and its rollback fail. -/
theorem create_cases (kind : Kind) (key parent : String) (labels : List (String × String)) :
    let R := dm.withTransaction f true [] (dm.createSnapshot f kind key parent labels)
    (R.err ≠ none ∧ R.dm = dm) ∨
    (R.err = none ∧ ∃ snap st' p, Store.createSnapshot kind key parent labels dm.store =
      .ok (snap, st') ∧ DeviceAdded dm snap false dm.pool p ∧
      R.dm = { dm with store := st', pool := p }) ∨
    (R.err ≠ none ∧ (f.mkfs = true ∨ f.commit = true) ∧ ∃ snap st' p,
      Store.createSnapshot kind key parent labels dm.store = .ok (snap, st') ∧
      DeviceAdded dm snap false dm.pool p ∧ R.dm = { dm with pool := p }) ∨
    (R.err ≠ none ∧ f.pool.fail = true ∧ f.pool.rollback = true ∧ ∃ snap st' p,
      Store.createSnapshot kind key parent labels dm.store = .ok (snap, st') ∧
      DeviceAdded dm snap true dm.pool p ∧ R.dm = { dm with pool := p }) := by
  cases hb : f.begin
  · rcases createSnapshot_cases (show dm.createSnapshot f kind key parent labels dm.store dm.pool
      = _ from rfl) with ⟨he, hp⟩ | ⟨he, snap, hs, hadd, -⟩ | ⟨he, hm, snap, st', -, hs, hadd⟩ |
      ⟨he, hf, hrb, snap, st', hs, hadd⟩
    · exact .inl ⟨withTransaction_err_of_fn dm f he,
        by rw [withTransaction_dm_of_err _ _ _ _ _ hb he, hp]⟩
    · cases hc : f.commit
      · exact .inr (.inl ⟨(withTransaction_err_eq_none ..).2 ⟨hb, he, hc⟩, snap, _, _, hs, hadd,
          withTransaction_dm_of_ok _ _ _ _ hb he hc⟩)
      · exact .inr (.inr (.inl ⟨withTransaction_err_of_commit dm f hc, .inr rfl, snap, _, _, hs,
          hadd, withTransaction_dm_of_commit _ _ _ _ hb hc⟩))
    · exact .inr (.inr (.inl ⟨withTransaction_err_of_fn dm f he, .inl hm, snap, st', _, hs, hadd,
        withTransaction_dm_of_err _ _ _ _ _ hb he⟩))
    · exact .inr (.inr (.inr ⟨withTransaction_err_of_fn dm f he, hf, hrb, snap, st', _, hs, hadd,
        withTransaction_dm_of_err _ _ _ _ _ hb he⟩))
  · exact .inl ⟨withTransaction_err_of_begin dm f hb, withTransaction_dm_of_begin _ _ _ _ _ hb⟩

/-- Everything Remove can do: fail and change nothing; succeed with the record deleted and the
device removed; fail after removing the device, when the commit fails; or fail and leave the
device `Faulty`, when the device removal and its rollback fail. -/
theorem remove_cases (key : String) :
    let R := dm.remove f key
    (R.err ≠ none ∧ R.dm = dm) ∨
    (R.err = none ∧ ∃ snapID kind st', Store.remove key dm.store = .ok (snapID, kind, st') ∧
      dm.getDeviceName snapID ∈ dm.pool.names ∧
      R.dm = { dm with store := st', pool := dm.pool.drop (dm.getDeviceName snapID) }) ∨
    (R.err ≠ none ∧ f.commit = true ∧ ∃ snapID kind st',
      Store.remove key dm.store = .ok (snapID, kind, st') ∧
      dm.getDeviceName snapID ∈ dm.pool.names ∧
      R.dm = { dm with pool := dm.pool.drop (dm.getDeviceName snapID) }) ∨
    (R.err ≠ none ∧ f.pool.fail = true ∧ f.pool.rollback = true ∧ ∃ snapID kind st',
      Store.remove key dm.store = .ok (snapID, kind, st') ∧
      dm.getDeviceName snapID ∈ dm.pool.names ∧
      R.dm = { dm with pool := dm.pool.markFaulty (dm.getDeviceName snapID) }) := by
  unfold remove
  cases hb : f.begin
  · rcases removeDevice_cases (show dm.removeDevice f key dm.store dm.pool = _ from rfl) with
      ⟨he, hp⟩ | ⟨he, snapID, kind, hs, hn, hp⟩ | ⟨he, hf, hrb, snapID, kind, st', hs, hn, hp⟩
    · exact .inl ⟨withTransaction_err_of_fn dm f he,
        by rw [withTransaction_dm_of_err _ _ _ _ _ hb he, hp]⟩
    · cases hc : f.commit
      · exact .inr (.inl ⟨(withTransaction_err_eq_none ..).2 ⟨hb, he, hc⟩, snapID, kind, _, hs,
          hn, by rw [withTransaction_dm_of_ok _ _ _ _ hb he hc, hp]⟩)
      · exact .inr (.inr (.inl ⟨withTransaction_err_of_commit dm f hc, rfl, snapID, kind, _, hs,
          hn, by rw [withTransaction_dm_of_commit _ _ _ _ hb hc, hp]⟩))
    · exact .inr (.inr (.inr ⟨withTransaction_err_of_fn dm f he, hf, hrb, snapID, kind, st', hs,
        hn, by rw [withTransaction_dm_of_err _ _ _ _ _ hb he, hp]⟩))
  · exact .inl ⟨withTransaction_err_of_begin dm f hb, withTransaction_dm_of_begin _ _ _ _ _ hb⟩

/-- Everything Commit can do: fail and change nothing, or commit the renamed record. -/
theorem commit_cases (name key : String) (labels : List (String × String)) :
    let R := dm.commit f name key labels
    (R.err ≠ none ∧ R.dm = dm) ∨
    (R.err = none ∧ ∃ id st', Store.commitActive key name labels dm.store = .ok (id, st') ∧
      R.dm = { dm with store := st' }) := by
  unfold commit
  cases hb : f.begin
  · rcases hs : Store.commitActive key name labels dm.store with e | ⟨id, st'⟩
    · refine .inl ⟨withTransaction_err_of_fn dm f (by simp [hs]), ?_⟩
      rw [withTransaction_dm_of_err _ _ _ _ _ hb (by simp [hs])]
      simp [hs]
    · cases hc : f.commit
      · refine .inr ⟨(withTransaction_err_eq_none ..).2 ⟨hb, by simp [hs], by simp [hc]⟩, id, st',
          rfl, ?_⟩
        rw [withTransaction_dm_of_ok _ _ _ _ hb (by simp [hs]) hc]
        simp [hs]
      · refine .inl ⟨withTransaction_err_of_commit dm f hc, ?_⟩
        rw [withTransaction_dm_of_commit _ _ _ _ hb hc]
        simp [hs]
  · exact .inl ⟨withTransaction_err_of_begin dm f hb, withTransaction_dm_of_begin _ _ _ _ _ hb⟩

/-- Everything Update can do: fail and change nothing, or commit the relabelled record. -/
theorem update_cases (info : Info) (fieldpaths : List String) :
    let R := dm.update f info fieldpaths
    (R.err ≠ none ∧ R.dm = dm) ∨
    (R.err = none ∧ ∃ info' st', Store.updateInfo info fieldpaths dm.store = .ok (info', st') ∧
      R.dm = { dm with store := st' }) := by
  unfold update
  cases hb : f.begin
  · rcases hs : Store.updateInfo info fieldpaths dm.store with e | ⟨info', st'⟩
    · refine .inl ⟨withTransaction_err_of_fn dm f (by simp [hs]), ?_⟩
      rw [withTransaction_dm_of_err _ _ _ _ _ hb (by simp [hs])]
      simp [hs]
    · cases hc : f.commit
      · refine .inr ⟨(withTransaction_err_eq_none ..).2 ⟨hb, by simp [hs], by simp [hc]⟩, info',
          st', rfl, ?_⟩
        rw [withTransaction_dm_of_ok _ _ _ _ hb (by simp [hs]) hc]
        simp [hs]
      · refine .inl ⟨withTransaction_err_of_commit dm f hc, ?_⟩
        rw [withTransaction_dm_of_commit _ _ _ _ hb hc]
        simp [hs]
  · exact .inl ⟨withTransaction_err_of_begin dm f hb, withTransaction_dm_of_begin _ _ _ _ _ hb⟩

end Calls

end Snapshotter

end FirecrackerContainerd.Devmapper
