import FirecrackerContainerd.Devmapper.Consistency
import FirecrackerContainerd.Devmapper.Close

/-!
# The older devmapper snapshotter

`snapshotter/devmapper/devmapper.go` is the snapshotter's earlier version, the type `devmapper`.
It keeps the same state (the MetaStore, the pool and the configuration) and makes the same store
and pool calls in the same order, but it ends its transactions differently. There is no
`withTransaction`: each method calls `TransactionContext` itself, a read defers a `Rollback`
whose error is dropped, and a write ends with `complete`, which rolls back after an error and
commits otherwise, and only logs a `Commit` or `Rollback` that fails. `Mounts` returns the
store's error, and `Close` has no `sync.Once`.

The state, `Call` and `Faults` are the newer model's, and so are the helpers the two files
share word for word (`getDeviceName`, `buildMounts`, `mkfs`, `Usage`); the older file's
`pool.GetDevicePath` is `/dev/mapper/<name>` like `dmsetup.GetFullDevicePath`.

The one difference in the pool calls is in Remove: the newer version asks `RemoveDevice` for a
deferred removal and the older one does not, so a device held open makes the older Remove fail
with `Busy` where the newer one removes it (`remove_of_held`, `remove_ignores_held`).

* `same_state_machine` — apart from that, the two versions are one state machine: every call,
  with every failure pattern in which no Remove finds its device held, leaves the same store and
  pool, and so does every run.
* `reports_as_if_commit_never_fails` — apart from `Mounts` and held Removes, the older version
  reports an error exactly when the newer one would if `Commit` and `Rollback` never failed; its
  `Mounts` fails exactly when the transaction cannot begin or `GetSnapshot` refuses the key.
* `prepare_reports_lost_commit` — so when the `Commit` fails, an older `Prepare` that reports
  success has created a device and returned its mount, while the store still holds no record
  under the key: a `Stat` of the key then fails.
-/

namespace FirecrackerContainerd.Devmapper

/-- A Remove. -/
def Call.removes : Call → Bool
  | .remove _ => true
  | _ => false

/-- The failure pattern `f` with a `Commit` and a `Rollback` that cannot fail. -/
def Faults.endsCleanly (f : Faults) : Faults := { f with commit := false, rollback := false }

namespace Legacy

variable {α : Type}

/-- `complete` on the writable transaction that began from `dm` with the view `st`: roll back
after an error, commit otherwise; a failing `Rollback` or `Commit` is only logged, and the error
`complete` returns is the one it was given. The method returns `value` with it; `pool` is the
pool after the method's pool calls. -/
def complete (dm : Snapshotter) (f : Faults) (value : α) (st : Store) (pool : PoolDevice)
    (err : Option Error) : Reply α :=
  ⟨value, err,
    if err.isNone && !f.commit then { dm with store := st, pool } else { dm with pool }⟩

/-- `Stat`: a read-only transaction whose deferred `Rollback` error is dropped. -/
def stat (dm : Snapshotter) (f : Faults) (key : String) : Reply Info :=
  if f.begin then ⟨default, some (.host "begin transaction"), dm⟩ else
  match Store.getInfo key dm.store with
  | .error e => ⟨default, some e, dm⟩
  | .ok (_, info) => ⟨info, none, dm⟩

/-- `Update`: `snapshots.Info{}` with any error. -/
def update (dm : Snapshotter) (f : Faults) (info : Info) (fieldpaths : List String) :
    Reply Info :=
  if f.begin then ⟨default, some (.host "begin transaction"), dm⟩ else
  match Store.updateInfo info fieldpaths dm.store with
  | .error e => complete dm f default dm.store dm.pool (some e)
  | .ok (info, st) => complete dm f info st dm.pool none

/-- `Mounts`: the mounts of the snapshot, or the store's error and no mounts. -/
def mounts (dm : Snapshotter) (f : Faults) (key : String) : Reply (List Mount) :=
  if f.begin then ⟨[], some (.host "begin transaction"), dm⟩ else
  match Store.getSnapshot key dm.store with
  | .error e => ⟨[], some e, dm⟩
  | .ok snap => ⟨dm.buildMounts snap, none, dm⟩

/-- `createSnapshot`, in its own writable transaction: the record first, then a fresh formatted
thin device for a snapshot without parents, or a snapshot device of the nearest parent's
device; `complete` ends the transaction on every path. -/
def createSnapshot (dm : Snapshotter) (f : Faults) (kind : Kind) (key parent : String)
    (labels : List (String × String)) : Reply (List Mount) :=
  if f.begin then ⟨[], some (.host "begin transaction"), dm⟩ else
  match Store.createSnapshot kind key parent labels dm.store with
  | .error e => complete dm f [] dm.store dm.pool (some e)
  | .ok (snap, st) =>
    match snap.parentIDs with
    | [] =>
      let deviceName := dm.getDeviceName snap.id
      match dm.pool.createThinDevice f.pool deviceName dm.config.baseImageSizeBytes with
      | .error (e, pool) => complete dm f [] st pool (some e)
      | .ok pool =>
        match Snapshotter.mkfs f.mkfs deviceName with
        | some e => complete dm f [] st pool (some e)
        | none => complete dm f (dm.buildMounts snap) st pool none
    | parentID :: _ =>
      match dm.pool.createSnapshotDevice f.pool (dm.getDeviceName parentID)
          (dm.getDeviceName snap.id) dm.config.baseImageSizeBytes with
      | .error (e, pool) => complete dm f [] st pool (some e)
      | .ok pool => complete dm f (dm.buildMounts snap) st pool none

/-- `Prepare`: an Active snapshot. -/
def prepare (dm : Snapshotter) (f : Faults) (key parent : String)
    (labels : List (String × String)) : Reply (List Mount) :=
  createSnapshot dm f .active key parent labels

/-- `View`: a read-only snapshot. -/
def view (dm : Snapshotter) (f : Faults) (key parent : String)
    (labels : List (String × String)) : Reply (List Mount) :=
  createSnapshot dm f .view key parent labels

/-- `Commit`. -/
def commit (dm : Snapshotter) (f : Faults) (name key : String)
    (labels : List (String × String)) : Reply Unit :=
  if f.begin then ⟨(), some (.host "begin transaction"), dm⟩ else
  match Store.commitActive key name labels dm.store with
  | .error e => complete dm f () dm.store dm.pool (some e)
  | .ok (_, st) => complete dm f () st dm.pool none

/-- `Remove`: delete the record, then the device, without deferred removal (the older
`RemoveDevice` takes no deferred flag). -/
def remove (dm : Snapshotter) (f : Faults) (key : String) : Reply Unit :=
  if f.begin then ⟨(), some (.host "begin transaction"), dm⟩ else
  match Store.remove key dm.store with
  | .error e => complete dm f () dm.store dm.pool (some e)
  | .ok (snapID, _, st) =>
    match dm.pool.removeDevice f.pool (dm.getDeviceName snapID) false with
    | .error (e, pool) => complete dm f () st pool (some e)
    | .ok pool => complete dm f () st pool none

/-- `Walk`: a read-only transaction whose deferred `Rollback` error is dropped. -/
def walk (dm : Snapshotter) (f : Faults) (fn : Info → Option Error) : Reply Unit :=
  if f.begin then ⟨(), some (.host "begin transaction"), dm⟩ else
  ⟨(), Store.walkInfo fn dm.store, dm⟩

/-- `Close`: close the store, then the pool, on every call (there is no `sync.Once`), and
return their failures as one `*multierror.Error`. -/
def close (storeErr poolErr : Option Error) : Option Error := Close.aggregate [storeErr, poolErr]

/-- One call: its error and the snapshotter after it. -/
def call (dm : Snapshotter) (f : Faults) : Call → Reply Unit
  | .stat key => (stat dm f key).forget
  | .update info fieldpaths => (update dm f info fieldpaths).forget
  | .usage key => (dm.usage key).forget
  | .mounts key => (mounts dm f key).forget
  | .prepare key parent labels => (prepare dm f key parent labels).forget
  | .view key parent labels => (view dm f key parent labels).forget
  | .commit name key labels => (commit dm f name key labels).forget
  | .remove key => (remove dm f key).forget
  | .walk fn => (walk dm f fn).forget

/-- The snapshotter after a run of calls, each with its failure pattern. -/
def run (dm : Snapshotter) (calls : List (Call × Faults)) : Snapshotter :=
  calls.foldl (fun dm c => (call dm c.2 c.1).dm) dm

@[simp] theorem run_nil (dm : Snapshotter) : run dm [] = dm := rfl

@[simp] theorem run_cons (dm : Snapshotter) (c : Call × Faults) (cs : List (Call × Faults)) :
    run dm (c :: cs) = run (call dm c.2 c.1).dm cs := rfl

/-! ## Each method against its newer version

Each lemma says two things of one method: it leaves the snapshotter as the newer method does, and
it fails exactly when the newer method would under `f.endsCleanly`. The writable methods are the
newer callbacks ended by `complete` (`createSnapshot_eq`, `remove_eq`), and `complete_agrees`
compares `complete` with `withTransaction` once for every callback.
-/

section Agreement

variable (dm : Snapshotter) (f : Faults)

section Complete

variable (v : α) (st : Store) (pool : PoolDevice) (err : Option Error)

@[simp] theorem complete_value : (complete dm f v st pool err).value = v := rfl

@[simp] theorem complete_err : (complete dm f v st pool err).err = err := rfl

@[simp] theorem complete_pool : (complete dm f v st pool err).dm.pool = pool := by
  unfold complete; split <;> rfl

theorem complete_store_of_commit (hc : f.commit = true) :
    (complete dm f v st pool err).dm.store = dm.store := by
  simp [complete, hc]

end Complete

/-- `complete` leaves what `withTransaction` leaves after the same callback, and fails exactly
when `withTransaction` would with a `Commit` that cannot fail. -/
theorem complete_agrees {v zero : α} {fn : Store → PoolDevice → TxRun α}
    (hb : f.begin = false) :
    (complete dm f v (fn dm.store dm.pool).store (fn dm.store dm.pool).pool
      (fn dm.store dm.pool).err).dm = (dm.withTransaction f true zero fn).dm ∧
    ((fn dm.store dm.pool).err = none ↔
      (dm.withTransaction f.endsCleanly true zero fn).err = none) := by
  refine ⟨?_, by simp [Snapshotter.withTransaction_err_eq_none, Faults.endsCleanly, hb]⟩
  unfold Snapshotter.withTransaction complete
  generalize fn dm.store dm.pool = r
  obtain ⟨_, e, _, _⟩ := r
  cases e <;> cases f.commit <;> simp [hb]

/-- With no transaction, both versions fail and change nothing. -/
theorem withTransaction_of_begin {w : Bool} {zero : α} {fn : Store → PoolDevice → TxRun α}
    (hb : f.begin = true) :
    (dm.withTransaction f w zero fn).dm = dm ∧
      (dm.withTransaction f.endsCleanly w zero fn).err ≠ none :=
  ⟨Snapshotter.withTransaction_dm_of_begin dm f w zero fn hb,
    Snapshotter.withTransaction_err_of_begin dm f.endsCleanly hb⟩

/-- The older `createSnapshot` is the newer callback ended by `complete`. -/
theorem createSnapshot_eq (hb : f.begin = false) (kind : Kind) (key parent : String)
    (labels : List (String × String)) :
    createSnapshot dm f kind key parent labels =
      let r := dm.createSnapshot f kind key parent labels dm.store dm.pool
      complete dm f r.value r.store r.pool r.err := by
  simp only [createSnapshot, Snapshotter.createSnapshot, hb, Bool.false_eq_true, if_false]
  rcases Store.createSnapshot kind key parent labels dm.store with e | ⟨snap, st⟩
  · rfl
  dsimp only
  rcases snap.parentIDs with _ | ⟨parentID, _⟩ <;> dsimp only
  · rcases dm.pool.createThinDevice f.pool (dm.getDeviceName snap.id)
      dm.config.baseImageSizeBytes with ⟨e, pool⟩ | pool
    · rfl
    dsimp only
    rcases Snapshotter.mkfs f.mkfs (dm.getDeviceName snap.id) with _ | e <;> rfl
  · rcases dm.pool.createSnapshotDevice f.pool (dm.getDeviceName parentID)
      (dm.getDeviceName snap.id) dm.config.baseImageSizeBytes with ⟨e, pool⟩ | pool <;> rfl

/-- The callbacks read neither the `Commit` nor the `Rollback` fault. -/
@[simp] theorem createSnapshot_endsCleanly :
    dm.createSnapshot f.endsCleanly = dm.createSnapshot f := rfl

@[simp] theorem removeDevice_endsCleanly : dm.removeDevice f.endsCleanly = dm.removeDevice f := rfl

/-- When no Remove finds its device held, the older `Remove` is the newer callback
`removeDevice` ended by `complete`. -/
theorem remove_eq (hb : f.begin = false) (hh : f.pool.held = false) (key : String) :
    remove dm f key =
      let r := dm.removeDevice f key dm.store dm.pool
      complete dm f r.value r.store r.pool r.err := by
  simp only [remove, Snapshotter.removeDevice, hb, Bool.false_eq_true, if_false,
    PoolDevice.removeDevice_of_not_held hh _ _ false]
  rcases Store.remove key dm.store with e | ⟨snapID, kind, st⟩
  · rfl
  dsimp only
  rcases dm.pool.removeDevice f.pool (dm.getDeviceName snapID) true with ⟨e, pool⟩ | pool <;> rfl

/-- An older `Remove` whose device is held open fails and changes nothing: `RemoveDevice`
without deferral fails with `Busy` before touching the device, and `complete` rolls back. -/
theorem remove_of_held (hh : f.pool.held = true) (key : String) :
    (remove dm f key).err ≠ none ∧ (remove dm f key).dm = dm := by
  unfold remove
  split
  · exact ⟨by simp, rfl⟩
  rcases Store.remove key dm.store with e | ⟨snapID, kind, st⟩
  · simp [complete]
  obtain ⟨e, he⟩ := PoolDevice.removeDevice_of_held hh dm.pool (dm.getDeviceName snapID)
  simp [he, complete]

/-- The newer `Remove` asks for deferred removal, so whether the device is held open does not
change what it does. -/
theorem remove_ignores_held (key : String) :
    dm.remove f key = dm.remove { f with pool := { f.pool with held := false } } key := by
  have hcb : dm.removeDevice f key =
      dm.removeDevice { f with pool := { f.pool with held := false } } key := by
    funext st pool
    simp only [Snapshotter.removeDevice, PoolDevice.removeDevice_deferred f.pool]
  unfold Snapshotter.remove
  rw [hcb]
  rfl

theorem stat_agrees (key : String) :
    (stat dm f key).dm = (dm.stat f key).dm ∧
    ((stat dm f key).err = none ↔ (dm.stat f.endsCleanly key).err = none) := by
  unfold stat Snapshotter.stat
  cases hb : f.begin
  · rcases h : Store.getInfo key dm.store with e | ⟨_, i⟩ <;>
      simp [Snapshotter.withTransaction, Faults.endsCleanly, unwrapErrors, hb, h]
  · simp [Snapshotter.withTransaction, Faults.endsCleanly, hb]

theorem update_agrees (info : Info) (fieldpaths : List String) :
    (update dm f info fieldpaths).dm = (dm.update f info fieldpaths).dm ∧
    ((update dm f info fieldpaths).err = none ↔
      (dm.update f.endsCleanly info fieldpaths).err = none) := by
  unfold update Snapshotter.update
  cases hb : f.begin
  · rcases h : Store.updateInfo info fieldpaths dm.store with e | ⟨i, st⟩ <;>
      cases hc : f.commit <;>
      simp [complete, Snapshotter.withTransaction, Faults.endsCleanly, unwrapErrors, h, hb, hc]
  · simp [Snapshotter.withTransaction, Faults.endsCleanly, hb]

theorem commit_agrees (name key : String) (labels : List (String × String)) :
    (commit dm f name key labels).dm = (dm.commit f name key labels).dm ∧
    ((commit dm f name key labels).err = none ↔
      (dm.commit f.endsCleanly name key labels).err = none) := by
  unfold commit Snapshotter.commit
  cases hb : f.begin
  · rcases h : Store.commitActive key name labels dm.store with e | ⟨i, st⟩ <;>
      cases hc : f.commit <;>
      simp [complete, Snapshotter.withTransaction, Faults.endsCleanly, unwrapErrors, h, hb, hc]
  · simp [Snapshotter.withTransaction, Faults.endsCleanly, hb]

theorem walk_agrees (fn : Info → Option Error) :
    (walk dm f fn).dm = (dm.walk f fn).dm ∧
    ((walk dm f fn).err = none ↔ (dm.walk f.endsCleanly fn).err = none) := by
  unfold walk Snapshotter.walk
  cases hb : f.begin
  · cases h : Store.walkInfo fn dm.store <;>
      simp [Snapshotter.withTransaction, Faults.endsCleanly, unwrapErrors, hb, h]
  · simp [Snapshotter.withTransaction, Faults.endsCleanly, hb]

theorem create_agrees (kind : Kind) (key parent : String) (labels : List (String × String)) :
    (createSnapshot dm f kind key parent labels).dm =
      (dm.withTransaction f true [] (dm.createSnapshot f kind key parent labels)).dm ∧
    ((createSnapshot dm f kind key parent labels).err = none ↔
      (dm.withTransaction f.endsCleanly true [] (dm.createSnapshot f kind key parent labels)).err =
        none) := by
  cases hb : f.begin
  · rw [createSnapshot_eq dm f hb]
    exact complete_agrees dm f hb
  · obtain ⟨h1, h2⟩ := @withTransaction_of_begin _ dm f true []
      (dm.createSnapshot f kind key parent labels) hb
    simp [createSnapshot, hb, h1, h2]

theorem remove_agrees (hh : f.pool.held = false) (key : String) :
    (remove dm f key).dm = (dm.remove f key).dm ∧
    ((remove dm f key).err = none ↔ (dm.remove f.endsCleanly key).err = none) := by
  cases hb : f.begin
  · rw [remove_eq dm f hb hh]
    exact complete_agrees dm f hb
  · obtain ⟨h1, h2⟩ := @withTransaction_of_begin _ dm f true () (dm.removeDevice f key) hb
    simp [remove, Snapshotter.remove, hb, h1, h2]

theorem mounts_dm (key : String) : (mounts dm f key).dm = dm := by
  unfold mounts; split
  · rfl
  · split <;> rfl

end Agreement

/-! ## The two versions -/

section Versions

variable (dm : Snapshotter) (f : Faults)

theorem call_dm (c : Call) (hc : c.removes = true → f.pool.held = false) :
    (call dm f c).dm = (dm.call f c).dm := by
  cases c with
  | stat key => exact (stat_agrees dm f key).1
  | update info fieldpaths => exact (update_agrees dm f info fieldpaths).1
  | usage _ => rfl
  | mounts key => exact (mounts_dm dm f key).trans (Snapshotter.mounts_dm dm f key).symm
  | prepare key parent labels => exact (create_agrees dm f .active key parent labels).1
  | view key parent labels => exact (create_agrees dm f .view key parent labels).1
  | commit name key labels => exact (commit_agrees dm f name key labels).1
  | remove key => exact (remove_agrees dm f (hc rfl) key).1
  | walk fn => exact (walk_agrees dm f fn).1

theorem call_err_iff (c : Call) (hc : ∀ key, c ≠ .mounts key)
    (hh : c.removes = true → f.pool.held = false) :
    (call dm f c).err = none ↔ (dm.call f.endsCleanly c).err = none := by
  cases c with
  | stat key => exact (stat_agrees dm f key).2
  | update info fieldpaths => exact (update_agrees dm f info fieldpaths).2
  | usage _ => exact Iff.rfl
  | mounts key => exact absurd rfl (hc key)
  | prepare key parent labels => exact (create_agrees dm f .active key parent labels).2
  | view key parent labels => exact (create_agrees dm f .view key parent labels).2
  | commit name key labels => exact (commit_agrees dm f name key labels).2
  | remove key => exact (remove_agrees dm f (hh rfl) key).2
  | walk fn => exact (walk_agrees dm f fn).2

theorem mounts_err_eq_none (key : String) :
    (mounts dm f key).err = none ↔ f.begin = false ∧
      ∃ r, dm.store.find? key = some r ∧ (r.kind = .active ∨ r.kind = .view) := by
  unfold mounts Store.getSnapshot
  rcases dm.store.find? key with _ | r <;> cases f.begin <;> simp
  by_cases hk : r.kind = .active ∨ r.kind = .view <;> simp [hk]

theorem stat_err_of_missing {key : String} (h : dm.store.find? key = none) :
    (stat dm f key).err ≠ none := by
  unfold stat Store.getInfo
  cases f.begin <;> simp [h]

/-- **One state machine, up to deferral.** For every state of the snapshotter and every run of
calls, each with its own failure pattern, in which no Remove finds its device held open, the
older version ends in the same store and pool as the newer one: call by call, `complete` keeps
or drops the transaction's view exactly where `withTransaction` does. Where a Remove finds its
device held, the two differ, from every state: the older Remove fails and changes nothing,
while the newer one, which asks for deferred removal, does what it does on a device nobody
holds. -/
theorem same_state_machine (dm : Snapshotter) (cs : List (Call × Faults))
    (hcs : ∀ c ∈ cs, c.1.removes = true → c.2.pool.held = false) :
    run dm cs = dm.run cs ∧
    ∀ (f : Faults) (key : String), f.pool.held = true →
      (remove dm f key).err ≠ none ∧ (remove dm f key).dm = dm ∧
      dm.remove f key = dm.remove { f with pool := { f.pool with held := false } } key := by
  refine ⟨?_, fun f key hh => ⟨(remove_of_held dm f hh key).1, (remove_of_held dm f hh key).2,
    remove_ignores_held dm f key⟩⟩
  induction cs generalizing dm with
  | nil => rfl
  | cons c cs ih =>
    simp only [List.mem_cons, forall_eq_or_imp] at hcs
    rw [run_cons, Snapshotter.run_cons, call_dm _ _ _ hcs.1, ih _ hcs.2]

/-- A base image, its commit, a snapshot of it and its removal, none of them held. -/
def imageCalls : List (Call × Faults) :=
  [(.prepare "a" "" [], {}), (.commit "img" "a" [], {}), (.prepare "b" "img" [], {}),
    (.remove "b", { pool := { fail := true } })]

theorem same_state_machine_image :
    (∀ c ∈ imageCalls, c.1.removes = true → c.2.pool.held = false) ∧
    (run (Snapshotter.newSnapshotter ⟨"p0", 1024⟩) imageCalls =
        (Snapshotter.newSnapshotter ⟨"p0", 1024⟩).run imageCalls ∧
      ∀ (f : Faults) (key : String), f.pool.held = true →
        (remove (Snapshotter.newSnapshotter ⟨"p0", 1024⟩) f key).err ≠ none ∧
        (remove (Snapshotter.newSnapshotter ⟨"p0", 1024⟩) f key).dm =
          Snapshotter.newSnapshotter ⟨"p0", 1024⟩ ∧
        (Snapshotter.newSnapshotter ⟨"p0", 1024⟩).remove f key =
          (Snapshotter.newSnapshotter ⟨"p0", 1024⟩).remove
            { f with pool := { f.pool with held := false } } key) :=
  ⟨by decide, same_state_machine _ imageCalls (by decide)⟩

/-- **What the older version reports.** For every state and failure pattern: every call but
`Mounts`, and but a Remove whose device is held, returns no error exactly when the newer
version's would if the transaction's `Commit` and `Rollback` could not fail, since `complete` and
the deferred `Rollback` drop their errors; and `Mounts` returns no error exactly when its
transaction begins and the key has an Active or View record, the ones `GetSnapshot` hands
out. -/
theorem reports_as_if_commit_never_fails (dm : Snapshotter) (f : Faults) :
    (∀ c : Call, (∀ key, c ≠ .mounts key) → (c.removes = true → f.pool.held = false) →
      ((call dm f c).err = none ↔ (dm.call f.endsCleanly c).err = none)) ∧
    ∀ key, ((call dm f (.mounts key)).err = none ↔ f.begin = false ∧
      ∃ r, dm.store.find? key = some r ∧ (r.kind = .active ∨ r.kind = .view)) :=
  ⟨call_err_iff dm f, mounts_err_eq_none dm f⟩

/-- **A lost commit reported as success.** For every state and every Prepare whose transaction
`Commit` fails: if the older `Prepare` returns no error, it created the device of a new
snapshot and returned that device's mount, but the store is the one before the call, so a
`Stat` of the key fails afterwards, whatever fails in it. -/
theorem prepare_reports_lost_commit (dm : Snapshotter) (f : Faults) (key parent : String)
    (labels : List (String × String)) (hc : f.commit = true)
    (h : (prepare dm f key parent labels).err = none) :
    (prepare dm f key parent labels).dm.store = dm.store ∧
    (∃ snap : Snapshot, (prepare dm f key parent labels).value = dm.buildMounts snap ∧
      dm.getDeviceName snap.id ∉ dm.pool.names ∧
      dm.getDeviceName snap.id ∈ (prepare dm f key parent labels).dm.pool.names) ∧
    ∀ f' : Faults, (stat (prepare dm f key parent labels).dm f' key).err ≠ none := by
  have hb : f.begin = false := by
    cases hb : f.begin
    · rfl
    · simp [prepare, createSnapshot, hb] at h
  unfold prepare at h ⊢
  rw [createSnapshot_eq dm f hb] at h ⊢
  set r := dm.createSnapshot f .active key parent labels dm.store dm.pool with hr
  have hst := complete_store_of_commit dm f r.value r.store r.pool r.err hc
  simp only [complete_err] at h
  rcases Snapshotter.createSnapshot_cases hr.symm with
    ⟨he, -⟩ | ⟨-, snap, hs, hadd, hv⟩ | ⟨he, -⟩ | ⟨he, -⟩
  · simp [h] at he
  · obtain ⟨d, hp, hdn, -, hfresh, -⟩ := Snapshotter.DeviceAdded.cons hadd
    obtain ⟨-, -, hk, -, -⟩ := Store.createSnapshot_eq_ok hs
    refine ⟨hst, ⟨snap, hv, hdn ▸ hfresh, ?_⟩,
      fun f' => stat_err_of_missing _ f' (hst ▸ hk)⟩
    simp [PoolDevice.names, hp, hdn]
  all_goals simp [h] at he

theorem prepare_reports_lost_commit_fresh :
    ({ commit := true } : Faults).commit = true ∧
    (prepare (Snapshotter.newSnapshotter ⟨"p0", 1024⟩) { commit := true } "a" "" []).err =
      none ∧
    (prepare (Snapshotter.newSnapshotter ⟨"p0", 1024⟩) { commit := true } "a" "" []).dm.store =
      (Snapshotter.newSnapshotter ⟨"p0", 1024⟩).store ∧
    (∃ snap : Snapshot,
      (prepare (Snapshotter.newSnapshotter ⟨"p0", 1024⟩) { commit := true } "a" "" []).value =
        (Snapshotter.newSnapshotter ⟨"p0", 1024⟩).buildMounts snap ∧
      (Snapshotter.newSnapshotter ⟨"p0", 1024⟩).getDeviceName snap.id ∉
        (Snapshotter.newSnapshotter ⟨"p0", 1024⟩).pool.names ∧
      (Snapshotter.newSnapshotter ⟨"p0", 1024⟩).getDeviceName snap.id ∈
        (prepare (Snapshotter.newSnapshotter ⟨"p0", 1024⟩) { commit := true } "a" ""
          []).dm.pool.names) ∧
    ∀ f' : Faults,
      (stat (prepare (Snapshotter.newSnapshotter ⟨"p0", 1024⟩) { commit := true } "a" ""
        []).dm f' "a").err ≠ none :=
  ⟨rfl, rfl, prepare_reports_lost_commit _ _ "a" "" [] rfl rfl⟩

end Versions

end Legacy

end FirecrackerContainerd.Devmapper
