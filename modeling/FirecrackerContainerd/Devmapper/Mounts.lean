import FirecrackerContainerd.Devmapper.Legacy

/-!
# What `Mounts` returns

`Mounts` reads the snapshot with `GetSnapshot` in a read-only transaction and builds its
mounts, but returns a nil error whatever the transaction said. `GetSnapshot` hands out Active
and View snapshots only; for a key with no record, or with a Committed record, it fails, and
`Mounts` then builds its mount from the zero snapshot. So:

* `mounts_of_snapshot` — for an Active or View key it returns the snapshot's one ext4 mount,
  read-only unless Active; `mounts_after_create` ties that to the mounts Prepare and View
  returned.
* `mounts_of_refused` — for a key `GetSnapshot` refuses, or with no transaction, it returns a
  nil error and a mount of `/dev/mapper/<pool>-snap-`, the device path of an empty snapshot ID;
  the name a Commit gives is such a key (`mounts_after_commit`).
* `mounts_best_effort` — all of it, from every state.
* `mounts_drops_error` — the older `Mounts` returns `GetSnapshot`'s error where this one
  returns nil and the zero-snapshot mount.
-/

namespace FirecrackerContainerd.Devmapper

namespace Snapshotter

variable (dm : Snapshotter) (f : Faults)

/-- `Mounts` as one equation: a nil error, no change, and the mounts of the snapshot read, or of
the zero snapshot. -/
theorem mounts_eq (key : String) :
    dm.mounts f key = ⟨dm.buildMounts
      (if f.begin then default else (Store.getSnapshot key dm.store).toOption.getD default),
      none, dm⟩ := by
  have hd := mounts_dm dm f key
  unfold mounts at hd ⊢
  dsimp only at hd ⊢
  rw [hd, withTransaction_value]
  congr 2
  cases f.begin
  · cases Store.getSnapshot key dm.store <;> rfl
  · rfl

/-- The mount of the zero snapshot: ext4, read-only, on the device of the empty snapshot ID. -/
theorem buildMounts_default :
    dm.buildMounts default = [⟨"ext4", getFullDevicePath (dm.getDeviceName ""), ["ro"]⟩] := rfl

/-- `Mounts` of a key `GetSnapshot` refuses, or whose transaction cannot begin, under every
failure pattern: a nil error and a read-only ext4 mount of the device of the empty snapshot
ID. -/
theorem mounts_of_refused (key : String)
    (h : f.begin = true ∨ (Store.getSnapshot key dm.store).toOption = none) :
    dm.mounts f key =
      ⟨[⟨"ext4", getFullDevicePath (dm.getDeviceName ""), ["ro"]⟩], none, dm⟩ := by
  rw [mounts_eq, ← buildMounts_default]
  rcases h with h | h <;> simp [h]

/-- `Mounts` of an Active or View key: one ext4 mount of the `/dev/mapper` path of the record's
device, with `ro` exactly when the snapshot is not Active, and a nil error. -/
theorem mounts_of_snapshot (key : String) (r : Record) (h : dm.store.find? key = some r)
    (hk : r.kind = .active ∨ r.kind = .view) (hb : f.begin = false) :
    dm.mounts f key = ⟨[⟨"ext4", getFullDevicePath (dm.getDeviceName (toString r.id)),
        if r.kind ≠ .active then ["ro"] else []⟩], none, dm⟩ := by
  rw [mounts_eq]
  simp [hb, Store.getSnapshot, h, hk, Except.toOption, buildMounts, getDevicePath,
    Record.toSnapshot, fsTypeExt4]

/-- After a Prepare or View of `key` returns a nil error, `Mounts(key)` returns the mounts it
returned. -/
theorem mounts_after_create (f' : Faults) (hb : f'.begin = false) (kind : Kind)
    (key parent : String) (labels : List (String × String))
    (he : (dm.withTransaction f true [] (dm.createSnapshot f kind key parent labels)).err = none) :
    ((dm.withTransaction f true [] (dm.createSnapshot f kind key parent labels)).dm.mounts
      f' key).value =
      (dm.withTransaction f true [] (dm.createSnapshot f kind key parent labels)).value := by
  obtain ⟨hb0, hfn, hc⟩ := (withTransaction_err_eq_none ..).1 he
  rcases createSnapshot_cases (show dm.createSnapshot f kind key parent labels dm.store dm.pool
    = _ from rfl) with ⟨hs, -⟩ | ⟨-, snap, hs, -, hv⟩ | ⟨hs, -⟩ | ⟨hs, -⟩
  · simp [hfn] at hs
  · rw [withTransaction_dm_of_ok _ _ _ _ hb0 hfn (by simpa using hc), withTransaction_value, hb0]
    have hk := Store.createSnapshot_kind hs
    obtain ⟨chain, -, -, rfl, hst⟩ := Store.createSnapshot_eq_ok hs
    simp [mounts_eq, hb, hv, hst, hk, Store.getSnapshot, Store.find?, Except.toOption,
      Record.toSnapshot, buildMounts, getDevicePath]
  all_goals simp [hfn] at hs

/-- After `Commit(name, key)` returns a nil error, `GetSnapshot` refuses `name`, whose record is
Committed: `Mounts(name)` is the zero-snapshot mount. -/
theorem mounts_after_commit (f' : Faults) (name key : String) (labels : List (String × String))
    (he : (dm.commit f name key labels).err = none) :
    (dm.commit f name key labels).dm.mounts f' name =
      ⟨[⟨"ext4", getFullDevicePath (dm.getDeviceName ""), ["ro"]⟩], none,
        (dm.commit f name key labels).dm⟩ := by
  rcases commit_cases dm f name key labels with ⟨he', -⟩ | ⟨-, id, st', hs, h1⟩
  · exact absurd he he'
  obtain ⟨r, -, -, -, rfl⟩ := Store.commitActive_eq_ok hs
  rw [h1]
  exact mounts_of_refused _ f' name (.inr (by simp [Store.getSnapshot, Except.toOption]))

/-- **What `Mounts` returns.** From every state, for every key and under every failure pattern:
a nil error and no change to the snapshotter. When the read transaction begins and the key has
an Active or View record, one ext4 mount of the `/dev/mapper` path of the record's device,
read-only exactly when the record is not Active; otherwise — no record, a Committed record, or
no transaction — the read-only mount built from the zero snapshot, whose device name has an
empty snapshot ID. And for a `Mounts` whose transaction begins: after a Prepare or View of a
key, the mounts it returned; after a Commit, under the new name, the zero-snapshot mount. -/
theorem mounts_best_effort :
    (∀ key, dm.mounts f key =
      ⟨match (if f.begin then none else dm.store.find? key) with
        | some r => if r.kind = .active ∨ r.kind = .view then
            [⟨"ext4", getFullDevicePath (dm.getDeviceName (toString r.id)),
              if r.kind ≠ .active then ["ro"] else []⟩]
          else [⟨"ext4", getFullDevicePath (dm.getDeviceName ""), ["ro"]⟩]
        | none => [⟨"ext4", getFullDevicePath (dm.getDeviceName ""), ["ro"]⟩], none, dm⟩) ∧
    ∀ f' : Faults, f'.begin = false →
      (∀ kind key parent labels,
        (dm.withTransaction f true [] (dm.createSnapshot f kind key parent labels)).err = none →
        ((dm.withTransaction f true [] (dm.createSnapshot f kind key parent labels)).dm.mounts
          f' key).value =
          (dm.withTransaction f true [] (dm.createSnapshot f kind key parent labels)).value) ∧
      (∀ name key labels, (dm.commit f name key labels).err = none →
        (dm.commit f name key labels).dm.mounts f' name =
          ⟨[⟨"ext4", getFullDevicePath (dm.getDeviceName ""), ["ro"]⟩], none,
            (dm.commit f name key labels).dm⟩) := by
  refine ⟨fun key => ?_, fun f' hb => ⟨mounts_after_create dm f f' hb,
    fun name key labels => mounts_after_commit dm f f' name key labels⟩⟩
  cases hb : f.begin
  · cases hr : dm.store.find? key with
    | none => exact mounts_of_refused dm f key (.inr (by simp [Store.getSnapshot, hr, Except.toOption]))
    | some r =>
      by_cases hk : r.kind = .active ∨ r.kind = .view
      · simpa [hk] using mounts_of_snapshot dm f key r hr hk hb
      · simpa [hk] using mounts_of_refused dm f key
          (.inr (by simp [Store.getSnapshot, hr, hk, Except.toOption]))
  · exact mounts_of_refused dm f key (.inl hb)

/-- The failing input: on a fresh snapshotter of pool `p0`, `Mounts("a")` of a key with no record
returns a nil error and a mount of `/dev/mapper/p0-snap-`, where the older `Mounts` returns
`GetSnapshot`'s `NotFound`; after a Prepare of `a` and its Commit as `img`, `Mounts("img")`
returns the same mount, while the device of `img` is `p0-snap-1`, and the older `Mounts`
returns `FailedPrecondition`. In general, from every state, whenever `GetSnapshot` fails in a
transaction that began, the newer `Mounts` drops its error and the older one returns it. -/
theorem mounts_drops_error :
    (∀ (dm : Snapshotter) (f : Faults) (key : String) (e : Error), f.begin = false →
      Store.getSnapshot key dm.store = .error e →
      dm.mounts f key =
        ⟨[⟨"ext4", getFullDevicePath (dm.getDeviceName ""), ["ro"]⟩], none, dm⟩ ∧
      Legacy.mounts dm f key = ⟨[], some e, dm⟩) ∧
    (newSnapshotter ⟨"p0", 1024⟩).mounts {} "a" =
      ⟨[⟨"ext4", "/dev/mapper/p0-snap-", ["ro"]⟩], none, newSnapshotter ⟨"p0", 1024⟩⟩ ∧
    (Legacy.mounts (newSnapshotter ⟨"p0", 1024⟩) {} "a").err =
      some (.notFound "snapshot does not exist") ∧
    (((newSnapshotter ⟨"p0", 1024⟩).run
        [(.prepare "a" "" [], {}), (.commit "img" "a" [], {})]).mounts {} "img").value =
      [⟨"ext4", "/dev/mapper/p0-snap-", ["ro"]⟩] ∧
    (((newSnapshotter ⟨"p0", 1024⟩).run
        [(.prepare "a" "" [], {}), (.commit "img" "a" [], {})]).mounts {} "img").err = none ∧
    ((newSnapshotter ⟨"p0", 1024⟩).run
        [(.prepare "a" "" [], {}), (.commit "img" "a" [], {})]).store.find? "img" =
      some ⟨1, .committed, "", [], []⟩ ∧
    (Legacy.mounts ((newSnapshotter ⟨"p0", 1024⟩).run
        [(.prepare "a" "" [], {}), (.commit "img" "a" [], {})]) {} "img").err =
      some (.failedPrecondition "requested snapshot img not active or view") :=
  ⟨fun dm f key e hb he => ⟨mounts_of_refused dm f key (.inr (by rw [he]; rfl)),
    by simp [Legacy.mounts, hb, he]⟩, rfl, rfl, rfl, rfl, rfl, rfl⟩

end Snapshotter

end FirecrackerContainerd.Devmapper
