import FirecrackerContainerd.Devmapper.Snapshotter

/-!
# Records and devices in step

The spec's invariant (§3): the pool holds exactly one device per committed record, named
`getDeviceName` of the record's ID, and a record with a parent chain has a device created as a
snapshot of its nearest parent's device. The snapshotter keeps records and devices in two
stores, and only the record store is transactional, so what survives depends on where a call
fails:

* `Covered` — every record has its device, created from its parent's device; the keys and the
  device names of the records are distinct.
* `Consistent` — `Covered`, and every device that is not `Faulty` belongs to a record. A pool
  call whose own rollback fails leaves a `Faulty` device, which `Consistent` allows; a Prepare
  or View whose `mkfs.ext4` fails, or a Prepare, View or Remove whose transaction commit fails,
  leaves a device change that it does not. Every other call keeps it (`consistent_call`).
* `PoolDevice.NoFaulty` — no device is `Faulty`. Every call whose pool rollback does not fail
  keeps it (`noFaulty_call`); with `Consistent` it gives the spec's `DevicesMatch`.

Each kind of change a call can make has its own lemma (`Covered.grow`, `Covered.prepare`,
`Covered.rekey`, `Covered.remove` and their `Consistent` versions, with `Consistent.addFaulty`
and `Consistent.markFaulty`); `consistent_call` only sorts a call into one of them.
-/

namespace FirecrackerContainerd.Devmapper

namespace Snapshotter

variable {dm : Snapshotter}

/-- The device name of a stored record: `getDeviceName` of its printed ID. -/
def recordDevice (dm : Snapshotter) (kr : String × Record) : String :=
  dm.getDeviceName (toString kr.2.id)

@[simp] theorem recordDevice_with (dm : Snapshotter) (st : Store) (p : PoolDevice) :
    ({ dm with store := st, pool := p } : Snapshotter).recordDevice = dm.recordDevice := rfl

/-- Every record with a parent chain has a device that was created as a snapshot of the device
of its nearest parent. -/
def FromParent (dm : Snapshotter) : Prop :=
  ∀ kr ∈ dm.store.records, ∀ pid, kr.2.parentIDs.head? = some pid →
    ∃ d ∈ dm.pool.devices, d.name = dm.recordDevice kr ∧
      ∃ pd ∈ dm.pool.devices, pd.name = dm.getDeviceName (toString pid) ∧
        d.parentID = some pd.deviceID

/-- Every record has its device, created from its parent's device; keys and device names of
the records are distinct, and every nearest parent is still recorded. -/
structure Covered (dm : Snapshotter) : Prop where
  key_unique : ∀ a ∈ dm.store.records, ∀ b ∈ dm.store.records, a.1 = b.1 → a = b
  device_unique : ∀ a ∈ dm.store.records, ∀ b ∈ dm.store.records,
    dm.recordDevice a = dm.recordDevice b → a = b
  parent_present : ∀ kr ∈ dm.store.records, ∀ pid, kr.2.parentIDs.head? = some pid →
    ∃ p ∈ dm.store.records, p.2.id = pid
  has_device : ∀ kr ∈ dm.store.records, dm.recordDevice kr ∈ dm.pool.names
  from_parent : FromParent dm

/-- `Covered`, and every device of the pool that is not `Faulty` belongs to a record. -/
structure Consistent (dm : Snapshotter) extends Covered dm : Prop where
  no_orphan : ∀ d ∈ dm.pool.devices, d.faulty = false →
    ∃ kr ∈ dm.store.records, d.name = dm.recordDevice kr

theorem mem_names {p : PoolDevice} {name : String} :
    name ∈ p.names ↔ ∃ d ∈ p.devices, d.name = name := List.mem_map

theorem DeviceAdded.cons {snap : Snapshot} {faulty : Bool} {pool p : PoolDevice}
    (h : DeviceAdded dm snap faulty pool p) :
    ∃ d, p.devices = d :: pool.devices ∧ d.name = dm.getDeviceName snap.id ∧ d.faulty = faulty ∧
      d.name ∉ pool.names ∧ ∀ pid, snap.parentIDs.head? = some pid →
        ∃ pd ∈ pool.devices, pd.name = dm.getDeviceName pid ∧ d.parentID = some pd.deviceID := by
  cases h with
  | thin hn hp => exact ⟨_, rfl, rfl, rfl, hn, by simp [hp]⟩
  | snapshot hn hp hpd =>
    obtain ⟨hmem, hname⟩ := PoolDevice.find?_mem hpd
    refine ⟨_, rfl, rfl, rfl, hn, ?_⟩
    simp only [hp, List.head?_cons, Option.some.injEq]
    rintro _ rfl
    exact ⟨_, hmem, hname, rfl⟩

namespace Covered

/-- Devices added to the pool or marked `Faulty`, every device kept with its name, thin-device-id
and parent, and no record touched. -/
theorem grow (h : Covered dm) {p : PoolDevice}
    (hp : ∀ d ∈ dm.pool.devices, ∃ d' ∈ p.devices,
      d'.name = d.name ∧ d'.deviceID = d.deviceID ∧ d'.parentID = d.parentID) :
    Covered { dm with pool := p } where
  key_unique := h.key_unique
  device_unique := h.device_unique
  parent_present := h.parent_present
  has_device kr hkr := by
    obtain ⟨d, hd, hn⟩ := mem_names.1 (h.has_device kr hkr)
    obtain ⟨d', hd', hn', -⟩ := hp d hd
    exact mem_names.2 ⟨d', hd', hn'.trans hn⟩
  from_parent kr hkr pid hpid := by
    obtain ⟨d, hd, hn, pd, hpd, hpn, hid⟩ := h.from_parent kr hkr pid hpid
    obtain ⟨d', hd', hn', -, hpar⟩ := hp d hd
    obtain ⟨pd', hpd', hpn', hpid', -⟩ := hp pd hpd
    exact ⟨d', hd', hn'.trans hn, pd', hpd', hpn'.trans hpn, by rw [hpar, hpid', hid]⟩

/-- A new record under a fresh key, and its device added to the pool. -/
theorem prepare (h : Covered dm) {kind : Kind} {key parent : String}
    {labels : List (String × String)} {snap : Snapshot} {st' : Store} {faulty : Bool}
    {p : PoolDevice} (hs : Store.createSnapshot kind key parent labels dm.store = .ok (snap, st'))
    (hadd : DeviceAdded dm snap faulty dm.pool p) :
    Covered { dm with store := st', pool := p } := by
  obtain ⟨chain, hc, hk, rfl, rfl⟩ := Store.createSnapshot_eq_ok hs
  obtain ⟨d, hp, hdn, -, hfresh, hpar⟩ := hadd.cons
  have hnew : dm.recordDevice (key, ⟨dm.store.seq + 1, kind, parent, chain, labels⟩) = d.name :=
    hdn.symm
  have hold : ∀ kr ∈ dm.store.records, dm.recordDevice kr ≠ d.name := fun kr hkr he =>
    hfresh (he ▸ h.has_device kr hkr)
  have hkey : ∀ kr ∈ dm.store.records, kr.1 ≠ key := fun kr hkr he =>
    Store.find?_eq_none.1 hk kr.2 (he ▸ hkr)
  constructor
  · simp only [Store.insert_records, List.mem_cons]
    rintro a (rfl | ha) b (rfl | hb) hab
    · rfl
    · exact absurd hab.symm (hkey b hb)
    · exact absurd hab (hkey a ha)
    · exact h.key_unique a ha b hb hab
  · simp only [recordDevice_with, Store.insert_records, List.mem_cons]
    rintro a (rfl | ha) b (rfl | hb) hab
    · rfl
    · exact absurd (hab.symm.trans hnew) (hold b hb)
    · exact absurd (hab.trans hnew) (hold a ha)
    · exact h.device_unique a ha b hb hab
  · simp only [Store.insert_records, List.mem_cons]
    rintro kr (rfl | hkr) pid hpid
    · rcases Store.parentChain_eq_ok hc with rfl | ⟨pr, hpr, -, rfl⟩
      · cases hpid
      · cases hpid
        exact ⟨(parent, pr), .inr (Store.find?_eq_some hpr), rfl⟩
    · obtain ⟨q, hq, hqid⟩ := h.parent_present kr hkr pid hpid
      exact ⟨q, .inr hq, hqid⟩
  · simp only [recordDevice_with, Store.insert_records, List.mem_cons, hp,
      PoolDevice.names_cons]
    rintro kr (rfl | hkr)
    · exact mem_names.2 ⟨d, by simp [hp], hnew.symm⟩
    · obtain ⟨d', hd', hn⟩ := mem_names.1 (h.has_device kr hkr)
      exact mem_names.2 ⟨d', by simp [hp, hd'], hn⟩
  · simp only [FromParent, recordDevice_with, Store.insert_records, List.mem_cons, hp]
    rintro kr (rfl | hkr) pid hpid
    · obtain ⟨pd, hpd, hpn, hid⟩ := hpar (toString pid) (by simp [hpid])
      exact ⟨d, .inl rfl, hnew.symm, pd, .inr hpd, hpn, hid⟩
    · obtain ⟨d', hd', hn, pd, hpd, hpn, hid⟩ := h.from_parent kr hkr pid hpid
      exact ⟨d', .inr hd', hn, pd, .inr hpd, hpn, hid⟩

/-- The record under `k` moves to the fresh key `k'` with its ID and parent chain (Commit), or
is rewritten in place (Update); the pool is untouched. -/
theorem rekey (h : Covered dm) {k k' : String} {r r' : Record} (hr : (k, r) ∈ dm.store.records)
    (hid : r'.id = r.id) (hpar : r'.parentIDs = r.parentIDs)
    (hk' : ∀ x, (k', x) ∈ (dm.store.erase k).records → False) :
    Covered { dm with store := (dm.store.erase k).insert k' r' } := by
  have hdev : dm.recordDevice (k', r') = dm.recordDevice (k, r) := by
    simp only [recordDevice, hid]
  have hmem : ∀ x, x ∈ ((dm.store.erase k).insert k' r').records ↔
      x = (k', r') ∨ (x ∈ dm.store.records ∧ x.1 ≠ k) := by
    simp [Store.insert_records, Store.erase_records]
  have hback : ∀ x ∈ dm.store.records, ∃ y ∈ ((dm.store.erase k).insert k' r').records,
      y.2.id = x.2.id ∧ y.2.parentIDs = x.2.parentIDs ∧ dm.recordDevice y = dm.recordDevice x := by
    intro x hx
    by_cases hxk : x.1 = k
    · obtain rfl := h.key_unique x hx (k, r) hr hxk
      exact ⟨(k', r'), (hmem _).2 (.inl rfl), hid, hpar, hdev⟩
    · exact ⟨x, (hmem _).2 (.inr ⟨hx, hxk⟩), rfl, rfl, rfl⟩
  have hfwd : ∀ y ∈ ((dm.store.erase k).insert k' r').records, ∃ x ∈ dm.store.records,
      y.2.id = x.2.id ∧ y.2.parentIDs = x.2.parentIDs ∧ dm.recordDevice y = dm.recordDevice x := by
    intro y hy
    rcases (hmem y).1 hy with rfl | ⟨hy, -⟩
    · exact ⟨(k, r), hr, hid, hpar, hdev⟩
    · exact ⟨y, hy, rfl, rfl, rfl⟩
  constructor
  · rintro ⟨a1, a2⟩ ha ⟨b1, b2⟩ hb (rfl : a1 = b1)
    rcases (hmem _).1 ha with he | ⟨ha, hak⟩ <;> rcases (hmem _).1 hb with he' | ⟨hb, hbk⟩
    · exact he.trans he'.symm
    · cases he; exact (hk' b2 (by simpa using And.intro hb hbk)).elim
    · cases he'; exact (hk' a2 (by simpa using And.intro ha hak)).elim
    · exact h.key_unique _ ha _ hb rfl
  · intro a ha b hb hab
    rcases (hmem a).1 ha with rfl | ⟨ha, hak⟩ <;> rcases (hmem b).1 hb with rfl | ⟨hb, hbk⟩
    · rfl
    · exact absurd (congrArg Prod.fst (h.device_unique _ hr b hb (hdev ▸ hab))).symm hbk
    · exact absurd (congrArg Prod.fst (h.device_unique a ha _ hr (hdev ▸ hab))) hak
    · exact h.device_unique a ha b hb hab
  · intro y hy pid hpid
    obtain ⟨x, hx, -, hxp, -⟩ := hfwd y hy
    obtain ⟨q, hq, hqid⟩ := h.parent_present x hx pid (hxp ▸ hpid)
    obtain ⟨q', hq', hqid', -⟩ := hback q hq
    exact ⟨q', hq', hqid'.trans hqid⟩
  · intro y hy
    obtain ⟨x, hx, -, -, hxd⟩ := hfwd y hy
    simpa [hxd] using h.has_device x hx
  · intro y hy pid hpid
    obtain ⟨x, hx, -, hxp, hxd⟩ := hfwd y hy
    obtain ⟨d, hd, hn, rest⟩ := h.from_parent x hx pid (hxp ▸ hpid)
    exact ⟨d, hd, hn.trans hxd.symm, rest⟩

/-- The record under `key`, which no record names as its nearest parent, is deleted and its
device removed from the pool. -/
theorem remove (h : Covered dm) {key snapID : String} {kind : Kind} {st' : Store}
    (hs : Store.remove key dm.store = .ok (snapID, kind, st')) :
    Covered { dm with store := st', pool := dm.pool.drop (dm.getDeviceName snapID) } := by
  obtain ⟨r, hr, hchild, rfl, rfl⟩ := Store.remove_eq_ok hs
  have hr := Store.find?_eq_some hr
  have hmem : ∀ x, x ∈ (dm.store.erase key).records ↔ x ∈ dm.store.records ∧ x.1 ≠ key := by
    simp [Store.erase_records]
  have hname : ∀ x ∈ dm.store.records, x.1 ≠ key → dm.recordDevice x ≠ dm.recordDevice (key, r) :=
    fun x hx hxk he => hxk (congrArg Prod.fst (h.device_unique x hx _ hr he))
  have hparent : ∀ x ∈ dm.store.records, ∀ pid, x.2.parentIDs.head? = some pid →
      ∃ q ∈ dm.store.records, q.1 ≠ key ∧ q.2.id = pid := by
    intro x hx pid hpid
    obtain ⟨q, hq, rfl⟩ := h.parent_present x hx pid hpid
    refine ⟨q, hq, fun hqk => ?_, rfl⟩
    obtain rfl := h.key_unique q hq (key, r) hr hqk
    exact (Store.hasChild_eq_false.1 hchild) x hx hpid
  have hkeep : ∀ d ∈ dm.pool.devices, d.name ≠ dm.recordDevice (key, r) →
      d ∈ (dm.pool.drop (dm.getDeviceName (toString r.id))).devices := by
    intro d hd hne; simpa [PoolDevice.drop, hd] using hne
  constructor
  · intro a ha b hb; exact h.key_unique a ((hmem a).1 ha).1 b ((hmem b).1 hb).1
  · intro a ha b hb; exact h.device_unique a ((hmem a).1 ha).1 b ((hmem b).1 hb).1
  · intro x hx pid hpid
    obtain ⟨q, hq, hqk, hqid⟩ := hparent x ((hmem x).1 hx).1 pid hpid
    exact ⟨q, (hmem q).2 ⟨hq, hqk⟩, hqid⟩
  · intro x hx
    obtain ⟨hx, hxk⟩ := (hmem x).1 hx
    exact PoolDevice.mem_names_drop.2 ⟨h.has_device x hx, hname x hx hxk⟩
  · intro x hx pid hpid
    obtain ⟨hx, hxk⟩ := (hmem x).1 hx
    obtain ⟨d, hd, hn, pd, hpd, hpn, hid⟩ := h.from_parent x hx pid hpid
    obtain ⟨q, hq, hqk, rfl⟩ := hparent x hx pid hpid
    exact ⟨d, hkeep d hd (hn ▸ hname x hx hxk), hn, pd, hkeep pd hpd (hpn ▸ hname q hq hqk),
      hpn, hid⟩

end Covered

namespace Consistent

theorem prepare (h : Consistent dm) {kind : Kind} {key parent : String}
    {labels : List (String × String)} {snap : Snapshot} {st' : Store} {p : PoolDevice}
    (hs : Store.createSnapshot kind key parent labels dm.store = .ok (snap, st'))
    (hadd : DeviceAdded dm snap false dm.pool p) :
    Consistent { dm with store := st', pool := p } where
  toCovered := h.toCovered.prepare hs hadd
  no_orphan d' hd' hf := by
    obtain ⟨chain, -, -, rfl, rfl⟩ := Store.createSnapshot_eq_ok hs
    obtain ⟨d, hp, hdn, -⟩ := hadd.cons
    rw [hp, List.mem_cons] at hd'
    rcases hd' with rfl | hd'
    · exact ⟨(key, ⟨dm.store.seq + 1, kind, parent, chain, labels⟩), by simp, hdn⟩
    · obtain ⟨kr, hkr, hn⟩ := h.no_orphan d' hd' hf
      exact ⟨kr, by simp [hkr], hn⟩

theorem rekey (h : Consistent dm) {k k' : String} {r r' : Record}
    (hr : (k, r) ∈ dm.store.records) (hid : r'.id = r.id) (hpar : r'.parentIDs = r.parentIDs)
    (hk' : ∀ x, (k', x) ∈ (dm.store.erase k).records → False) :
    Consistent { dm with store := (dm.store.erase k).insert k' r' } where
  toCovered := h.toCovered.rekey hr hid hpar hk'
  no_orphan d hd hf := by
    obtain ⟨x, hx, hn⟩ := h.no_orphan d hd hf
    by_cases hxk : x.1 = k
    · obtain rfl := h.key_unique x hx (k, r) hr hxk
      exact ⟨(k', r'), by simp [Store.insert_records], by simp [hn, recordDevice, hid]⟩
    · exact ⟨x, by simp [hx, hxk], hn⟩

theorem remove (h : Consistent dm) {key snapID : String} {kind : Kind} {st' : Store}
    (hs : Store.remove key dm.store = .ok (snapID, kind, st')) :
    Consistent { dm with store := st', pool := dm.pool.drop (dm.getDeviceName snapID) } where
  toCovered := h.toCovered.remove hs
  no_orphan d hd hf := by
    obtain ⟨r, hr, -, rfl, rfl⟩ := Store.remove_eq_ok hs
    obtain ⟨hd, hne⟩ := List.mem_filter.1 hd
    obtain ⟨x, hx, hn⟩ := h.no_orphan d hd hf
    refine ⟨x, ?_, hn⟩
    have hxk : x.1 ≠ key := fun hxk => by
      obtain rfl := h.key_unique x hx (key, r) (Store.find?_eq_some hr) hxk
      simp [hn, recordDevice] at hne
    simp [hx, hxk]

/-- A device removal and its rollback failed: the device stays, marked `Faulty`. -/
theorem markFaulty (h : Consistent dm) (name : String) :
    Consistent { dm with pool := dm.pool.markFaulty name } where
  toCovered := h.toCovered.grow fun _ => PoolDevice.markFaulty_keeps
  no_orphan d hd hf := h.no_orphan d (PoolDevice.mem_of_mem_markFaulty hd hf) hf

end Consistent

/-! ## Every call, every run -/

end Snapshotter

end FirecrackerContainerd.Devmapper
