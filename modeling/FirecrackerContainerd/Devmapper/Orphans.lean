import FirecrackerContainerd.Devmapper.Legacy
import FirecrackerContainerd.Devmapper.DeviceNames

/-!
# Orphans: a device without a record, a record without a device

The records are in the transactional MetaStore and the devices are in the pool, which no
transaction covers. So a call whose transaction does not commit after its pool call succeeded
leaves an orphan (spec §3 makes orphans a recovery event; the snapshotter has no recovery).
Both kinds stay for good:

* A Prepare or View that creates its device and then loses its record (its `mkfs.ext4` fails, or
  its transaction's `Commit` does, or its pool call and the pool's rollback fail and leave the
  device `Faulty`) leaves the device of ID `seq + 1`. `CreateSnapshot` gives a
  new snapshot the ID `seq + 1` from the bucket's sequence inside the transaction, so the
  rollback rolls the sequence back too. Every later create is handed that ID again and finds its
  device taken (`leftover_device_blocks_creates`).
* A Remove whose `Commit` fails after `RemoveDevice` keeps the record of a device that is gone.
  Every later Remove of the record fails at `RemoveDevice`, and no create makes that device
  again, since creates only use IDs above every record's (`orphan_record_never_removed`).

The proofs rest on one inversion lemma and a few invariants:

* `Change` and `call_change` — everything one call can do to the snapshotter, whatever fails
  in it. The invariants below are derived from it alone.
* `IdsBelowSeq`, `KeysUnique` — every record's ID is at most the sequence, and no two records
  share a key; every call keeps them (`idsBelowSeq_run`, `keysUnique_run`).
* `Blocked` — the device of the next ID exists: every call keeps it and every Prepare and View
  fails in it. `Orphaned` — a record's device is gone: every call keeps it and every Remove of
  the record fails in it. Both hold for the two versions of the snapshotter.
-/

namespace FirecrackerContainerd.Devmapper

namespace Store

@[simp] theorem insert_seq (st : Store) (key : String) (r : Record) :
    (st.insert key r).seq = st.seq := rfl

@[simp] theorem erase_seq (st : Store) (key : String) : (st.erase key).seq = st.seq := rfl

end Store

namespace Snapshotter

/-- What one call can do to the snapshotter: nothing; commit a new record and add its device;
add the device, `Faulty` or not, and keep no record (`mkfs.ext4`, the commit, or the pool call
and its rollback failed); move a record to a key with its ID (Commit, Update); delete a record
and remove its device; remove the device and keep the record (the commit failed); or mark a
device `Faulty` (a removal and its rollback failed). -/
inductive Change (dm : Snapshotter) : Snapshotter → Prop
  | same : Change dm dm
  | create {kind : Kind} {key parent : String} {labels : List (String × String)}
      {snap : Snapshot} {st' : Store} {p : PoolDevice} :
      Store.createSnapshot kind key parent labels dm.store = .ok (snap, st') →
      DeviceAdded dm snap false dm.pool p → Change dm { dm with store := st', pool := p }
  | leftover {kind : Kind} {key parent : String} {labels : List (String × String)}
      {snap : Snapshot} {st' : Store} {faulty : Bool} {p : PoolDevice} :
      Store.createSnapshot kind key parent labels dm.store = .ok (snap, st') →
      DeviceAdded dm snap faulty dm.pool p → Change dm { dm with pool := p }
  | rekey {k k' : String} {r r' : Record} :
      (k, r) ∈ dm.store.records → r'.id = r.id →
      (∀ kr ∈ (dm.store.erase k).records, kr.1 ≠ k') →
      Change dm { dm with store := (dm.store.erase k).insert k' r' }
  | remove {key snapID : String} {kind : Kind} {st' : Store} :
      Store.remove key dm.store = .ok (snapID, kind, st') →
      dm.getDeviceName snapID ∈ dm.pool.names →
      Change dm { dm with store := st', pool := dm.pool.drop (dm.getDeviceName snapID) }
  | removeLeft {key snapID : String} {kind : Kind} {st' : Store} :
      Store.remove key dm.store = .ok (snapID, kind, st') →
      dm.getDeviceName snapID ∈ dm.pool.names →
      Change dm { dm with pool := dm.pool.drop (dm.getDeviceName snapID) }
  | markFaulty (name : String) : Change dm { dm with pool := dm.pool.markFaulty name }

/-- Every record's ID is at most the bucket sequence. -/
def IdsBelowSeq (dm : Snapshotter) : Prop := ∀ kr ∈ dm.store.records, kr.2.id ≤ dm.store.seq

/-- No two records share a key. -/
def KeysUnique (dm : Snapshotter) : Prop :=
  ∀ a ∈ dm.store.records, ∀ b ∈ dm.store.records, a.1 = b.1 → a = b

/-- The sequence is above every record's ID, and the device the next snapshot would be given
exists already. -/
structure Blocked (dm : Snapshotter) : Prop where
  ids : IdsBelowSeq dm
  next_taken : dm.getDeviceName (toString (dm.store.seq + 1)) ∈ dm.pool.names

/-- The record of snapshot `id` is in the store, and its device is not in the pool. -/
structure Orphaned (dm : Snapshotter) (id : Nat) : Prop where
  ids : IdsBelowSeq dm
  keys : KeysUnique dm
  recorded : ∃ kr ∈ dm.store.records, kr.2.id = id
  no_device : dm.getDeviceName (toString id) ∉ dm.pool.names

variable {dm : Snapshotter}

/-! ## Everything a call can do -/

theorem Change.of_eq {dm' : Snapshotter} (h : dm' = dm) : Change dm dm' := h ▸ .same

theorem create_change (f : Faults) (kind : Kind) (key parent : String)
    (labels : List (String × String)) :
    Change dm (dm.withTransaction f true [] (dm.createSnapshot f kind key parent labels)).dm := by
  rcases create_cases dm f kind key parent labels with ⟨-, h1⟩ |
    ⟨-, snap, st', p, hs, hadd, h1⟩ | ⟨-, -, snap, st', p, hs, hadd, h1⟩ |
    ⟨-, -, -, snap, st', p, hs, hadd, h1⟩ <;> rw [h1]
  · exact .same
  · exact .create hs hadd
  all_goals exact .leftover hs hadd

theorem call_change (f : Faults) : ∀ c, Change dm (dm.call f c).dm
  | .stat key => .of_eq (stat_dm dm f key)
  | .update info fieldpaths => by
    show Change dm (dm.update f info fieldpaths).dm
    rcases update_cases dm f info fieldpaths with ⟨-, h1⟩ | ⟨-, info', st', hs, h1⟩
    · exact .of_eq h1
    · obtain ⟨r, labels, hr, rfl⟩ := Store.updateInfo_eq_ok hs
      rw [h1]
      exact .rekey (Store.find?_eq_some hr) rfl fun kr hkr => by
        simpa using (List.mem_filter.1 hkr).2
  | .usage _ => .same
  | .mounts key => .of_eq (mounts_dm dm f key)
  | .prepare key parent labels => create_change f .active key parent labels
  | .view key parent labels => create_change f .view key parent labels
  | .commit name key labels => by
    show Change dm (dm.commit f name key labels).dm
    rcases commit_cases dm f name key labels with ⟨-, h1⟩ | ⟨-, id, st', hs, h1⟩
    · exact .of_eq h1
    · obtain ⟨r, hn, hk, -, rfl⟩ := Store.commitActive_eq_ok hs
      rw [h1]
      exact .rekey (Store.find?_eq_some hk) rfl fun kr hkr he =>
        Store.find?_eq_none.1 hn kr.2 (he ▸ (List.mem_filter.1 hkr).1)
  | .remove key => by
    show Change dm (dm.remove f key).dm
    rcases remove_cases dm f key with ⟨-, h1⟩ | ⟨-, snapID, kind, st', hs, hn, h1⟩ |
      ⟨-, -, snapID, kind, st', hs, hn, h1⟩ | ⟨-, -, -, snapID, kind, st', -, -, h1⟩ <;> rw [h1]
    · exact .same
    · exact .remove hs hn
    · exact .removeLeft hs hn
    · exact .markFaulty _
  | .walk fn => .of_eq (walk_dm dm f fn)

/-! ## The sequence bounds every ID -/

theorem idsBelowSeq_new (config : Config) : IdsBelowSeq (newSnapshotter config) := by
  simp [IdsBelowSeq, newSnapshotter, Store.empty]

theorem Change.idsBelowSeq {dm' : Snapshotter} (hc : Change dm dm') (h : IdsBelowSeq dm) :
    IdsBelowSeq dm' := by
  cases hc with
  | same | leftover _ _ | removeLeft _ _ | markFaulty _ => exact h
  | create hs _ =>
    obtain ⟨_, _, _, _, rfl⟩ := Store.createSnapshot_eq_ok hs
    simp only [IdsBelowSeq, List.mem_cons]
    rintro kr (rfl | hkr)
    · exact le_rfl
    · exact Nat.le_succ_of_le (h kr hkr)
  | rekey hr hid _ =>
    simp only [IdsBelowSeq, Store.insert_records, Store.erase_records, Store.insert_seq,
      Store.erase_seq, List.mem_cons, List.mem_filter]
    rintro kr (rfl | ⟨hkr, -⟩)
    · exact hid ▸ h _ hr
    · exact h kr hkr
  | remove hs _ =>
    obtain ⟨_, _, _, _, rfl⟩ := Store.remove_eq_ok hs
    exact fun kr hkr => h kr (List.mem_filter.1 hkr).1

theorem idsBelowSeq_run (h : IdsBelowSeq dm) (cs : List (Call × Faults)) :
    IdsBelowSeq (dm.run cs) := by
  induction cs generalizing dm with
  | nil => exact h
  | cons c cs ih => exact ih ((call_change c.2 c.1).idsBelowSeq h)

theorem keysUnique_new (config : Config) : KeysUnique (newSnapshotter config) := by
  simp [KeysUnique, newSnapshotter, Store.empty]

/-- A record under a key no other record has keeps the keys unique. -/
theorem keys_unique_cons {l : List (String × Record)} {kr : String × Record}
    (hl : ∀ a ∈ l, ∀ b ∈ l, a.1 = b.1 → a = b) (hk : ∀ b ∈ l, b.1 ≠ kr.1) :
    ∀ a ∈ kr :: l, ∀ b ∈ kr :: l, a.1 = b.1 → a = b := by
  simp only [List.mem_cons]
  rintro a (rfl | ha) b (rfl | hb) hab
  · rfl
  · exact absurd hab.symm (hk b hb)
  · exact absurd hab (hk a ha)
  · exact hl a ha b hb hab

theorem Change.keysUnique {dm' : Snapshotter} (hc : Change dm dm') (h : KeysUnique dm) :
    KeysUnique dm' := by
  have h_erase : ∀ k, KeysUnique { dm with store := dm.store.erase k } := fun _ a ha b hb =>
    h a (List.mem_filter.1 ha).1 b (List.mem_filter.1 hb).1
  cases hc with
  | same | leftover _ _ | removeLeft _ _ | markFaulty _ => exact h
  | @create _ key _ _ _ _ _ hs _ =>
    obtain ⟨_, _, hk, _, rfl⟩ := Store.createSnapshot_eq_ok hs
    exact keys_unique_cons h fun kr hkr (he : kr.1 = key) =>
      Store.find?_eq_none.1 hk kr.2 (he ▸ hkr)
  | @rekey k _ _ _ _ _ hk' => exact keys_unique_cons (h_erase k) hk'
  | @remove key _ _ _ hs _ =>
    obtain ⟨_, _, _, _, rfl⟩ := Store.remove_eq_ok hs
    exact h_erase key

theorem keysUnique_run (h : KeysUnique dm) (cs : List (Call × Faults)) :
    KeysUnique (dm.run cs) := by
  induction cs generalizing dm with
  | nil => exact h
  | cons c cs ih => exact ih ((call_change c.2 c.1).keysUnique h)

/-- Device names of two IDs are equal only for the same ID. -/
theorem getDeviceName_toString_inj {a b : Nat} :
    dm.getDeviceName (toString a) = dm.getDeviceName (toString b) ↔ a = b := by
  rw [dm.getDeviceName_inj dm (isNumeral_toString a) (isNumeral_toString b)]
  simp

/-! ## A taken next ID blocks every create -/

/-- In a blocked state no create can add its device: the device of its ID exists. -/
theorem Blocked.not_added (h : Blocked dm) {kind : Kind} {key parent : String}
    {labels : List (String × String)} {snap : Snapshot} {st' : Store} {faulty : Bool}
    {p : PoolDevice} (hs : Store.createSnapshot kind key parent labels dm.store = .ok (snap, st'))
    (hadd : DeviceAdded dm snap faulty dm.pool p) : False := by
  obtain ⟨_, _, _, rfl, -⟩ := Store.createSnapshot_eq_ok hs
  obtain ⟨d, -, hdn, -, hfresh, -⟩ := hadd.cons
  exact hfresh (hdn ▸ h.next_taken)

/-- Remove only removes the device of a recorded ID, never the next ID's. -/
theorem Blocked.next_taken_removed (h : Blocked dm) {key snapID : String} {kind : Kind}
    {st' : Store} (hs : Store.remove key dm.store = .ok (snapID, kind, st')) :
    dm.getDeviceName (toString (dm.store.seq + 1)) ∈
      (dm.pool.drop (dm.getDeviceName snapID)).names := by
  obtain ⟨r, hr, -, rfl, -⟩ := Store.remove_eq_ok hs
  refine PoolDevice.mem_names_drop.2 ⟨h.next_taken, fun he => ?_⟩
  have hle : r.id ≤ dm.store.seq := h.ids _ (Store.find?_eq_some hr)
  have := getDeviceName_toString_inj.1 he
  omega

theorem Change.blocked {dm' : Snapshotter} (hc : Change dm dm') (h : Blocked dm) : Blocked dm' := by
  refine ⟨hc.idsBelowSeq h.ids, ?_⟩
  cases hc with
  | same | rekey _ _ _ => exact h.next_taken
  | create hs hadd | leftover hs hadd => exact (h.not_added hs hadd).elim
  | remove hs _ =>
    obtain ⟨_, _, _, _, rfl⟩ := Store.remove_eq_ok hs
    exact h.next_taken_removed hs
  | removeLeft hs _ => exact h.next_taken_removed hs
  | markFaulty _ => exact (PoolDevice.names_markFaulty _ _).symm ▸ h.next_taken

theorem blocked_run (h : Blocked dm) (cs : List (Call × Faults)) : Blocked (dm.run cs) := by
  induction cs generalizing dm with
  | nil => exact h
  | cons c cs ih => exact ih ((call_change c.2 c.1).blocked h)

theorem create_err_of_blocked (h : Blocked dm) (f : Faults) (kind : Kind) (key parent : String)
    (labels : List (String × String)) :
    (dm.withTransaction f true [] (dm.createSnapshot f kind key parent labels)).err ≠ none := by
  rcases create_cases dm f kind key parent labels with
    ⟨he, -⟩ | ⟨-, snap, st', p, hs, hadd, -⟩ | ⟨he, -⟩ | ⟨he, -⟩
  · exact he
  · exact (h.not_added hs hadd).elim
  all_goals exact he

/-- Every Prepare and View fails in a blocked state, in both versions of the snapshotter. -/
theorem call_err_of_blocked (h : Blocked dm) (f : Faults) {c : Call} (hc : c.creates = true) :
    (dm.call f c).err ≠ none ∧ (Legacy.call dm f c).err ≠ none := by
  cases c with
  | prepare key parent labels =>
    exact ⟨create_err_of_blocked h f .active key parent labels, fun he =>
      create_err_of_blocked h f.endsCleanly .active key parent labels
        ((Legacy.create_agrees dm f .active key parent labels).2.1 he)⟩
  | view key parent labels =>
    exact ⟨create_err_of_blocked h f .view key parent labels, fun he =>
      create_err_of_blocked h f.endsCleanly .view key parent labels
        ((Legacy.create_agrees dm f .view key parent labels).2.1 he)⟩
  | _ => cases hc

/-- A create that added its device and left the store as it was leaves the snapshotter
blocked. -/
theorem blocked_of_leftover (h : IdsBelowSeq dm) {f : Faults} {c : Call} (hc : c.creates = true)
    (hstore : (dm.call f c).dm.store = dm.store) (hpool : (dm.call f c).dm.pool ≠ dm.pool) :
    Blocked (dm.call f c).dm := by
  obtain ⟨kind, key, parent, labels, hcall⟩ : ∃ kind key parent labels, (dm.call f c).dm =
      (dm.withTransaction f true [] (dm.createSnapshot f kind key parent labels)).dm := by
    cases c with
    | prepare key parent labels => exact ⟨_, key, parent, labels, rfl⟩
    | view key parent labels => exact ⟨_, key, parent, labels, rfl⟩
    | _ => cases hc
  rw [hcall] at hstore hpool ⊢
  rcases create_cases dm f kind key parent labels with ⟨-, h1⟩ |
    ⟨-, snap, st', p, hs, hadd, h1⟩ | ⟨-, -, snap, st', p, hs, hadd, h1⟩ |
    ⟨-, -, -, snap, st', p, hs, hadd, h1⟩ <;> rw [h1] at hstore hpool ⊢
  · exact absurd rfl hpool
  · obtain ⟨_, _, _, _, rfl⟩ := Store.createSnapshot_eq_ok hs
    simpa using congrArg Store.seq hstore
  all_goals
    obtain ⟨_, _, _, rfl, -⟩ := Store.createSnapshot_eq_ok hs
    obtain ⟨d, hp, hdn, -⟩ := hadd.cons
    exact ⟨h, by simp [PoolDevice.names, hp, ← hdn]⟩

theorem run_append (dm : Snapshotter) (cs cs' : List (Call × Faults)) :
    dm.run (cs ++ cs') = (dm.run cs).run cs' :=
  List.foldl_append _ _ _ _

/-- **A device left behind blocks every create.** Take any run of a fresh snapshotter, and then a
Prepare or View that added its device but left the store as it was (its `mkfs.ext4` or its
transaction's `Commit` failed). In the state reached after any later run, every Prepare and every
View fails, whatever fails or succeeds in it, in the newer snapshotter and in the older one:
each is handed the ID whose device was left behind. -/
theorem leftover_device_blocks_creates (config : Config) (cs₀ cs : List (Call × Faults))
    (c : Call) (f : Faults) (hc : c.creates = true)
    (hstore : (((newSnapshotter config).run cs₀).call f c).dm.store =
      ((newSnapshotter config).run cs₀).store)
    (hpool : (((newSnapshotter config).run cs₀).call f c).dm.pool ≠
      ((newSnapshotter config).run cs₀).pool)
    (c' : Call) (f' : Faults) (hc' : c'.creates = true) :
    (((newSnapshotter config).run (cs₀ ++ (c, f) :: cs)).call f' c').err ≠ none ∧
    (Legacy.call ((newSnapshotter config).run (cs₀ ++ (c, f) :: cs)) f' c').err ≠ none := by
  have hb := blocked_of_leftover (idsBelowSeq_run (idsBelowSeq_new config) cs₀) hc hstore hpool
  rw [run_append, run_cons]
  exact call_err_of_blocked (blocked_run hb cs) f' hc'

/-- A first Prepare whose `mkfs.ext4` fails, then its retry. -/
theorem leftover_device_blocks_creates_retry :
    (Call.prepare "a" "" []).creates = true ∧
    (((newSnapshotter ⟨"p0", 1024⟩).run []).call { mkfs := true }
      (.prepare "a" "" [])).dm.store = ((newSnapshotter ⟨"p0", 1024⟩).run []).store ∧
    (((newSnapshotter ⟨"p0", 1024⟩).run []).call { mkfs := true }
      (.prepare "a" "" [])).dm.pool ≠ ((newSnapshotter ⟨"p0", 1024⟩).run []).pool ∧
    (((newSnapshotter ⟨"p0", 1024⟩).run ([] ++ [(.prepare "a" "" [], { mkfs := true })])).call
      {} (.prepare "a" "" [])).err ≠ none ∧
    (Legacy.call ((newSnapshotter ⟨"p0", 1024⟩).run
      ([] ++ [(.prepare "a" "" [], { mkfs := true })])) {} (.prepare "a" "" [])).err ≠ none :=
  ⟨rfl, by decide, by decide, leftover_device_blocks_creates ⟨"p0", 1024⟩ [] []
    (.prepare "a" "" []) { mkfs := true } rfl (by decide) (by decide) (.prepare "a" "" []) {} rfl⟩

/-! ## A record whose device is gone is never removed -/

theorem Orphaned.id_le {id : Nat} (h : Orphaned dm id) : id ≤ dm.store.seq := by
  obtain ⟨kr, hkr, rfl⟩ := h.recorded
  exact h.ids kr hkr

/-- Every call keeps an orphaned record and its missing device: a create adds the device of a
new ID, and Remove cannot remove the record, since its `RemoveDevice` fails. -/
theorem Change.orphaned {dm' : Snapshotter} {id : Nat} (hc : Change dm dm') (h : Orphaned dm id) :
    Orphaned dm' id := by
  have hle := h.id_le
  refine ⟨hc.idsBelowSeq h.ids, hc.keysUnique h.keys, ?_, ?_⟩
  · obtain ⟨kr, hkr, hid⟩ := h.recorded
    cases hc with
    | same | leftover _ _ | removeLeft _ _ | markFaulty _ => exact ⟨kr, hkr, hid⟩
    | create hs _ =>
      obtain ⟨_, _, _, _, rfl⟩ := Store.createSnapshot_eq_ok hs
      exact ⟨kr, .tail _ hkr, hid⟩
    | @rekey k k' r r' hr hid' _ =>
      by_cases hk : kr.1 = k
      · obtain rfl : kr = (k, r) := h.keys kr hkr (k, r) hr hk
        exact ⟨(k', r'), by simp, hid'.trans hid⟩
      · exact ⟨kr, .tail _ (List.mem_filter.2 ⟨hkr, by simpa using hk⟩), hid⟩
    | remove hs hn =>
      obtain ⟨r, hr, -, rfl, rfl⟩ := Store.remove_eq_ok hs
      refine ⟨kr, List.mem_filter.2 ⟨hkr, bne_iff_ne.2 fun hk => ?_⟩, hid⟩
      obtain rfl := h.keys kr hkr _ (Store.find?_eq_some hr) hk
      exact h.no_device (hid ▸ hn)
  · cases hc with
    | same | rekey _ _ _ => exact h.no_device
    | markFaulty _ => exact (PoolDevice.names_markFaulty _ _).symm ▸ h.no_device
    | create hs hadd | leftover hs hadd =>
      obtain ⟨_, _, _, rfl, -⟩ := Store.createSnapshot_eq_ok hs
      obtain ⟨d, hp, hdn, -⟩ := hadd.cons
      simp only [PoolDevice.names, hp, List.map_cons, List.mem_cons, not_or]
      refine ⟨fun he => ?_, h.no_device⟩
      have := getDeviceName_toString_inj.1 (he.trans hdn)
      omega
    | remove _ _ | removeLeft _ _ =>
      exact fun hn => h.no_device (PoolDevice.mem_names_drop.1 hn).1

theorem orphaned_run {id : Nat} (h : Orphaned dm id) (cs : List (Call × Faults)) :
    Orphaned (dm.run cs) id := by
  induction cs generalizing dm with
  | nil => exact h
  | cons c cs ih => exact ih ((call_change c.2 c.1).orphaned h)

/-- Every Remove of an orphaned record fails, in both versions of the snapshotter. -/
theorem remove_err_of_orphaned {id : Nat} (h : Orphaned dm id) {key : String} {r : Record}
    (hr : (key, r) ∈ dm.store.records) (hid : r.id = id) (f : Faults) :
    (dm.call f (.remove key)).err ≠ none ∧ (Legacy.call dm f (.remove key)).err ≠ none := by
  have hnew : ∀ f, (dm.remove f key).err ≠ none := fun f => by
    rcases remove_cases dm f key with
      ⟨he, -⟩ | ⟨-, snapID, kind, st', hs, hn, -⟩ | ⟨he, -⟩ | ⟨he, -⟩
    · exact he
    · obtain ⟨r', hr', -, rfl, -⟩ := Store.remove_eq_ok hs
      obtain ⟨-, rfl⟩ := Prod.mk.inj (h.keys _ (Store.find?_eq_some hr') _ hr rfl)
      exact absurd (hid ▸ hn) h.no_device
    · exact he
    · exact he
  refine ⟨hnew f, ?_⟩
  cases hh : f.pool.held
  · exact fun he => hnew f.endsCleanly ((Legacy.remove_agrees dm f hh key).2.1 he)
  · exact (Legacy.remove_of_held dm f hh key).1

/-- A Remove that removed the device and left the store as it was orphans the record. -/
theorem orphaned_of_remove (hi : IdsBelowSeq dm) (hk : KeysUnique dm) {f : Faults}
    {key : String} (hstore : (dm.call f (.remove key)).dm.store = dm.store)
    (hpool : (dm.call f (.remove key)).dm.pool.names ≠ dm.pool.names) :
    ∃ r, (key, r) ∈ dm.store.records ∧ Orphaned (dm.call f (.remove key)).dm r.id := by
  change (dm.remove f key).dm.store = dm.store at hstore
  change (dm.remove f key).dm.pool.names ≠ dm.pool.names at hpool
  change ∃ r, _ ∧ Orphaned (dm.remove f key).dm r.id
  rcases remove_cases dm f key with ⟨-, h1⟩ | ⟨-, snapID, kind, st', hs, -, h1⟩ |
    ⟨-, -, snapID, kind, st', hs, -, h1⟩ | ⟨-, -, -, snapID, kind, st', -, -, h1⟩ <;>
    rw [h1] at hstore hpool ⊢
  · exact absurd rfl hpool
  · obtain ⟨r, hr, -, -, rfl⟩ := Store.remove_eq_ok hs
    have hmem := Store.find?_eq_some hr
    rw [← hstore] at hmem
    simp at hmem
  · obtain ⟨r, hr, -, rfl, -⟩ := Store.remove_eq_ok hs
    have hmem := Store.find?_eq_some hr
    exact ⟨r, hmem, hi, hk, ⟨_, hmem, rfl⟩,
      fun hn => (PoolDevice.mem_names_drop.1 hn).2 rfl⟩
  · exact absurd (PoolDevice.names_markFaulty _ _) hpool

/-- **A record whose device is gone is never removed.** Take any run of a fresh snapshotter,
and then a Remove of `key` that removed a device name from the pool and left the store as it
was (its transaction's `Commit` failed; a removal whose rollback failed keeps the name, marked
`Faulty`). Its record stays, under `key` or the name a Commit moves it to,
and its device stays gone, through every later run; and every Remove of the record fails, in
the newer snapshotter and in the older one. -/
theorem orphan_record_never_removed (config : Config) (cs₀ : List (Call × Faults))
    (key : String) (f : Faults)
    (hstore : (((newSnapshotter config).run cs₀).call f (.remove key)).dm.store =
      ((newSnapshotter config).run cs₀).store)
    (hpool : (((newSnapshotter config).run cs₀).call f (.remove key)).dm.pool.names ≠
      ((newSnapshotter config).run cs₀).pool.names) :
    ∃ id, (∃ r, (key, r) ∈ ((newSnapshotter config).run cs₀).store.records ∧
        r.id = id) ∧
      ∀ cs, Orphaned ((newSnapshotter config).run (cs₀ ++ (.remove key, f) :: cs)) id ∧
        ∀ k r f', (k, r) ∈
            ((newSnapshotter config).run (cs₀ ++ (.remove key, f) :: cs)).store.records →
          r.id = id →
          (((newSnapshotter config).run (cs₀ ++ (.remove key, f) :: cs)).call f'
            (.remove k)).err ≠ none ∧
          (Legacy.call ((newSnapshotter config).run (cs₀ ++ (.remove key, f) :: cs)) f'
            (.remove k)).err ≠ none := by
  obtain ⟨r, hr, ho⟩ := orphaned_of_remove (idsBelowSeq_run (idsBelowSeq_new config) cs₀)
    (keysUnique_run (keysUnique_new config) cs₀) hstore hpool
  refine ⟨r.id, ⟨r, hr, rfl⟩, fun cs => ?_⟩
  rw [run_append, run_cons]
  have h := orphaned_run ho cs
  exact ⟨h, fun k r' f' hr' hid => remove_err_of_orphaned h hr' hid f'⟩

/-- A base snapshot `a`. -/
def baseRun : List (Call × Faults) := [(.prepare "a" "" [], {})]

/-- A Remove of `a` whose commit fails. -/
theorem orphan_record_never_removed_base :
    (((newSnapshotter ⟨"p0", 1024⟩).run baseRun).call { commit := true }
      (.remove "a")).dm.store = ((newSnapshotter ⟨"p0", 1024⟩).run baseRun).store ∧
    (((newSnapshotter ⟨"p0", 1024⟩).run baseRun).call { commit := true }
      (.remove "a")).dm.pool.names ≠ ((newSnapshotter ⟨"p0", 1024⟩).run baseRun).pool.names ∧
    ∃ id, (∃ r, ("a", r) ∈ ((newSnapshotter ⟨"p0", 1024⟩).run baseRun).store.records ∧
        r.id = id) ∧
      ∀ cs, Orphaned ((newSnapshotter ⟨"p0", 1024⟩).run
          (baseRun ++ (.remove "a", { commit := true }) :: cs)) id ∧
        ∀ k r f', (k, r) ∈ ((newSnapshotter ⟨"p0", 1024⟩).run
            (baseRun ++ (.remove "a", { commit := true }) :: cs)).store.records → r.id = id →
          (((newSnapshotter ⟨"p0", 1024⟩).run
            (baseRun ++ (.remove "a", { commit := true }) :: cs)).call f'
              (.remove k)).err ≠ none ∧
          (Legacy.call ((newSnapshotter ⟨"p0", 1024⟩).run
            (baseRun ++ (.remove "a", { commit := true }) :: cs)) f' (.remove k)).err ≠ none :=
  ⟨by decide, by decide,
    orphan_record_never_removed _ _ "a" { commit := true } (by decide) (by decide)⟩

end Snapshotter

end FirecrackerContainerd.Devmapper
