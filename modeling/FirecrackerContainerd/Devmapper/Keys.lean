import FirecrackerContainerd.Devmapper.Orphans

/-!
# One winner per key

Prepare and View create the record of their key inside their transaction, and `CreateSnapshot`
fails with `AlreadyExists` on a key in use. The MetaStore's write transactions are serializable,
so concurrent calls for one key take effect one after the other:

* `call_keeps_taken` — a key in use stays in use through every call but a Remove of it or a
  Commit of its active snapshot, whatever fails in the call;
* `one_winner_per_key` — once a Prepare or View of a key has returned nil, every later Prepare
  and View of the key fails, in both versions of the snapshotter, until a Remove or a Commit
  frees the key. Of concurrent creates of one key, at most one wins.
-/

namespace FirecrackerContainerd.Devmapper

/-- A Prepare or View of `key`. -/
def Call.createsKey (key : String) : Call → Bool
  | .prepare k .. | .view k .. => k == key
  | _ => false

/-- A Remove of `key`, or a Commit of the active snapshot `key`: the calls that free a key. -/
def Call.frees (key : String) : Call → Bool
  | .remove k | .commit _ k _ => k == key
  | _ => false

namespace Store

/-- Some record is stored under `key`. -/
def Taken (st : Store) (key : String) : Prop := ∃ r, (key, r) ∈ st.records

variable {st : Store} {key : String}

theorem taken_insert_self (r : Record) : (st.insert key r).Taken key :=
  ⟨r, List.mem_cons_self _ _⟩

theorem Taken.insert (h : st.Taken key) (k : String) (r : Record) : (st.insert k r).Taken key :=
  let ⟨r', hr⟩ := h; ⟨r', List.mem_cons_of_mem _ hr⟩

theorem Taken.erase (h : st.Taken key) {k : String} (hk : k ≠ key) : (st.erase k).Taken key :=
  let ⟨r, hr⟩ := h; ⟨r, List.mem_filter.2 ⟨hr, by simpa using hk.symm⟩⟩

/-- `CreateSnapshot` fails on a key in use. -/
theorem Taken.createSnapshot_ne (h : st.Taken key) {kind : Kind} {parent : String}
    {labels : List (String × String)} {snap : Snapshot} {st' : Store} :
    createSnapshot kind key parent labels st ≠ .ok (snap, st') := fun hs =>
  let ⟨r, hr⟩ := h
  let ⟨_, _, hk, _⟩ := createSnapshot_eq_ok hs
  find?_eq_none.1 hk r hr

end Store

namespace Snapshotter

variable {dm : Snapshotter} {key : String}

/-- A create that returns nil has stored its key. -/
theorem taken_of_create (f : Faults) (kind : Kind) (parent : String)
    (labels : List (String × String))
    (h : (dm.withTransaction f true [] (dm.createSnapshot f kind key parent labels)).err = none) :
    (dm.withTransaction f true [] (dm.createSnapshot f kind key parent labels)).dm.store.Taken
      key := by
  rcases create_cases dm f kind key parent labels with ⟨he, -⟩ | ⟨-, snap, st', p, hs, -, h1⟩ |
    ⟨he, -⟩ | ⟨he, -⟩
  · exact (he h).elim
  · obtain ⟨_, _, _, _, rfl⟩ := Store.createSnapshot_eq_ok hs
    rw [h1]
    exact ⟨_, List.mem_cons_self _ _⟩
  all_goals exact (he h).elim

/-- A create of a key in use fails. -/
theorem create_err_of_taken (h : dm.store.Taken key) (f : Faults) (kind : Kind) (parent : String)
    (labels : List (String × String)) :
    (dm.withTransaction f true [] (dm.createSnapshot f kind key parent labels)).err ≠ none := by
  rcases create_cases dm f kind key parent labels with ⟨he, -⟩ | ⟨-, snap, st', p, hs, -⟩ |
    ⟨he, -⟩ | ⟨he, -⟩
  · exact he
  · exact (h.createSnapshot_ne hs).elim
  all_goals exact he

/-- Prepare and View add at most a record. -/
theorem create_keeps_taken (h : dm.store.Taken key) (f : Faults) (kind : Kind)
    (k parent : String) (labels : List (String × String)) :
    (dm.withTransaction f true [] (dm.createSnapshot f kind k parent labels)).dm.store.Taken
      key := by
  rcases create_cases dm f kind k parent labels with ⟨-, h1⟩ | ⟨-, snap, st', p, hs, -, h1⟩ |
    ⟨-, -, _, _, _, -, -, h1⟩ | ⟨-, -, -, _, _, _, -, -, h1⟩ <;> rw [h1]
  · exact h
  · obtain ⟨_, _, _, _, rfl⟩ := Store.createSnapshot_eq_ok hs
    exact h.insert _ _
  all_goals exact h

/-- Every call keeps a key in use, but a Remove of it or a Commit of it. -/
theorem call_keeps_taken (h : dm.store.Taken key) (f : Faults) :
    ∀ c : Call, c.frees key = false → (dm.call f c).dm.store.Taken key
  | .stat k, _ => (stat_dm dm f k).symm ▸ h
  | .update info fieldpaths, _ => by
    show (dm.update f info fieldpaths).dm.store.Taken key
    rcases update_cases dm f info fieldpaths with ⟨-, h1⟩ | ⟨-, info', st', hs, h1⟩
    · rwa [h1]
    · obtain ⟨r, labels, -, rfl⟩ := Store.updateInfo_eq_ok hs
      rw [h1]
      by_cases hk : info.name = key
      · exact hk ▸ Store.taken_insert_self _
      · exact (h.erase hk).insert _ _
  | .usage _, _ => h
  | .mounts k, _ => (mounts_dm dm f k).symm ▸ h
  | .prepare k parent labels, _ => create_keeps_taken h f .active k parent labels
  | .view k parent labels, _ => create_keeps_taken h f .view k parent labels
  | .commit name k labels, hc => by
    show (dm.commit f name k labels).dm.store.Taken key
    rcases commit_cases dm f name k labels with ⟨-, h1⟩ | ⟨-, id, st', hs, h1⟩
    · rwa [h1]
    · obtain ⟨r, -, -, -, rfl⟩ := Store.commitActive_eq_ok hs
      rw [h1]
      exact (h.erase (by simpa [Call.frees] using hc)).insert _ _
  | .remove k, hc => by
    show (dm.remove f k).dm.store.Taken key
    rcases remove_cases dm f k with ⟨-, h1⟩ | ⟨-, snapID, kind, st', hs, -, h1⟩ |
      ⟨-, -, _, _, _, -, -, h1⟩ | ⟨-, -, -, _, _, _, -, -, h1⟩ <;> rw [h1]
    · exact h
    · obtain ⟨r, -, -, -, rfl⟩ := Store.remove_eq_ok hs
      exact h.erase (by simpa [Call.frees] using hc)
    all_goals exact h
  | .walk fn, _ => (walk_dm dm f fn).symm ▸ h

/-- Every run of calls that frees no key keeps a key in use. -/
theorem run_keeps_taken (h : dm.store.Taken key) (cs : List (Call × Faults))
    (hcs : ∀ c ∈ cs, c.1.frees key = false) : (dm.run cs).store.Taken key := by
  induction cs generalizing dm with
  | nil => exact h
  | cons c cs ih =>
    rw [run_cons]
    exact ih (call_keeps_taken h c.2 c.1 (hcs c (List.mem_cons_self _ _)))
      fun c' hc' => hcs c' (List.mem_cons_of_mem _ hc')

/-- A Prepare or View of a key in use fails, in both versions of the snapshotter. -/
theorem call_err_of_taken (h : dm.store.Taken key) (f : Faults) {c : Call}
    (hc : c.createsKey key = true) :
    (dm.call f c).err ≠ none ∧ (Legacy.call dm f c).err ≠ none := by
  cases c with
  | prepare k parent labels =>
    obtain rfl : k = key := by simpa [Call.createsKey] using hc
    exact ⟨create_err_of_taken h f .active parent labels, fun he =>
      create_err_of_taken h f.endsCleanly .active parent labels
        ((Legacy.create_agrees dm f .active k parent labels).2.1 he)⟩
  | view k parent labels =>
    obtain rfl : k = key := by simpa [Call.createsKey] using hc
    exact ⟨create_err_of_taken h f .view parent labels, fun he =>
      create_err_of_taken h f.endsCleanly .view parent labels
        ((Legacy.create_agrees dm f .view k parent labels).2.1 he)⟩
  | _ => cases hc

/-- A Prepare or View that returns nil has stored its key. -/
theorem taken_of_call {f : Faults} {c : Call} (hc : c.createsKey key = true)
    (h : (dm.call f c).err = none) : (dm.call f c).dm.store.Taken key := by
  cases c with
  | prepare k parent labels =>
    obtain rfl : k = key := by simpa [Call.createsKey] using hc
    exact taken_of_create f .active parent labels h
  | view k parent labels =>
    obtain rfl : k = key := by simpa [Call.createsKey] using hc
    exact taken_of_create f .view parent labels h
  | _ => cases hc

/-- **One winner per key.** From every state: once a Prepare or View of `key` has returned nil,
then through every later run of calls, with any failures, in which no Remove of `key` and no
Commit of `key` runs, every Prepare and every View of `key` fails, in the newer Snapshotter and
in the older devmapper snapshotter alike. -/
theorem one_winner_per_key (dm : Snapshotter) (key : String) (c : Call) (f : Faults)
    (hc : c.createsKey key = true) (h : (dm.call f c).err = none) (cs : List (Call × Faults))
    (hcs : ∀ c' ∈ cs, c'.1.frees key = false) (c' : Call) (f' : Faults)
    (hc' : c'.createsKey key = true) :
    (((dm.call f c).dm.run cs).call f' c').err ≠ none ∧
      (Legacy.call ((dm.call f c).dm.run cs) f' c').err ≠ none :=
  call_err_of_taken (run_keeps_taken (taken_of_call hc h) cs hcs) f' hc'

/-- Two Prepares of `a` with a View and a Remove of `b` between them; the second fails. -/
theorem one_winner_per_key_prepare_twice :
    (Call.prepare "a" "" []).createsKey "a" = true ∧
    ((newSnapshotter ⟨"p0", 1024⟩).call {} (.prepare "a" "" [])).err = none ∧
    (∀ c' ∈ [((Call.view "b" "" []), ({} : Faults)), (.remove "b", {})], c'.1.frees "a" = false) ∧
    ((((newSnapshotter ⟨"p0", 1024⟩).call {} (.prepare "a" "" [])).dm.run
        [(.view "b" "" [], {}), (.remove "b", {})]).call {} (.prepare "a" "" [])).err ≠ none ∧
    (Legacy.call (((newSnapshotter ⟨"p0", 1024⟩).call {} (.prepare "a" "" [])).dm.run
        [(.view "b" "" [], {}), (.remove "b", {})]) {} (.prepare "a" "" [])).err ≠ none :=
  ⟨rfl, rfl, by decide, one_winner_per_key (newSnapshotter ⟨"p0", 1024⟩) "a"
    (.prepare "a" "" []) {} rfl rfl [(.view "b" "" [], {}), (.remove "b", {})] (by decide)
    (.prepare "a" "" []) {} rfl⟩

end Snapshotter

end FirecrackerContainerd.Devmapper
