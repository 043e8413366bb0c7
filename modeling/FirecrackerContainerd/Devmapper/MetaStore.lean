import Mathlib.Data.List.Basic
import Mathlib.Algebra.Order.Ring.Nat

/-!
# The metadata store under the devmapper snapshotter

The snapshotter keeps its snapshot records in containerd's `snapshots/storage` MetaStore, a
bolt database with serializable transactions. The store is a dependency, not part of this
repository; what is modelled here is the interface the snapshotter consumes (spec §4.6) with
the record layout of spec §3, and what containerd's `storage` package does behind it:

* `Record` — what the store keeps under a key: the snapshot ID, its kind, its parent's key,
  its parent chain of IDs and its labels. `Store` is the records together with the bucket's
  sequence counter that hands out IDs.
* `createSnapshot`, `commitActive`, `remove`, `updateInfo`, `getInfo`, `getSnapshot`,
  `walkInfo` — the calls the snapshotter makes inside a transaction, each on the
  transaction's view of the store. `getSnapshot` hands out Active and View snapshots only, and
  `updateInfo` rewrites the stored labels along the field paths.

Each writing call has one spec lemma (`createSnapshot_eq_ok`, `commitActive_eq_ok`,
`remove_eq_ok`, `updateInfo_eq_ok`) that says everything a successful call did; the
snapshotter's proofs cite those and never unfold the calls.
-/

namespace FirecrackerContainerd.Devmapper

/-- The errors of the snapshotter: containerd's `errdefs` kinds with their messages, a device
held open (`EBUSY`), a failing host call (an ioctl, a dm message, an exec, a bolt call),
`errors.New`, `errors.Wrap`, and a `*multierror.Error` holding more than one error. -/
inductive Error where
  | notFound (msg : String)
  | alreadyExists (msg : String)
  | invalidArgument (msg : String)
  | failedPrecondition (msg : String)
  | busy (msg : String)
  | host (call : String)
  | new (msg : String)
  | wrap (msg : String) (err : Error)
  | multi (errs : List Error)
  deriving Repr

/-- `snapshots.Kind`; the first constructor is Go's zero value `KindUnknown`. -/
inductive Kind where
  | unknown
  | view
  | active
  | committed
  deriving DecidableEq, Repr, Inhabited

/-- `snapshots.Info`, without the timestamps (no modelled function reads them). -/
structure Info where
  kind : Kind
  name : String
  parent : String
  labels : List (String × String)
  deriving DecidableEq, Repr, Inhabited

/-- `storage.Snapshot`: what `CreateSnapshot` and `GetSnapshot` hand back. -/
structure Snapshot where
  kind : Kind
  id : String
  parentIDs : List String
  deriving DecidableEq, Repr, Inhabited

/-- One record of the store: the snapshot ID the bucket sequence assigned, the kind, the key
of the parent (`""` for none), the parent chain of IDs, nearest first, and the labels. -/
structure Record where
  id : Nat
  kind : Kind
  parent : String
  parentIDs : List Nat
  labels : List (String × String)
  deriving DecidableEq, Repr

/-- The committed contents of the store: records by key, and the sequence counter. -/
structure Store where
  records : List (String × Record)
  seq : Nat
  deriving DecidableEq, Repr

namespace Record

/-- The snapshot a record stands for, with IDs printed as `fmt.Sprintf("%d", id)` does. -/
def toSnapshot (r : Record) : Snapshot := ⟨r.kind, toString r.id, r.parentIDs.map toString⟩

/-- The `snapshots.Info` of the record stored under `key`. -/
def toInfo (key : String) (r : Record) : Info := ⟨r.kind, key, r.parent, r.labels⟩

end Record

namespace Store

/-- The empty store of a fresh `metadata.db`. -/
def empty : Store := ⟨[], 0⟩

/-- The record under `key`, if any. -/
def find? (st : Store) (key : String) : Option Record :=
  (st.records.find? (·.1 == key)).map Prod.snd

/-- Store `r` under a key that is not in use. -/
def insert (st : Store) (key : String) (r : Record) : Store :=
  { st with records := (key, r) :: st.records }

/-- Delete the record under `key`. -/
def erase (st : Store) (key : String) : Store :=
  { st with records := st.records.filter (·.1 != key) }

/-- Whether some record's nearest parent is the snapshot `id` (bolt's parent index). -/
def hasChild (st : Store) (id : Nat) : Bool :=
  st.records.any (·.2.parentIDs.head? == some id)

/-- The parent chain of a new snapshot under `parent`: the parent must exist and be
committed. -/
def parentChain (st : Store) (parent : String) : Except Error (List Nat) :=
  if parent = "" then .ok [] else
  match st.find? parent with
  | none => .error (.notFound s!"missing parent {parent} bucket")
  | some p =>
    if p.kind = .committed then .ok (p.id :: p.parentIDs)
    else .error (.invalidArgument s!"parent {parent} is not committed snapshot")

/-- Modelled from the spec: `storage.CreateSnapshot` (§4.6), whose code is not among the
sources. A new Active or View record under a fresh key, with the next ID of the bucket
sequence. -/
def createSnapshot (kind : Kind) (key parent : String) (labels : List (String × String))
    (st : Store) : Except Error (Snapshot × Store) :=
  if kind = .active ∨ kind = .view then
    match st.parentChain parent with
    | .error e => .error e
    | .ok chain =>
      if (st.find? key).isSome then .error (.alreadyExists s!"snapshot {key}")
      else
        let r : Record := ⟨st.seq + 1, kind, parent, chain, labels⟩
        .ok (r.toSnapshot, ⟨(key, r) :: st.records, st.seq + 1⟩)
  else .error (.invalidArgument "snapshot type invalid; only Active or View can be created")

/-- Modelled from the spec: `storage.CommitActive` (§4.6), whose code is not among the sources.
The Active record under `key` moves to `name` as Committed, keeping its ID; the labels are
replaced by the commit's. Returns the ID. -/
def commitActive (key name : String) (labels : List (String × String)) (st : Store) :
    Except Error (String × Store) :=
  if (st.find? name).isSome then .error (.alreadyExists s!"committed snapshot {name}") else
  match st.find? key with
  | none => .error (.notFound s!"failed to get active snapshot {key}")
  | some r =>
    if r.kind = .active then
      .ok (toString r.id, (st.erase key).insert name { r with kind := .committed, labels })
    else .error (.failedPrecondition s!"snapshot {key} is not active")

/-- Modelled from the spec: `storage.Remove` (§4.6), whose code is not among the sources. Delete
the record under `key` unless another record was created from it. Returns its ID and kind. -/
def remove (key : String) (st : Store) : Except Error (String × Kind × Store) :=
  match st.find? key with
  | none => .error (.notFound s!"snapshot {key} does not exist")
  | some r =>
    if st.hasChild r.id then .error (.failedPrecondition "cannot remove snapshot with child")
    else .ok (toString r.id, r.kind, st.erase key)

/-- The labels with `k` set to `v`. -/
def setLabel (labels : List (String × String)) (k v : String) : List (String × String) :=
  (k, v) :: labels.filter (·.1 != k)

/-- Modelled from the spec: the label loop of `storage.UpdateInfo` (§4.6), over the field paths
in order, from the stored labels: `labels.k` sets `k` to the caller's value (Go's map read
gives `""` when the caller has none), `labels` replaces them all by the caller's; any other
path fails the update. -/
def updateLabels (name : String) (new : List (String × String)) :
    List (String × String) → List String → Except Error (List (String × String))
  | labels, [] => .ok labels
  | labels, path :: paths =>
    if path.startsWith "labels." then
      let k := path.drop 7
      updateLabels name new (setLabel labels k ((new.lookup k).getD "")) paths
    else if path = "labels" then updateLabels name new new paths
    else .error (.invalidArgument s!"cannot update {path} field on snapshot {name}")

/-- Modelled from the spec: `storage.UpdateInfo` (§4.6), whose code is not among the sources.
The labels of the record named by `info`: with no field path they are replaced by the caller's,
otherwise `updateLabels` rewrites the stored ones; `WriteLabels` drops the empty values. -/
def updateInfo (info : Info) (fieldpaths : List String) (st : Store) :
    Except Error (Info × Store) :=
  match st.find? info.name with
  | none => .error (.notFound s!"snapshot {info.name} does not exist")
  | some r =>
    match (if fieldpaths = [] then .ok info.labels
        else updateLabels info.name info.labels r.labels fieldpaths) with
    | .error e => .error e
    | .ok labels =>
      let r' := { r with labels := labels.filter (·.2 != "") }
      .ok (r'.toInfo info.name, (st.erase info.name).insert info.name r')

/-- Modelled from the spec: `storage.GetInfo` (§4.6), whose code is not among the sources. The
ID and info of the record under `key`. -/
def getInfo (key : String) (st : Store) : Except Error (String × Info) :=
  match st.find? key with
  | none => .error (.notFound s!"snapshot {key} does not exist")
  | some r => .ok (toString r.id, r.toInfo key)

/-- Modelled from the spec: `storage.GetSnapshot` (§4.6), whose code is not among the sources.
The snapshot under `key`; containerd hands out Active and View snapshots only, and refuses any
other kind with `FailedPrecondition`. -/
def getSnapshot (key : String) (st : Store) : Except Error Snapshot :=
  match st.find? key with
  | none => .error (.notFound "snapshot does not exist")
  | some r =>
    if r.kind = .active ∨ r.kind = .view then .ok r.toSnapshot
    else .error (.failedPrecondition s!"requested snapshot {key} not active or view")

/-- Modelled from the spec: `storage.WalkInfo` (§4.6), whose code is not among the sources.
Call `fn` on every record's info, stopping at the first error. -/
def walkInfo (fn : Info → Option Error) (st : Store) : Option Error :=
  st.records.findSome? fun kr => fn (kr.2.toInfo kr.1)

/-! ## Lookups -/

@[simp] theorem find?_empty (key : String) : empty.find? key = none := rfl

theorem find?_eq_some {st : Store} {key : String} {r : Record} (h : st.find? key = some r) :
    (key, r) ∈ st.records := by
  simp only [find?, Option.map_eq_some'] at h
  obtain ⟨⟨k, r'⟩, hf, rfl⟩ := h
  have hk : k = key := by simpa using List.find?_some hf
  exact hk ▸ List.mem_of_find?_eq_some hf

theorem find?_eq_none {st : Store} {key : String} :
    st.find? key = none ↔ ∀ r, (key, r) ∉ st.records := by
  simp only [find?, Option.map_eq_none', List.find?_eq_none, beq_iff_eq]
  exact ⟨fun h r hr => h _ hr rfl, by rintro h ⟨k, r⟩ hkr rfl; exact h r hkr⟩

@[simp] theorem find?_insert_self (st : Store) (key : String) (r : Record) :
    (st.insert key r).find? key = some r := by
  simp [find?, insert]

@[simp] theorem insert_records (st : Store) (key : String) (r : Record) :
    (st.insert key r).records = (key, r) :: st.records := rfl

@[simp] theorem erase_records (st : Store) (key : String) :
    (st.erase key).records = st.records.filter (·.1 != key) := rfl

theorem hasChild_eq_false {st : Store} {id : Nat} :
    st.hasChild id = false ↔ ∀ kr ∈ st.records, kr.2.parentIDs.head? ≠ some id := by
  simp [hasChild]

/-! ## Spec lemmas -/

theorem parentChain_eq_ok {st : Store} {parent : String} {chain : List Nat}
    (h : st.parentChain parent = .ok chain) :
    chain = [] ∨ ∃ p, st.find? parent = some p ∧ p.kind = .committed ∧
      chain = p.id :: p.parentIDs := by
  unfold parentChain at h
  split at h
  · cases h; exact .inl rfl
  · split at h
    · cases h
    · rename_i p hp
      split at h
      · cases h; exact .inr ⟨p, hp, ‹_›, rfl⟩
      · cases h

theorem createSnapshot_eq_ok {kind : Kind} {key parent : String}
    {labels : List (String × String)} {st st' : Store} {snap : Snapshot}
    (h : createSnapshot kind key parent labels st = .ok (snap, st')) :
    ∃ chain, st.parentChain parent = .ok chain ∧ st.find? key = none ∧
      snap = ⟨kind, toString (st.seq + 1), chain.map toString⟩ ∧
      st' = ⟨(key, ⟨st.seq + 1, kind, parent, chain, labels⟩) :: st.records, st.seq + 1⟩ := by
  unfold createSnapshot at h
  split at h
  · split at h
    · cases h
    · rename_i chain hc
      split at h
      · cases h
      · rename_i hk
        cases h
        exact ⟨chain, hc, by simpa using hk, rfl, rfl⟩
  · cases h

/-- `CreateSnapshot` creates Active and View snapshots only. -/
theorem createSnapshot_kind {kind : Kind} {key parent : String}
    {labels : List (String × String)} {st st' : Store} {snap : Snapshot}
    (h : createSnapshot kind key parent labels st = .ok (snap, st')) :
    kind = .active ∨ kind = .view := by
  unfold createSnapshot at h
  split at h
  · assumption
  · cases h

theorem commitActive_eq_ok {key name : String} {labels : List (String × String)}
    {st st' : Store} {id : String} (h : commitActive key name labels st = .ok (id, st')) :
    ∃ r, st.find? name = none ∧ st.find? key = some r ∧ r.kind = .active ∧
      st' = (st.erase key).insert name { r with kind := .committed, labels } := by
  unfold commitActive at h
  split at h
  · cases h
  · rename_i hn
    split at h
    · cases h
    · rename_i r hr
      split at h
      · cases h; exact ⟨r, by simpa using hn, hr, ‹_›, rfl⟩
      · cases h

theorem remove_eq_ok {key : String} {st st' : Store} {id : String} {kind : Kind}
    (h : remove key st = .ok (id, kind, st')) :
    ∃ r, st.find? key = some r ∧ st.hasChild r.id = false ∧ id = toString r.id ∧
      st' = st.erase key := by
  unfold remove at h
  split at h
  · cases h
  · rename_i r hr
    split at h
    · cases h
    · rename_i hc
      cases h; exact ⟨r, hr, by simpa using hc, rfl, rfl⟩

theorem updateInfo_eq_ok {info info' : Info} {fieldpaths : List String} {st st' : Store}
    (h : updateInfo info fieldpaths st = .ok (info', st')) :
    ∃ r labels, st.find? info.name = some r ∧
      st' = (st.erase info.name).insert info.name { r with labels } := by
  unfold updateInfo at h
  split at h
  · cases h
  · rename_i r hr
    split at h
    · cases h
    · cases h; exact ⟨r, _, hr, rfl⟩

end Store

end FirecrackerContainerd.Devmapper
