import FirecrackerContainerd.Strconv
import FirecrackerContainerd.Devmapper.Snapshotter

/-!
# Device names

`getDeviceName` names the thin device of a snapshot `<pool>-snap-<id>`, and `getDevicePath` puts
the name under `/dev/mapper/`. The MetaStore's snapshot IDs are decimal numerals
(`isNumeral_toString`), and a numeral holds no `-snap-`, so a device name can be read back: its
ID is the maximal run of digits it ends with (`snapIDOf_getDeviceName`), and its pool is what
stands before `-snap-` then.

* `device_names_distinct` — for all pool names and all IDs made of decimal digits, two device
  names, or two `/dev/mapper` paths, are equal only for the same pool and the same ID. The IDs
  must be numerals: pool `a` with ID `b-snap-c` and pool `a-snap-b` with ID `c` share a name.
-/

namespace FirecrackerContainerd.Devmapper

/-- The snapshot ID a device name ends with: its maximal run of trailing digits. -/
def snapIDOf (name : String) : String := ⟨(name.data.reverse.takeWhile Char.isDigit).reverse⟩

/-- `/dev/mapper/` paths of distinct names are distinct. -/
theorem getFullDevicePath_inj {a b : String} :
    getFullDevicePath a = getFullDevicePath b ↔ a = b := by
  simp [getFullDevicePath, String.ext_iff]

namespace Snapshotter

variable (dm dm' : Snapshotter)

/-- A device name gives back the numeral ID it was made from. -/
theorem snapIDOf_getDeviceName {i : String} (hi : IsNumeral i) :
    snapIDOf (dm.getDeviceName i) = i := by
  have hsep : ("-snap-" : String).data.reverse = '-' :: "pans-".data := rfl
  have hrev : ∀ c ∈ i.data.reverse, c.isDigit = true := fun c hc => hi c (List.mem_reverse.1 hc)
  rw [snapIDOf, getDeviceName, String.data_append, String.data_append, List.reverse_append,
    List.reverse_append, hsep, List.takeWhile_append_of_pos hrev, List.cons_append,
    List.takeWhile_cons_of_neg (by decide), List.append_nil, List.reverse_reverse]

/-- Two device names of numeral IDs are equal exactly for the same pool and the same ID. -/
theorem getDeviceName_inj {i i' : String} (hi : IsNumeral i) (hi' : IsNumeral i') :
    dm.getDeviceName i = dm'.getDeviceName i' ↔
      dm.config.poolName = dm'.config.poolName ∧ i = i' := by
  constructor
  · intro h
    obtain rfl : i = i' := by
      rw [← snapIDOf_getDeviceName dm hi, h, snapIDOf_getDeviceName dm' hi']
    have hd := congrArg String.data h
    simp only [getDeviceName, String.data_append, List.append_cancel_right_eq] at hd
    exact ⟨String.ext hd, rfl⟩
  · rintro ⟨hp, rfl⟩
    simp [getDeviceName, hp]

/-- **Device names do not collide.** For all pool names and all snapshot IDs made of decimal
digits: two device names are equal only for the same pool and the same ID, and so are the
`/dev/mapper` paths `getDevicePath` gives two snapshots with those IDs. So distinct snapshots of
one pool, and snapshots of different pools, never share a thin device. -/
theorem device_names_distinct (dm dm' : Snapshotter) (i i' : String) (hi : IsNumeral i)
    (hi' : IsNumeral i') :
    (dm.getDeviceName i = dm'.getDeviceName i' ↔
      dm.config.poolName = dm'.config.poolName ∧ i = i') ∧
    ∀ snap snap' : Snapshot, snap.id = i → snap'.id = i' →
      (dm.getDevicePath snap = dm'.getDevicePath snap' ↔
        dm.config.poolName = dm'.config.poolName ∧ i = i') := by
  refine ⟨dm.getDeviceName_inj dm' hi hi', fun snap snap' hs hs' => ?_⟩
  rw [getDevicePath, getDevicePath, getFullDevicePath_inj, hs, hs',
    dm.getDeviceName_inj dm' hi hi']

theorem device_names_distinct_pools :
    IsNumeral (toString 1) ∧ IsNumeral (toString 12) ∧
    ((newSnapshotter ⟨"p0", 1024⟩).getDeviceName (toString 1) =
        (newSnapshotter ⟨"p1", 1024⟩).getDeviceName (toString 12) ↔
      (newSnapshotter ⟨"p0", 1024⟩).config.poolName =
          (newSnapshotter ⟨"p1", 1024⟩).config.poolName ∧ toString 1 = toString 12) ∧
    ∀ snap snap' : Snapshot, snap.id = toString 1 → snap'.id = toString 12 →
      ((newSnapshotter ⟨"p0", 1024⟩).getDevicePath snap =
          (newSnapshotter ⟨"p1", 1024⟩).getDevicePath snap' ↔
        (newSnapshotter ⟨"p0", 1024⟩).config.poolName =
            (newSnapshotter ⟨"p1", 1024⟩).config.poolName ∧ toString 1 = toString 12) :=
  ⟨isNumeral_toString 1, isNumeral_toString 12,
    device_names_distinct (newSnapshotter ⟨"p0", 1024⟩) (newSnapshotter ⟨"p1", 1024⟩)
      (toString 1) (toString 12) (isNumeral_toString 1) (isNumeral_toString 12)⟩

/-- Without numeral IDs the names collide. -/
example : (newSnapshotter ⟨"a", 1024⟩).getDeviceName "b-snap-c" =
    (newSnapshotter ⟨"a-snap-b", 1024⟩).getDeviceName "c" := by
  decide

end Snapshotter

end FirecrackerContainerd.Devmapper
