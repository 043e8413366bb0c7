import Mathlib.Data.List.Range
import Mathlib.Algebra.Order.Ring.Nat

/-!
# Allocating a vsock context ID

`findNextAvailableVsockCID` opens `/dev/vhost-vsock` and tries the ioctl
`VHOST_VSOCK_SET_GUEST_CID` for the CIDs `startCID = 3, 4, …` while `contextID < maxCID`
(`math.MaxUint32`), checking the context before each one: a success returns
`uint32(contextID)`, `EADDRINUSE` moves on, any other errno is returned, and a done context
returns `ctx.Err()`.

The host is a `Host`: the errno of opening the device, any answer of the ioctl for each CID,
and whether the context is found done before each CID. The loop is `scan`, with the number of
iterations left as its fuel, and returns the CIDs it passed to the ioctl as well as its result.

* `scan_tried` — the CIDs tried are `contextID, contextID + 1, …`, each once.
* `scan_ok_iff` — it returns `Ok` exactly at the first CID the kernel gave (`FirstFree`).
* `scan_exhausted_iff` — it runs out exactly when every CID of the range was busy.
* `find_cid_first_free` — the three for the whole function (`findNextAvailableVsockCID_tried`,
  `_ok_iff`, `_exhausted_iff`), and the bounds of a returned CID.

`dialVsock`, which `startVM` calls once the hypervisor runs, dials the agent's vsock port with
exponential backoff. Its loop is `dialLoop`, with the attempts left as its fuel; the shim model
takes its outcome as the answer to the dial step.
-/

namespace FirecrackerContainerd.Runtime

/-- The errors of the shim's own code: `ctx.Err()` of a cancelled context, a `syscall.Errno`,
`errors.New`/`errors.Errorf` and `errors.Wrap`. -/
inductive Error where
  | canceled
  | errno (n : Nat)
  | new (msg : String)
  | wrap (msg : String) (err : Error)
  deriving DecidableEq, Repr

/-- `unix.EADDRINUSE` on Linux. -/
def eaddrinuse : Nat := 98

/-- The first CID tried: 0, 1 and 2 are reserved. -/
def startCID : Nat := 3

/-- `math.MaxUint32`, the bound of the loop. -/
def maxCID : Nat := 2 ^ 32 - 1

/-- What the host answers the allocator: the errno of opening `/dev/vhost-vsock` (`none` when it
opens), the errno of the ioctl for each CID (0 on success), and whether the `select` before the
ioctl for a CID finds the context done. -/
structure Host where
  openErrno : Option Nat
  ioctl : Nat → Nat
  cancelled : Nat → Bool

/-- The loop of `findNextAvailableVsockCID` from `contextID` on with `fuel` iterations left
(`maxCID - contextID`): the CIDs passed to the ioctl, and the result. -/
def scan (h : Host) : (fuel contextID : Nat) → List Nat × Except Error UInt32
  | 0, _ => ([], .error (.new "couldn't find any available vsock context id"))
  | fuel + 1, contextID =>
    if h.cancelled contextID then ([], .error .canceled)
    else if h.ioctl contextID = 0 then ([contextID], .ok (UInt32.ofNat contextID))
    else if h.ioctl contextID = eaddrinuse then
      let rest := scan h fuel (contextID + 1)
      (contextID :: rest.1, rest.2)
    else ([contextID], .error (.errno (h.ioctl contextID)))

/-- `findNextAvailableVsockCID`. The file is closed on every return. -/
def findNextAvailableVsockCID (h : Host) : List Nat × Except Error UInt32 :=
  match h.openErrno with
  | some e => ([], .error (.wrap "failed to open vsock device" (.errno e)))
  | none => scan h (maxCID - startCID) startCID

/-- The ioctl for `c` answered `EADDRINUSE`, with no cancellation seen before it. -/
def Busy (h : Host) (c : Nat) : Prop := h.cancelled c = false ∧ h.ioctl c = eaddrinuse

/-- `c` is the first CID from `lo` on that the kernel gave: every CID before it was busy, and
the ioctl for `c` succeeded with no cancellation seen. -/
def FirstFree (h : Host) (lo c : Nat) : Prop :=
  lo ≤ c ∧ h.cancelled c = false ∧ h.ioctl c = 0 ∧ ∀ c', lo ≤ c' → c' < c → Busy h c'

section Scan

variable {h : Host}

/-- A first free CID from `lo` is `lo` itself, or comes after a busy `lo`. -/
theorem FirstFree.cases {lo c : Nat} (hf : FirstFree h lo c) :
    (c = lo ∧ h.cancelled lo = false ∧ h.ioctl lo = 0) ∨ (Busy h lo ∧ FirstFree h (lo + 1) c) := by
  obtain ⟨hlo, hc, hi, hb⟩ := hf
  rcases Nat.eq_or_lt_of_le hlo with rfl | hlt
  · exact .inl ⟨rfl, hc, hi⟩
  · exact .inr ⟨hb lo le_rfl hlt, hlt, hc, hi, fun c' h1 h2 => hb c' (by omega) h2⟩

theorem FirstFree.of_busy {lo c : Nat} (hb : Busy h lo) (hf : FirstFree h (lo + 1) c) :
    FirstFree h lo c := by
  obtain ⟨hlo, hc, hi, hb'⟩ := hf
  refine ⟨by omega, hc, hi, fun c' h1 h2 => ?_⟩
  rcases Nat.eq_or_lt_of_le h1 with rfl | hlt
  exacts [hb, hb' c' hlt h2]

theorem eaddrinuse_ne_zero : eaddrinuse ≠ 0 := by decide

/-- The CIDs the loop tries are `contextID, contextID + 1, …`, at most `fuel` of them. -/
theorem scan_tried (fuel contextID : Nat) :
    ∃ k ≤ fuel, (scan h fuel contextID).1 = List.range' contextID k := by
  induction fuel generalizing contextID with
  | zero => exact ⟨0, le_rfl, rfl⟩
  | succ fuel ih =>
    simp only [scan]
    split_ifs
    · exact ⟨0, by omega, rfl⟩
    · exact ⟨1, by omega, rfl⟩
    · obtain ⟨k, hk, he⟩ := ih (contextID + 1)
      exact ⟨k + 1, by omega, by rw [he, List.range'_succ]⟩
    · exact ⟨1, by omega, rfl⟩

/-- The loop returns `Ok` exactly at the first CID the kernel gave, within its range. -/
theorem scan_ok_iff (fuel contextID : Nat) (u : UInt32) :
    (scan h fuel contextID).2 = .ok u ↔
      ∃ c, c < contextID + fuel ∧ FirstFree h contextID c ∧ u = UInt32.ofNat c := by
  induction fuel generalizing contextID with
  | zero =>
    simp only [scan, reduceCtorEq, false_iff, not_exists, not_and]
    intro c hc hf
    exact absurd hf.1 (by omega)
  | succ fuel ih =>
    simp only [scan]
    split_ifs with hc hi hb
    · simp only [reduceCtorEq, false_iff, not_exists, not_and]
      intro c _ hf
      rcases hf.cases with ⟨-, hc', -⟩ | ⟨⟨hc', -⟩, -⟩ <;> simp_all
    · simp only [Except.ok.injEq]
      constructor
      · rintro rfl; exact ⟨contextID, by omega, ⟨le_rfl, by simpa using hc, hi, by omega⟩, rfl⟩
      · rintro ⟨c, -, hf, rfl⟩
        rcases hf.cases with ⟨rfl, -⟩ | ⟨⟨-, hb'⟩, -⟩
        · rfl
        · exact absurd (hi ▸ hb'.symm) eaddrinuse_ne_zero
    · rw [ih]
      have hbusy : Busy h contextID := ⟨by simpa using hc, hb⟩
      constructor
      · rintro ⟨c, hlt, hf, rfl⟩; exact ⟨c, by omega, hf.of_busy hbusy, rfl⟩
      · rintro ⟨c, hlt, hf, rfl⟩
        rcases hf.cases with ⟨-, -, hi'⟩ | ⟨-, hf'⟩
        · exact absurd hi' hi
        · exact ⟨c, by omega, hf', rfl⟩
    · simp only [reduceCtorEq, false_iff, not_exists, not_and]
      intro c _ hf _
      rcases hf.cases with ⟨-, -, hi'⟩ | ⟨⟨-, hb'⟩, -⟩
      exacts [hi hi', hb hb']

/-- The loop runs out exactly when every CID of its range was busy. -/
theorem scan_exhausted_iff (fuel contextID : Nat) :
    (scan h fuel contextID).2 = .error (.new "couldn't find any available vsock context id") ↔
      ∀ c, contextID ≤ c → c < contextID + fuel → Busy h c := by
  induction fuel generalizing contextID with
  | zero => simp only [scan, true_iff]; intro c h1 h2; omega
  | succ fuel ih =>
    simp only [scan]
    split_ifs with hc hi hb
    · simp only [Except.error.injEq, reduceCtorEq, false_iff, not_forall]
      exact ⟨contextID, le_rfl, by omega, fun hb' => by simp_all [Busy]⟩
    · simp only [reduceCtorEq, false_iff, not_forall]
      exact ⟨contextID, le_rfl, by omega, fun hb' => eaddrinuse_ne_zero (hb'.2.symm.trans hi)⟩
    · rw [ih]
      have hbusy : Busy h contextID := ⟨by simpa using hc, hb⟩
      constructor
      · intro hall c h1 h2
        rcases Nat.eq_or_lt_of_le h1 with rfl | hlt
        exacts [hbusy, hall c hlt (by omega)]
      · intro hall c h1 h2; exact hall c (by omega) (by omega)
    · simp only [Except.error.injEq, reduceCtorEq, false_iff, not_forall]
      exact ⟨contextID, le_rfl, by omega, fun hb' => hb hb'.2⟩

end Scan

/-- The CIDs the allocator tries: none when the device does not open, else 3, 4, … up to at
most `maxCID - 1`. -/
theorem findNextAvailableVsockCID_tried (h : Host) :
    ∃ k ≤ maxCID - startCID, (findNextAvailableVsockCID h).1 = List.range' startCID k := by
  unfold findNextAvailableVsockCID
  rcases h.openErrno with _ | e
  exacts [scan_tried _ _, ⟨0, Nat.zero_le _, rfl⟩]

/-- The allocator returns `Ok u` exactly when the device opened and `u` is the first CID the
kernel gave; the conversion to `uint32` keeps it. -/
theorem findNextAvailableVsockCID_ok_iff (h : Host) (u : UInt32) :
    (findNextAvailableVsockCID h).2 = .ok u ↔
      h.openErrno = none ∧ u.toNat < maxCID ∧ FirstFree h startCID u.toNat := by
  unfold findNextAvailableVsockCID
  rcases h.openErrno with _ | e
  · rw [scan_ok_iff]
    have hmax : maxCID = 4294967295 := rfl
    have hsz : UInt32.size = 4294967296 := rfl
    constructor
    · rintro ⟨c, hc, hf, rfl⟩
      simp only [startCID] at hc
      rw [UInt32.toNat_ofNat_of_lt (by omega)]
      exact ⟨rfl, by omega, hf⟩
    · rintro ⟨-, hu, hf⟩
      exact ⟨u.toNat, by simp only [startCID]; omega, hf,
        UInt32.toNat.inj (UInt32.toNat_ofNat_of_lt (by omega)).symm⟩
  · simp

/-- The allocator reports exhaustion exactly when the device opened and every CID it may try
was busy. -/
theorem findNextAvailableVsockCID_exhausted_iff (h : Host) :
    (findNextAvailableVsockCID h).2 =
        .error (.new "couldn't find any available vsock context id") ↔
      h.openErrno = none ∧ ∀ c, startCID ≤ c → c < maxCID → Busy h c := by
  unfold findNextAvailableVsockCID
  rcases h.openErrno with _ | e
  · rw [scan_exhausted_iff]; simp [startCID, maxCID]
  · simp

/-- **The CID allocator.** For every answer of the kernel to each CID and every point of
cancellation: the CIDs tried are 3, 4, 5, … in increasing order, each once; the result is
`Ok u` exactly when the device opened and `u` is the first CID the kernel gave, after only
`EADDRINUSE` answers and no cancellation; such a `u` lies in `[3, 2^32 - 2]`, so it is no
reserved CID and no `VMADDR_CID_ANY`, and the conversion to `uint32` keeps it; and the
allocator reports exhaustion exactly when every CID in `[3, 2^32 - 1)` was busy. -/
theorem find_cid_first_free (h : Host) :
    (∃ k ≤ maxCID - startCID, (findNextAvailableVsockCID h).1 = List.range' startCID k) ∧
    (∀ u : UInt32, (findNextAvailableVsockCID h).2 = .ok u ↔
      h.openErrno = none ∧ u.toNat < maxCID ∧ FirstFree h startCID u.toNat) ∧
    (∀ u : UInt32, (findNextAvailableVsockCID h).2 = .ok u → 3 ≤ u.toNat ∧ u.toNat ≤ 2 ^ 32 - 2) ∧
    ((findNextAvailableVsockCID h).2 =
        .error (.new "couldn't find any available vsock context id") ↔
      h.openErrno = none ∧ ∀ c, startCID ≤ c → c < maxCID → Busy h c) := by
  refine ⟨findNextAvailableVsockCID_tried h, findNextAvailableVsockCID_ok_iff h, fun u hu => ?_,
    findNextAvailableVsockCID_exhausted_iff h⟩
  obtain ⟨-, hlt, hf⟩ := (findNextAvailableVsockCID_ok_iff h u).1 hu
  exact ⟨hf.1, by simp only [maxCID] at hlt; omega⟩

/-! ## Dialling the agent

`dialVsock` dials up to `retryCount` times. After a failed attempt it sleeps `currentDelay`,
keeps the error as `lastErr` and multiplies the delay by `delayMultiplier`, from
`initialDelay` on. What the host answers is `dial`: the error of each attempt's `vsock.Dial`,
`none` when it connects.
-/

/-- `retryCount`. -/
def retryCount : Nat := 5

/-- `initialDelay`, in milliseconds. -/
def initialDelay : Nat := 100

/-- `delayMultiplier`. -/
def delayMultiplier : Nat := 2

/-- The loop of `dialVsock` at attempt `i` with `left` attempts to go, `currentDelay` and
`lastErr`: the attempt whose connection is returned, or the error returned, and the delays slept,
in order. -/
def dialLoop (dial : Nat → Option Error) :
    (left i currentDelay : Nat) → (lastErr : Option Error) →
      Except (Option Error) Nat × List Nat
  | 0, _, _, lastErr => (.error lastErr, [])
  | left + 1, i, currentDelay, _lastErr =>
    match dial i with
    | none => (.ok i, [])
    | some err =>
      let rest := dialLoop dial left (i + 1) (currentDelay * delayMultiplier) (some err)
      (rest.1, currentDelay :: rest.2)

/-- `dialVsock`: attempts `1 … retryCount` with no error yet. -/
def dialVsock (dial : Nat → Option Error) : Except (Option Error) Nat × List Nat :=
  dialLoop dial retryCount 1 initialDelay none

end FirecrackerContainerd.Runtime
