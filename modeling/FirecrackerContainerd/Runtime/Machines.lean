import FirecrackerContainerd.Runtime.Footprint

/-!
# The hypervisors a shim runs

`startVM` points `s.machine` at each machine `NewMachine` builds, and `stopVM` stops whatever
`s.machine` points at. The only other thing that touches a machine is the end of the context of
the `Create` request it was built for: `Build(ctx)` made its hypervisor command with
`exec.CommandContext`, which kills the process then (`step_footprint`). So:

* `step_keeps_replaced` — a step keeps every machine `s.machine` does not point at, or stops it
  when the step is the end of its `Create`'s context, and never points `s.machine` back at it;
* `replaced_machine_stopped_only_by_request` — a machine that is no longer `s.machine` stays as
  it is through every later run of the shim, its `Kill` and `Shutdown` requests included, until
  the context of the `Create` that built it ends: a hypervisor still running when a later
  `NewMachine` replaced it is stopped by nothing else. `start_failure_leaks_vm` is such a run:
  a `Machine.Start` that spawned the hypervisor and then failed, a second `Create`, and a `Kill`.
* `startVM_config` — the step that allocates the CID and builds the configuration: it builds no
  machine, and it rejects the request exactly when a mount is not ext4; otherwise `NewMachine`
  gets the drives of `vmConfig_drives`.
-/

namespace FirecrackerContainerd.Runtime

/-- A shim configuration. -/
def exampleConfig : Config :=
  ⟨"/run/firecracker.sock", "vmlinux", "console=ttyS0", 1, "", "", "", "", false, "rootfs.img",
    "firecracker"⟩

/-- A host whose first free CID is `c` (or 3, when `c` is below it). -/
def hostFrom (c : Nat) : Host := ⟨none, fun c' => if c' < c then eaddrinuse else 0, fun _ => false⟩

/-- A Create of container `c1` with one ext4 snapshot mount and no stdio. -/
def createC1 : CreateTaskRequest := ⟨"c1", [⟨"ext4", "/dev/mapper/p0-snap-1"⟩], "", "", ""⟩

/-- A `Create` whose `Machine.Start` spawns the hypervisor and then fails, a second `Create` that
succeeds on the next CID, and a `Kill`. -/
def startFailureRun : List Event :=
  [.request (.create createC1), .run 0 .ok, .run 0 (.host (hostFrom 3)), .run 0 .ok,
   .run 0 .spawnedThenFail,
   .request (.create createC1), .run 1 .ok, .run 1 (.host (hostFrom 4)), .run 1 .ok, .run 1 .ok,
   .run 1 .ok, .run 1 (.pid 7), .run 1 .ok,
   .request (.kill "c1" ""), .run 2 .ok, .run 2 .ok, .run 2 .ok]

/-- The shim as two concurrent `Create`s of `c1` leave it: both passed the `agentStarted` check,
allocated CIDs 3 and 4 and started their hypervisors; `s.machine`, the agent client and `s.ctx`
are the second's. -/
def twoCreates : Shim :=
  ⟨⟨"c1", exampleConfig, true, some 4, some 1, 4, some 1⟩,
    [⟨baseConfig exampleConfig 3, true, false⟩, ⟨baseConfig exampleConfig 4, true, false⟩], [0, 1],
    [false, false], [0, 1], [⟨"", 7, .created, 0⟩, ⟨"", 8, .created, 0⟩], [some 0, some 1], [],
    false, [.returned none, .returned none]⟩

/-- A `Kill` of `c1` on thread 2 whose agent call, `s.cancel()` and `stopVM` succeed. -/
def killC1 : List Event := [.request (.kill "c1" ""), .run 2 .ok, .run 2 .ok, .run 2 .ok]

namespace Shim

section Replaced

variable {w w' : Shim} {i t : Nat}

/-- A step keeps a machine `s.machine` does not point at, and the request it was built for,
unless the step ends that request's context, which stops it; the step does not point
`s.machine` at it. -/
theorem step_keeps_replaced {e : Event} (h : w.step e = some w') (hi : i < w.machines.length)
    (ht : w.builtBy[i]? = some t) (hm : w.svc.machine ≠ some i) :
    (e ≠ .ctxDone t → w'.machines[i]? = w.machines[i]?) ∧
    (e = .ctxDone t →
      w'.machines[i]? = w.machines[i]?.map fun m => { m with stopped := true }) ∧
    i < w'.machines.length ∧ w'.builtBy[i]? = some t ∧ w'.svc.machine ≠ some i := by
  have hbl : i < w.builtBy.length := (List.getElem?_eq_some_iff.1 ht).1
  rcases step_footprint h with ⟨⟨hmv, -⟩, hne⟩ | ⟨t', rfl, rfl⟩
  · have hkeep : w'.machines[i]? = w.machines[i]? ∧ i < w'.machines.length ∧
        w'.builtBy[i]? = some t ∧ w'.svc.machine ≠ some i := by
      rcases hmv with ⟨h1, h2, h3 | h3⟩ | ⟨cfg, _, h1, h2, h3⟩ | ⟨j, f, hj, h1, h2, h3⟩
      · exact ⟨by rw [h1], by rwa [h1], by rwa [h2], by rwa [h3]⟩
      · exact ⟨by rw [h1], by rwa [h1], by rwa [h2], by simp [h3]⟩
      · refine ⟨by rw [h1, List.getElem?_append_left hi], by simp [h1]; omega,
          by rw [h2, List.getElem?_append_left hbl, ht], ?_⟩
        rw [h3]; simp only [ne_eq, Option.some.injEq]; omega
      · have hji : j ≠ i := fun e => hm (hj.trans (congrArg some e))
        exact ⟨by rw [h1, List.getElem?_modify_ne _ _ hji], by simpa [h1] using hi, by rwa [h2],
          by rwa [h3]⟩
    exact ⟨fun _ => hkeep.1, fun he => absurd he (hne t), hkeep.2⟩
  · refine ⟨fun hne => ?_, fun he => ?_, by simpa using hi, by simpa using ht, by simpa using hm⟩
    · have htt : t ≠ t' := fun e => hne (e ▸ rfl)
      simp [getElem?_endRequest_machines, ht, htt]
    · cases he
      simp [getElem?_endRequest_machines, ht]

/-- Through a run, a machine `s.machine` does not point at stays as it is, unless the run ends
the context of the request it was built for, which stops it. -/
theorem run_keeps_replaced :
    ∀ {w w' : Shim} {es : List Event}, w.run es = some w' → i < w.machines.length →
      w.builtBy[i]? = some t → w.svc.machine ≠ some i →
      (.ctxDone t ∉ es → w'.machines[i]? = w.machines[i]?) ∧
      (.ctxDone t ∈ es →
        w'.machines[i]? = w.machines[i]?.map fun m => { m with stopped := true })
  | _, _, [], h, _, _, _ => by cases h; exact ⟨fun _ => rfl, fun h => absurd h (List.not_mem_nil _)⟩
  | w, _, e :: es, h, hi, ht, hm => by
    simp only [run] at h
    cases he : w.step e with
    | none => simp [he] at h
    | some w₁ =>
      obtain ⟨h1, h2, hi', ht', hm'⟩ := step_keeps_replaced he hi ht hm
      obtain ⟨ih1, ih2⟩ := run_keeps_replaced (by simpa [he] using h) hi' ht' hm'
      simp only [List.mem_cons, not_or]
      refine ⟨fun ⟨hne, hes⟩ => by rw [ih1 hes, h1 (Ne.symm hne)], fun hin => ?_⟩
      by_cases hes : .ctxDone t ∈ es
      · rw [ih2 hes]
        by_cases heq : e = .ctxDone t
        · rw [h2 heq, Option.map_map]; rfl
        · rw [h1 heq]
      · rw [ih1 hes, h2 (hin.resolve_right hes).symm]

/-- **Replaced hypervisors are stopped only by their request's end.** In every state of the
shim, a step changes only the machine `s.machine` points at and the machines built for a request
whose context it ends, and `s.machine` only moves to a newly built machine or to nil. So a
machine that `s.machine` does not point at — in particular a hypervisor still running when a
later `NewMachine` replaced it — stays exactly as it is through every later run of the shim, its
`Kill` and `Shutdown` requests included, unless the context of the `Create` that built it ends
in the run, which stops it and changes nothing else of it. -/
theorem replaced_machine_stopped_only_by_request (w : Shim) (i t : Nat) (m : Machine)
    (hi : w.machines[i]? = some m) (ht : w.builtBy[i]? = some t) (hm : w.svc.machine ≠ some i)
    (es : List Event) (w' : Shim) (h : w.run es = some w') :
    (.ctxDone t ∉ es → w'.machines[i]? = some m) ∧
      (.ctxDone t ∈ es → w'.machines[i]? = some { m with stopped := true }) := by
  obtain ⟨h1, h2⟩ := run_keeps_replaced h (List.getElem?_eq_some_iff.1 hi).1 ht hm
  exact ⟨fun he => (h1 he).trans hi, fun he => by rw [h2 he, hi]; rfl⟩

theorem replaced_machine_stopped_only_by_request_twoCreates :
    twoCreates.machines[0]? = some ⟨baseConfig exampleConfig 3, true, false⟩ ∧
      twoCreates.builtBy[0]? = some 0 ∧ twoCreates.svc.machine ≠ some 0 ∧
      ∃ w', twoCreates.run (killC1 ++ [.ctxDone 1]) = some w' ∧
        (.ctxDone 0 ∉ killC1 ++ [.ctxDone 1] →
          w'.machines[0]? = some ⟨baseConfig exampleConfig 3, true, false⟩) ∧
        (.ctxDone 0 ∈ killC1 ++ [.ctxDone 1] →
          w'.machines[0]? = some ⟨baseConfig exampleConfig 3, true, true⟩) := by
  obtain ⟨w', h⟩ := Option.isSome_iff_exists.1
    (show (twoCreates.run (killC1 ++ [.ctxDone 1])).isSome by decide)
  exact ⟨rfl, rfl, by decide, w', h,
    replaced_machine_stopped_only_by_request twoCreates 0 0 _ rfl rfl (by decide) _ w' h⟩

end Replaced

end Shim

/-- The failing input of the VM lifecycle: after the run, the `Kill` has returned, `s.machine`
points at the second hypervisor, which the `Kill` stopped, and the first hypervisor runs — and
keeps running through every later run of the shim exactly as long as the context of the first
`Create` request has not ended. -/
theorem start_failure_leaks_vm :
    ∃ w, Reachable "c1" exampleConfig w ∧ w.threads[2]? = some (.returned none) ∧
      w.svc.machine = some 1 ∧ w.machines.map Machine.running = [true, false] ∧
      ∀ es w', w.run es = some w' →
        (w'.machines[0]?.map Machine.running = some true ↔ .ctxDone 0 ∉ es) := by
  obtain ⟨w, hw, hp⟩ := reach_of_run "c1" exampleConfig startFailureRun
    (fun w => w.threads[2]? == some (.returned none) && w.svc.machine == some 1 &&
      w.machines.map Machine.running == [true, false] && w.builtBy == [0, 1]) (by decide)
  simp only [Bool.and_eq_true, beq_iff_eq] at hp
  obtain ⟨⟨⟨ht, hm⟩, hr⟩, hb⟩ := hp
  have h0 : w.machines[0]?.map Machine.running = some true := by rw [← List.getElem?_map, hr]; rfl
  refine ⟨w, hw, ht, hm, hr, fun es w' h => ?_⟩
  have hlen : w.machines.length = 2 := by simpa using congrArg List.length hr
  obtain ⟨h1, h2⟩ := Shim.run_keeps_replaced (i := 0) (t := 0) h (by omega) (by rw [hb]; rfl)
    (by simp [hm])
  by_cases hc : .ctxDone 0 ∈ es
  · obtain ⟨m, hm0⟩ := Option.isSome_iff_exists.1 (show w.machines[0]?.isSome by simp [hlen])
    simp [h2 hc, hm0, hc, Machine.running]
  · rw [h1 hc, h0]
    simp [hc]

/-- **The configuration `startVM` passes to `NewMachine`.** From every state, for a `Create`
that is about to allocate its CID, and every host on which the allocation succeeds: the step
builds no machine and changes no field of the service (`s.machine`, `s.machineCID` included);
it rejects the request with an error when some mount is not ext4; otherwise the thread goes on
to `NewMachine` with a configuration that has the drive layout for the CID, the root drive and
the rootfs, and the `NewMachine` step builds the machine from exactly that configuration. -/
theorem startVM_config (w : Shim) (t : Nat) (req : CreateTaskRequest) (h : Host) (cid : UInt32)
    (hx : w.exited = false) (ht : w.threads[t]? = some (.create req .findCID))
    (hc : (findNextAvailableVsockCID h).2 = .ok cid) :
    ∃ w', w.step (.run t (.host h)) = some w' ∧ w'.svc = w.svc ∧ w'.machines = w.machines ∧
      ((∃ m ∈ req.rootfs, m.type ≠ "ext4") → ∃ e, w'.threads[t]? = some (.returned (some e))) ∧
      ((∀ m ∈ req.rootfs, m.type = "ext4") → ∃ cfg,
        w'.threads[t]? = some (.create req (.newMachine cfg cid)) ∧
        (w'.step (.run t .ok)).map (·.machines) = some (w.machines ++ [⟨cfg, false, false⟩]) ∧
        DriveLayout w.svc.config.rootDrive cid req.rootfs cfg) := by
  have hlt : t < w.threads.length := (List.getElem?_eq_some_iff.1 ht).1
  have hd := vmConfig_drives w.svc.config cid req.rootfs
  have hstep : w.step (.run t (.host h)) = match vmConfig w.svc.config cid req.rootfs with
      | .error e => some (w.setThread t (.returned (some e)))
      | .ok cfg => some (w.setThread t (.create req (.newMachine cfg cid))) := by
    simp only [Shim.step, hx, ht, Shim.runHandler, Shim.createStep, hc]
    rfl
  rcases hv : vmConfig w.svc.config cid req.rootfs with e | cfg <;> rw [hv] at hstep
  · refine ⟨_, hstep, rfl, rfl, fun _ => ⟨e, by simp [hlt]⟩, fun hall => ?_⟩
    obtain ⟨cfg, hcfg⟩ := hd.1.2 hall
    rw [hv] at hcfg; cases hcfg
  · refine ⟨_, hstep, rfl, rfl, fun ⟨m, hm, hne⟩ => absurd (hd.1.1 ⟨cfg, hv⟩ m hm) hne,
      fun _ => ⟨cfg, by simp [hlt], ?_, hd.2 cfg hv⟩⟩
    simp [Shim.step, hx, hlt, Shim.runHandler, Shim.createStep]

/-- A shim with a `Create` of `c1` about to allocate its CID. -/
def findingCID : Shim := { Shim.init "c1" exampleConfig with threads := [.create createC1 .findCID] }

theorem startVM_config_createC1 :
    findingCID.exited = false ∧ findingCID.threads[0]? = some (.create createC1 .findCID) ∧
      (findNextAvailableVsockCID (hostFrom 3)).2 = .ok 3 ∧
    ∃ w', findingCID.step (.run 0 (.host (hostFrom 3))) = some w' ∧ w'.svc = findingCID.svc ∧
      w'.machines = findingCID.machines ∧
      ((∃ m ∈ createC1.rootfs, m.type ≠ "ext4") → ∃ e, w'.threads[0]? = some (.returned (some e))) ∧
      ((∀ m ∈ createC1.rootfs, m.type = "ext4") → ∃ cfg,
        w'.threads[0]? = some (.create createC1 (.newMachine cfg 3)) ∧
        (w'.step (.run 0 .ok)).map (·.machines) = some (findingCID.machines ++ [⟨cfg, false, false⟩]) ∧
        DriveLayout findingCID.svc.config.rootDrive 3 createC1.rootfs cfg) :=
  ⟨rfl, rfl, rfl, startVM_config findingCID 0 createC1 (hostFrom 3) 3 rfl rfl rfl⟩

end FirecrackerContainerd.Runtime
