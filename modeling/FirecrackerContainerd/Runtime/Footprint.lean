import FirecrackerContainerd.Runtime.Service

/-!
# What one step of the shim can change

Two resources of the shim matter to its lifecycle: the hypervisors with `s.machine`, and the
per-task contexts with `s.ctx`. `step_footprint` says, for every step, what it may do to each:
a request, a guest exit and a thread's step keep to `Footprint`,

* `MachinesMove` — the machines stay while `s.machine` stays or becomes nil (a failing
  `NewMachine`), or a new machine is built for a request and becomes `s.machine`, or the machine
  `s.machine` points at changes (`Start`, `StopVMM`);
* `ContextsMove` — the contexts stay, or a new uncancelled context derived from a request
  becomes `s.ctx` (`Create`), or `s.ctx` is cancelled (`s.cancel()`);

and the end of a request's context is `endRequest`, which acts only on the machines built for
that request and the contexts derived from it. The case analysis over the handlers is done once
here; the lifecycle results only use `step_footprint`.
-/

namespace FirecrackerContainerd.Runtime

namespace Shim

/-- What a step may do to the machines and to `s.machine`. -/
def MachinesMove (w w' : Shim) : Prop :=
  (w'.machines = w.machines ∧ w'.builtBy = w.builtBy ∧
    (w'.svc.machine = w.svc.machine ∨ w'.svc.machine = none)) ∨
  (∃ cfg t, w'.machines = w.machines ++ [⟨cfg, false, false⟩] ∧ w'.builtBy = w.builtBy ++ [t] ∧
    w'.svc.machine = some w.machines.length) ∨
  (∃ i f, w.svc.machine = some i ∧ w'.machines = w.machines.modify f i ∧
    w'.builtBy = w.builtBy ∧ w'.svc.machine = w.svc.machine)

/-- What a step may do to the contexts and to `s.ctx`. -/
def ContextsMove (w w' : Shim) : Prop :=
  (w'.cancelled = w.cancelled ∧ w'.ctxOf = w.ctxOf ∧ w'.svc.ctx = w.svc.ctx) ∨
  (∃ t, w'.cancelled = w.cancelled ++ [false] ∧ w'.ctxOf = w.ctxOf ++ [t] ∧
    w'.svc.ctx = some w.cancelled.length) ∨
  (∃ c, w.svc.ctx = some c ∧ w'.cancelled = w.cancelled.set c true ∧ w'.ctxOf = w.ctxOf ∧
    w'.svc.ctx = w.svc.ctx)

/-- What a step of a thread, a request or a guest exit may do to the shim's resources. -/
structure Footprint (w w' : Shim) : Prop where
  machines : MachinesMove w w'
  contexts : ContextsMove w w'

/-- A change that leaves the resources alone: threads, the guest, the agent client, a crash. -/
structure Quiet (w w' : Shim) : Prop where
  machines : w'.machines = w.machines
  builtBy : w'.builtBy = w.builtBy
  machine : w'.svc.machine = w.svc.machine
  cancelled : w'.cancelled = w.cancelled
  ctxOf : w'.ctxOf = w.ctxOf
  ctx : w'.svc.ctx = w.svc.ctx

section Footprint

variable {w w₁ w' : Shim}

theorem Quiet.footprint (h : Quiet w w') : Footprint w w' where
  machines := .inl ⟨h.machines, h.builtBy, .inl h.machine⟩
  contexts := .inl ⟨h.cancelled, h.ctxOf, h.ctx⟩

theorem quiet_rfl : Quiet w w := ⟨rfl, rfl, rfl, rfl, rfl, rfl⟩

theorem footprint_rfl : Footprint w w := quiet_rfl.footprint

/-- A quiet change after a step keeps the step's footprint. -/
theorem Footprint.quiet (h : Footprint w w₁) (hq : Quiet w₁ w') : Footprint w w' := by
  obtain ⟨hm, hc⟩ := h
  obtain ⟨h1, h2, h3, h4, h5, h6⟩ := hq
  refine ⟨?_, ?_⟩
  · unfold MachinesMove at *; rwa [h1, h2, h3]
  · unfold ContextsMove at *; rwa [h4, h5, h6]

/-- Moving a thread is quiet. -/
theorem quiet_setThread (t : Nat) (h : Handler) : Quiet w (w.setThread t h) := ⟨rfl, rfl, rfl, rfl, rfl, rfl⟩

theorem Footprint.setThread (hf : Footprint w w₁) (t : Nat) (h : Handler) :
    Footprint w (w₁.setThread t h) :=
  hf.quiet (quiet_setThread t h)

theorem footprint_setThread (t : Nat) (h : Handler) : Footprint w (w.setThread t h) :=
  (quiet_setThread t h).footprint

theorem footprint_crash : Footprint w w.crash := Quiet.footprint ⟨rfl, rfl, rfl, rfl, rfl, rfl⟩

theorem footprint_setMachine {i : Nat} (hi : w.svc.machine = some i) (f : Machine → Machine) :
    Footprint w (w.setMachine i f) :=
  ⟨.inr (.inr ⟨i, f, hi, rfl, rfl, rfl⟩), .inl ⟨rfl, rfl, rfl⟩⟩

theorem footprint_cancelTask : Footprint w w.cancelTask := by
  unfold cancelTask
  split
  · exact footprint_crash
  · exact ⟨.inl ⟨rfl, rfl, .inl rfl⟩, .inr (.inr ⟨_, ‹_›, rfl, rfl, rfl⟩)⟩

theorem stopVM_footprint {a : Answer} {r : Shim × Option Error} (h : w.stopVM a = some r) :
    Footprint w r.1 := by
  unfold stopVM at h
  split at h <;> cases h
  · exact footprint_crash
  · exact footprint_setMachine ‹_› _
  · exact footprint_rfl

theorem createStep_footprint {t : Nat} {req : CreateTaskRequest} {pc : CreatePc} {a : Answer}
    (h : w.createStep t req pc a = some w') : Footprint w w' := by
  unfold createStep at h
  split at h
  · cases h; exact footprint_setThread _ _
  · split at h
    · cases h; exact footprint_setThread _ _
    · split at h <;> cases h <;> exact footprint_setThread _ _
  · cases h; exact ⟨.inr (.inl ⟨_, _, rfl, rfl, rfl⟩), .inl ⟨rfl, rfl, rfl⟩⟩
  · cases h; exact ⟨.inl ⟨rfl, rfl, .inr rfl⟩, .inl ⟨rfl, rfl, rfl⟩⟩
  · split at h <;> cases h
    · exact footprint_crash
    · exact (footprint_setMachine ‹_› _).setThread _ _
    · exact footprint_setThread _ _
    · exact (footprint_setMachine ‹_› _).setThread _ _
  · cases h; exact Quiet.footprint ⟨rfl, rfl, rfl, rfl, rfl, rfl⟩
  · cases h; exact footprint_setThread _ _
  · obtain ⟨r, hr, rfl⟩ := Option.map_eq_some'.1 h
    exact (stopVM_footprint hr).setThread _ _
  · split at h <;> cases h
    · exact footprint_crash
    · exact footprint_setThread _ _
    · exact Quiet.footprint ⟨rfl, rfl, rfl, rfl, rfl, rfl⟩
  · cases h; exact ⟨.inl ⟨rfl, rfl, .inl rfl⟩, .inr (.inl ⟨_, rfl, rfl, rfl⟩)⟩
  · cases h

theorem killStep_footprint {t : Nat} {id execID : String} {pc : KillPc} {a : Answer}
    (h : w.killStep t id execID pc a = some w') : Footprint w w' := by
  unfold killStep at h
  split at h
  · split at h <;> cases h
    · exact footprint_crash
    · exact footprint_setThread _ _
    · exact footprint_setThread _ _
  · cases h; exact footprint_cancelTask.setThread _ _
  · obtain ⟨r, hr, rfl⟩ := Option.map_eq_some'.1 h
    exact (stopVM_footprint hr).setThread _ _
  · cases h

theorem shutdownStep_footprint {live : Bool} {pc : ShutdownPc} {a : Answer}
    {r : Shim × ShutdownNext} (h : w.shutdownStep live pc a = some r) : Footprint w r.1 := by
  unfold shutdownStep at h
  split at h
  · split at h <;> cases h
    · exact footprint_crash
    · exact footprint_rfl
  · obtain ⟨r', hr, rfl⟩ := Option.map_eq_some'.1 h
    split <;> exact stopVM_footprint hr
  · cases h; exact footprint_cancelTask
  · cases h; exact Quiet.footprint ⟨rfl, rfl, rfl, rfl, rfl, rfl⟩
  · cases h

theorem monitorStep_footprint {t : Nat} {ctx : Option Nat} {id execID : String} {pid : Nat}
    {pc : MonitorPc} {a : Answer} (h : w.monitorStep t ctx id execID pid pc a = some w') :
    Footprint w w' := by
  unfold monitorStep at h
  split at h
  · split at h
    · cases h; exact footprint_crash
    · split at h <;> cases h; exact footprint_setThread _ _
    · cases h; exact footprint_setThread _ _
    · cases h
  · split at h
    · cases h; exact footprint_crash
    · cases h; exact footprint_setThread _ _
    · split at h
      · split at h <;> cases h
        · exact Quiet.footprint ⟨rfl, rfl, rfl, rfl, rfl, rfl⟩
        · exact footprint_setThread _ _
      · cases h; exact footprint_setThread _ _
  · obtain ⟨r, hr, rfl⟩ := Option.map_eq_some'.1 h
    split <;> exact (shutdownStep_footprint hr).setThread _ _

/-- The step of a thread, whichever handler or monitor it runs. -/
theorem runHandler_footprint {t : Nat} {hd : Handler} {a : Answer}
    (h : w.runHandler t hd a = some w') : Footprint w w' := by
  unfold runHandler at h
  split at h
  · exact createStep_footprint h
  · -- `Start`: the agent call, then the monitor it starts
    split at h
    · cases h; exact footprint_crash
    · cases h; exact footprint_setThread _ _
    · split at h <;> cases h
      · exact Quiet.footprint ⟨rfl, rfl, rfl, rfl, rfl, rfl⟩
      · exact footprint_setThread _ _
  · -- `Exec`
    split at h <;> cases h
    · exact footprint_crash
    · exact footprint_setThread _ _
    · exact Quiet.footprint ⟨rfl, rfl, rfl, rfl, rfl, rfl⟩
  · exact killStep_footprint h
  · obtain ⟨r, hr, rfl⟩ := Option.map_eq_some'.1 h
    split <;> exact (shutdownStep_footprint hr).setThread _ _
  · -- the calls only forwarded to the agent
    split at h <;> cases h
    · exact footprint_crash
    · exact footprint_setThread _ _
    · exact footprint_setThread _ _
  · exact monitorStep_footprint h
  · cases h

/-- **What a step can change.** Every event, from every state: a request, a guest exit or a
thread's step keeps to `Footprint`, and the end of a request's context is `endRequest`. -/
theorem step_footprint {e : Event} (h : w.step e = some w') :
    (Footprint w w' ∧ ∀ t, e ≠ .ctxDone t) ∨ ∃ t, e = .ctxDone t ∧ w' = w.endRequest t := by
  unfold step at h
  split at h
  · -- a request adds its thread
    split at h <;> cases h
    exact .inl ⟨Quiet.footprint ⟨rfl, rfl, rfl, rfl, rfl, rfl⟩, fun _ => nofun⟩
  · -- a guest process exits
    split at h
    · cases h
    · split at h <;> cases h
      exact .inl ⟨Quiet.footprint ⟨rfl, rfl, rfl, rfl, rfl, rfl⟩, fun _ => nofun⟩
  · split at h
    · cases h
    · split at h
      · exact .inl ⟨runHandler_footprint h, fun _ => nofun⟩
      · cases h
  · split at h <;> cases h; exact .inr ⟨_, rfl, rfl⟩

end Footprint

end Shim

end FirecrackerContainerd.Runtime
