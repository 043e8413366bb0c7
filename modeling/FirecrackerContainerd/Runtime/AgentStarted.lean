import FirecrackerContainerd.Runtime.Machines

/-!
# The `agentStarted` check

`Create` calls `startVM` only while `s.agentStarted` is false, and the flag is set once the
agent answers; the source asks whether the check needs a lock. A `Create` that passed the check
and has not yet called `NewMachine` (`Handler.buildsMachine`) is the only thread that can build
a hypervisor or move `s.machine`. So, once the agent has started, the check holds back every
`Create` that reaches it later:

* `Calm` — a step that builds no machine, keeps `s.machine`, keeps `agentStarted` or sets it,
  and moves threads only to handlers not on their way to `NewMachine`. `step_calm`: from a
  `Settled` state every step is calm, and `Settled.of_calm`: it leads to a `Settled` state.
* `agent_started_keeps_machine` — from every state where the agent has started and no `Create`
  is between the check and `NewMachine`, every run keeps the number of machines and
  `s.machine`. With `step_keeps_replaced`, every machine but the one `s.machine` points at then
  stays as it is until the context of the request it was built for ends.

The hypothesis on the threads is what the missing lock would give: a `Create` that passed the
check before the first one set the flag builds a second hypervisor (`twoCreates`).
-/

namespace FirecrackerContainerd.Runtime

/-- A `Create` that passed the `agentStarted` check and has not called `NewMachine` yet. -/
def Handler.buildsMachine : Handler → Bool
  | .create _ .findCID | .create _ (.newMachine _ _) => true
  | _ => false

/-- A thread moved to a handler not on its way to `NewMachine` adds no such handler. -/
theorem Handler.mem_set_of_buildsMachine {l : List Handler} {t : Nat} {hd : Handler}
    (hb : hd.buildsMachine = false) : ∀ x ∈ l.set t hd, x ∈ l ∨ x.buildsMachine = false :=
  fun x hx => (List.mem_or_eq_of_mem_set hx).imp_right fun (e : x = hd) => e ▸ hb

/-- A request starts its handler at the top, before any check. -/
theorem Request.handler_buildsMachine (r : Request) : r.handler.buildsMachine = false := by
  cases r <;> rfl

/-- A `Create` about to ask the agent again, on thread 2 of `twoCreates`: the check, the
agent's `Create`, the context. -/
def createAgain : List Event :=
  [.request (.create createC1), .run 2 .ok, .run 2 (.pid 9), .run 2 .ok]

namespace Shim

/-- The agent has started, and no `Create` is on its way to `NewMachine`. -/
def Settled (w : Shim) : Prop :=
  w.svc.agentStarted = true ∧ ∀ h ∈ w.threads, h.buildsMachine = false

/-- A step that builds no machine, keeps `s.machine`, keeps `agentStarted` or sets it, and moves
threads only to handlers not on their way to `NewMachine`. -/
structure Calm (w w' : Shim) : Prop where
  machines : w'.machines.length = w.machines.length
  machine : w'.svc.machine = w.svc.machine
  agentStarted : w'.svc.agentStarted = w.svc.agentStarted ∨ w'.svc.agentStarted = true
  threads : ∀ h ∈ w'.threads, h ∈ w.threads ∨ h.buildsMachine = false

section Calm

variable {w w₁ w' : Shim}

theorem Calm.trans (h₁ : Calm w w₁) (h₂ : Calm w₁ w') : Calm w w' where
  machines := h₂.machines.trans h₁.machines
  machine := h₂.machine.trans h₁.machine
  agentStarted := h₂.agentStarted.elim (fun h => h ▸ h₁.agentStarted) .inr
  threads := fun x hx => (h₂.threads x hx).elim (h₁.threads x) .inr

/-- A calm step from a settled state leads to a settled state. -/
theorem Settled.of_calm (hs : Settled w) (hc : Calm w w') : Settled w' :=
  ⟨hc.agentStarted.elim (fun h => h.trans hs.1) id,
    fun x hx => (hc.threads x hx).elim (hs.2 x) id⟩

/-- A change of the guest, the contexts or the exit flag only. -/
theorem calm_quiet (hm : w'.machines = w.machines) (hs : w'.svc.machine = w.svc.machine)
    (ha : w'.svc.agentStarted = w.svc.agentStarted) (ht : w'.threads = w.threads) : Calm w w' :=
  ⟨by rw [hm], hs, .inl ha, fun _ hx => .inl (ht ▸ hx)⟩

theorem calm_rfl : Calm w w := calm_quiet rfl rfl rfl rfl

theorem calm_crash : Calm w w.crash := calm_quiet rfl rfl rfl rfl

theorem calm_cancelTask : Calm w w.cancelTask := by
  unfold cancelTask
  split
  · exact calm_crash
  · exact calm_quiet rfl rfl rfl rfl

theorem calm_setMachine (i : Nat) (f : Machine → Machine) : Calm w (w.setMachine i f) :=
  ⟨List.length_modify f _ _, rfl, .inl rfl, fun _ hx => .inl hx⟩

theorem Calm.setThread (hc : Calm w w₁) {t : Nat} {hd : Handler}
    (hb : hd.buildsMachine = false) : Calm w (w₁.setThread t hd) :=
  hc.trans ⟨rfl, rfl, .inl rfl, Handler.mem_set_of_buildsMachine hb⟩

theorem calm_setThread {t : Nat} {hd : Handler} (hb : hd.buildsMachine = false) :
    Calm w (w.setThread t hd) :=
  calm_rfl.setThread hb

theorem stopVM_calm {a : Answer} {r : Shim × Option Error} (h : w.stopVM a = some r) :
    Calm w r.1 := by
  unfold stopVM at h
  split at h <;> cases h
  · exact calm_crash
  · exact calm_setMachine _ _
  · exact calm_rfl

/-- A `Create` that is not on its way to `NewMachine`, once the agent has started. -/
theorem createStep_calm {t : Nat} {req : CreateTaskRequest} {pc : CreatePc} {a : Answer}
    (hs : w.svc.agentStarted = true) (hpc : (Handler.create req pc).buildsMachine = false)
    (h : w.createStep t req pc a = some w') : Calm w w' := by
  unfold createStep at h
  split at h
  · -- the check sends it to the agent's `Create`
    cases h; rw [hs]; exact calm_setThread rfl
  · cases hpc
  · cases hpc
  · cases hpc
  · split at h <;> cases h
    · exact calm_crash
    · exact (calm_setMachine _ _).setThread rfl
    · exact calm_setThread rfl
    · exact (calm_setMachine _ _).setThread rfl
  · -- the dial sets the flag
    cases h; exact ⟨rfl, rfl, .inr rfl, Handler.mem_set_of_buildsMachine rfl⟩
  · cases h; exact calm_setThread rfl
  · obtain ⟨r, hr, rfl⟩ := Option.map_eq_some'.1 h
    exact (stopVM_calm hr).setThread rfl
  · split at h <;> cases h
    · exact calm_crash
    · exact calm_setThread rfl
    · exact ⟨rfl, rfl, .inl rfl, Handler.mem_set_of_buildsMachine rfl⟩
  · cases h; exact ⟨rfl, rfl, .inl rfl, Handler.mem_set_of_buildsMachine rfl⟩
  · cases h

theorem killStep_calm {t : Nat} {id execID : String} {pc : KillPc} {a : Answer}
    (h : w.killStep t id execID pc a = some w') : Calm w w' := by
  unfold killStep at h
  split at h
  · split at h <;> cases h
    · exact calm_crash
    · exact calm_setThread rfl
    · exact calm_setThread rfl
  · cases h; exact calm_cancelTask.setThread rfl
  · obtain ⟨r, hr, rfl⟩ := Option.map_eq_some'.1 h
    exact (stopVM_calm hr).setThread rfl
  · cases h

theorem shutdownStep_calm {live : Bool} {pc : ShutdownPc} {a : Answer}
    {r : Shim × ShutdownNext} (h : w.shutdownStep live pc a = some r) : Calm w r.1 := by
  unfold shutdownStep at h
  split at h
  · split at h <;> cases h
    · exact calm_crash
    · exact calm_rfl
  · obtain ⟨r', hr, rfl⟩ := Option.map_eq_some'.1 h
    split <;> exact stopVM_calm hr
  · cases h; exact calm_cancelTask
  · cases h; exact calm_quiet rfl rfl rfl rfl
  · cases h

theorem monitorStep_calm {t : Nat} {ctx : Option Nat} {id execID : String} {pid : Nat}
    {pc : MonitorPc} {a : Answer} (h : w.monitorStep t ctx id execID pid pc a = some w') :
    Calm w w' := by
  unfold monitorStep at h
  split at h
  · split at h
    · cases h; exact calm_crash
    · split at h <;> cases h; exact calm_setThread rfl
    · cases h; exact calm_setThread rfl
    · cases h
  · split at h
    · cases h; exact calm_crash
    · cases h; exact calm_setThread rfl
    · split at h
      · split at h <;> cases h
        · exact ⟨rfl, rfl, .inl rfl, Handler.mem_set_of_buildsMachine rfl⟩
        · exact calm_setThread rfl
      · cases h; exact calm_setThread rfl
  · obtain ⟨r, hr, rfl⟩ := Option.map_eq_some'.1 h
    split <;> exact (shutdownStep_calm hr).setThread rfl

/-- The step of a thread not on its way to `NewMachine`, once the agent has started. -/
theorem runHandler_calm {t : Nat} {hd : Handler} {a : Answer} (hs : w.svc.agentStarted = true)
    (hb : hd.buildsMachine = false) (h : w.runHandler t hd a = some w') : Calm w w' := by
  unfold runHandler at h
  split at h
  · exact createStep_calm hs hb h
  · -- `Start`: the agent call, then the monitor it starts
    split at h
    · cases h; exact calm_crash
    · cases h; exact calm_setThread rfl
    · split at h <;> cases h
      · refine ⟨rfl, rfl, .inl rfl, fun x hx => ?_⟩
        rcases List.mem_append.1 hx with hx | hx
        · exact @Handler.mem_set_of_buildsMachine _ _ (.returned none) rfl x hx
        · exact .inr ((List.mem_singleton.1 hx) ▸ rfl)
      · exact calm_setThread rfl
  · -- `Exec`
    split at h <;> cases h
    · exact calm_crash
    · exact calm_setThread rfl
    · exact ⟨rfl, rfl, .inl rfl, Handler.mem_set_of_buildsMachine rfl⟩
  · exact killStep_calm h
  · obtain ⟨r, hr, rfl⟩ := Option.map_eq_some'.1 h
    split <;> exact (shutdownStep_calm hr).setThread rfl
  · -- the calls only forwarded to the agent
    split at h <;> cases h
    · exact calm_crash
    · exact calm_setThread rfl
    · exact calm_setThread rfl
  · exact monitorStep_calm h
  · cases h

/-- Every step from a settled state is calm. -/
theorem step_calm {e : Event} (hs : Settled w) (h : w.step e = some w') : Calm w w' := by
  unfold step at h
  split at h
  · -- a request adds its thread, at the check
    split at h <;> cases h
    refine ⟨rfl, rfl, .inl rfl, fun x hx => ?_⟩
    rcases List.mem_append.1 hx with hx | hx
    · exact .inl hx
    · exact .inr ((List.mem_singleton.1 hx) ▸ Request.handler_buildsMachine _)
  · split at h
    · cases h
    · split at h <;> cases h; exact calm_quiet rfl rfl rfl rfl
  · split at h
    · cases h
    · split at h
      · exact runHandler_calm hs.1 (hs.2 _ (List.getElem?_mem ‹_›)) h
      · cases h
  · -- the end of a request's context stops machines and cancels contexts, and builds nothing
    split at h <;> cases h
    exact ⟨length_endRequest_machines _ _, rfl, .inl rfl, fun _ hx => .inl hx⟩

/-- Every run from a settled state is calm and stays settled. -/
theorem run_calm : ∀ {w w' : Shim} {es : List Event}, Settled w → w.run es = some w' →
    Calm w w' ∧ Settled w'
  | _, _, [], hs, h => by cases h; exact ⟨calm_rfl, hs⟩
  | w, _, e :: es, hs, h => by
    simp only [run] at h
    cases he : w.step e with
    | none => simp [he] at h
    | some w₁ =>
      have hc := step_calm hs he
      obtain ⟨hc', hs'⟩ := run_calm (hs.of_calm hc) (by simpa [he] using h)
      exact ⟨hc.trans hc', hs'⟩

end Calm

/-- **Once the agent has started, no run builds a hypervisor.** From every state of the shim
where `agentStarted` is set and no `Create` is between the check and `NewMachine`, every run —
later `Create`s, `Kill`s, `Shutdown`s, monitors, guest exits and the ends of request contexts in
any interleaving — keeps the
number of machines and the machine `s.machine` points at, and the state stays so. -/
theorem agent_started_keeps_machine (w : Shim) (hs : w.svc.agentStarted = true)
    (hb : ∀ h ∈ w.threads, h.buildsMachine = false) (es : List Event) (w' : Shim)
    (h : w.run es = some w') :
    w'.machines.length = w.machines.length ∧ w'.svc.machine = w.svc.machine ∧
      w'.svc.agentStarted = true ∧ ∀ h ∈ w'.threads, h.buildsMachine = false := by
  obtain ⟨hc, hs'⟩ := run_calm ⟨hs, hb⟩ h
  exact ⟨hc.machines, hc.machine, hs'⟩

theorem agent_started_keeps_machine_twoCreates :
    twoCreates.svc.agentStarted = true ∧ (∀ h ∈ twoCreates.threads, h.buildsMachine = false) ∧
      ∃ w', twoCreates.run createAgain = some w' ∧ w'.machines.length = 2 ∧
        w'.svc.machine = some 1 ∧ w'.svc.agentStarted = true ∧
        ∀ h ∈ w'.threads, h.buildsMachine = false := by
  obtain ⟨w', h⟩ := Option.isSome_iff_exists.1 (show (twoCreates.run createAgain).isSome by decide)
  exact ⟨rfl, by decide, w', h, agent_started_keeps_machine twoCreates rfl (by decide) _ w' h⟩

end Shim

end FirecrackerContainerd.Runtime
