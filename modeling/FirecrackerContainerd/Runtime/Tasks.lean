import FirecrackerContainerd.Runtime.Machines

/-!
# Task contexts and exit events

`Create` makes a new per-task context, `context.WithCancel` of its request's context, stores it
(with its cancel function) in `s.ctx`, and hands it to the stdio proxies; `Start` hands `s.ctx`
to the state monitor it starts. A handler cancels a context only through `s.cancel()`, in `Kill`
after the agent's `Kill` succeeded and in `Shutdown` after `stopVM` succeeded; the end of a
`Create`'s request context cancels the contexts derived from it. A state monitor publishes a
`TaskExit` when the agent reports the process it polls stopped. From `step_footprint`:

* `step_keeps_replaced_context`, `replaced_context_cancelled_only_by_request` — a context that
  is no longer `s.ctx` stays as it is through every later run until the context of the `Create`
  it derives from ends: once a later `Create` replaced it, no `Kill` or `Shutdown` cancels the
  context of the earlier proxies and monitors. `kill_failure_leaves_context`: a `Kill` whose
  agent call fails returns without cancelling the task's context.
* `exec_exit_and_shutdown_events`: an exec process that stops publishes the container's exit
  while the init process runs, and a `Shutdown` after the init process stopped ends the shim
  with no `TaskExit`.
-/

namespace FirecrackerContainerd.Runtime

namespace Shim

section Contexts

variable {w w' : Shim} {c t : Nat}

/-- A step keeps a context that is not `s.ctx`, and the request it derives from, unless the step
ends that request's context, which cancels it; the step does not make it `s.ctx`. -/
theorem step_keeps_replaced_context {e : Event} (h : w.step e = some w')
    (hc : c < w.cancelled.length) (ht : w.ctxOf[c]? = some t) (hx : w.svc.ctx ≠ some c) :
    (e ≠ .ctxDone t → w'.cancelled[c]? = w.cancelled[c]?) ∧
    (e = .ctxDone t → w'.cancelled[c]? = some true) ∧
    c < w'.cancelled.length ∧ w'.ctxOf[c]? = some t ∧ w'.svc.ctx ≠ some c := by
  have hcl : c < w.ctxOf.length := (List.getElem?_eq_some_iff.1 ht).1
  rcases step_footprint h with ⟨⟨-, hcx⟩, hne⟩ | ⟨t', rfl, rfl⟩
  · have hkeep : w'.cancelled[c]? = w.cancelled[c]? ∧ c < w'.cancelled.length ∧
        w'.ctxOf[c]? = some t ∧ w'.svc.ctx ≠ some c := by
      rcases hcx with ⟨h1, h2, h3⟩ | ⟨_, h1, h2, h3⟩ | ⟨d, hd, h1, h2, h3⟩
      · exact ⟨by rw [h1], by rwa [h1], by rwa [h2], by rwa [h3]⟩
      · refine ⟨by rw [h1, List.getElem?_append_left hc], by simp [h1]; omega,
          by rw [h2, List.getElem?_append_left hcl, ht], ?_⟩
        rw [h3]; simp only [ne_eq, Option.some.injEq]; omega
      · have hdc : d ≠ c := fun e => hx (hd.trans (congrArg some e))
        exact ⟨by rw [h1, List.getElem?_set_ne hdc], by simpa [h1] using hc, by rwa [h2],
          by rwa [h3]⟩
    exact ⟨fun _ => hkeep.1, fun he => absurd he (hne t), hkeep.2⟩
  · refine ⟨fun hne => ?_, fun he => ?_, by simpa using hc, by simpa using ht, by simpa using hx⟩
    · have htt : t ≠ t' := fun e => hne (e ▸ rfl)
      simp [getElem?_endRequest_cancelled, ht, beq_false_of_ne htt]
    · cases he
      simp [getElem?_endRequest_cancelled, ht, List.getElem?_eq_getElem hc]

/-- **Replaced task contexts are cancelled only by their request's end.** In every state of the
shim, a handler cancels only `s.ctx`, `s.ctx` only moves to a new context, and the end of a
request's context cancels only the contexts derived from it. So a context that is not `s.ctx`
— in particular the one an earlier `Create` handed to its stdio proxies, and a `Start` to its
state monitor, once a later `Create` replaced it — stays as it is through every later run of
the shim, its `Kill` and `Shutdown` requests included, unless the context of the `Create` it
derives from ends in the run, which cancels it. -/
theorem replaced_context_cancelled_only_by_request (w : Shim) (c t : Nat)
    (hc : c < w.cancelled.length) (ht : w.ctxOf[c]? = some t) (hx : w.svc.ctx ≠ some c)
    (es : List Event) (w' : Shim) (h : w.run es = some w') :
    (.ctxDone t ∉ es → w'.cancelled[c]? = w.cancelled[c]?) ∧
      (.ctxDone t ∈ es → w'.cancelled[c]? = some true) := by
  induction es generalizing w with
  | nil => cases h; exact ⟨fun _ => rfl, fun h => absurd h (List.not_mem_nil _)⟩
  | cons e es ih =>
    simp only [run] at h
    cases he : w.step e with
    | none => simp [he] at h
    | some w₁ =>
      obtain ⟨h1, h2, hc', ht', hx'⟩ := step_keeps_replaced_context he hc ht hx
      obtain ⟨ih1, ih2⟩ := ih w₁ hc' ht' hx' (by simpa [he] using h)
      simp only [List.mem_cons, not_or]
      refine ⟨fun ⟨hne, hes⟩ => by rw [ih1 hes, h1 (Ne.symm hne)], fun hin => ?_⟩
      by_cases hes : .ctxDone t ∈ es
      · exact ih2 hes
      · rw [ih1 hes, h2 (hin.resolve_right hes).symm]

theorem replaced_context_cancelled_only_by_request_twoCreates :
    0 < twoCreates.cancelled.length ∧ twoCreates.ctxOf[0]? = some 0 ∧
      twoCreates.svc.ctx ≠ some 0 ∧ ∃ w', twoCreates.run killC1 = some w' ∧
        (.ctxDone 0 ∉ killC1 → w'.cancelled[0]? = twoCreates.cancelled[0]?) ∧
        (.ctxDone 0 ∈ killC1 → w'.cancelled[0]? = some true) := by
  obtain ⟨w', h⟩ := Option.isSome_iff_exists.1 (show (twoCreates.run killC1).isSome by decide)
  exact ⟨by decide, rfl, by decide, w', h,
    replaced_context_cancelled_only_by_request twoCreates 0 0 (by decide) rfl (by decide) killC1
      w' h⟩

end Contexts

end Shim

/-- The shim after a successful `Create` of `c1` (thread 0) and `Start` of its init process
(thread 1), which started the state monitor on thread 2. -/
def createdAndStarted : List Event :=
  [.request (.create createC1), .run 0 .ok, .run 0 (.host (hostFrom 3)), .run 0 .ok, .run 0 .ok,
   .run 0 .ok, .run 0 (.pid 7), .run 0 .ok, .request (.start "c1" ""), .run 1 (.pid 7)]

/-- After `Create` and `Start` of `c1`: an exec process `e1` is created and started, and stops
before its monitor's next tick; the monitor polls it. -/
def execExitRun : List Event :=
  createdAndStarted ++ [.request (.exec "c1" "e1"), .run 3 .ok, .request (.start "c1" "e1"),
    .run 4 (.pid 8), .exit "e1" 0, .run 5 .tick, .run 5 .ok]

/-- The failing input of the task context: after `Create` and `Start`, a `Kill` whose agent call
fails. The `Kill` returns its error after the deferred `stopVM` stopped the hypervisor, and
`s.ctx`, the context of the stdio proxies and of the state monitor, is not cancelled. -/
theorem kill_failure_leaves_context :
    ∃ w, Reachable "c1" exampleConfig w ∧
      w.threads[3]? = some (.returned (some (.new "kill failed"))) ∧
      w.machines.map Machine.running = [false] ∧ w.svc.ctx = some 0 ∧ w.cancelled = [false] ∧
      w.proxies = [some 0] ∧ w.threads[2]? = some (.monitor (some 0) "c1" "" 7 .wait) := by
  obtain ⟨w, hw, hp⟩ := reach_of_run "c1" exampleConfig
    (createdAndStarted ++ [.request (.kill "c1" ""), .run 3 .fail, .run 3 .ok])
    (fun w => w.threads[3]? == some (.returned (some (.new "kill failed"))) &&
      w.machines.map Machine.running == [false] && w.svc.ctx == some 0 && w.cancelled == [false] &&
      w.proxies == [some 0] && w.threads[2]? == some (.monitor (some 0) "c1" "" 7 .wait))
    (by decide)
  simp only [Bool.and_eq_true, beq_iff_eq] at hp
  obtain ⟨⟨⟨⟨⟨h1, h2⟩, h3⟩, h4⟩, h5⟩, h6⟩ := hp
  exact ⟨w, hw, h1, h2, h3, h4, h5, h6⟩

/-- The failing inputs of the exit events, after `Create` and `Start` of `c1`. First, an exec
process `e1` is created and started, and stops: its monitor publishes a `TaskExit` for the
container while the init process still runs, and goes on to `Shutdown`. Second, the init
process stops and a `Shutdown` arrives before the monitor's next tick: the shim cancels the task
context and exits with no `TaskExit` published. -/
theorem exec_exit_and_shutdown_events :
    (∃ w, Reachable "c1" exampleConfig w ∧ w.published = [⟨"c1", "c1", 8, 0⟩] ∧
      w.guest.map Process.status = [.running, .stopped] ∧
      w.threads[5]? = some (.monitor (some 0) "c1" "e1" 8 (.shutdown .agentShutdown))) ∧
    (∃ w, Reachable "c1" exampleConfig w ∧ w.exited = true ∧ w.published = [] ∧
      w.guest.map Process.status = [.stopped] ∧ w.cancelled = [true]) := by
  constructor
  · obtain ⟨w, hw, hp⟩ := reach_of_run "c1" exampleConfig execExitRun
      (fun w => w.published == [⟨"c1", "c1", 8, 0⟩] &&
        w.guest.map Process.status == [.running, .stopped] &&
        w.threads[5]? == some (.monitor (some 0) "c1" "e1" 8 (.shutdown .agentShutdown)))
      (by decide)
    simp only [Bool.and_eq_true, beq_iff_eq] at hp
    exact ⟨w, hw, hp.1.1, hp.1.2, hp.2⟩
  · obtain ⟨w, hw, hp⟩ := reach_of_run "c1" exampleConfig
      (createdAndStarted ++ [.exit "" 0, .request (.shutdown "c1"), .run 3 .ok, .run 3 .ok,
        .run 3 .ok, .run 3 .ok])
      (fun w => w.exited && w.published == [] && w.guest.map Process.status == [.stopped] &&
        w.cancelled == [true])
      (by decide)
    simp only [Bool.and_eq_true, beq_iff_eq] at hp
    exact ⟨w, hw, hp.1.1.1, hp.1.1.2, hp.1.2, hp.2⟩

end FirecrackerContainerd.Runtime
