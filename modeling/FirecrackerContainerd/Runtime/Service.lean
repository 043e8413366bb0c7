import FirecrackerContainerd.Runtime.StartVM

/-!
# The shim's task service

The shim's `service` handles the task-service requests containerd sends it, each on its own
goroutine, and starts goroutines of its own: stdio proxies in `Create` and a state monitor in
each `Start`. The model is that system, one thread per handler or monitor:

* `Shim` — the fields of `service` the handlers share (`Service`), the hypervisors
  `NewMachine` built and the request each was built for, the per-task contexts with whether
  each is cancelled and the request it derives from, the processes the in-guest agent runs, the
  contexts handed to stdio proxies, the `TaskExit` events published, whether the shim process
  has exited, and the threads.
* `Handler` — a thread and where it is. A thread moves at each line of the Go code that reads or
  writes a shared field or calls out: `Create` (with `startVM` inlined), `Start`, `Exec`,
  `Kill`, `Shutdown`, the other agent calls, and `monitorState` (which calls `Shutdown`
  itself when its process stops).
* `Answer` — what the environment answers the call a step makes. `Shim.step` takes an
  `Event`: a request arrives, a guest process exits, a thread takes its next step, or the
  context of a request ends (`endRequest`). `Create` builds its hypervisor command with
  `Build(ctx)` on its request's context, so that context ending kills the hypervisor process
  (`exec.CommandContext`); and `s.ctx` is `context.WithCancel(ctx)` of it, so it is cancelled
  too.

A nil `s.machine`, `s.agentClient`, `s.cancel` or `s.ctx` panics when used, which ends the shim
process like `os.Exit` does; after that nothing moves. An agent call fails when the client's
context is cancelled or when no running hypervisor has the CID the client dialled.
-/

namespace FirecrackerContainerd.Runtime

/-- `task.Status` of a process, as the agent reports it. -/
inductive Status where
  | created
  | running
  | stopped
  deriving DecidableEq, Repr

/-- A process the agent runs in the guest: its exec ID (empty for the container's init
process), pid, status and exit status. -/
structure Process where
  execID : String
  pid : Nat
  status : Status
  exitStatus : Nat
  deriving DecidableEq, Repr

/-- The `TaskExit` event `monitorState` publishes (its timestamp left out). -/
structure TaskExit where
  containerID : String
  id : String
  pid : Nat
  exitStatus : Nat
  deriving DecidableEq, Repr

/-- A `firecracker.Machine` that `NewMachine` built: its configuration, whether `Start` spawned
its hypervisor process, and whether `StopVMM` stopped it. -/
structure Machine where
  cfg : MachineConfig
  spawned : Bool
  stopped : Bool
  deriving DecidableEq, Repr

/-- The hypervisor process of the machine runs. -/
def Machine.running (m : Machine) : Bool := m.spawned && !m.stopped

/-- The fields of a `CreateTaskRequest` that `Create` reads. -/
structure CreateTaskRequest where
  id : String
  rootfs : List Mount
  stdin : String
  stdout : String
  stderr : String
  deriving DecidableEq, Repr

/-- The fields of `service` the handlers read and write: the container ID, the configuration,
`agentStarted`, the CID the agent client dialled (`none` for a nil client), the index of
`s.machine` among the machines built (`none` for nil), `machineCID`, and the per-task context
`s.ctx` with its `s.cancel` (`none` while nil). -/
structure Service where
  id : String
  config : Config
  agentStarted : Bool
  agentClient : Option UInt32
  machine : Option Nat
  machineCID : UInt32
  ctx : Option Nat
  deriving DecidableEq, Repr

/-- Where a `Create` is: checking `agentStarted`, allocating the CID and building the
configuration, calling `NewMachine`, `Machine.Start`, `dialVsock`, `stopVM` after a failed dial,
the agent's `Create`, and setting the per-task context. -/
inductive CreatePc where
  | begin
  | findCID
  | newMachine (cfg : MachineConfig) (cid : UInt32)
  | startMachine (cid : UInt32)
  | dial (cid : UInt32)
  | stopAfterDial
  | agentCreate
  | setContext
  deriving DecidableEq, Repr

/-- Where a `Kill` is: the agent's `Kill`, `s.cancel()`, and the deferred `stopVM` with the error
the handler returns. -/
inductive KillPc where
  | begin
  | cancel
  | stopVM (err : Option Error)
  deriving DecidableEq, Repr

/-- Where a `Shutdown` is: the agent's `Shutdown`, `stopVM`, `s.cancel()` and `os.Exit(0)`. -/
inductive ShutdownPc where
  | agentShutdown
  | stopVM
  | cancel
  | exit
  deriving DecidableEq, Repr

/-- Where `monitorState` is: in its `select`, polling `State`, or inside `Shutdown`. -/
inductive MonitorPc where
  | wait
  | poll
  | shutdown (pc : ShutdownPc)
  deriving DecidableEq, Repr

/-- A thread of the shim: a request handler, a state monitor with the context, IDs and pid it
was started with, or a finished handler with its error. -/
inductive Handler where
  | create (req : CreateTaskRequest) (pc : CreatePc)
  | start (id execID : String)
  | exec (id execID : String)
  | kill (id execID : String) (pc : KillPc)
  | shutdown (pc : ShutdownPc)
  | agentCall
  | monitor (ctx : Option Nat) (id execID : String) (pid : Nat) (pc : MonitorPc)
  | returned (err : Option Error)
  deriving DecidableEq, Repr

/-- The requests containerd sends; `agentCall` is any of the calls the handler only forwards to
the agent (`Delete`, `State`, `Pause`, …). -/
inductive Request where
  | create (req : CreateTaskRequest)
  | start (id execID : String)
  | exec (id execID : String)
  | kill (id execID : String)
  | shutdown (id : String)
  | agentCall
  deriving DecidableEq, Repr

/-- The thread that handles a request. -/
def Request.handler : Request → Handler
  | .create req => .create req .begin
  | .start id execID => .start id execID
  | .exec id execID => .exec id execID
  | .kill id execID => .kill id execID .begin
  | .shutdown _ => .shutdown .agentShutdown
  | .agentCall => .agentCall

/-- The shim and what it acts on: `builtBy` is, for each machine, the thread of the `Create`
whose request context built its hypervisor command, and `ctxOf`, for each context, the thread
of the `Create` whose request context it derives from. -/
structure Shim where
  svc : Service
  machines : List Machine
  builtBy : List Nat
  cancelled : List Bool
  ctxOf : List Nat
  guest : List Process
  proxies : List (Option Nat)
  published : List TaskExit
  exited : Bool
  threads : List Handler
  deriving DecidableEq, Repr

/-- What the environment answers the call a step makes: success, failure, a `Machine.Start`
that spawned the hypervisor and then failed, the host's answers to the CID allocator, an agent
call returning a pid, and which case of the monitor's `select` is taken. A step that calls
nothing takes `ok`. -/
inductive Answer where
  | ok
  | fail
  | spawnedThenFail
  | host (h : Host)
  | pid (n : Nat)
  | tick
  | done

/-- What the environment does: a request arrives, a guest process exits, thread `t` takes its
next step with answer `a`, or the context of the request thread `t` handles ends (the request
returns, or its connection closes). -/
inductive Event where
  | request (r : Request)
  | exit (execID : String) (exitStatus : Nat)
  | run (t : Nat) (a : Answer)
  | ctxDone (t : Nat)

/-- What an agent call does: it panics on a nil client, fails, or returns a pid. -/
inductive Rpc where
  | panics
  | fails
  | returns (pid : Nat)
  deriving DecidableEq, Repr

namespace Shim

/-- The shim of container `id` with configuration `config`, before any request. -/
def init (id : String) (config : Config) : Shim :=
  ⟨⟨id, config, false, none, none, 0, none⟩, [], [], [], [], [], [], [], false, []⟩

/-- Move thread `t` to `h`. -/
def setThread (w : Shim) (t : Nat) (h : Handler) : Shim := { w with threads := w.threads.set t h }

/-- A panic: the shim process ends. -/
def crash (w : Shim) : Shim := { w with exited := true }

/-- Change machine `i`. -/
def setMachine (w : Shim) (i : Nat) (f : Machine → Machine) : Shim :=
  { w with machines := w.machines.modify f i }

/-- Cancel context `c`. -/
def cancel (w : Shim) (c : Nat) : Shim := { w with cancelled := w.cancelled.set c true }

/-- Context `c` is cancelled. -/
def isCancelled (w : Shim) (c : Nat) : Bool := w.cancelled.getD c false

section Fields

variable (w : Shim) (t : Nat) (h : Handler)

@[simp] theorem setThread_svc : (w.setThread t h).svc = w.svc := rfl
@[simp] theorem setThread_machines : (w.setThread t h).machines = w.machines := rfl
@[simp] theorem setThread_builtBy : (w.setThread t h).builtBy = w.builtBy := rfl
@[simp] theorem setThread_cancelled : (w.setThread t h).cancelled = w.cancelled := rfl
@[simp] theorem setThread_ctxOf : (w.setThread t h).ctxOf = w.ctxOf := rfl
@[simp] theorem setThread_guest : (w.setThread t h).guest = w.guest := rfl
@[simp] theorem setThread_proxies : (w.setThread t h).proxies = w.proxies := rfl
@[simp] theorem setThread_published : (w.setThread t h).published = w.published := rfl
@[simp] theorem setThread_exited : (w.setThread t h).exited = w.exited := rfl
@[simp] theorem setThread_threads : (w.setThread t h).threads = w.threads.set t h := rfl
@[simp] theorem crash_svc : w.crash.svc = w.svc := rfl
@[simp] theorem crash_machines : w.crash.machines = w.machines := rfl
@[simp] theorem crash_cancelled : w.crash.cancelled = w.cancelled := rfl
@[simp] theorem crash_published : w.crash.published = w.published := rfl
@[simp] theorem crash_exited : w.crash.exited = true := rfl

variable (i : Nat) (f : Machine → Machine) (c : Nat)

@[simp] theorem setMachine_svc : (w.setMachine i f).svc = w.svc := rfl
@[simp] theorem setMachine_machines : (w.setMachine i f).machines = w.machines.modify f i := rfl
@[simp] theorem setMachine_cancelled : (w.setMachine i f).cancelled = w.cancelled := rfl
@[simp] theorem setMachine_published : (w.setMachine i f).published = w.published := rfl
@[simp] theorem setMachine_exited : (w.setMachine i f).exited = w.exited := rfl
@[simp] theorem cancel_svc : (w.cancel c).svc = w.svc := rfl
@[simp] theorem cancel_machines : (w.cancel c).machines = w.machines := rfl
@[simp] theorem cancel_cancelled : (w.cancel c).cancelled = w.cancelled.set c true := rfl
@[simp] theorem cancel_published : (w.cancel c).published = w.published := rfl

end Fields

/-- A running hypervisor has the CID the agent client dialled. -/
def agentUp (w : Shim) : Bool :=
  match w.svc.agentClient with
  | none => false
  | some cid => w.machines.any fun m => m.running && m.cfg.vsockDevices.any (·.cid == cid)

/-- An agent call on `s.agentClient` with a context that is `live` or cancelled. -/
def rpc (w : Shim) (live : Bool) (a : Answer) : Rpc :=
  match w.svc.agentClient with
  | none => .panics
  | some _ =>
    if live && w.agentUp then
      match a with
      | .ok => .returns 0
      | .pid n => .returns n
      | _ => .fails
    else .fails

/-- `s.stopVM()`: `s.machine.StopVMM()` — it panics on a nil machine — with its error. -/
def stopVM (w : Shim) (a : Answer) : Option (Shim × Option Error) :=
  match w.svc.machine, a with
  | none, _ => some (w.crash, none)
  | some i, .ok => some (w.setMachine i fun m => { m with stopped := true }, none)
  | some _, .fail => some (w, some (.new "StopVMM"))
  | some _, _ => none

/-- `s.cancel()`: it panics while nil. -/
def cancelTask (w : Shim) : Shim :=
  match w.svc.ctx with
  | none => w.crash
  | some c => w.cancel c

/-- The next step of a `Create` on thread `t` (with `startVM`), or `none` when the answer does
not fit the call. -/
def createStep (w : Shim) (t : Nat) (req : CreateTaskRequest) : CreatePc → Answer → Option Shim
  | .begin, .ok =>
    some (w.setThread t (.create req (if w.svc.agentStarted then .agentCreate else .findCID)))
  | .findCID, .host h =>
    match (findNextAvailableVsockCID h).2 with
    | .error e => some (w.setThread t (.returned (some e)))
    | .ok cid =>
      match vmConfig w.svc.config cid req.rootfs with
      | .error e => some (w.setThread t (.returned (some e)))
      | .ok cfg => some (w.setThread t (.create req (.newMachine cfg cid)))
  | .newMachine cfg cid, .ok =>
    some { w.setThread t (.create req (.startMachine cid)) with
      machines := w.machines ++ [⟨cfg, false, false⟩]
      builtBy := w.builtBy ++ [t]
      svc := { w.svc with machine := some w.machines.length, machineCID := cid } }
  | .newMachine _ _, .fail =>
    some { w.setThread t (.returned (some (.new "NewMachine"))) with
      svc := { w.svc with machine := none } }
  | .startMachine cid, a =>
    match w.svc.machine, a with
    | none, _ => some w.crash
    | some i, .ok => some ((w.setMachine i fun m => { m with spawned := true }).setThread t
        (.create req (.dial cid)))
    | some _, .fail => some (w.setThread t (.returned (some (.new "Start"))))
    | some i, .spawnedThenFail => some ((w.setMachine i fun m => { m with spawned := true }).setThread
        t (.returned (some (.new "Start"))))
    | some _, _ => none
  | .dial cid, .ok =>
    some { w.setThread t (.create req .agentCreate) with
      svc := { w.svc with agentClient := some cid, agentStarted := true } }
  | .dial _, .fail => some (w.setThread t (.create req .stopAfterDial))
  | .stopAfterDial, a =>
    (w.stopVM a).map fun r => r.1.setThread t (.returned (some (.new "vsock dial failed")))
  | .agentCreate, a =>
    match w.rpc true a with
    | .panics => some w.crash
    | .fails => some (w.setThread t (.returned (some (.new "create failed"))))
    | .returns pid => some { w.setThread t (.create req .setContext) with
        guest := w.guest ++ [⟨"", pid, .created, 0⟩] }
  | .setContext, .ok =>
    some { w.setThread t (.returned none) with
      cancelled := w.cancelled ++ [false]
      ctxOf := w.ctxOf ++ [t]
      svc := { w.svc with ctx := some w.cancelled.length }
      proxies := w.proxies ++ [some w.cancelled.length] }
  | _, _ => none

/-- The agent's `Start` of `execID`: the created process runs with the returned pid. -/
def startProcess (w : Shim) (execID : String) (pid : Nat) : Shim :=
  { w with guest := w.guest.map fun p =>
      if p.execID = execID ∧ p.status = .created then { p with pid := pid, status := .running }
      else p }

/-- The next step of a `Kill` on thread `t`. -/
def killStep (w : Shim) (t : Nat) (id execID : String) : KillPc → Answer → Option Shim
  | .begin, a =>
    match w.rpc true a with
    | .panics => some w.crash
    | .fails => some (w.setThread t (.kill id execID (.stopVM (some (.new "kill failed")))))
    | .returns _ => some (w.setThread t (.kill id execID .cancel))
  | .cancel, .ok => some ((w.cancelTask).setThread t (.kill id execID (.stopVM none)))
  | .stopVM err, a => (w.stopVM a).map fun r => r.1.setThread t (.returned err)
  | _, _ => none

/-- Where a `Shutdown` goes after one step: on to `pc`, or back to its caller with an error. -/
inductive ShutdownNext where
  | next (pc : ShutdownPc)
  | returned (err : Option Error)

/-- One step of `Shutdown`, called with a context that is `live` or cancelled. -/
def shutdownStep (w : Shim) (live : Bool) : ShutdownPc → Answer → Option (Shim × ShutdownNext)
  | .agentShutdown, a =>
    match w.rpc live a with
    | .panics => some (w.crash, .next .stopVM)
    | _ => some (w, .next .stopVM)
  | .stopVM, a =>
    (w.stopVM a).map fun r =>
      match r.2 with
      | some e => (r.1, .returned (some e))
      | none => (r.1, .next .cancel)
  | .cancel, .ok => some (w.cancelTask, .next .exit)
  | .exit, .ok => some ({ w with exited := true }, .returned none)
  | _, _ => none

/-- The next step of the state monitor on thread `t`. -/
def monitorStep (w : Shim) (t : Nat) (ctx : Option Nat) (id execID : String) (pid : Nat) :
    MonitorPc → Answer → Option Shim
  | .wait, a =>
    match ctx, a with
    | none, _ => some w.crash
    | some c, .done => if w.isCancelled c then some (w.setThread t (.returned none)) else none
    | some _, .tick => some (w.setThread t (.monitor ctx id execID pid .poll))
    | some _, _ => none
  | .poll, a =>
    match w.rpc (ctx.any fun c => !w.isCancelled c) a with
    | .panics => some w.crash
    | .fails => some (w.setThread t (.monitor ctx id execID pid .wait))
    | .returns _ =>
      match w.guest.find? (·.execID == execID) with
      | some p =>
        if p.status = .stopped then
          some { w.setThread t (.monitor ctx id execID pid (.shutdown .agentShutdown)) with
            published := w.published ++ [⟨w.svc.id, w.svc.id, pid, p.exitStatus⟩] }
        else some (w.setThread t (.monitor ctx id execID pid .wait))
      | none => some (w.setThread t (.monitor ctx id execID pid .wait))
  | .shutdown pc, a =>
    (w.shutdownStep (ctx.any fun c => !w.isCancelled c) pc a).map fun r =>
      match r.2 with
      | .next pc' => r.1.setThread t (.monitor ctx id execID pid (.shutdown pc'))
      | .returned _ => r.1.setThread t (.returned none)

/-- The next step of thread `t`, which is at `h`. -/
def runHandler (w : Shim) (t : Nat) : Handler → Answer → Option Shim
  | .create req pc, a => w.createStep t req pc a
  | .start id execID, a =>
    match w.rpc true a with
    | .panics => some w.crash
    | .fails => some (w.setThread t (.returned (some (.new "start failed"))))
    | .returns pid =>
      if w.guest.any (·.execID == execID) then
        some { w.startProcess execID pid with
          threads := w.threads.set t (.returned none) ++ [.monitor w.svc.ctx id execID pid .wait] }
      else some (w.setThread t (.returned (some (.new "start failed"))))
  | .exec _ execID, a =>
    match w.rpc true a with
    | .panics => some w.crash
    | .fails => some (w.setThread t (.returned (some (.new "exec failed"))))
    | .returns _ => some { w.setThread t (.returned none) with
        guest := w.guest ++ [⟨execID, 0, .created, 0⟩] }
  | .kill id execID pc, a => w.killStep t id execID pc a
  | .shutdown pc, a =>
    (w.shutdownStep true pc a).map fun r =>
      match r.2 with
      | .next pc' => r.1.setThread t (.shutdown pc')
      | .returned err => r.1.setThread t (.returned err)
  | .agentCall, a =>
    match w.rpc true a with
    | .panics => some w.crash
    | .fails => some (w.setThread t (.returned (some (.new "agent call failed"))))
    | .returns _ => some (w.setThread t (.returned none))
  | .monitor ctx id execID pid pc, a => w.monitorStep t ctx id execID pid pc a
  | .returned _, _ => none

/-- A guest process that runs exits. -/
def exitProcess (w : Shim) (execID : String) (exitStatus : Nat) : Shim :=
  { w with guest := w.guest.map fun p =>
      if p.execID = execID ∧ p.status = .running then
        { p with status := .stopped, exitStatus := exitStatus } else p }

/-- The context of the request thread `t` handles ends: the hypervisor process of every machine
built for it is killed, and every context derived from it is cancelled. -/
def endRequest (w : Shim) (t : Nat) : Shim :=
  { w with
    machines := w.machines.mapIdx fun i m =>
      if w.builtBy[i]? = some t then { m with stopped := true } else m
    cancelled := w.cancelled.mapIdx fun c b => b || w.ctxOf[c]? == some t }

section EndRequest

variable (w : Shim) (t : Nat)

@[simp] theorem endRequest_svc : (w.endRequest t).svc = w.svc := rfl
@[simp] theorem endRequest_builtBy : (w.endRequest t).builtBy = w.builtBy := rfl
@[simp] theorem endRequest_ctxOf : (w.endRequest t).ctxOf = w.ctxOf := rfl
@[simp] theorem endRequest_threads : (w.endRequest t).threads = w.threads := rfl
@[simp] theorem endRequest_published : (w.endRequest t).published = w.published := rfl

@[simp] theorem length_endRequest_machines :
    (w.endRequest t).machines.length = w.machines.length := List.length_mapIdx

@[simp] theorem length_endRequest_cancelled :
    (w.endRequest t).cancelled.length = w.cancelled.length := List.length_mapIdx

/-- The machine `i` after the request context ends: stopped if it was built for it. -/
theorem getElem?_endRequest_machines (i : Nat) :
    (w.endRequest t).machines[i]? = w.machines[i]?.map fun m =>
      if w.builtBy[i]? = some t then { m with stopped := true } else m := by
  simp [endRequest, List.getElem?_mapIdx]

/-- The context `c` after the request context ends: cancelled if it derives from it. -/
theorem getElem?_endRequest_cancelled (c : Nat) :
    (w.endRequest t).cancelled[c]? = w.cancelled[c]?.map fun b => b || w.ctxOf[c]? == some t := by
  simp [endRequest, List.getElem?_mapIdx]

end EndRequest

/-- One event, or `none` when it cannot happen. Nothing happens after the shim exited. -/
def step (w : Shim) : Event → Option Shim
  | .request r => if w.exited then none else some { w with threads := w.threads ++ [r.handler] }
  | .exit execID exitStatus =>
    if w.exited then none
    else if w.guest.any fun p => p.execID = execID ∧ p.status = .running then
      some (w.exitProcess execID exitStatus)
    else none
  | .run t a =>
    if w.exited then none
    else match w.threads[t]? with
      | some h => w.runHandler t h a
      | none => none
  | .ctxDone t => if w.exited then none else some (w.endRequest t)

/-- Run a list of events in order; `none` if one cannot happen. -/
def run : Shim → List Event → Option Shim
  | w, [] => some w
  | w, e :: es => (w.step e).bind (run · es)

end Shim

/-- The states a shim of container `id` with configuration `config` can reach. -/
inductive Reachable (id : String) (config : Config) : Shim → Prop
  | init : Reachable id config (Shim.init id config)
  | step {w w' : Shim} (e : Event) : Reachable id config w → w.step e = some w' →
      Reachable id config w'

theorem Reachable.run {id : String} {config : Config} :
    ∀ {w w' : Shim} {es : List Event}, Reachable id config w → w.run es = some w' →
      Reachable id config w'
  | _, _, [], hw, h => by cases h; exact hw
  | w, _, e :: es, hw, h => by
    simp only [Shim.run] at h
    cases he : w.step e with
    | none => simp [he] at h
    | some w₁ => exact Reachable.run (.step e hw he) (by simpa [he] using h)

/-- A run of events from a fresh shim that ends where `p` holds gives a reachable state where it
holds. -/
theorem reach_of_run (id : String) (config : Config) (es : List Event) (p : Shim → Bool)
    (h : ((Shim.init id config).run es).map p = some true) :
    ∃ w, Reachable id config w ∧ p w = true := by
  cases hr : (Shim.init id config).run es with
  | none => simp [hr] at h
  | some w => exact ⟨w, Reachable.init.run hr, by simpa [hr] using h⟩

end FirecrackerContainerd.Runtime
