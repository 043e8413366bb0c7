import FirecrackerContainerd.Devmapper.MetaStore

/-!
# Closing the snapshotter

`Snapshotter.Close` runs the cleanup functions `NewSnapshotter` collected (the store's and the
pool's `Close`) inside `closeOnce.Do`, appending each failure to a `*multierror.Error` that is
local to the call, and returns it. Any number of goroutines may call it at once, so the model
is a system of callers, each with its own program counter, sharing the `sync.Once`:

* `Once.Do` loads `done` without the lock and returns if it is set; otherwise it takes the
  once's mutex, checks `done` again, runs the function, sets `done` and unlocks.
* `CloseState.step` moves one caller by one of those steps, or by one cleanup call inside the
  function; a caller waiting for the mutex cannot move.

Results:

* `Phase` holds in every reachable state (`Phase.step`, `Reachable.phase`): before, during
  and after the function, at most one caller is inside the loop, it holds the mutex, and the
  cleanups run so far are a prefix of the list, in order.
* every step lowers `pending`, and a state where some caller has not returned can always
  step (`exists_step`); so every schedule ends, and it ends with every caller returned.
* `close_runs_cleanups_once`: when all callers have returned, every cleanup ran exactly once,
  in list order, and one caller returned the aggregated error while all others returned nil
  (`close_results_differ`: so two calls do not return the same error when a cleanup fails).
-/

namespace FirecrackerContainerd.Devmapper

namespace Close

/-- Where one `Close` call is: before loading `done`, waiting for the once's mutex, inside the
function about to run cleanup `i` with the errors so far, or returned with its result. -/
inductive Caller where
  | start
  | lock
  | cleanup (i : Nat) (errs : List Error)
  | returned (err : Option Error)

namespace Caller

/-- Not yet inside `Once.Do`'s function. -/
def Waiting (c : Caller) : Prop := c = .start ∨ c = .lock

/-- The call has returned. -/
def isReturned : Caller → Bool
  | returned _ => true
  | _ => false

/-- A bound on the steps a caller has left when there are `m` cleanups. -/
def rank (m : Nat) : Caller → Nat
  | start => m + 3
  | lock => m + 2
  | cleanup i _ => m - i + 1
  | returned _ => 0

end Caller

/-- `result.ErrorOrNil()` of the `*multierror.Error` a `Close` call collected. -/
def errorOrNil : List Error → Option Error
  | [] => none
  | errs => some (.multi errs)

/-- The aggregated error of a list of cleanup outcomes: their failures in order. -/
def aggregate (outcomes : List (Option Error)) : Option Error :=
  errorOrNil (outcomes.filterMap id)

theorem aggregate_eq_none_iff (outcomes : List (Option Error)) :
    aggregate outcomes = none ↔ ∀ o ∈ outcomes, o = none := by
  have h : outcomes.filterMap id = [] ↔ ∀ o ∈ outcomes, o = none := by simp
  rw [← h, aggregate]
  cases outcomes.filterMap id <;> simp [errorOrNil]

/-- The shared `sync.Once` (its `done` flag and the holder of its mutex), the cleanups run so
far, and the callers. -/
structure CloseState where
  done : Bool
  mutex : Option Nat
  ran : List Nat
  callers : List Caller

/-- `n` callers about to call `Close`. -/
def init (n : Nat) : CloseState := ⟨false, none, [], List.replicate n .start⟩

namespace CloseState

/-- Move caller `t` to `c`. -/
def set (s : CloseState) (t : Nat) (c : Caller) : CloseState :=
  { s with callers := s.callers.set t c }

/-- One step of caller `t`, given the outcome of each cleanup function; `none` when the caller
has returned or waits for the mutex. -/
def step (outcomes : List (Option Error)) (s : CloseState) (t : Nat) : Option CloseState :=
  match s.callers[t]? with
  | some .start => some (s.set t (if s.done then .returned none else .lock))
  | some .lock =>
    if s.mutex.isSome then none
    else if s.done then some (s.set t (.returned none))
    else some { s.set t (.cleanup 0 []) with mutex := some t }
  | some (.cleanup i errs) =>
    match outcomes[i]? with
    | some out => some { s.set t (.cleanup (i + 1) (errs ++ out.toList)) with ran := s.ran ++ [i] }
    | none => some { s.set t (.returned (errorOrNil errs)) with done := true, mutex := none }
  | _ => none

/-- Run a schedule of callers, skipping those that cannot move. -/
def exec (outcomes : List (Option Error)) (s : CloseState) : List Nat → CloseState
  | [] => s
  | t :: ts => exec outcomes ((s.step outcomes t).getD s) ts

/-- Every caller has returned. -/
def AllReturned (s : CloseState) : Prop := ∀ c ∈ s.callers, c.isReturned = true

instance (s : CloseState) : Decidable s.AllReturned := inferInstanceAs (Decidable (∀ _ ∈ _, _))

/-- What `Close` promises once all `n` calls have returned: every cleanup ran once, in list
order, one call returned their aggregated error and every other call returned nil. -/
def Closed (outcomes : List (Option Error)) (n : Nat) (s : CloseState) : Prop :=
  s.ran = List.range outcomes.length ∧
    ∃ t < n, s.callers = (List.replicate n (.returned none)).set t (.returned (aggregate outcomes))

/-- The steps the callers have left at most: every step lowers it. -/
def pending (outcomes : List (Option Error)) (s : CloseState) : Nat :=
  (s.callers.map (Caller.rank outcomes.length)).sum

/-- Every caller other than `t` satisfies `P`. -/
def Others (s : CloseState) (t : Nat) (P : Caller → Prop) : Prop :=
  ∀ u c, u ≠ t → s.callers[u]? = some c → P c

@[simp] theorem set_done (s : CloseState) (t : Nat) (c : Caller) : (s.set t c).done = s.done := rfl
@[simp] theorem set_mutex (s : CloseState) (t : Nat) (c : Caller) :
    (s.set t c).mutex = s.mutex := rfl
@[simp] theorem set_ran (s : CloseState) (t : Nat) (c : Caller) : (s.set t c).ran = s.ran := rfl
@[simp] theorem length_set_callers (s : CloseState) (t : Nat) (c : Caller) :
    (s.set t c).callers.length = s.callers.length := List.length_set _ _ _

end CloseState

open CloseState

/-- The states `n` concurrent `Close` calls can reach. -/
inductive Reachable (outcomes : List (Option Error)) (n : Nat) : CloseState → Prop
  | init : Reachable outcomes n (init n)
  | step {s s' : CloseState} (t : Nat) :
      Reachable outcomes n s → s.step outcomes t = some s' → Reachable outcomes n s'

theorem reachable_exec {outcomes : List (Option Error)} {n : Nat} :
    ∀ {s : CloseState} (ts : List Nat), Reachable outcomes n s →
      Reachable outcomes n (s.exec outcomes ts)
  | _, [], h => h
  | s, t :: ts, h => by
    cases hs : s.step outcomes t with
    | none => simpa [exec, hs] using reachable_exec ts h
    | some s' => simpa [exec, hs] using reachable_exec ts (.step t h hs)

/-! ## What one step can do -/

section Step

variable {outcomes : List (Option Error)} {s s' : CloseState} {t : Nat}

/-- Every step of caller `t`: the fast path on a set or unset `done`, the slow path finding
`done` set or running the function, one cleanup call, and the end of the loop. -/
theorem step_eq_some (h : s.step outcomes t = some s') :
    (s.callers[t]? = some .start ∧ s.done = true ∧ s' = s.set t (.returned none)) ∨
    (s.callers[t]? = some .start ∧ s.done = false ∧ s' = s.set t .lock) ∨
    (s.callers[t]? = some .lock ∧ s.mutex = none ∧ s.done = true ∧
      s' = s.set t (.returned none)) ∨
    (s.callers[t]? = some .lock ∧ s.mutex = none ∧ s.done = false ∧
      s' = { s.set t (.cleanup 0 []) with mutex := some t }) ∨
    (∃ i errs out, s.callers[t]? = some (.cleanup i errs) ∧ outcomes[i]? = some out ∧
      s' = { s.set t (.cleanup (i + 1) (errs ++ out.toList)) with ran := s.ran ++ [i] }) ∨
    (∃ i errs, s.callers[t]? = some (.cleanup i errs) ∧ outcomes[i]? = none ∧
      s' = { s.set t (.returned (errorOrNil errs)) with done := true, mutex := none }) := by
  unfold step at h
  rcases hc : s.callers[t]? with _ | _ | _ | ⟨i, errs⟩ | _ <;> rw [hc] at h
  · cases h
  · cases hd : s.done <;> simp_all
  · cases hm : s.mutex <;> cases hd : s.done <;> simp_all
  · rcases ho : outcomes[i]? with _ | out <;> simp only [ho, Option.some.injEq] at h <;> subst h
    · exact .inr <| .inr <| .inr <| .inr <| .inr ⟨i, errs, rfl, ho, rfl⟩
    · exact .inr <| .inr <| .inr <| .inr <| .inl ⟨i, errs, out, rfl, ho, rfl⟩
  · cases h

/-- The callers after setting caller `t`, which is there. -/
theorem getElem?_set_callers {c₀ : Caller} (hc : s.callers[t]? = some c₀) (c : Caller) (u : Nat) :
    (s.set t c).callers[u]? = if t = u then some c else s.callers[u]? := by
  have : t < s.callers.length := (List.getElem?_eq_some_iff.1 hc).1
  by_cases htu : t = u
  · subst htu; simp [CloseState.set, this]
  · simp [CloseState.set, htu]

theorem others_set {P : Caller → Prop} {t₀ : Nat} {c₀ c : Caller} (hc : s.callers[t]? = some c₀)
    (ho : Others s t₀ P) (hp : t ≠ t₀ → P c) : Others (s.set t c) t₀ P := by
  intro u c' hu h
  rw [getElem?_set_callers hc] at h
  split at h
  · cases h; exact hp (by omega)
  · exact ho u c' hu h

theorem ne_of_others {P : Caller → Prop} {t₀ : Nat} {c : Caller} (ho : Others s t₀ P)
    (hc : s.callers[t]? = some c) (hp : ¬P c) : t = t₀ :=
  Classical.byContradiction fun h => hp (ho t c h hc)

/-- The errors collected after cleanup `i` are those before it and its own. -/
theorem filterMap_take_succ {i : Nat} {out : Option Error} (ho : outcomes[i]? = some out) :
    (outcomes.take (i + 1)).filterMap id = (outcomes.take i).filterMap id ++ out.toList := by
  rw [List.take_succ, ho, List.filterMap_append]
  cases out <;> rfl

end Step

/-! ## The invariant -/

/-- The phases of the once: no caller has taken the mutex; caller `t` holds it and is about to
run cleanup `i`, having run those before it; caller `t` ran every cleanup and returned their
aggregated error, and every other caller that returned returned nil. -/
inductive Phase (outcomes : List (Option Error)) : CloseState → Prop
  | idle {s : CloseState} : s.done = false → s.mutex = none → s.ran = [] →
      (∀ c ∈ s.callers, c.Waiting) → Phase outcomes s
  | running {s : CloseState} (t i : Nat) : s.done = false → s.mutex = some t →
      i ≤ outcomes.length → s.ran = List.range i →
      s.callers[t]? = some (.cleanup i ((outcomes.take i).filterMap id)) →
      Others s t Caller.Waiting → Phase outcomes s
  | finished {s : CloseState} (t : Nat) : s.done = true → s.mutex = none →
      s.ran = List.range outcomes.length →
      s.callers[t]? = some (.returned (aggregate outcomes)) →
      Others s t (fun c => c.Waiting ∨ c = .returned none) → Phase outcomes s

section Inv

variable {outcomes : List (Option Error)} {s s' : CloseState} {t : Nat}

theorem phase_init (n : Nat) : Phase outcomes (init n) :=
  .idle rfl rfl rfl fun _ hc => .inl (List.eq_of_mem_replicate hc)

theorem Phase.idle_step (hd : s.done = false) (hm : s.mutex = none) (hr : s.ran = [])
    (hw : ∀ c ∈ s.callers, c.Waiting) (h : s.step outcomes t = some s') : Phase outcomes s' := by
  rcases step_eq_some h with ⟨-, hd', -⟩ | ⟨hc, -, rfl⟩ | ⟨-, -, hd', -⟩ | ⟨hc, -, -, rfl⟩ |
    ⟨i, errs, out, hc, -, -⟩ | ⟨i, errs, hc, -, -⟩
  · simp_all
  · refine .idle hd hm hr fun c h => ?_
    rcases List.mem_or_eq_of_mem_set h with h | rfl
    exacts [hw c h, .inr rfl]
  · simp_all
  · refine .running t 0 hd rfl (Nat.zero_le _) hr ?_ ?_
    · simp [getElem?_set_callers hc]
    · intro u c hu h
      rw [getElem?_set_callers hc, if_neg (Ne.symm hu)] at h
      exact hw c (List.getElem?_mem h)
  · simpa [Caller.Waiting] using hw _ (List.getElem?_mem hc)
  · simpa [Caller.Waiting] using hw _ (List.getElem?_mem hc)

/-- While caller `t₀` is at cleanup `i₀` and every other caller waits, a caller at a cleanup
is `t₀` at `i₀`. -/
theorem cleanup_holder {t₀ i₀ i : Nat} {errs₀ errs : List Error}
    (hc₀ : s.callers[t₀]? = some (.cleanup i₀ errs₀)) (hw : Others s t₀ Caller.Waiting)
    (hc : s.callers[t]? = some (.cleanup i errs)) : t = t₀ ∧ i = i₀ ∧ errs = errs₀ := by
  obtain rfl := ne_of_others hw hc (by simp [Caller.Waiting])
  simpa using hc.symm.trans hc₀

theorem Phase.running_step {t₀ i₀ : Nat} (hd : s.done = false) (hm : s.mutex = some t₀)
    (hi : i₀ ≤ outcomes.length) (hr : s.ran = List.range i₀)
    (hc₀ : s.callers[t₀]? = some (.cleanup i₀ ((outcomes.take i₀).filterMap id)))
    (hw : Others s t₀ Caller.Waiting) (h : s.step outcomes t = some s') : Phase outcomes s' := by
  rcases step_eq_some h with ⟨-, hd', -⟩ | ⟨hc, -, rfl⟩ | ⟨-, hm', -⟩ | ⟨-, hm', -⟩ |
    ⟨i, errs, out, hc, ho, rfl⟩ | ⟨i, errs, hc, ho, rfl⟩
  · simp_all
  · have ht : t ≠ t₀ := by rintro rfl; simp_all
    refine .running t₀ i₀ hd hm hi hr ?_ (others_set hc hw fun _ => .inr rfl)
    rwa [getElem?_set_callers hc, if_neg ht]
  · simp_all
  · simp_all
  · obtain ⟨rfl, rfl, rfl⟩ := cleanup_holder hc₀ hw hc
    have hlt : i < outcomes.length := (List.getElem?_eq_some_iff.1 ho).1
    refine .running t (i + 1) hd hm hlt (by simp [hr, List.range_succ]) ?_ ?_
    · simp [getElem?_set_callers hc, filterMap_take_succ ho]
    · exact others_set hc hw fun h => absurd rfl h
  · obtain ⟨rfl, rfl, rfl⟩ := cleanup_holder hc₀ hw hc
    have hle : outcomes.length ≤ i := List.getElem?_eq_none_iff.1 ho
    obtain rfl : i = outcomes.length := by omega
    refine .finished t rfl rfl hr ?_ ?_
    · simp [getElem?_set_callers hc, aggregate, List.take_length]
    · exact others_set hc (fun u c hu h => .inl (hw u c hu h)) fun h => absurd rfl h

theorem Phase.finished_step {t₀ : Nat} (hd : s.done = true) (hm : s.mutex = none)
    (hr : s.ran = List.range outcomes.length)
    (hc₀ : s.callers[t₀]? = some (.returned (aggregate outcomes)))
    (hw : Others s t₀ (fun c => c.Waiting ∨ c = .returned none))
    (h : s.step outcomes t = some s') : Phase outcomes s' := by
  have hne : ∀ {c}, s.callers[t]? = some c → c.Waiting → t ≠ t₀ := by
    rintro c hc hcw rfl; rw [hc₀] at hc; cases hc; simp [Caller.Waiting] at hcw
  rcases step_eq_some h with ⟨hc, -, rfl⟩ | ⟨-, hd', -⟩ | ⟨hc, -, -, rfl⟩ | ⟨-, -, hd', -⟩ |
    ⟨i, errs, out, hc, -, -⟩ | ⟨i, errs, hc, -, -⟩
  · have ht := hne hc (.inl rfl)
    refine .finished t₀ hd hm hr ?_ (others_set hc hw fun _ => .inr rfl)
    rwa [getElem?_set_callers hc, if_neg ht]
  · simp_all
  · have ht := hne hc (.inr rfl)
    refine .finished t₀ hd hm hr ?_ (others_set hc hw fun _ => .inr rfl)
    rwa [getElem?_set_callers hc, if_neg ht]
  · simp_all
  · obtain rfl := ne_of_others hw hc (by simp [Caller.Waiting])
    simp_all
  · obtain rfl := ne_of_others hw hc (by simp [Caller.Waiting])
    simp_all

theorem Phase.step (hp : Phase outcomes s) (h : s.step outcomes t = some s') : Phase outcomes s' := by
  cases hp with
  | idle hd hm hr hw => exact Phase.idle_step hd hm hr hw h
  | running t₀ i₀ hd hm hi hr hc hw => exact Phase.running_step hd hm hi hr hc hw h
  | finished t₀ hd hm hr hc hw => exact Phase.finished_step hd hm hr hc hw h

theorem length_step (h : s.step outcomes t = some s') : s'.callers.length = s.callers.length := by
  rcases step_eq_some h with ⟨-, -, rfl⟩ | ⟨-, -, rfl⟩ | ⟨-, -, -, rfl⟩ | ⟨-, -, -, rfl⟩ |
    ⟨_, _, _, -, -, rfl⟩ | ⟨_, _, -, -, rfl⟩ <;> simp

theorem Reachable.phase {n : Nat} (hs : Reachable outcomes n s) :
    Phase outcomes s ∧ s.callers.length = n := by
  induction hs with
  | init => exact ⟨phase_init n, List.length_replicate _ _⟩
  | step t _ h ih => exact ⟨ih.1.step h, (length_step h).trans ih.2⟩

end Inv

/-! ## Termination and progress -/

theorem sum_map_set {α : Type} (f : α → Nat) :
    ∀ {l : List α} {t : Nat} {a : α} (b : α), l[t]? = some a →
      ((l.set t b).map f).sum + f a = (l.map f).sum + f b
  | [], _, _, _, h => by simp at h
  | x :: _, 0, a, _, h => by
    obtain rfl : x = a := by simpa using h
    simp only [List.set_cons_zero, List.map_cons, List.sum_cons]; omega
  | _ :: l, t + 1, a, b, h => by
    have ih := sum_map_set f b (show l[t]? = some a by simpa using h)
    simp only [List.set_cons_succ, List.map_cons, List.sum_cons]; omega

section Progress

variable {outcomes : List (Option Error)} {s s' : CloseState} {t : Nat}

theorem pending_set (outcomes : List (Option Error)) {c₀ : Caller} (c : Caller)
    (hc : s.callers[t]? = some c₀) :
    pending outcomes (s.set t c) + c₀.rank outcomes.length =
      pending outcomes s + c.rank outcomes.length :=
  sum_map_set _ c hc

theorem pending_lt {c₀ c : Caller} (hc : s.callers[t]? = some c₀)
    (hr : c.rank outcomes.length < c₀.rank outcomes.length) :
    pending outcomes (s.set t c) < pending outcomes s := by
  have := pending_set outcomes c hc
  omega

/-- Every step lowers `pending`, so every schedule of the callers is finite. -/
theorem pending_step (h : s.step outcomes t = some s') : pending outcomes s' < pending outcomes s := by
  rcases step_eq_some h with ⟨hc, -, rfl⟩ | ⟨hc, -, rfl⟩ | ⟨hc, -, -, rfl⟩ | ⟨hc, -, -, rfl⟩ |
    ⟨i, errs, out, hc, ho, rfl⟩ | ⟨i, errs, hc, -, rfl⟩
  case inr.inr.inr.inr.inl =>
    have hlt : i < outcomes.length := (List.getElem?_eq_some_iff.1 ho).1
    exact pending_lt hc (by simp only [Caller.rank]; omega)
  all_goals exact pending_lt hc (by simp only [Caller.rank]; omega)

/-- A caller that has not entered the function can move once the mutex is free. -/
theorem step_isSome_of_waiting {c : Caller} (hc : s.callers[t]? = some c) (hw : c.Waiting)
    (hm : s.mutex = none) : (s.step outcomes t).isSome := by
  rcases hw with rfl | rfl <;> cases hd : s.done <;> simp [step, hc, hm, hd]

/-- The holder of the mutex can always move. -/
theorem step_isSome_of_cleanup {i : Nat} {errs : List Error}
    (hc : s.callers[t]? = some (.cleanup i errs)) : (s.step outcomes t).isSome := by
  cases ho : outcomes[i]? <;> simp [step, hc, ho]

/-- No deadlock: a state where some caller has not returned always has a step. -/
theorem exists_step (hp : Phase outcomes s) (hs : ¬s.AllReturned) :
    ∃ t s', s.step outcomes t = some s' := by
  have key : (∃ t, (s.step outcomes t).isSome) → ∃ t s', s.step outcomes t = some s' :=
    fun ⟨t, h⟩ => ⟨t, Option.get _ h, by simp⟩
  apply key
  obtain ⟨c, hc, hr⟩ : ∃ c ∈ s.callers, c.isReturned = false := by
    simpa [AllReturned] using hs
  obtain ⟨u, hu⟩ := List.mem_iff_getElem?.1 hc
  cases hp with
  | idle _ hm _ hw => exact ⟨u, step_isSome_of_waiting hu (hw c hc) hm⟩
  | running t₀ _ _ _ _ _ hc₀ _ => exact ⟨t₀, step_isSome_of_cleanup hc₀⟩
  | finished t₀ _ hm _ hc₀ hw =>
    have hne : u ≠ t₀ := by rintro rfl; rw [hc₀] at hu; cases hu; simp [Caller.isReturned] at hr
    rcases hw u c hne hu with hcw | rfl
    · exact ⟨u, step_isSome_of_waiting hu hcw hm⟩
    · simp [Caller.isReturned] at hr

end Progress

/-! ## When every call has returned -/

/-- When all of `n ≥ 1` callers have returned, the once is finished, so one caller returned the
aggregated error and the rest returned nil. -/
theorem closed_of_allReturned {outcomes : List (Option Error)} {n : Nat} {s : CloseState}
    (hn : 0 < n) (hp : Phase outcomes s) (hl : s.callers.length = n) (hs : s.AllReturned) :
    s.Closed outcomes n := by
  cases hp with
  | idle =>
    rename_i hw
    obtain ⟨c, hc⟩ := List.exists_mem_of_length_pos (hl ▸ hn)
    rcases hw c hc with rfl | rfl <;> simpa [Caller.isReturned] using hs _ hc
  | running t₀ _ _ _ _ _ hc₀ =>
    simpa [Caller.isReturned] using hs _ (List.getElem?_mem hc₀)
  | finished t₀ _ _ hr hc₀ hw =>
    have ht : t₀ < n := hl ▸ (List.getElem?_eq_some_iff.1 hc₀).1
    refine ⟨hr, t₀, ht, List.ext_getElem? fun u => ?_⟩
    rw [List.getElem?_set]
    by_cases hu : t₀ = u
    · subst hu; simp [hc₀, ht]
    · rw [if_neg hu, List.getElem?_replicate]
      rcases hsu : s.callers[u]? with _ | c
      · have : n ≤ u := hl ▸ List.getElem?_eq_none_iff.1 hsu
        simp [Nat.not_lt.2 this]
      · have hlt : u < n := hl ▸ (List.getElem?_eq_some_iff.1 hsu).1
        rcases hw u c (Ne.symm hu) hsu with (rfl | rfl) | rfl
        · simpa [Caller.isReturned] using hs _ (List.getElem?_mem hsu)
        · simpa [Caller.isReturned] using hs _ (List.getElem?_mem hsu)
        · simp [hlt]

/-- **`Close` runs the cleanups once.** For every list of cleanup outcomes and any number
`n ≥ 1` of calls, sequential or interleaved in any way: every step lowers `pending` and a
state where a call has not returned can always step, so every schedule ends with all calls
returned; then every cleanup ran exactly once, in list order, one call returned the aggregated
error (nil iff every cleanup succeeded), and every other call returned nil. -/
theorem close_runs_cleanups_once (outcomes : List (Option Error)) (n : Nat) (hn : 0 < n)
    {s : CloseState} (hs : Reachable outcomes n s) :
    (∀ t s', s.step outcomes t = some s' → pending outcomes s' < pending outcomes s) ∧
    (s.AllReturned ∨ ∃ t s', s.step outcomes t = some s') ∧
    (s.AllReturned → s.Closed outcomes n) ∧
    (aggregate outcomes = none ↔ ∀ o ∈ outcomes, o = none) :=
  ⟨fun _ _ => pending_step, (em _).imp_right (exists_step hs.phase.1),
    closed_of_allReturned hn hs.phase.1 hs.phase.2, aggregate_eq_none_iff outcomes⟩

/-- The store's `Close` fails and the pool's succeeds. -/
def storeCloseFails : List (Option Error) := [some (.host "close store"), none]

/-- Two interleaved calls: both pass the fast path, the first takes the mutex and runs the
cleanups while the second waits, then the second finds `done` set. -/
def interleavedClose : CloseState := (init 2).exec storeCloseFails [0, 1, 0, 1, 0, 0, 0, 1]

theorem close_runs_cleanups_once_interleaved :
    0 < 2 ∧ Reachable storeCloseFails 2 interleavedClose ∧
      ((∀ t s', interleavedClose.step storeCloseFails t = some s' →
          pending storeCloseFails s' < pending storeCloseFails interleavedClose) ∧
        (interleavedClose.AllReturned ∨ ∃ t s', interleavedClose.step storeCloseFails t = some s') ∧
        (interleavedClose.AllReturned → interleavedClose.Closed storeCloseFails 2) ∧
        (aggregate storeCloseFails = none ↔ ∀ o ∈ storeCloseFails, o = none)) :=
  ⟨by decide, reachable_exec _ .init,
    close_runs_cleanups_once storeCloseFails 2 (by decide) (reachable_exec _ .init)⟩

/-- Two sequential calls when the store's `Close` fails: the first returns the store's error,
the second nil. -/
theorem close_results_differ :
    Reachable storeCloseFails 2 ((init 2).exec storeCloseFails [0, 0, 0, 0, 0, 1]) ∧
      ((init 2).exec storeCloseFails [0, 0, 0, 0, 0, 1]).AllReturned ∧
      ((init 2).exec storeCloseFails [0, 0, 0, 0, 0, 1]).callers =
        [.returned (some (.multi [.host "close store"])), .returned none] :=
  ⟨reachable_exec _ .init, by decide, rfl⟩

end Close

end FirecrackerContainerd.Devmapper
