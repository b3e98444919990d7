import LibcoRpc.CoroMgr.Stop
import Mathlib.Algebra.Group.Nat.Defs
import Mathlib.Data.List.Nodup

/-!
# The sequence of ids

`GenCoroId` increments the counter before it looks at the sign and goes back to 2, not to
1. After `Start` has taken 1 for the main coroutine the ids run through 2, …, 2³¹ - 1 and
around again, whatever else the manager does: besides `CreateCoro` only `Start` and the end
of `Stop` write the counter.
-/

namespace LibcoRpc.CoroMgr

open LibcoRpc.Std

variable {s s' : State} {label : Label}

/-! ## The counter -/

/-- How many ids there are for coroutines other than the main one. -/
abbrev idPeriod : Nat := 2 ^ 31 - 2

/-- The id of the `n`-th coroutine, counted from zero. -/
def nthCoroId (n : Nat) : Int := 2 + (n % idPeriod : Nat)

/-- What `maxCoroId_` holds when `n` coroutines have been created since `Start`. -/
def counterAfter : Nat → Int
  | 0 => 1
  | n + 1 => nthCoroId n

theorem nextCoroId_counterAfter (n : Nat) : nextCoroId (counterAfter n) = nthCoroId n := by
  cases n with
  | zero => decide
  | succ n =>
      -- The counter wraps where the period ends.
      by_cases last : n % idPeriod = 2 ^ 31 - 3
      · have wraps : wrapInt32 (counterAfter (n + 1) + 1) < 0 := by
          simp only [counterAfter, nthCoroId, wrapInt32, idPeriod] at last ⊢
          omega
        rw [nextCoroId, if_pos wraps]
        simp only [nthCoroId, idPeriod] at last ⊢
        omega
      · have stays : wrapInt32 (counterAfter (n + 1) + 1) = nthCoroId (n + 1) := by
          simp only [counterAfter, nthCoroId, wrapInt32, idPeriod] at last ⊢
          omega
        have positive : ¬ nthCoroId (n + 1) < 0 := by
          simp only [nthCoroId, idPeriod]
          omega
        rw [nextCoroId, stays, if_neg positive]

theorem nthCoroId_range (n : Nat) : 2 ≤ nthCoroId n ∧ nthCoroId n ≤ 2 ^ 31 - 1 := by
  simp only [nthCoroId, idPeriod]
  omega

/-- Less than a period apart, ids differ. -/
theorem nthCoroId_ne {left right : Nat} (less : left < right) (near : right < left + idPeriod) :
    nthCoroId left ≠ nthCoroId right := by
  simp only [nthCoroId, idPeriod] at near ⊢
  omega

/-! ## Who writes it -/

/-- A step issues the id it takes. -/
theorem Registry.Step.issued {r r' : Registry} {taken : Option Int} (step : r.Step taken r') :
    r'.issued = taken.toList ++ r.issued := by
  cases step with
  | finish =>
      simp only [Registry.finish]
      split <;> rfl
  | _ => rfl

/-- A label that calls `CreateCoro`. -/
def Label.creates : Label → Bool
  | .user (.createCoro _ _) => true
  | _ => false

/-- A label that calls `Start` or `Stop`. -/
def Label.restarts : Label → Bool
  | .user .start => true
  | .user .stop => true
  | _ => false

theorem Label.of_creates (creates : label.creates = true) :
    ∃ entry args, label = .user (.createCoro entry args) := by
  cases label with
  | work => cases creates
  | user op =>
      cases op with
      | createCoro entry args => exact ⟨entry, args, rfl⟩
      | _ => cases creates

/-- Any other label takes no id. -/
theorem State.issues_of_quiet (quiet : label.creates = false) (going : label.restarts = false) :
    s.issues label = none := by
  cases label with
  | work => rfl
  | user op =>
      cases op with
      | createCoro => cases quiet
      | start => cases going
      | _ => rfl

/-- Without `Start` and `Stop`, only `CreateCoro` touches the counter. -/
theorem Unstopped.maxCoroId_step (unstopped : Unstopped s) (going : label.restarts = false)
    (taken : machine.step s label = .ok s') :
    s'.maxCoroId = if label.creates then nextCoroId s.maxCoroId else s.maxCoroId := by
  cases label with
  | work choice =>
      simp only [machine, State.step] at taken
      split at taken
      next => cases taken
      next frame rest at_ =>
        have other : frame ≠ .stopReset := by
          rintro rfl
          have stops := unstopped s.coSelf .stopReset (by simp [at_])
          cases stops
        exact (State.runFrame_retains other taken).maxCoroId
  | user op =>
      simp only [machine, State.step] at taken
      split at taken
      next =>
        cases op with
        | start | stop => cases going
        | createCoro entry args =>
            cases taken
            rfl
        | entryReturn => exact (State.entryReturn_retains taken).1
        | _ => exact (State.userStep_retains rfl taken).maxCoroId
      next => cases taken

/-! ## From `Start` on -/

/-- How many coroutines these labels create. -/
def creations (labels : List Label) : Nat := labels.countP Label.creates

/-- The ids of `n` coroutines in the order of their creation. -/
def firstIds (n : Nat) : List Int := (List.range n).map nthCoroId

theorem firstIds_succ (n : Nat) : firstIds (n + 1) = firstIds n ++ [nthCoroId n] := by
  simp [firstIds, List.range_succ]

/-- Any `idPeriod` of them in a row are distinct. -/
theorem firstIds_nodup {n first length : Nat} (short : length ≤ idPeriod) :
    (((firstIds n).drop first).take length).Nodup := by
  rw [List.nodup_iff_getElem?_ne_getElem?]
  intro left right less inside same
  rw [List.length_take, List.length_drop, firstIds, List.length_map, List.length_range] at inside
  have entry : ∀ i, i ≤ right → (((firstIds n).drop first).take length)[i]? =
      some (nthCoroId (first + i)) := by
    intro i atMost
    rw [List.getElem?_take_of_lt (by omega), List.getElem?_drop, firstIds, List.getElem?_map,
      List.getElem?_range (by omega)]
    rfl
  rw [entry left (by omega), entry right (Nat.le_refl _)] at same
  exact nthCoroId_ne (by omega) (by omega) (Option.some.inj same)

/-- No `Stop` is in progress, and `n` coroutines have been created since the ids of `before`
were issued. -/
structure Counts (before : List Int) (n : Nat) (s : State) : Prop where
  unstopped : Unstopped s
  counter : s.maxCoroId = counterAfter n
  issued : s.issued = (firstIds n).reverse ++ before

namespace Counts

variable {before : List Int} {n : Nat}

theorem step (counts : Counts before n s) (going : label.restarts = false)
    (taken : machine.step s label = .ok s') :
    Counts before (n + if label.creates then 1 else 0) s' := by
  have quiet : Unstopped s' := by
    refine counts.unstopped.step taken ?_
    rintro rfl
    cases going
  have counter := counts.unstopped.maxCoroId_step going taken
  have issued := (State.step_registry taken).issued
  cases creates : label.creates with
  | true =>
      obtain ⟨entry, args, rfl⟩ := label.of_creates creates
      have id : nextCoroId s.maxCoroId = nthCoroId n := by
        rw [counts.counter, nextCoroId_counterAfter]
      have issued : s'.issued = (firstIds (n + 1)).reverse ++ before :=
        calc s'.issued = nextCoroId s.maxCoroId :: s.issued := issued
          _ = (firstIds (n + 1)).reverse ++ before := by
            rw [id, counts.issued, firstIds_succ, List.reverse_append]
            rfl
      rw [if_pos rfl]
      exact ⟨quiet, counter.trans id, issued⟩
  | false =>
      rw [State.issues_of_quiet creates going] at issued
      rw [creates] at counter
      exact ⟨quiet, counter.trans counts.counter, issued.trans counts.issued⟩

theorem replay (counts : Counts before n s) {labels : List Label}
    (onward : machine.replay (fun _ label => !label.restarts) s labels = some s') :
    Counts before (n + creations labels) s' := by
  induction labels generalizing s n with
  | nil =>
      cases onward
      exact counts
  | cons label rest ih =>
      simp only [Machine.replay] at onward
      split at onward
      next going =>
        split at onward
        next middle taken =>
          have reached := ih (counts.step (by simpa using going) taken) onward
          rw [creations, List.countP_cons, ← creations, Nat.add_comm (creations rest),
            ← Nat.add_assoc]
          exact reached
        next => cases onward
      next => cases onward

end Counts

/-- `Start` in the main coroutine takes 1 for it. -/
theorem start_counts (halts : Halts s) (isMain : s.coSelf = .main)
    (starts : machine.step s (.user .start) = .ok s') :
    (s'.coro s.coroCount).coroId = 1 ∧ (s'.coro s.coroCount).innerCoro = .main ∧
      Counts s'.issued 0 s' := by
  have userRuns : s.UserRuns := by
    cases step_proceeds starts with
    | asks userRuns _ => exact userRuns
  have quiet := (halts.unstopped isMain userRuns).step starts (by simp)
  have none : s.frames s.coSelf = [] := userRuns
  simp only [machine, State.step, none, State.userStep, State.start] at starts
  split_ifs at starts with noEnv notMain
  · exact absurd isMain notMain
  · cases starts
    have object := Function.update_self s.coroCount
      { noCoro with coroId := nextCoroId 0, yielded := false } s.coro
    exact ⟨congrArg Coro.coroId object, congrArg Coro.innerCoro object, quiet, rfl, rfl⟩

/-- `CreateCoro` stores the id in the object and in the coroutine. -/
theorem createCoro_ids (s : State) (entry args : Nat) :
    ((s.createCoro entry args).coro s.coroCount).coroId = nextCoroId s.maxCoroId ∧
      ((s.createCoro entry args).inner (.co s.coroCount)).aSpec0 = nextCoroId s.maxCoroId := by
  have registered : (s.createCoro entry args).registry = _ := State.createCoro_registry
  exact ⟨(congrFun (congrArg Registry.coroId registered) _).trans (Function.update_self ..),
    (congrFun (congrArg Registry.aSpec0 registered) _).trans (Function.update_self ..)⟩

/-- From a successful `Start` on, and until the next `Start` or `Stop`, the `n`-th coroutine
gets the id `2 + n mod (2³¹ - 2)`. So all ids are between 2 and 2³¹ - 1, the main coroutine's
is not among them, and any 2³¹ - 2 in a row are distinct. -/
theorem created_ids_have_period {Allowed : State → Label → Prop} {env : Bool}
    {before started s : State} {labels : List Label}
    (run : machine.Run Allowed (State.init env) before) (isMain : before.coSelf = .main)
    (starts : machine.step before (.user .start) = .ok started)
    (onward : machine.replay (fun _ label => !label.restarts) started labels = some s) :
    let main := before.coroCount
    let n := creations labels
    ((started.coro main).innerCoro = .main ∧ (started.coro main).coroId = 1) ∧
    (∀ entry args s', machine.step s (.user (.createCoro entry args)) = .ok s' →
      (s'.coro s.coroCount).coroId = 2 + (n % (2 ^ 31 - 2) : Nat) ∧
      (s'.inner (.co s.coroCount)).aSpec0 = (s'.coro s.coroCount).coroId) ∧
    ∃ ids : List Int, ids.length = n ∧ s.issued = ids.reverse ++ started.issued ∧
      (∀ coroId ∈ ids, 2 ≤ coroId ∧ coroId ≤ 2 ^ 31 - 1 ∧ coroId ≠ (started.coro main).coroId) ∧
      ∀ first length, length ≤ 2 ^ 31 - 2 → ((ids.drop first).take length).Nodup := by
  intro main n
  obtain ⟨mainId, mainInner, counts⟩ := start_counts (halts_of_run run) isMain starts
  have counts : Counts started.issued n s := Nat.zero_add n ▸ counts.replay onward
  refine ⟨⟨mainInner, mainId⟩, ?_, firstIds n, ?_, counts.issued, ?_, ?_⟩
  · intro entry args s' creates
    have id : nextCoroId s.maxCoroId = nthCoroId n := by
      rw [counts.counter, nextCoroId_counterAfter]
    simp only [machine, State.step] at creates
    split at creates
    · cases creates
      obtain ⟨object, spec⟩ := createCoro_ids s entry args
      exact ⟨object.trans id, spec.trans object.symm⟩
    · cases creates
  · rw [firstIds, List.length_map, List.length_range]
  · intro coroId member
    obtain ⟨k, -, rfl⟩ := List.mem_map.mp member
    have range := nthCoroId_range k
    refine ⟨range.1, range.2, ?_⟩
    rw [mainId]
    omega
  · intro first length short
    exact firstIds_nodup short

/-- A coroutine is created after `Start`, and a second one from inside it. -/
theorem two_ids_after_start :
    let started := (machine.replay (fun _ _ => true) (State.init true) [.user .start]).get
      (by decide +kernel)
    let labels : List Label :=
      [.user (.createCoro 0 0), .user (.resume 2 .nil), .work ⟨0, 0⟩, .work ⟨0, 0⟩, .work ⟨0, 0⟩]
    let s := (machine.replay (fun _ label => !label.restarts) started labels).get
      (by decide +kernel)
    s.coSelf = .co 1 ∧ ((s.createCoro 0 0).coro 2).coroId = 2 + (1 % (2 ^ 31 - 2) : Nat) := by
  intro started labels s
  have creates : machine.step s (.user (.createCoro 0 0)) = .ok (s.createCoro 0 0) :=
    user_step (by decide +kernel)
  have run : machine.Run (fun _ _ => True) (State.init true) (State.init true) := .start
  have starts : machine.step (State.init true) (.user .start) = .ok started :=
    Machine.step_of_replay (Option.some_get _).symm
  have onward : machine.replay (fun _ label => !label.restarts) started labels = some s :=
    (Option.some_get _).symm
  have period := created_ids_have_period run rfl starts onward
  have counted : creations labels = 1 := by decide
  have created : s.coroCount = 2 := by decide +kernel
  have second := (period.2.1 0 0 _ creates).1
  rw [counted, created] at second
  exact ⟨by decide +kernel, second⟩

end LibcoRpc.CoroMgr
