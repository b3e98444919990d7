import LibcoRpc.CoroMgr.Registry

/-!
# Identity of live coroutines

`GenCoroId` counts up, wraps around to 2 and starts again at 1 after `Start` and
`Stop`; it never looks at the maps. As long as it happens to return ids that no
coroutine in either map has, an id names at most one coroutine (`Registry.Named`).
The invariant needs nothing about timers: a `co_resume` that libco would not survive
is a fault, so no step follows it.
-/

namespace LibcoRpc.CoroMgr

open LibcoRpc.Std

/-- `GenCoroId` returns a positive `int`. -/
theorem nextCoroId_range {maxCoroId : Int} (low : 0 ≤ maxCoroId) (high : maxCoroId < 2 ^ 31) :
    1 ≤ nextCoroId maxCoroId ∧ nextCoroId maxCoroId < 2 ^ 31 := by
  unfold nextCoroId wrapInt32
  split <;> omega

namespace Registry

/-- No coroutine in either map has the id. -/
def FreeId (r : Registry) (coroId : Int) : Prop :=
  r.coros.find coroId = none ∧ r.waiting.find coroId = none

instance (r : Registry) (coroId : Int) : Decidable (r.FreeId coroId) :=
  inferInstanceAs (Decidable (_ ∧ _))

/-- Ids name at most one coroutine of the two maps; every unfinished coroutine is
registered under its id; the call stack holds distinct unfinished coroutines above
the main one. -/
structure Named (r : Registry) : Prop where
  nodup : r.callStack.Nodup
  mainLast : r.callStack.getLast? = some .main
  onStack : ∀ coro, .co coro ∈ r.callStack →
    r.innerCoro coro = .co coro ∧ r.cEnd (.co coro) = false
  inner : ∀ coro, r.innerCoro coro = .main ∨ r.innerCoro coro = .co coro
  allocated : ∀ coro, r.innerCoro coro = .co coro → coro < r.coroCount
  idRange : 0 ≤ r.maxCoroId ∧ r.maxCoroId < 2 ^ 31
  positive : ∀ coroId ∈ r.issued, 1 ≤ coroId
  registered : ∀ coro, r.innerCoro coro = .co coro → r.cEnd (.co coro) = false →
    r.coros.find (r.coroId coro) = some coro
  corosKey : ∀ coroId coro, r.coros.find coroId = some coro →
    coro < r.coroCount ∧ r.coroId coro = coroId ∧ coroId ∈ r.issued
  corosUnfinished : ∀ coroId coro, r.coros.find coroId = some coro →
    r.innerCoro coro = .co coro → r.cEnd (.co coro) = false
  waitingKey : ∀ coroId coro, r.waiting.find coroId = some coro →
    coro < r.coroCount ∧ r.coroId coro = coroId ∧ coroId ∈ r.issued
  waitingFinished : ∀ coroId coro, r.waiting.find coroId = some coro →
    r.innerCoro coro = .co coro ∧ r.cEnd (.co coro) = true
  apart : ∀ coroId coro, r.coros.find coroId = some coro → r.waiting.find coroId = none
  spec : ∀ coro, r.innerCoro coro = .co coro → r.aSpec0 (.co coro) = r.coroId coro
  mainSpec : r.aSpec0 .main = 0 ∨
    ∃ coro, r.innerCoro coro = .main ∧ r.coros.find (r.aSpec0 .main) = some coro

namespace Named

variable {r : Registry}

/-- The main coroutine never leaves the call stack. -/
theorem main_mem (named : Named r) : .main ∈ r.callStack :=
  List.mem_of_getLast? named.mainLast

theorem reset (named : Named r) : Named { r with maxCoroId := 0 } :=
  { named with idRange := ⟨le_refl (0 : Int), (by decide : (0 : Int) < 2 ^ 31)⟩ }

/-- `co_resume` enters a coroutine that is registered. -/
theorem enter (named : Named r) {coro : CoroPtr} (offStack : r.innerCoro coro ∉ r.callStack)
    (runs : r.cEnd (r.innerCoro coro) = false) :
    Named { r with callStack := r.innerCoro coro :: r.callStack } := by
  have isCo : r.innerCoro coro = .co coro := by
    rcases named.inner coro with isMain | isCo
    · exact absurd (isMain ▸ named.main_mem) offStack
    · exact isCo
  refine { named with
    nodup := List.nodup_cons.mpr ⟨offStack, named.nodup⟩
    mainLast := ?_
    onStack := ?_ }
  · simp [List.getLast?_cons, named.mainLast]
  · intro other member
    rcases List.mem_cons.mp member with same | member
    · have same : other = coro := by simpa [isCo] using same
      subst same
      exact ⟨isCo, isCo ▸ runs⟩
    · exact named.onStack other member

/-- `co_yield_env` leaves every name as it is. -/
theorem leave (named : Named r) {top below : Co} {rest : List Co}
    (stack : r.callStack = top :: below :: rest) :
    Named { r with callStack := below :: rest } :=
  { named with
    nodup := (List.nodup_cons.mp (stack ▸ named.nodup)).2
    mainLast := by simpa [stack] using named.mainLast
    onStack := fun coro member =>
      named.onStack coro (stack ▸ List.mem_cons_of_mem _ member) }

/-- The objects that `RecycleContainer` deletes have no names any more. -/
theorem clear (named : Named r) : Named { r with waiting := .empty } :=
  { named with
    waitingKey := fun _ _ found => by simp at found
    waitingFinished := fun _ _ found => by simp at found
    apart := fun _ _ _ => OrdMap.find_empty _ }

/-- A new object gets a name that is free. -/
theorem register (named : Named r) (free : r.FreeId (nextCoroId r.maxCoroId)) {inner : Co}
    {cEnd : Bool} (kind : inner = .co r.coroCount ∧ cEnd = false ∨
      inner = .main ∧ cEnd = r.cEnd .main) :
    Named (r.register inner cEnd) := by
  have fresh : r.innerCoro r.coroCount ≠ .co r.coroCount := fun isCo =>
    absurd (named.allocated _ isCo) (Nat.lt_irrefl _)
  have find : ∀ key, (r.coros.emplace (nextCoroId r.maxCoroId) r.coroCount).find key =
      if key = nextCoroId r.maxCoroId then some r.coroCount else r.coros.find key := by
    intro key
    simp [OrdMap.find_emplace, free.1]
  have range := nextCoroId_range named.idRange.1 named.idRange.2
  -- Every other object and every other libco coroutine is as before.
  have old : ∀ coro, coro ≠ r.coroCount → (.co coro : Co) ≠ inner := by
    rintro coro different rfl
    rcases kind with ⟨same, _⟩ | ⟨same, _⟩
    · exact different (Co.co.inj same)
    · cases same
  have oldOf : ∀ coro, r.innerCoro coro = .co coro → coro ≠ r.coroCount := by
    rintro coro isCo rfl
    exact fresh isCo
  refine
    { nodup := named.nodup
      mainLast := named.mainLast
      onStack := ?_
      inner := ?_
      allocated := ?_
      idRange := ⟨le_trans (by decide) range.1, range.2⟩
      positive := ?_
      registered := ?_
      corosKey := ?_
      corosUnfinished := ?_
      waitingKey := ?_
      waitingFinished := ?_
      apart := ?_
      spec := ?_
      mainSpec := ?_ }
  all_goals simp only [Registry.register]
  · intro coro member
    obtain ⟨isCo, runs⟩ := named.onStack coro member
    have different := oldOf coro isCo
    exact ⟨by rw [Function.update_of_ne different, isCo],
      by rw [Function.update_of_ne (old coro different), runs]⟩
  · intro coro
    by_cases same : coro = r.coroCount
    · subst same
      rcases kind with ⟨rfl, _⟩ | ⟨rfl, _⟩ <;> simp
    · simpa [same] using named.inner coro
  · intro coro isCo
    by_cases same : coro = r.coroCount
    · exact same ▸ Nat.lt_succ_self _
    · exact Nat.lt_succ_of_lt (named.allocated coro (by simpa [same] using isCo))
  · intro coroId member
    rcases List.mem_cons.mp member with rfl | member
    · exact range.1
    · exact named.positive coroId member
  · intro coro isCo runs
    by_cases same : coro = r.coroCount
    · simp [same, find]
    · rw [Function.update_of_ne same] at isCo
      rw [Function.update_of_ne (old coro same)] at runs
      have found := named.registered coro isCo runs
      have different : r.coroId coro ≠ nextCoroId r.maxCoroId := by
        intro equal
        rw [equal, free.1] at found
        cases found
      simp [same, find, different, found]
  · intro coroId coro found
    rw [find] at found
    split at found
    next equal => cases found; simp [equal]
    next different =>
      obtain ⟨allocated, key, issued⟩ := named.corosKey coroId coro found
      have same : coro ≠ r.coroCount := Nat.ne_of_lt allocated
      exact ⟨Nat.lt_succ_of_lt allocated, by simp [same, key], List.mem_cons_of_mem _ issued⟩
  · intro coroId coro found isCo
    rw [find] at found
    split at found
    next equal =>
      cases found
      rcases kind with ⟨rfl, rfl⟩ | ⟨rfl, _⟩
      · simp
      · simp at isCo
    next different =>
      have same : coro ≠ r.coroCount := Nat.ne_of_lt (named.corosKey coroId coro found).1
      rw [Function.update_of_ne same] at isCo
      rw [Function.update_of_ne (old coro same)]
      exact named.corosUnfinished coroId coro found isCo
  · intro coroId coro found
    obtain ⟨allocated, key, issued⟩ := named.waitingKey coroId coro found
    have same : coro ≠ r.coroCount := Nat.ne_of_lt allocated
    exact ⟨Nat.lt_succ_of_lt allocated, by simp [same, key], List.mem_cons_of_mem _ issued⟩
  · intro coroId coro found
    obtain ⟨isCo, ended⟩ := named.waitingFinished coroId coro found
    have different := oldOf coro isCo
    exact ⟨by rw [Function.update_of_ne different, isCo],
      by rw [Function.update_of_ne (old coro different), ended]⟩
  · intro coroId coro found
    rw [find] at found
    split at found
    next equal => exact equal ▸ free.2
    next different => exact named.apart coroId coro found
  · intro coro isCo
    by_cases same : coro = r.coroCount
    · subst same
      rcases kind with ⟨rfl, _⟩ | ⟨rfl, _⟩
      · simp
      · simp at isCo
    · rw [Function.update_of_ne same] at isCo
      rw [Function.update_of_ne (old coro same), Function.update_of_ne same, named.spec coro isCo]
  · rcases kind with ⟨rfl, _⟩ | ⟨rfl, _⟩
    · rw [Function.update_of_ne (by simp)]
      rcases named.mainSpec with zero | ⟨coro, isMain, found⟩
      · exact .inl zero
      · have different : r.aSpec0 .main ≠ nextCoroId r.maxCoroId := by
          intro equal
          rw [equal, free.1] at found
          cases found
        have same : coro ≠ r.coroCount := Nat.ne_of_lt (named.corosKey _ coro found).1
        exact .inr ⟨coro, by simp [same, isMain], by simp [find, different, found]⟩
    · exact .inr ⟨r.coroCount, by simp, by simp [find]⟩

/-- `MaskWillRecycle` moves the name of the coroutine that ends from one map to the other. -/
theorem finish (named : Named r) {coro : CoroPtr} {below : Co} {rest : List Co}
    (stack : r.callStack = .co coro :: below :: rest) :
    Named (r.finish coro (below :: rest)) := by
  obtain ⟨isCo, runs⟩ := named.onStack coro (stack ▸ List.mem_cons_self)
  have found := named.registered coro isCo runs
  have notWaiting := named.apart _ coro found
  have offStack : .co coro ∉ below :: rest := (List.nodup_cons.mp (stack ▸ named.nodup)).1
  have left := named.leave stack
  have waitingFind : ∀ key, (r.waiting.emplace (r.coroId coro) coro).find key =
      if key = r.coroId coro then some coro else r.waiting.find key := by
    intro key
    simp [OrdMap.find_emplace, notWaiting]
  simp only [Registry.finish, notWaiting, Option.isSome_none, Bool.false_eq_true, if_false]
  -- Another coroutine in `coros` keeps its entry: it has another id.
  have otherId : ∀ other, other ≠ coro → r.coros.find (r.coroId other) = some other →
      r.coroId other ≠ r.coroId coro := by
    intro other different otherFound equal
    rw [equal, found] at otherFound
    exact different (Option.some.inj otherFound).symm
  refine
    { nodup := left.nodup
      mainLast := left.mainLast
      onStack := ?_
      inner := named.inner
      allocated := named.allocated
      idRange := named.idRange
      positive := named.positive
      registered := ?_
      corosKey := ?_
      corosUnfinished := ?_
      waitingKey := ?_
      waitingFinished := ?_
      apart := ?_
      spec := named.spec
      mainSpec := ?_ }
  all_goals dsimp only
  · intro other member
    have different : (.co other : Co) ≠ .co coro := fun same => offStack (same ▸ member)
    rw [Function.update_of_ne different]
    exact left.onStack other member
  · intro other otherCo otherRuns
    by_cases same : other = coro
    · subst same
      simp at otherRuns
    · rw [Function.update_of_ne (by simpa using same)] at otherRuns
      have otherFound := named.registered other otherCo otherRuns
      rw [OrdMap.find_erase, if_neg (otherId other same otherFound), otherFound]
  · intro coroId other otherFound
    rw [OrdMap.find_erase] at otherFound
    split at otherFound
    · cases otherFound
    · exact named.corosKey coroId other otherFound
  · intro coroId other otherFound otherCo
    rw [OrdMap.find_erase] at otherFound
    split at otherFound
    · cases otherFound
    next different =>
      have key := (named.corosKey coroId other otherFound).2.1
      have distinct : other ≠ coro := fun same => different (by rw [← key, same])
      rw [Function.update_of_ne (by simpa using distinct)]
      exact named.corosUnfinished coroId other otherFound otherCo
  · intro coroId other otherFound
    rw [waitingFind] at otherFound
    split at otherFound
    next equal =>
      cases otherFound
      have keyed := named.corosKey _ coro found
      exact ⟨keyed.1, equal.symm, equal ▸ keyed.2.2⟩
    next => exact named.waitingKey coroId other otherFound
  · intro coroId other otherFound
    rw [waitingFind] at otherFound
    split at otherFound
    next =>
      cases otherFound
      exact ⟨isCo, by simp⟩
    next =>
      obtain ⟨otherCo, ended⟩ := named.waitingFinished coroId other otherFound
      by_cases same : other = coro
      · exact ⟨otherCo, by simp [same]⟩
      · exact ⟨otherCo, by rw [Function.update_of_ne (by simpa using same), ended]⟩
  · intro coroId other otherFound
    rw [OrdMap.find_erase] at otherFound
    split at otherFound
    · cases otherFound
    next different =>
      rw [waitingFind, if_neg different]
      exact named.apart coroId other otherFound
  · rcases named.mainSpec with zero | ⟨main, isMain, mainFound⟩
    · exact .inl zero
    · refine .inr ⟨main, isMain, ?_⟩
      have different : r.aSpec0 .main ≠ r.coroId coro := by
        intro equal
        rw [equal, found] at mainFound
        cases mainFound
        rw [isMain] at isCo
        cases isCo
      rw [OrdMap.find_erase, if_neg different, mainFound]

/-- One step keeps the invariant if the id it takes, if any, is free. -/
theorem step (named : Named r) {taken : Option Int} {r' : Registry}
    (free : ∀ coroId, taken = some coroId → r.FreeId coroId) (step : r.Step taken r') :
    Named r' := by
  cases step with
  | stay => exact named
  | reset => exact named.reset
  | enter coro offStack runs => exact named.enter offStack runs
  | leave stack => exact named.leave stack
  | create => exact named.register (free _ rfl) (.inl ⟨rfl, rfl⟩)
  | start => exact named.reset.register (free _ rfl) (.inr ⟨rfl, rfl⟩)
  | finish stack => exact named.finish stack
  | clear => exact named.clear

end Named
end Registry

/-! ## Runs -/

/-- A step takes an id only if no coroutine in either map has it. -/
def TakesFreeId (s : State) (label : Label) : Prop :=
  ∀ coroId, s.issues label = some coroId → s.registry.FreeId coroId

instance (s : State) (label : Label) : Decidable (TakesFreeId s label) :=
  inferInstanceAs
    (Decidable (∀ coroId, s.issues label = some coroId → s.registry.FreeId coroId))

/-- An object made by `CreateCoro`, as opposed to a wrapper of the main coroutine. -/
def Created (s : State) (coro : CoroPtr) : Prop :=
  coro < s.coroCount ∧ (s.coro coro).innerCoro = .co coro

instance (s : State) (coro : CoroPtr) : Decidable (Created s coro) :=
  inferInstanceAs (Decidable (_ ∧ _))

/-- The entry function of a coroutine has returned. -/
def Finished (s : State) (coro : CoroPtr) : Prop := (s.inner (.co coro)).cEnd = true

instance (s : State) (coro : CoroPtr) : Decidable (Finished s coro) :=
  inferInstanceAs (Decidable (_ = _))

/-- One of the two maps holds the coroutine. -/
def Held (s : State) (coro : CoroPtr) : Prop :=
  coro ∈ s.coros.values ∨ coro ∈ s.waitingForRecycleCoros.values

theorem init_named (env : Bool) : (State.init env).registry.Named where
  nodup := by simp [State.registry, State.init]
  mainLast := rfl
  onStack _ member := by simp [State.registry, State.init] at member
  inner _ := .inl rfl
  allocated _ isCo := by cases isCo
  idRange := ⟨le_refl (0 : Int), (by decide : (0 : Int) < 2 ^ 31)⟩
  positive _ member := by cases member
  registered _ isCo := by cases isCo
  corosKey _ _ found := by cases found
  corosUnfinished _ _ found := by cases found
  waitingKey _ _ found := by cases found
  waitingFinished _ _ found := by cases found
  apart _ _ found := by cases found
  spec _ isCo := by cases isCo
  mainSpec := .inl rfl

/-- This holds in every run that takes no id in use. -/
theorem named_of_run {env : Bool} {s : State}
    (run : machine.Run TakesFreeId (State.init env) s) : s.registry.Named :=
  run.invariant (fun s => s.registry.Named) (init_named env) fun _ _ _ named free taken =>
    named.step free (State.step_registry taken)

/-- The running coroutine is on top of the call stack. -/
theorem Registry.Named.callStack_cons {s : State} (named : s.registry.Named) :
    ∃ rest, s.callStack = s.coSelf :: rest := by
  have last : s.callStack.getLast? = some .main := named.mainLast
  cases stack : s.callStack with
  | nil => simp [stack] at last
  | cons top rest => exact ⟨rest, by simp [State.coSelf, stack]⟩

/-- The ids of the coroutines a map holds are the keys it holds them under. -/
theorem Registry.Named.held_key {s : State} (named : s.registry.Named) {coro : CoroPtr}
    (held : Held s coro) :
    s.coros.find (s.coro coro).coroId = some coro ∨
      s.waitingForRecycleCoros.find (s.coro coro).coroId = some coro := by
  rcases held with member | member
  · obtain ⟨coroId, found⟩ := (OrdMap.mem_values_iff _ _).mp member
    have key : (s.coro coro).coroId = coroId := (named.corosKey coroId coro found).2.1
    exact .inl (key ▸ found)
  · obtain ⟨coroId, found⟩ := (OrdMap.mem_values_iff _ _).mp member
    have key : (s.coro coro).coroId = coroId := (named.waitingKey coroId coro found).2.1
    exact .inr (key ▸ found)

/-- Along every run that takes only free ids, a coroutine is registered under its id
until it finishes, and no two coroutines in the maps have the same id. -/
theorem live_coroutines_have_own_ids {env : Bool} {s : State}
    (run : machine.Run TakesFreeId (State.init env) s) :
    (∀ coro, Created s coro → ¬ Finished s coro →
      s.getCoro (s.coro coro).coroId = some coro) ∧
    (∀ left right, Held s left → Held s right →
      (s.coro left).coroId = (s.coro right).coroId → left = right) := by
  have named := named_of_run run
  constructor
  · intro coro created unfinished
    exact named.registered coro created.2 (Bool.eq_false_iff.mpr unfinished)
  · intro left right leftHeld rightHeld sameId
    rcases named.held_key leftHeld with leftFound | leftFound <;>
      rcases named.held_key rightHeld with rightFound | rightFound
    · rw [sameId, rightFound] at leftFound
      exact (Option.some.inj leftFound).symm
    · have apart : s.waitingForRecycleCoros.find _ = none := named.apart _ left leftFound
      rw [sameId, rightFound] at apart
      cases apart
    · have apart : s.waitingForRecycleCoros.find _ = none := named.apart _ right rightFound
      rw [← sameId, leftFound] at apart
      cases apart
    · rw [sameId, rightFound] at leftFound
      exact (Option.some.inj leftFound).symm

/-- Two coroutines are created, each with an id that is free: the second one is found
under its id. -/
theorem second_coroutine_found :
    let s := (machine.replay (fun s label => decide (TakesFreeId s label)) (State.init false)
      [.user (.createCoro 0 0), .user (.createCoro 0 0)]).get (by decide)
    s.getCoro (s.coro 1).coroId = some 1 :=
  (live_coroutines_have_own_ids
    (.of_replay (fun _ _ passes => of_decide_eq_true passes) (Option.some_get _).symm)).1 1
      (by decide) (by decide)

/-- `Stop` resets the counter but leaves a coroutine that has not been started in
`coros_`. The next `CreateCoro` takes the id of that coroutine, `emplace` keeps the
old entry, and the new coroutine is never registered. -/
theorem created_after_stop_unregistered :
    (machine.replay (fun _ _ => true) (State.init false)
      [.user (.createCoro 0 0), .user .stop, .work ⟨0, 0⟩, .work ⟨0, 0⟩, .work ⟨0, 0⟩,
        .work ⟨0, 0⟩, .work ⟨0, 0⟩, .work ⟨0, 0⟩, .work ⟨0, 0⟩, .work ⟨0, 0⟩,
        .user (.createCoro 0 0)]).map
      (fun s => (decide (Created s 1), decide (Finished s 1), (s.coro 1).coroId,
        s.getCoro (s.coro 1).coroId)) =
    some (true, false, 1, some 0) := by
  decide +kernel

end LibcoRpc.CoroMgr
