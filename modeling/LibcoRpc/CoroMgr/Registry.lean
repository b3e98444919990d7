import LibcoRpc.CoroMgr.Step

/-!
# Identifiers, registration and the call stack

`Registry` is the part of the state that says which coroutine has which id, which
map holds it, whether it has finished and whether it is on libco's call stack.
`Registry.Step` lists everything one step of the manager can do to it, and `step_registry`
says that nothing else happens. What only concerns names can then be proved without
a case analysis over the code.
-/

namespace LibcoRpc.CoroMgr

open LibcoRpc.Std

/-- What names, registration and the call stack are about. -/
structure Registry where
  maxCoroId : Int
  coros : OrdMap Int CoroPtr
  waiting : OrdMap Int CoroPtr
  coroCount : Nat
  coroId : CoroPtr → Int
  innerCoro : CoroPtr → Co
  aSpec0 : Co → Int
  cEnd : Co → Bool
  callStack : List Co
  issued : List Int

/-- The registry a state contains. -/
def State.registry (s : State) : Registry where
  maxCoroId := s.maxCoroId
  coros := s.coros
  waiting := s.waitingForRecycleCoros
  coroCount := s.coroCount
  coroId coro := (s.coro coro).coroId
  innerCoro coro := (s.coro coro).innerCoro
  aSpec0 co := (s.inner co).aSpec0
  cEnd co := (s.inner co).cEnd
  callStack := s.callStack
  issued := s.issued

namespace Registry

/-- `GenCoroId` and the registration of the object at the next address, whose libco
coroutine is `inner`. -/
def register (r : Registry) (inner : Co) (cEnd : Bool) : Registry :=
  let coroId := nextCoroId r.maxCoroId
  { r with
    maxCoroId := coroId
    coros := r.coros.emplace coroId r.coroCount
    coroCount := r.coroCount + 1
    coroId := Function.update r.coroId r.coroCount coroId
    innerCoro := Function.update r.innerCoro r.coroCount inner
    aSpec0 := Function.update r.aSpec0 inner coroId
    cEnd := Function.update r.cEnd inner cEnd
    issued := coroId :: r.issued }

/-- `MaskWillRecycle` and the end of the coroutine's function. -/
def finish (r : Registry) (coro : CoroPtr) (below : List Co) : Registry :=
  let ended := { r with cEnd := Function.update r.cEnd (.co coro) true, callStack := below }
  if (r.waiting.find (r.coroId coro)).isSome then ended
  else
    { ended with
      waiting := r.waiting.emplace (r.coroId coro) coro
      coros := r.coros.erase (r.coroId coro) }

/-- Everything one step of the manager can do to its registry, with the id that it
takes from `GenCoroId`, if it takes one. -/
inductive Step (r : Registry) : Option Int → Registry → Prop where
  | stay : Step r none r
  /-- `Stop`, and a `Start` outside the main coroutine. -/
  | reset : Step r none { r with maxCoroId := 0 }
  /-- `co_resume`. -/
  | enter (coro : CoroPtr) (offStack : r.innerCoro coro ∉ r.callStack)
      (runs : r.cEnd (r.innerCoro coro) = false) :
      Step r none { r with callStack := r.innerCoro coro :: r.callStack }
  /-- `co_yield_env`. -/
  | leave {top below : Co} {rest : List Co} (stack : r.callStack = top :: below :: rest) :
      Step r none { r with callStack := below :: rest }
  | create : Step r (some (nextCoroId r.maxCoroId)) (r.register (.co r.coroCount) false)
  | start : Step r (some (nextCoroId 0))
      ({ r with maxCoroId := 0 }.register .main (r.cEnd .main))
  | finish {coro : CoroPtr} {below : Co} {rest : List Co}
      (stack : r.callStack = .co coro :: below :: rest) :
      Step r none (r.finish coro (below :: rest))
  /-- The end of `RecycleContainer`. -/
  | clear : Step r none { r with waiting := .empty }

/-- An object keeps its id. -/
theorem Step.coroId_kept {r r' : Registry} {issued : Option Int} (taken : r.Step issued r')
    {coro : CoroPtr} (created : coro < r.coroCount) : r'.coroId coro = r.coroId coro := by
  cases taken with
  | create | start => exact Function.update_of_ne (Nat.ne_of_lt created) _ _
  | finish =>
      simp only [Registry.finish]
      split <;> rfl
  | _ => rfl

/-- An object keeps its libco coroutine. -/
theorem Step.innerCoro_kept {r r' : Registry} {issued : Option Int} (taken : r.Step issued r')
    {coro : CoroPtr} (created : coro < r.coroCount) : r'.innerCoro coro = r.innerCoro coro := by
  cases taken with
  | create | start => exact Function.update_of_ne (Nat.ne_of_lt created) _ _
  | finish =>
      simp only [Registry.finish]
      split <;> rfl
  | _ => rfl

/-- Only a step that takes an id makes an object. -/
theorem Step.innerCoro_of_none {r r' : Registry} (taken : r.Step none r') :
    r'.innerCoro = r.innerCoro := by
  cases taken with
  | finish =>
      simp only [Registry.finish]
      split <;> rfl
  | _ => rfl

/-- The coroutine that ends leaves the call stack. -/
theorem finish_callStack {r : Registry} {coro : CoroPtr} {below : List Co} :
    (r.finish coro below).callStack = below := by
  simp only [Registry.finish]
  split <;> rfl

/-- `CoRoutineFunc` sets `cEnd` of the coroutine that ends, and of no other. -/
theorem finish_cEnd {r : Registry} {coro : CoroPtr} {below : List Co} :
    (r.finish coro below).cEnd = Function.update r.cEnd (.co coro) true := by
  simp only [Registry.finish]
  split <;> rfl

/-- What has ended stays so. -/
theorem Step.cEnd_kept {r r' : Registry} {issued : Option Int} (taken : r.Step issued r')
    {coro : CoroPtr} (created : coro < r.coroCount) (ended : r.cEnd (.co coro) = true) :
    r'.cEnd (.co coro) = true := by
  cases taken with
  | create =>
      have other : Co.co coro ≠ .co r.coroCount := fun same =>
        Nat.ne_of_lt created (Co.co.inj same)
      exact (Function.update_of_ne other ..).trans ended
  | start =>
      show Function.update r.cEnd .main (r.cEnd .main) (.co coro) = true
      rwa [Function.update_eq_self]
  | finish =>
      rw [finish_cEnd, Function.update_apply]
      split
      · rfl
      · exact ended
  | _ => exact ended

/-- Every object has an id of its own. -/
structure OwnIds (r : Registry) : Prop where
  issued : ∀ coro, coro < r.coroCount → r.coroId coro ∈ r.issued
  distinct : ∀ left right, left < r.coroCount → right < r.coroCount →
    r.coroId left = r.coroId right → left = right

namespace OwnIds

variable {r r' : Registry}

/-- An object with a new id has it alone. -/
theorem register (own : r.OwnIds) (new : nextCoroId r.maxCoroId ∉ r.issued) {inner : Co}
    {cEnd : Bool} : (r.register inner cEnd).OwnIds := by
  have old : ∀ coro, coro < r.coroCount → (r.register inner cEnd).coroId coro = r.coroId coro :=
    fun coro created => Function.update_of_ne (Nat.ne_of_lt created) _ _
  have last : (r.register inner cEnd).coroId r.coroCount = nextCoroId r.maxCoroId :=
    Function.update_self ..
  -- An object is one of the old ones, whose ids have been issued, or the new one.
  have cases_ : ∀ coro, coro < r.coroCount + 1 → coro < r.coroCount ∨ coro = r.coroCount :=
    fun coro => Nat.lt_succ_iff_lt_or_eq.mp
  have fresh : ∀ coro, coro < r.coroCount → r.coroId coro ≠ nextCoroId r.maxCoroId :=
    fun coro created same => new (same ▸ own.issued coro created)
  constructor
  · intro coro created
    rcases cases_ coro created with before | rfl
    · rw [old coro before]
      exact List.mem_cons_of_mem _ (own.issued coro before)
    · rw [last]
      exact List.mem_cons_self
  · intro left right leftCreated rightCreated same
    rcases cases_ left leftCreated with leftOld | rfl <;>
      rcases cases_ right rightCreated with rightOld | rfl
    · rw [old left leftOld, old right rightOld] at same
      exact own.distinct left right leftOld rightOld same
    · rw [old left leftOld, last] at same
      exact absurd same (fresh left leftOld)
    · rw [last, old right rightOld] at same
      exact absurd same.symm (fresh right rightOld)
    · rfl

/-- Ids stay apart in a step that takes no id a second time. -/
theorem step {issued : Option Int} (own : r.OwnIds) (taken : r.Step issued r')
    (new : ∀ coroId, issued = some coroId → coroId ∉ r.issued) : r'.OwnIds := by
  cases taken with
  | create => exact own.register (new _ rfl)
  | start =>
      have reset : { r with maxCoroId := 0 }.OwnIds := { own with }
      exact reset.register (new _ rfl)
  | finish =>
      simp only [Registry.finish]
      split <;> exact { own with }
  | _ => exact { own with }

end OwnIds

/-- An object runs in the main coroutine or in its own, and nothing runs in a coroutine
that has not been created. -/
structure Grounded (r : Registry) : Prop where
  inner : ∀ coro, r.innerCoro coro = .main ∨ r.innerCoro coro = .co coro
  allocated : ∀ coro, r.innerCoro coro = .co coro → coro < r.coroCount
  stacked : ∀ coro, .co coro ∈ r.callStack → coro < r.coroCount

namespace Grounded

variable {r r' : Registry}

/-- A new object runs in the main coroutine (`Start`) or in its own (`CreateCoro`). -/
theorem register (grounded : r.Grounded) {inner : Co} {cEnd : Bool}
    (kind : inner = .main ∨ inner = .co r.coroCount) : (r.register inner cEnd).Grounded where
  inner coro := by
    by_cases same : coro = r.coroCount
    · subst same
      simpa [Registry.register] using kind
    · simpa [Registry.register, same] using grounded.inner coro
  allocated coro isCo := by
    by_cases same : coro = r.coroCount
    · exact same ▸ Nat.lt_succ_self _
    · exact Nat.lt_succ_of_lt
        (grounded.allocated coro (by simpa [Registry.register, same] using isCo))
  stacked coro member := Nat.lt_succ_of_lt (grounded.stacked coro member)

/-- The call stack may lose entries. -/
theorem shrink (grounded : r.Grounded) {top : Co} {below : List Co}
    (stack : r.callStack = top :: below) : { r with callStack := below }.Grounded :=
  { grounded with
    stacked := fun coro member =>
      grounded.stacked coro (stack ▸ List.mem_cons_of_mem _ member) }

/-- Every step keeps this, and objects are never taken back. -/
theorem step {issued : Option Int} (grounded : r.Grounded) (taken : r.Step issued r') :
    r'.Grounded ∧ r.coroCount ≤ r'.coroCount := by
  cases taken with
  | stay => exact ⟨grounded, Nat.le_refl _⟩
  | reset => exact ⟨{ grounded with }, Nat.le_refl _⟩
  | clear => exact ⟨{ grounded with }, Nat.le_refl _⟩
  | create => exact ⟨grounded.register (.inr rfl), Nat.le_succ _⟩
  | start =>
      have reset : { r with maxCoroId := 0 }.Grounded := { grounded with }
      exact ⟨reset.register (.inl rfl), Nat.le_succ _⟩
  | leave stack => exact ⟨grounded.shrink stack, Nat.le_refl _⟩
  | enter coro offStack runs =>
      refine ⟨{ grounded with stacked := fun other member => ?_ }, Nat.le_refl _⟩
      rcases List.mem_cons.mp member with same | member
      · rcases grounded.inner coro with isMain | isCo
        · rw [isMain] at same
          cases same
        · rw [isCo] at same
          cases same
          exact grounded.allocated _ isCo
      · exact grounded.stacked other member
  | @finish coro below rest stack =>
      have shrunk := grounded.shrink stack
      simp only [Registry.finish]
      split
      all_goals exact ⟨{ shrunk with }, Nat.le_refl _⟩

/-- What has ended is no longer on the call stack: `co_resume` lets no such coroutine in, and a
coroutine that ends leaves. -/
theorem unended_step {issued : Option Int} (grounded : r.Grounded) (nodup : r.callStack.Nodup)
    (unended : ∀ co ∈ r.callStack, r.cEnd co = false) (taken : r.Step issued r') :
    ∀ co ∈ r'.callStack, r'.cEnd co = false := by
  intro co member
  cases taken with
  | stay | reset | clear => exact unended co member
  | enter coro _ runs =>
      rcases List.mem_cons.mp member with rfl | below
      · exact runs
      · exact unended co below
  | leave stack => exact unended co (stack ▸ List.mem_cons_of_mem _ member)
  | create =>
      have other : co ≠ .co r.coroCount := by
        rintro rfl
        exact Nat.lt_irrefl _ (grounded.stacked _ member)
      exact (Function.update_of_ne other ..).trans (unended co member)
  | start =>
      show Function.update r.cEnd .main (r.cEnd .main) co = false
      rw [Function.update_eq_self]
      exact unended co member
  | finish stack =>
      rw [finish_callStack] at member
      rw [stack] at unended nodup
      rw [finish_cEnd, Function.update_of_ne]
      · exact unended co (List.mem_cons_of_mem _ member)
      · rintro rfl
        exact (List.nodup_cons.mp nodup).1 member

end Grounded

end Registry

/-! ## The code as registry steps -/

namespace State

/-- The id that a step takes from `GenCoroId`, if it takes one. -/
def issues (s : State) : Label → Option Int
  | .user (.createCoro _ _) => some (nextCoroId s.maxCoroId)
  | .user .start => if s.coSelf = .main then some (nextCoroId 0) else none
  | _ => none

variable {s s' : State} {self : Co} {rest : List Frame} {coro : CoroPtr}

@[simp] theorem registry_goto (s : State) (self : Co) (frames : List Frame) :
    (s.goto self frames).registry = s.registry := rfl

@[simp] theorem registry_returns (s : State) (value : Int) :
    (s.returns value).registry = s.registry := rfl

@[simp] theorem registry_record (s : State) (event : Event) :
    (s.record event).registry = s.registry := rfl

@[simp] theorem registry_setData (s : State) (data : DataPtr) (record : TimerData) :
    (s.setData data record).registry = s.registry := rfl

@[simp] theorem registry_release (s : State) (data : DataPtr) :
    (s.release data).registry = s.registry := rfl

@[simp] theorem registry_heap (s : State) (heap : List DataPtr) :
    { s with heap := heap }.registry = s.registry := rfl

@[simp] theorem registry_maxTimerId (s : State) (maxTimerId : Nat) :
    { s with maxTimerId := maxTimerId }.registry = s.registry := rfl

/-- A write to an object that keeps its id and its libco coroutine. -/
@[simp] theorem registry_setCoro (s : State) (coro : CoroPtr) (object : Coro)
    (coroId : object.coroId = (s.coro coro).coroId)
    (innerCoro : object.innerCoro = (s.coro coro).innerCoro) :
    (s.setCoro coro object).registry = s.registry := by
  have ids : (fun other => (Function.update s.coro coro object other).coroId) =
      fun other => (s.coro other).coroId := by
    funext other
    by_cases same : other = coro
    · simp [same, coroId]
    · simp [same]
  have inners : (fun other => (Function.update s.coro coro object other).innerCoro) =
      fun other => (s.coro other).innerCoro := by
    funext other
    by_cases same : other = coro
    · simp [same, innerCoro]
    · simp [same]
  simp only [registry, setCoro, ids, inners]

/-- A write to a libco coroutine that keeps its id and its end flag. -/
theorem registry_setInner (s : State) (co : Co) (inner : Inner)
    (aSpec0 : inner.aSpec0 = (s.inner co).aSpec0) (cEnd : inner.cEnd = (s.inner co).cEnd) :
    (s.setInner co inner).registry = s.registry := by
  have specs : (fun other => (Function.update s.inner co inner other).aSpec0) =
      fun other => (s.inner other).aSpec0 := by
    funext other
    by_cases same : other = co
    · simp [same, aSpec0]
    · simp [same]
  have ends : (fun other => (Function.update s.inner co inner other).cEnd) =
      fun other => (s.inner other).cEnd := by
    funext other
    by_cases same : other = co
    · simp [same, cEnd]
    · simp [same]
  simp only [registry, setInner, specs, ends]

/-- Cancelling a timer ends no coroutine and takes no id, whether or not its handler is called. -/
theorem timerCancel_registry : (s.timerCancel self rest coro).registry = s.registry := by
  simp only [timerCancel]
  split
  · simp
  · split <;> simp

/-- Nor does `Schedule`, whatever the `Cancel` before it has returned. -/
theorem timerSchedule_registry {dueTime now : Int} :
    (s.timerSchedule self rest coro dueTime now).registry = s.registry := by
  simp only [timerSchedule]
  split
  · simp
  · split <;> simp

/-- After its handler `Cancel` writes a timer record, and the pointer to it of the timer. -/
theorem schedCancelRet_registry {data : DataPtr} {now : Int}
    (taken : s.schedCancelRet self rest coro data now = .ok s') : s'.registry = s.registry := by
  simp only [schedCancelRet] at taken
  split at taken
  · cases taken
  · split at taken
    · cases taken; simp
    · split at taken
      · split at taken
        · cases taken
        · split at taken
          all_goals cases taken; simp
      · cases taken; simp

/-- The loop of the scheduler pops records and calls handlers. -/
theorem schedLoop_registry {now : Int} {top : DataPtr}
    (taken : s.schedLoop self rest now top = .ok s') : s'.registry = s.registry := by
  simp only [schedLoop] at taken
  split at taken
  · cases taken; simp
  · split at taken
    · cases taken
    · split at taken
      · cases taken; simp
      · split at taken
        all_goals cases taken; simp

theorem schedUpdate_registry {now : Int} : (s.schedUpdate self rest now).registry = s.registry := by
  simp only [schedUpdate]
  split <;> simp

theorem schedUpdateRet_registry {now : Int} {data : DataPtr} :
    (s.schedUpdateRet self rest now data).registry = s.registry := by
  simp only [schedUpdateRet]
  split <;> simp

/-- `Resume` writes flags and counters of an object, not its id; it is `co_resume` that enters. -/
theorem resume_registry {passData : Variant} {cause : Cause} :
    (s.resume self rest coro passData cause).registry = s.registry := by
  simp only [resume]
  split
  · simp
  · split
    all_goals exact registry_setCoro (s.record _) coro _ rfl rfl

theorem cancel_registry : (s.cancel self rest coro).registry = s.registry := by
  simp only [cancel]
  split <;> simp

theorem onCoroCancel_registry : (s.onCoroCancel self rest coro).registry = s.registry := by
  simp only [onCoroCancel]
  split <;> simp

/-- The timeout handler sets a flag of an object that is there. -/
theorem onCoroTimeout_registry (taken : s.onCoroTimeout self rest coro = .ok s') :
    s'.registry = s.registry := by
  simp only [onCoroTimeout] at taken
  split at taken
  · cases taken
  · cases taken; simp

/-- `Yield` up to its switch: a refusal, or a counter of the object. -/
theorem coroYield_registry {timeout : Int} (taken : s.coroYield self coro timeout = .ok s') :
    s'.registry = s.registry := by
  simp only [coroYield] at taken
  split at taken
  · cases taken; simp
  · split at taken
    · cases taken
    · cases taken
    · split at taken
      · cases taken; simp
      · split at taken
        all_goals cases taken; simp

/-- `Yield` after its switch reads flags of an object that is there. -/
theorem yieldRet_registry {times : Nat} (taken : s.yieldRet self rest coro times = .ok s') :
    s'.registry = s.registry := by
  simp only [yieldRet] at taken
  split at taken
  · cases taken
  · cases taken; simp

theorem destroyed_registry : (s.destroyed coro).registry = s.registry := by
  simp [destroyed]

/-- `~Coro` takes the object out of no map. -/
theorem destroy_registry : (s.destroy self rest coro).registry = s.registry := by
  simp only [destroy]
  split
  · simp [destroyed_registry]
  · simp

theorem destroyTimer_registry (taken : s.destroyTimer self rest coro = .ok s') :
    s'.registry = s.registry := by
  simp only [destroyTimer] at taken
  split at taken
  · cases taken
  · cases taken; simp [destroyed_registry]

theorem updateRecycle_registry : (s.updateRecycle self rest).registry = s.registry := by
  simp only [updateRecycle]
  split <;> simp

/-- The loop of `Stop` cancels one coroutine after the other; it erases none of them. -/
theorem stopLoop_registry {position : Option (Int × CoroPtr)}
    (taken : s.stopLoop self rest position = .ok s') : s'.registry = s.registry := by
  cases position with
  | none => cases taken; simp
  | some entry =>
      simp only [stopLoop] at taken
      split at taken
      · cases taken
      · split at taken
        all_goals cases taken; simp

theorem setEntry_registry {entry : Nat} : (s.setEntry coro entry).registry = s.registry := by
  simp only [setEntry]
  split <;> simp

theorem setArgs_registry {args : Nat} : (s.setArgs coro args).registry = s.registry := by
  simp only [setArgs]
  split <;> simp

/-! The functions that do touch the registry. -/

/-- `co_resume` enters a coroutine that is not on the call stack and has not ended. -/
theorem coResume_registry (taken : s.coResume self rest coro = .ok s') :
    s.registry.Step none s'.registry := by
  simp only [coResume] at taken
  split at taken
  · cases taken
  · split at taken
    · cases taken
    · split at taken
      · cases taken
      · split at taken
        · cases taken
        next offStack runs _ =>
          cases taken
          have kept := registry_setInner s (s.coro coro).innerCoro
            { s.inner (s.coro coro).innerCoro with cStart := true } rfl rfl
          have entered : { s.setInner (s.coro coro).innerCoro
                { s.inner (s.coro coro).innerCoro with cStart := true } with
              callStack := (s.coro coro).innerCoro :: s.callStack
              frames := Function.update s.frames self (.resumeRet coro :: rest) }.registry =
              { s.registry with callStack := (s.coro coro).innerCoro :: s.callStack } := by
            rw [← kept]
            rfl
          rw [entered]
          exact .enter coro offStack (Bool.eq_false_iff.mpr runs)

/-- `co_yield_env` pops the running coroutine, and needs one below it. -/
theorem coYield_cases (taken : s.coYield = .ok s') :
    ∃ top below rest, s.callStack = top :: below :: rest ∧
      s' = { s with callStack := below :: rest } := by
  simp only [coYield] at taken
  split at taken
  next top below rest stack =>
    cases taken
    exact ⟨top, below, rest, stack, rfl⟩
  next => cases taken

/-- `co_yield_env` leaves the running coroutine. -/
theorem coYield_registry (taken : s.coYield = .ok s') : s.registry.Step none s'.registry := by
  obtain ⟨top, below, rest, stack, rfl⟩ := coYield_cases taken
  exact .leave stack

/-- The switch in `Yield` leaves the running coroutine. -/
theorem yieldSuspend_registry (taken : s.yieldSuspend self rest coro = .ok s') :
    s.registry.Step none s'.registry := by
  have same := coYield_registry taken
  simpa [registry_setCoro] using same

/-- `RecycleContainer` clears its map when all its objects are deleted. -/
theorem recycle_registry {pending : List CoroPtr} :
    s.registry.Step none (s.recycle self rest pending).registry := by
  cases pending with
  | nil => exact .clear
  | cons coro pending =>
      simp only [recycle]
      split
      all_goals exact .stay

private theorem coroId_update (s : State) (coro : CoroPtr) (object : Coro) :
    (fun other => (Function.update s.coro coro object other).coroId) =
      Function.update (fun other => (s.coro other).coroId) coro object.coroId :=
  funext fun other => Function.apply_update (fun _ object => object.coroId) s.coro coro object other

private theorem innerCoro_update (s : State) (coro : CoroPtr) (object : Coro) :
    (fun other => (Function.update s.coro coro object other).innerCoro) =
      Function.update (fun other => (s.coro other).innerCoro) coro object.innerCoro :=
  funext fun other =>
    Function.apply_update (fun _ object => object.innerCoro) s.coro coro object other

private theorem aSpec0_update (s : State) (co : Co) (inner : Inner) :
    (fun other => (Function.update s.inner co inner other).aSpec0) =
      Function.update (fun other => (s.inner other).aSpec0) co inner.aSpec0 :=
  funext fun other => Function.apply_update (fun _ inner => inner.aSpec0) s.inner co inner other

private theorem cEnd_update (s : State) (co : Co) (inner : Inner) :
    (fun other => (Function.update s.inner co inner other).cEnd) =
      Function.update (fun other => (s.inner other).cEnd) co inner.cEnd :=
  funext fun other => Function.apply_update (fun _ inner => inner.cEnd) s.inner co inner other

/-- `CreateCoro` registers an object that runs in its own coroutine. -/
theorem createCoro_registry {entry args : Nat} :
    (s.createCoro entry args).registry = s.registry.register (.co s.coroCount) false := by
  simp only [createCoro, genCoroId, newCoro, setCoro, setInner, record, registry,
    Registry.register, coroId_update, innerCoro_update, aSpec0_update, cEnd_update]

/-- `Start` registers the main coroutine, if that is what runs, and otherwise resets the counter
only. -/
theorem start_registry (taken : s.start = .ok s') :
    s.registry.Step (s.issues (.user .start)) s'.registry := by
  simp only [start] at taken
  split at taken
  · cases taken
  · split at taken
    next offMain =>
      cases taken
      have offMain : s.coSelf ≠ .main := offMain
      rw [issues, if_neg offMain]
      exact .reset
    next onMain =>
      cases taken
      have onMain : s.coSelf = .main := Decidable.not_not.mp onMain
      rw [issues, if_pos onMain]
      have started : s.registry.Step (some (nextCoroId 0))
          ({ s.registry with maxCoroId := 0 }.register .main (s.registry.cEnd .main)) := .start
      simpa only [genCoroId, newCoro, setCoro, setInner, returns, registry, Registry.register,
        coroId_update, innerCoro_update, aSpec0_update, cEnd_update] using started

/-- `MaskWillRecycle` moves an object between maps and switches to nothing. -/
theorem maskWillRecycle_callStack (s : State) (coro : CoroPtr) :
    (s.maskWillRecycle coro).callStack = s.callStack := by
  simp only [maskWillRecycle]
  split <;> rfl

/-- The return of an entry function finishes the running coroutine. -/
theorem entryReturn_registry (taken : s.entryReturn = .ok s') :
    s.registry.Step none s'.registry := by
  simp only [entryReturn] at taken
  split at taken
  · cases taken
  next coro onTop =>
    obtain ⟨top, below, rest, stack, rfl⟩ := coYield_cases taken
    have stack : s.callStack = top :: below :: rest :=
      (maskWillRecycle_callStack s coro).symm.trans stack
    have isTop : top = .co coro := by simpa [coSelf, stack] using onTop
    subst isTop
    have finished : s.registry.Step none (s.registry.finish coro (below :: rest)) := .finish stack
    have sameSpec : Function.update (fun co => (s.inner co).aSpec0) (.co coro)
        (s.inner (.co coro)).aSpec0 = fun co => (s.inner co).aSpec0 :=
      Function.update_eq_self (.co coro) fun co => (s.inner co).aSpec0
    by_cases waits : (s.waitingForRecycleCoros.find (s.coro coro).coroId).isSome
    all_goals
      simpa only [Registry.finish, registry, maskWillRecycle, record, setInner, waits, if_true,
        if_false, aSpec0_update, cEnd_update, sameSpec, Bool.false_eq_true] using finished

/-- Code of the manager takes no id. -/
theorem runFrame_registry {choice : Choice} {frame : Frame}
    (taken : s.runFrame choice self rest frame = .ok s') : s.registry.Step none s'.registry := by
  have stay : ∀ {s' : State}, s'.registry = s.registry → s.registry.Step none s'.registry :=
    fun same => same ▸ .stay
  cases frame with
  | resume => cases taken; exact stay resume_registry
  | coResume => exact coResume_registry taken
  | resumeRet => cases taken; exact .stay
  | timerCancel => cases taken; exact stay timerCancel_registry
  | onCoroCancel => cases taken; exact stay onCoroCancel_registry
  | schedCancelRet => exact stay (schedCancelRet_registry taken)
  | cancel => cases taken; exact stay cancel_registry
  | cancelRet => cases taken; exact .stay
  | timerSchedule => cases taken; exact stay timerSchedule_registry
  | yieldSuspend => exact yieldSuspend_registry taken
  | yieldRet => exact stay (yieldRet_registry taken)
  | schedUpdate => cases taken; exact stay schedUpdate_registry
  | schedLoop => exact stay (schedLoop_registry taken)
  | onCoroTimeout => exact stay (onCoroTimeout_registry taken)
  | schedUpdateRet => cases taken; exact stay schedUpdateRet_registry
  | updateRecycle => cases taken; exact stay updateRecycle_registry
  | recycle => cases taken; exact recycle_registry
  | destroy => cases taken; exact stay destroy_registry
  | destroyTimer => exact stay (destroyTimer_registry taken)
  | stopLoop => exact stay (stopLoop_registry taken)
  | stopReset => cases taken; exact .reset

/-- A lookup by id changes nothing, whether or not it finds a coroutine. -/
theorem withCoro_registry {coroId : Int} {frame : CoroPtr → Frame} :
    (s.withCoro coroId fun coro => s.goto self [frame coro]).registry = s.registry := by
  simp only [withCoro]
  split <;> rfl

/-- Of the operations, only `CreateCoro` and `Start` in the main coroutine take an id. -/
theorem userStep_registry {op : Op} (taken : s.userStep self op = .ok s') :
    s.registry.Step (s.issues (.user op)) s'.registry := by
  have stay : ∀ {s' : State}, s'.registry = s.registry → s.registry.Step none s'.registry :=
    fun same => same ▸ .stay
  cases op with
  | start => exact start_registry taken
  | createCoro entry args =>
      cases taken
      rw [createCoro_registry]
      exact .create
  | setEntry coro entry =>
      simp only [userStep] at taken
      split at taken
      · cases taken; exact stay setEntry_registry
      · cases taken
  | setArgs coro args =>
      simp only [userStep] at taken
      split at taken
      · cases taken; exact stay setArgs_registry
      · cases taken
  | setPtrParam1 coro param =>
      simp only [userStep] at taken
      split at taken
      · cases taken; exact stay (registry_setCoro _ _ _ rfl rfl)
      · cases taken
  | coroYield coro timeout =>
      simp only [userStep] at taken
      split at taken
      · exact stay (coroYield_registry taken)
      · cases taken
  | coroResume coro passData =>
      simp only [userStep] at taken
      split at taken
      · cases taken; exact .stay
      · cases taken
  | coroCancel coro =>
      simp only [userStep] at taken
      split at taken
      · cases taken; exact .stay
      · cases taken
  | yield timeout =>
      simp only [userStep] at taken
      split at taken
      · cases taken
      · cases taken
      · exact stay (coroYield_registry taken)
  | resume coroId passData => cases taken; exact stay withCoro_registry
  | cancel coroId => cases taken; exact stay withCoro_registry
  | update => cases taken; exact .stay
  | stop => cases taken; exact .stay
  | entryReturn => exact entryReturn_registry taken

/-- A step of the code is a step of its registry, and takes the id it is said to take. -/
theorem step_registry {label : Label} (taken : s.step label = .ok s') :
    s.registry.Step (s.issues label) s'.registry := by
  cases label with
  | user op =>
      simp only [step] at taken
      split at taken
      · exact userStep_registry taken
      · cases taken
  | work choice =>
      simp only [step] at taken
      split at taken
      · cases taken
      · exact runFrame_registry taken

end State

end LibcoRpc.CoroMgr
