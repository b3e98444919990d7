import LibcoRpc.CoroMgr.Passage

/-!
# The call stack of libco

Which coroutine runs is decided by `pCallStack`, and whether `co_resume` has to make a context
by `cStart`. A step of the manager enters a coroutine, leaves one, or lets the running one go on
(`step_passes`). Under whatever discipline, the call stack holds distinct coroutines that have
started and not ended, above the main one (`Stacked.step`), and what `Update` deletes has ended
(`Doomed.step`).
-/

namespace LibcoRpc.CoroMgr

open LibcoRpc.Std

variable {s s' : State}

/-- The running coroutine goes on, and nothing is created. -/
structure Still (s s' : State) : Prop where
  inner : s'.inner = s.inner
  stack : s'.callStack = s.callStack

/-- What a step does to the call stack and to the coroutines that have started. -/
inductive Passes (s s' : State) : Prop where
  | stays (stack : s'.callStack = s.callStack)
      (kept : ∀ coro < s.coroCount, (s'.inner (.co coro)).cStart = (s.inner (.co coro)).cStart)
      (unmade : ∀ coro, (s'.inner (.co coro)).cStart = true →
        (s.inner (.co coro)).cStart = true)
  /-- `co_resume`. -/
  | enters {coro : CoroPtr} (offStack : (s.coro coro).innerCoro ∉ s.callStack)
      (stack : s'.callStack = (s.coro coro).innerCoro :: s.callStack)
      (inner : s'.inner = Function.update s.inner (s.coro coro).innerCoro
        { s.inner (s.coro coro).innerCoro with cStart := true })
  /-- `co_yield_env`. -/
  | leaves {top below : Co} {rest : List Co} (stack : s.callStack = top :: below :: rest)
      (left : s'.callStack = below :: rest)
      (kept : ∀ co, (s'.inner co).cStart = (s.inner co).cStart)

/-- Where libco's state is left alone, control stays. -/
theorem Still.passes (still : Still s s') : Passes s s' :=
  .stays still.stack (fun _ _ => by rw [still.inner]) fun _ started => by
    rwa [← still.inner]

namespace State

variable {self : Co} {rest : List Frame}

/-- `co_resume` passes control on. -/
theorem coResume_passes {coro : CoroPtr} (taken : s.coResume self rest coro = .ok s') :
    Passes s s' := by
  simp only [coResume] at taken
  split_ifs at taken with _ onStack
  cases taken
  exact .enters onStack rfl rfl

/-- `co_yield_env` gives control back. -/
theorem yieldSuspend_passes {coro : CoroPtr} (taken : s.yieldSuspend self rest coro = .ok s') :
    Passes s s' := by
  obtain ⟨top, below, lower, stack, rfl⟩ := coYield_cases taken
  exact .leaves stack rfl fun _ => rfl

/-- `Yield` up to its switch leaves libco's state alone. -/
theorem coroYield_still {coro : CoroPtr} {timeout : Int}
    (taken : s.coroYield self coro timeout = .ok s') : Still s s' := by
  simp only [coroYield] at taken
  repeat' split at taken
  all_goals cases taken <;> exact ⟨rfl, rfl⟩

theorem withCoro_still {coroId : Int} {frame : CoroPtr → Frame} :
    Still s (s.withCoro coroId fun coro => s.goto self [frame coro]) := by
  simp only [withCoro]
  split <;> exact ⟨rfl, rfl⟩

/-- `Start` keeps control. -/
theorem start_passes (taken : s.start = .ok s') : Passes s s' := by
  simp only [start] at taken
  split_ifs at taken
  · cases taken
    exact Still.passes ⟨rfl, rfl⟩
  · cases taken
    exact .stays rfl (fun _ _ => rfl) fun _ started => started

/-- `CreateCoro` keeps control; the coroutine it makes has not started. -/
theorem createCoro_passes {entry args : Nat} : Passes s (s.createCoro entry args) := by
  refine .stays rfl (fun coro created => ?_) fun coro started => ?_
  · have other : Co.co coro ≠ .co s.coroCount := fun same =>
      Nat.ne_of_lt created (Co.co.inj same)
    exact congrArg Inner.cStart (Function.update_of_ne other ..)
  · by_cases same : Co.co coro = .co s.coroCount
    · rw [same] at started
      have fresh : (s.createCoro entry args).inner (.co s.coroCount) =
          { aSpec0 := nextCoroId s.maxCoroId } := Function.update_self ..
      rw [fresh] at started
      cases started
    · have kept : (s.createCoro entry args).inner (.co coro) = s.inner (.co coro) :=
        Function.update_of_ne same ..
      rwa [kept] at started

/-- A coroutine that ends gives control back. -/
theorem entryReturn_passes (taken : s.entryReturn = .ok s') : Passes s s' := by
  simp only [entryReturn] at taken
  split at taken
  · cases taken
  next coro _ =>
    obtain ⟨top, below, lower, stack, rfl⟩ := coYield_cases taken
    have stack : s.callStack = top :: below :: lower :=
      (maskWillRecycle_callStack s coro).symm.trans stack
    have masked : (s.maskWillRecycle coro).inner = s.inner := by
      simp only [maskWillRecycle]
      split <;> rfl
    refine .leaves stack rfl fun co => ?_
    simp only [setInner, record, masked]
    by_cases same : co = .co coro
    · rw [same, Function.update_self]
    · rw [Function.update_of_ne same]

/-- Code of the manager passes control in these ways only. -/
theorem runFrame_passes {choice : Choice} {frame : Frame}
    (taken : s.runFrame choice self rest frame = .ok s') : Passes s s' := by
  cases frame with
  | coResume => exact coResume_passes taken
  | yieldSuspend => exact yieldSuspend_passes taken
  | recycle pending =>
      cases taken
      cases pending with
      | nil => exact Still.passes ⟨rfl, rfl⟩
      | cons coro pending =>
          simp only [recycle]
          split <;> exact Still.passes ⟨rfl, rfl⟩
  | stopLoop position =>
      cases position with
      | none =>
          cases taken
          exact Still.passes ⟨rfl, rfl⟩
      | some entry =>
          simp only [runFrame, stopLoop] at taken
          repeat' split at taken
          all_goals cases taken <;> exact Still.passes ⟨rfl, rfl⟩
  | _ =>
      -- The other frames switch to no coroutine and leave libco's objects alone.
      simp only [runFrame, resume, timerCancel, onCoroCancel, schedCancelRet, cancel,
        timerSchedule, yieldRet, schedUpdate, schedLoop, onCoroTimeout, schedUpdateRet,
        updateRecycle, destroy, destroyTimer] at taken
      repeat' split at taken
      all_goals cases taken <;> exact Still.passes ⟨rfl, rfl⟩

/-- So do the operations of user code. -/
theorem userStep_passes {op : Op} (taken : s.userStep self op = .ok s') : Passes s s' := by
  cases op with
  | start => exact start_passes taken
  | createCoro entry args =>
      cases taken
      exact createCoro_passes
  | entryReturn => exact entryReturn_passes taken
  | coroYield coro timeout =>
      simp only [userStep] at taken
      split at taken
      · exact (coroYield_still taken).passes
      · cases taken
  | yield timeout =>
      simp only [userStep] at taken
      split at taken
      · cases taken
      · cases taken
      · exact (coroYield_still taken).passes
  | resume coroId passData =>
      cases taken
      exact withCoro_still.passes
  | cancel coroId =>
      cases taken
      exact withCoro_still.passes
  | _ =>
      simp only [userStep, setEntry, setArgs] at taken
      repeat' split at taken
      all_goals cases taken <;> exact Still.passes ⟨rfl, rfl⟩

end State

/-- Every step passes control in one of these ways. -/
theorem step_passes {label : Label} (taken : machine.step s label = .ok s') : Passes s s' := by
  cases label with
  | user op =>
      simp only [machine, State.step] at taken
      split at taken
      · exact State.userStep_passes taken
      · cases taken
  | work choice =>
      simp only [machine, State.step] at taken
      split at taken
      · cases taken
      · exact State.runFrame_passes taken

/-- The call stack holds distinct coroutines that have started and not ended, above the main
one; only coroutines that have been created have started. -/
structure Stacked (s : State) : Prop where
  grounded : s.registry.Grounded
  nodup : s.callStack.Nodup
  mainLast : s.callStack.getLast? = some .main
  started : ∀ coro, .co coro ∈ s.callStack → (s.inner (.co coro)).cStart = true
  unended : ∀ co ∈ s.callStack, (s.inner co).cEnd = false
  created : ∀ coro, (s.inner (.co coro)).cStart = true → coro < s.coroCount

namespace Stacked

variable (stacked : Stacked s)

include stacked

/-- The running coroutine is on top. -/
theorem callStack_cons : s.callStack = s.coSelf :: s.callStack.tail := by
  cases stack : s.callStack with
  | nil =>
      have last := stacked.mainLast
      rw [stack] at last
      cases last
  | cons top below => rw [State.coSelf, stack, List.headD_cons, List.tail_cons]

/-- `co_resume` is called for a coroutine that the manager has created. -/
theorem target_created {coro : CoroPtr} (offStack : (s.coro coro).innerCoro ∉ s.callStack) :
    (s.coro coro).innerCoro = .co coro ∧ coro < s.coroCount := by
  rcases stacked.grounded.inner coro with isMain | isCo
  · have main : (s.coro coro).innerCoro = .main := isMain
    rw [main] at offStack
    exact absurd (List.mem_of_getLast? stacked.mainLast) offStack
  · exact ⟨isCo, stacked.grounded.allocated coro isCo⟩

/-- The running coroutine has started. -/
theorem coSelf_started {coro : CoroPtr} (self : s.coSelf = .co coro) :
    (s.inner (.co coro)).cStart = true := by
  refine stacked.started coro ?_
  rw [stacked.callStack_cons, self]
  exact List.mem_cons_self

/-- A coroutine that has started stays so. -/
theorem started_kept {label : Label} (taken : machine.step s label = .ok s') {coro : CoroPtr}
    (started : (s.inner (.co coro)).cStart = true) : (s'.inner (.co coro)).cStart = true := by
  cases step_passes taken with
  | stays _ kept => rwa [kept coro (stacked.created coro started)]
  | enters _ _ inner =>
      rw [inner, Function.update_apply]
      split
      · rfl
      · exact started
  | leaves _ _ kept => rwa [kept]

/-- What is on top of a call stack that has grown. -/
theorem entered {label : Label} (taken : machine.step s label = .ok s')
    (longer : s.callStack.length < s'.callStack.length) :
    ∃ coro, s'.coSelf = .co coro ∧ .co coro ∉ s.callStack ∧
      (s.coro coro).innerCoro = .co coro := by
  cases step_passes taken with
  | stays stack =>
      rw [stack] at longer
      exact absurd longer (Nat.lt_irrefl _)
  | @enters coro offStack stack =>
      have isCo := (stacked.target_created offStack).1
      exact ⟨coro, by rw [State.coSelf, stack, List.headD_cons, isCo], isCo ▸ offStack, isCo⟩
  | leaves stack left =>
      rw [stack, left] at longer
      exact absurd longer (Nat.not_lt_of_le (Nat.le_succ _))

/-- A coroutine that has started had done so before, or is entered now. -/
theorem started_before {label : Label} (taken : machine.step s label = .ok s') {coro : CoroPtr}
    (started : (s'.inner (.co coro)).cStart = true) :
    (s.inner (.co coro)).cStart = true ∨ s'.coSelf = .co coro ∧ coro < s.coroCount := by
  cases step_passes taken with
  | stays _ _ unmade => exact .inl (unmade coro started)
  | @enters target offStack stack inner =>
      obtain ⟨isCo, created⟩ := stacked.target_created offStack
      rw [isCo] at stack inner
      by_cases same : coro = target
      · subst same
        exact .inr ⟨by rw [State.coSelf, stack, List.headD_cons], created⟩
      · rw [inner, Function.update_of_ne fun eq => same (Co.co.inj eq)] at started
        exact .inl started
  | leaves _ _ kept => exact .inl (kept _ ▸ started)

/-- Coroutines enter an orderly call stack once, and above the main one. -/
theorem stack_kept {label : Label} (taken : machine.step s label = .ok s') :
    s'.callStack.Nodup ∧ s'.callStack.getLast? = some .main := by
  have nodup := stacked.nodup
  have last := stacked.mainLast
  cases step_passes taken with
  | stays stack =>
      rw [stack]
      exact ⟨nodup, last⟩
  | enters offStack stack =>
      rw [stack]
      refine ⟨List.nodup_cons.mpr ⟨offStack, nodup⟩, ?_⟩
      rw [stacked.callStack_cons, List.getLast?_cons_cons, ← stacked.callStack_cons]
      exact last
  | leaves stack left =>
      rw [stack] at nodup last
      rw [left]
      exact ⟨(List.nodup_cons.mp nodup).2, last⟩

/-- Every step keeps this. -/
theorem step {label : Label} (taken : machine.step s label = .ok s') : Stacked s' := by
  obtain ⟨grounded, more⟩ := stacked.grounded.step (State.step_registry taken)
  have more : s.coroCount ≤ s'.coroCount := more
  obtain ⟨nodup, mainLast⟩ := stacked.stack_kept taken
  refine ⟨grounded, nodup, mainLast, fun coro member => ?_,
    stacked.grounded.unended_step stacked.nodup stacked.unended (State.step_registry taken),
    fun coro started => ?_⟩
  · cases step_passes taken with
    | stays stack => exact stacked.started_kept taken (stacked.started coro (stack ▸ member))
    | enters _ stack inner =>
        rw [stack] at member
        rcases List.mem_cons.mp member with isTarget | before
        · rw [inner, ← isTarget, Function.update_self]
        · exact stacked.started_kept taken (stacked.started coro before)
    | leaves stack left =>
        rw [left] at member
        refine stacked.started_kept taken (stacked.started coro ?_)
        rw [stack]
        exact List.mem_cons_of_mem _ member
  · rcases stacked.started_before taken started with before | entered
    · exact Nat.lt_of_lt_of_le (stacked.created coro before) more
    · exact Nat.lt_of_lt_of_le entered.2 more

end Stacked

theorem stacked_init (env : Bool) : Stacked (State.init env) where
  grounded :=
    { inner := fun _ => .inl rfl
      allocated := by rintro _ ⟨⟩
      stacked := fun _ member => by rcases List.mem_singleton.mp member with ⟨⟩ }
  nodup := List.nodup_singleton _
  mainLast := rfl
  started _ member := by rcases List.mem_singleton.mp member with ⟨⟩
  unended _ _ := rfl
  created := by rintro _ ⟨⟩

/-- An object wraps a coroutine of libco's since before the step, or `CreateCoro` makes it. -/
theorem made_by {label : Label} (taken : machine.step s label = .ok s') {coro : CoroPtr}
    (isCo : (s'.coro coro).innerCoro = .co coro) :
    (s.coro coro).innerCoro = .co coro ∨
      coro = s.coroCount ∧ ∃ entry args, label = .user (.createCoro entry args) := by
  have kept : s.issues label = none → (s.coro coro).innerCoro = .co coro := by
    intro none
    have stepped := State.step_registry taken
    rw [none] at stepped
    exact (congrFun stepped.innerCoro_of_none coro).symm.trans isCo
  cases label with
  | work choice => exact .inl (kept rfl)
  | user op =>
      cases op with
      | createCoro entry args =>
          simp only [machine, State.step] at taken
          split at taken
          next =>
            by_cases new : coro = s.coroCount
            · exact .inr ⟨new, entry, args, rfl⟩
            · cases taken
              left
              have same : (s.createCoro entry args).coro coro = s.coro coro :=
                Function.update_of_ne new ..
              rwa [same] at isCo
          next => cases taken
      | start =>
          simp only [machine, State.step] at taken
          split at taken
          next =>
            simp only [State.userStep, State.start] at taken
            split_ifs at taken <;> cases taken
            · exact .inl isCo
            · left
              -- The new object wraps the main coroutine.
              simp only [State.returns, State.setInner, State.newCoro, State.setCoro,
                State.genCoroId, Function.update_apply] at isCo
              split at isCo
              · cases isCo
              · exact isCo
          next => cases taken
      | _ => exact .inl (kept rfl)

/-! ## What is deleted -/

/-- The coroutines that a call is going to delete. -/
def Frame.dooms : Frame → List CoroPtr
  | .recycle pending => pending
  | .destroy coro => [coro]
  | _ => []

/-- The entry function of the coroutine has returned. -/
structure Gone (s : State) (coro : CoroPtr) : Prop where
  created : coro < s.coroCount
  finished : Finished s coro

/-- Only coroutines that have ended wait for their deletion. -/
structure Doomed (s : State) : Prop where
  waiting : ∀ coroId coro, s.waitingForRecycleCoros.find coroId = some coro → Gone s coro
  frames : ∀ co, ∀ frame ∈ s.frames co, ∀ coro ∈ frame.dooms, Gone s coro

namespace State

variable {self : Co} {rest : List Frame}

/-- What a call is going to delete is taken over from the call that made it, or is in the map
that `Update` clears. -/
theorem runFrame_dooms {choice : Choice} {frame : Frame}
    (taken : s.runFrame choice self rest frame = .ok s') {call : Frame}
    (member : call ∈ s'.frames self) {coro : CoroPtr} (dooms : coro ∈ call.dooms) :
    (∃ old ∈ frame :: rest, coro ∈ old.dooms) ∨ coro ∈ s.waitingForRecycleCoros.values := by
  have below : call ∈ rest → ∃ old ∈ frame :: rest, coro ∈ old.dooms := fun old =>
    ⟨call, List.mem_cons_of_mem _ old, dooms⟩
  cases frame with
  | updateRecycle =>
      cases taken
      simp only [updateRecycle] at member
      split at member
      · exact .inl (below (by simpa [goto] using member))
      · simp only [goto, record, Function.update_self, List.mem_cons] at member
        rcases member with rfl | old
        · exact .inr dooms
        · exact .inl (below old)
  | recycle pending =>
      cases taken
      refine .inl ?_
      cases pending with
      | nil => exact below (by simpa [recycle, goto] using member)
      | cons first pending =>
          have taken : call = .timerCancel first ∨ call = .destroy first ∨
              call = .recycle pending ∨ call ∈ rest := by
            simp only [recycle] at member
            split at member
            · simpa [goto, record] using member
            · exact .inr (by simpa [goto, record] using member)
          rcases taken with rfl | rfl | rfl | old
          · cases dooms
          · refine ⟨_, List.mem_cons_self, ?_⟩
            rw [List.mem_singleton.mp dooms]
            exact List.mem_cons_self
          · exact ⟨_, List.mem_cons_self, List.mem_cons_of_mem _ dooms⟩
          · exact below old
  | _ =>
      -- The other frames make no call that deletes.
      have harmless : ∀ call ∈ s'.frames self, call ∈ rest ∨ call.dooms = [] := by
        simp only [runFrame, resume, timerCancel, onCoroCancel, schedCancelRet, cancel,
          timerSchedule, yieldRet, schedUpdate, schedLoop, onCoroTimeout, schedUpdateRet,
          destroy, destroyTimer, coResume, yieldSuspend, coYield, stopLoop] at taken
        repeat' split at taken
        all_goals cases taken <;> simp +contextual [goto, Frame.dooms]
      rcases harmless call member with old | none
      · exact .inl (below old)
      · rw [none] at dooms
        cases dooms

/-- User code asks for no deletion itself. -/
theorem userStep_dooms {op : Op} (userRuns : s.UserRuns)
    (taken : s.userStep s.coSelf op = .ok s') : ∀ call ∈ s'.frames s.coSelf, call.dooms = [] := by
  have none : ∀ call ∈ s.frames s.coSelf, call.dooms = [] := by
    rw [userRuns]
    exact fun _ member => by cases member
  cases op with
  | entryReturn =>
      simp only [userStep, entryReturn] at taken
      split at taken
      · cases taken
      · obtain ⟨_, _, _, _, rfl⟩ := coYield_cases taken
        simp only [setInner, record, maskWillRecycle]
        split <;> exact none
  | _ =>
      simp only [userStep, start, setEntry, setArgs, coroYield, withCoro] at taken
      repeat' split at taken
      all_goals cases taken <;> first | exact none | simp [goto, Frame.dooms]

end State

/-- What a call is about to delete was waiting for that. -/
theorem step_dooms {label : Label} (taken : machine.step s label = .ok s') {co : Co}
    {call : Frame} (member : call ∈ s'.frames co) {coro : CoroPtr} (dooms : coro ∈ call.dooms) :
    (∃ old ∈ s.frames co, coro ∈ old.dooms) ∨ coro ∈ s.waitingForRecycleCoros.values := by
  by_cases self : co = s.coSelf
  · subst self
    cases label with
    | user op =>
        simp only [machine, State.step] at taken
        split at taken
        next userRuns =>
          rw [State.userStep_dooms userRuns taken call member] at dooms
          cases dooms
        next => cases taken
    | work choice =>
        simp only [machine, State.step] at taken
        split at taken
        next => cases taken
        next frame rest at_ =>
          rw [at_]
          exact State.runFrame_dooms taken member dooms
  · rw [step_frames taken self] at member
    exact .inl ⟨call, member, dooms⟩

/-- The map that `Update` clears only gets the coroutine that ends. -/
theorem Registry.Step.waiting_cases {r r' : Registry} {issued : Option Int}
    (taken : r.Step issued r') {coroId : Int} {coro : CoroPtr}
    (found : r'.waiting.find coroId = some coro) :
    r.waiting.find coroId = some coro ∨ .co coro ∈ r.callStack ∧ r'.cEnd (.co coro) = true := by
  cases taken with
  | clear => cases found
  | @finish ended below rest stack =>
      simp only [Registry.finish] at found
      split at found
      next => exact .inl found
      next absent =>
        rw [OrdMap.find_emplace, Option.not_isSome_iff_eq_none.mp absent, Option.getD_none] at found
        split at found
        · cases found
          refine .inr ⟨stack ▸ List.mem_cons_self, ?_⟩
          rw [finish_cEnd, Function.update_self]
        · exact .inl found
  | _ => exact .inl found

/-- What has ended stays so. -/
theorem Gone.step {label : Label} {coro : CoroPtr} (gone : Gone s coro) (stacked : Stacked s)
    (taken : machine.step s label = .ok s') : Gone s' coro where
  created := Nat.lt_of_lt_of_le gone.created (stacked.grounded.step (State.step_registry taken)).2
  finished := (State.step_registry taken).cEnd_kept gone.created gone.finished

/-- The coroutine has ended. -/
def Over (s : State) (co : Co) : Prop := ∃ coro, co = .co coro ∧ Gone s coro

theorem Over.step {label : Label} {co : Co} (ended : Over s co) (stacked : Stacked s)
    (taken : machine.step s label = .ok s') : Over s' co :=
  ended.imp fun _ ⟨isCo, gone⟩ => ⟨isCo, gone.step stacked taken⟩

/-- What is on the call stack has not ended. -/
theorem Stacked.not_over (stacked : Stacked s) {co : Co} (member : co ∈ s.callStack) :
    ¬ Over s co := by
  rintro ⟨coro, rfl, gone⟩
  have unended := stacked.unended _ member
  rw [gone.finished] at unended
  cases unended

/-- Every step keeps this. -/
theorem Doomed.step {label : Label} (doomed : Doomed s) (stacked : Stacked s)
    (taken : machine.step s label = .ok s') : Doomed s' where
  waiting coroId coro found := by
    rcases (State.step_registry taken).waiting_cases found with before | ⟨member, ended⟩
    · exact (doomed.waiting coroId coro before).step stacked taken
    · have created := stacked.grounded.stacked coro member
      have more := (stacked.grounded.step (State.step_registry taken)).2
      exact ⟨Nat.lt_of_lt_of_le created more, ended⟩
  frames co call member coro dooms := by
    rcases step_dooms taken member dooms with ⟨old, before, dooms⟩ | waiting
    · exact (doomed.frames co old before coro dooms).step stacked taken
    · obtain ⟨coroId, found⟩ := (OrdMap.mem_values_iff _ _).mp waiting
      exact (doomed.waiting coroId coro found).step stacked taken

theorem doomed_init (env : Bool) : Doomed (State.init env) where
  waiting _ _ found := by cases found
  frames _ _ member := by cases member

end LibcoRpc.CoroMgr
