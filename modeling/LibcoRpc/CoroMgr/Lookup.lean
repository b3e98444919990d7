import LibcoRpc.CoroMgr.Passage

/-!
# The current coroutine

`GetCurCoro` reads an id from the specific data of the running libco coroutine and looks it
up in `coros_`. For a coroutine that `CreateCoro` has made this finds its object. For the
main coroutine it does so once `Start` has registered it, and never before. The checks that
refuse an operation rest on this lookup: where it is right, a refused operation leaves the
manager as it was.
-/

namespace LibcoRpc.CoroMgr

open LibcoRpc.Std

variable {s s' : State} {label : Label} {coro : CoroPtr}

/-- `Start` has wrapped the main coroutine. -/
def Started (s : State) : Prop := ∃ coro < s.coroCount, (s.coro coro).innerCoro = .main

instance (s : State) : Decidable (Started s) :=
  inferInstanceAs (Decidable (∃ coro < s.coroCount, _))

/-! ## `co_self()` -/

/-- `CreateCoro` initialises libco, and `Start` needs it to be initialised. -/
theorem userStep_env {self : Co} {op : Op} (taken : s.userStep self op = .ok s') :
    s'.env = (s.env || (s.issues (.user op)).isSome) := by
  have same : s'.env = s.env → s'.env = (s.env || (none : Option Int).isSome) := by
    intro same
    rw [same, Option.isSome_none, Bool.or_false]
  cases op with
  | start =>
      simp only [State.userStep, State.start] at taken
      split_ifs at taken with noEnv notMain
      all_goals
        cases taken
        have env : s.env = true := by simpa using noEnv
        simp [State.returns, State.setInner, State.newCoro, State.setCoro, State.genCoroId, env]
  | createCoro entry args =>
      cases taken
      simp [State.createCoro, State.record, State.issues]
  | entryReturn => exact same (State.entryReturn_retains taken).2.1
  | _ => exact same (State.userStep_retains rfl taken).env

theorem step_env (taken : machine.step s label = .ok s') :
    s'.env = (s.env || (s.issues label).isSome) := by
  cases label with
  | user op =>
      simp only [machine, State.step] at taken
      split at taken
      next => exact userStep_env taken
      next => cases taken
  | work choice =>
      simp only [machine, State.step] at taken
      split at taken
      next => cases taken
      next frame rest at_ =>
        have same : s'.env = s.env := by
          by_cases resets : frame = .stopReset
          · subst resets
            cases taken
            rfl
          · exact (State.runFrame_retains resets taken).env
        simpa [State.issues] using same

/-! ## Registration of the main coroutine -/

/-- A step that makes an object takes an id for it. -/
theorem Registry.Step.coroCount {r r' : Registry} {issued : Option Int}
    (taken : r.Step issued r') : r'.coroCount = r.coroCount ∨ issued.isSome = true := by
  cases taken with
  | create | start => exact .inr rfl
  | finish =>
      simp only [Registry.finish]
      split <;> exact .inl rfl
  | _ => exact .inl rfl

/-- An object wraps the main coroutine. -/
def Registry.Wrapped (r : Registry) : Prop := ∃ coro < r.coroCount, r.innerCoro coro = .main

theorem Registry.Wrapped.register_iff {r : Registry} {inner : Co} {cEnd : Bool} :
    (r.register inner cEnd).Wrapped ↔ r.Wrapped ∨ inner = .main := by
  constructor
  · rintro ⟨coro, below, isMain⟩
    rcases Nat.lt_succ_iff_lt_or_eq.mp below with old | rfl
    · refine .inl ⟨coro, old, ?_⟩
      simpa [Registry.register, Function.update_of_ne (Nat.ne_of_lt old)] using isMain
    · exact .inr (by simpa [Registry.register] using isMain)
  · rintro (⟨coro, below, isMain⟩ | isMain)
    · refine ⟨coro, Nat.lt_succ_of_lt below, ?_⟩
      simpa [Registry.register, Function.update_of_ne (Nat.ne_of_lt below)] using isMain
    · exact ⟨r.coroCount, Nat.lt_succ_self _, by simpa [Registry.register] using isMain⟩

/-- The main coroutine carries an id if and only if an object wraps it. -/
theorem Registry.Step.wrapped {r r' : Registry} {issued : Option Int} (taken : r.Step issued r')
    (agree : r.Wrapped ↔ r.aSpec0 .main ≠ 0) : r'.Wrapped ↔ r'.aSpec0 .main ≠ 0 := by
  cases taken with
  | create =>
      rw [Registry.Wrapped.register_iff]
      simpa [Registry.register] using agree
  | start =>
      rw [Registry.Wrapped.register_iff]
      simp [Registry.register, nextCoroId, wrapInt32]
  | finish =>
      simp only [Registry.finish]
      split <;> exact agree
  | _ => exact agree

/-- What the lookup of the main coroutine depends on. -/
structure Introduced (s : State) : Prop where
  /-- Whoever has made an object has initialised libco. -/
  env : 0 < s.coroCount → s.env = true
  main : Started s ↔ (s.inner .main).aSpec0 ≠ 0

theorem Introduced.step (introduced : Introduced s) (taken : machine.step s label = .ok s') :
    Introduced s' where
  env some := by
    rw [step_env taken]
    rcases (State.step_registry taken).coroCount with same | issued
    · have same : s'.coroCount = s.coroCount := same
      rw [introduced.env (same ▸ some), Bool.true_or]
    · rw [issued, Bool.or_true]
  main := (State.step_registry taken).wrapped introduced.main

theorem introduced_of_run {Allowed : State → Label → Prop} {env : Bool}
    (run : machine.Run Allowed (State.init env) s) : Introduced s := by
  refine run.invariant Introduced ⟨?_, ?_⟩ fun _ _ _ introduced _ taken => introduced.step taken
  · intro some
    exact absurd some (Nat.lt_irrefl _)
  · constructor
    · rintro ⟨_, below, _⟩
      exact absurd below (Nat.not_lt_zero _)
    · intro carries
      exact absurd rfl carries

/-- `GetCurCoro` finds an object of the running coroutine, unless that is the main one and
`Start` has not wrapped it. -/
theorem Introduced.finds_iff (introduced : Introduced s) (named : s.registry.Named) :
    (∃ coro, s.getCurCoro = .ok (some coro) ∧ (s.coro coro).innerCoro = s.coSelf) ↔
      s.coSelf ≠ .main ∨ Started s := by
  constructor
  · rintro ⟨coro, found, inner⟩
    refine or_iff_not_imp_left.mpr fun isMain => ?_
    have isMain := Decidable.not_not.mp isMain
    exact ⟨coro, (named.corosKey _ coro (find_of_getCurCoro found)).1, inner.trans isMain⟩
  · intro known
    cases self : s.coSelf with
    | main =>
        have started : Started s := known.resolve_left (not_not.mpr self)
        have env := introduced.env (Nat.lt_of_le_of_lt (Nat.zero_le _) started.choose_spec.1)
        rcases named.mainSpec with zero | ⟨main, isMain, found⟩
        · exact absurd zero (introduced.main.mp started)
        · refine ⟨main, ?_, isMain⟩
          have found : s.coros.find (s.inner .main).aSpec0 = some main := found
          simp [State.getCurCoro, env, State.getCoro, self, found]
    | co running =>
        obtain ⟨rest, stack⟩ := named.callStack_cons
        have onStack : .co running ∈ s.callStack := by
          rw [stack, self]
          exact List.mem_cons_self
        obtain ⟨isCo, runs⟩ := named.onStack running onStack
        have env := introduced.env (Nat.lt_of_le_of_lt (Nat.zero_le _) (named.allocated _ isCo))
        have spec : (s.inner (.co running)).aSpec0 = (s.coro running).coroId :=
          named.spec running isCo
        have found : s.coros.find (s.coro running).coroId = some running :=
          named.registered running isCo runs
        exact ⟨running, by simp [State.getCurCoro, env, State.getCoro, self, spec, found], isCo⟩

/-! ## Refused operations -/

/-- A call that is to fail. -/
inductive Refused (s : State) : Op → Prop where
  | yieldSuspended {coro : CoroPtr} {timeout : Int} (live : s.live coro = true)
      (yielded : (s.coro coro).yielded = true) : Refused s (.coroYield coro timeout)
  | yieldOther {coro : CoroPtr} {timeout : Int} (live : s.live coro = true)
      (other : (s.coro coro).innerCoro ≠ s.coSelf) : Refused s (.coroYield coro timeout)
  | yieldMain {coro : CoroPtr} {timeout : Int} (live : s.live coro = true)
      (isMain : (s.coro coro).isMainCoro = true) : Refused s (.coroYield coro timeout)
  | mainYields {timeout : Int} (isMain : s.coSelf = .main) : Refused s (.yield timeout)
  | resume {coro : CoroPtr} {passData : Variant} (live : s.live coro = true)
      (notYielded : (s.coro coro).yielded = false) : Refused s (.coroResume coro passData)
  | cancel {coro : CoroPtr} (live : s.live coro = true)
      (notYielded : (s.coro coro).yielded = false) : Refused s (.coroCancel coro)
  | setEntry {coro : CoroPtr} {entry : Nat} (live : s.live coro = true)
      (resumed : (s.coro coro).resumeTimes ≠ 0) : Refused s (.setEntry coro entry)
  | setArgs {coro : CoroPtr} {args : Nat} (live : s.live coro = true)
      (resumed : (s.coro coro).resumeTimes ≠ 0) : Refused s (.setArgs coro args)
  | resumeId {coroId : Int} {passData : Variant}
      (notYielded : ∀ coro, s.getCoro coroId = some coro → (s.coro coro).yielded = false) :
      Refused s (.resume coroId passData)
  | cancelId {coroId : Int}
      (notYielded : ∀ coro, s.getCoro coroId = some coro → (s.coro coro).yielded = false) :
      Refused s (.cancel coroId)

/-- The call returns `LLBC_FAILED`, at once or when it has been entered, and the state is
otherwise as before. -/
def FailsCleanly (s : State) (op : Op) : Prop :=
  ∃ asked, machine.step s (.user op) = .ok asked ∧
    (asked = s.returns llbcFailed ∨
      ∀ choice, machine.step asked (.work choice) = .ok (s.returns llbcFailed))

/-- A call that fails as soon as it is entered. -/
theorem failsCleanly_of_entered {op : Op} {frame : Frame} (userRuns : s.UserRuns)
    (entered : s.userStep s.coSelf op = .ok (s.goto s.coSelf [frame]))
    (failed : ∀ choice (t : State), t.coro = s.coro →
      t.runFrame choice s.coSelf [] frame = .ok ((t.returns llbcFailed).goto s.coSelf [])) :
    FailsCleanly s op := by
  refine ⟨_, (user_step userRuns).trans entered, .inr fun choice => ?_⟩
  have none : s.frames s.coSelf = [] := userRuns
  have restored : Function.update s.frames s.coSelf [] = s.frames :=
    none ▸ Function.update_eq_self ..
  have at_ : (s.goto s.coSelf [frame]).frames (s.goto s.coSelf [frame]).coSelf = [frame] :=
    goto_frames ..
  rw [work_step at_ choice]
  refine (failed choice (s.goto s.coSelf [frame]) rfl).trans ?_
  simp [State.goto, State.returns, restored]

theorem failsCleanly_resume {op : Op} {passData : Variant} (userRuns : s.UserRuns)
    (entered : s.userStep s.coSelf op = .ok (s.goto s.coSelf [.resume coro passData .explicit]))
    (notYielded : (s.coro coro).yielded = false) : FailsCleanly s op :=
  failsCleanly_of_entered userRuns entered fun choice t same => by
    simp [State.runFrame, State.resume, same, notYielded]

theorem failsCleanly_cancel {op : Op} (userRuns : s.UserRuns)
    (entered : s.userStep s.coSelf op = .ok (s.goto s.coSelf [.cancel coro]))
    (notYielded : (s.coro coro).yielded = false) : FailsCleanly s op :=
  failsCleanly_of_entered userRuns entered fun choice t same => by
    simp [State.runFrame, State.cancel, same, notYielded]

/-- A `Yield` of an object that is not the running coroutine's, or is the main one's, fails
where the lookup is right. -/
theorem coroYield_refused {timeout : Int} {current : CoroPtr}
    (found : s.getCurCoro = .ok (some current))
    (inner : (s.coro current).innerCoro = s.coSelf)
    (refused : (s.coro coro).innerCoro ≠ s.coSelf ∨ (s.coro coro).isMainCoro = true) :
    s.coroYield s.coSelf coro timeout = .ok (s.returns llbcFailed) := by
  simp only [State.coroYield, found]
  split
  · rfl
  · split
    · rfl
    next same =>
      have same : coro = current := Decidable.not_not.mp same
      have isMain := refused.resolve_left (by rw [same, inner]; simp)
      rw [if_pos isMain]

/-- In a run that takes only free ids, and after `Start`, every call that is to be refused
returns `LLBC_FAILED` and leaves everything as it was. -/
theorem refused_changes_nothing {env : Bool} {op : Op}
    (run : machine.Run TakesFreeId (State.init env) s) (started : Started s)
    (userRuns : s.UserRuns) (refused : Refused s op) : FailsCleanly s op := by
  have introduced := introduced_of_run run
  obtain ⟨current, found, inner⟩ := (introduced.finds_iff (named_of_run run)).mpr (.inr started)
  have atOnce : s.userStep s.coSelf op = .ok (s.returns llbcFailed) → FailsCleanly s op :=
    fun failed => ⟨_, (user_step userRuns).trans failed, .inl rfl⟩
  cases refused with
  | yieldSuspended live yielded =>
      refine atOnce ?_
      simp [State.userStep, live, State.coroYield, yielded]
  | yieldOther live other =>
      refine atOnce ?_
      simpa [State.userStep, live] using coroYield_refused found inner (.inl other)
  | yieldMain live isMain =>
      refine atOnce ?_
      simpa [State.userStep, live] using coroYield_refused found inner (.inr isMain)
  | mainYields isMain =>
      refine atOnce ?_
      have wrapper : (s.coro current).isMainCoro = true := by
        simp [Coro.isMainCoro, inner, isMain]
      simpa [State.userStep, found] using coroYield_refused found inner (.inr wrapper)
  | resume live notYielded =>
      exact failsCleanly_resume userRuns (if_pos live) notYielded
  | cancel live notYielded =>
      exact failsCleanly_cancel userRuns (if_pos live) notYielded
  | setEntry live resumed =>
      refine atOnce ?_
      simp [State.userStep, live, State.setEntry, resumed]
  | setArgs live resumed =>
      refine atOnce ?_
      simp [State.userStep, live, State.setArgs, resumed]
  | @resumeId coroId passData notYielded =>
      cases lookup : s.getCoro coroId with
      | none => exact atOnce (by simp [State.userStep, State.withCoro, lookup])
      | some coro =>
          have entered : s.userStep s.coSelf (.resume coroId passData) =
              .ok (s.goto s.coSelf [.resume coro passData .explicit]) := by
            simp [State.userStep, State.withCoro, lookup]
          exact failsCleanly_resume userRuns entered (notYielded coro lookup)
  | @cancelId coroId notYielded =>
      cases lookup : s.getCoro coroId with
      | none => exact atOnce (by simp [State.userStep, State.withCoro, lookup])
      | some coro =>
          have entered : s.userStep s.coSelf (.cancel coroId) =
              .ok (s.goto s.coSelf [.cancel coro]) := by
            simp [State.userStep, State.withCoro, lookup]
          exact failsCleanly_cancel userRuns entered (notYielded coro lookup)

/-- Inside a coroutine, `Yield` of the main one is refused. -/
theorem yield_of_main_refused :
    let s := (machine.replay (fun s label => decide (TakesFreeId s label)) (State.init true)
      [.user .start, .user (.createCoro 0 0), .user (.resume 2 .nil), .work ⟨0, 0⟩, .work ⟨0, 0⟩,
        .work ⟨0, 0⟩]).get (by decide +kernel)
    s.coSelf = .co 1 ∧ FailsCleanly s (.coroYield 0 0) := by
  intro s
  exact ⟨by decide +kernel, refused_changes_nothing
    (.of_replay (fun _ _ passes => of_decide_eq_true passes) (Option.some_get _).symm)
    (by decide +kernel) (by decide +kernel) (.yieldOther (by decide +kernel) (by decide +kernel))⟩

/-- `Stop` resets the counter although the main coroutine stays registered, so the next
coroutine takes its id; when that coroutine finishes, the entry of the main one is erased.
`Yield` of the main coroutine, called from it, then looks it up and uses the null pointer. -/
theorem yield_of_main_after_stop :
    let s := (machine.replay (fun _ _ => true) (State.init true)
      [.user .start, .user .stop, .work ⟨0, 0⟩, .work ⟨0, 0⟩, .work ⟨0, 0⟩, .work ⟨0, 0⟩,
        .work ⟨0, 0⟩, .user (.createCoro 0 0), .user (.coroResume 1 .nil), .work ⟨0, 0⟩,
        .work ⟨0, 0⟩, .work ⟨0, 0⟩, .user .entryReturn, .work ⟨0, 0⟩]).get (by decide +kernel)
    Started s ∧ s.UserRuns ∧ Refused s (.coroYield 0 0) ∧ ¬ FailsCleanly s (.coroYield 0 0) := by
  intro s
  refine ⟨by decide +kernel, by decide +kernel,
    .yieldMain (by decide +kernel) (by decide +kernel), ?_⟩
  rintro ⟨asked, entered, _⟩
  have fault : machine.fault s [.user (.coroYield 0 0)] = some .nullDeref := by decide +kernel
  simp [Machine.fault, entered] at fault

end LibcoRpc.CoroMgr
