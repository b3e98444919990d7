import LibcoRpc.CoroMgr.Expiry
import LibcoRpc.Timer.Scheduler

/-!
# Timeouts come in order

The scheduler calls timeout handlers in the order of the deadlines, across `Update`s, nested
ones included, as long as the clock does not go back: what is in the heap when a handler is
called is due no earlier than the record of this handler, and so is what is added later.
-/

namespace LibcoRpc.Timer

open LibcoRpc.CoroMgr

variable {s s' t t' : State} {label : Label} {data : DataPtr} {env : Bool}

/-- The clock does not show a time before `due`. -/
def NotBefore (due : Int) : Label → Prop
  | .user _ => True
  | .work choice => due ≤ choice.now

instance (due : Int) : (label : Label) → Decidable (NotBefore due label)
  | .user _ => isTrue trivial
  | .work choice => inferInstanceAs (Decidable (due ≤ choice.now))

/-- Where a call is in progress, the step goes on with it. -/
theorem work_of_step {frame : Frame} {rest : List Frame}
    (at_ : s.frames s.coSelf = frame :: rest) (taken : machine.step s label = .ok s') :
    ∃ choice, label = .work choice ∧ s.runFrame choice s.coSelf rest frame = .ok s' := by
  cases label with
  | user op => simp [machine, State.step, at_] at taken
  | work choice => exact ⟨choice, rfl, by simpa [machine, State.step, at_] using taken⟩

/-- Where a record that is in the heap after a step comes from. -/
inductive Enters (s s' : State) (label : Label) (data : DataPtr) : Prop where
  | kept (inHeap : data ∈ s.heap)
  | scheduled {coro : CoroPtr} {dueTime : Int} {rest : List Frame} {choice : Choice}
      (at_ : s.frames s.coSelf = .timerSchedule coro dueTime :: rest)
      (isLabel : label = .work choice) (made : data = s'.maxTimerId)
      (handle : (s'.data data).handle = choice.now + dueTime)
  | again {now : Int} {rest : List Frame}
      (at_ : s.frames s.coSelf = .schedUpdateRet now data :: rest)
      (validate : (s.data data).validate = true)

theorem enters_of_step (taken : machine.step s label = .ok s') (inHeap : data ∈ s'.heap) :
    Enters s s' label data := by
  by_cases plain : Plain s
  · rw [heap_of_plain plain taken] at inHeap
    exact .kept inHeap
  · simp only [Plain, not_forall] at plain
    obtain ⟨frame, rest, at_, uses⟩ := plain
    obtain ⟨choice, isLabel, ran⟩ := work_of_step at_ taken
    cases frame with
    | schedCancelRet coro target =>
        simp only [State.runFrame, schedCancelRet_eq] at ran
        split_ifs at ran
        all_goals cases ran
        · exact .kept inHeap
        · exact .kept (List.mem_of_mem_erase inHeap)
        · exact .kept (List.mem_of_mem_erase inHeap)
        · exact .kept inHeap
    | timerSchedule coro dueTime =>
        simp only [State.runFrame, timerSchedule_eq] at ran
        split_ifs at ran
        · cases ran
          exact .kept inHeap
        · cases ran
          rcases List.mem_cons.mp inHeap with rfl | old
          · obtain ⟨timers, _, handle, _⟩ := newTimerData_writes s coro dueTime choice.now
            exact .scheduled at_ isLabel timers.symm handle
          · exact .kept old
    | schedUpdate =>
        simp only [State.runFrame, State.schedUpdate] at ran
        split_ifs at ran
        all_goals
          cases ran
          exact .kept inHeap
    | schedLoop now =>
        simp only [State.runFrame, State.schedLoop] at ran
        split_ifs at ran
        all_goals cases ran
        · exact .kept inHeap
        · exact .kept inHeap
        · exact .kept (List.mem_of_mem_erase inHeap)
        · exact .kept (List.mem_of_mem_erase inHeap)
    | schedUpdateRet now target =>
        simp only [State.runFrame, State.schedUpdateRet] at ran
        split at ran
        next valid =>
          cases ran
          rcases List.mem_cons.mp inHeap with rfl | old
          · exact .again at_ valid
          · exact .kept old
        next =>
          cases ran
          exact .kept inHeap
    | _ => exact absurd rfl uses

/-! ## Delays are not negative -/

/-- No `Schedule` that is under way has been asked for a time in the past. -/
def Delays (s : State) : Prop :=
  ∀ co coro dueTime, .timerSchedule coro dueTime ∈ s.frames co → 0 ≤ dueTime

theorem actualTimeout_nonneg (timeout : Int) : 0 ≤ actualTimeout timeout := by
  unfold actualTimeout
  split
  · decide
  · exact Int.le_max_left ..

theorem Delays.step (delays : Delays s) (taken : machine.step s label = .ok s') : Delays s' := by
  intro co coro dueTime member
  rcases step_scheduled taken member with before | ⟨_, timeout, _, _, rfl⟩
  · exact delays co coro dueTime before
  · exact actualTimeout_nonneg timeout

theorem delays_of_run {Allowed : State → Label → Prop}
    (run : machine.Run Allowed (State.init env) s) : Delays s :=
  run.invariant Delays (fun _ _ _ member => by cases member)
    fun _ _ _ delays _ taken => delays.step taken

/-! ## The heap after a handler has been called -/

/-- In a disciplined run, a record enters the heap when it is made. -/
theorem enters_once (run : machine.Run Disciplined (State.init env) s)
    (taken : machine.step s label = .ok s') (inHeap : data ∈ s'.heap) :
    data ∈ s.heap ∨ data = s'.maxTimerId ∧ ∃ choice dueTime, label = .work choice ∧ 0 ≤ dueTime ∧
      (s'.data data).handle = choice.now + dueTime := by
  cases enters_of_step taken inHeap with
  | kept before => exact .inl before
  | @scheduled coro dueTime _ choice at_ isLabel made handle =>
      have nonneg := delays_of_run run s.coSelf coro dueTime (at_ ▸ List.mem_cons_self)
      exact .inr ⟨made, choice, dueTime, isLabel, nonneg, handle⟩
  | again at_ validate =>
      -- No handler leaves its record valid.
      have expiring := ((spent_of_run run _ _ data (at_ ▸ List.mem_cons_self)).2 validate).2
      rw [Expiring, innermost_of_cons at_] at expiring
      simp at expiring

theorem known_of_run (run : machine.Run Disciplined (State.init env) s) (inHeap : data ∈ s.heap) :
    data ≤ s.maxTimerId := by
  induction run with
  | start => cases inHeap
  | step prior _ taken ih =>
      rcases enters_once prior taken inHeap with before | ⟨made, _⟩
      · exact Nat.le_trans (ih before) (step_change taken).timers_le
      · exact Nat.le_of_eq made

/-- Everything in the heap is due at `due` or later. -/
def DueFrom (due : Int) (s : State) : Prop := ∀ data ∈ s.heap, due ≤ (s.data data).handle

theorem DueFrom.step {due : Int} (dueFrom : DueFrom due s)
    (run : machine.Run Disciplined (State.init env) s) (notBefore : NotBefore due label)
    (taken : machine.step s label = .ok s') : DueFrom due s' := by
  intro data inHeap
  rcases enters_once run taken inHeap with before | ⟨_, choice, dueTime, isLabel, nonneg, handle⟩
  · rw [(step_change taken).handle_kept (spent_of_run run) (known_of_run run before)]
    exact dueFrom data before
  · have reading : due ≤ choice.now := by
      rw [isLabel] at notBefore
      exact notBefore
    omega

end LibcoRpc.Timer
