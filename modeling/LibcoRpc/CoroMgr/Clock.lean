import LibcoRpc.CoroMgr.Change
import LibcoRpc.CoroMgr.Settle

/-!
# Brief timeouts, and a clock that is not set back

`LLBC_TimerScheduler::Cancel` compares the time until a record is due with ten days. It
reads the clock for that, so no bound on the timeouts alone keeps a record below the
threshold: `Careful` runs, in which callers see to new ids and to timeouts below ten days,
need not be `Disciplined`. `Timely` says what else it takes, in terms of the state before
each step: when `Cancel` makes its comparison, the clock is not behind the reading with
which the record was armed, and the record has not been deleted meanwhile. Then every run
is disciplined (`disciplined_of_timely`).
-/

namespace LibcoRpc.CoroMgr

variable {s s' : State} {label : Label} {coro : CoroPtr} {dueTime : Int}

/-! ## Conditions on a step -/

/-- The timeout that user code hands to `Yield`. -/
def Op.yieldTimeout : Op → Option Int
  | .yield timeout => some timeout
  | .coroYield _ timeout => some timeout
  | _ => none

/-- A `Yield` asks for less than ten days. -/
def BriefYield : Label → Prop
  | .user op => ∀ timeout, op.yieldTimeout = some timeout → actualTimeout timeout < longTimeoutTime
  | .work _ => True

instance : (label : Label) → Decidable (BriefYield label)
  | .user op => inferInstanceAs (Decidable (∀ timeout, op.yieldTimeout = some timeout →
      actualTimeout timeout < longTimeoutTime))
  | .work _ => isTrue trivial

/-- When `LLBC_TimerScheduler::Cancel` makes its comparison, the clock is not behind the
reading with which the record was armed. -/
def ClockKept (s : State) : Label → Prop
  | .user _ => True
  | .work choice => ∀ data, s.compared = some data →
      (s.data data).handle - (s.data data).dueTime ≤ choice.now

instance (s : State) : (label : Label) → Decidable (ClockKept s label)
  | .user _ => isTrue trivial
  | .work choice => inferInstanceAs (Decidable (∀ data, s.compared = some data →
      (s.data data).handle - (s.data data).dueTime ≤ choice.now))

/-- The record with which `LLBC_TimerScheduler::Cancel` goes on is still there. The
coroutine that `Cancel` resumes can delete it: an `Update` drops the reference of the heap
and the next `Yield` that of the timer. -/
def RecordKept (s : State) : Prop := ∀ data, s.compared = some data → (s.data data).refCount ≠ 0

instance (s : State) : Decidable (RecordKept s) :=
  inferInstanceAs (Decidable (∀ data, s.compared = some data → (s.data data).refCount ≠ 0))

/-- What callers can see to: no id is issued twice and every `Yield` asks for less than
ten days. -/
structure Careful (s : State) (label : Label) : Prop where
  newId : TakesNewId s label
  brief : BriefYield label

instance (s : State) (label : Label) : Decidable (Careful s label) :=
  decidable_of_iff (TakesNewId s label ∧ BriefYield label)
    ⟨fun both => ⟨both.1, both.2⟩, fun careful => ⟨careful.1, careful.2⟩⟩

/-- Moreover the clock is not set back behind a timer that is being cancelled, and the
record of that timer is still there. -/
structure Timely (s : State) (label : Label) : Prop extends Careful s label where
  clockKept : ClockKept s label
  recordKept : RecordKept s

instance (s : State) (label : Label) : Decidable (Timely s label) :=
  decidable_of_iff (Careful s label ∧ ClockKept s label ∧ RecordKept s)
    ⟨fun all => { all.1 with clockKept := all.2.1, recordKept := all.2.2 },
      fun timely => ⟨timely.toCareful, timely.clockKept, timely.recordKept⟩⟩

/-! ## What becomes of a requested delay -/

/-- `Yield` schedules its timer for the timeout it is given. -/
theorem coroYield_scheduled {self : Co} {target : CoroPtr} {timeout : Int}
    (taken : s.coroYield self target timeout = .ok s')
    (member : .timerSchedule coro dueTime ∈ s'.frames self) :
    .timerSchedule coro dueTime ∈ s.frames self ∨ dueTime = actualTimeout timeout := by
  simp only [State.coroYield] at taken
  split at taken
  · cases taken
    exact .inl member
  · split at taken
    · cases taken
    · cases taken
    · split at taken
      · cases taken
        exact .inl member
      · split at taken
        · cases taken
          exact .inl member
        · cases taken
          have asked : coro = target ∧ dueTime = actualTimeout timeout := by
            simpa [State.goto] using member
          exact .inr asked.2

/-- No other operation schedules a timer. -/
theorem userStep_scheduled {op : Op} (taken : s.userStep s.coSelf op = .ok s')
    (member : .timerSchedule coro dueTime ∈ s'.frames s.coSelf) :
    .timerSchedule coro dueTime ∈ s.frames s.coSelf ∨
      ∃ timeout, op.yieldTimeout = some timeout ∧ dueTime = actualTimeout timeout := by
  cases op with
  | yield timeout =>
      simp only [State.userStep] at taken
      split at taken
      · cases taken
      · cases taken
      · exact (coroYield_scheduled taken member).imp_right fun asked => ⟨timeout, rfl, asked⟩
  | coroYield target timeout =>
      simp only [State.userStep] at taken
      split_ifs at taken
      exact (coroYield_scheduled taken member).imp_right fun asked => ⟨timeout, rfl, asked⟩
  | createCoro entry args =>
      cases taken
      exact .inl member
  | start =>
      simp only [State.userStep, State.start] at taken
      split_ifs at taken <;>
      · cases taken
        exact .inl member
  | setEntry target entry =>
      simp only [State.userStep, State.setEntry] at taken
      split_ifs at taken <;>
      · cases taken
        exact .inl member
  | setArgs target args =>
      simp only [State.userStep, State.setArgs] at taken
      split_ifs at taken <;>
      · cases taken
        exact .inl member
  | setPtrParam1 target param =>
      simp only [State.userStep] at taken
      split_ifs at taken
      cases taken
      exact .inl member
  | coroResume | coroCancel =>
      simp only [State.userStep] at taken
      split_ifs at taken
      cases taken
      simp [State.goto] at member
  | resume | cancel =>
      cases taken
      simp only [State.withCoro] at member
      split at member
      · exact .inl member
      · simp [State.goto] at member
  | update | stop =>
      cases taken
      simp [State.goto] at member
  | entryReturn =>
      simp only [State.userStep, State.entryReturn] at taken
      split at taken
      · cases taken
      · obtain ⟨_, _, _, _, rfl⟩ := State.coYield_cases taken
        refine .inl (?_ : .timerSchedule coro dueTime ∈ s.frames s.coSelf)
        simp only [State.maskWillRecycle] at member
        split at member <;> exact member

/-- Nor does code of the manager, of its own accord. -/
theorem runFrame_scheduled {choice : Choice} {frame : Frame} {rest : List Frame}
    (at_ : s.frames s.coSelf = frame :: rest)
    (taken : s.runFrame choice s.coSelf rest frame = .ok s')
    (member : .timerSchedule coro dueTime ∈ s'.frames s.coSelf) :
    .timerSchedule coro dueTime ∈ s.frames s.coSelf := by
  have below : ∀ {frame : Frame} {rest : List Frame}, s.frames s.coSelf = frame :: rest →
      .timerSchedule coro dueTime ∈ rest → .timerSchedule coro dueTime ∈ s.frames s.coSelf :=
    fun at_ old => at_ ▸ List.mem_cons_of_mem _ old
  have unmade : ∀ {frames : List Frame}, Mild frames → .timerSchedule coro dueTime ∉ frames :=
    fun mild made => by cases mild _ made
  cases runFrame_change at_ taken with
  | calm _ onward =>
      cases onward with
      | asked _ mild => exact absurd member (unmade mild)
      | asksResume _ _ next => simp [next] at member
      | on at_ next mild =>
          rw [next] at member
          exact below at_ ((List.mem_append.mp member).resolve_left (unmade mild))
      | cancels at_ _ next => exact below at_ (by simpa [next] using member)
  | resumed at_ _ _ _ _ _ _ _ next =>
      rw [next] at member
      split at member
      all_goals exact below at_ (by simpa using member)
  | switched at_ _ _ _ _ _ _ _ frames | suspends at_ _ _ _ _ _ _ _ frames =>
      exact below at_ (by simpa [frames] using member)
  | yields userRuns =>
      have none : s.frames s.coSelf = [] := userRuns
      simp [none] at at_
  | arms at_ _ _ _ _ _ _ _ next => exact below at_ (next ▸ member)
  | fires at_ _ _ _ _ _ _ _ _ next => exact below at_ (by simpa [next] using member)
  | rearms at_ _ _ _ _ _ _ _ _ next => exact below at_ (by simpa [next] using member)
  | makes _ _ _ _ _ _ _ _ _ frames | finishes _ _ _ _ _ _ _ _ frames => exact frames ▸ member

/-- A `Schedule` that is under way comes from a `Yield` of user code. -/
theorem step_scheduled (taken : machine.step s label = .ok s') {co : Co}
    (member : .timerSchedule coro dueTime ∈ s'.frames co) :
    .timerSchedule coro dueTime ∈ s.frames co ∨ ∃ op timeout, label = .user op ∧
      op.yieldTimeout = some timeout ∧ dueTime = actualTimeout timeout := by
  by_cases isSelf : co = s.coSelf
  · subst isSelf
    cases label with
    | user op =>
        rw [user_step (userRuns_of_step taken)] at taken
        rcases userStep_scheduled taken member with before | ⟨timeout, asked⟩
        · exact .inl before
        · exact .inr ⟨op, timeout, rfl, asked⟩
    | work choice =>
        simp only [machine, State.step] at taken
        split at taken
        next => cases taken
        next frame rest at_ => exact .inl (runFrame_scheduled at_ taken member)
  · rw [step_frames taken isSelf] at member
    exact .inl member

/-- A record's due time is what its `Schedule` was asked for. -/
theorem Change.dueTime_cases (change : Change s s') (data : DataPtr) :
    (s'.data data).dueTime = (s.data data).dueTime ∨
      ∃ coro, .timerSchedule coro (s'.data data).dueTime ∈ s.frames s.coSelf := by
  cases change with
  | calm calm => exact .inl (calm.records data).dueTime
  | resumed _ _ _ _ _ records | switched _ _ _ _ _ records
  | yields _ _ _ _ _ _ _ records | suspends _ _ _ _ _ records
  | makes _ _ _ _ _ _ records | finishes _ _ _ _ _ records => exact .inl (by rw [records])
  | fires _ _ _ _ _ _ records =>
      refine .inl ?_
      rw [records, Function.update_apply]
      split <;> simp_all
  | @rearms _ fired _ _ _ _ _ _ _ records _ _ _ dueTime =>
      by_cases same : data = fired
      · exact .inl (same ▸ dueTime)
      · exact .inl (by rw [records data same])
  | @arms target delay now rest at_ _ _ _ made records =>
      by_cases same : data = s.maxTimerId + 1
      · refine .inr ⟨target, ?_⟩
        rw [same, made, at_]
        exact List.mem_cons_self
      · exact .inl (records data same).dueTime

/-! ## Timely runs are disciplined -/

/-- No record and no `Schedule` under way is for ten days or more. -/
structure Brief (s : State) : Prop where
  scheduled : ∀ co coro dueTime, .timerSchedule coro dueTime ∈ s.frames co →
    dueTime < longTimeoutTime
  records : ∀ data, (s.data data).dueTime < longTimeoutTime

theorem brief_init (env : Bool) : Brief (State.init env) where
  scheduled _ _ _ member := by cases member
  records _ := (by decide : (0 : Int) < longTimeoutTime)

/-- Timeouts stay below ten days if those of user code are. -/
theorem Brief.step (brief : Brief s) (careful : BriefYield label)
    (taken : machine.step s label = .ok s') : Brief s' where
  scheduled co coro dueTime member := by
    rcases step_scheduled taken member with before | ⟨op, timeout, rfl, asked, rfl⟩
    · exact brief.scheduled co coro dueTime before
    · exact careful timeout asked
  records data := by
    rcases (step_change taken).dueTime_cases data with same | ⟨coro, scheduled⟩
    · exact same ▸ brief.records data
    · exact brief.scheduled s.coSelf coro _ scheduled

theorem Brief.work (brief : Brief s) {choice : Choice}
    (taken : machine.step s (.work choice) = .ok s') : Brief s' :=
  have asksNothing : BriefYield (.work choice) := trivial
  brief.step asksNothing taken

/-- A clock that is not behind the arming of a brief timer keeps its record below the
threshold of ten days. -/
theorem Timely.disciplined (brief : Brief s) (timely : Timely s label) : Disciplined s label where
  newId := timely.newId
  belowLongTimeout := by
    cases label with
    | user op => trivial
    | work choice =>
        intro data compared
        have armedBefore := timely.clockKept data compared
        have short := brief.records data
        omega

/-- From any state with brief timeouts, a timely run is disciplined. -/
theorem disciplined_of_timely_from {start : State} (brief : Brief start)
    (run : machine.Run Timely start s) : machine.Run Disciplined start s := by
  have briefRun := run.and_invariant Brief brief
    fun _ _ _ brief timely taken => brief.step timely.brief taken
  exact briefRun.mono fun _ _ both => both.1.disciplined both.2

/-- Every timely run is disciplined. -/
theorem disciplined_of_timely {env : Bool} (run : machine.Run Timely (State.init env) s) :
    machine.Run Disciplined (State.init env) s :=
  disciplined_of_timely_from (brief_init env) run

/-- In a timely run every timeout is below ten days. -/
theorem brief_of_run {env : Bool} (run : machine.Run Timely (State.init env) s) : Brief s :=
  run.invariant Brief (brief_init env) fun _ _ _ brief timely taken =>
    brief.step timely.brief taken

/-! ## Where a timely run can end -/

/-- Why a run may end: libco's call stack is full, `Stop` would go on from an erased entry,
or user code itself yields where no coroutine is registered or hands in the pointer of a
deleted coroutine. No other fault is among them: framework code uses no deleted coroutine
or record, resumes no coroutine that is on the call stack or has ended, and fails no
assertion. -/
inductive MayEnd : Label → Fault → Prop where
  | callStackOverflow (label : Label) : MayEnd label .callStackOverflow
  | iteratorInvalid (label : Label) : MayEnd label .iteratorInvalid
  | blocked (label : Label) : MayEnd label .blocked
  | caller (op : Op) {fault : Fault} (caller : CallerFault fault) : MayEnd (.user op) fault

/-- A deleted record is met in `Cancel`, after its handler, and nowhere else. -/
theorem runFrame_danglingTimerData {choice : Choice} {frame : Frame} {rest : List Frame}
    (failed : s.runFrame choice s.coSelf rest frame = .error .danglingTimerData) :
    ∃ coro data, frame = .schedCancelRet coro data ∧ (s.data data).refCount = 0 := by
  cases frame with
  | schedCancelRet coro data =>
      simp only [State.runFrame, State.schedCancelRet] at failed
      split at failed
      next gone => exact ⟨coro, data, rfl, gone⟩
      next =>
        split_ifs at failed
        cases failed
  | coResume coro =>
      simp only [State.runFrame, State.coResume] at failed
      split_ifs at failed <;> cases failed
  | yieldSuspend coro =>
      simp only [State.runFrame, State.yieldSuspend, State.coYield] at failed
      split at failed <;> cases failed
  | yieldRet coro times =>
      simp only [State.runFrame, State.yieldRet] at failed
      split_ifs at failed
      cases failed
  | schedLoop now =>
      simp only [State.runFrame, State.schedLoop] at failed
      split_ifs at failed
      cases failed
  | onCoroTimeout coro =>
      simp only [State.runFrame, State.onCoroTimeout] at failed
      split_ifs at failed
      cases failed
  | destroyTimer coro =>
      simp only [State.runFrame, State.destroyTimer] at failed
      split at failed <;> cases failed
  | stopLoop position =>
      cases position with
      | none => cases failed
      | some entry =>
          simp only [State.runFrame, State.stopLoop] at failed
          split_ifs at failed
          cases failed
  | _ => cases failed

/-- A record that is still there is not one that `Cancel` fails on. -/
theorem RecordKept.fault_ne {choice : Choice} {fault : Fault} (kept : RecordKept s)
    (failed : machine.step s (.work choice) = .error fault) : fault ≠ .danglingTimerData := by
  rintro rfl
  simp only [machine, State.step] at failed
  split at failed
  · cases failed
  next frame rest at_ =>
    obtain ⟨coro, data, rfl, gone⟩ := runFrame_danglingTimerData failed
    exact kept data (by simp [State.compared, at_]) gone

/-- The faults of a timely run. -/
theorem mayEnd_of_run {env : Bool} (run : machine.Run Timely (State.init env) s) {fault : Fault}
    (timely : Timely s label) (failed : machine.step s label = .error fault) :
    MayEnd label fault := by
  have ran := disciplined_of_timely run
  cases label with
  | user op =>
      simp only [machine, State.step] at failed
      split at failed
      · rcases userStep_fault (settled_of_run ran).2 failed with caller | rfl
        · exact .caller op caller
        · exact .blocked _
      · cases failed
        exact .blocked _
  | work choice =>
      have disciplined := timely.disciplined (brief_of_run run)
      rcases fault_of_run ran disciplined failed with tolerated | ⟨op, isUser, _⟩
      · rcases tolerated with rfl | rfl | rfl | rfl
        · exact .callStackOverflow _
        · exact absurd rfl (timely.recordKept.fault_ne failed)
        · exact .iteratorInvalid _
        · exact .blocked _
      · cases isUser

/-! ## Replays -/

/-- Feed labels to a new manager as long as they are timely. -/
def timelyReplay (labels : List Label) : Option State :=
  machine.replay (fun s label => decide (Timely s label)) (State.init false) labels

theorem run_of_timelyReplay {labels : List Label} (replayed : timelyReplay labels = some s) :
    machine.Run Timely (State.init false) s :=
  .of_replay (fun _ _ passes => of_decide_eq_true passes) replayed

/-- Feed labels to a new manager as long as its callers are careful. -/
def carefulReplay (labels : List Label) : Option State :=
  machine.replay (fun s label => decide (Careful s label)) (State.init false) labels

theorem run_of_carefulReplay {labels : List Label} (replayed : carefulReplay labels = some s) :
    machine.Run Careful (State.init false) s :=
  .of_replay (fun _ _ passes => of_decide_eq_true passes) replayed

/-- Coroutine 0 yields for just under ten days at clock 1000. The main coroutine cancels it
at clock `now`; it yields again, for 5 s, before `Cancel` goes on. If the clock has been set
back to 0, `Cancel` finds the cancelled record ten days ahead and forgets the record of the
timer, which is by now that of the second `Yield`. -/
def cancelledAt (now : Int) : List Label :=
  List.flatten
    [[.user (.createCoro 0 0), .user (.coroResume 0 .nil)], works 3 0,
      [.user (.yield 863999999000)], works 4 1000, [.user (.coroCancel 0)], works 6 now,
      [.user (.yield 0)], works 6 now]

/-- After the clock has been set back the main coroutine resumes coroutine 0 again, and
no one has cancelled the record of its second `Yield`. -/
def setBack : List Label :=
  List.flatten [cancelledAt 0, [.user (.coroResume 0 .nil)], works 4 0]

end LibcoRpc.CoroMgr
