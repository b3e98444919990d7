import LibcoRpc.CoroMgr.Chronicle
import LibcoRpc.CoroMgr.Clock

/-!
# What the history of a run shows

Whenever user code runs, the automaton of every coroutine has accepted the history, so
the laws of `Chronicle` hold of it: how suspensions end and what `Yield` reports, and how
coroutines finish and are deleted.
-/

namespace LibcoRpc.CoroMgr

open LibcoRpc.Std

variable {s : State}

/-! ## Outcomes of `Yield` -/

/-- What `Yield` returned describes the event that ended its suspension and no other. -/
structure Describes (events : List Event) (coro : CoroPtr) (times : Nat) (result : Int)
    (timeouted cancelled : Bool) (passData : Variant) : Prop where
  explicit : ∀ data,
    (result = llbcOk ∧ timeouted = false ∧ cancelled = false ∧ passData = data ↔
      .ended coro times .explicit data ∈ events)
  expiry : result = llbcFailed ∧ timeouted = true ∧ cancelled = false ∧ passData = .nil ↔
    .fired coro times ∈ events
  cancel : result = llbcFailed ∧ timeouted = false ∧ cancelled = true ∧ passData = .nil ↔
    ∃ data, .ended coro times .cancel data ∈ events

theorem Chronicle.describes {coro : CoroPtr} {events : List Event} {phase : Phase}
    (chronicle : Chronicle coro events phase) (notFiring : ∀ times, phase ≠ .firing times)
    {times : Nat} {result : Int} {timeouted cancelled : Bool} {passData : Variant}
    (returned : .yieldReturned coro times result timeouted cancelled passData ∈ events) :
    Describes events coro times result timeouted cancelled passData := by
  obtain ⟨cause, given, ended, outcome⟩ := chronicle.returned _ _ _ _ _ returned
  have unique : ∀ {why data}, Event.ended coro times why data ∈ events →
      why = cause ∧ data = given := fun endedToo => chronicle.ended_unique endedToo ended
  have fired_iff : .fired coro times ∈ events ↔ cause = .expiry := by
    constructor
    · intro fired
      rcases chronicle.fired times fired with firing | ⟨data, expired⟩
      · exact absurd firing (notFiring times)
      · exact (unique expired).1.symm
    · rintro rfl
      exact chronicle.expired times given ended
  cases cause with
  | explicit =>
      cases outcome
      refine ⟨fun data => ⟨?_, ?_⟩, by simp [fired_iff], ⟨by simp, ?_⟩⟩
      · rintro ⟨-, -, -, rfl⟩
        exact ended
      · intro endedToo
        exact ⟨rfl, rfl, rfl, (unique endedToo).2.symm⟩
      · rintro ⟨data, endedToo⟩
        cases (unique endedToo).1
  | expiry =>
      cases outcome
      refine ⟨fun data => ⟨by simp, ?_⟩, by simp [fired_iff], ⟨by simp, ?_⟩⟩
      · intro endedToo
        cases (unique endedToo).1
      · rintro ⟨data, endedToo⟩
        cases (unique endedToo).1
  | cancel =>
      cases outcome
      refine ⟨fun data => ⟨by simp, ?_⟩, by simp [fired_iff], ⟨fun _ => ⟨given, ended⟩, by simp⟩⟩
      intro endedToo
      cases (unique endedToo).1

theorem Core.not_firing (core : Core s) {coro : CoroPtr} {phase : Phase}
    (lives : life coro s.events = some phase) (times : Nat) : phase ≠ .firing times := by
  obtain ⟨stood, livesToo, stands⟩ := core.stands coro (by simp)
  rw [lives] at livesToo
  cases livesToo
  rintro rfl
  exact stands.elim

/-- In every timely run each suspension is ended by at most one event, and every
`Yield` that has returned has reported that event. -/
theorem yield_reports_its_end {env : Bool} (run : machine.Run Timely (State.init env) s)
    (userRuns : s.UserRuns) (coro : CoroPtr) (times : Nat) :
    s.events.countP (Event.ends coro times) ≤ 1 ∧
    ∀ result timeouted cancelled passData,
      .yieldReturned coro times result timeouted cancelled passData ∈ s.events →
        Describes s.events coro times result timeouted cancelled passData := by
  have core := core_of_run (disciplined_of_timely run) userRuns
  obtain ⟨phase, lives, _⟩ := core.stands coro (by simp)
  have chronicle := Chronicle.of_life lives
  exact ⟨chronicle.once times, fun _ _ _ _ returned =>
    chronicle.describes (core.not_firing lives) returned⟩

/-- A coroutine that has been cancelled yields again and is resumed with a value. -/
def resumedLater : List Label :=
  List.flatten [cancelledAt 1000, [.user (.coroResume 0 (.value [7]))], works 6 2000]

theorem yield_reports_resume :
    let s := (timelyReplay resumedLater).get (by decide +kernel)
    .ended 0 2 .explicit (.value [7]) ∈ s.events :=
  (((yield_reports_its_end (run_of_timelyReplay (Option.some_get _).symm)
    (by decide +kernel) 0 2).2 llbcOk false false (.value [7]) (by decide +kernel)).explicit
      (.value [7])).mp ⟨rfl, rfl, rfl, rfl⟩

/-- After the clock has been set back, coroutine 0 yields for 8 s, and an `Update` after 5 s
fires the record of its `Yield` before. -/
def wakesEarly : List Label :=
  List.flatten
    [setBack, [.user (.yield 8000000)], works 4 0,
      [.user .update, .work ⟨5000, 0⟩, .work ⟨5000, 2⟩], works 6 5000]

/-- `Yield` returns with both flags set, after a timer of an earlier suspension has fired and
its handler has cancelled this one. -/
theorem yield_reports_both :
    ∃ s, carefulReplay wakesEarly = some s ∧ machine.Run Careful (State.init false) s ∧
      s.UserRuns ∧ .yieldReturned 0 3 llbcFailed true true .nil ∈ s.events ∧
      .fired 0 3 ∉ s.events ∧ ¬ Describes s.events 0 3 llbcFailed true true .nil := by
  refine ⟨(carefulReplay wakesEarly).get (by decide +kernel), (Option.some_get _).symm,
    run_of_carefulReplay (Option.some_get _).symm, by decide +kernel, by decide +kernel,
    by decide +kernel, fun describes => ?_⟩
  have onlyCancelled := describes.cancel.mpr ⟨.nil, by decide +kernel⟩
  cases onlyCancelled.2.1

/-! ## Finishing and deletion -/

/-- Where the manager keeps a coroutine. -/
inductive Place where
  | coros
  | waitingForRecycleCoros
  | deleted
deriving DecidableEq, Repr

/-- The coroutine is at a place. -/
def LiesAt (s : State) (coro : CoroPtr) : Place → Prop
  | .coros => coro ∈ s.coros.values
  | .waitingForRecycleCoros => coro ∈ s.waitingForRecycleCoros.values
  | .deleted => (s.coro coro).deleted = true

/-- A coroutine is at one place, the one its history says. -/
structure Placed (s : State) (coro : CoroPtr) : Prop where
  atOnePlace : ∃! place, LiesAt s coro place
  coros_iff : LiesAt s coro .coros ↔ .finished coro ∉ s.events
  waiting_iff : LiesAt s coro .waitingForRecycleCoros ↔
    .finished coro ∈ s.events ∧ .deleted coro ∉ s.events
  deleted_iff : LiesAt s coro .deleted ↔ .deleted coro ∈ s.events

/-- The history of finishing and deletion. -/
structure EndsOnce (coro : CoroPtr) (events : List Event) : Prop where
  finishedOnce : events.count (.finished coro) ≤ 1
  deletedOnce : events.count (.deleted coro) ≤ 1
  /-- One recycle phase begins between the two, no more and no less. -/
  inFirstRecycling : ∀ later between earlier,
    events = later ++ .deleted coro :: (between ++ .finished coro :: earlier) →
      between.count .recycling = 1
  /-- A recycle phase that has begun since the coroutine finished has deleted it. -/
  promptly : ∀ later earlier, events = later ++ .finished coro :: earlier →
    (.recycling ∈ later ↔ .deleted coro ∈ later)
  /-- `~Coro` does nothing that is recorded: in particular it resumes nothing. -/
  quietly : ∀ later earlier, events = later ++ .deleting coro :: earlier →
    ∃ newer, later = newer ++ [.deleted coro]

theorem endsOnce_of_life {coro : CoroPtr} {events : List Event} {phase : Phase}
    (lives : life coro events = some phase) (notDoomed : phase ≠ .doomed)
    (notDeleting : phase ≠ .deleting) : EndsOnce coro events where
  finishedOnce := count_le_one fun later earlier split =>
    (after_finished (split ▸ lives)).1
  deletedOnce := count_le_one fun later earlier split =>
    (after_deleted (split ▸ lives)).1
  inFirstRecycling later between earlier split := by
    obtain ⟨atDeletion, livesThen⟩ := life_earlier (split ▸ lives)
    rw [← List.cons_append] at livesThen
    cases (after_finished livesThen).2 with
    | deleted newer older same once _ gone =>
        cases newer with
        | nil =>
            cases same
            exact once
        | cons head newer =>
            cases same
            simp at gone
    | finished _ alive | doomed _ alive | deleting _ alive => simp at alive
  promptly later earlier split := by
    cases (after_finished (split ▸ lives)).2 with
    | finished kept alive => simp [kept, alive]
    | doomed => exact absurd rfl notDoomed
    | deleting => exact absurd rfl notDeleting
    | deleted newer older same once =>
        have recycled : .recycling ∈ older :=
          List.count_pos_iff.mp (by rw [once]; exact Nat.one_pos)
        simp [same, recycled]
  quietly later earlier split := after_deleting (split ▸ lives) notDeleting

/-- The history of a coroutine whose entry function has not returned says so. -/
theorem finished_not_mem {coro : CoroPtr} {events : List Event} {phase : Phase}
    (lives : life coro events = some phase)
    (notOver : ∀ later, ¬ Phase.Over coro later phase) :
    .finished coro ∉ events := by
  intro member
  obtain ⟨later, earlier, split⟩ := List.append_of_mem member
  exact notOver later (after_finished (split ▸ lives)).2

theorem deleted_not_mem {coro : CoroPtr} {events : List Event} {phase : Phase}
    (lives : life coro events = some phase) (kept : phase ≠ .deleted) :
    .deleted coro ∉ events := by
  intro member
  obtain ⟨later, earlier, split⟩ := List.append_of_mem member
  exact kept (after_deleted (split ▸ lives)).2

/-- Only a coroutine whose entry function has returned gets into the last phases. -/
theorem finished_mem {coro : CoroPtr} {events : List Event} {phase : Phase}
    (lives : life coro events = some phase)
    (past : phase = .finished ∨ phase = .doomed ∨ phase = .deleting ∨ phase = .deleted) :
    .finished coro ∈ events := by
  induction events generalizing phase with
  | nil =>
      cases lives
      simp at past
  | cons event earlier ih =>
      obtain ⟨before, livesBefore, moves | ⟨_, _, ⟨_, rfl⟩ | ⟨_, moved⟩⟩⟩ := life_cons_cases lives
      · cases moves with
        | finish => exact List.mem_cons_self
        | delete => exact List.mem_cons_of_mem _ (ih livesBefore (by simp))
        | deleted => exact List.mem_cons_of_mem _ (ih livesBefore (by simp))
        | create | start | suspend | fire | wake | expire | back => simp at past
      · exact List.mem_cons_of_mem _ (ih livesBefore past)
      · refine List.mem_cons_of_mem _ (ih livesBefore ?_)
        cases before with
        | finished | deleting | deleted => simp
        | doomed => cases moved
        | absent | fresh | running | suspended | firing | waking =>
            cases moved
            simp at past

theorem deleted_mem {coro : CoroPtr} {events : List Event}
    (lives : life coro events = some .deleted) : .deleted coro ∈ events := by
  induction events with
  | nil => cases lives
  | cons event earlier ih =>
      obtain ⟨before, livesBefore, moves | ⟨_, _, ⟨_, rfl⟩ | ⟨_, moved⟩⟩⟩ := life_cons_cases lives
      · cases moves
        exact List.mem_cons_self
      · exact List.mem_cons_of_mem _ (ih livesBefore)
      · cases before <;> cases moved
        exact List.mem_cons_of_mem _ (ih livesBefore)

/-- The second map holds a coroutine under its id or not at all. -/
theorem Core.waiting_mem_iff (core : Core s) (coro : CoroPtr) :
    coro ∈ s.waitingForRecycleCoros.values ↔ life coro s.events = some .finished := by
  rw [OrdMap.mem_values_iff]
  constructor
  · rintro ⟨coroId, found⟩
    exact ((core.waiting coroId coro).mp found).2
  · intro lives
    exact ⟨_, (core.waiting _ coro).mpr ⟨rfl, lives⟩⟩

/-- The first map holds the created coroutines whose entry function has not returned. -/
theorem Registry.Named.coros_mem_iff (named : s.registry.Named) {coro : CoroPtr}
    (created : Created s coro) : coro ∈ s.coros.values ↔ ¬ Finished s coro := by
  rw [OrdMap.mem_values_iff]
  constructor
  · rintro ⟨coroId, found⟩ finished
    have unfinished : (s.inner (.co coro)).cEnd = false :=
      named.corosUnfinished coroId coro found created.2
    rw [Finished, unfinished] at finished
    cases finished
  · intro unfinished
    exact ⟨_, named.registered coro created.2 (Bool.eq_false_iff.mpr unfinished)⟩

/-- What a phase says about the place of a coroutine is what the maps say. -/
theorem placed_of {coro : CoroPtr} (place : Place)
    (coros : coro ∈ s.coros.values ↔ place = .coros)
    (waiting : coro ∈ s.waitingForRecycleCoros.values ↔ place = .waitingForRecycleCoros)
    (deleted : (s.coro coro).deleted = true ↔ place = .deleted)
    (finishedEvent : .finished coro ∈ s.events ↔ place ≠ .coros)
    (deletedEvent : .deleted coro ∈ s.events ↔ place = .deleted) : Placed s coro where
  atOnePlace := by
    refine ⟨place, ?_, fun other lies => ?_⟩
    · cases place with
      | coros => exact coros.mpr rfl
      | waitingForRecycleCoros => exact waiting.mpr rfl
      | deleted => exact deleted.mpr rfl
    · cases other with
      | coros => exact (coros.mp lies).symm
      | waitingForRecycleCoros => exact (waiting.mp lies).symm
      | deleted => exact (deleted.mp lies).symm
  coros_iff := by rw [LiesAt, coros, finishedEvent, not_not]
  waiting_iff := by
    rw [LiesAt, waiting, finishedEvent, deletedEvent]
    cases place <;> simp
  deleted_iff := by rw [LiesAt, deleted, deletedEvent]

theorem Core.placed (core : Core s) (named : s.registry.Named) {coro : CoroPtr}
    (created : Created s coro) : Placed s coro := by
  have coros := named.coros_mem_iff created
  have waiting := core.waiting_mem_iff coro
  obtain ⟨phase, lives, stands⟩ := core.stands coro (by simp)
  rw [lives] at waiting
  have alive : ∀ {times}, (Dormant s coro times ∨ Running s coro times) →
      ¬ Finished s coro ∧ (s.coro coro).deleted = false := by
    rintro times (dormant | running)
    · exact ⟨dormant.unfinished, dormant.kept⟩
    · exact ⟨running.unfinished, running.kept⟩
  -- As long as the entry function has not returned, the first map holds the coroutine.
  have unfinishedCase : ∀ {times}, (Dormant s coro times ∨ Running s coro times) →
      (∀ later, ¬ Phase.Over coro later phase) → phase ≠ .finished → phase ≠ .deleted →
      Placed s coro := by
    intro times lively notOver notFinished notDeleted
    obtain ⟨unfinished, kept⟩ := alive lively
    refine placed_of .coros ?_ ?_ ?_ ?_ ?_
    · simp [coros, unfinished]
    · simp [waiting, notFinished]
    · simp [kept]
    · simp [finished_not_mem lives notOver]
    · simp [deleted_not_mem lives notDeleted]
  cases phase with
  | absent =>
      have isMain : (s.coro coro).innerCoro = .main := Unmade.innerCoro stands
      rw [created.2] at isMain
      cases isMain
  | fresh =>
      refine unfinishedCase (.inl (Fresh.toDormant stands)) (fun later past => ?_) (by simp)
        (by simp)
      cases past
  | suspended times =>
      refine unfinishedCase (.inl (Suspended.toDormant stands)) (fun later past => ?_) (by simp)
        (by simp)
      cases past
  | running times =>
      refine unfinishedCase (.inr stands) (fun later past => ?_) (by simp) (by simp)
      cases past
  | finished =>
      have ended : Ended s coro false := stands
      refine placed_of .waitingForRecycleCoros ?_ ?_ ?_ ?_ ?_
      · simp [coros, ended.finished]
      · simp [waiting]
      · simp [ended.kept]
      · simp [finished_mem lives (.inl rfl)]
      · simp [deleted_not_mem lives (by simp)]
  | deleted =>
      have ended : Ended s coro true := stands
      refine placed_of .deleted ?_ ?_ ?_ ?_ ?_
      · simp [coros, ended.finished]
      · simp [waiting]
      · simp [ended.kept]
      · simp [finished_mem lives (.inr (.inr (.inr rfl)))]
      · simp [deleted_mem lives]
  | doomed => exact absurd lives (core.noneDoomed coro)
  | firing | waking | deleting => exact stands.elim

/-- In every timely run, whenever user code runs, each coroutine that was created is in
exactly one of the two maps or deleted, it has moved on once when its entry function
returned and once in the first recycle phase after that, and `~Coro` has recorded nothing.
Whatever `Update` is about to delete has finished and is not on the call stack, and framework
code uses nothing that has been deleted. -/
theorem created_at_one_place {env : Bool} (run : machine.Run Timely (State.init env) s) :
    (s.UserRuns → ∀ coro, Created s coro → Placed s coro ∧ EndsOnce coro s.events) ∧
    (∀ coro pending rest, s.frames s.coSelf = .recycle (coro :: pending) :: rest →
      Finished s coro ∧ (s.coro coro).yielded = false ∧ .co coro ∉ s.callStack ∧
        (s.coro coro).deleted = false) ∧
    ∀ label fault, Timely s label → machine.step s label = .error fault → MayEnd label fault := by
  have disciplined := disciplined_of_timely run
  obtain ⟨settled, named⟩ := settled_of_run disciplined
  refine ⟨?_, ?_, fun _ _ => mayEnd_of_run run⟩
  · intro userRuns coro created
    have core := core_of_run disciplined userRuns
    refine ⟨core.placed named created, ?_⟩
    obtain ⟨phase, lives, stands⟩ := core.stands coro (by simp)
    refine endsOnce_of_life lives ?_ ?_
    · rintro rfl
      exact core.noneDoomed coro lives
    · rintro rfl
      exact stands.elim
  · intro coro pending rest frames
    have ended := (settled.along (not_resting frames rfl)).deletesEnded coro pending rest frames
    exact ⟨ended.finished, ended.yielded, ended.offStack, ended.kept⟩

/-- A coroutine that has been cancelled and has yielded again finishes when it is resumed;
the next `Update` deletes it. -/
def finishesLater : List Label :=
  List.flatten
    [cancelledAt 1000, [.user (.coroResume 0 .nil)], works 6 2000, [.user .entryReturn],
      works 1 2000, [.user .update, .work ⟨2000, 0⟩, .work ⟨2000, 2⟩], works 6 2000]

theorem created_at_one_place_of_update :
    let s := (timelyReplay finishesLater).get (by decide +kernel)
    LiesAt s 0 .deleted ∧ ∃! place, LiesAt s 0 place :=
  have placed := ((created_at_one_place (run_of_timelyReplay (Option.some_get _).symm)).1
    (by decide +kernel) 0 (by decide +kernel)).1
  ⟨placed.deleted_iff.mpr (by decide +kernel), placed.atOnePlace⟩

/-- After the clock has been set back, coroutine 0 finishes and the main coroutine calls
`Update` at 1 s and at 6 s. -/
def updatesAfterFinish : List Label :=
  List.flatten
    [setBack, [.user .entryReturn], works 1 1000,
      [.user .update, .work ⟨1000, 0⟩, .work ⟨1000, 2⟩], works 4 1000,
      [.user .update, .work ⟨6000, 0⟩, .work ⟨6000, 2⟩]]

/-- `Update` calls the timeout handler of a coroutine that it has deleted before. -/
theorem deleted_coroutine_used :
    ∃ s, carefulReplay updatesAfterFinish = some s ∧ machine.Run Careful (State.init false) s ∧
      LiesAt s 0 .deleted ∧ (s.frames .main).head? = some (.onCoroTimeout 0) ∧
      Careful s (.work ⟨6000, 0⟩) ∧ machine.step s (.work ⟨6000, 0⟩) = .error .danglingCoro ∧
      ¬ MayEnd (.work ⟨6000, 0⟩) .danglingCoro :=
  ⟨(carefulReplay updatesAfterFinish).get (by decide +kernel), (Option.some_get _).symm,
    run_of_carefulReplay (Option.some_get _).symm,
    (by decide +kernel : Coro.deleted _ = true), by decide +kernel, by decide +kernel,
    Machine.step_of_fault (by decide +kernel), fun ends => by cases ends⟩

end LibcoRpc.CoroMgr
