import LibcoRpc.CoroMgr.Invariant

/-!
# Disciplined runs and what framework code settles to

The runs the invariant is proved for: no id is issued twice, and no record is due ten days
or more after the clock that `LLBC_TimerScheduler::Cancel` reads when it compares the two.
That comparison is made at run time, with a clock that may have been set back since the
record was armed; which timeouts and which clocks keep it is said in `CoroMgr.Clock`.
`Settled` says that framework code, whatever the clock and the heap do meanwhile, comes to
a resting state with the invariant `Core`; `settled_work` and `settled_to` are its rules
for one step.
-/

namespace LibcoRpc.CoroMgr

/-! ## The discipline of a run -/

/-- A step takes an id only if `GenCoroId` has never returned it before. -/
def TakesNewId (s : State) (label : Label) : Prop :=
  ∀ coroId, s.issues label = some coroId → coroId ∉ s.issued

instance (s : State) (label : Label) : Decidable (TakesNewId s label) :=
  inferInstanceAs (Decidable (∀ coroId, s.issues label = some coroId → coroId ∉ s.issued))

/-- The record that `LLBC_TimerScheduler::Cancel` is about to compare with the
long-timeout threshold. -/
def State.compared (s : State) : Option DataPtr :=
  match s.frames s.coSelf with
  | .schedCancelRet _ data :: _ => some data
  | _ => none

/-- When `LLBC_TimerScheduler::Cancel` compares a record with the long-timeout
threshold, the record is due earlier than that. This is the comparison `Cancel` makes, not
a bound on timeouts: it depends on the clock at that moment. -/
def BelowLongTimeout (s : State) : Label → Prop
  | .user _ => True
  | .work choice =>
      ∀ data, s.compared = some data → (s.data data).handle - choice.now < longTimeoutTime

instance (s : State) : (label : Label) → Decidable (BelowLongTimeout s label)
  | .user _ => isTrue trivial
  | .work choice => inferInstanceAs (Decidable (∀ data, s.compared = some data →
      (s.data data).handle - choice.now < longTimeoutTime))

/-- Ids are not reused, and `LLBC_TimerScheduler::Cancel` never finds a record that is due
later than the long-timeout threshold. -/
structure Disciplined (s : State) (label : Label) : Prop where
  newId : TakesNewId s label
  belowLongTimeout : BelowLongTimeout s label

instance (s : State) (label : Label) : Decidable (Disciplined s label) :=
  decidable_of_iff (TakesNewId s label ∧ BelowLongTimeout s label)
    ⟨fun both => ⟨both.1, both.2⟩, fun disciplined => ⟨disciplined.1, disciplined.2⟩⟩

/-- A disciplined step from a state whose names are in order. -/
structure Governed (s : State) (label : Label) : Prop extends Disciplined s label where
  named : s.registry.Named

/-- Faults that framework code can meet: libco's call stack is full, an `Update` inside
a cancelled coroutine has deleted the record its `Cancel` goes on with, or the entry that
`Stop` would go on from is gone. `blocked` is not a fault of the code. -/
def Tolerated (fault : Fault) : Prop :=
  fault = .callStackOverflow ∨ fault = .danglingTimerData ∨ fault = .iteratorInvalid ∨
    fault = .blocked

/-- The object that `RecycleContainer` deletes next belongs to a coroutine that has
ended. -/
def DeletesEnded (s : State) : Prop :=
  ∀ coro pending rest, s.frames s.coSelf = .recycle (coro :: pending) :: rest →
    Ended s coro false

/-- Where a timeout handler has come to its `Resume`, the timeout flag of the coroutine is
set. -/
def ExpiresFlagged (s : State) : Prop :=
  ∀ coro passData rest, s.frames s.coSelf = .resume coro passData .expiry :: rest →
    (s.coro coro).timeouted = true

/-- What holds of the states that framework code passes. -/
structure OnTheWay (s : State) : Prop where
  deletesEnded : DeletesEnded s
  expiresFlagged : ExpiresFlagged s

/-- Framework code ends in a resting state with the invariant, and on the way it deletes
only coroutines that have ended and times out only coroutines that are flagged. -/
abbrev Settled (s : State) : Prop :=
  machine.Settles Governed Tolerated Resting Core OnTheWay s

/-- Frames that are not at rest, delete nothing and time out nothing. -/
def Frame.plain : Frame → Bool
  | .recycle (_ :: _) => false
  | .resume _ _ .expiry => false
  | frame => !frame.resting

theorem Frame.plain_resting {frame : Frame} (plain : frame.plain = true) :
    frame.resting = false := by
  cases frame with
  | recycle | resume => rfl
  | _ => simpa [Frame.plain] using plain

section Settled

variable {s next : State} {frame : Frame} {rest : List Frame}

/-- A state with the invariant is at rest. -/
theorem Core.resting (core : Core s) : Resting s := by
  intro frame member
  have current := core.current
  cases frames : s.frames s.coSelf with
  | nil => simp [frames] at member
  | cons head tail =>
      rw [frames] at member current
      cases member
      cases current <;> rfl

theorem Core.settled (core : Core s) : Settled s := .rest core.resting core

theorem not_resting (frames : s.frames s.coSelf = frame :: rest) (busy : frame.resting = false) :
    ¬ Resting s := by
  intro resting
  have atRest := resting frame (by simp [frames])
  rw [busy] at atRest
  cases atRest

/-- Between two states at rest, plain code runs. -/
theorem onTheWay_of_plain (frames : s.frames s.coSelf = frame :: rest)
    (plain : frame.plain = true) : OnTheWay s := by
  constructor
  · intro coro pending others atRecycle
    rw [frames] at atRecycle
    cases atRecycle
    cases plain
  · intro coro passData others atResume
    rw [frames] at atResume
    cases atResume
    cases plain

/-- One step of framework code. -/
theorem settled_step (frames : s.frames s.coSelf = frame :: rest) (busy : frame.resting = false)
    (along : OnTheWay s)
    (onward : ∀ choice next, Governed s (.work choice) →
      s.runFrame choice s.coSelf rest frame = .ok next → Settled next)
    (safe : ∀ choice fault, Governed s (.work choice) →
      s.runFrame choice s.coSelf rest frame = .error fault → Tolerated fault) : Settled s := by
  refine .work (not_resting frames busy) along ?_ ?_
  · intro label next governed taken
    cases label with
    | user op => simp [machine, State.step, frames] at taken
    | work choice =>
        exact onward choice next governed (by simpa [machine, State.step, frames] using taken)
  · intro label fault governed failed
    cases label with
    | user op =>
        simp only [machine, State.step, frames] at failed
        cases failed
        exact .inr (.inr (.inr rfl))
    | work choice =>
        exact safe choice fault governed (by simpa [machine, State.step, frames] using failed)

/-- One step of framework code that deletes nothing. -/
theorem settled_work (frames : s.frames s.coSelf = frame :: rest) (plain : frame.plain = true)
    (onward : ∀ choice next, Governed s (.work choice) →
      s.runFrame choice s.coSelf rest frame = .ok next → Settled next)
    (safe : ∀ choice fault, Governed s (.work choice) →
      s.runFrame choice s.coSelf rest frame = .error fault → Tolerated fault) : Settled s :=
  settled_step frames (Frame.plain_resting plain) (onTheWay_of_plain frames plain) onward safe

/-- A step of framework code that has only one outcome. -/
theorem settled_to (frames : s.frames s.coSelf = frame :: rest) (plain : frame.plain = true)
    (runs : ∀ choice, Governed s (.work choice) →
      s.runFrame choice s.coSelf rest frame = .ok next)
    (onward : Settled next) : Settled s := by
  refine settled_work frames plain ?_ ?_
  · intro choice reached governed taken
    rw [runs choice governed] at taken
    cases taken
    exact onward
  · intro choice fault governed failed
    rw [runs choice governed] at failed
    cases failed

/-- Framework code may assume that names are in order: otherwise no step follows. -/
theorem settled_named (frames : s.frames s.coSelf = frame :: rest)
    (busy : frame.resting = false) (along : OnTheWay s)
    (settled : s.registry.Named → Settled s) : Settled s := by
  have notResting := not_resting frames busy
  refine .work notResting along ?_ ?_
  · intro label next governed taken
    cases settled governed.named with
    | rest resting _ => exact absurd resting notResting
    | work _ _ onward _ => exact onward label next governed taken
  · intro label fault governed failed
    cases settled governed.named with
    | rest resting _ => exact absurd resting notResting
    | work _ _ _ safe => exact safe label fault governed failed

end Settled

end LibcoRpc.CoroMgr
