import LibcoRpc.CoroMgr.Cancellation
import LibcoRpc.CoroMgr.Stop

/-!
# The sweep of `Stop`

`Stop` walks through `coros_` and cancels whatever is suspended. Each coroutine that it
cancels runs before the walk goes on, and may finish, create coroutines or let others
finish. The iterator has been advanced before, so the entry it stands on must not go away
meanwhile (`Spares`); then the walk meets only entries that are there (`Anchored`), and
leaves out no coroutine that was inside `Yield` when it began (`Sweep`).
-/

namespace LibcoRpc.CoroMgr

open LibcoRpc.Std

variable {s s' now : State} {label : Label} {coro : CoroPtr}

/-! ## The iterator -/

/-- The key of the entry that the iterator of `Stop` stands on. -/
def Frame.standsOn : Frame → Option Int
  | .stopLoop (some (coroId, _)) => some coroId
  | _ => none

/-- The key that `MaskWillRecycle` would erase for the running coroutine. -/
def State.ownKey (s : State) : Option Int :=
  match s.coSelf with
  | .main => none
  | .co coro => some (s.coro coro).coroId

/-- A coroutine does not finish while an iterator of `Stop` stands on its entry. -/
def Spares (s : State) : Label → Prop
  | .user .entryReturn => ∀ co ∈ s.callStack, ∀ frame ∈ s.frames co,
      frame.standsOn = none ∨ frame.standsOn ≠ s.ownKey
  | _ => True

instance (s : State) : (label : Label) → Decidable (Spares s label)
  | .user .entryReturn => inferInstanceAs (Decidable (∀ co ∈ s.callStack, ∀ frame ∈ s.frames co,
      frame.standsOn = none ∨ frame.standsOn ≠ s.ownKey))
  | .user .start => isTrue trivial
  | .user (.createCoro ..) => isTrue trivial
  | .user (.setEntry ..) => isTrue trivial
  | .user (.setArgs ..) => isTrue trivial
  | .user (.setPtrParam1 ..) => isTrue trivial
  | .user (.coroYield ..) => isTrue trivial
  | .user (.coroResume ..) => isTrue trivial
  | .user (.coroCancel ..) => isTrue trivial
  | .user (.yield ..) => isTrue trivial
  | .user (.resume ..) => isTrue trivial
  | .user (.cancel ..) => isTrue trivial
  | .user .update => isTrue trivial
  | .user .stop => isTrue trivial
  | .work _ => isTrue trivial

/-- Every iterator of `Stop` stands on an entry of the map. -/
def Anchored (s : State) : Prop :=
  ∀ co coroId coro, .stopLoop (some (coroId, coro)) ∈ s.frames co →
    s.coros.find coroId = some coro

/-- `emplace` keeps the entries that are there, and only the end of a coroutine removes one. -/
theorem find_kept {coroId : Int} (found : s.coros.find coroId = some coro)
    (taken : machine.step s label = .ok s')
    (spared : label = .user .entryReturn → s.ownKey ≠ some coroId) :
    s'.coros.find coroId = some coro := by
  have emplaced : ∀ key value, (s.coros.emplace key value).find coroId = some coro := by
    intro key value
    rw [OrdMap.find_emplace]
    split
    next same => rw [← same, found, Option.getD_some]
    next => exact found
  cases label with
  | work choice =>
      simp only [machine, State.step] at taken
      split at taken
      next => cases taken
      next frame rest at_ =>
        have same : s'.coros = s.coros := by
          by_cases resets : frame = .stopReset
          · subst resets
            cases taken
            rfl
          · exact (State.runFrame_retains resets taken).coros
        rw [same, found]
  | user op =>
      simp only [machine, State.step] at taken
      split at taken
      next =>
        cases op with
        | createCoro entry args =>
            cases taken
            exact emplaced _ _
        | start =>
            simp only [State.userStep, State.start] at taken
            split_ifs at taken
            · cases taken
              exact found
            · cases taken
              exact emplaced _ _
        | entryReturn =>
            obtain ⟨_, _, running, isCo, same | erased⟩ := State.entryReturn_retains taken
            · rw [same, found]
            · have other : coroId ≠ (s.coro running).coroId := by
                rintro rfl
                exact spared rfl (by rw [State.ownKey, isCo])
              rw [erased, OrdMap.find_erase, if_neg other, found]
        | _ => rw [(State.userStep_retains rfl taken).coros, found]
      next => cases taken

/-- Where an iterator that a step has left comes from. -/
theorem Proceeds.iterator (proceeds : Proceeds s s' label) {coroId : Int}
    (member : .stopLoop (some (coroId, coro)) ∈ s'.frames s.coSelf) :
    .stopLoop (some (coroId, coro)) ∈ s.frames s.coSelf ∨
      label ≠ .user .entryReturn ∧ s.coros.find coroId = some coro := by
  have quiet : ∀ {frames : List Frame}, frames.all Frame.plainCall = true →
      .stopLoop (some (coroId, coro)) ∉ frames := fun all made => by
    cases (Frame.of_plainCall (List.all_eq_true.mp all _ made)).1
  cases proceeds with
  | asks _ calls =>
      generalize s'.frames s.coSelf = frames at calls member
      cases calls with
      | plain all => exact absurd member (quiet all)
      | yields => simp at member
      | stop =>
          rw [List.mem_singleton] at member
          exact .inr ⟨by simp, OrdMap.find_of_first (Frame.stopLoop.inj member).symm⟩
  | works at_ next pushes =>
      rw [next] at member
      rcases List.mem_append.mp member with made | old
      · cases pushes with
        | plain _ all => exact absurd made (quiet all)
        | reset | ends => simp at made
        | skips =>
            rw [List.mem_singleton] at made
            exact .inr ⟨by simp, OrdMap.find_of_next (Frame.stopLoop.inj made).symm⟩
        | cancels =>
            rcases List.mem_cons.mp made with absurd_ | made
            · cases absurd_
            · rw [List.mem_singleton] at made
              exact .inr ⟨by simp, OrdMap.find_of_next (Frame.stopLoop.inj made).symm⟩
      · exact .inl (at_ ▸ List.mem_cons_of_mem _ old)

theorem Anchored.step (anchored : Anchored s) (halts : Halts s) (spares : Spares s label)
    (taken : machine.step s label = .ok s') : Anchored s' := by
  intro co coroId coro member
  have waited : .stopLoop (some (coroId, coro)) ∈ s.frames co →
      s'.coros.find coroId = some coro := by
    intro old
    refine find_kept (anchored co coroId coro old) taken ?_
    rintro rfl isOwn
    have onStack : co ∈ s.callStack := by
      by_contra offStack
      cases halts.parked co offStack _ old
    rcases spares co onStack _ old with none | other
    · cases none
    · exact other isOwn.symm
  by_cases self : co = s.coSelf
  · subst self
    rcases (step_proceeds taken).iterator member with old | ⟨goesOn, found⟩
    · exact waited old
    · exact find_kept found taken fun ends => absurd ends goesOn
  · rw [step_frames taken self] at member
    exact waited member

/-- Only the loop uses the iterator. -/
theorem runFrame_iterator {choice : Choice} {self : Co} {rest : List Frame} {frame : Frame}
    (failed : s.runFrame choice self rest frame = .error .iteratorInvalid) :
    ∃ coroId coro, frame = .stopLoop (some (coroId, coro)) ∧ s.coros.find coroId ≠ some coro := by
  cases frame with
  | stopLoop position =>
      cases position with
      | none => cases failed
      | some entry =>
          simp only [State.runFrame, State.stopLoop] at failed
          split_ifs at failed with gone
          exact ⟨entry.1, entry.2, rfl, gone⟩
  | coResume =>
      simp only [State.runFrame, State.coResume] at failed
      split_ifs at failed <;> cases failed
  | schedCancelRet =>
      simp only [State.runFrame, State.schedCancelRet] at failed
      split_ifs at failed <;> cases failed
  | yieldSuspend =>
      simp only [State.runFrame, State.yieldSuspend, State.coYield] at failed
      split at failed <;> cases failed
  | yieldRet =>
      simp only [State.runFrame, State.yieldRet] at failed
      split at failed <;> cases failed
  | schedLoop =>
      simp only [State.runFrame, State.schedLoop] at failed
      split_ifs at failed
      cases failed
  | onCoroTimeout =>
      simp only [State.runFrame, State.onCoroTimeout] at failed
      split_ifs at failed
      cases failed
  | destroyTimer =>
      simp only [State.runFrame, State.destroyTimer] at failed
      split at failed <;> cases failed
  | _ => cases failed

/-- Where every iterator stands on an entry, none is used in vain. -/
theorem Anchored.valid (anchored : Anchored s) (named : s.registry.Named) (label : Label) :
    machine.step s label ≠ .error .iteratorInvalid := by
  intro failed
  cases label with
  | user op =>
      simp only [machine, State.step] at failed
      split at failed
      next =>
        rcases userStep_fault named failed with (isNull | isDangling) | isBlocked
        · cases isNull
        · cases isDangling
        · cases isBlocked
      next => cases failed
  | work choice =>
      simp only [machine, State.step] at failed
      split at failed
      next => cases failed
      next frame rest at_ =>
        obtain ⟨coroId, coro, rfl, gone⟩ := runFrame_iterator failed
        exact gone (anchored s.coSelf coroId coro (by simp [at_]))

theorem anchored_of_run {env : Bool} {Allowed : State → Label → Prop}
    (run : machine.Run Allowed (State.init env) s)
    (spares : ∀ s label, Allowed s label → Spares s label) : Anchored s := by
  induction run with
  | start => exact fun _ _ _ member => by cases member
  | step prior allowed taken ih => exact ih.step (halts_of_run prior) (spares _ _ allowed) taken

/-! ## The coroutines it has to reach -/

/-- Inside `Yield` when `Stop` is called. -/
structure Asleep (s : State) (coro : CoroPtr) : Prop where
  created : Created s coro
  yielded : (s.coro coro).yielded = true
  started : (s.coro coro).resumeTimes ≠ 0

/-- A coroutine that was inside `Yield` at `s` is still in the same suspension. -/
structure Waits (s now : State) (coro : CoroPtr) : Prop where
  yielded : (now.coro coro).yielded = true
  times : (now.coro coro).yieldTimes = (s.coro coro).yieldTimes

/-- It has been resumed since. -/
abbrev Past (s now : State) (coro : CoroPtr) : Prop :=
  SuspensionOver now coro (s.coro coro).yieldTimes

/-- The object is the one it was. -/
structure Lasts (s now : State) (coro : CoroPtr) : Prop where
  allocated : coro < now.coroCount
  coroId : (now.coro coro).coroId = (s.coro coro).coroId
  inner : (now.coro coro).innerCoro = (s.coro coro).innerCoro

theorem lasts_of_run {Allowed : State → Label → Prop} (run : machine.Run Allowed s now)
    (created : coro < s.coroCount) : Lasts s now coro := by
  refine run.invariant (fun now => Lasts s now coro) ⟨created, rfl, rfl⟩ ?_
  intro now label next lasts _ taken
  have stepped := State.step_registry taken
  exact ⟨((step_change taken).yieldTimes_le lasts.allocated).2,
    (stepped.coroId_kept lasts.allocated).trans lasts.coroId,
    (stepped.innerCoro_kept lasts.allocated).trans lasts.inner⟩

/-- A coroutine waits until it is resumed. -/
theorem Waits.step (waits : Waits s now coro) (allocated : coro < now.coroCount)
    (poised : Poised now) (named : now.registry.Named) (taken : machine.step now label = .ok s') :
    Waits s s' coro ∨ Past s s' coro := by
  have more := ((step_change taken).yieldTimes_le allocated).1
  rw [waits.times] at more
  rcases Nat.lt_or_eq_of_le more with later | same
  · exact .inr (.inl later)
  · rcases poised.woken_cases taken allocated waits.yielded with yielded | ⟨_, _, _, _, _, woken, _⟩
    · exact .inl ⟨yielded, same.symm⟩
    · refine .inr (.inr ⟨same.symm, woken, fun leaving => ?_⟩)
      rcases poised.leaving_cases named taken leaving with already | ⟨_, objects, _⟩
      · have running := already.running
        rw [waits.yielded] at running
        cases running
      · rw [objects, Function.update_self, waits.times] at same
        exact absurd same (Nat.ne_of_lt (Nat.lt_succ_self _))

/-- Where the invariant holds, a coroutine that waits is registered and its timer armed. -/
theorem Waits.suspended (waits : Waits s now coro) (core : Core now)
    (started : 1 ≤ (s.coro coro).yieldTimes) :
    ∃ times, Suspended now coro times := by
  rcases core.toSteady.yielded_cases waits.yielded with ⟨_, fresh⟩ | ⟨times, _, suspended⟩
  · have none := fresh.counters.1
    rw [waits.times] at none
    exact absurd none (Nat.ne_of_gt started)
  · exact ⟨times, suspended⟩

theorem Asleep.suspended (asleep : Asleep s coro) (core : Core s) :
    Suspended s coro (s.coro coro).yieldTimes ∧
      (s.coro coro).resumeTimes = (s.coro coro).yieldTimes := by
  rcases core.toSteady.yielded_cases asleep.yielded with ⟨_, fresh⟩ | ⟨times, _, suspended⟩
  · exact absurd fresh.counters.2 asleep.started
  · obtain ⟨isTimes, resumed⟩ := suspended.counters
    exact ⟨isTimes ▸ suspended, resumed.trans isTimes.symm⟩

/-- Where the invariant holds, a suspension that is over has been ended by `Resume`. -/
theorem resumed_of_past (asleep : Asleep s coro) (core : Core s) (lasts : Lasts s now coro)
    (coreNow : Core now) (past : Past s now coro) :
    (s.coro coro).resumeTimes < (now.coro coro).resumeTimes := by
  rw [(asleep.suspended core).2]
  obtain ⟨phase, _, stands⟩ := coreNow.stands coro (by simp)
  cases phase with
  | absent =>
      have isMain := Unmade.innerCoro stands
      rw [lasts.inner, asleep.created.2] at isMain
      cases isMain
  | fresh =>
      have fresh : Fresh now coro := stands
      rcases past with later | ⟨_, running, _⟩
      · rw [fresh.counters.1] at later
        exact absurd later (Nat.not_lt_zero _)
      · rw [fresh.yielded] at running
        cases running
  | suspended times =>
      have suspended : Suspended now coro times := stands
      obtain ⟨isTimes, resumed⟩ := suspended.counters
      rcases past with later | ⟨_, running, _⟩
      · rwa [resumed, ← isTimes]
      · rw [suspended.yielded] at running
        cases running
  | running times =>
      have running : Running now coro times := stands
      obtain ⟨isTimes, resumed⟩ := running.counters
      rcases past with later | ⟨same, _⟩ <;> omega
  | finished | doomed =>
      have ended : Ended now coro false := stands
      have resumed := ended.counters
      rcases past with later | ⟨same, _⟩ <;> omega
  | deleted =>
      have ended : Ended now coro true := stands
      have resumed := ended.counters
      rcases past with later | ⟨same, _⟩ <;> omega
  | firing | waking | deleting => exact stands.elim

/-! ## The walk -/

/-- The walk has not passed this key. -/
def Ahead (position : Option (Int × CoroPtr)) (coroId : Int) : Prop :=
  ∃ entry, position = some entry ∧ entry.1 ≤ coroId

/-- Every coroutine the walk has to reach, but the exempted one, has been resumed or is
ahead. -/
def Covers (s now : State) (position : Option (Int × CoroPtr)) (exempt : Option CoroPtr) : Prop :=
  ∀ coro, Asleep s coro → exempt ≠ some coro →
    Past s now coro ∨ Waits s now coro ∧ Ahead position (s.coro coro).coroId

/-- The calls on the way from `Cancel` to `Resume`. -/
inductive Reaching (now : State) (target : CoroPtr) : List Frame → Prop where
  | called {data : DataPtr} (current : (now.coro target).timerData = some data)
      (validate : (now.data data).validate = true)
      (idle : (now.data data).timeouting = false) : Reaching now target [.cancel target]
  | cancels {data : DataPtr} (current : (now.coro target).timerData = some data)
      (validate : (now.data data).validate = true)
      (idle : (now.data data).timeouting = false) :
      Reaching now target [.timerCancel target, .cancelRet]
  | handles {data : DataPtr} (idle : now.isTimeouting target = false) :
      Reaching now target [.onCoroCancel target, .schedCancelRet target data, .cancelRet]
  | resumes {data : DataPtr} :
      Reaching now target [.resume target .nil .cancel, .schedCancelRet target data, .cancelRet]

/-- How far a `Stop` that was called at `s` has come. -/
inductive Sweep (s now : State) : Prop where
  | done (past : ∀ coro, Asleep s coro → Past s now coro)
  | walks {above : List Frame} {position : Option (Int × CoroPtr)}
      (at_ : now.frames s.coSelf = above ++ [.stopLoop position])
      (covers : Covers s now position none)
  /-- A coroutine it has to reach is being cancelled. -/
  | reaches {target : CoroPtr} {above : List Frame} {position : Option (Int × CoroPtr)}
      (self : now.coSelf = s.coSelf) (at_ : now.frames s.coSelf = above ++ [.stopLoop position])
      (reaching : Reaching now target above) (asleep : Asleep s target)
      (waits : Waits s now target) (covers : Covers s now position (some target))

section

variable {position : Option (Int × CoroPtr)} {exempt : Option CoroPtr} {target : CoroPtr}
  (core : Core s) (lasts : ∀ coro, Asleep s coro → Lasts s now coro) (poised : Poised now)
  (named : now.registry.Named)

include lasts poised named

theorem Covers.step (covers : Covers s now position exempt)
    (taken : machine.step now label = .ok s') : Covers s s' position exempt := by
  intro coro asleep other
  have allocated := (lasts coro asleep).allocated
  rcases covers coro asleep other with past | ⟨waits, ahead⟩
  · exact .inl (past.step allocated poised named taken)
  · rcases waits.step allocated poised named taken with still | past
    · exact .inr ⟨still, ahead⟩
    · exact .inl past

include core

omit poised in
/-- The walk moves from one entry to the next without passing a coroutine that waits. -/
theorem Ahead.next (coreNow : Core now) {coroId : Int} (asleep : Asleep s coro)
    (waits : Waits s now coro) (ahead : Ahead (some (coroId, target)) (s.coro coro).coroId)
    (found : now.coros.find coroId = some target) (other : coro ≠ target) :
    Ahead (now.coros.next coroId) (s.coro coro).coroId := by
  have started := (asleep.suspended core).1
  obtain ⟨times, suspended⟩ := waits.suspended coreNow (started.counters.1 ▸ started.positive)
  have registered : now.coros.find (now.coro coro).coroId = some coro :=
    named.registered coro suspended.created.2 (Bool.eq_false_iff.mpr suspended.unfinished)
  rw [(lasts coro asleep).coroId] at registered
  obtain ⟨entry, isEntry, atMost⟩ := ahead
  cases isEntry
  rcases lt_or_eq_of_le atMost with before | same
  · exact OrdMap.next_le registered before
  · rw [← same, found] at registered
    exact absurd (Option.some.inj registered).symm other

end

/-- The loop itself changes only its own frames. -/
theorem stopLoop_keeps {self : Co} {rest : List Frame} {position : Option (Int × CoroPtr)}
    (ran : s.stopLoop self rest position = .ok s') :
    s'.coro = s.coro ∧ s'.data = s.data ∧ s'.callStack = s.callStack := by
  cases position with
  | none =>
      cases ran
      exact ⟨rfl, rfl, rfl⟩
  | some entry =>
      simp only [State.stopLoop] at ran
      split_ifs at ran
      all_goals
        cases ran
        exact ⟨rfl, rfl, rfl⟩

/-- Calls above the loop are replaced by others. -/
theorem above_step {frame : Frame} {above : List Frame} {position : Option (Int × CoroPtr)}
    (self : now.coSelf = s.coSelf)
    (at_ : now.frames s.coSelf = frame :: (above ++ [.stopLoop position]))
    (taken : machine.step now label = .ok s') :
    ∃ above', s'.frames s.coSelf = above' ++ [.stopLoop position] := by
  rw [← self] at at_ ⊢
  obtain ⟨choice, ran⟩ := step_work at_ taken
  obtain ⟨pushed, next, -⟩ := runFrame_pushes ran
  exact ⟨pushed ++ above, by rw [next, List.append_assoc]⟩

namespace Sweep

variable {position : Option (Int × CoroPtr)} {target : CoroPtr} {above : List Frame}
  (core : Core s) (lasts : ∀ coro, Asleep s coro → Lasts s now coro) (poised : Poised now)
  (named : now.registry.Named)

include lasts poised named

include core in
/-- The loop is at its head. -/
theorem head (coreNow : Core now) (self : now.coSelf = s.coSelf)
    (at_ : now.frames s.coSelf = [.stopLoop position]) (covers : Covers s now position none)
    (taken : machine.step now label = .ok s') : Sweep s s' := by
  have moved := covers.step lasts poised named taken
  obtain ⟨choice, ran⟩ := step_work (self ▸ at_) taken
  obtain ⟨objects, records, stack⟩ := stopLoop_keeps ran
  have runs : s'.coSelf = s.coSelf := (coSelf_of_stack stack).trans self
  have waitsNow : ∀ coro, Waits s s' coro → Waits s now coro := fun coro waits =>
    ⟨objects ▸ waits.yielded, objects ▸ waits.times⟩
  obtain ⟨pushed, next, pushes, _⟩ := stopLoop_pushes ran
  rw [self, List.append_nil] at next
  cases pushes with
  | plain other => cases other
  | ends =>
      refine .done fun coro asleep => (moved coro asleep (by simp)).resolve_right ?_
      rintro ⟨_, _, none, _⟩
      cases none
  | @skips coroId passed found idle =>
      have next : s'.frames s.coSelf = [] ++ [.stopLoop (now.coros.next coroId)] := next
      refine .walks next fun coro asleep _ => ?_
      rcases moved coro asleep (by simp) with past | ⟨waits, ahead⟩
      · exact .inl past
      · have other : coro ≠ passed := by
          rintro rfl
          have isCo : (now.coro coro).innerCoro = .co coro :=
            (lasts coro asleep).inner.trans asleep.created.2
          simp [(waitsNow coro waits).yielded, Coro.isMainCoro, isCo] at idle
        exact .inr ⟨waits, ahead.next core lasts named coreNow asleep (waitsNow coro waits) found
          other⟩
  | @cancels coroId hit found yielded =>
      have next : s'.frames s.coSelf = [.cancel hit] ++ [.stopLoop (now.coros.next coroId)] := next
      -- Whoever else waits is further on.
      have further : ∀ coro, Asleep s coro → coro ≠ hit →
          Past s s' coro ∨ Waits s s' coro ∧
            Ahead (now.coros.next coroId) (s.coro coro).coroId := by
        intro coro asleep other
        rcases moved coro asleep (by simp) with past | ⟨waits, ahead⟩
        · exact .inl past
        · exact .inr ⟨waits, ahead.next core lasts named coreNow asleep (waitsNow coro waits) found
            other⟩
      by_cases reach : Asleep s hit ∧ Waits s s' hit
      · obtain ⟨asleep, waits⟩ := reach
        have before := (asleep.suspended core).1
        obtain ⟨times, suspended⟩ := (waitsNow hit waits).suspended coreNow
          (before.counters.1 ▸ before.positive)
        obtain ⟨data, armed⟩ := suspended.armed
        have reaching : Reaching s' hit [.cancel hit] :=
          .called (objects ▸ armed.current) (records ▸ armed.validate) (records ▸ armed.timeouting)
        exact .reaches runs next reaching asleep waits fun coro asleep other =>
          further coro asleep fun same => other (same ▸ rfl)
      · refine .walks next fun coro asleep _ => ?_
        by_cases same : coro = hit
        · subst same
          rcases moved coro asleep (by simp) with past | ⟨waits, _⟩
          · exact .inl past
          · exact absurd ⟨asleep, waits⟩ reach
        · exact further coro asleep same

/-- A `Cancel` is on its way to the `Resume`. -/
theorem reach (self : now.coSelf = s.coSelf)
    (at_ : now.frames s.coSelf = above ++ [.stopLoop position])
    (reaching : Reaching now target above) (asleep : Asleep s target)
    (waits : Waits s now target) (covers : Covers s now position (some target))
    (taken : machine.step now label = .ok s') : Sweep s s' := by
  have moved := covers.step lasts poised named taken
  have allocated := (lasts target asleep).allocated
  rcases waits.step allocated poised named taken with still | past
  · rw [← self] at at_
    cases reaching with
    | called current validate idle =>
        obtain ⟨choice, ran⟩ := step_work at_ taken
        simp only [State.runFrame, State.cancel, waits.yielded] at ran
        cases ran
        exact .reaches self (self ▸ goto_frames ..) (.cancels current validate idle) asleep still
          moved
    | @cancels data current validate idle =>
        obtain ⟨choice, ran⟩ := step_work at_ taken
        simp only [State.runFrame, State.timerCancel, current, validate] at ran
        have reaching : Reaching s' target
            [.onCoroCancel target, .schedCancelRet target data, .cancelRet] := by
          refine .handles ?_
          rw [← Except.ok.inj ran]
          simp [State.isTimeouting, State.goto, State.setData, current, idle]
        cases ran
        exact .reaches self (self ▸ goto_frames ..) reaching asleep still moved
    | @handles data idle =>
        obtain ⟨choice, ran⟩ := step_work at_ taken
        simp only [State.runFrame, State.onCoroCancel, waits.yielded, idle] at ran
        have reaching : Reaching s' target
            [.resume target .nil .cancel, .schedCancelRet target data, .cancelRet] := .resumes
        cases ran
        exact .reaches self (self ▸ goto_frames ..) reaching asleep still moved
    | resumes =>
        -- `Resume` accepts the coroutine, so it does not wait any longer.
        obtain ⟨choice, ran⟩ := step_work at_ taken
        have woken : (s'.coro target).yielded = false := by
          simp only [State.runFrame, State.resume, waits.yielded] at ran
          cases ran
          simp only [Bool.not_true, Bool.false_eq_true, if_false]
          split <;> simp [State.goto, State.setCoro]
        rw [still.yielded] at woken
        cases woken
  · obtain ⟨above', next⟩ : ∃ above', s'.frames s.coSelf = above' ++ [.stopLoop position] := by
      cases reaching with
      | called | cancels | handles | resumes => exact above_step self at_ taken
    refine .walks next fun coro asleep _ => ?_
    by_cases same : coro = target
    · exact .inl (same ▸ past)
    · exact moved coro asleep fun isTarget => same (Option.some.inj isTarget).symm

include core in
theorem step (sweep : Sweep s now) (settled : Resting now → Core now)
    (taken : machine.step now label = .ok s') : Sweep s s' := by
  cases sweep with
  | done past =>
      exact .done fun coro asleep =>
        (past coro asleep).step (lasts coro asleep).allocated poised named taken
  | @walks above position at_ covers =>
      have moved := covers.step lasts poised named taken
      by_cases self : now.coSelf = s.coSelf
      · cases above with
        | nil =>
            have resting : Resting now := by
              intro frame member
              rw [self, at_] at member
              cases member
              rfl
            exact head core lasts poised named (settled resting) self at_ covers taken
        | cons frame above =>
            obtain ⟨above', next⟩ := above_step self at_ taken
            exact .walks next moved
      · have next : s'.frames s.coSelf = above ++ [.stopLoop position] := by
          rw [step_frames taken (Ne.symm self), at_]
        exact .walks next moved
  | reaches self at_ reaching asleep waits covers =>
      exact reach lasts poised named self at_ reaching asleep waits covers taken

end Sweep

/-- A run that keeps the discipline and spares the entries that iterators stand on. -/
structure Orderly (s : State) (label : Label) : Prop extends Disciplined s label where
  spares : Spares s label

instance (s : State) (label : Label) : Decidable (Orderly s label) :=
  decidable_of_iff (Disciplined s label ∧ Spares s label)
    ⟨fun both => { both.1 with spares := both.2 }, fun orderly => ⟨orderly.1, orderly.2⟩⟩

theorem disciplined_of_sweep {env : Bool} {asked : State}
    (run : machine.Run Orderly (State.init env) s)
    (stops : machine.step s (.user .stop) = .ok asked)
    (onward : machine.Run Orderly asked now) : machine.Run Disciplined (State.init env) now := by
  have orderly : Orderly s (.user .stop) := ⟨⟨fun _ issued => (by cases issued), trivial⟩, trivial⟩
  exact ((run.step orderly stops).trans onward).mono fun _ _ orderly => orderly.toDisciplined

theorem sweep_of_run {env : Bool} {asked : State}
    (run : machine.Run Orderly (State.init env) s)
    (stops : machine.step s (.user .stop) = .ok asked)
    (onward : machine.Run Orderly asked now) : Sweep s now := by
  have userRuns := userRuns_of_step stops
  have disciplined := run.mono fun _ _ orderly => orderly.toDisciplined
  have core := core_of_run disciplined userRuns
  have named := (settled_of_run disciplined).2
  have lasts : ∀ {t : State}, machine.Run Orderly asked t → ∀ coro, Asleep s coro →
      Lasts s t coro := by
    intro t reached coro asleep
    have all : machine.Run (fun _ _ => True) s t :=
      (Machine.Run.step .start trivial stops).trans (reached.mono fun _ _ _ => trivial)
    exact lasts_of_run all asleep.created.1
  induction onward with
  | start =>
      rw [user_step userRuns] at stops
      cases stops
      have next : (s.goto s.coSelf [.stopLoop s.coros.first]).frames s.coSelf =
          [] ++ [.stopLoop s.coros.first] := goto_frames ..
      refine .walks next fun coro asleep _ => .inr ⟨⟨asleep.yielded, rfl⟩, ?_⟩
      have suspended := (asleep.suspended core).1
      exact OrdMap.first_le (named.registered coro suspended.created.2
        (Bool.eq_false_iff.mpr suspended.unfinished))
  | @step now label next prior orderly taken ih =>
      have whole := disciplined_of_sweep run stops prior
      obtain ⟨settled, named⟩ := settled_of_run whole
      have poised := poised_of_run (freeIds_of_run (whole.mono fun _ _ kept => kept.newId))
      exact ih.step core (lasts prior) poised named settled.goal taken

/-- In a run that spares the entries its iterators stand on, `Stop` never uses an iterator
whose entry is gone, and when its loop ends every coroutine that was inside `Yield` when it
was called has been resumed. -/
theorem stop_sweeps {env : Bool} (run : machine.Run Orderly (State.init env) s) :
    (∀ label, machine.step s label ≠ .error .iteratorInvalid) ∧
    ∀ asked now, machine.step s (.user .stop) = .ok asked → machine.Run Orderly asked now →
      now.coSelf = s.coSelf → now.frames s.coSelf = [.stopLoop none] →
      ∀ coro, Created s coro → (s.coro coro).yielded = true → (s.coro coro).resumeTimes ≠ 0 →
        (s.coro coro).resumeTimes < (now.coro coro).resumeTimes := by
  have disciplined := run.mono fun _ _ orderly => orderly.toDisciplined
  constructor
  · exact (anchored_of_run run fun _ _ orderly => orderly.spares).valid
      (settled_of_run disciplined).2
  · intro asked now stops onward self at_ coro created yielded started
    have asleep : Asleep s coro := ⟨created, yielded, started⟩
    have past : Past s now coro := by
      cases sweep_of_run run stops onward with
      | done past => exact past coro asleep
      | @walks above position atLoop covers =>
          rw [at_] at atLoop
          cases above with
          | nil =>
              cases atLoop
              refine (covers coro asleep (by simp)).resolve_right ?_
              rintro ⟨_, _, none, _⟩
              cases none
          | cons frame above => simp at atLoop
      | reaches _ atLoop reaching =>
          rw [at_] at atLoop
          cases reaching with
          | called | cancels | handles | resumes => simp at atLoop
    have whole := disciplined_of_sweep run stops onward
    have resting : Resting now := by
      intro frame member
      rw [self, at_] at member
      cases member
      rfl
    have allSteps : machine.Run (fun _ _ => True) s now :=
      (Machine.Run.step .start trivial stops).trans (onward.mono fun _ _ _ => trivial)
    exact resumed_of_past asleep (core_of_run disciplined (userRuns_of_step stops))
      (lasts_of_run allSteps created.1) ((settled_of_run whole).1.goal resting) past

/-- Coroutines 0 and 1 wait inside `Yield`. -/
def twoSleepers : List Label :=
  List.flatten
    [[.user (.createCoro 0 0), .user (.createCoro 0 0), .user (.resume 1 .nil)], works 3 0,
      [.user (.yield 0)], works 4 0, [.user (.resume 2 .nil)], works 3 0, [.user (.yield 0)],
      works 4 0]

/-- `Stop` cancels coroutine 0, which resumes coroutine 1, the one the iterator stands on.
Coroutine 1 yields again, coroutine 0 finishes, and `Stop` cancels coroutine 1, which
finishes too. -/
def sweepsTwo : List Label :=
  List.flatten
    [works 7 0, [.user (.resume 2 .nil)], works 6 0, [.user (.yield 0)], works 4 0,
      [.user .entryReturn], works 10 0, [.user .entryReturn], works 3 0]

theorem sleepers_swept :
    let orderly := fun s label => decide (Orderly s label)
    let s := (machine.replay orderly (State.init false) twoSleepers).get (by decide +kernel)
    let asked := (machine.replay orderly s [.user .stop]).get (by decide +kernel)
    let now := (machine.replay orderly asked sweepsTwo).get (by decide +kernel)
    now.frames .main = [.stopLoop none] ∧
      (s.coro 0).resumeTimes < (now.coro 0).resumeTimes ∧
      (s.coro 1).resumeTimes < (now.coro 1).resumeTimes := by
  intro orderly s asked now
  have sound : ∀ s label, orderly s label = true → Orderly s label :=
    fun _ _ passes => of_decide_eq_true passes
  have run : machine.Run Orderly (State.init false) s := .of_replay sound (Option.some_get _).symm
  have onward : machine.Run Orderly asked now := .of_replay sound (Option.some_get _).symm
  have stops : machine.step s (.user .stop) = .ok asked :=
    Machine.step_of_replay (Option.some_get _).symm
  have swept := (stop_sweeps run).2 asked now stops onward (by decide +kernel) (by decide +kernel)
  exact ⟨by decide +kernel, swept 0 (by decide +kernel) (by decide +kernel) (by decide +kernel),
    swept 1 (by decide +kernel) (by decide +kernel) (by decide +kernel)⟩

/-- Coroutine 0 waits inside `Yield`, and coroutine 1 has not been started. `Stop` cancels
coroutine 0, which lets coroutine 1 run to its end and finishes. -/
def finishesNext : List Label :=
  List.flatten
    [[.user (.createCoro 0 0), .user (.createCoro 0 0), .user (.resume 1 .nil)], works 3 0,
      [.user (.yield 0)], works 4 0, [.user .stop], works 7 0, [.user (.resume 2 .nil)],
      works 3 0, [.user .entryReturn], works 1 0, [.user .entryReturn], works 4 0]

/-- `Stop` is called when a coroutine has been created and not started. -/
def stopsUnstarted : List Label :=
  List.flatten [[.user (.createCoro 0 0), .user .stop], works 4 0]

/-- A coroutine that `Stop` cancels lets the next one of the map run to its end, and the loop
goes on from the entry that is gone. And a coroutine that has not been started is passed: when
the loop ends, it is marked as suspended and has not been resumed. -/
theorem stop_misses :
    machine.fault (State.init false) finishesNext = some .iteratorInvalid ∧
    (machine.replay (fun _ _ => true) (State.init false) stopsUnstarted).map
      (fun s => (s.frames .main, (s.coro 0).yielded, (s.coro 0).resumeTimes)) =
      some ([.stopLoop none], true, 0) := by
  constructor <;> decide +kernel

end LibcoRpc.CoroMgr
