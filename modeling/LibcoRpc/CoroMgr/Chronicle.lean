import LibcoRpc.CoroMgr.Lifecycle

/-!
# Laws of the histories that the automaton accepts

`Phase.Moves` lists the moves of the automaton one by one. Every law here is proved for
one move, for an event that is none of the coroutine's business and for the beginning of
a recycle phase, and then by induction for every accepted history: a suspension ends at
most once and `Yield` reports how it ended (`Chronicle`); after the entry function has
returned there is one recycle phase, one deletion and nothing else (`after_finished`).
-/

namespace LibcoRpc.CoroMgr

/-- The moves of the automaton. -/
inductive Phase.Moves (coro : CoroPtr) : Phase → Event → Phase → Prop where
  | create : Moves coro .absent (.created coro) .fresh
  | start (passData : Variant) : Moves coro .fresh (.ended coro 0 .explicit passData) (.running 0)
  | suspend (times : Nat) :
      Moves coro (.running times) (.suspended coro (times + 1)) (.suspended (times + 1))
  | fire (times : Nat) : Moves coro (.suspended times) (.fired coro times) (.firing times)
  | wake (times : Nat) {cause : Cause} (passData : Variant) (early : cause ≠ .expiry) :
      Moves coro (.suspended times) (.ended coro times cause passData)
        (.waking times cause passData)
  | expire (times : Nat) (passData : Variant) :
      Moves coro (.firing times) (.ended coro times .expiry passData)
        (.waking times .expiry passData)
  | back (times : Nat) (cause : Cause) (passData : Variant) {result : Int}
      {timeouted cancelled : Bool} {data : Variant}
      (describes : ⟨result, timeouted, cancelled, data⟩ = cause.outcome passData) :
      Moves coro (.waking times cause passData)
        (.yieldReturned coro times result timeouted cancelled data) (.running times)
  | finish (times : Nat) : Moves coro (.running times) (.finished coro) .finished
  | delete : Moves coro .doomed (.deleting coro) .deleting
  | deleted : Moves coro .deleting (.deleted coro) .deleted

theorem Phase.moves_of_onOwn {coro : CoroPtr} {before after : Phase} {event : Event}
    (own : event.subject = some coro) (moved : before.onOwn event = some after) :
    Phase.Moves coro before event after := by
  unfold Phase.onOwn at moved
  split at moved <;> first | cases own | skip
  · cases moved
    exact .create
  · cases moved
    exact .start _
  · split_ifs at moved with next
    cases moved
    subst next
    exact .suspend _
  · split_ifs at moved with same
    cases moved
    subst same
    exact .fire _
  · split_ifs at moved with same
    cases moved
    obtain ⟨rfl, early⟩ := same
    exact .wake _ _ early
  · split_ifs at moved with same
    cases moved
    obtain ⟨rfl, rfl⟩ := same
    exact .expire _ _
  · split_ifs at moved with same
    cases moved
    obtain ⟨rfl, describes⟩ := same
    exact .back _ _ _ describes
  · cases moved
    exact .finish _
  · cases moved
    exact .delete
  · cases moved
    exact .deleted
  · cases moved

/-- What the last event of an accepted history was for the coroutine. -/
theorem life_cons_cases {coro : CoroPtr} {event : Event} {earlier : List Event} {phase : Phase}
    (lives : life coro (event :: earlier) = some phase) :
    ∃ before, life coro earlier = some before ∧
      (Phase.Moves coro before event phase ∨
        before ≠ .deleting ∧ event.subject ≠ some coro ∧
          (event ≠ .recycling ∧ phase = before ∨
            event = .recycling ∧ before.onRecycling = some phase)) := by
  simp only [life, Option.bind_eq_some_iff] at lives
  obtain ⟨before, livesBefore, moved⟩ := lives
  refine ⟨before, livesBefore, ?_⟩
  unfold Phase.after at moved
  split_ifs at moved with own deleting recycling
  · exact .inl (Phase.moves_of_onOwn own moved)
  · exact .inr ⟨deleting, own, .inr ⟨recycling, moved⟩⟩
  · cases moved
    exact .inr ⟨deleting, own, .inl ⟨recycling, rfl⟩⟩

/-! ## Suspensions -/

/-- The event ends the `times`-th suspension of the coroutine. -/
def Event.ends (coro : CoroPtr) (times : Nat) : Event → Bool
  | .ended subject number _ _ => subject == coro && number == times
  | _ => false

/-- In this phase the suspension has not been ended yet. -/
def Phase.Open : Phase → Nat → Prop
  | .absent, _ => True
  | .fresh, _ => True
  | .running now, times => now < times
  | .suspended now, times => now ≤ times
  | .firing now, times => now ≤ times
  | .waking now _ _, times => now < times
  | _, _ => False

/-- What a history says about the suspensions of a coroutine. -/
structure Chronicle (coro : CoroPtr) (events : List Event) (phase : Phase) : Prop where
  notYet : ∀ times, phase.Open times → events.countP (Event.ends coro times) = 0
  once : ∀ times, events.countP (Event.ends coro times) ≤ 1
  waking : ∀ times cause passData, phase = .waking times cause passData →
    .ended coro times cause passData ∈ events
  returned : ∀ times result timeouted cancelled data,
    .yieldReturned coro times result timeouted cancelled data ∈ events →
      ∃ cause passData, .ended coro times cause passData ∈ events ∧
        ⟨result, timeouted, cancelled, data⟩ = cause.outcome passData
  firing : ∀ times, phase = .firing times → .fired coro times ∈ events
  expired : ∀ times passData, .ended coro times .expiry passData ∈ events →
    .fired coro times ∈ events
  fired : ∀ times, .fired coro times ∈ events →
    phase = .firing times ∨ ∃ passData, .ended coro times .expiry passData ∈ events

/-- Events that end no suspension, fire no timer and return from no `Yield`. -/
def Event.quiet (coro : CoroPtr) : Event → Prop
  | .fired subject _ => subject ≠ coro
  | .ended subject _ _ _ => subject ≠ coro
  | .yieldReturned subject _ _ _ _ _ => subject ≠ coro
  | _ => True

theorem Event.quiet_of_subject {coro : CoroPtr} {event : Event}
    (other : event.subject ≠ some coro) : event.quiet coro := by
  cases event <;> simp_all [Event.quiet, Event.subject]

namespace Chronicle

variable {coro : CoroPtr} {events : List Event} {before after : Phase} {times : Nat}

theorem start (coro : CoroPtr) : Chronicle coro [] .absent where
  notYet _ _ := rfl
  once _ := Nat.zero_le 1
  waking _ _ _ waking := by cases waking
  returned _ _ _ _ _ member := by cases member
  firing _ firing := by cases firing
  expired _ _ member := by cases member
  fired _ member := by cases member

/-- An event of no interest, in a phase that is not about to return from `Yield`. -/
theorem skip (chronicle : Chronicle coro events before) {event : Event}
    (quiet : event.quiet coro) (opens : ∀ times, after.Open times → before.Open times)
    (same : after = before ∨ (∀ times, before ≠ .firing times) ∧
      (∀ times, after ≠ .firing times) ∧ ∀ times cause passData,
        after ≠ .waking times cause passData) :
    Chronicle coro (event :: events) after := by
  have notEnds : ∀ times, Event.ends coro times event = false := by
    intro times
    cases event <;> simp_all [Event.ends, Event.quiet]
  have notEnded : ∀ times cause passData, event ≠ .ended coro times cause passData := by
    rintro times cause passData rfl
    exact quiet rfl
  have notFired : ∀ times, event ≠ .fired coro times := by
    rintro times rfl
    exact quiet rfl
  constructor
  case notYet =>
    intro times isOpen
    simp [notEnds, chronicle.notYet times (opens times isOpen)]
  case once =>
    intro times
    simpa [List.countP_cons, notEnds] using chronicle.once times
  case waking =>
    intro times cause passData waking
    rcases same with rfl | ⟨_, _, notWaking⟩
    · exact List.mem_cons_of_mem _ (chronicle.waking times cause passData waking)
    · exact absurd waking (notWaking times cause passData)
  case returned =>
    intro times result timeouted cancelled data member
    rcases List.mem_cons.mp member with rfl | member
    · exact absurd rfl quiet
    · obtain ⟨cause, passData, ended, describes⟩ := chronicle.returned _ _ _ _ _ member
      exact ⟨cause, passData, List.mem_cons_of_mem _ ended, describes⟩
  case firing =>
    intro times firing
    rcases same with rfl | ⟨_, notFiring, _⟩
    · exact List.mem_cons_of_mem _ (chronicle.firing times firing)
    · exact absurd firing (notFiring times)
  case expired =>
    intro times passData member
    rcases List.mem_cons.mp member with isEnded | member
    · exact absurd isEnded.symm (notEnded _ _ _)
    · exact List.mem_cons_of_mem _ (chronicle.expired times passData member)
  case fired =>
    intro times member
    rcases List.mem_cons.mp member with isFired | member
    · exact absurd isFired.symm (notFired _)
    · rcases chronicle.fired times member with firing | ⟨passData, ended⟩
      · rcases same with rfl | ⟨notFiring, _, _⟩
        · exact .inl firing
        · exact absurd firing (notFiring times)
      · exact .inr ⟨passData, List.mem_cons_of_mem _ ended⟩

/-- An event that ends a suspension. -/
theorem ended (chronicle : Chronicle coro events before) {cause : Cause}
    {passData : Variant} (isOpen : before.Open times)
    (opens : ∀ later, after.Open later → before.Open later ∧ later ≠ times)
    (waking : ∀ at_ why data, after = .waking at_ why data →
      at_ = times ∧ why = cause ∧ data = passData)
    (notFiring : ∀ at_, after ≠ .firing at_)
    (expiry : ∀ at_, before = .firing at_ → at_ = times ∧ cause = .expiry)
    (expired : cause = .expiry → before = .firing times) :
    Chronicle coro (.ended coro times cause passData :: events) after := by
  constructor
  case notYet =>
    intro later stillOpen
    obtain ⟨wasOpen, different⟩ := opens later stillOpen
    simp [Event.ends, chronicle.notYet later wasOpen, different.symm]
  case once =>
    intro other
    by_cases same : times = other
    · subst same
      simp [Event.ends, chronicle.notYet times isOpen]
    · simpa [List.countP_cons, Event.ends, same] using chronicle.once other
  case waking =>
    intro at_ why data isWaking
    obtain ⟨rfl, rfl, rfl⟩ := waking at_ why data isWaking
    exact List.mem_cons_self
  case returned =>
    intro at_ result timeouted cancelled data member
    rcases List.mem_cons.mp member with impossible | member
    · cases impossible
    · obtain ⟨why, given, endedBefore, describes⟩ := chronicle.returned _ _ _ _ _ member
      exact ⟨why, given, List.mem_cons_of_mem _ endedBefore, describes⟩
  case firing =>
    intro at_ firing
    exact absurd firing (notFiring at_)
  case expired =>
    intro at_ data member
    rcases List.mem_cons.mp member with same | member
    · cases same
      exact List.mem_cons_of_mem _ (chronicle.firing times (expired rfl))
    · exact List.mem_cons_of_mem _ (chronicle.expired at_ data member)
  case fired =>
    intro at_ member
    rcases List.mem_cons.mp member with impossible | member
    · cases impossible
    · rcases chronicle.fired at_ member with firing | ⟨data, endedBefore⟩
      · obtain ⟨rfl, rfl⟩ := expiry at_ firing
        exact .inr ⟨passData, List.mem_cons_self⟩
      · exact .inr ⟨data, List.mem_cons_of_mem _ endedBefore⟩

theorem fire (chronicle : Chronicle coro events (.suspended times)) :
    Chronicle coro (.fired coro times :: events) (.firing times) := by
  constructor
  case notYet =>
    intro later isOpen
    simpa [List.countP_cons, Event.ends] using chronicle.notYet later isOpen
  case once =>
    intro other
    simpa [List.countP_cons, Event.ends] using chronicle.once other
  case waking =>
    intro _ _ _ waking
    cases waking
  case returned =>
    intro at_ result timeouted cancelled data member
    rcases List.mem_cons.mp member with impossible | member
    · cases impossible
    · obtain ⟨why, given, endedBefore, describes⟩ := chronicle.returned _ _ _ _ _ member
      exact ⟨why, given, List.mem_cons_of_mem _ endedBefore, describes⟩
  case firing =>
    intro at_ firing
    cases firing
    exact List.mem_cons_self
  case expired =>
    intro at_ data member
    rcases List.mem_cons.mp member with impossible | member
    · cases impossible
    · exact List.mem_cons_of_mem _ (chronicle.expired at_ data member)
  case fired =>
    intro at_ member
    rcases List.mem_cons.mp member with same | member
    · cases same
      exact .inl rfl
    · rcases chronicle.fired at_ member with firing | ⟨data, endedBefore⟩
      · cases firing
      · exact .inr ⟨data, List.mem_cons_of_mem _ endedBefore⟩

theorem back {cause : Cause} {passData data : Variant} {result : Int}
    {timeouted cancelled : Bool}
    (chronicle : Chronicle coro events (.waking times cause passData))
    (describes : ⟨result, timeouted, cancelled, data⟩ = cause.outcome passData) :
    Chronicle coro (.yieldReturned coro times result timeouted cancelled data :: events)
      (.running times) := by
  constructor
  case notYet =>
    intro later isOpen
    simpa [List.countP_cons, Event.ends] using chronicle.notYet later isOpen
  case once =>
    intro other
    simpa [List.countP_cons, Event.ends] using chronicle.once other
  case waking =>
    intro _ _ _ waking
    cases waking
  case returned =>
    intro at_ result timeouted cancelled data member
    rcases List.mem_cons.mp member with same | member
    · cases same
      exact ⟨cause, passData, List.mem_cons_of_mem _ (chronicle.waking _ _ _ rfl), describes⟩
    · obtain ⟨why, given, endedBefore, describesBefore⟩ := chronicle.returned _ _ _ _ _ member
      exact ⟨why, given, List.mem_cons_of_mem _ endedBefore, describesBefore⟩
  case firing =>
    intro _ firing
    cases firing
  case expired =>
    intro at_ data member
    rcases List.mem_cons.mp member with impossible | member
    · cases impossible
    · exact List.mem_cons_of_mem _ (chronicle.expired at_ data member)
  case fired =>
    intro at_ member
    rcases List.mem_cons.mp member with impossible | member
    · cases impossible
    · rcases chronicle.fired at_ member with firing | ⟨data, endedBefore⟩
      · cases firing
      · exact .inr ⟨data, List.mem_cons_of_mem _ endedBefore⟩

/-- Every move keeps the chronicle. -/
theorem move (chronicle : Chronicle coro events before) {event : Event}
    (moves : Phase.Moves coro before event after) : Chronicle coro (event :: events) after := by
  cases moves with
  | create =>
      exact chronicle.skip trivial (fun _ isOpen => isOpen) (.inr ⟨by simp, by simp, by simp⟩)
  | start passData =>
      refine chronicle.ended trivial (fun later isOpen => ⟨trivial, ?_⟩) (by simp) (by simp)
        (by simp) (by simp)
      exact Nat.ne_of_gt isOpen
  | suspend times =>
      exact chronicle.skip trivial (fun _ isOpen => isOpen) (.inr ⟨by simp, by simp, by simp⟩)
  | fire times => exact chronicle.fire
  | wake times passData early =>
      refine chronicle.ended (Nat.le_refl times)
        (fun later isOpen => ⟨Nat.le_of_lt isOpen, Nat.ne_of_gt isOpen⟩) ?_ (by simp) (by simp)
        (fun expiry => absurd expiry early)
      intro at_ why data waking
      cases waking
      exact ⟨rfl, rfl, rfl⟩
  | expire times passData =>
      refine chronicle.ended (Nat.le_refl times)
        (fun later isOpen => ⟨Nat.le_of_lt isOpen, Nat.ne_of_gt isOpen⟩) ?_ (by simp) ?_
        (fun _ => rfl)
      · intro at_ why data waking
        cases waking
        exact ⟨rfl, rfl, rfl⟩
      · intro at_ firing
        cases firing
        exact ⟨rfl, rfl⟩
  | back times cause passData describes => exact chronicle.back describes
  | finish times =>
      exact chronicle.skip trivial (fun _ isOpen => isOpen.elim)
        (.inr ⟨by simp, by simp, by simp⟩)
  | delete =>
      exact chronicle.skip trivial (fun _ isOpen => isOpen) (.inr ⟨by simp, by simp, by simp⟩)
  | deleted =>
      exact chronicle.skip trivial (fun _ isOpen => isOpen) (.inr ⟨by simp, by simp, by simp⟩)

/-- The beginning of a recycle phase keeps the chronicle. -/
theorem recycling (chronicle : Chronicle coro events before)
    (moved : before.onRecycling = some after) :
    Chronicle coro (.recycling :: events) after := by
  cases before with
  | finished =>
      cases moved
      exact chronicle.skip trivial (fun _ isOpen => isOpen) (.inr ⟨by simp, by simp, by simp⟩)
  | doomed => cases moved
  | _ =>
      cases moved
      exact chronicle.skip trivial (fun _ isOpen => isOpen) (.inl rfl)

theorem of_life {phase : Phase} (lives : life coro events = some phase) :
    Chronicle coro events phase := by
  induction events generalizing phase with
  | nil =>
      cases lives
      exact .start coro
  | cons event earlier ih =>
      obtain ⟨before, livesBefore, moves | ⟨_, other, ⟨_, rfl⟩ | ⟨rfl, moved⟩⟩⟩ :=
        life_cons_cases lives
      · exact (ih livesBefore).move moves
      · exact (ih livesBefore).skip (Event.quiet_of_subject other) (fun _ isOpen => isOpen)
          (.inl rfl)
      · exact (ih livesBefore).recycling moved

/-- The event that ended a suspension is the only one that did. -/
theorem ended_unique {phase : Phase} (chronicle : Chronicle coro events phase)
    {left right : Cause} {leftData rightData : Variant}
    (leftEnded : .ended coro times left leftData ∈ events)
    (rightEnded : .ended coro times right rightData ∈ events) :
    left = right ∧ leftData = rightData := by
  have atMostOne : (events.filter (Event.ends coro times)).length ≤ 1 := by
    rw [← List.countP_eq_length_filter]
    exact chronicle.once times
  have isLeft : Event.ended coro times left leftData ∈ events.filter (Event.ends coro times) :=
    List.mem_filter.mpr ⟨leftEnded, by simp [Event.ends]⟩
  have isRight : Event.ended coro times right rightData ∈
      events.filter (Event.ends coro times) :=
    List.mem_filter.mpr ⟨rightEnded, by simp [Event.ends]⟩
  match found : events.filter (Event.ends coro times) with
  | [] =>
      rw [found] at isLeft
      cases isLeft
  | [only] =>
      rw [found, List.mem_singleton] at isLeft isRight
      have same := isLeft.trans isRight.symm
      simpa using same
  | _ :: _ :: _ =>
      rw [found] at atMostOne
      simp at atMostOne

end Chronicle

/-! ## The end of a coroutine -/

/-- The phases after the entry function has returned, with what the events since then
must have been. -/
inductive Phase.Over (coro : CoroPtr) (later : List Event) : Phase → Prop where
  | finished (kept : .recycling ∉ later) (alive : .deleted coro ∉ later) :
      Over coro later .finished
  | doomed (once : later.count .recycling = 1) (alive : .deleted coro ∉ later) :
      Over coro later .doomed
  | deleting (once : later.count .recycling = 1) (alive : .deleted coro ∉ later) :
      Over coro later .deleting
  | deleted (newer older : List Event) (split : later = newer ++ .deleted coro :: older)
      (once : older.count .recycling = 1) (alive : .deleted coro ∉ older)
      (gone : .deleted coro ∉ newer) : Over coro later .deleted

theorem Phase.Over.cons_other {coro : CoroPtr} {later : List Event} {phase : Phase}
    (past : Phase.Over coro later phase) {event : Event} (notRecycling : event ≠ .recycling)
    (other : event ≠ .deleted coro) : Phase.Over coro (event :: later) phase := by
  cases past with
  | finished kept alive =>
      exact .finished (by simp [kept, notRecycling.symm]) (by simp [alive, other.symm])
  | doomed once alive =>
      exact .doomed (by simpa [List.count_cons, notRecycling] using once)
        (by simp [alive, other.symm])
  | deleting once alive =>
      exact .deleting (by simpa [List.count_cons, notRecycling] using once)
        (by simp [alive, other.symm])
  | deleted newer older split once alive gone =>
      exact .deleted (event :: newer) older (by simp [split]) once alive
        (by simp [gone, other.symm])

/-- What can have happened since the entry function returned: at most one recycle phase
while the object exists, and one deletion, but the entry function never returns again. -/
theorem after_finished {coro : CoroPtr} {later earlier : List Event} {phase : Phase}
    (lives : life coro (later ++ .finished coro :: earlier) = some phase) :
    .finished coro ∉ later ∧ Phase.Over coro later phase := by
  induction later generalizing phase with
  | nil =>
      obtain ⟨before, livesBefore, moves | ⟨_, other, _⟩⟩ := life_cons_cases lives
      · cases moves
        exact ⟨by simp, .finished (by simp) (by simp)⟩
      · exact absurd rfl other
  | cons event later ih =>
      obtain ⟨before, livesBefore, step⟩ := life_cons_cases lives
      obtain ⟨notLater, past⟩ := ih livesBefore
      rcases step with moves | ⟨notDeleting, other, ⟨notRecycling, rfl⟩ | ⟨rfl, moved⟩⟩
      · cases past with
        | finished | deleted => cases moves
        | doomed once alive =>
            cases moves
            exact ⟨by simp [notLater],
              .deleting (by simpa [List.count_cons] using once) (by simp [alive])⟩
        | deleting once alive =>
            cases moves
            exact ⟨by simp [notLater], .deleted [] later rfl once alive (by simp)⟩
      · refine ⟨?_, past.cons_other notRecycling ?_⟩
        · simp only [List.mem_cons, notLater, or_false]
          rintro rfl
          exact other rfl
        · rintro rfl
          exact other rfl
      · refine ⟨by simp [notLater], ?_⟩
        cases past with
        | finished kept alive =>
            cases moved
            exact .doomed (by simp [List.count_eq_zero_of_not_mem kept]) (by simp [alive])
        | doomed => cases moved
        | deleting => exact absurd rfl notDeleting
        | deleted newer older split once alive gone =>
            cases moved
            exact .deleted (.recycling :: newer) older (by simp [split]) once alive
              (by simp [gone])

/-- Nothing happens to a deleted coroutine. -/
theorem after_deleted {coro : CoroPtr} {later earlier : List Event} {phase : Phase}
    (lives : life coro (later ++ .deleted coro :: earlier) = some phase) :
    .deleted coro ∉ later ∧ phase = .deleted := by
  induction later generalizing phase with
  | nil =>
      obtain ⟨before, _, moves | ⟨_, other, _⟩⟩ := life_cons_cases lives
      · cases moves
        exact ⟨by simp, rfl⟩
      · exact absurd rfl other
  | cons event later ih =>
      obtain ⟨before, livesBefore, step⟩ := life_cons_cases lives
      obtain ⟨notLater, rfl⟩ := ih livesBefore
      rcases step with moves | ⟨_, other, ⟨_, rfl⟩ | ⟨rfl, moved⟩⟩
      · cases moves
      · refine ⟨?_, rfl⟩
        simp only [List.mem_cons, notLater, or_false]
        rintro rfl
        exact other rfl
      · cases moved
        exact ⟨by simp [notLater], rfl⟩

/-- An accepted history was accepted at every moment. -/
theorem life_earlier {coro : CoroPtr} {later earlier : List Event} {phase : Phase}
    (lives : life coro (later ++ earlier) = some phase) :
    ∃ before, life coro earlier = some before := by
  induction later generalizing phase with
  | nil => exact ⟨phase, lives⟩
  | cons event later ih =>
      obtain ⟨before, livesBefore, _⟩ := life_cons_cases lives
      exact ih livesBefore

/-- The event after `~Coro` was entered is that it was left. -/
theorem after_deleting {coro : CoroPtr} {later earlier : List Event} {phase : Phase}
    (lives : life coro (later ++ .deleting coro :: earlier) = some phase)
    (left : phase ≠ .deleting) : ∃ newer, later = newer ++ [.deleted coro] := by
  rcases List.eq_nil_or_concat later with rfl | ⟨newer, next, rfl⟩
  · obtain ⟨before, _, moves | ⟨_, other, _⟩⟩ := life_cons_cases lives
    · cases moves
      exact absurd rfl left
    · exact absurd rfl other
  · refine ⟨newer, ?_⟩
    rw [List.concat_eq_append, List.append_assoc] at lives
    obtain ⟨afterNext, livesNext⟩ := life_earlier lives
    obtain ⟨before, livesBefore, step⟩ := life_cons_cases livesNext
    obtain ⟨_, _, moves | ⟨_, other, _⟩⟩ := life_cons_cases livesBefore
    · cases moves
      rcases step with moves | ⟨notDeleting, _⟩
      · cases moves
        simp
      · exact absurd rfl notDeleting
    · exact absurd rfl other

/-- An event that never has itself among the later events happens at most once. -/
theorem count_le_one {α : Type} [DecidableEq α] {event : α} {events : List α}
    (never : ∀ later earlier, events = later ++ event :: earlier → event ∉ later) :
    events.count event ≤ 1 := by
  induction events with
  | nil => simp
  | cons head tail ih =>
      by_cases same : head = event
      · subst same
        have notAgain : head ∉ tail := by
          intro again
          obtain ⟨newer, older, split⟩ := List.append_of_mem again
          exact never (head :: newer) older (by simp [split]) List.mem_cons_self
        simp [List.count_eq_zero_of_not_mem notAgain]
      · rw [List.count_cons_of_ne same]
        refine ih fun later earlier split member => ?_
        exact never (head :: later) earlier (by simp [split]) (List.mem_cons_of_mem _ member)

end LibcoRpc.CoroMgr
