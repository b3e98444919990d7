import LibcoRpc.CoroMgr.CallStack
import LibcoRpc.Libco.Switching

/-!
# The manager's coroutines on the processor

A step of the coroutine manager that enters or leaves a coroutine is, on the processor, a call
of `coctx_swap` by `co_swap`, which `co_resume` precedes with `coctx_make` where the coroutine
has not started. `CreateCoro` allocates a coroutine with `co_create_env`, and `~Coro` releases
it. Here the manager runs together with the contexts and stacks of its coroutines. The manager's
call stack and its start and end flags keep all these calls orderly, so that the calls it has
left open in a coroutine are what the processor goes on with when the coroutine is entered
again (`resumes_where_left`), and a coroutine begins with `CoRoutineFunc` (`first_resume_calls`).
-/

namespace LibcoRpc.Libco

open LibcoRpc.Std LibcoRpc.X86
open LibcoRpc.CoroMgr (Co CoroPtr Stacked Doomed Finished Gone Over)

/-- The number of a coroutine in a layout. -/
def number : Co → Nat
  | .main => 0
  | .co coro => coro + 1

/-- Coroutines have different numbers. -/
theorem number_inj {co other : Co} (same : number co = number other) : co = other := by
  cases co <;> cases other <;> simp_all [number]

/-- What the switches of a program depend on. -/
structure Program where
  coRoutineFunc : Word
  /-- The `stCoRoutine_t` that `co_init_curr_thread_env` allocates, and the stack of the
  thread. -/
  main : Place

/-- A thread of the manager, with its contexts. -/
structure Thread where
  manager : CoroMgr.State
  contexts : State

/-- A step of the manager, and the code of the running coroutine up to where it ends: up to the
call of `coctx_swap` if there is one. `CreateCoro` asks for a stack size, and `malloc` returns
a place. -/
structure Act where
  label : CoroMgr.Label
  code : Code
  stackSize : Int
  place : Place

/-- Why a thread does not go on. -/
inductive Stops where
  | manager (fault : CoroMgr.Fault)
  | libco (fault : Fault)
deriving DecidableEq, Repr

namespace Program

variable (program : Program)

/-- What a step of the manager asks of libco besides a switch: `coctx_make` in `co_resume` of a
coroutine that has not started, `co_create` in `CreateCoro`, and `co_release` in `~Coro`. -/
def asks (s next : CoroMgr.State) (act : Act) (contexts : State) : Option Label :=
  if s.callStack.length < next.callStack.length then
    if (s.inner next.coSelf).cStart then none
    else some (.make (number next.coSelf) program.coRoutineFunc
      (contexts.place (number next.coSelf)).routine 0)
  else
    match act.label, s.frames s.coSelf with
    | .user (.createCoro _ _), _ => some (.create (number (.co s.coroCount)) act.place)
    | .work _, .destroy coro :: _ =>
        if (s.coro coro).innerCoro = .main then none
        else some (.release (number (s.coro coro).innerCoro))
    | _, _ => none

/-- The contexts when the code of the step runs. -/
def prepare (s next : CoroMgr.State) (act : Act) (contexts : State) : State :=
  match program.asks s next act contexts with
  | none => contexts
  | some label => contexts.next label

/-- The processor in a step of the manager. -/
def advance (s next : CoroMgr.State) (act : Act) (contexts : State) : State :=
  let prepared := program.prepare s next act contexts
  if next.coSelf = s.coSelf then prepared.next (.run act.code)
  else prepared.swap (number next.coSelf) act.code

/-- The manager together with its contexts. -/
def threads : Machine Thread Act Stops where
  step t act :=
    match CoroMgr.machine.step t.manager act.label with
    | .error fault => .error (.manager fault)
    | .ok next =>
        match (program.asks t.manager next act t.contexts).map (switching.step t.contexts) with
        | some (.error fault) => .error (.libco fault)
        | _ => .ok ⟨next, program.advance t.manager next act t.contexts⟩

/-- `co_swap` passes the contexts of the two coroutines to `coctx_swap`, on the stack of the
one that runs. -/
def Calls (contexts : State) (next : Nat) (code : Code) : Prop :=
  code.regs .rdi = (contexts.place contexts.running).ctx ∧
    code.regs .rsi = (contexts.place next).ctx ∧
    (contexts.place contexts.running).stack.offset (code.regs .rsp) + 8 ≤
      (contexts.place contexts.running).stack.size

instance (contexts : State) (next : Nat) (code : Code) : Decidable (Calls contexts next code) :=
  inferInstanceAs (Decidable (_ ∧ _ ∧ _))

/-- `malloc` returns memory that is free, with a stack of the size that `co_create_env` asks
for. -/
def Allocates (contexts : State) (act : Act) : Option Label → Prop
  | some (.create _ place) =>
      contexts.layout.Free place ∧ place.stack.size = stackSize act.stackSize
  | _ => True

instance (contexts : State) (act : Act) :
    (asked : Option Label) → Decidable (Allocates contexts act asked)
  | some (.create _ _) => inferInstanceAs (Decidable (_ ∧ _))
  | none | some (.run _) | some (.release _) | some (.make _ _ _ _) | some (.swap _ _) =>
      isTrue trivial

/-- The code of a step that leads to `next`: it writes neither into the context nor into the
stack of another coroutine that waits for a switch, and control stays or passes by such a
call. -/
structure Leads (t : Thread) (act : Act) (next : CoroMgr.State) : Prop where
  allocates : Allocates t.contexts act (program.asks t.manager next act t.contexts)
  tidy : Tidy (program.prepare t.manager next act t.contexts) act.code
  passes : next.coSelf = t.manager.coSelf ∨
    Calls (program.prepare t.manager next act t.contexts) (number next.coSelf) act.code

instance (t : Thread) (act : Act) (next : CoroMgr.State) : Decidable (program.Leads t act next) :=
  decidable_of_iff (Allocates t.contexts act (program.asks t.manager next act t.contexts) ∧
      Tidy (program.prepare t.manager next act t.contexts) act.code ∧
      (next.coSelf = t.manager.coSelf ∨
        Calls (program.prepare t.manager next act t.contexts) (number next.coSelf) act.code))
    ⟨fun ⟨allocates, tidy, passes⟩ => ⟨allocates, tidy, passes⟩,
      fun leads => ⟨leads.allocates, leads.tidy, leads.passes⟩⟩

def Goes (t : Thread) (act : Act) : Except CoroMgr.Fault CoroMgr.State → Prop
  | .error _ => True
  | .ok next => program.Leads t act next

instance (t : Thread) (act : Act) :
    (outcome : Except CoroMgr.Fault CoroMgr.State) → Decidable (program.Goes t act outcome)
  | .error _ => isTrue trivial
  | .ok next => inferInstanceAs (Decidable (program.Leads t act next))

/-- The code of the thread behaves so in a step. -/
def Behaves (t : Thread) (act : Act) : Prop :=
  program.Goes t act (CoroMgr.machine.step t.manager act.label)

instance (t : Thread) (act : Act) : Decidable (program.Behaves t act) :=
  inferInstanceAs (Decidable (program.Goes t act _))

end Program

section

variable {program : Program} {t t' : Thread} {act : Act} {next : CoroMgr.State}

/-- A step of a thread is one of the manager, in which libco does what is asked of it. -/
structure Takes (program : Program) (t : Thread) (act : Act) (t' : Thread) : Prop where
  stepped : CoroMgr.machine.step t.manager act.label = .ok t'.manager
  contexts : t'.contexts = program.advance t.manager t'.manager act t.contexts
  served : ∀ label ∈ program.asks t.manager t'.manager act t.contexts,
    switching.step t.contexts label = .ok (t.contexts.next label)

theorem threads_step (taken : program.threads.step t act = .ok t') : Takes program t act t' := by
  simp only [Program.threads] at taken
  split at taken
  · cases taken
  next next stepped =>
    split at taken
    · cases taken
    next unfaulted =>
      cases taken
      refine ⟨stepped, rfl, fun label asked => ?_⟩
      cases served : switching.step t.contexts label with
      | error fault =>
          refine absurd ?_ (unfaulted fault)
          rw [Option.mem_def.mp asked, Option.map_some, served]
      | ok after => rw [next_of_step served]

/-- A stack that `co_create_env` allocates has a size that `coctx_make` can take. -/
theorem makeable_of_allocates {contexts : State} {co : Nat} {place : Place}
    (allocates : Program.Allocates contexts act (some (.create co place))) :
    24 ≤ place.stack.size ∧ place.stack.size < 2 ^ 31 := by
  have bounds := stackSize_bounds act.stackSize
  rw [allocates.2]
  omega

theorem Program.Behaves.leads (behaves : program.Behaves t act)
    (stepped : CoroMgr.machine.step t.manager act.label = .ok next) :
    program.Leads t act next := by
  have goes : program.Goes t act (CoroMgr.machine.step t.manager act.label) := behaves
  rw [stepped] at goes
  exact goes

/-- The contexts follow the manager: coroutines that have not ended have memory; what is below
the running coroutine on the call stack, and what has started, can be switched to. -/
structure Follows (program : Program) (t : Thread) : Prop where
  stacked : Stacked t.manager
  doomed : Doomed t.manager
  sound : Sound t.contexts
  running : t.contexts.running = number t.manager.coSelf
  created : ∀ coro, number (.co coro) ∈ t.contexts.layout.live →
    coro < t.manager.coroCount ∧ 24 ≤ (t.contexts.place (number (.co coro))).stack.size ∧
      (t.contexts.place (number (.co coro))).stack.size < 2 ^ 31
  live : ∀ coro, (t.manager.coro coro).innerCoro = .co coro → ¬ Finished t.manager coro →
    number (.co coro) ∈ t.contexts.layout.live
  below : ∀ co ∈ t.manager.callStack.tail, t.contexts.ready (number co) = true
  started : ∀ coro, (t.manager.inner (.co coro)).cStart = true → ¬ Finished t.manager coro →
    .co coro ≠ t.manager.coSelf → t.contexts.ready (number (.co coro)) = true

/-- What a step of the manager asks of libco, and why. -/
inductive Asked (program : Program) (t : Thread) (act : Act) (next : CoroMgr.State) :
    Option Label → Prop where
  | nothing : Asked program t act next none
  | make {coro : CoroPtr} (entered : next.coSelf = .co coro) (other : .co coro ≠ t.manager.coSelf)
      (live : number (.co coro) ∈ t.contexts.layout.live)
      (fresh : (t.manager.inner (.co coro)).cStart = false) :
      Asked program t act next (some (.make (number next.coSelf) program.coRoutineFunc
        (t.contexts.place (number next.coSelf)).routine 0))
  | create {entry args : Nat} (creates : act.label = .user (.createCoro entry args)) :
      Asked program t act next (some (.create (number (.co t.manager.coroCount)) act.place))
  | release {coro : CoroPtr} (gone : Gone t.manager coro) :
      Asked program t act next (some (.release (number (.co coro))))

namespace Follows

variable (follows : Follows program t)

include follows

/-- A coroutine that the manager does not run does not run on the processor. -/
theorem number_ne {co : Co} (other : co ≠ t.manager.coSelf) : number co ≠ t.contexts.running := by
  rw [follows.running]
  exact fun same => other (number_inj same)

section

variable (stepped : CoroMgr.machine.step t.manager act.label = .ok next)

include stepped

theorem next_stacked : Stacked next := follows.stacked.step stepped

/-- What has not ended after a step had not ended before. -/
theorem not_over_before {co : Co} (still : ¬ Over next co) : ¬ Over t.manager co :=
  fun ended => still (ended.step follows.stacked stepped)

/-- The coroutine that runs has not ended. -/
theorem self_not_over : ¬ Over next next.coSelf := by
  have stacked := follows.next_stacked stepped
  refine stacked.not_over ?_
  rw [stacked.callStack_cons]
  exact List.mem_cons_self

/-- `co_resume` enters a coroutine that has memory. -/
theorem entered_live (longer : t.manager.callStack.length < next.callStack.length) :
    ∃ coro, next.coSelf = .co coro ∧ .co coro ≠ t.manager.coSelf ∧
      ¬ Finished t.manager coro ∧ number (.co coro) ∈ t.contexts.layout.live := by
  obtain ⟨coro, isCo, offStack, inner⟩ := follows.stacked.entered stepped longer
  have other : .co coro ≠ t.manager.coSelf := fun same => by
    rw [same, follows.stacked.callStack_cons] at offStack
    exact offStack List.mem_cons_self
  have unended : ¬ Finished t.manager coro := fun finished =>
    follows.not_over_before stepped (follows.self_not_over stepped)
      ⟨coro, isCo, follows.stacked.grounded.allocated coro inner, finished⟩
  exact ⟨coro, isCo, other, unended, follows.live coro inner unended⟩

/-- Every request to libco has one of these reasons. -/
theorem asked : Asked program t act next (program.asks t.manager next act t.contexts) := by
  unfold Program.asks
  split
  next longer =>
    obtain ⟨coro, isCo, other, _, live⟩ := follows.entered_live stepped longer
    split
    next => exact .nothing
    next fresh =>
      refine .make isCo other live ?_
      rw [← isCo]
      exact Bool.eq_false_iff.mpr fresh
  next =>
    split
    next creates => exact .create creates
    next coro rest _ at_ =>
      split
      next => exact .nothing
      next notMain =>
        have gone : Gone t.manager coro :=
          follows.doomed.frames t.manager.coSelf (.destroy coro) (at_ ▸ List.mem_cons_self) coro
            List.mem_cons_self
        have isCo : (t.manager.coro coro).innerCoro = .co coro :=
          (follows.stacked.grounded.inner coro).resolve_left notMain
        rw [isCo]
        exact .release gone
    next => exact .nothing

theorem asked_of_mem {label : Label}
    (isAsked : label ∈ program.asks t.manager next act t.contexts) :
    Asked program t act next (some label) :=
  Option.mem_def.mp isAsked ▸ follows.asked stepped

/-- What is asked of libco is orderly. -/
theorem asks_orderly (leads : program.Leads t act next) :
    ∀ label ∈ program.asks t.manager next act t.contexts, Orderly t.contexts label := by
  intro label isAsked
  have allocates := leads.allocates
  rw [Option.mem_def.mp isAsked] at allocates
  cases follows.asked_of_mem stepped isAsked with
  | make entered other live =>
      obtain ⟨_, large, small⟩ := follows.created _ live
      rw [entered]
      exact ⟨live, follows.number_ne other, large, small⟩
  | create =>
      refine ⟨fun live => ?_, allocates.1⟩
      exact Nat.lt_irrefl _ (follows.created _ live).1
  | release gone =>
      refine follows.number_ne fun self => ?_
      refine follows.stacked.not_over ?_ ⟨_, rfl, gone⟩
      rw [follows.stacked.callStack_cons, self]
      exact List.mem_cons_self

/-- Only what has ended is released. -/
theorem asks_keeps {co : Co} (still : ¬ Over next co) :
    ∀ label ∈ program.asks t.manager next act t.contexts, label ≠ .release (number co) := by
  rintro label isAsked rfl
  have asked := follows.asked_of_mem stepped isAsked
  generalize released : number co = other at asked
  cases asked with
  | @release coro gone =>
      exact still ⟨coro, number_inj released, gone.step follows.stacked stepped⟩

/-- Every coroutine that has not ended is spared, but the one that is entered first. -/
theorem asks_spares {co : Co}
    (ran : ∀ coro, co = .co coro → next.coSelf = co → (t.manager.inner co).cStart = true)
    (still : ¬ Over next co) :
    ∀ label ∈ program.asks t.manager next act t.contexts, Spares (number co) label := by
  intro label isAsked
  cases follows.asked_of_mem stepped isAsked with
  | @make coro entered _ _ fresh =>
      intro same
      have isCo := number_inj same
      have started := ran coro (isCo ▸ entered) isCo
      rw [← isCo, entered, fresh] at started
      cases started
  | create => trivial
  | @release coro gone =>
      intro same
      exact still ⟨coro, (number_inj same).symm, gone.step follows.stacked stepped⟩

end

end Follows

/-! ## The contexts when the code of a step runs -/

/-- `CreateCoro` is one step. -/
theorem createCoro_next {s : CoroMgr.State} {entry args : Nat}
    (stepped : CoroMgr.machine.step s (.user (.createCoro entry args)) = .ok next) :
    next = s.createCoro entry args := by
  simp only [CoroMgr.machine, CoroMgr.State.step] at stepped
  split at stepped <;> cases stepped
  rfl

/-- `CreateCoro` asks for memory. -/
theorem asks_of_createCoro (program : Program) {s : CoroMgr.State} (contexts : State)
    {entry args : Nat} (creates : act.label = .user (.createCoro entry args))
    (stepped : CoroMgr.machine.step s act.label = .ok next) :
    program.asks s next act contexts = some (.create (number (.co s.coroCount)) act.place) := by
  have isNext := createCoro_next (creates ▸ stepped)
  have same : next.callStack = s.callStack := by
    rw [isNext]
    rfl
  unfold Program.asks
  rw [if_neg (by simp [same]), creates]

/-- What holds before a step and after what it asks of libco holds when its code runs. -/
theorem prepare_elim {s : CoroMgr.State} {contexts : State} (Holds : State → Prop)
    (nothing : Holds contexts)
    (asked : ∀ label ∈ program.asks s next act contexts, Holds (contexts.next label)) :
    Holds (program.prepare s next act contexts) := by
  unfold Program.prepare
  split
  next => exact nothing
  next label isAsked => exact asked label isAsked

/-- The steps of the processor are orderly, and spare what has not ended, but for the coroutine
that runs afterwards. -/
def Only (next : CoroMgr.State) (s : State) (label : Label) : Prop :=
  Orderly s label ∧ ∀ co, co ≠ next.coSelf → ¬ Over next co → Spares (number co) label

namespace Follows

variable (follows : Follows program t) (taken : Takes program t act t')
  (leads : program.Leads t act t'.manager)

include follows taken leads

/-- What a step asks of libco is a run of the processor. -/
theorem prepare_run : switching.Run (Only t'.manager) t.contexts
    (program.prepare t.manager t'.manager act t.contexts) := by
  refine prepare_elim (switching.Run (Only t'.manager) t.contexts) .start fun label asked =>
    .step .start ⟨?_, fun co other still => ?_⟩ (taken.served label asked)
  · exact follows.asks_orderly taken.stepped leads label asked
  · exact follows.asks_spares taken.stepped (fun _ _ self => absurd self.symm other) still label
      asked

theorem prepare_sound : Sound (program.prepare t.manager t'.manager act t.contexts) :=
  follows.sound.run ((follows.prepare_run taken leads).mono fun _ _ only => only.1)

omit leads in
/-- No request to libco switches. -/
theorem prepare_running :
    (program.prepare t.manager t'.manager act t.contexts).running = number t.manager.coSelf := by
  refine prepare_elim (fun contexts => contexts.running = number t.manager.coSelf)
    follows.running fun label isAsked => ?_
  cases follows.asked_of_mem taken.stepped isAsked with
  | make | release => exact follows.running
  | create =>
      rw [State.next, State.create]
      split <;> exact follows.running

/-- Memory does not move. -/
theorem prepare_place {co : Nat} (live : co ∈ t.contexts.layout.live) :
    (program.prepare t.manager t'.manager act t.contexts).place co = t.contexts.place co :=
  prepare_elim (fun contexts => contexts.place co = t.contexts.place co) rfl fun label asked =>
    place_next (follows.asks_orderly taken.stepped leads label asked) live

/-- What can be switched to and has not ended stays so. -/
theorem prepare_kept {co : Co} (still : ¬ Over t'.manager co)
    (ready : t.contexts.ready (number co) = true) :
    (program.prepare t.manager t'.manager act t.contexts).ready (number co) = true :=
  prepare_elim (fun contexts => contexts.ready (number co) = true) ready fun label asked =>
    follows.sound.ready_next (follows.asks_orderly taken.stepped leads label asked) ready
      (follows.asks_keeps taken.stepped still label asked)

/-- The coroutine that a step of the manager enters can be switched to. -/
theorem prepare_ready (switched : t'.manager.coSelf ≠ t.manager.coSelf) :
    (program.prepare t.manager t'.manager act t.contexts).ready (number t'.manager.coSelf) =
      true := by
  have still := follows.self_not_over taken.stepped
  cases CoroMgr.step_passes taken.stepped with
  | stays stack => exact absurd (CoroMgr.coSelf_of_stack stack) switched
  | leaves stack left =>
      refine follows.prepare_kept taken leads still (follows.below _ ?_)
      rw [stack, CoroMgr.State.coSelf, left]
      exact List.mem_cons_self
  | enters offStack stack =>
      have longer : t.manager.callStack.length < t'.manager.callStack.length := by
        rw [stack]
        exact Nat.lt_succ_self _
      obtain ⟨coro, isCo, other, unended, _⟩ := follows.entered_live taken.stepped longer
      cases start : (t.manager.inner t'.manager.coSelf).cStart with
      | true =>
          refine follows.prepare_kept taken leads still ?_
          rw [isCo] at start ⊢
          exact follows.started coro start unended other
      | false =>
          have asks : program.asks t.manager t'.manager act t.contexts = some _ :=
            (if_pos longer).trans (if_neg (by simp [start]))
          rw [Program.prepare, asks]
          exact Function.update_self ..

/-- The code of a step that switches calls `coctx_swap` as it should. -/
theorem swaps_orderly (switched : t'.manager.coSelf ≠ t.manager.coSelf) :
    Orderly (program.prepare t.manager t'.manager act t.contexts)
      (.swap (number t'.manager.coSelf) act.code) := by
  obtain ⟨rdi, rsi, own⟩ := leads.passes.resolve_left switched
  refine ⟨?_, follows.prepare_ready taken leads switched, leads.tidy, rdi, rsi, own⟩
  rw [follows.prepare_running taken]
  exact fun same => switched (number_inj same)

/-- A step of the manager is made of orderly steps of the processor. -/
theorem advances : switching.Run (Only t'.manager) t.contexts t'.contexts := by
  rw [taken.contexts, Program.advance]
  split
  next =>
    have only : Only t'.manager (program.prepare t.manager t'.manager act t.contexts)
        (.run act.code) := ⟨leads.tidy, fun _ _ _ => trivial⟩
    exact .step (follows.prepare_run taken leads) only rfl
  next switched =>
    have only : Only t'.manager (program.prepare t.manager t'.manager act t.contexts)
        (.swap (number t'.manager.coSelf) act.code) :=
      ⟨follows.swaps_orderly taken leads switched,
        fun _ other _ same => other (number_inj same).symm⟩
    exact .step (follows.prepare_run taken leads) only rfl

omit follows leads in
/-- The code of the step moves nothing. -/
theorem layout_eq : t'.contexts.layout =
    (program.prepare t.manager t'.manager act t.contexts).layout := by
  rw [taken.contexts, Program.advance]
  split <;> rfl

/-- A step of the manager keeps what can be switched to, and adds the coroutine it leaves. -/
theorem ready_kept {co : Co} (still : ¬ Over t'.manager co)
    (ready : t.contexts.ready (number co) = true ∨
      co = t.manager.coSelf ∧ co ≠ t'.manager.coSelf) :
    t'.contexts.ready (number co) = true := by
  have before := follows.prepare_kept taken leads still
  rw [taken.contexts, Program.advance]
  split
  next stays =>
    exact ready.elim before fun ⟨self, other⟩ => absurd (self.trans stays.symm) other
  next =>
    have running := follows.prepare_running taken
    by_cases self : number co = number t.manager.coSelf
    · have left := self.trans running.symm
      exact (congrArg _ left).trans (Function.update_self ..)
    · have other : number co ≠
          (program.prepare t.manager t'.manager act t.contexts).running := by
        rwa [running]
      exact (Function.update_of_ne other ..).trans
        (before (ready.resolve_right fun both => self (congrArg number both.1)))

omit taken leads in
/-- What is below the running coroutine after a step was so before, or is left by the step. -/
theorem below_before (stepped : CoroMgr.machine.step t.manager act.label = .ok next) {co : Co}
    (member : co ∈ next.callStack.tail) :
    t.contexts.ready (number co) = true ∨ co = t.manager.coSelf ∧ co ≠ next.coSelf := by
  have stacked := follows.next_stacked stepped
  have nodup := stacked.callStack_cons ▸ stacked.nodup
  have other : co ≠ next.coSelf := fun same => (List.nodup_cons.mp nodup).1 (same ▸ member)
  cases CoroMgr.step_passes stepped with
  | stays stack => exact .inl (follows.below co (stack ▸ member))
  | enters _ stack =>
      rw [stack, List.tail_cons, follows.stacked.callStack_cons] at member
      rcases List.mem_cons.mp member with self | below
      · exact .inr ⟨self, other⟩
      · exact .inl (follows.below co below)
  | leaves stack left =>
      refine .inl (follows.below co ?_)
      rw [left] at member
      rw [stack]
      exact List.mem_cons_of_mem _ member

omit leads in
/-- What has started by a step was so before, or is left by the step. -/
theorem started_before {coro : CoroPtr} (started : (t'.manager.inner (.co coro)).cStart = true)
    (unended : ¬ Finished t'.manager coro) (other : .co coro ≠ t'.manager.coSelf) :
    t.contexts.ready (number (.co coro)) = true ∨
      .co coro = t.manager.coSelf ∧ .co coro ≠ t'.manager.coSelf := by
  rcases follows.stacked.started_before taken.stepped started with before | entered
  · by_cases self : .co coro = t.manager.coSelf
    · exact .inr ⟨self, other⟩
    · refine .inl (follows.started coro before (fun finished => unended ?_) self)
      have created := follows.stacked.created coro before
      exact (Gone.mk created finished).step follows.stacked taken.stepped |>.finished
  · exact absurd entered.1.symm other

/-- Whatever has memory has been created, with a stack of a size that `coctx_make` can take. -/
theorem created_step {coro : CoroPtr} (live : number (.co coro) ∈ t'.contexts.layout.live) :
    coro < t'.manager.coroCount ∧ 24 ≤ (t'.contexts.place (number (.co coro))).stack.size ∧
      (t'.contexts.place (number (.co coro))).stack.size < 2 ^ 31 := by
  have more : t.manager.coroCount ≤ t'.manager.coroCount :=
    (follows.stacked.grounded.step (CoroMgr.State.step_registry taken.stepped)).2
  have old : number (.co coro) ∈ t.contexts.layout.live →
      coro < t'.manager.coroCount ∧ 24 ≤ (t.contexts.place (number (.co coro))).stack.size ∧
        (t.contexts.place (number (.co coro))).stack.size < 2 ^ 31 := fun live =>
    ⟨Nat.lt_of_lt_of_le (follows.created coro live).1 more, (follows.created coro live).2⟩
  rw [State.place, layout_eq taken]
  rw [layout_eq taken] at live
  revert live
  refine prepare_elim (fun contexts => number (.co coro) ∈ contexts.layout.live →
    coro < t'.manager.coroCount ∧ 24 ≤ (contexts.layout.place (number (.co coro))).stack.size ∧
      (contexts.layout.place (number (.co coro))).stack.size < 2 ^ 31) old ?_
  intro label isAsked live
  have orderly := follows.asks_orderly taken.stepped leads label isAsked
  have allocates := leads.allocates
  rw [Option.mem_def.mp isAsked] at allocates
  cases follows.asked_of_mem taken.stepped isAsked with
  | make => exact old live
  | release => exact old (List.mem_of_mem_filter live)
  | create creates =>
      by_cases new : coro = t.manager.coroCount
      · subst new
        have place : ((t.contexts.next (.create (number (.co t.manager.coroCount))
            act.place)).layout.place (number (.co t.manager.coroCount))) = act.place :=
          create_place allocates.1
        have isNext := createCoro_next (creates ▸ taken.stepped)
        rw [place, isNext]
        exact ⟨Nat.lt_succ_self _, makeable_of_allocates allocates⟩
      · have isLive : (t.contexts.next (.create (number (.co t.manager.coroCount))
            act.place)).layout.live = _ := create_live allocates.1
        rw [isLive] at live
        have oldLive := (List.mem_cons.mp live).resolve_left fun same =>
          new (Co.co.inj (number_inj same))
        have place := place_next orderly oldLive
        rw [State.place] at place
        rw [place]
        exact old oldLive

/-- A coroutine gets memory when it is created, and keeps it until it has ended. -/
theorem live_step {coro : CoroPtr} (isCo : (t'.manager.coro coro).innerCoro = .co coro)
    (unended : ¬ Finished t'.manager coro) :
    number (.co coro) ∈ t'.contexts.layout.live := by
  rw [layout_eq taken]
  have still : ¬ Over t'.manager (.co coro) := fun ⟨_, same, gone⟩ =>
    unended (Co.co.inj same ▸ gone.finished)
  rcases CoroMgr.made_by taken.stepped isCo with before | ⟨rfl, entry, args, creates⟩
  · have created := follows.stacked.grounded.allocated coro before
    have live := follows.live coro before fun finished =>
      unended (Gone.mk created finished |>.step follows.stacked taken.stepped).finished
    exact prepare_elim (fun contexts => number (.co coro) ∈ contexts.layout.live) live
      fun label asked => live_next live (follows.asks_keeps taken.stepped still label asked)
  · have asks := asks_of_createCoro program t.contexts creates taken.stepped
    have allocates := leads.allocates
    rw [asks] at allocates
    rw [Program.prepare, asks]
    show number (.co t.manager.coroCount) ∈
      (t.contexts.create (number (.co t.manager.coroCount)) act.place).layout.live
    rw [create_live allocates.1]
    exact List.mem_cons_self

end Follows

/-- A step of the manager keeps its contexts in order. -/
theorem Follows.step (follows : Follows program t) (behaves : program.Behaves t act)
    (stepped : program.threads.step t act = .ok t') : Follows program t' := by
  have taken := threads_step stepped
  have leads := behaves.leads taken.stepped
  have stacked := follows.next_stacked taken.stepped
  exact
    { stacked := stacked
      doomed := follows.doomed.step follows.stacked taken.stepped
      sound := follows.sound.run ((follows.advances taken leads).mono fun _ _ only => only.1)
      running := by
        rw [taken.contexts, Program.advance]
        split
        next stays => exact (follows.prepare_running taken).trans (congrArg number stays.symm)
        next => rfl
      created := fun _ live => follows.created_step taken leads live
      live := fun _ isCo unended => follows.live_step taken leads isCo unended
      below := fun co member => follows.ready_kept taken leads
        (stacked.not_over (List.mem_of_mem_tail member)) (follows.below_before taken.stepped member)
      started := fun coro started unended other => follows.ready_kept taken leads
        (fun ⟨_, same, gone⟩ => unended (Co.co.inj same ▸ gone.finished))
        (follows.started_before taken started unended other) }

/-- The main coroutine runs, and no other one exists. -/
def Program.init (program : Program) (env : Bool) (cpu : Cpu) : Thread :=
  ⟨.init env, .init (.single (number .main) program.main) cpu (number .main)⟩

/-- So does every run from the start. -/
theorem follows_of_run {env : Bool} {cpu : Cpu}
    (run : program.threads.Run program.Behaves (program.init env cpu) t) : Follows program t := by
  refine run.invariant (Follows program) ?_ fun _ _ _ follows => follows.step
  exact
    { stacked := CoroMgr.stacked_init env
      doomed := CoroMgr.doomed_init env
      sound := sound_init (List.mem_singleton_self _)
      running := rfl
      created := fun _ live => by
        cases List.mem_singleton.mp live
      live := by rintro _ ⟨⟩
      below := fun _ member => by cases member
      started := by rintro _ ⟨⟩ }

/-- While the manager runs other coroutines, the processor spares one that it has left, unless
it has ended. -/
theorem spares_of_run {co : Co} {u : Thread} (follows : Follows program t)
    (onward : program.threads.Run
      (fun u act => program.Behaves u act ∧ u.manager.coSelf ≠ co) t u) :
    Follows program u ∧ (u.manager.coSelf ≠ co → ¬ Over u.manager co → switching.Run
      (fun s label => Orderly s label ∧ Spares (number co) label) t.contexts u.contexts) := by
  induction onward with
  | start => exact ⟨follows, fun _ _ => .start⟩
  | step _ allowed stepped ih =>
      obtain ⟨followsHere, before⟩ := ih
      have taken := threads_step stepped
      refine ⟨followsHere.step allowed.1 stepped, fun away still => ?_⟩
      refine (before allowed.2 (followsHere.not_over_before taken.stepped still)).trans ?_
      exact (followsHere.advances taken (allowed.1.leads taken.stepped)).mono
        fun _ _ only => ⟨only.1, only.2 co away.symm still⟩

/-- What has started stays so. -/
theorem started_of_run {coro : CoroPtr} {u : Thread} (follows : Follows program t)
    (started : (t.manager.inner (.co coro)).cStart = true)
    (onward : program.threads.Run program.Behaves t u) :
    (u.manager.inner (.co coro)).cStart = true := by
  refine (onward.invariant (fun u => Follows program u ∧
    (u.manager.inner (.co coro)).cStart = true) ⟨follows, started⟩ ?_).2
  rintro u act u' ⟨followsHere, startedHere⟩ behaves stepped
  exact ⟨followsHere.step behaves stepped,
    followsHere.stacked.started_kept (threads_step stepped).stepped startedHere⟩

/-- Where the manager switches, the processor calls `coctx_swap`. -/
theorem Takes.swapped (taken : Takes program t act t')
    (switched : t'.manager.coSelf ≠ t.manager.coSelf) :
    t'.contexts = (program.prepare t.manager t'.manager act t.contexts).swap
      (number t'.manager.coSelf) act.code := by
  rw [taken.contexts]
  exact if_neg switched

/-- The call of `coctx_swap` that a switch makes. -/
theorem Follows.swaps (follows : Follows program t) (taken : Takes program t act t')
    (leads : program.Leads t act t'.manager)
    (switched : t'.manager.coSelf ≠ t.manager.coSelf) :
    Swaps (program.prepare t.manager t'.manager act t.contexts) (number t'.manager.coSelf)
      act.code :=
  (follows.prepare_sound taken leads).swaps (follows.swaps_orderly taken leads switched)

/-- A program whose main coroutine is at the first place. -/
def routines : Program where
  coRoutineFunc := 0x400100
  main := firstPlace

/-- Steps of the manager in which the processor writes nothing. -/
def quietly (labels : List CoroMgr.Label) : List Act := labels.map fun label =>
  ⟨label, ⟨fun _ => 0, 0, []⟩, 0, secondPlace⟩

/-- `CreateCoro`, which asks for a page and gets it at a place. -/
def createsAt (place : Place) : Act := ⟨.user (.createCoro 0 0), fillsIn place, 0x1000, place⟩

/-- The manager works on. -/
def works (count : Nat) : List CoroMgr.Label := .replicate count (.work ⟨0, 1⟩)

/-- A step in which the processor runs some code. -/
def doing (code : Code) : Act := ⟨.work ⟨0, 1⟩, code, 0, secondPlace⟩

/-- The second coroutine calls `coctx_swap`, with the return address `0x405678`. -/
def parting : Code := { coming with writes := [(0x20e00, 0x78), (0x20e01, 0x56), (0x20e02, 0x40)] }

/-- A coroutine at one place calls `coctx_swap` for a coroutine at another one. -/
def swapsTo (self next : Place) (rsp : Word) : Code where
  regs
    | .rdi => self.ctx
    | .rsi => next.ctx
    | .rsp => rsp
    | _ => 0
  rip := 0
  writes := []

/-! ## Coming back -/

/-- The coroutine that the manager leaves is saved. -/
theorem Follows.saved (follows : Follows program t) (taken : Takes program t act t')
    (leads : program.Leads t act t'.manager)
    (switched : t'.manager.coSelf ≠ t.manager.coSelf) :
    let entry := (program.prepare t.manager t'.manager act t.contexts).after act.code
    t'.contexts.place (number t.manager.coSelf) = t.contexts.place (number t.manager.coSelf) ∧
      Saved t'.contexts.cpu.mem (t'.contexts.place (number t.manager.coSelf)).ctx entry ∧
      ∀ here ∈ (t'.contexts.place (number t.manager.coSelf)).stack,
        t'.contexts.cpu.mem here = entry.mem here := by
  intro entry
  have swaps := follows.swaps taken leads switched
  have running := follows.prepare_running taken
  have live : number t.manager.coSelf ∈ t.contexts.layout.live :=
    follows.running ▸ follows.sound.running
  have place := follows.prepare_place taken leads live
  rw [taken.swapped switched]
  refine ⟨place, ?_, ?_⟩
  · rw [← running]
    exact swaps.saved
  · rw [← running]
    exact fun here inStack => swaps.mem_own inStack

/-- The coroutine that the manager enters again is as it has been left when the code of the
step runs. -/
theorem Follows.prepare_rests (follows : Follows program t) (taken : Takes program t act t')
    (leads : program.Leads t act t'.manager)
    (switched : t'.manager.coSelf ≠ t.manager.coSelf)
    (ran : ∀ coro, t'.manager.coSelf = .co coro → (t.manager.inner (.co coro)).cStart = true)
    (ready : t.contexts.ready (number t'.manager.coSelf) = true) :
    Rests (number t'.manager.coSelf) t.contexts
      (program.prepare t.manager t'.manager act t.contexts) := by
  have away := follows.number_ne switched
  refine prepare_elim (Rests (number t'.manager.coSelf) t.contexts) (.refl away ready)
    fun label asked => ?_
  refine follows.sound.rests (follows.asks_orderly taken.stepped leads label asked) away ready ?_
  exact follows.asks_spares taken.stepped (fun coro isCo _ => isCo ▸ ran coro isCo)
    (follows.self_not_over taken.stepped) label asked

/-- The manager leaves a coroutine, by `co_resume` of another one or by `co_yield_env`. However
it goes on, when it enters this coroutine again, the call of `coctx_swap` that has left it
returns: to its return address, with the stack pointer above it and the registers that a
context keeps as they were, and with every byte of the coroutine's stack as it was. -/
theorem resumes_where_left {env : Bool} {cpu : Cpu} {u u' : Thread} {act' : Act}
    (run : program.threads.Run program.Behaves (program.init env cpu) t)
    (behaves : program.Behaves t act) (leaves : program.threads.step t act = .ok t')
    (left : t'.manager.coSelf ≠ t.manager.coSelf)
    (onward : program.threads.Run
      (fun u act => program.Behaves u act ∧ u.manager.coSelf ≠ t.manager.coSelf) t' u)
    (away : u.manager.coSelf ≠ t.manager.coSelf) (behaves' : program.Behaves u act')
    (enters : program.threads.step u act' = .ok u')
    (back : u'.manager.coSelf = t.manager.coSelf) :
    let entry := (program.prepare t.manager t'.manager act t.contexts).after act.code
    Returned u'.contexts.cpu entry ∧
      ∀ here ∈ (t.contexts.place (number t.manager.coSelf)).stack,
        u'.contexts.cpu.mem here = entry.mem here := by
  intro entry
  have follows := follows_of_run run
  have takenLeft := threads_step leaves
  have followsLeft := follows.step behaves leaves
  obtain ⟨place, saved, stackSaved⟩ :=
    follows.saved takenLeft (behaves.leads takenLeft.stepped) left
  have readyLeft : t'.contexts.ready (number t.manager.coSelf) = true := by
    rw [takenLeft.swapped left, ← follows.prepare_running takenLeft]
    exact Function.update_self ..
  -- While it is away, nothing touches its context and its stack.
  obtain ⟨followsLater, spares⟩ := spares_of_run followsLeft onward
  have taken := threads_step enters
  have leads := behaves'.leads taken.stepped
  have still : ¬ Over u.manager t.manager.coSelf := by
    rw [← back]
    exact followsLater.not_over_before taken.stepped (followsLater.self_not_over taken.stepped)
  obtain ⟨_, rests⟩ := rests_of_run followsLeft.sound (followsLeft.number_ne left.symm) readyLeft
    (spares away still)
  -- It has started, so that it is entered as it has been left.
  have switched : u'.manager.coSelf ≠ u.manager.coSelf := fun stays => away (stays ▸ back)
  have ran : ∀ coro, u'.manager.coSelf = .co coro →
      (u.manager.inner (.co coro)).cStart = true := by
    intro coro isCo
    have started := follows.stacked.coSelf_started (back.symm.trans isCo)
    exact started_of_run follows started
      (.trans (.step .start behaves leaves) (onward.mono fun _ _ allowed => allowed.1))
  have prepared := followsLater.prepare_rests taken leads switched ran
  have swaps := followsLater.swaps taken leads switched
  rw [back] at prepared swaps
  have rests := rests.trans (prepared rests.ready)
  rw [taken.swapped switched, back, ← place, ← rests.place]
  refine swaps.returned ?_ fun here inStack => ?_
  · rw [rests.place]
    exact saved.congr fun here inContext => rests.memory here (.inl inContext)
  · rw [rests.place] at inStack
    exact (rests.memory here (.inr inStack)).trans (stackSaved here inStack)

/-- A coroutine is created and resumed, and calls `Yield`. -/
def upToYield : List Act := .flatten
  [[createsAt secondPlace], quietly (.user (.coroResume 0 .nil) :: works 2), [doing leaving],
    quietly (.user (.yield 1000) :: works 2)]

/-- Another coroutine is created meanwhile, runs to its end and is deleted by `Update`. A third
one gets its memory, and the first one is resumed. -/
def whileAway : List Act := .flatten
  [quietly (works 1), [createsAt thirdPlace], quietly (.user (.coroResume 1 .nil) :: works 2),
    [doing (swapsTo firstPlace thirdPlace 0x10800),
      ⟨.user .entryReturn, swapsTo thirdPlace firstPlace 0x30e00, 0, secondPlace⟩],
    quietly (works 1 ++ .user .update :: works 6), [createsAt thirdPlace],
    quietly (.user (.coroResume 0 .nil) :: works 4)]

/-- The coroutine that has called `Yield` goes on there. -/
theorem second_resumes_where_left :
    let t := routines.threads.play (routines.init false idle) upToYield
    let t' := routines.threads.play t [doing parting]
    let u := routines.threads.play t' whileAway
    let u' := routines.threads.play u [doing leaving]
    u'.manager.coSelf = .co 0 ∧ u'.contexts.cpu.rip = 0x405678 ∧
      u'.contexts.cpu.regs .rbx = 5 := by
  intro t t' u u'
  have run : routines.threads.Run routines.Behaves (routines.init false idle) t :=
    .of_play (by decide +kernel)
  have behaves : routines.Behaves t (doing parting) := by decide +kernel
  have leaves : routines.threads.step t (doing parting) = .ok t' :=
    Machine.step_of_play (by decide +kernel)
  have onward : routines.threads.Run (fun u act =>
      routines.Behaves u act ∧ u.manager.coSelf ≠ t.manager.coSelf) t' u :=
    .of_play (by decide +kernel)
  have behaves' : routines.Behaves u (doing leaving) := by decide +kernel
  have enters : routines.threads.step u (doing leaving) = .ok u' :=
    Machine.step_of_play (by decide +kernel)
  have isSecond : u'.manager.coSelf = .co 0 := by decide +kernel
  have returned := (resumes_where_left run behaves leaves (by decide +kernel) onward
    (by decide +kernel) behaves' enters (by decide +kernel)).1
  have isRet : loadWord ((routines.prepare t.manager t'.manager (doing parting)
      t.contexts).after parting).mem 0x20e00 = 0x405678 := by decide +kernel
  exact ⟨isSecond, returned.rip.trans isRet, returned.regs (12, .rbx) (by decide)⟩

/-! ## Beginning -/

/-- The first `co_resume` of a coroutine calls `CoRoutineFunc(co, 0)` on its empty stack. -/
theorem first_resume_calls {env : Bool} {cpu : Cpu}
    (run : program.threads.Run program.Behaves (program.init env cpu) t)
    (behaves : program.Behaves t act) (enters : program.threads.step t act = .ok t')
    (resumes : t.manager.callStack.length < t'.manager.callStack.length)
    (fresh : (t.manager.inner t'.manager.coSelf).cStart = false) :
    Begun (t.contexts.place (number t'.manager.coSelf)).stack program.coRoutineFunc
      (t.contexts.place (number t'.manager.coSelf)).routine 0 t'.contexts.cpu := by
  have follows := follows_of_run run
  have taken := threads_step enters
  have leads := behaves.leads taken.stepped
  obtain ⟨coro, isCo, other, _⟩ := follows.entered_live taken.stepped resumes
  have switched : t'.manager.coSelf ≠ t.manager.coSelf := isCo ▸ other
  have asks : program.asks t.manager t'.manager act t.contexts =
      some (.make (number t'.manager.coSelf) program.coRoutineFunc
        (t.contexts.place (number t'.manager.coSelf)).routine 0) :=
    (if_pos resumes).trans (if_neg (by simp [fresh]))
  have makes := follows.asks_orderly taken.stepped leads _ (Option.mem_def.mpr asks)
  have swaps := follows.swaps taken leads switched
  have made := made_next makes
  obtain ⟨_, _, large, small⟩ := makes
  rw [taken.swapped switched]
  rw [Program.prepare, asks] at swaps ⊢
  exact swaps.begun large small made

/-- A coroutine is created, and a second one while it runs, which is resumed. -/
def upToSecond : List Act := .flatten
  [[createsAt secondPlace], quietly (.user (.coroResume 0 .nil) :: works 2),
    [doing leaving, createsAt thirdPlace], quietly (.user (.coroResume 1 .nil) :: works 2)]

/-- It begins with `CoRoutineFunc`. -/
theorem second_routine_begins :
    let t := routines.threads.play (routines.init true idle) upToSecond
    let act := doing (swapsTo secondPlace thirdPlace 0x20e00)
    let t' := routines.threads.play t [act]
    t'.contexts.cpu.rip = 0x400100 ∧ t'.contexts.cpu.regs .rdi = thirdPlace.routine := by
  intro t act t'
  have run : routines.threads.Run routines.Behaves (routines.init true idle) t :=
    .of_play (by decide +kernel)
  have behaves : routines.Behaves t act := by decide +kernel
  have enters : routines.threads.step t act = .ok t' := Machine.step_of_play (by decide +kernel)
  have begun := first_resume_calls run behaves enters (by decide +kernel) (by decide +kernel)
  have isThird : (t.contexts.place (number t'.manager.coSelf)).routine = thirdPlace.routine := by
    decide +kernel
  exact ⟨begun.rip, begun.rdi.trans isThird⟩

end

end LibcoRpc.Libco
