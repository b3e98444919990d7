import LibcoRpc.CoroMgr.Twin

/-!
# `Update` with one finished coroutine more

Two managers that differ in a finished coroutine go through an `Update` side by side. User
code asks for the same things in both and the clock reads the same; the second one only takes
further steps where it deletes the extra object, and from then on the two agree on the maps,
the timers and the call stack. That takes for granted that no id is handed out meanwhile, as
the second manager has used up one more.
-/

namespace LibcoRpc.CoroMgr

open LibcoRpc.Std

variable {s s' t : State} {label : Label} {coro spare : CoroPtr} {spareId : Int} {pending : Bool}
  {caller : Co} {rest rest' : List Frame}

/-- The same steps, with more framework code in between. -/
inductive Padded : List Label → List Label → Prop where
  | nil : Padded [] []
  | keep {labels longer : List Label} (label : Label) (padded : Padded labels longer) :
      Padded (label :: labels) (label :: longer)
  | work {labels longer : List Label} (choice : Choice) (padded : Padded labels longer) :
      Padded labels (.work choice :: longer)

theorem Padded.append {first longer second further : List Label} (padded : Padded first longer)
    (next : Padded second further) : Padded (first ++ second) (longer ++ further) := by
  induction padded with
  | nil => exact next
  | keep label _ ih => exact .keep label ih
  | work choice _ ih => exact .work choice ih

/-- The calls of `caller` are still in progress, and the step takes no id. -/
def Quietly (caller : Co) (s : State) (label : Label) : Prop :=
  s.frames caller ≠ [] ∧ s.issues label = none

instance (caller : Co) (s : State) (label : Label) : Decidable (Quietly caller s label) :=
  inferInstanceAs (Decidable (_ ∧ _))

/-- The steps `labels` lead from `s` to `s'`. -/
def Goes (caller : Co) (s : State) (labels : List Label) (s' : State) : Prop :=
  machine.replay (fun s label => decide (Quietly caller s label)) s labels = some s'

theorem Goes.cons {labels : List Label} {middle : State} (quietly : Quietly caller s label)
    (taken : machine.step s label = .ok middle) (onward : Goes caller middle labels s') :
    Goes caller s (label :: labels) s' := by
  rw [Goes, Machine.replay_cons (fun s label => decide (Quietly caller s label))
    (decide_eq_true quietly) taken]
  exact onward

theorem Goes.append {labels further : List Label} {middle : State}
    (first : Goes caller s labels middle) (second : Goes caller middle further s') :
    Goes caller s (labels ++ further) s' :=
  (Machine.replay_append first).trans second

/-- No id is taken on the way. -/
theorem Goes.run {labels : List Label} (goes : Goes caller s labels s') :
    machine.Run TakesFreeId s s' := by
  refine .of_replay (fun s label passes => ?_) goes
  intro coroId issued
  rw [(of_decide_eq_true passes : Quietly caller s label).2] at issued
  cases issued

/-- One step of framework code. -/
theorem work_goes {frame : Frame} {choice : Choice} (at_ : s.frames s.coSelf = frame :: rest)
    (busy : s.frames caller ≠ []) (ran : s.runFrame choice s.coSelf rest frame = .ok s') :
    Goes caller s [.work choice] s' := by
  refine .cons ⟨busy, rfl⟩ ?_ rfl
  simpa [machine, State.step, at_] using ran

theorem busy_goto {self : Co} {frame : Frame} (busy : s.frames caller ≠ []) :
    (s.goto self (frame :: rest)).frames caller ≠ [] := by
  simp only [State.goto, Function.update_apply]
  split
  · exact List.cons_ne_nil _ _
  · exact busy

/-- `Update` has yet to delete finished objects. -/
def WillRecycle (s : State) (co : Co) : Prop := ∃ frame ∈ s.frames co, frame.recycles = true

/-- Only the code that deletes them is done with that. -/
theorem recycles_step (taken : machine.step s label = .ok s')
    (others : ∀ frame rest, s.frames s.coSelf = frame :: rest → frame.recycles = false) {co : Co}
    (recycles : WillRecycle s co) : WillRecycle s' co := by
  obtain ⟨frame, member, deletes⟩ := recycles
  by_cases self : co = s.coSelf
  · subst self
    cases step_proceeds taken with
    | asks userRuns =>
        have none : s.frames s.coSelf = [] := userRuns
        rw [none] at member
        cases member
    | works at_ next =>
        rw [at_] at member
        rcases List.mem_cons.mp member with rfl | later
        · rw [others _ _ at_] at deletes
          cases deletes
        · exact ⟨frame, next ▸ List.mem_append_right _ later, deletes⟩
  · exact ⟨frame, step_frames taken self ▸ member, deletes⟩

theorem willRecycle_goto {self co : Co} {calls : List Frame} (recycles : WillRecycle s co)
    (here : ∃ frame ∈ calls, frame.recycles = true) : WillRecycle (s.goto self calls) co := by
  simp only [WillRecycle, State.goto, Function.update_apply]
  split
  · exact here
  · exact recycles

/-- The second manager can follow the first one. Where the extra object is still to be deleted,
no `Update` has finished meanwhile. -/
def Follows (spare : CoroPtr) (spareId : Int) (pending : Bool) (caller : Co)
    (labels : List Label) (s s' t : State) : Prop :=
  ∃ after longer t', Padded labels longer ∧ Goes caller t longer t' ∧
    Twin spare spareId after s' t' ∧
    (after = true → pending = true ∧ ∀ co, WillRecycle s co → WillRecycle s' co)

namespace Twin

/-! ## The deletion of the extra object -/

variable (twin : Twin spare spareId pending s t)

include twin

theorem busy (busy : s.frames caller ≠ []) : t.frames caller ≠ [] := by
  intro none
  have alike := twin.frames caller
  rw [none] at alike
  exact busy (List.forall₂_nil_right_iff.mp alike)

/-- The extra object may change by itself. -/
theorem destroyedRight : Twin spare spareId pending s (t.destroyed spare) := by
  refine { twin with object := fun coro other => ?_, idle := ?_ }
  · simp only [State.destroyed, State.setCoro, State.record, Function.update_of_ne other,
      twin.object coro other]
  · simpa only [State.destroyed, State.setCoro, State.record, Function.update_self] using twin.idle

/-- The lists of objects to delete differ in the extra one. -/
theorem recycling {left : List CoroPtr} (at_ : s.frames s.coSelf = .recycle left :: rest)
    (others : ∀ coro ∈ left, coro ≠ spare) :
    ∃ right rest', t.frames t.coSelf = .recycle right :: rest' ∧
      left = right.filter (· ≠ spare) ∧ List.Forall₂ (FrameTwin spare) rest rest' := by
  have alike := twin.frames s.coSelf
  rw [at_] at alike
  obtain ⟨call, rest', first, rests, there⟩ := List.forall₂_cons_left_iff.mp alike
  rw [← twin.coSelf] at there
  cases first with
  | same =>
      refine ⟨left, rest', there, (List.filter_eq_self.mpr ?_).symm, rests⟩
      simpa using others
  | recycle but => exact ⟨_, rest', there, but, rests⟩

omit twin in
/-- Past the extra object there is the first of the others, if any. -/
theorem dropWhile_cases (spare : CoroPtr) (pending : List CoroPtr) :
    pending.dropWhile (· = spare) = [] ∧ pending.filter (· ≠ spare) = [] ∨
    ∃ first later, pending.dropWhile (· = spare) = first :: later ∧
      pending.filter (· ≠ spare) = first :: later.filter (· ≠ spare) := by
  induction pending with
  | nil => exact .inl ⟨rfl, rfl⟩
  | cons head pending ih =>
      by_cases own : head = spare
      · simpa [own] using ih
      · exact .inr ⟨head, pending, by simp [own], by simp [own]⟩

/-- The second manager deletes the extra object where it comes first. -/
theorem skip {left right : List CoroPtr} (at_ : s.frames s.coSelf = .recycle left :: rest)
    (there : t.frames t.coSelf = .recycle right :: rest')
    (rests : List.Forall₂ (FrameTwin spare) rest rest')
    (but : left = right.filter (· ≠ spare)) (busy : t.frames caller ≠ []) (choice : Choice) :
    ∃ labels t', Padded [] labels ∧ Goes caller t labels t' ∧ Twin spare spareId pending s t' ∧
      t'.frames t'.coSelf = .recycle (right.dropWhile (· = spare)) :: rest' ∧
      t'.frames caller ≠ [] := by
  induction right generalizing t with
  | nil => exact ⟨[], t, .nil, rfl, twin, there, busy⟩
  | cons first right ih =>
      by_cases own : first = spare
      · subst own
        let entered := (t.record (.deleting first)).goto t.coSelf
          (.destroy first :: .recycle right :: rest')
        let deleted := (entered.destroyed first).goto t.coSelf (.recycle right :: rest')
        have but : left = right.filter (· ≠ first) := by simpa using but
        have enters :
            t.runFrame choice t.coSelf rest' (.recycle (first :: right)) = .ok entered := by
          have awake : ((t.record (.deleting first)).coro first).yielded = false := twin.idle.1
          simp only [State.runFrame, State.recycle, awake, Bool.false_eq_true, if_false]
          rfl
        have deletes : entered.runFrame choice t.coSelf (.recycle right :: rest') (.destroy first) =
            .ok deleted := by
          have unarmed : (entered.coro first).timerData = none := twin.idle.2
          simp only [State.runFrame, State.destroy, unarmed]
          rfl
        have busyEntered : entered.frames caller ≠ [] := busy_goto busy
        have busyDeleted : deleted.frames caller ≠ [] := busy_goto busyEntered
        have atEntered : entered.frames t.coSelf = .destroy first :: .recycle right :: rest' :=
          Function.update_self ..
        have atDeleted : deleted.frames t.coSelf = .recycle right :: rest' :=
          Function.update_self ..
        have twinDeleted : Twin first spareId pending s deleted := by
          refine { (twin.record (.deleting first) (.deleting first)).destroyedRight with
            frames := fun co => ?_ }
          by_cases running : co = t.coSelf
          · subst running
            rw [atDeleted, twin.coSelf, at_]
            exact .cons (.recycle but) rests
          · have kept : deleted.frames co = t.frames co :=
              (Function.update_of_ne running ..).trans (Function.update_of_ne running ..)
            rw [kept]
            exact twin.frames co
        obtain ⟨labels, t', padded, goes, reached⟩ := ih twinDeleted atDeleted but busyDeleted
        refine ⟨.work choice :: .work choice :: labels, t', .work _ (.work _ padded), ?_, ?_⟩
        · refine .append (work_goes there busy enters) ?_
          exact .append (work_goes atEntered busyEntered deletes) goes
        · simpa using reached
      · refine ⟨[], t, .nil, rfl, twin, ?_, busy⟩
        simpa [own] using there

theorem cleared : Twin spare spareId false { s with waitingForRecycleCoros := .empty }
    { t with waitingForRecycleCoros := .empty } :=
  { twin with waiting := rfl, unused := nofun }

/-- `RecycleContainer` clears the map when nothing is left to delete. -/
theorem recycleDone (choice : Choice) (at_ : s.frames s.coSelf = .recycle [] :: rest)
    (busy : s.frames caller ≠ []) :
    ∃ longer t', Padded [.work choice] longer ∧ Goes caller t longer t' ∧
      Twin spare spareId false (s.recycle s.coSelf rest []) t' := by
  obtain ⟨right, rest', there, but, rests⟩ := twin.recycling at_ (by simp)
  obtain ⟨labels, t', padded, goes, reached, atT, busyT⟩ :=
    twin.skip at_ there rests but (twin.busy busy) choice
  rcases dropWhile_cases spare right with ⟨dropped, _⟩ | ⟨first, later, _, more⟩
  · rw [dropped] at atT
    refine ⟨labels ++ [.work choice], _, padded.append (.keep _ .nil),
      goes.append (work_goes atT busyT rfl), ?_⟩
    rw [reached.coSelf]
    exact reached.cleared.goto _ rests
  · rw [more] at but
    cases but

/-- `RecycleContainer` enters the next destructor. -/
theorem recycleNext {first : CoroPtr} {left : List CoroPtr} {choice : Choice}
    (at_ : s.frames s.coSelf = .recycle (first :: left) :: rest)
    (others : ∀ coro ∈ first :: left, coro ≠ spare) (busy : s.frames caller ≠ []) :
    ∃ longer t', Padded [.work choice] longer ∧ Goes caller t longer t' ∧
      Twin spare spareId pending (s.recycle s.coSelf rest (first :: left)) t' := by
  obtain ⟨right, rest', there, but, rests⟩ := twin.recycling at_ others
  obtain ⟨labels, t', padded, goes, reached, atT, busyT⟩ :=
    twin.skip at_ there rests but (twin.busy busy) choice
  rcases dropWhile_cases spare right with ⟨_, none⟩ | ⟨next, later, dropped, more⟩
  · rw [none] at but
    cases but
  · rw [dropped] at atT
    rw [more] at but
    cases but
    refine ⟨labels ++ [.work choice], _, padded.append (.keep _ .nil),
      goes.append (work_goes atT busyT rfl), ?_⟩
    have alike : FrameTwin spare (.recycle (later.filter (· ≠ spare))) (.recycle later) :=
      .recycle rfl
    have object : (t'.record (.deleting first)).coro first =
        (s.record (.deleting first)).coro first :=
      reached.object first (others first List.mem_cons_self)
    rw [reached.coSelf]
    simp only [State.recycle, object]
    split
    · exact (reached.record _ _).goto _ (.cons (.same _) (.cons (.same _) (.cons alike rests)))
    · exact (reached.record _ _).goto _ (.cons (.same _) (.cons alike rests))

/-- `RecycleContainer` goes on. -/
theorem recycle {left : List CoroPtr} {choice : Choice}
    (at_ : s.frames s.coSelf = .recycle left :: rest) (others : ∀ coro ∈ left, coro ≠ spare)
    (busy : s.frames caller ≠ []) :
    Follows spare spareId pending caller [.work choice] s (s.recycle s.coSelf rest left) t := by
  cases left with
  | nil =>
      obtain ⟨longer, t', padded, goes, reached⟩ := twin.recycleDone choice at_ busy
      exact ⟨false, longer, t', padded, goes, reached, nofun⟩
  | cons first left =>
      obtain ⟨longer, t', padded, goes, reached⟩ := twin.recycleNext at_ others busy
      refine ⟨pending, longer, t', padded, goes, reached, fun same => ⟨same, fun co recycles => ?_⟩⟩
      simp only [State.recycle]
      split
      all_goals exact willRecycle_goto recycles (by simp [Frame.recycles])

/-- `Update` begins to delete finished objects. -/
theorem updateRecycle (named : s.registry.Named) {choice : Choice}
    (at_ : s.frames s.coSelf = .updateRecycle :: rest) (busy : s.frames caller ≠ []) :
    Follows spare spareId pending caller [.work choice] s (s.updateRecycle s.coSelf rest) t := by
  have alike := twin.frames s.coSelf
  rw [at_] at alike
  obtain ⟨call, rest', first, rests, there⟩ := List.forall₂_cons_left_iff.mp alike
  cases first
  rw [← twin.coSelf] at there
  have goes : ∀ {t' : State}, t.updateRecycle t.coSelf rest' = t' →
      Goes caller t [.work choice] t' := by
    rintro _ rfl
    exact work_goes there (twin.busy busy) rfl
  cases pending with
  | false =>
      refine ⟨false, [.work choice], _, .keep _ .nil, goes rfl, ?_, nofun⟩
      have waiting : t.waitingForRecycleCoros = s.waitingForRecycleCoros := by
        simpa using twin.waiting
      simp only [State.updateRecycle, waiting, twin.coSelf]
      split
      · exact twin.goto _ rests
      · exact (twin.record _ _).goto _ (.cons (.same _) rests)
  | true =>
      have waiting : t.waitingForRecycleCoros = s.waitingForRecycleCoros.emplace spareId spare := by
        simpa using twin.waiting
      have values : (s.waitingForRecycleCoros.emplace spareId spare).values.filter (· ≠ spare) =
          s.waitingForRecycleCoros.values := by
        refine OrdMap.values_emplace _ (twin.unused rfl) fun other found => ?_
        exact twin.ne_of_lt (named.waitingKey other spare found).1 rfl
      have begins : t.updateRecycle t.coSelf rest' = (t.record .recycling).goto s.coSelf
          (.recycle (s.waitingForRecycleCoros.emplace spareId spare).values :: rest') := by
        rw [State.updateRecycle, waiting, if_neg (OrdMap.emplace_nonempty _ _ _), twin.coSelf]
      have recorded : Twin spare spareId true s (t.record .recycling) := { twin with }
      by_cases none : s.waitingForRecycleCoros.entries.isEmpty
      · -- The first manager has nothing to delete; the second one deletes the extra object.
        have empty : s.waitingForRecycleCoros = .empty := OrdMap.eq_empty none
        have noValues : s.waitingForRecycleCoros.values = [] := by rw [empty]; rfl
        have entered := recorded.goto s.coSelf (.cons (.recycle (noValues ▸ values.symm)) rests)
        obtain ⟨longer, t', padded, onward, reached⟩ :=
          entered.recycleDone choice (Function.update_self ..) (busy_goto busy)
        refine ⟨false, .work choice :: longer, t', .work _ padded, (goes begins).append onward, ?_,
          nofun⟩
        have same : (s.goto s.coSelf (.recycle [] :: rest)).recycle s.coSelf rest [] =
            s.updateRecycle s.coSelf rest := by
          rw [State.updateRecycle, if_pos none]
          simp only [State.recycle, State.goto, Function.update_idem, ← empty]
        exact same ▸ reached
      · refine ⟨true, [.work choice], _, .keep _ .nil, goes begins, ?_,
          fun same => ⟨same, fun co recycles => ?_⟩⟩
        · rw [State.updateRecycle, if_neg none]
          exact (twin.record _ _).goto _ (.cons (.recycle values.symm) rests)
        · rw [State.updateRecycle, if_neg none]
          exact willRecycle_goto recycles (by simp [Frame.recycles])

end Twin

/-! ## Whole calls -/

theorem Twin.quietly (twin : Twin spare spareId pending s t) (quietly : Quietly caller s label) :
    Quietly caller t label := by
  refine ⟨twin.busy quietly.1, ?_⟩
  have quiet := quietly.2
  cases label with
  | work choice => rfl
  | user op =>
      cases op with
      | createCoro => cases quiet
      | start =>
          rw [State.issues, twin.coSelf]
          exact quiet
      | _ => rfl

section Runs

variable {env : Bool} (run : machine.Run TakesFreeId (State.init env) s)
  (run' : machine.Run TakesFreeId (State.init env) t)

include run

theorem Twin.others (twin : Twin spare spareId pending s t) {frame : Frame}
    (at_ : s.frames s.coSelf = frame :: rest) : ∀ coro ∈ frame.coros, coro ≠ spare :=
  fun coro has => twin.ne_of_lt
    (framed_of_run run s.coSelf frame (at_ ▸ List.mem_cons_self) coro has)

include run'

/-- Framework code that does not delete finished objects does the same in both. -/
theorem Twin.work (twin : Twin spare spareId pending s t) {frame : Frame} {choice : Choice}
    (at_ : s.frames s.coSelf = frame :: rest) (deletes : frame.recycles = false)
    (ran : s.runFrame choice s.coSelf rest frame = .ok s') :
    ∃ t', machine.step t (.work choice) = .ok t' ∧ Twin spare spareId pending s' t' := by
  have calls := twin.frames s.coSelf
  rw [at_] at calls
  obtain ⟨call, rest', first, rests, there⟩ := List.forall₂_cons_left_iff.mp calls
  have same : call = frame := by
    cases first with
    | same => rfl
    | recycle => cases deletes
  subst same
  have told : ∀ coro dueTime, call = .timerSchedule coro dueTime →
      s.ret = llbcOk ∧ t.ret = llbcOk := by
    rintro coro dueTime rfl
    exact ⟨ret_of_run run at_, ret_of_run run' (twin.coSelf ▸ there)⟩
  obtain ⟨t', ranT, reached⟩ :=
    twin.runFrame rests (named_of_run run) (twin.others run at_) told deletes s' ran
  refine ⟨t', ?_, reached⟩
  simpa [machine, State.step, there, twin.coSelf] using ranT

/-- The second manager follows one step. -/
theorem Twin.step (twin : Twin spare spareId pending s t) (quietly : Quietly caller s label)
    (taken : machine.step s label = .ok s') :
    Follows spare spareId pending caller [label] s s' t := by
  have named := named_of_run run
  have alike : ∀ {t' : State}, machine.step t label = .ok t' → Twin spare spareId pending s' t' →
      (∀ frame rest, s.frames s.coSelf = frame :: rest → frame.recycles = false) →
      Follows spare spareId pending caller [label] s s' t := by
    intro t' takenT reached others
    exact ⟨pending, [label], t', .keep _ .nil, .cons (twin.quietly quietly) takenT rfl, reached,
      fun same => ⟨same, fun _ => recycles_step taken others⟩⟩
  cases label with
  | user op =>
      have userRuns := userRuns_of_step taken
      have none : s.frames s.coSelf = [] := userRuns
      have calls := twin.frames s.coSelf
      rw [none, ← twin.coSelf] at calls
      have userRunsT : t.UserRuns := List.forall₂_nil_left_iff.mp calls
      rw [user_step userRuns] at taken
      obtain ⟨t', takenT, reached⟩ := twin.userStep named quietly.2 s' taken
      rw [← user_step userRunsT] at takenT
      exact alike takenT reached fun _ _ at_ => by simp [none] at at_
  | work choice =>
      cases at_ : s.frames s.coSelf with
      | nil => simp [machine, State.step, at_] at taken
      | cons frame rest =>
          have ran : s.runFrame choice s.coSelf rest frame = .ok s' := by
            simpa [machine, State.step, at_] using taken
          cases deletes : frame.recycles with
          | false =>
              obtain ⟨t', takenT, reached⟩ := twin.work run run' at_ deletes ran
              refine alike takenT reached fun _ _ again => ?_
              cases at_.symm.trans again
              exact deletes
          | true =>
              cases frame with
              | updateRecycle =>
                  cases ran
                  exact twin.updateRecycle named at_ quietly.1
              | recycle left =>
                  cases ran
                  exact twin.recycle at_ (twin.others run at_) quietly.1
              | _ => cases deletes

/-- The second manager follows the first one as long as that is in the call. -/
theorem Twin.follows (twin : Twin spare spareId pending s t) {labels : List Label}
    (goes : Goes caller s labels s') : Follows spare spareId pending caller labels s s' t := by
  induction labels generalizing s t pending with
  | nil =>
      cases goes
      exact ⟨pending, [], t, .nil, rfl, twin, fun same => ⟨same, fun _ => id⟩⟩
  | cons label labels ih =>
      obtain ⟨middle, passes, taken, onward⟩ := Machine.replay_cons_cases goes
      have quietly : Quietly caller s label := of_decide_eq_true passes
      obtain ⟨after, longer, t', padded, goesT, reached, kept⟩ := twin.step run run' quietly taken
      have first : Goes caller s [label] middle := .cons quietly taken rfl
      obtain ⟨last, further, t'', paddedT, goesT', ended, keptT⟩ :=
        ih (run.trans first.run) (run'.trans goesT.run) reached onward
      refine ⟨last, longer ++ further, t'', padded.append paddedT, goesT.append goesT', ended, ?_⟩
      intro still
      obtain ⟨between, later⟩ := keptT still
      obtain ⟨before, earlier⟩ := kept between
      exact ⟨before, fun co recycles => later co (earlier co recycles)⟩

end Runs

/-- `Update` is called at `s`, goes through these steps and returns at `s'`. No coroutine is
created meanwhile. -/
def Updates (s : State) (labels : List Label) (s' : State) : Prop :=
  ∃ asked, machine.step s (.user .update) = .ok asked ∧ Goes s.coSelf asked labels s' ∧
    s'.frames s.coSelf = []

/-- Two managers agree on the registered coroutines, on those to be deleted, on the call stack
and on the timers, and on every object but one. -/
structure Alike (spare : CoroPtr) (s t : State) : Prop where
  coros : t.coros = s.coros
  waiting : t.waitingForRecycleCoros = s.waitingForRecycleCoros
  callStack : t.callStack = s.callStack
  heap : t.heap = s.heap
  data : t.data = s.data
  maxTimerId : t.maxTimerId = s.maxTimerId
  object : ∀ coro, coro ≠ spare → t.coro coro = s.coro coro

theorem Twin.alike (twin : Twin spare spareId false s t) : Alike spare s t :=
  ⟨twin.coros, by simpa using twin.waiting, twin.callStack, twin.heap, twin.data, twin.maxTimerId,
    twin.object⟩

theorem run_update {env : Bool} (run : machine.Run TakesFreeId (State.init env) s)
    (userRuns : s.UserRuns) : machine.Run TakesFreeId (State.init env)
      (s.goto s.coSelf [.schedUpdate, .updateRecycle]) := by
  have free : TakesFreeId s (.user .update) := fun _ issued => by cases issued
  exact .step run free (user_step userRuns)

/-- After an `Update` nothing is left of the extra coroutine. -/
theorem Twin.updates (twin : Twin spare spareId pending s t) {env : Bool}
    (run : machine.Run TakesFreeId (State.init env) s)
    (run' : machine.Run TakesFreeId (State.init env) t) {labels : List Label}
    (updates : Updates s labels s') :
    ∃ longer t', Padded labels longer ∧ Updates t longer t' ∧ Alike spare s' t' := by
  obtain ⟨asked, asks, goes, returned⟩ := updates
  have userRuns := userRuns_of_step asks
  have none : s.frames s.coSelf = [] := userRuns
  have calls := twin.frames s.coSelf
  rw [none, ← twin.coSelf] at calls
  have userRunsT : t.UserRuns := List.forall₂_nil_left_iff.mp calls
  rw [user_step userRuns] at asks
  cases asks
  have entered := twin.goto s.coSelf
    (.cons (.same .schedUpdate) (.cons (.same .updateRecycle) .nil))
  obtain ⟨after, longer, t', padded, goesT, ended, kept⟩ :=
    entered.follows (run_update run userRuns) (twin.coSelf ▸ run_update run' userRunsT) goes
  have deleted : after = false := by
    cases after with
    | false => rfl
    | true =>
        have recycles : WillRecycle (s.goto s.coSelf [.schedUpdate, .updateRecycle]) s.coSelf :=
          ⟨.updateRecycle, by simp [State.goto], rfl⟩
        obtain ⟨frame, member, _⟩ := (kept rfl).2 s.coSelf recycles
        rw [returned] at member
        cases member
  subst deleted
  refine ⟨longer, t', padded, ⟨_, user_step userRunsT, twin.coSelf ▸ goesT, ?_⟩, ended.alike⟩
  have calls := ended.frames s.coSelf
  rw [returned, ← twin.coSelf] at calls
  exact List.forall₂_nil_left_iff.mp calls

end LibcoRpc.CoroMgr
