import Mathlib.Logic.Basic

/-!
# Machines that work between resting states

A `Machine` takes one label at a time and either reaches a next state or faults.
Some of its states are resting states, where an invariant can be stated plainly;
between them it works through intermediate states in which the invariant is
broken. `Settles` says that every way of working on from a state ends at a
resting state with a given property, that every state on the way has another, and
that no fault outside a tolerated set can occur. `Run.settles` turns a step lemma
from resting state to resting state into a property of every run, without naming an
intermediate state.
-/

namespace LibcoRpc

/-- A deterministic fallible step, driven by labels. -/
structure Machine (State Label Fault : Type) where
  step : State → Label → Except Fault State

namespace Machine

variable {State Label Fault : Type} (machine : Machine State Label Fault)

/-- Feed a list of labels to the machine, as long as each one passes a check and none
faults. -/
def replay (check : State → Label → Bool) (state : State) : List Label → Option State
  | [] => some state
  | label :: rest =>
      if check state label then
        match machine.step state label with
        | .ok next => replay check next rest
        | .error _ => none
      else none

/-- The state that a list of labels leads to, if it leads to one. -/
@[irreducible]
def play (state : State) (labels : List Label) : State :=
  (machine.replay (fun _ _ => true) state labels).getD state

/-- The fault that a list of labels runs into, if it does. -/
def fault (state : State) : List Label → Option Fault
  | [] => none
  | label :: rest =>
      match machine.step state label with
      | .ok next => fault next rest
      | .error found => some found

/-- The states reached from `start` by steps that all meet `Allowed`. -/
inductive Run (Allowed : State → Label → Prop) (start : State) : State → Prop where
  | start : Run Allowed start start
  | step {state label next} (prior : Run Allowed start state)
      (allowed : Allowed state label) (taken : machine.step state label = .ok next) :
      Run Allowed start next

/-- Every way of working on from a state ends in a resting state where `Goal`
holds, passes only states where `Along` holds, and meets only tolerated faults. -/
inductive Settles (Allowed : State → Label → Prop) (Tolerated : Fault → Prop)
    (Rest Goal Along : State → Prop) : State → Prop where
  | rest {state} (resting : Rest state) (goal : Goal state) :
      Settles Allowed Tolerated Rest Goal Along state
  | work {state} (busy : ¬ Rest state) (along : Along state)
      (onward : ∀ label next, Allowed state label → machine.step state label = .ok next →
        Settles Allowed Tolerated Rest Goal Along next)
      (safe : ∀ label fault, Allowed state label → machine.step state label = .error fault →
        Tolerated fault) :
      Settles Allowed Tolerated Rest Goal Along state

variable {machine} {Allowed : State → Label → Prop} {Tolerated : Fault → Prop}
  {Rest Goal Along : State → Prop} {start state next : State}

theorem Run.trans (first : machine.Run Allowed start state)
    (second : machine.Run Allowed state next) : machine.Run Allowed start next := by
  induction second with
  | start => exact first
  | step _ allowed taken ih => exact .step ih allowed taken

/-- A run under one discipline is a run under any weaker one. -/
theorem Run.mono {Weaker : State → Label → Prop} (run : machine.Run Allowed start state)
    (weaker : ∀ state label, Allowed state label → Weaker state label) :
    machine.Run Weaker start state := by
  induction run with
  | start => exact .start
  | step _ allowed taken ih => exact .step ih (weaker _ _ allowed) taken

/-- An invariant of every step holds at the end of every run. -/
theorem Run.invariant (Inv : State → Prop) (run : machine.Run Allowed start state)
    (initial : Inv start)
    (preserved : ∀ state label next, Inv state → Allowed state label →
      machine.step state label = .ok next → Inv next) : Inv state := by
  induction run with
  | start => exact initial
  | step _ allowed taken ih => exact preserved _ _ _ ih allowed taken

/-- An invariant of every step may be added to the discipline of a run. -/
theorem Run.and_invariant (Inv : State → Prop) (run : machine.Run Allowed start state)
    (initial : Inv start)
    (preserved : ∀ state label next, Inv state → Allowed state label →
      machine.step state label = .ok next → Inv next) :
    machine.Run (fun state label => Allowed state label ∧ Inv state) start state := by
  induction run with
  | start => exact .start
  | step prior allowed taken ih =>
      exact .step ih ⟨allowed, prior.invariant Inv initial preserved⟩ taken

/-- A replay goes on from the state a label leads to. -/
theorem replay_cons (check : State → Label → Bool) {label : Label} {rest : List Label}
    (passes : check start label = true) (taken : machine.step start label = .ok state) :
    machine.replay check start (label :: rest) = machine.replay check state rest := by
  simp only [replay, passes, taken, if_true]

/-- A replay that succeeds begins with a step. -/
theorem replay_cons_cases {check : State → Label → Bool} {label : Label} {rest : List Label}
    (replayed : machine.replay check start (label :: rest) = some next) :
    ∃ state, check start label = true ∧ machine.step start label = .ok state ∧
      machine.replay check state rest = some next := by
  simp only [replay] at replayed
  split at replayed
  next passes =>
    split at replayed
    next state taken => exact ⟨state, passes, taken, replayed⟩
    next => cases replayed
  next => cases replayed

/-- A replay under one check succeeds as well under any weaker one. -/
theorem replay_mono {check weaker : State → Label → Bool} {labels : List Label}
    (implies : ∀ state label, check state label = true → weaker state label = true)
    (replayed : machine.replay check start labels = some state) :
    machine.replay weaker start labels = some state := by
  induction labels generalizing start with
  | nil => exact replayed
  | cons label labels ih =>
      obtain ⟨middle, passes, taken, onward⟩ := replay_cons_cases replayed
      rw [replay_cons weaker (implies _ _ passes) taken]
      exact ih onward

/-- Replays compose. -/
theorem replay_append {check : State → Label → Bool} {labels rest : List Label}
    (first : machine.replay check start labels = some state) :
    machine.replay check start (labels ++ rest) = machine.replay check state rest := by
  induction labels generalizing start with
  | nil =>
      cases first
      rfl
  | cons label labels ih =>
      obtain ⟨middle, passes, taken, onward⟩ := replay_cons_cases first
      rw [List.cons_append, replay_cons check passes taken, ih onward]

/-- A replay whose check enforces the discipline is a run. -/
theorem Run.of_replay {check : State → Label → Bool} {labels : List Label}
    (sound : ∀ state label, check state label = true → Allowed state label)
    (replayed : machine.replay check start labels = some state) :
    machine.Run Allowed start state := by
  induction labels generalizing start with
  | nil =>
      cases replayed
      exact .start
  | cons label rest ih =>
      obtain ⟨middle, passes, taken, onward⟩ := replay_cons_cases replayed
      exact Run.trans (.step .start (sound _ _ passes) taken) (ih onward)

/-- A replay of one label is a step. -/
theorem step_of_replay {check : State → Label → Bool} {label : Label}
    (replayed : machine.replay check start [label] = some next) :
    machine.step start label = .ok next := by
  obtain ⟨reached, _, taken, done⟩ := replay_cons_cases replayed
  cases done
  exact taken

theorem play_of_replay {check : State → Label → Bool} {labels : List Label}
    (replayed : machine.replay check start labels = some state) :
    machine.play start labels = state := by
  rw [play, replay_mono (fun _ _ _ => rfl) replayed, Option.getD_some]

/-- Labels that keep the discipline lead on a run. -/
theorem Run.of_play [∀ state label, Decidable (Allowed state label)] {labels : List Label}
    (plays : (machine.replay (fun state label => decide (Allowed state label)) start
      labels).isSome = true) :
    machine.Run Allowed start (machine.play start labels) := by
  obtain ⟨state, replayed⟩ := Option.isSome_iff_exists.mp plays
  rw [play_of_replay replayed]
  exact .of_replay (fun _ _ passes => of_decide_eq_true passes) replayed

theorem step_of_play {label : Label}
    (plays : (machine.replay (fun _ _ => true) start [label]).isSome = true) :
    machine.step start label = .ok (machine.play start [label]) := by
  obtain ⟨next, replayed⟩ := Option.isSome_iff_exists.mp plays
  rw [play_of_replay replayed]
  exact step_of_replay replayed

/-- The fault of one label is the fault of its step. -/
theorem step_of_fault {label : Label} {fault : Fault}
    (failed : machine.fault state [label] = some fault) :
    machine.step state label = .error fault := by
  simp only [Machine.fault] at failed
  split at failed
  next => cases failed
  next found taken =>
    cases failed
    exact taken

/-- The fault in the step after a replay. -/
theorem fault_of_replay {check : State → Label → Bool} {labels : List Label}
    (replayed : machine.replay check start labels = some state) {label : Label} {fault : Fault}
    (failed : machine.step state label = .error fault) :
    machine.fault start (labels ++ [label]) = some fault := by
  induction labels generalizing start with
  | nil =>
      cases replayed
      simp only [List.nil_append, Machine.fault, failed]
  | cons first rest ih =>
      obtain ⟨middle, _, taken, onward⟩ := replay_cons_cases replayed
      simp only [List.cons_append, Machine.fault, taken, ih onward]

/-- At a resting state the property itself holds. -/
theorem Settles.goal (settles : machine.Settles Allowed Tolerated Rest Goal Along state)
    (resting : Rest state) : Goal state := by
  cases settles with
  | rest _ goal => exact goal
  | work busy _ _ _ => exact absurd resting busy

/-- At any other state the property of the states on the way holds. -/
theorem Settles.along (settles : machine.Settles Allowed Tolerated Rest Goal Along state)
    (busy : ¬ Rest state) : Along state := by
  cases settles with
  | rest resting _ => exact absurd resting busy
  | work _ along _ _ => exact along

/-- When every resting state with the property settles again after one step, every
state of every run settles. -/
theorem Run.settles (run : machine.Run Allowed start state)
    (initial : machine.Settles Allowed Tolerated Rest Goal Along start)
    (closed : ∀ state label next, Rest state → Goal state → Allowed state label →
      machine.step state label = .ok next →
        machine.Settles Allowed Tolerated Rest Goal Along next) :
    machine.Settles Allowed Tolerated Rest Goal Along state := by
  induction run with
  | start => exact initial
  | step _ allowed taken ih =>
      cases ih with
      | rest resting goal => exact closed _ _ _ resting goal allowed taken
      | work _ _ onward _ => exact onward _ _ allowed taken

/-- Where every state of a run settles, a fault is tolerated or strikes a resting state. -/
theorem Settles.fault (settles : machine.Settles Allowed Tolerated Rest Goal Along state)
    {label : Label} {fault : Fault} (allowed : Allowed state label)
    (failed : machine.step state label = .error fault) :
    Tolerated fault ∨ Rest state ∧ Goal state := by
  cases settles with
  | rest resting goal => exact .inr ⟨resting, goal⟩
  | work _ _ _ safe => exact .inl (safe _ _ allowed failed)

end Machine
end LibcoRpc
