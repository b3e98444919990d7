import LibcoRpc.Semantics.Machine

/-!
# Machines in lockstep

A machine that keeps its state in more detail takes each of its steps together with a
machine that keeps less: both go on, to states that are related again, or both fault. What
holds of every run of the second machine then holds of every run of the first that stays
within the limits of its state.
-/

namespace LibcoRpc

/-- Both go on, or both fault. -/
inductive Agrees {C A F G : Type} (Rel : C → A → Prop) (Same : F → G → Prop) :
    Except F C → Except G A → Prop where
  | ok {c a} (related : Rel c a) : Agrees Rel Same (.ok c) (.ok a)
  | error {f g} (same : Same f g) : Agrees Rel Same (.error f) (.error g)

/-- Each step of the concrete machine from a state within its limits is one of the abstract
machine. -/
structure Lockstep {C L F A M G : Type} (concrete : Machine C L F) (abstract : Machine A M G)
    where
  Rel : C → A → Prop
  Within : C → Prop
  Same : F → G → Prop
  label : C → L → M
  agrees : ∀ {c a}, Rel c a → Within c → ∀ l,
    Agrees Rel Same (concrete.step c l) (abstract.step a (label c l))

variable {C L F A M G : Type} {concrete : Machine C L F} {abstract : Machine A M G}

theorem Lockstep.run (lockstep : Lockstep concrete abstract) {AllowedC : C → L → Prop}
    {AllowedA : A → M → Prop} {c c' : C} {a : A} (related : lockstep.Rel c a)
    (allowed : ∀ {c a l}, lockstep.Rel c a → AllowedC c l →
      lockstep.Within c ∧ AllowedA a (lockstep.label c l))
    (run : concrete.Run AllowedC c c') :
    ∃ a', abstract.Run AllowedA a a' ∧ lockstep.Rel c' a' := by
  induction run with
  | start => exact ⟨a, .start, related⟩
  | @step state label next _ meets taken ih =>
      obtain ⟨middle, prior, here⟩ := ih
      obtain ⟨within, meets⟩ := allowed here meets
      have both := lockstep.agrees here within label
      rw [taken] at both
      cases reached : abstract.step middle (lockstep.label state label) with
      | error => rw [reached] at both; cases both
      | ok last =>
          rw [reached] at both
          cases both with
          | ok there => exact ⟨last, .step prior meets reached, there⟩

end LibcoRpc
