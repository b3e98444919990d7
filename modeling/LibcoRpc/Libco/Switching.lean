import LibcoRpc.Libco.Layout
import LibcoRpc.Semantics.Machine

/-!
# Switching between contexts

Any number of coroutines with stacks of their own, of which one runs. Coroutines are created
and released in between, and memory that one had may become that of another. Their code is not
modelled: a step says with what registers the code goes on, and which bytes it has written.
Code leaves alone the contexts and the stacks of the other coroutines that wait for a switch.
It switches to one of them by a call of `coctx_swap`, which is run instruction by instruction.

Whatever the others do in the meantime, a coroutine goes on where it has called `coctx_swap`,
with the registers and the stack that it had (`switch_comes_back`); and one whose context
comes from `coctx_make` begins with the call that it was made for (`first_switch_calls`).
-/

namespace LibcoRpc.Libco

open LibcoRpc.Std LibcoRpc.X86

/-- What some code leaves behind: registers, and the bytes it has written. -/
structure Code where
  regs : Reg → Word
  rip : Word
  writes : List (Word × BitVec 8)

structure State where
  cpu : Cpu
  running : Nat
  layout : Layout
  /-- The context has been made or saved. No code reads it. -/
  ready : Nat → Bool

inductive Label where
  /-- Code of the running coroutine. -/
  | run (code : Code)
  /-- `co_create_env`, with the memory that `malloc` returns. -/
  | create (co : Nat) (place : Place)
  /-- `co_free`. -/
  | release (co : Nat)
  /-- `coctx_make(&ctx[co], pfn, s, s1)`. -/
  | make (co : Nat) (pfn s s1 : Word)
  /-- Code up to a call of `coctx_swap(&ctx[running], &ctx[next])`, and that call. -/
  | swap (next : Nat) (code : Code)

inductive Fault where
  /-- `co_free` of what has been freed. -/
  | doubleFree
deriving DecidableEq, Repr

namespace State

abbrev place (s : State) (co : Nat) : Place := s.layout.place co

/-- The machine after some code. -/
def after (s : State) (code : Code) : Cpu :=
  ⟨code.regs, writeAll s.cpu.mem code.writes, code.rip⟩

/-- The `memset` clears the whole `stCoRoutine_t`. `malloc` returns nothing that is in use. -/
def create (s : State) (co : Nat) (place : Place) : State :=
  if free : s.layout.Free place then
    { s with
      cpu := { s.cpu with mem := fill s.cpu.mem place.block 0 }
      layout := s.layout.add co place free
      ready := Function.update s.ready co false }
  else s

def release (s : State) (co : Nat) : State :=
  { s with layout := s.layout.remove co, ready := Function.update s.ready co false }

def make (s : State) (co : Nat) (pfn param param1 : Word) : State :=
  let mem := coctxMake s.cpu.mem (s.place co).ctx (s.place co).stack.base (s.place co).stack.size
    pfn param param1
  { s with cpu := { s.cpu with mem := mem }, ready := Function.update s.ready co true }

def swap (s : State) (next : Nat) (code : Code) : State :=
  { s with
    cpu := (s.after code).exec coctxSwap
    running := next
    ready := Function.update s.ready s.running true }

def next (s : State) : Label → State
  | .run code => { s with cpu := s.after code }
  | .create co place => s.create co place
  | .release co => s.release co
  | .make co pfn param param1 => s.make co pfn param param1
  | .swap next code => s.swap next code

def step (s : State) (label : Label) : Except Fault State :=
  match label with
  | .release co => if co ∈ s.layout.live then .ok (s.next label) else .error .doubleFree
  | _ => .ok (s.next label)

end State

/-- The coroutines as a machine. -/
def switching : Machine State Label Fault where
  step := State.step

/-- The code writes neither into the context nor into the stack of another coroutine that waits
for a switch. -/
def Tidy (s : State) (code : Code) : Prop :=
  ∀ write ∈ code.writes, ∀ co ∈ s.layout.live, co ≠ s.running → s.ready co = true →
    ¬ (s.place co).Keeps write.1

instance (s : State) (code : Code) : Decidable (Tidy s code) :=
  List.decidableBAll _ code.writes

/-- What a step may be. A coroutine is created in memory that is free, and the running one is
not released. A stack for `coctx_make` has room for the first return address below its aligned
end, and a size that is an `int`. `coctx_swap` is called on the stack of the running coroutine,
and for a context that has been made or saved. -/
def Orderly (s : State) : Label → Prop
  | .run code => Tidy s code
  | .create co place => co ∉ s.layout.live ∧ s.layout.Free place
  | .release co => co ≠ s.running
  | .make co _ _ _ =>
      co ∈ s.layout.live ∧ co ≠ s.running ∧ 24 ≤ (s.place co).stack.size ∧
        (s.place co).stack.size < 2 ^ 31
  | .swap next code =>
      next ≠ s.running ∧ s.ready next = true ∧ Tidy s code ∧
        code.regs .rdi = (s.place s.running).ctx ∧ code.regs .rsi = (s.place next).ctx ∧
        (s.place s.running).stack.offset (code.regs .rsp) + 8 ≤ (s.place s.running).stack.size

instance (s : State) : (label : Label) → Decidable (Orderly s label)
  | .run code => inferInstanceAs (Decidable (Tidy s code))
  | .create _ _ => inferInstanceAs (Decidable (_ ∧ _))
  | .release _ => inferInstanceAs (Decidable (_ ≠ _))
  | .make _ _ _ _ => inferInstanceAs (Decidable (_ ∧ _ ∧ _ ∧ _))
  | .swap _ _ => inferInstanceAs (Decidable (_ ∧ _ ∧ _ ∧ _ ∧ _ ∧ _))

/-- The step neither switches to a coroutine nor makes its context anew nor releases it. -/
def Spares (co : Nat) : Label → Prop
  | .run _ => True
  | .create _ _ => True
  | .release other => other ≠ co
  | .make other _ _ _ => other ≠ co
  | .swap next _ => next ≠ co

instance (co : Nat) : (label : Label) → Decidable (Spares co label)
  | .run _ => isTrue trivial
  | .create _ _ => isTrue trivial
  | .release other => inferInstanceAs (Decidable (other ≠ co))
  | .make other _ _ _ => inferInstanceAs (Decidable (other ≠ co))
  | .swap next _ => inferInstanceAs (Decidable (next ≠ co))

/-- Every context that can be switched to has a stack pointer into its own stack. -/
structure Sound (s : State) : Prop where
  running : s.running ∈ s.layout.live
  live : ∀ co, s.ready co = true → co ∈ s.layout.live
  slot : ∀ co, co ≠ s.running → s.ready co = true →
    (s.place co).stack.offset (regsAt s.cpu.mem (s.place co).ctx kRSP) + 8 ≤
      (s.place co).stack.size

section

variable {s s' : State} {label : Label} {co : Nat} {code : Code}
  {here pfn param param1 : Word}

/-- A step that does not fault leads to `next`. -/
theorem next_of_step (taken : switching.step s label = .ok s') : s' = s.next label := by
  cases label with
  | release co =>
      simp only [switching, State.step] at taken
      split at taken <;> cases taken
      rfl
  | _ =>
      cases taken
      rfl

theorem create_of_free {place : Place} (free : s.layout.Free place) :
    s.create co place =
      { s with
        cpu := { s.cpu with mem := fill s.cpu.mem place.block 0 }
        layout := s.layout.add co place free
        ready := Function.update s.ready co false } :=
  dif_pos free

/-- A coroutine that is created has memory. -/
theorem create_live {place : Place} (free : s.layout.Free place) :
    (s.create co place).layout.live = co :: s.layout.live := by
  rw [create_of_free free, Layout.add]

/-- It is where `malloc` has put it. -/
theorem create_place {place : Place} (free : s.layout.Free place) :
    (s.create co place).place co = place := by
  rw [create_of_free free]
  exact Function.update_self ..

/-- What a waiting coroutine keeps is not written by the code of another. -/
theorem Tidy.after_mem (tidy : Tidy s code) (live : co ∈ s.layout.live) (away : co ≠ s.running)
    (ready : s.ready co = true) (keeps : (s.place co).Keeps here) :
    (s.after code).mem here = s.cpu.mem here :=
  writeAll_of_forall_ne fun write member same =>
    tidy write member co live away ready (same ▸ keeps)

/-! ## One switch -/

/-- Code calls `coctx_swap` from its own stack, for a context whose stack pointer is in the
stack of the next coroutine. -/
structure Swaps (s : State) (next : Nat) (code : Code) : Prop where
  running : s.running ∈ s.layout.live
  live : next ∈ s.layout.live
  differ : next ≠ s.running
  ready : s.ready next = true
  tidy : Tidy s code
  rdi : (s.after code).regs .rdi = (s.place s.running).ctx
  rsi : (s.after code).regs .rsi = (s.place next).ctx
  own : (s.place s.running).stack.offset (code.regs .rsp) + 8 ≤ (s.place s.running).stack.size
  slot : (s.place next).stack.offset (regsAt (s.after code).mem (s.place next).ctx kRSP) + 8 ≤
    (s.place next).stack.size

/-- Every orderly call of `coctx_swap` is such a call. -/
theorem Sound.swaps (sound : Sound s) {next : Nat} (orderly : Orderly s (.swap next code)) :
    Swaps s next code := by
  obtain ⟨differ, ready, tidy, rdi, rsi, own⟩ := orderly
  have live := sound.live next ready
  refine ⟨sound.running, live, differ, ready, tidy, rdi, rsi, own, ?_⟩
  -- The code before the call leaves the context as it is.
  have kept : regsAt (s.after code).mem (s.place next).ctx kRSP =
      regsAt s.cpu.mem (s.place next).ctx kRSP :=
    regsAt_congr (by decide) fun _ inContext =>
      tidy.after_mem live differ ready (.inl inContext)
  rw [kept]
  exact sound.slot next differ ready

namespace Swaps

variable {next : Nat} (swaps : Swaps s next code)

include swaps

theorem apart : (s.place next).Apart (s.place s.running) :=
  s.layout.apart next swaps.live s.running swaps.running swaps.differ

theorem contexts : Region.Disjoint ⟨(s.after code).regs .rsi, contextSize⟩
    ⟨(s.after code).regs .rdi, contextSize⟩ := by
  rw [swaps.rsi, swaps.rdi]
  exact swaps.apart.contexts

/-- Outside the context that is saved and the stack that is switched to, memory is as the
code has left it. -/
theorem mem_of_not_mem (notContext : here ∉ (s.place s.running).context)
    (notStack : here ∉ (s.place next).stack) :
    (s.swap next code).cpu.mem here = (s.after code).mem here := by
  have unsaved : here ∉ (⟨(s.after code).regs .rdi, contextSize⟩ : Region) := by
    rw [swaps.rdi]
    exact notContext
  have stored : (s.swap next code).cpu.mem here = _ := coctxSwap_mem swaps.contexts unsaved
  rw [stored, swaps.rsi]
  exact storeWord_of_not_mem fun inSlot => notStack (Place.slot_inside swaps.slot inSlot)

/-- The next coroutine is loaded. -/
theorem loaded : Loaded (s.swap next code).cpu (s.after code).mem (s.place next).ctx := by
  have loaded := coctxSwap_loaded swaps.contexts (by
    rw [swaps.rsi]
    exact Place.context_slot swaps.slot)
  rw [swaps.rsi] at loaded
  exact loaded

/-- The one that calls is saved. -/
theorem saved :
    Saved (s.swap next code).cpu.mem (s.place s.running).ctx (s.after code) := by
  have saved := coctxSwap_saved swaps.contexts
    (by
      rw [swaps.rdi]
      exact Place.context_slot swaps.own)
    (by
      rw [swaps.rdi, swaps.rsi]
      exact swaps.apart.symm.context_slot swaps.slot)
  rw [swaps.rdi] at saved
  exact saved

/-- The stack of the coroutine that calls stays as it is. -/
theorem mem_own (inStack : here ∈ (s.place s.running).stack) :
    (s.swap next code).cpu.mem here = (s.after code).mem here :=
  swaps.mem_of_not_mem
    (fun inContext => (s.place s.running).apart here (Place.mem_block inContext) inStack)
    (swaps.apart.symm.not_mem_stack (.inr inStack))

end Swaps

/-! ## One step -/

/-- A coroutine that waits for a switch is left as it is. -/
structure Rests (co : Nat) (s s' : State) : Prop where
  away : co ≠ s'.running
  ready : s'.ready co = true
  place : s'.place co = s.place co
  memory : ∀ here, (s.place co).Keeps here → s'.cpu.mem here = s.cpu.mem here

theorem Rests.refl (away : co ≠ s.running) (ready : s.ready co = true) : Rests co s s :=
  ⟨away, ready, rfl, fun _ _ => rfl⟩

theorem Rests.trans {s'' : State} (first : Rests co s s') (second : Rests co s' s'') :
    Rests co s s'' where
  away := second.away
  ready := second.ready
  place := second.place.trans first.place
  memory here keeps := (second.memory here (first.place ▸ keeps)).trans (first.memory here keeps)

/-- A coroutine that rests has the registers it had. -/
theorem Rests.regsAt (rests : Rests co s s') {index : Nat} (below : index < 14) :
    regsAt s'.cpu.mem (s'.place co).ctx index = regsAt s.cpu.mem (s.place co).ctx index := by
  rw [rests.place]
  exact regsAt_congr below fun here inContext => rests.memory here (.inl inContext)

/-- A step that spares a coroutine which waits leaves it as it is. -/
theorem Sound.rests (sound : Sound s) (orderly : Orderly s label) (away : co ≠ s.running)
    (ready : s.ready co = true) (spares : Spares co label) : Rests co s (s.next label) := by
  have live := sound.live co ready
  have apart : ∀ other ∈ s.layout.live, other ≠ co → (s.place co).Apart (s.place other) :=
    fun other otherLive differ => s.layout.apart co live other otherLive differ.symm
  cases label with
  | run code => exact ⟨away, ready, rfl, fun _ keeps => orderly.after_mem live away ready keeps⟩
  | create other place =>
      obtain ⟨new, free⟩ := orderly
      have differ : co ≠ other := fun same => new (same ▸ live)
      rw [State.next, create_of_free free]
      exact ⟨away, (Function.update_of_ne differ ..).trans ready, Function.update_of_ne differ ..,
        fun here keeps => fill_of_not_mem ((free co live).symm.not_mem_block keeps)⟩
  | release other =>
      exact ⟨away, (Function.update_of_ne spares.symm ..).trans ready, rfl, fun _ _ => rfl⟩
  | make other pfn param param1 =>
      obtain ⟨otherLive, _, large, small⟩ := orderly
      have apart := apart other otherLive spares
      refine ⟨away, (Function.update_of_ne spares.symm ..).trans ready, rfl, fun here keeps => ?_⟩
      exact coctxMake_of_not_mem (apart.not_mem_context keeps) fun inSlot =>
        apart.not_mem_stack keeps (Place.slot_inside (entrySp_bounds large small).1 inSlot)
  | swap next code =>
      have swaps := sound.swaps orderly
      refine ⟨spares.symm, (Function.update_of_ne away ..).trans ready, rfl, fun here keeps => ?_⟩
      have same := swaps.mem_of_not_mem
        ((apart s.running swaps.running away.symm).not_mem_context keeps)
        ((apart next swaps.live spares).not_mem_stack keeps)
      exact same.trans (swaps.tidy.after_mem live away ready keeps)

/-- The context and the stack do not overlap, so `coctx_make` makes the context. -/
theorem made_next (orderly : Orderly s (.make co pfn param param1)) :
    Made (s.make co pfn param param1).cpu.mem (s.place co).ctx
      (entrySp (s.place co).stack.base (s.place co).stack.size) pfn param param1 := by
  obtain ⟨_, _, large, small⟩ := orderly
  exact coctxMake_made (Place.context_slot (entrySp_bounds large small).1)

/-- A context that can be switched to was so before, or is made or saved by the step. -/
theorem ready_cases (away : co ≠ (s.next label).running) (ready : (s.next label).ready co = true) :
    (co ≠ s.running ∧ s.ready co = true ∧ Spares co label) ∨
      (∃ pfn param param1, label = .make co pfn param param1) ∨
      ∃ next code, label = .swap next code ∧ co = s.running := by
  have old : ∀ {other : Nat} {value : Bool}, co ≠ other →
      Function.update s.ready other value co = true → s.ready co = true := fun differ updated =>
    (Function.update_of_ne differ ..).symm.trans updated
  have cleared : ∀ {other : Nat}, Function.update s.ready other false co = true → co ≠ other := by
    rintro other updated rfl
    rw [Function.update_self] at updated
    cases updated
  cases label with
  | run => exact .inl ⟨away, ready, trivial⟩
  | create other place =>
      rw [State.next, State.create] at away ready
      split at away
      next free =>
        rw [dif_pos free] at ready
        exact .inl ⟨away, old (cleared ready) ready, trivial⟩
      next full =>
        rw [dif_neg full] at ready
        exact .inl ⟨away, ready, trivial⟩
  | release other => exact .inl ⟨away, old (cleared ready) ready, (cleared ready).symm⟩
  | make other pfn param param1 =>
      by_cases made : co = other
      · exact .inr (.inl ⟨pfn, param, param1, made ▸ rfl⟩)
      · exact .inl ⟨away, old made ready, Ne.symm made⟩
  | swap next code =>
      by_cases left : co = s.running
      · exact .inr (.inr ⟨next, code, rfl, left⟩)
      · exact .inl ⟨left, old left ready, Ne.symm away⟩

/-- Stack pointers stay in their stacks. -/
theorem Sound.slot_step (sound : Sound s) (orderly : Orderly s label)
    (away : co ≠ (s.next label).running) (ready : (s.next label).ready co = true) :
    ((s.next label).place co).stack.offset
        (regsAt (s.next label).cpu.mem ((s.next label).place co).ctx kRSP) + 8 ≤
      ((s.next label).place co).stack.size := by
  rcases ready_cases away ready with ⟨wasAway, wasReady, spares⟩ | ⟨pfn, param, param1, rfl⟩ |
    ⟨next, code, rfl, rfl⟩
  · have rests := sound.rests orderly wasAway wasReady spares
    rw [rests.regsAt (by decide), rests.place]
    exact sound.slot co wasAway wasReady
  · have rsp := (made_next orderly).rsp
    obtain ⟨_, _, large, small⟩ := orderly
    show (s.place co).stack.offset (regsAt (s.make co pfn param param1).cpu.mem
      (s.place co).ctx kRSP) + 8 ≤ (s.place co).stack.size
    rw [rsp]
    exact (entrySp_bounds large small).1
  · have swaps := sound.swaps orderly
    show (s.place s.running).stack.offset (regsAt (s.swap next code).cpu.mem
      (s.place s.running).ctx kRSP) + 8 ≤ (s.place s.running).stack.size
    rw [swaps.saved.rsp]
    exact swaps.own

/-- What has memory keeps it, unless it is released. -/
theorem live_next (live : co ∈ s.layout.live) (kept : label ≠ .release co) :
    co ∈ (s.next label).layout.live := by
  cases label with
  | create other place =>
      rw [State.next, State.create]
      split
      · exact List.mem_cons_of_mem _ live
      · exact live
  | release other =>
      refine List.mem_filter.mpr ⟨live, decide_eq_true fun same => kept (same ▸ rfl)⟩
  | _ => exact live

/-- What can be switched to stays so, unless it is released. -/
theorem Sound.ready_next (sound : Sound s) (orderly : Orderly s label) (ready : s.ready co = true)
    (kept : label ≠ .release co) : (s.next label).ready co = true := by
  have updated : ∀ other, Function.update s.ready other true co = true := by
    intro other
    rw [Function.update_apply]
    split
    · rfl
    · exact ready
  cases label with
  | run => exact ready
  | create other place =>
      rw [State.next, create_of_free orderly.2]
      have differ : co ≠ other := fun same => orderly.1 (same ▸ sound.live co ready)
      exact (Function.update_of_ne differ ..).trans ready
  | release other =>
      have differ : co ≠ other := fun same => kept (same ▸ rfl)
      exact (Function.update_of_ne differ ..).trans ready
  | make other => exact updated other
  | swap => exact updated s.running

/-- What has memory stays where it is. -/
theorem place_next (orderly : Orderly s label) (live : co ∈ s.layout.live) :
    (s.next label).place co = s.place co := by
  cases label with
  | create other place =>
      rw [State.next, create_of_free orderly.2]
      have differ : co ≠ other := fun same => orderly.1 (same ▸ live)
      exact Function.update_of_ne differ ..
  | _ => rfl

/-- The coroutine that runs keeps its memory. -/
theorem Sound.running_step (sound : Sound s) (orderly : Orderly s label) :
    (s.next label).running ∈ (s.next label).layout.live := by
  cases label with
  | create other place =>
      rw [State.next, create_of_free orderly.2]
      exact List.mem_cons_of_mem _ sound.running
  | release other => exact live_next sound.running fun same => orderly (Label.release.inj same)
  | swap next code => exact (sound.swaps orderly).live
  | _ => exact sound.running

/-- Orderly steps keep this. -/
theorem Sound.step (sound : Sound s) (orderly : Orderly s label) : Sound (s.next label) where
  running := sound.running_step orderly
  live co ready := by
    by_cases away : co = (s.next label).running
    · exact away ▸ sound.running_step orderly
    rcases ready_cases away ready with ⟨_, wasReady, spares⟩ | ⟨_, _, _, rfl⟩ | ⟨_, _, rfl, rfl⟩
    · refine live_next (sound.live co wasReady) ?_
      rintro rfl
      exact spares rfl
    · exact orderly.1
    · exact sound.running
  slot co away ready := sound.slot_step orderly away ready

/-- One coroutine runs, and no other one has begun. -/
def State.init (layout : Layout) (cpu : Cpu) (running : Nat) : State :=
  ⟨cpu, running, layout, fun _ => false⟩

/-- Orderly runs keep this. -/
theorem Sound.run {t : State} (sound : Sound s) (run : switching.Run Orderly s t) : Sound t := by
  refine run.invariant Sound sound ?_
  intro before label after soundBefore orderly taken
  rw [next_of_step taken]
  exact soundBefore.step orderly

theorem sound_init {layout : Layout} {cpu : Cpu} {running : Nat} (live : running ∈ layout.live) :
    Sound (.init layout cpu running) where
  running := live
  live _ ready := by cases ready
  slot _ _ ready := by cases ready

/-- As long as steps spare a coroutine that waits for a switch, it is left as it is. -/
theorem rests_of_run {t : State} (sound : Sound s) (away : co ≠ s.running)
    (ready : s.ready co = true)
    (onward : switching.Run (fun s label => Orderly s label ∧ Spares co label) s t) :
    Sound t ∧ Rests co s t := by
  induction onward with
  | start => exact ⟨sound, .refl away ready⟩
  | step _ allowed taken ih =>
      obtain ⟨soundHere, rests⟩ := ih
      obtain ⟨orderly, spares⟩ := allowed
      rw [next_of_step taken]
      exact ⟨soundHere.step orderly,
        rests.trans (soundHere.rests orderly rests.away rests.ready spares)⟩

/-! ## A few places -/

theorem firstPlace_apart : Region.Disjoint ⟨0x100000, routineSize⟩ ⟨0x10000, 0x1000⟩ := by
  decide +kernel

theorem secondPlace_apart : Region.Disjoint ⟨0x200000, routineSize⟩ ⟨0x20000, 0x1000⟩ := by
  decide +kernel

theorem thirdPlace_apart : Region.Disjoint ⟨0x300000, routineSize⟩ ⟨0x30000, 0x1000⟩ := by
  decide +kernel

theorem page_bounded : 0x1000 ≤ 2 ^ 64 := by decide

def firstPlace : Place where
  routine := 0x100000
  stack := ⟨0x10000, 0x1000⟩
  bounded := page_bounded
  apart := firstPlace_apart

def secondPlace : Place where
  routine := 0x200000
  stack := ⟨0x20000, 0x1000⟩
  bounded := page_bounded
  apart := secondPlace_apart

def thirdPlace : Place where
  routine := 0x300000
  stack := ⟨0x30000, 0x1000⟩
  bounded := page_bounded
  apart := thirdPlace_apart

def idle : Cpu := ⟨fun _ => 0, fun _ => 0, 0⟩

/-- The code of `co_create_env` after its `memset`: it writes `env`, and `ss_size` behind the
context. -/
def fillsIn (place : Place) : Code where
  regs _ := 0
  rip := 0
  writes := [(place.routine, 0x40), (place.routine + 0x88, 0x10)]

/-- The first coroutine runs alone. -/
def alone : State := .init (.single 0 firstPlace) idle 0

/-- Another coroutine is created by the one that runs. -/
def creates (co : Nat) (place : Place) : List Label := [.create co place, .run (fillsIn place)]

def orderlyReplay (s : State) (labels : List Label) : Option State :=
  switching.replay (fun s label => decide (Orderly s label)) s labels

def sparingReplay (co : Nat) (s : State) (labels : List Label) : Option State :=
  switching.replay (fun s label => decide (Orderly s label ∧ Spares co label)) s labels

/-- The first coroutine calls `coctx_swap`, with the return address `0x401234`. -/
def leaving : Code where
  regs
    | .rdi => 0x100018
    | .rsi => 0x200018
    | .rsp => 0x10800
    | .rbx => 7
    | _ => 0
  rip := 0
  writes := [(0x10800, 0x34), (0x10801, 0x12), (0x10802, 0x40)]

/-- The second coroutine uses its stack. -/
def working : Code where
  regs _ := 1
  rip := 0
  writes := [(0x20f00, 9)]

/-- The second coroutine calls `coctx_swap`. -/
def coming : Code where
  regs
    | .rdi => 0x200018
    | .rsi => 0x100018
    | .rsp => 0x20e00
    | _ => 5
  rip := 0
  writes := []

/-! ## Coming back -/

/-- Switching to a coroutine whose context and stack are as at its call of `coctx_swap` makes
that call return. -/
theorem Swaps.returned {entry : Cpu} (swaps : Swaps s co code)
    (saved : Saved s.cpu.mem (s.place co).ctx entry)
    (same : ∀ here ∈ (s.place co).stack, s.cpu.mem here = entry.mem here) :
    Returned (s.swap co code).cpu entry ∧
      ∀ here ∈ (s.place co).stack, (s.swap co code).cpu.mem here = entry.mem here := by
  have kept : ∀ here, (s.place co).Keeps here → (s.after code).mem here = s.cpu.mem here :=
    fun here => swaps.tidy.after_mem swaps.live swaps.differ swaps.ready
  have savedThen : Saved (s.after code).mem (s.place co).ctx entry :=
    saved.congr fun here inContext => kept here (.inl inContext)
  refine ⟨swaps.loaded.returned savedThen, fun here inStack => ?_⟩
  have unsaved : here ∉ (⟨(s.after code).regs .rdi, contextSize⟩ : Region) := by
    rw [swaps.rdi]
    exact swaps.apart.not_mem_context (.inr inStack)
  have stored : (s.swap co code).cpu.mem here = _ := coctxSwap_mem swaps.contexts unsaved
  rw [stored, swaps.rsi, savedThen.rsp, savedThen.ret]
  -- The push puts the return address where it was.
  by_cases inSlot : here ∈ (⟨entry.regs .rsp, 8⟩ : Region)
  · exact storeWord_loadWord inSlot
  · rw [storeWord_of_not_mem inSlot, kept here (.inr inStack)]
    exact same here inStack

/-- A coroutine calls `coctx_swap`. However the others are created, run, switch among each
other and are released, the next switch to it makes that call return: with zero, to its return
address, with the stack pointer above it and the registers that a context keeps as they were,
and with every byte of its stack as it was. -/
theorem switch_comes_back {layout : Layout} {cpu : Cpu} {running next : Nat} {t : State}
    {code' : Code} (live : running ∈ layout.live)
    (run : switching.Run Orderly (.init layout cpu running) s)
    (leaves : Orderly s (.swap next code))
    (onward : switching.Run (fun t label => Orderly t label ∧ Spares s.running label)
      (s.swap next code) t)
    (comes : Orderly t (.swap s.running code')) :
    Returned (t.swap s.running code').cpu (s.after code) ∧
      ∀ here ∈ (s.place s.running).stack,
        (t.swap s.running code').cpu.mem here = (s.after code).mem here := by
  have sound := (sound_init live).run run
  have swaps := sound.swaps leaves
  have saved : Saved (s.swap next code).cpu.mem ((s.swap next code).place s.running).ctx
      (s.after code) := swaps.saved
  obtain ⟨soundLater, rests⟩ := rests_of_run (sound.step leaves) swaps.differ.symm
    (Function.update_self ..) onward
  have place : t.place s.running = s.place s.running := rests.place
  rw [← place]
  refine (soundLater.swaps comes).returned ?_ fun here inStack => ?_
  · rw [rests.place]
    exact saved.congr fun here inContext => rests.memory here (.inl inContext)
  · rw [place] at inStack
    exact (rests.memory here (.inr inStack)).trans (swaps.mem_own inStack)

/-- The second coroutine is created, made and switched to. While it runs it creates a third one,
which is released, and a fourth one in the same memory. -/
theorem first_coroutine_comes_back :
    let s := (orderlyReplay alone
      (creates 1 secondPlace ++ [.make 1 0x400100 0x500 0])).get (by decide +kernel)
    let t := (sparingReplay s.running (s.swap 1 leaving)
      (creates 2 thirdPlace ++ [.release 2] ++ creates 3 thirdPlace ++ [.run working])).get
        (by decide +kernel)
    (t.swap 0 coming).cpu.rip = 0x401234 ∧ (t.swap 0 coming).cpu.regs .rbx = 7 := by
  intro s t
  have run : switching.Run Orderly alone s :=
    .of_replay (fun _ _ passes => of_decide_eq_true passes) (Option.some_get _).symm
  have leaves : Orderly s (.swap 1 leaving) := by decide +kernel
  have onward : switching.Run (fun t label => Orderly t label ∧ Spares s.running label)
      (s.swap 1 leaving) t :=
    .of_replay (fun _ _ passes => of_decide_eq_true passes) (Option.some_get _).symm
  have comes : Orderly t (.swap s.running coming) := by decide +kernel
  have returned := (switch_comes_back (by decide) run leaves onward comes).1
  have isRet : loadWord (s.after leaving).mem 0x10800 = 0x401234 := by decide +kernel
  exact ⟨returned.rip.trans isRet, returned.regs (12, .rbx) (by decide)⟩

/-! ## Beginning -/

/-- A function is called on an empty stack, whose pointer is aligned as at any function entry. -/
structure Begun (stack : Region) (pfn param param1 : Word) (cpu : Cpu) : Prop where
  rip : cpu.rip = pfn
  rdi : cpu.regs .rdi = param
  rsi : cpu.regs .rsi = param1
  others : ∀ slot ∈ slots, slot.1 ≠ kRDI → slot.1 ≠ kRSI → cpu.regs slot.2 = 0
  aligned : (cpu.regs .rsp).toNat % 16 = 8
  inside : stack.offset (cpu.regs .rsp) ≤ stack.size
  top : stack.size ≤ stack.offset (cpu.regs .rsp) + 15

/-- Switching to a context that is as `coctx_make` has made it calls its function. -/
theorem Swaps.begun (swaps : Swaps s co code) (large : 24 ≤ (s.place co).stack.size)
    (small : (s.place co).stack.size < 2 ^ 31)
    (made : Made s.cpu.mem (s.place co).ctx
      (entrySp (s.place co).stack.base (s.place co).stack.size) pfn param param1) :
    Begun (s.place co).stack pfn param param1 (s.swap co code).cpu := by
  have madeThen : Made (s.after code).mem (s.place co).ctx
      (entrySp (s.place co).stack.base (s.place co).stack.size) pfn param param1 :=
    made.congr fun _ inContext =>
      swaps.tidy.after_mem swaps.live swaps.differ swaps.ready (.inl inContext)
  have loaded := swaps.loaded
  have rsp : (s.swap co code).cpu.regs .rsp =
      entrySp (s.place co).stack.base (s.place co).stack.size + 8 := by
    rw [loaded.rsp, madeThen.rsp]
  exact
    { rip := loaded.rip.trans madeThen.ret
      rdi := (loaded.regs (kRDI, .rdi) (by decide)).trans madeThen.rdi
      rsi := (loaded.regs (kRSI, .rsi) (by decide)).trans madeThen.rsi
      others := fun slot member notRdi notRsi =>
        (loaded.regs slot member).trans (madeThen.others slot member notRdi notRsi)
      aligned := rsp ▸ (entrySp_add_eight large small).1
      inside := rsp ▸ (entrySp_add_eight large small).2.1
      top := rsp ▸ (entrySp_add_eight large small).2.2 }

/-- A context is made for a function with two parameters. However the others are created, run,
switch among each other and are released, the first switch to it calls the function with these
parameters, on its own stack, of which nothing is in use. -/
theorem first_switch_calls {layout : Layout} {cpu : Cpu} {running : Nat} {t : State}
    (live : running ∈ layout.live)
    (run : switching.Run Orderly (.init layout cpu running) s)
    (makes : Orderly s (.make co pfn param param1))
    (onward : switching.Run (fun t label => Orderly t label ∧ Spares co label)
      (s.make co pfn param param1) t)
    (comes : Orderly t (.swap co code)) :
    Begun (s.place co).stack pfn param param1 (t.swap co code).cpu := by
  have sound := (sound_init live).run run
  have made := made_next makes
  have stepped : Sound (s.make co pfn param param1) := sound.step makes
  obtain ⟨_, away, large, small⟩ := makes
  obtain ⟨soundLater, rests⟩ := rests_of_run stepped away (Function.update_self ..) onward
  have place : t.place co = s.place co := rests.place
  rw [← place] at large small made ⊢
  refine (soundLater.swaps comes).begun large small (made.congr fun here inContext => ?_)
  exact rests.memory here (.inl (place ▸ inContext))

/-- The second coroutine is created and made. The first one creates a third one before it
switches. -/
theorem second_coroutine_begins :
    let s := (orderlyReplay alone (creates 1 secondPlace)).get (by decide +kernel)
    let t := (sparingReplay 1 (s.make 1 0x400100 0x500 0)
      (creates 2 thirdPlace ++ [.run leaving])).get (by decide +kernel)
    (t.swap 1 leaving).cpu.rip = 0x400100 ∧ (t.swap 1 leaving).cpu.regs .rdi = 0x500 ∧
      ((t.swap 1 leaving).cpu.regs .rsp).toNat % 16 = 8 := by
  intro s t
  have run : switching.Run Orderly alone s :=
    .of_replay (fun _ _ passes => of_decide_eq_true passes) (Option.some_get _).symm
  have makes : Orderly s (.make 1 0x400100 0x500 0) := by decide +kernel
  have onward : switching.Run (fun t label => Orderly t label ∧ Spares 1 label)
      (s.make 1 0x400100 0x500 0) t :=
    .of_replay (fun _ _ passes => of_decide_eq_true passes) (Option.some_get _).symm
  have comes : Orderly t (.swap 1 leaving) := by decide +kernel
  have begun := first_switch_calls (by decide) run makes onward comes
  exact ⟨begun.rip, begun.rdi, begun.aligned⟩

end

end LibcoRpc.Libco
