import Mathlib.Data.List.Nodup
import Mathlib.Data.List.Range
import Mathlib.Logic.Function.Basic

/-!
# Jobs that are settled exactly once

Jobs are numbered in the order they come in. A job is refused, or some worker takes it
and holds it until it settles it; workers hold stacks of jobs and settle the top one.
`Sound` says that no job is lost or held twice, and that the list of settled jobs, in the
order they were settled, names each of them once.
-/

namespace LibcoRpc

/-- How far a job has come. -/
inductive Stage where
  | refused
  | running
  | settled
deriving DecidableEq, Repr

/-- The jobs that have come in, who holds which, and which have been settled, newest
first. -/
structure Ledger (Worker : Type) where
  count : Nat
  stage : Nat → Stage
  holds : Worker → List Nat
  settled : List Nat

namespace Ledger

variable {Worker : Type}

/-- No job is lost, held twice or settled twice. -/
structure Sound (ledger : Ledger Worker) : Prop where
  nodup : ∀ worker, (ledger.holds worker).Nodup
  apart : ∀ job left right, job ∈ ledger.holds left → job ∈ ledger.holds right → left = right
  held_iff : ∀ job, (∃ worker, job ∈ ledger.holds worker) ↔
    job < ledger.count ∧ ledger.stage job = .running
  settledNodup : ledger.settled.Nodup
  settled_iff : ∀ job, job ∈ ledger.settled ↔ job < ledger.count ∧ ledger.stage job = .settled

/-- Nothing has come in. -/
def empty (Worker : Type) : Ledger Worker := ⟨0, fun _ => .refused, fun _ => [], []⟩

/-- A job comes in and is refused. -/
def refuse (ledger : Ledger Worker) : Ledger Worker :=
  { ledger with
    count := ledger.count + 1
    stage := Function.update ledger.stage ledger.count .refused }

/-- A job comes in and a worker takes it. -/
def take [DecidableEq Worker] (ledger : Ledger Worker) (worker : Worker) : Ledger Worker :=
  { ledger with
    count := ledger.count + 1
    stage := Function.update ledger.stage ledger.count .running
    holds := Function.update ledger.holds worker (ledger.count :: ledger.holds worker) }

/-- A worker settles a job and goes on with the rest. -/
def settle [DecidableEq Worker] (ledger : Ledger Worker) (worker : Worker) (job : Nat)
    (rest : List Nat) : Ledger Worker :=
  { ledger with
    stage := Function.update ledger.stage job .settled
    holds := Function.update ledger.holds worker rest
    settled := job :: ledger.settled }

theorem empty_sound : (empty Worker).Sound where
  nodup _ := List.nodup_nil
  apart _ _ _ member := by cases member
  held_iff job := by simp [empty]
  settledNodup := List.nodup_nil
  settled_iff job := by simp [empty]

/-- A new job does not change what is known about the others. -/
theorem stage_of_lt {ledger : Ledger Worker} {stage : Stage} {job : Nat}
    (old : job < ledger.count) :
    Function.update ledger.stage ledger.count stage job = ledger.stage job :=
  Function.update_of_ne (Nat.ne_of_lt old) _ _

namespace Sound

variable {ledger : Ledger Worker} (sound : ledger.Sound)

include sound

theorem not_held_of_new {worker : Worker} : ledger.count ∉ ledger.holds worker := by
  intro member
  exact absurd ((sound.held_iff _).mp ⟨worker, member⟩).1 (Nat.lt_irrefl _)

theorem settled_iff_of_new {stage : Stage} (other : stage ≠ .settled) (job : Nat) :
    job ∈ ledger.settled ↔
      job < ledger.count + 1 ∧
        Function.update ledger.stage ledger.count stage job = .settled := by
  rw [sound.settled_iff]
  rcases Nat.lt_trichotomy job ledger.count with old | rfl | new
  · simp [stage_of_lt old, old, Nat.lt_succ_of_lt old]
  · simp [other]
  · simp [Nat.not_lt.mpr (Nat.le_of_lt new), Nat.not_lt.mpr (Nat.succ_le_of_lt new)]

theorem refuse : ledger.refuse.Sound where
  nodup := sound.nodup
  apart := sound.apart
  held_iff job := by
    rw [Ledger.refuse, sound.held_iff]
    rcases Nat.lt_trichotomy job ledger.count with old | rfl | new
    · simp [stage_of_lt old, old, Nat.lt_succ_of_lt old]
    · simp
    · simp [Nat.not_lt.mpr (Nat.le_of_lt new), Nat.not_lt.mpr (Nat.succ_le_of_lt new)]
  settledNodup := sound.settledNodup
  settled_iff := sound.settled_iff_of_new (by decide)

theorem take [DecidableEq Worker] (worker : Worker) : (ledger.take worker).Sound := by
  have held : ∀ job other, job ∈ (ledger.take worker).holds other ↔
      job = ledger.count ∧ other = worker ∨ job ∈ ledger.holds other := by
    intro job other
    by_cases same : other = worker
    · simp [Ledger.take, same]
    · simp [Ledger.take, same]
  constructor
  case nodup =>
    intro other
    by_cases same : other = worker
    · subst same
      simp [Ledger.take, sound.nodup other, sound.not_held_of_new]
    · simpa [Ledger.take, same] using sound.nodup other
  case apart =>
    intro job left right leftHolds rightHolds
    rcases (held job left).mp leftHolds with ⟨rfl, rfl⟩ | leftHeld
    · rcases (held _ right).mp rightHolds with ⟨_, rfl⟩ | rightHeld
      · rfl
      · exact absurd rightHeld sound.not_held_of_new
    · rcases (held _ right).mp rightHolds with ⟨rfl, rfl⟩ | rightHeld
      · exact absurd leftHeld sound.not_held_of_new
      · exact sound.apart job left right leftHeld rightHeld
  case held_iff =>
    intro job
    have before := sound.held_iff job
    simp only [held]
    rcases Nat.lt_trichotomy job ledger.count with old | rfl | new
    · simp [Ledger.take, Nat.ne_of_lt old, old, Nat.lt_succ_of_lt old, before]
    · simp only [Ledger.take, Function.update_self, true_and, and_true]
      exact ⟨fun _ => Nat.lt_succ_self _, fun _ => ⟨worker, .inl rfl⟩⟩
    · have later : ¬ job < (ledger.take worker).count :=
        Nat.not_lt.mpr (Nat.succ_le_of_lt new)
      simp [Nat.ne_of_gt new, before, Nat.not_lt.mpr (Nat.le_of_lt new), later]
  case settledNodup => exact sound.settledNodup
  case settled_iff => exact sound.settled_iff_of_new (by decide)

theorem settle [DecidableEq Worker] {worker : Worker} {job : Nat} {rest : List Nat}
    (top : ledger.holds worker = job :: rest) : (ledger.settle worker job rest).Sound := by
  obtain ⟨old, running⟩ := (sound.held_iff job).mp ⟨worker, by simp [top]⟩
  have distinct := sound.nodup worker
  rw [top, List.nodup_cons] at distinct
  have held : ∀ other_job other, other_job ∈ (ledger.settle worker job rest).holds other ↔
      other_job ∈ ledger.holds other ∧ other_job ≠ job := by
    intro other_job other
    by_cases same : other = worker
    · subst same
      simp only [Ledger.settle, Function.update_self, top, List.mem_cons]
      constructor
      · intro member
        exact ⟨.inr member, fun isJob => distinct.1 (isJob ▸ member)⟩
      · rintro ⟨isJob | member, different⟩
        · exact absurd isJob different
        · exact member
    · simp only [Ledger.settle, Function.update_of_ne same]
      refine ⟨fun member => ⟨member, fun isJob => ?_⟩, fun both => both.1⟩
      subst isJob
      exact same (sound.apart _ other worker member (by simp [top]))
  constructor
  case nodup =>
    intro other
    by_cases same : other = worker
    · simpa [Ledger.settle, same] using distinct.2
    · simpa [Ledger.settle, same] using sound.nodup other
  case apart =>
    intro other_job left right leftHolds rightHolds
    exact sound.apart other_job left right ((held _ _).mp leftHolds).1 ((held _ _).mp rightHolds).1
  case held_iff =>
    intro other_job
    simp only [held, exists_and_right, sound.held_iff]
    by_cases same : other_job = job
    · simp [same, Ledger.settle]
    · simp [same, Ledger.settle]
  case settledNodup =>
    refine List.nodup_cons.mpr ⟨fun member => ?_, sound.settledNodup⟩
    rw [((sound.settled_iff job).mp member).2] at running
    cases running
  case settled_iff =>
    intro other_job
    simp only [Ledger.settle, List.mem_cons, sound.settled_iff]
    by_cases same : other_job = job
    · simp [same, old]
    · simp [same]

/-- The settled jobs are those the stages say, each once. -/
theorem settled_perm :
    ledger.settled.Perm
      ((List.range ledger.count).filter fun job => ledger.stage job = .settled) := by
  refine (List.perm_ext_iff_of_nodup sound.settledNodup
    (List.nodup_range.filter _)).mpr fun job => ?_
  simp [sound.settled_iff]

end Sound

end Ledger

end LibcoRpc
