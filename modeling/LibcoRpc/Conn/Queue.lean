import LibcoRpc.Semantics.Machine
import LibcoRpc.Std.Ring
import Mathlib.Data.List.Basic

/-!
# `LockFreeQueue`

The ring that one thread pushes to and another pops from. `Push` and `Pop` are cut into
the steps that touch shared memory, and the steps of the two threads are interleaved in
any order. The indices say which slots are in use, and one slot always stays free.

An accepted value that has not been returned is unread. `Represents` ties the indices and
the slots to the values that have been accepted and returned, whatever the two threads are
in the middle of.
-/

namespace LibcoRpc.Conn

open LibcoRpc.Std

/-- Where the producer is in `Push`. -/
inductive Pusher (α : Type) where
  | idle
  /-- Before `wtIdx_ - rdIdx_`. -/
  | checking (val : α)
  /-- Before `queue_[wtIdx_] = val`. -/
  | writing (val : α)
  /-- Before `wtIdx_ = (wtIdx_ + 1) % QueueCapacity`. -/
  | publishing (val : α)
deriving DecidableEq, Repr

/-- Where the consumer is in `Pop`. -/
inductive Popper (α : Type) where
  | idle
  /-- Before `rdIdx_ != wtIdx_`. -/
  | checking
  /-- Before `val = queue_[rdIdx_]`. -/
  | reading
  /-- Before `queue_[rdIdx_] = nullptr`, which only `NEXT_DEBUG` compiles in. -/
  | clearing (val : Option α)
  /-- Before `rdIdx_ = (rdIdx_ + 1) % QueueCapacity`. -/
  | publishing (val : Option α)
deriving DecidableEq, Repr

/-- What a call has returned. A null pointer is `none`. -/
inductive Return (α : Type) where
  | push (val : α) (accepted : Bool)
  | pop (val : Option α)
deriving DecidableEq, Repr

/-- The consumer has read the slot at `rdIdx_` and needs it no more. -/
def Popper.done {α : Type} : Popper α → Bool
  | .publishing _ => true
  | _ => false

/-- A producer past its check has found room, and has written its value when it is about to
publish. -/
def Pusher.Ready {α : Type} (room : Prop) (written : Option α) : Pusher α → Prop
  | .idle => True
  | .checking _ => True
  | .writing _ => room
  | .publishing val => room ∧ written = some val

/-- A consumer past its check has found a value, and holds the oldest one when it has read. -/
def Popper.Ready {α : Type} (unread : Prop) (oldest : Option α) : Popper α → Prop
  | .idle => True
  | .checking => True
  | .reading => unread
  | .clearing val => unread ∧ val = oldest
  | .publishing val => unread ∧ val = oldest

/-- The value that a call has accepted. -/
def Return.accepted {α : Type} : Return α → Option α
  | .push val true => some val
  | _ => none

/-- The value that a call has returned. -/
def Return.returned {α : Type} : Return α → Option α
  | .pop val => val
  | _ => none

/-- `LockFreeQueue`, its two threads, and what their calls have returned, newest first. -/
structure Queue (α : Type) where
  rdIdx : Int
  wtIdx : Int
  queue : Int → Option α
  pusher : Pusher α
  popper : Popper α
  returns : List (Return α)

/-- One step: a thread calls, or goes on. -/
inductive QueueLabel (α : Type) where
  | push (val : α)
  | produce
  | pop
  | consume
deriving DecidableEq, Repr

namespace Queue

variable {α : Type}

/-- A queue that has just been constructed. -/
def init (α : Type) : Queue α :=
  { rdIdx := 0, wtIdx := 0, queue := fun _ => none, pusher := .idle, popper := .idle,
    returns := [] }

/-- `LockFreeQueue::GetSize`, and the first lines of `Push`. -/
def getSize (capacity : Nat) (s : Queue α) : Int :=
  let size := s.wtIdx - s.rdIdx
  if size < 0 then size + capacity else size

/-- `LockFreeQueue::Push`, step by step. -/
def produce (capacity : Nat) (s : Queue α) : Option (Queue α) :=
  match s.pusher with
  | .idle => none
  | .checking val =>
      if capacity - s.getSize capacity = 1 then
        some { s with pusher := .idle, returns := .push val false :: s.returns }
      else some { s with pusher := .writing val }
  | .writing val =>
      some { s with
        pusher := .publishing val
        queue := Function.update s.queue s.wtIdx (some val) }
  | .publishing val =>
      some { s with
        pusher := .idle
        wtIdx := (s.wtIdx + 1).tmod capacity
        returns := .push val true :: s.returns }

/-- `LockFreeQueue::Pop`, step by step. -/
def consume (capacity : Nat) (nextDebug : Bool) (s : Queue α) : Option (Queue α) :=
  match s.popper with
  | .idle => none
  | .checking =>
      if s.rdIdx ≠ s.wtIdx then some { s with popper := .reading }
      else some { s with popper := .idle, returns := .pop none :: s.returns }
  | .reading =>
      let val := s.queue s.rdIdx
      some { s with popper := if nextDebug then .clearing val else .publishing val }
  | .clearing val =>
      some { s with popper := .publishing val, queue := Function.update s.queue s.rdIdx none }
  | .publishing val =>
      some { s with
        popper := .idle
        rdIdx := (s.rdIdx + 1).tmod capacity
        returns := .pop val :: s.returns }

/-- One step of one of the threads; `none` when it has nothing to do, or is busy. -/
def next (capacity : Nat) (nextDebug : Bool) (s : Queue α) : QueueLabel α → Option (Queue α)
  | .push val =>
      match s.pusher with
      | .idle => some { s with pusher := .checking val }
      | _ => none
  | .produce => s.produce capacity
  | .pop =>
      match s.popper with
      | .idle => some { s with popper := .checking }
      | _ => none
  | .consume => s.consume capacity nextDebug

/-! ## Values -/

/-- The values that `Push` has accepted, oldest first. -/
def accepted (s : Queue α) : List α := s.returns.reverse.filterMap Return.accepted

/-- The values that `Pop` has returned, oldest first. -/
def returned (s : Queue α) : List α := s.returns.reverse.filterMap Return.returned

/-- How many accepted values have not been returned. -/
def unread (s : Queue α) : Nat := s.accepted.length - s.returned.length

end Queue

/-- The queue and its two threads as a machine. -/
def queueMachine {α : Type} (capacity : Nat) (nextDebug : Bool) :
    Machine (Queue α) (QueueLabel α) Unit where
  step s label :=
    match s.next capacity nextDebug label with
    | some s => .ok s
    | none => .error ()

namespace Queue

variable {α : Type} {capacity : Nat} {nextDebug : Bool} {s s' : Queue α}

theorem accepted_cons {value : Return α} (new : s'.returns = value :: s.returns) :
    s'.accepted = s.accepted ++ value.accepted.toList := by
  cases found : value.accepted <;> simp [accepted, new, found]

theorem returned_cons {value : Return α} (new : s'.returns = value :: s.returns) :
    s'.returned = s.returned ++ value.returned.toList := by
  cases found : value.returned <;> simp [returned, new, found]

/-- What a step makes a call return, and where the thread was. -/
theorem returns_cases {label : QueueLabel α}
    (taken : (queueMachine capacity nextDebug).step s label = .ok s') :
    s'.returns = s.returns ∨ ∃ value, s'.returns = value :: s.returns ∧
      match value with
      | .push val false => s.pusher = .checking val ∧ capacity - s.getSize capacity = 1
      | .push val true => s.pusher = .publishing val
      | .pop val => s.popper = .publishing val ∨
          s.popper = .checking ∧ s.rdIdx = s.wtIdx ∧ val = none := by
  simp only [queueMachine] at taken
  split at taken
  next reached moved =>
    cases taken
    cases label with
    | push val | pop =>
        simp only [next] at moved
        split at moved
        · cases moved
          exact .inl rfl
        · cases moved
    | produce =>
        simp only [next, produce] at moved
        split at moved
        next => cases moved
        next val at_ =>
          split at moved
          next full =>
            cases moved
            exact .inr ⟨_, rfl, at_, full⟩
          next =>
            cases moved
            exact .inl rfl
        next =>
          cases moved
          exact .inl rfl
        next val at_ =>
          cases moved
          exact .inr ⟨_, rfl, at_⟩
    | consume =>
        simp only [next, consume] at moved
        split at moved
        next => cases moved
        next at_ =>
          split at moved
          next =>
            cases moved
            exact .inl rfl
          next same =>
            cases moved
            exact .inr ⟨_, rfl, .inr ⟨at_, not_not.mp same, rfl⟩⟩
        next =>
          cases moved
          exact .inl rfl
        next =>
          cases moved
          exact .inl rfl
        next val at_ =>
          cases moved
          exact .inr ⟨_, rfl, .inl at_⟩
  next => cases taken

/-! ## What the slots hold -/

/-- The indices and the slots stand for the values accepted and returned so far. -/
structure Represents (capacity : Nat) (s : Queue α) : Prop where
  ordered : s.returned <+: s.accepted
  room : s.accepted.length < s.returned.length + capacity
  rdIdx : s.rdIdx = Ring.slot capacity s.returned.length
  wtIdx : s.wtIdx = Ring.slot capacity s.accepted.length
  stored : ∀ position, s.returned.length ≤ position → position < s.accepted.length →
    (position = s.returned.length → s.popper.done = false) →
    s.queue (Ring.slot capacity position) = s.accepted[position]?
  pusher : s.pusher.Ready (s.accepted.length + 1 < s.returned.length + capacity)
    (s.queue (Ring.slot capacity s.accepted.length))
  popper : s.popper.Ready (s.returned.length < s.accepted.length)
    s.accepted[s.returned.length]?

namespace Represents

theorem init (positive : 0 < capacity) : Represents capacity (Queue.init α) where
  ordered := List.prefix_rfl
  room := by simpa [Queue.init, accepted, returned] using positive
  rdIdx := by simp [Queue.init, returned, Ring.slot]
  wtIdx := by simp [Queue.init, accepted, Ring.slot]
  stored position _ before := absurd before (Nat.not_lt_zero _)
  pusher := trivial
  popper := trivial

variable (represents : Represents capacity s)

include represents

theorem behind : s.returned.length ≤ s.accepted.length := represents.ordered.length_le

/-- `wtIdx_ - rdIdx_`, corrected once, counts the unread values. -/
theorem getSize_eq : s.getSize capacity = s.unread := by
  have distance := Ring.distance_slot represents.behind represents.room
  rw [← represents.rdIdx, ← represents.wtIdx] at distance
  exact distance

/-- The indices agree only when nothing is unread. -/
theorem idx_eq_iff : s.rdIdx = s.wtIdx ↔ s.unread = 0 := by
  have size := represents.getSize_eq
  constructor
  · intro same
    simp only [getSize, same, Int.sub_self, Int.lt_irrefl, if_false] at size
    exact (Int.ofNat_eq_zero.mp size.symm)
  · intro none
    have same : s.returned.length = s.accepted.length := by
      have behind := represents.behind
      unfold unread at none
      omega
    rw [represents.rdIdx, represents.wtIdx, same]

/-- A step that moves program counters, and returns no value. -/
theorem moved (accepted : s'.accepted = s.accepted) (returned : s'.returned = s.returned)
    (memory : s'.rdIdx = s.rdIdx ∧ s'.wtIdx = s.wtIdx ∧ s'.queue = s.queue)
    (undone : s'.popper.done = false → s.popper.done = false)
    (pusher : s'.pusher.Ready (s.accepted.length + 1 < s.returned.length + capacity)
      (s.queue (Ring.slot capacity s.accepted.length)))
    (popper : s'.popper.Ready (s.returned.length < s.accepted.length)
      s.accepted[s.returned.length]?) : Represents capacity s' := by
  obtain ⟨rdIdx, wtIdx, queue⟩ := memory
  constructor
  case stored =>
    intro position unread before kept
    rw [accepted] at before ⊢
    rw [returned] at unread kept
    rw [queue]
    exact represents.stored position unread before fun first => undone (kept first)
  all_goals simp only [accepted, returned, rdIdx, wtIdx, queue]
  · exact represents.ordered
  · exact represents.room
  · exact represents.rdIdx
  · exact represents.wtIdx
  · exact pusher
  · exact popper

/-- `Push` writes to a slot that holds no unread value. -/
theorem write {val : α} (at_ : s.pusher = .writing val) :
    Represents capacity
      { s with
        pusher := .publishing val
        queue := Function.update s.queue s.wtIdx (some val) } := by
  have room : s.accepted.length + 1 < s.returned.length + capacity := by
    simpa [at_, Pusher.Ready] using represents.pusher
  have written : ∀ position, s.returned.length ≤ position → position < s.accepted.length →
      Function.update s.queue s.wtIdx (some val) (Ring.slot capacity position) =
        s.queue (Ring.slot capacity position) := by
    intro position unread before
    have near : s.accepted.length < position + capacity := by
      have room := represents.room
      omega
    rw [represents.wtIdx]
    exact Function.update_of_ne (Ring.slot_ne before near) _ _
  refine
    { represents with
      stored := fun position unread before kept => ?_
      pusher := ⟨room, ?_⟩ }
  · exact (written position unread before).trans (represents.stored position unread before kept)
  · rw [represents.wtIdx]
    exact Function.update_self ..

/-- `Push` makes its value readable. -/
theorem publishPush {val : α} (at_ : s.pusher = .publishing val)
    (memory : s'.rdIdx = s.rdIdx ∧ s'.wtIdx = (s.wtIdx + 1).tmod capacity ∧ s'.queue = s.queue)
    (threads : s'.pusher = .idle ∧ s'.popper = s.popper)
    (returns : s'.returns = .push val true :: s.returns) : Represents capacity s' := by
  obtain ⟨rdIdx, wtIdx, queue⟩ := memory
  obtain ⟨room, written⟩ : s.accepted.length + 1 < s.returned.length + capacity ∧
      s.queue (Ring.slot capacity s.accepted.length) = some val := by
    simpa [at_, Pusher.Ready] using represents.pusher
  have accepted : s'.accepted = s.accepted ++ [val] := accepted_cons returns
  have returned : s'.returned = s.returned := (returned_cons returns).trans (List.append_nil _)
  have behind := represents.behind
  constructor
  case ordered =>
    rw [accepted, returned]
    exact represents.ordered.trans (List.prefix_append _ _)
  case room =>
    rw [accepted, returned, List.length_append, List.length_singleton]
    exact room
  case rdIdx => rw [rdIdx, returned, represents.rdIdx]
  case wtIdx =>
    rw [wtIdx, accepted, List.length_append, List.length_singleton, represents.wtIdx,
      Ring.slot_succ]
  case stored =>
    intro position unread before kept
    rw [accepted, List.length_append, List.length_singleton] at before
    rw [returned, threads.2] at kept
    rw [returned] at unread
    rw [queue, accepted]
    -- The value just published is the last one, the others have not moved.
    by_cases last : position = s.accepted.length
    · subst last
      rw [written, List.getElem?_concat_length]
    · have old : position < s.accepted.length := by omega
      rw [List.getElem?_append_left old]
      exact represents.stored position unread old kept
  case pusher =>
    rw [threads.1]
    trivial
  case popper =>
    have popper := represents.popper
    rw [threads.2, accepted, returned, List.length_append, List.length_singleton]
    cases state : s.popper <;> simp only [state, Popper.Ready] at popper ⊢
    case reading => omega
    case clearing | publishing =>
      obtain ⟨before, value⟩ := popper
      rw [List.getElem?_append_left before]
      exact ⟨by omega, value⟩

/-- The oldest unread value comes right after the returned ones. -/
theorem oldest (some_ : s.returned.length < s.accepted.length) :
    ∃ val rest, s.accepted = s.returned ++ val :: rest ∧
      s.accepted[s.returned.length]? = some val := by
  obtain ⟨rest, split⟩ := represents.ordered
  cases rest with
  | nil =>
      rw [← split, List.append_nil] at some_
      exact absurd some_ (Nat.lt_irrefl _)
  | cons val rest => exact ⟨val, rest, split.symm, by rw [← split]; simp⟩

/-- `Pop` drops the value it has read. -/
theorem publishPop {val : Option α} (at_ : s.popper = .publishing val)
    (memory : s'.rdIdx = (s.rdIdx + 1).tmod capacity ∧ s'.wtIdx = s.wtIdx ∧ s'.queue = s.queue)
    (threads : s'.pusher = s.pusher ∧ s'.popper = .idle)
    (returns : s'.returns = .pop val :: s.returns) : Represents capacity s' := by
  obtain ⟨rdIdx, wtIdx, queue⟩ := memory
  obtain ⟨some_, value⟩ : s.returned.length < s.accepted.length ∧
      val = s.accepted[s.returned.length]? := by
    simpa [at_, Popper.Ready] using represents.popper
  obtain ⟨oldest, rest, split, isOldest⟩ := represents.oldest some_
  rw [isOldest] at value
  subst value
  have accepted : s'.accepted = s.accepted := (accepted_cons returns).trans (List.append_nil _)
  have returned : s'.returned = s.returned ++ [oldest] := returned_cons returns
  have length : s'.returned.length = s.returned.length + 1 := by simp [returned]
  constructor
  case ordered =>
    rw [accepted, returned, split]
    exact ⟨rest, by simp⟩
  case room =>
    have room := represents.room
    rw [accepted, length]
    omega
  case rdIdx => rw [rdIdx, length, represents.rdIdx, Ring.slot_succ]
  case wtIdx => rw [wtIdx, accepted, represents.wtIdx]
  case stored =>
    intro position unread before _
    rw [length] at unread
    rw [accepted] at before ⊢
    rw [queue]
    exact represents.stored position (by omega) before (by omega)
  case pusher =>
    have pusher := represents.pusher
    rw [threads.1, accepted, length, queue]
    cases state : s.pusher <;> simp only [state, Pusher.Ready] at pusher ⊢
    case writing => omega
    case publishing => exact ⟨by omega, pusher.2⟩
  case popper =>
    rw [threads.2]
    trivial

/-- `Pop` clears no slot but the one it has read. -/
theorem clear {val : Option α} (at_ : s.popper = .clearing val) :
    Represents capacity
      { s with
        popper := .publishing val
        queue := Function.update s.queue s.rdIdx none } := by
  obtain ⟨some_, value⟩ : s.returned.length < s.accepted.length ∧
      val = s.accepted[s.returned.length]? := by
    simpa [at_, Popper.Ready] using represents.popper
  have written : ∀ position, s.returned.length < position → position ≤ s.accepted.length →
      Function.update s.queue s.rdIdx none (Ring.slot capacity position) =
        s.queue (Ring.slot capacity position) := by
    intro position after upTo
    have near : position < s.returned.length + capacity :=
      Nat.lt_of_le_of_lt upTo represents.room
    rw [represents.rdIdx]
    exact Function.update_of_ne (Ring.slot_ne after near).symm _ _
  refine
    { represents with
      stored := fun position unread before kept => ?_
      pusher := ?_
      popper := ⟨some_, value⟩ }
  · have after : s.returned.length < position := by
      apply Nat.lt_of_le_of_ne unread
      intro first
      cases kept first.symm
    exact (written position after (Nat.le_of_lt before)).trans
      (represents.stored position unread before (by simp [at_, Popper.done]))
  · have pusher := represents.pusher
    rw [← written _ some_ (Nat.le_refl _)] at pusher
    exact pusher

/-- The producer takes a step. -/
theorem produce (taken : s.produce capacity = some s') : Represents capacity s' := by
  unfold Queue.produce at taken
  split at taken
  next => cases taken
  next val at_ =>
    split at taken
    next =>
      cases taken
      refine represents.moved ?_ ?_ ⟨rfl, rfl, rfl⟩ id trivial represents.popper
      · exact (accepted_cons rfl).trans (List.append_nil _)
      · exact (returned_cons rfl).trans (List.append_nil _)
    next notFull =>
      cases taken
      refine represents.moved rfl rfl ⟨rfl, rfl, rfl⟩ id ?_ represents.popper
      have size := represents.getSize_eq
      have behind := represents.behind
      have room := represents.room
      simp only [Pusher.Ready]
      unfold unread at size
      omega
  next val at_ =>
    cases taken
    exact represents.write at_
  next val at_ =>
    cases taken
    exact represents.publishPush at_ ⟨rfl, rfl, rfl⟩ ⟨rfl, rfl⟩ rfl

/-- The consumer takes a step. -/
theorem consume (taken : s.consume capacity nextDebug = some s') : Represents capacity s' := by
  have popper := represents.popper
  unfold Queue.consume at taken
  split at taken
  next => cases taken
  next at_ =>
    split at taken
    next different =>
      cases taken
      refine represents.moved rfl rfl ⟨rfl, rfl, rfl⟩ (by simp [at_, Popper.done])
        represents.pusher ?_
      have unread := mt represents.idx_eq_iff.mpr different
      simp only [Popper.Ready]
      unfold Queue.unread at unread
      omega
    next =>
      cases taken
      refine represents.moved ?_ ?_ ⟨rfl, rfl, rfl⟩ (by simp [at_, Popper.done])
        represents.pusher trivial
      · exact (accepted_cons rfl).trans (List.append_nil _)
      · exact (returned_cons rfl).trans (List.append_nil _)
  next at_ =>
    cases taken
    simp only [at_, Popper.Ready] at popper
    have value : s.queue s.rdIdx = s.accepted[s.returned.length]? := by
      rw [represents.rdIdx]
      exact represents.stored _ (Nat.le_refl _) popper (by simp [at_, Popper.done])
    refine represents.moved rfl rfl ⟨rfl, rfl, rfl⟩ (by simp [at_, Popper.done])
      represents.pusher ?_
    cases nextDebug <;> exact ⟨popper, value⟩
  next val at_ =>
    cases taken
    exact represents.clear at_
  next val at_ =>
    cases taken
    exact represents.publishPop at_ ⟨rfl, rfl, rfl⟩ ⟨rfl, rfl⟩ rfl

theorem step {label : QueueLabel α}
    (taken : (queueMachine capacity nextDebug).step s label = .ok s') :
    Represents capacity s' := by
  simp only [queueMachine] at taken
  split at taken
  next reached moved =>
    cases taken
    cases label with
    | push val =>
        simp only [next] at moved
        split at moved
        · cases moved
          exact represents.moved rfl rfl ⟨rfl, rfl, rfl⟩ id trivial represents.popper
        · cases moved
    | produce => exact represents.produce moved
    | pop =>
        simp only [next] at moved
        split at moved
        next at_ =>
          cases moved
          exact represents.moved rfl rfl ⟨rfl, rfl, rfl⟩ (by simp [at_, Popper.done])
            represents.pusher trivial
        · cases moved
    | consume => exact represents.consume moved
  next => cases taken

/-- A `Push` that returns false has found the queue full. -/
theorem full_of_refused {label : QueueLabel α} {val : α}
    (taken : (queueMachine capacity nextDebug).step s label = .ok s')
    (refused : s'.returns = .push val false :: s.returns) :
    s.pusher = .checking val ∧ s.unread = capacity - 1 := by
  rcases returns_cases taken with same | ⟨value, new, found⟩
  · rw [same] at refused
    exact absurd refused.symm (List.cons_ne_self _ _)
  · obtain ⟨rfl, _⟩ := List.cons.inj (new.symm.trans refused)
    obtain ⟨at_, full⟩ := found
    have size := represents.getSize_eq
    exact ⟨at_, by omega⟩

/-- A `Pop` that returns a null pointer has found the queue empty. -/
theorem empty_of_null {label : QueueLabel α}
    (taken : (queueMachine capacity nextDebug).step s label = .ok s')
    (null : s'.returns = .pop none :: s.returns) : s.popper = .checking ∧ s.unread = 0 := by
  rcases returns_cases taken with same | ⟨value, new, found⟩
  · rw [same] at null
    exact absurd null.symm (List.cons_ne_self _ _)
  · obtain ⟨rfl, _⟩ := List.cons.inj (new.symm.trans null)
    rcases found with publishing | ⟨checking, same, _⟩
    · -- A consumer that publishes holds an accepted value.
      obtain ⟨some_, value⟩ : s.returned.length < s.accepted.length ∧
          none = s.accepted[s.returned.length]? := by
        simpa [publishing, Popper.Ready] using represents.popper
      obtain ⟨_, _, _, isOldest⟩ := represents.oldest some_
      rw [isOldest] at value
      cases value
    · exact ⟨checking, represents.idx_eq_iff.mp same⟩

end Represents

theorem represents_of_run (positive : 0 < capacity)
    (run : (queueMachine capacity nextDebug).Run (fun _ _ => True) (Queue.init α) s) :
    Represents capacity s := by
  induction run with
  | start => exact .init positive
  | step _ _ taken ih => exact ih.step taken

/-- For every capacity and every interleaving of the two threads: what `Pop` has returned is
a prefix of what `Push` has accepted, fewer values than slots are unread and each is still
in its slot, a call gives up only on a queue that is full or empty when it reads the
indices, the indices stay inside the ring, and between calls `GetSize` counts the unread
values. -/
theorem queue_is_fifo (positive : 0 < capacity)
    (run : (queueMachine capacity nextDebug).Run (fun _ _ => True) (Queue.init α) s) :
    s.returned <+: s.accepted ∧ s.unread ≤ capacity - 1 ∧
      (∀ position, s.returned.length ≤ position → position < s.accepted.length →
        (position = s.returned.length → s.popper.done = false) →
        s.queue (Ring.slot capacity position) = s.accepted[position]?) ∧
      (∀ label s', (queueMachine capacity nextDebug).step s label = .ok s' →
        (∀ val, s'.returns = .push val false :: s.returns →
          s.pusher = .checking val ∧ s.unread = capacity - 1) ∧
        (s'.returns = .pop none :: s.returns → s.popper = .checking ∧ s.unread = 0)) ∧
      (0 ≤ s.rdIdx ∧ s.rdIdx < capacity) ∧ (0 ≤ s.wtIdx ∧ s.wtIdx < capacity) ∧
      (s.pusher = .idle → s.popper = .idle → s.getSize capacity = s.unread) := by
  have represents := represents_of_run positive run
  have bounds : ∀ position, 0 ≤ Ring.slot capacity position ∧
      Ring.slot capacity position < capacity := fun position =>
    ⟨Ring.slot_nonneg position, Ring.slot_lt positive position⟩
  refine ⟨represents.ordered, ?_, represents.stored, ?_, ?_, ?_, fun _ _ => represents.getSize_eq⟩
  · have room := represents.room
    unfold unread
    omega
  · intro label s' taken
    exact ⟨fun val => represents.full_of_refused taken, represents.empty_of_null taken⟩
  · rw [represents.rdIdx]
    exact bounds _
  · rw [represents.wtIdx]
    exact bounds _

/-- With two slots, a value is accepted, a second one is refused, and the first is popped. -/
theorem two_slots_fifo :
    let s := ((queueMachine 2 false).replay (fun _ _ => true) (Queue.init Nat)
      [.push 7, .produce, .pop, .produce, .produce, .push 8, .consume, .produce, .consume,
        .consume]).get (by decide +kernel)
    s.accepted = [7] ∧ s.returned = [7] ∧ s.returned <+: s.accepted :=
  ⟨by decide +kernel, by decide +kernel, (queue_is_fifo (by decide)
    (.of_replay (fun _ _ _ => trivial) (Option.some_get _).symm)).1⟩

end Queue

end LibcoRpc.Conn
