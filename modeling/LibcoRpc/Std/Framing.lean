import Mathlib.Data.List.Basic

/-!
# Frames in a stream

A `Framing` says what a stream begins with: a frame and the rest, too little to tell, or
something that no more input can mend. What it says about a stream does not change when
more of the stream arrives, so a whole stream splits into frames in one way (`Splits`).

A receiver is handed the stream in chunks and keeps what it has of the next frame
(`Receives`). However the stream is cut into chunks, the receiver gives out the frames of
the stream in order, all of them as long as the stream is good.
-/

namespace LibcoRpc.Std

/-- What a stream begins with. -/
inductive Front (β α : Type) where
  | short
  | bad
  | frame (value : α) (rest : List β)

/-- How to take the first frame off a stream. -/
structure Framing (β α : Type) where
  front : List β → Front β α
  shrinks : ∀ {input rest : List β} {value : α}, front input = .frame value rest →
    rest.length < input.length
  frame_append : ∀ {input rest : List β} {value : α} (more : List β),
    front input = .frame value rest → front (input ++ more) = .frame value (rest ++ more)
  bad_append : ∀ {input : List β} (more : List β), front input = .bad →
    front (input ++ more) = .bad

namespace Framing

variable {β α : Type} (framing : Framing β α)

/-- A stream split into its frames: what is left after them, or `none` where the stream is
bad. -/
inductive Splits : List β → List α → Option (List β) → Prop where
  | short {input} (isShort : framing.front input = .short) : Splits input [] (some input)
  | bad {input} (isBad : framing.front input = .bad) : Splits input [] none
  | frame {input value rest values left} (isFrame : framing.front input = .frame value rest)
      (later : Splits rest values left) : Splits input (value :: values) left

/-- A receiver that holds some of a frame takes in chunks and gives out the frames that they
complete. It stops at a chunk in which the stream turns bad, and gives out nothing of it. -/
inductive Receives : List β → List (List β) → List α → Option (List β) → Prop where
  | done {held} : Receives held [] [] (some held)
  | chunk {held chunk values next chunks later left}
      (splits : framing.Splits (held ++ chunk) values (some next))
      (onward : Receives next chunks later left) :
      Receives held (chunk :: chunks) (values ++ later) left
  | bad {held chunk values chunks} (splits : framing.Splits (held ++ chunk) values none) :
      Receives held (chunk :: chunks) [] none

variable {framing} {input held more : List β} {values later : List α} {left : Option (List β)}

namespace Splits

theorem exists_of_input (input : List β) : ∃ values left, framing.Splits input values left := by
  induction size : input.length using Nat.strongRecOn generalizing input with
  | ind count ih =>
      cases front : framing.front input with
      | short => exact ⟨[], some input, .short front⟩
      | bad => exact ⟨[], none, .bad front⟩
      | frame value rest =>
          have smaller := framing.shrinks front
          rw [size] at smaller
          obtain ⟨values, left, splits⟩ := ih rest.length smaller rest rfl
          exact ⟨value :: values, left, .frame front splits⟩

theorem unique {other : List α} {otherLeft : Option (List β)}
    (splits : framing.Splits input values left)
    (also : framing.Splits input other otherLeft) : values = other ∧ left = otherLeft := by
  induction splits generalizing other with
  | short front =>
      cases also with
      | short => exact ⟨rfl, rfl⟩
      | bad front' | frame front' => rw [front] at front'; cases front'
  | bad front =>
      cases also with
      | bad => exact ⟨rfl, rfl⟩
      | short front' | frame front' => rw [front] at front'; cases front'
  | frame front _ ih =>
      cases also with
      | short front' | bad front' => rw [front] at front'; cases front'
      | frame front' later =>
          rw [front] at front'
          cases front'
          obtain ⟨rfl, rfl⟩ := ih later
          exact ⟨rfl, rfl⟩

/-- What is left is too little to tell. -/
theorem short_of_left {rest : List β} (splits : framing.Splits input values (some rest)) :
    framing.front rest = .short := by
  generalize isLeft : some rest = left at splits
  induction splits with
  | short front => cases isLeft; exact front
  | bad => cases isLeft
  | frame _ _ ih => exact ih isLeft

/-- More of the stream is split from where the first part left off. -/
theorem append {rest : List β} (splits : framing.Splits input values (some rest))
    (onward : framing.Splits (rest ++ more) later left) :
    framing.Splits (input ++ more) (values ++ later) left := by
  generalize isLeft : some rest = reached at splits
  induction splits with
  | short => cases isLeft; exact onward
  | bad => cases isLeft
  | frame front _ ih => exact .frame (framing.frame_append more front) (ih isLeft)

/-- A bad stream stays bad. -/
theorem append_bad (splits : framing.Splits input values none) :
    framing.Splits (input ++ more) values none := by
  generalize isLeft : none = left at splits
  induction splits with
  | short => cases isLeft
  | bad front => exact .bad (framing.bad_append more front)
  | frame front _ ih => exact .frame (framing.frame_append more front) (ih isLeft)

end Splits

namespace Receives

/-- A receiver that has not stopped has given out the frames of everything it was handed. -/
theorem splits {chunks : List (List β)} {rest : List β} (isShort : framing.front held = .short)
    (receives : framing.Receives held chunks values (some rest)) :
    framing.Splits (held ++ chunks.flatten) values (some rest) := by
  generalize isLeft : some rest = left at receives
  induction receives with
  | done =>
      cases isLeft
      rw [List.flatten_nil, List.append_nil]
      exact .short isShort
  | chunk splits _ ih =>
      rw [List.flatten_cons, ← List.append_assoc]
      exact splits.append (ih splits.short_of_left isLeft)
  | bad => cases isLeft

/-- A receiver that has stopped was handed a bad stream, and has given out the frames of the
chunks before the one that showed it. -/
theorem splits_of_stopped {chunks : List (List β)}
    (receives : framing.Receives held chunks values none) :
    ∃ dropped, framing.Splits (held ++ chunks.flatten) (values ++ dropped) none := by
  generalize isLeft : none = left at receives
  induction receives with
  | done => cases isLeft
  | chunk splits _ ih =>
      obtain ⟨dropped, onward⟩ := ih isLeft
      refine ⟨dropped, ?_⟩
      rw [List.flatten_cons, ← List.append_assoc, List.append_assoc _ _ dropped]
      exact splits.append onward
  | bad splits =>
      rw [List.flatten_cons, ← List.append_assoc]
      exact ⟨_, splits.append_bad⟩

end Receives

end Framing

end LibcoRpc.Std
