import Mathlib.Tactic.Common

/-!
Buffered channels: a send that does not wait, a receive, and a close. A send on a closed
channel and a second close panic.
-/

namespace ChannelLib

structure Chan (Value : Type) (capacity : Nat) where
  buffer : List Value
  closed : Bool
  fits : buffer.length ≤ capacity

inductive Outcome (Value : Type) (capacity : Nat)
  | sent (channel : Chan Value capacity)
  | full
  | panic

variable {Value : Type} {capacity : Nat}

def empty : Chan Value capacity := ⟨[], false, Nat.zero_le capacity⟩

def trySend (channel : Chan Value capacity) (value : Value) : Outcome Value capacity :=
  if channel.closed then .panic
  else if room : channel.buffer.length < capacity then
    .sent ⟨channel.buffer ++ [value], false, by rw [List.length_append]; exact room⟩
  else .full

def receive (channel : Chan Value capacity) : Option (Value × Chan Value capacity) :=
  match stored : channel.buffer with
  | [] => none
  | value :: rest =>
      some (value, ⟨rest, channel.closed, by have := channel.fits; simp [stored] at this; omega⟩)

def close (channel : Chan Value capacity) : Option (Chan Value capacity) :=
  if channel.closed then none else some { channel with closed := true }

variable {channel : Chan Value capacity} {value : Value}

theorem trySend_panic : trySend channel value = .panic ↔ channel.closed = true := by
  unfold trySend
  by_cases shut : channel.closed
  · simp [shut]
  · by_cases room : channel.buffer.length < capacity
    · simp [shut, room]
    · simp [shut, room]

theorem trySend_sent {next : Chan Value capacity} (sent : trySend channel value = .sent next) :
    next.closed = channel.closed ∧ next.buffer = channel.buffer ++ [value] := by
  unfold trySend at sent
  by_cases shut : channel.closed
  · simp [shut] at sent
  · by_cases room : channel.buffer.length < capacity
    · simp only [shut, Bool.false_eq_true, if_false, room, dite_true, Outcome.sent.injEq] at sent
      subst sent
      exact ⟨by simp [shut], rfl⟩
    · simp [shut, room] at sent

theorem trySend_room (opened : channel.closed = false) (room : channel.buffer.length < capacity) :
    ∃ next, trySend channel value = .sent next :=
  ⟨_, by rw [trySend, if_neg (by simp [opened]), dif_pos room]⟩

theorem receive_closed {rest : Chan Value capacity} (received : receive channel = some (value, rest)) :
    rest.closed = channel.closed := by
  unfold receive at received
  split at received
  · contradiction
  · obtain ⟨-, rfl⟩ := Prod.mk.inj (Option.some.inj received)
    rfl

end ChannelLib
