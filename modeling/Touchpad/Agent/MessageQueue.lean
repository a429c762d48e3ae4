import Touchpad.Foundation.BigEndian
import Touchpad.Foundation.Fifo
import Touchpad.Foundation.Ring

/-!
# The agent's message queue

`MessageQueue` of `mac/Agent/main.c` and the bodies of `queue_clear`, `queue_push`
and `queue_pop` under its mutex.  The array is a function of the index.  Wherever
`head` is in the ring, the queue behaves as a list of bounded length.
-/

namespace Touchpad.Agent

open Touchpad.Foundation

abbrev WireMessage := Bytes

def queueCapacity : Nat := 256

structure MessageQueue where
  items : Nat → WireMessage := fun _ => []
  head : Nat := 0
  count : Nat := 0

def queueClear (queue : MessageQueue) : MessageQueue :=
  { queue with head := 0, count := 0 }

def queuePush (queue : MessageQueue) (message : WireMessage) : Bool × MessageQueue :=
  if queue.count = queueCapacity then (false, queue)
  else
    let tail := (queue.head + queue.count) % queueCapacity
    (true, { queue with
      items := Function.update queue.items tail message
      count := queue.count + 1 })

/-- `queue_pop` after its wait: `none` where it returns false. -/
def queuePop (queue : MessageQueue) : Option (WireMessage × MessageQueue) :=
  if queue.count = 0 then none
  else
    some (queue.items queue.head,
      { queue with
        head := (queue.head + 1) % queueCapacity
        count := queue.count - 1 })

namespace MessageQueue

structure Valid (queue : MessageQueue) : Prop where
  head_lt : queue.head < queueCapacity
  count_le : queue.count ≤ queueCapacity

def contents (queue : MessageQueue) : List WireMessage :=
  ringContents queueCapacity queue.items queue.head queue.count

theorem valid_initial : ({} : MessageQueue).Valid := ⟨by decide, by decide⟩

@[simp] theorem contents_length (queue : MessageQueue) :
    queue.contents.length = queue.count :=
  ringContents_length queue.items

theorem valid_clear (queue : MessageQueue) : (queueClear queue).Valid :=
  ⟨by simp [queueClear, queueCapacity], by simp [queueClear]⟩

theorem queuePush_cases {queue : MessageQueue} (h : queue.Valid) (message : WireMessage) :
    (queue.count = queueCapacity ∧ queuePush queue message = (false, queue)) ∨
      (queue.count < queueCapacity ∧ (queuePush queue message).1 = true ∧
        (queuePush queue message).2.Valid ∧
        (queuePush queue message).2.contents = queue.contents ++ [message]) := by
  rw [queuePush]
  by_cases hfull : queue.count = queueCapacity
  · rw [if_pos hfull]
    exact .inl ⟨hfull, rfl⟩
  · have hroom : queue.count < queueCapacity := lt_of_le_of_ne h.count_le hfull
    rw [if_neg hfull]
    exact .inr ⟨hroom, rfl, ⟨h.head_lt, hroom⟩, ringContents_push queue.items message hroom⟩

theorem queuePop_eq_none {queue : MessageQueue} :
    queuePop queue = none ↔ queue.contents = [] := by
  rw [← List.length_eq_zero_iff, contents_length, queuePop]
  split <;> simp_all

theorem queuePop_eq_some {queue next : MessageQueue} (h : queue.Valid)
    {message : WireMessage} (hpop : queuePop queue = some (message, next)) :
    next.Valid ∧ queue.contents = message :: next.contents := by
  rw [queuePop] at hpop
  split at hpop
  case isTrue => cases hpop
  case isFalse hsome =>
    cases hpop
    obtain ⟨count, hcount⟩ := Nat.exists_eq_succ_of_ne_zero hsome
    have hle := h.count_le
    refine ⟨⟨Nat.mod_lt _ (by decide), ?_⟩, ?_⟩
    · change queue.count - 1 ≤ queueCapacity
      omega
    · simp only [contents, hcount, Nat.succ_eq_add_one, Nat.add_sub_cancel]
      exact ringContents_pop queue.items h.head_lt

/-! ## The queue as a list -/

def step (queue : MessageQueue) :
    Fifo.Call WireMessage → Fifo.Answer WireMessage × MessageQueue
  | .push message =>
      let (accepted, queue) := queuePush queue message
      (.pushed accepted, queue)
  | .pop =>
      match queuePop queue with
      | none => (.popped none, queue)
      | some (message, queue) => (.popped (some message), queue)
  | .clear => (.cleared, queueClear queue)

structure Stores (queue : MessageQueue) (stored : List WireMessage) : Prop where
  valid : queue.Valid
  contents : queue.contents = stored

theorem stores_initial : ({} : MessageQueue).Stores [] := ⟨valid_initial, rfl⟩

theorem step_stores (queue : MessageQueue) (stored : List WireMessage)
    (call : Fifo.Call WireMessage) (h : queue.Stores stored) :
    (queue.step call).1 = (Fifo.step queueCapacity stored call).1 ∧
      (queue.step call).2.Stores (Fifo.step queueCapacity stored call).2 := by
  obtain ⟨hvalid, rfl⟩ := h
  cases call with
  | push message =>
      rw [step, Fifo.step, contents_length]
      rcases queuePush_cases hvalid message with ⟨hfull, hpush⟩ | ⟨hroom, htaken, hnext, hpush⟩
      · rw [hpush, if_neg hfull.not_lt]
        exact ⟨rfl, hvalid, rfl⟩
      · rw [if_pos hroom]
        dsimp only
        rw [htaken]
        exact ⟨rfl, hnext, hpush⟩
  | pop =>
      rw [step]
      cases hpop : queuePop queue with
      | none =>
          have hempty : queue.contents = [] := queuePop_eq_none.mp hpop
          rw [hempty]
          exact ⟨rfl, hvalid, hempty⟩
      | some popped =>
          obtain ⟨message, next⟩ := popped
          obtain ⟨hnext, hcontents⟩ := queuePop_eq_some hvalid hpop
          rw [hcontents]
          exact ⟨rfl, hnext, rfl⟩
  | clear => exact ⟨rfl, valid_clear queue, rfl⟩

/-- The ring is a list of at most `queueCapacity` messages: it stays within its
bounds, answers every run of calls as the list does, refuses a push only when it is
full and then keeps as it is, and loses, doubles or reorders nothing but by a clear. -/
theorem queue_bounded_fifo (calls : List (Fifo.Call WireMessage)) :
    let queue := afterAll step {} calls
    let stored := afterAll (Fifo.step queueCapacity) [] calls
    queue.head < queueCapacity ∧ queue.count ≤ queueCapacity ∧
      queue.contents = stored ∧
      answers step {} calls = answers (Fifo.step queueCapacity) [] calls ∧
      (∀ message, stored.length = queueCapacity → queuePush queue message = (false, queue)) ∧
      ∀ later, .clear ∉ later →
        stored ++ (later.zip (answers step queue later)).flatMap Fifo.entered =
          (answers step queue later).flatMap Fifo.handed ++
            (afterAll step queue later).contents := by
  intro queue stored
  obtain ⟨hanswers, hstores⟩ := answers_simulated step_stores stores_initial calls
  have hcontents : queue.contents = stored := hstores.contents
  refine ⟨hstores.valid.head_lt, hstores.valid.count_le, hcontents, hanswers, ?_, ?_⟩
  · intro message hfull
    rw [← hcontents, contents_length] at hfull
    rw [queuePush, if_pos hfull]
  · intro later hlater
    obtain ⟨hlaterAnswers, hlaterStores⟩ := answers_simulated step_stores hstores later
    rw [hlaterAnswers, hlaterStores.contents]
    exact Fifo.conserved stored hlater

end MessageQueue

end Touchpad.Agent
