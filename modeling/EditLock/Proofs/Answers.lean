/-
# Answers

What asks one request after the other of a state, and two states that cannot be told apart that way:
if related states give equal answers to a request and are related again after it, they give equal
answers to every sequence of requests.

Key definitions: `answers`.
Key theorems: `answers_eq_of_simulates`, `forall_mem_answers`, `forall₂_answers`.
-/
import Mathlib.Data.List.Forall2

namespace EditLock

variable {ρ α σ τ : Type}

/-- The answers to requests that are made one after the other. -/
def answers (answer : ρ → σ → α × σ) : List ρ → σ → List α
  | [], _ => []
  | q :: qs, s => (answer q s).1 :: answers answer qs (answer q s).2

/-- **Related states answer alike.** `P` is what is known of each request. -/
theorem answers_eq_of_simulates {f : ρ → σ → α × σ} {g : ρ → τ → α × τ} {P : ρ → Prop}
    {R : σ → τ → Prop}
    (step : ∀ q s t, P q → R s t → (f q s).1 = (g q t).1 ∧ R (f q s).2 (g q t).2)
    {requests : List ρ} {s : σ} {t : τ} (known : ∀ q ∈ requests, P q) (related : R s t) :
    answers f requests s = answers g requests t := by
  induction requests generalizing s t with
  | nil => rfl
  | cons q qs ih =>
    obtain ⟨hanswer, hnext⟩ := step q s t (known q List.mem_cons_self) related
    have hrest := ih (fun q' hq' => known q' (List.mem_cons_of_mem q hq')) hnext
    rw [answers, answers, hanswer, hrest]

/-- What holds of the answer to each single request holds of all answers. -/
theorem forall_mem_answers {f : ρ → σ → α × σ} {Q : α → Prop} (step : ∀ q s, Q (f q s).1)
    (requests : List ρ) (s : σ) : ∀ a ∈ answers f requests s, Q a := by
  induction requests generalizing s with
  | nil => exact nofun
  | cons q qs ih =>
    intro a ha
    rcases List.mem_cons.1 ha with rfl | hrest
    · exact step q s
    · exact ih _ a hrest

/-- What holds of each request and its answer while an invariant stands, which each request keeps,
holds all along. -/
theorem forall₂_answers {f : ρ → σ → α × σ} {Q : ρ → α → Prop} {I : σ → Prop}
    (fits : ∀ q s, I s → Q q (f q s).1) (keeps : ∀ q s, I s → I (f q s).2)
    (requests : List ρ) {s : σ} (h : I s) : List.Forall₂ Q requests (answers f requests s) := by
  induction requests generalizing s with
  | nil => exact .nil
  | cons q qs ih => exact .cons (fits q s h) (ih (keeps q s h))

end EditLock
