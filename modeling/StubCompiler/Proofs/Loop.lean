/-!
# Loops

A loop is given by what one turn of it does: it leads to the state of the next turn, to the result of
the loop, or to a trap, where the machine would stop because a number would fall below zero or an index
lies outside of what it points into.  An invariant that every turn keeps holds in all states that the
loop reaches; if the turns also make progress, the loop ends.
-/

namespace StubCompiler

inductive Turn (σ ρ : Type) where
  | next (state : σ)
  | finish (result : ρ)
  | trap
deriving DecidableEq, Repr

namespace Turn

variable {σ ρ : Type} {turn : σ → Turn σ ρ}

/-- The states in which the loop that begins in `first` takes a turn. -/
inductive Reaches (turn : σ → Turn σ ρ) (first : σ) : σ → Prop where
  | first : Reaches turn first first
  | next {s t : σ} (reached : Reaches turn first s) (step : turn s = .next t) : Reaches turn first t

inductive Ends (turn : σ → Turn σ ρ) : σ → ρ → Prop where
  | finish {s : σ} {r : ρ} (step : turn s = .finish r) : Ends turn s r
  | next {s t : σ} {r : ρ} (step : turn s = .next t) (rest : Ends turn t r) : Ends turn s r

/-- Every turn keeps the invariant and makes the measure smaller, or ends the loop with `result`. -/
def Progresses (turn : σ → Turn σ ρ) (Invariant : σ → Prop) (measure : σ → Nat) (result : ρ) : Prop :=
  ∀ s, Invariant s →
    turn s = .finish result ∨ ∃ t, turn s = .next t ∧ Invariant t ∧ measure t < measure s

namespace Progresses

variable {Invariant : σ → Prop} {measure : σ → Nat} {result : ρ} {first s : σ}

theorem invariant (h : Progresses turn Invariant measure result) (hfirst : Invariant first)
    (hs : Reaches turn first s) : Invariant s := by
  induction hs with
  | first => exact hfirst
  | @next s t _ step ih =>
    obtain hend | ⟨u, hnext, hu, -⟩ := h s ih
    · rw [hend] at step
      cases step
    · rw [hnext] at step
      cases step
      exact hu

theorem ne_trap (h : Progresses turn Invariant measure result) (hs : Invariant s) : turn s ≠ .trap := by
  obtain hend | ⟨t, hnext, -, -⟩ := h s hs
  · rw [hend]
    exact fun hne => by cases hne
  · rw [hnext]
    exact fun hne => by cases hne

theorem measure_lt (h : Progresses turn Invariant measure result) {t : σ} (hs : Invariant s)
    (hnext : turn s = .next t) : measure t < measure s := by
  obtain hend | ⟨u, hturn, -, hlt⟩ := h s hs
  · rw [hend] at hnext
    cases hnext
  · rw [hturn] at hnext
    cases hnext
    exact hlt

theorem ends (h : Progresses turn Invariant measure result) (hfirst : Invariant first) :
    Ends turn first result := by
  -- The measure bounds the number of turns that are left.
  have hbound : ∀ n s, measure s < n → Invariant s → Ends turn s result := by
    intro n
    induction n with
    | zero => exact fun s hn => absurd hn (Nat.not_lt_zero _)
    | succ n ih =>
      intro s hn hs
      obtain hend | ⟨t, hnext, ht, hlt⟩ := h s hs
      · exact .finish hend
      · exact .next hnext (ih t (by omega) ht)
  exact hbound (measure first + 1) first (by omega) hfirst

end Progresses

end Turn

end StubCompiler
