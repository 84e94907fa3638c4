import Mathlib.Tactic.Common

/-!
# Runs of an event-driven machine

A machine is a total step function `σ → ε → σ`. A run is the list of events it receives.
Nothing here depends on what the states and events are.

* `exec` — the state after a run
* `Along` — a condition on (state before, event) that holds at every step of a run
* `along_of_invariant` — an invariant kept by the steps that meet a guard
* `exec_iff_along` — a fact that is kept by guarded steps only
* `along_iff_of_invariant` — the guard is exact when each step from the invariant is
-/

namespace Run

variable {σ ε : Type*} {step : σ → ε → σ}

/-- The state a machine reaches from `s` on the events `es`. -/
def exec (step : σ → ε → σ) (s : σ) (es : List ε) : σ := es.foldl step s

@[simp] theorem exec_nil (s : σ) : exec step s [] = s := rfl

@[simp] theorem exec_cons (s : σ) (e : ε) (es : List ε) :
    exec step s (e :: es) = exec step (step s e) es := rfl

theorem exec_append (s : σ) (es fs : List ε) :
    exec step s (es ++ fs) = exec step (exec step s es) fs := by
  simp [exec]

/-- `Q` holds of the state before and the event, at every step of the run. -/
def Along (step : σ → ε → σ) (Q : σ → ε → Prop) : σ → List ε → Prop
  | _, [] => True
  | s, e :: es => Q s e ∧ Along step Q (step s e) es

@[simp] theorem along_nil {Q : σ → ε → Prop} (s : σ) : Along step Q s [] := trivial

@[simp] theorem along_cons {Q : σ → ε → Prop} (s : σ) (e : ε) (es : List ε) :
    Along step Q s (e :: es) ↔ Q s e ∧ Along step Q (step s e) es := Iff.rfl

theorem along_append {Q : σ → ε → Prop} : ∀ (s : σ) (es fs : List ε),
    Along step Q s (es ++ fs) ↔ Along step Q s es ∧ Along step Q (exec step s es) fs
  | _, [], _ => by simp
  | s, e :: es, fs => by
    rw [List.cons_append, along_cons, along_cons, exec_cons, along_append (step s e) es fs, and_assoc]

/-- `Along` spelled out: the condition holds wherever the run is cut. -/
theorem along_iff_cut {Q : σ → ε → Prop} {s : σ} {es : List ε} :
    Along step Q s es ↔ ∀ pre e post, es = pre ++ e :: post → Q (exec step s pre) e := by
  constructor
  · rintro h pre e post rfl
    exact ((along_append s pre (e :: post)).mp h).2.1
  · intro h
    induction es generalizing s with
    | nil => trivial
    | cons e es ih =>
      refine ⟨h [] e es rfl, ih fun pre f post hes => ?_⟩
      have := h (e :: pre) f post (by rw [hes, List.cons_append])
      simpa using this

theorem Along.mono {P Q : σ → ε → Prop} (hPQ : ∀ s e, P s e → Q s e) :
    ∀ {s : σ} {es : List ε}, Along step P s es → Along step Q s es
  | _, [], _ => trivial
  | _, _ :: _, h => ⟨hPQ _ _ h.1, Along.mono hPQ h.2⟩

/-- A condition on the events alone. -/
theorem along_of_forall {Q : ε → Prop} : ∀ {s : σ} {es : List ε}, (∀ e ∈ es, Q e) →
    Along step (fun _ e => Q e) s es
  | _, [], _ => trivial
  | _, e :: _, h =>
    ⟨h e List.mem_cons_self, along_of_forall fun f hf => h f (List.mem_cons_of_mem e hf)⟩

section Invariant

variable {I : σ → Prop} {G Q : σ → ε → Prop}

/-- An invariant kept by every step that meets the guard holds at the end of a guarded run. -/
theorem exec_invariant (hstep : ∀ s e, I s → G s e → I (step s e)) :
    ∀ {s : σ} {es : List ε}, I s → Along step G s es → I (exec step s es)
  | _, [], hI, _ => hI
  | s, e :: es, hI, hG => by
    rw [exec_cons]
    exact exec_invariant hstep (hstep s e hI hG.1) hG.2

/-- The unguarded case: an invariant of the step is an invariant of the run. -/
theorem exec_inductive (hstep : ∀ s e, I s → I (step s e)) {s : σ} (es : List ε) (hI : I s) :
    I (exec step s es) := by
  induction es generalizing s with
  | nil => exact hI
  | cons e es ih => exact ih (hstep s e hI)

/-- Each guarded step from the invariant keeps it and meets `Q`, so `Q` holds along the run. -/
theorem along_of_invariant (hkeep : ∀ s e, I s → G s e → I (step s e))
    (hQ : ∀ s e, I s → G s e → Q s e) :
    ∀ {s : σ} {es : List ε}, I s → Along step G s es → Along step Q s es
  | _, [], _, _ => trivial
  | s, e :: _, hI, hG =>
    ⟨hQ s e hI hG.1, along_of_invariant hkeep hQ (hkeep s e hI hG.1) hG.2⟩

/-- **An exact guard of the step is an exact guard of the run.** -/
theorem along_iff_of_invariant (hkeep : ∀ s e, I s → G s e → I (step s e))
    (hQ : ∀ s e, I s → (Q s e ↔ G s e)) :
    ∀ {s : σ} {es : List ε}, I s → (Along step Q s es ↔ Along step G s es)
  | _, [], _ => Iff.rfl
  | s, e :: es, hI => by
    rw [along_cons, along_cons, hQ s e hI]
    exact and_congr_right fun hG => along_iff_of_invariant hkeep hQ (hkeep s e hI hG)

/--
A fact that each step from the invariant keeps exactly when the guard is met, and that no step
brings back, holds at the end of a run exactly when the whole run met the guard.
-/
theorem exec_iff_along {D : σ → Prop} (hkeep : ∀ s e, I s → I (step s e))
    (hstep : ∀ s e, I s → D s → (D (step s e) ↔ G s e))
    (hlost : ∀ s e, I s → ¬D s → ¬D (step s e)) :
    ∀ {s : σ} {es : List ε}, I s → D s → (D (exec step s es) ↔ Along step G s es)
  | _, [], _, hD => iff_of_true hD trivial
  | s, e :: es, hI, hD => by
    rw [exec_cons, along_cons, ← hstep s e hI hD]
    by_cases hD' : D (step s e)
    · rw [exec_iff_along hkeep hstep hlost (hkeep s e hI) hD']
      exact (and_iff_right hD').symm
    · have hnever : ¬D (exec step (step s e) es) := by
        have hboth := exec_inductive (I := fun s => I s ∧ ¬D s)
          (fun s e h => ⟨hkeep s e h.1, hlost s e h.1 h.2⟩) es ⟨hkeep s e hI, hD'⟩
        exact hboth.2
      exact iff_of_false hnever fun h => hD' h.1

end Invariant

section Simulation

variable {τ φ : Type*} {step' : τ → φ → τ} {R : σ → τ → Prop} {m : ε → φ}

/-- A relation kept by matching steps relates the ends of matching runs. -/
theorem exec_simulates (hstep : ∀ s t e, R s t → R (step s e) (step' t (m e))) :
    ∀ {s : σ} {t : τ} (es : List ε), R s t → R (exec step s es) (exec step' t (es.map m))
  | _, _, [], hR => hR
  | s, t, e :: es, hR => exec_simulates hstep es (hstep s t e hR)

end Simulation

end Run
