import Mathlib.Tactic.Common

/-!
# Retry loops with a budget

A loop that repeats a stateful attempt until it yields a value, at most `n` times more after
the first, running a recovery action before each repetition. The loop returns what is left of
the budget, so that several loops can share one.
-/

namespace Retry

variable {σ α : Type*} {attempt : σ → Option α × σ} {recover : σ → σ}

/-- First value the attempt yields, the budget left, and the state afterwards. -/
def loop (attempt : σ → Option α × σ) (recover : σ → σ) (n : Nat) (s : σ) :
    Option α × Nat × σ :=
  match attempt s with
  | (some a, s') => (some a, n, s')
  | (none, s') =>
    match n with
    | 0 => (none, 0, s')
    | n + 1 => loop attempt recover n (recover s')

theorem loop_of_some {s s' : σ} {a : α} (h : attempt s = (some a, s')) (n : Nat) :
    loop attempt recover n s = (some a, n, s') := by
  rw [loop.eq_def, h]

theorem loop_zero_of_none {s s' : σ} (h : attempt s = (none, s')) :
    loop attempt recover 0 s = (none, 0, s') := by
  rw [loop.eq_def, h]

theorem loop_succ_of_none {s s' : σ} (h : attempt s = (none, s')) (n : Nat) :
    loop attempt recover (n + 1) s = loop attempt recover n (recover s') := by
  rw [loop.eq_def, h]

/-- The loop never gives back more budget than it was given. -/
theorem loop_budget_le : ∀ (n : Nat) (s : σ), (loop attempt recover n s).2.1 ≤ n
  | n, s => by
    obtain ⟨r, s', h⟩ : ∃ r s', attempt s = (r, s') := ⟨_, _, rfl⟩
    cases r with
    | some a => simp [loop_of_some h]
    | none =>
      cases n with
      | zero => simp [loop_zero_of_none h]
      | succ n =>
        rw [loop_succ_of_none h]
        exact Nat.le_succ_of_le (loop_budget_le n (recover s'))

/-- A component of the state that neither attempts nor recovery look at is carried along. -/
theorem loop_prod {τ : Type*} {attempt' : σ × τ → Option α × (σ × τ)} {recover' : σ × τ → σ × τ}
    (hatt : ∀ s l, attempt' (s, l) = ((attempt s).1, ((attempt s).2, l)))
    (hrec : ∀ s l, recover' (s, l) = (recover s, l)) : ∀ (n : Nat) (s : σ) (l : τ),
      loop attempt' recover' n (s, l) =
        ((loop attempt recover n s).1, (loop attempt recover n s).2.1,
          ((loop attempt recover n s).2.2, l))
  | n, s, l => by
    obtain ⟨r, s', h⟩ : ∃ r s', attempt s = (r, s') := ⟨_, _, rfl⟩
    have h' : attempt' (s, l) = (r, (s', l)) := by rw [hatt, h]
    cases r with
    | some a => rw [loop_of_some h, loop_of_some h']
    | none =>
      cases n with
      | zero => rw [loop_zero_of_none h, loop_zero_of_none h']
      | succ n =>
        rw [loop_succ_of_none h, loop_succ_of_none h', hrec]
        exact loop_prod hatt hrec n (recover s') l

variable (attempt recover) in
/--
**The rounds of a loop.** All attempts but the last fail and are followed by a recovery, and the
budget pays for them. If the attempts and the recovery log what they do, the logs are one after the
other.
-/
theorem loop_rounds {τ : Type*} (attempt' : σ × List τ → Option α × (σ × List τ))
    (recover' : σ × List τ → σ × List τ) (calls : σ → List τ) (pulse : List τ)
    (hatt : ∀ s l, attempt' (s, l) = ((attempt s).1, ((attempt s).2, l ++ calls s)))
    (hrec : ∀ s l, recover' (s, l) = (recover s, l ++ pulse)) : ∀ (n : Nat) (s : σ) (l : List τ),
      ∃ (failed : List σ) (last : σ), failed.length ≤ n ∧
        (∀ v ∈ failed, (attempt v).1 = none) ∧
        ((attempt last).1 = none → failed.length = n) ∧
        loop attempt recover n s =
          ((attempt last).1, n - failed.length, (attempt last).2) ∧
        loop attempt' recover' n (s, l) =
          ((attempt last).1, n - failed.length,
            ((attempt last).2, l ++ failed.flatMap (fun v => calls v ++ pulse) ++ calls last))
  | n, s, l => by
    obtain ⟨r, s', h⟩ : ∃ r s', attempt s = (r, s') := ⟨_, _, rfl⟩
    have h' : attempt' (s, l) = (r, (s', l ++ calls s)) := by rw [hatt, h]
    cases r with
    | some a =>
      refine ⟨[], s, Nat.zero_le n, by simp, by simp [h], ?_, ?_⟩
      · rw [loop_of_some h, h]
        rfl
      · rw [loop_of_some h', h]
        simp
    | none =>
      cases n with
      | zero =>
        refine ⟨[], s, Nat.le_refl 0, by simp, by simp, ?_, ?_⟩
        · rw [loop_zero_of_none h, h]
          rfl
        · rw [loop_zero_of_none h', h]
          simp
      | succ n =>
        -- the rest of the loop starts after the recovery, with one retry less
        obtain ⟨failed, last, hlen, hfailed, hlast, hloop, hloop'⟩ :=
          loop_rounds attempt' recover' calls pulse hatt hrec n (recover s') (l ++ calls s ++ pulse)
        refine ⟨s :: failed, last, Nat.succ_le_succ hlen, ?_, ?_, ?_, ?_⟩
        · rintro v hv
          rcases List.mem_cons.mp hv with rfl | hv
          · rw [h]
          · exact hfailed v hv
        · intro hnone
          rw [List.length_cons, hlast hnone]
        · rw [loop_succ_of_none h, hloop, List.length_cons, Nat.add_sub_add_right]
        · rw [loop_succ_of_none h', hrec, hloop', List.length_cons, Nat.add_sub_add_right]
          simp

section Rules

variable {I : σ → Prop}

variable (attempt recover) in
/--
The rule for a loop: `I` is kept by failed attempts and by the recovery, a successful attempt
from `I` establishes `Q`, a failed one `F`.
-/
theorem loop_rule {Q : α → σ → Prop} {F : σ → Prop}
    (hfail : ∀ s s', I s → attempt s = (none, s') → I (recover s') ∧ F s')
    (hsome : ∀ s a s', I s → attempt s = (some a, s') → Q a s') :
    ∀ (n : Nat) (s : σ), I s →
      match loop attempt recover n s with
      | (some a, _, s') => Q a s'
      | (none, _, s') => F s'
  | n, s, hI => by
    obtain ⟨r, s', h⟩ : ∃ r s', attempt s = (r, s') := ⟨_, _, rfl⟩
    cases r with
    | some a => rw [loop_of_some h]; exact hsome s a s' hI h
    | none =>
      cases n with
      | zero => rw [loop_zero_of_none h]; exact (hfail s s' hI h).2
      | succ n =>
        rw [loop_succ_of_none h]
        exact loop_rule hfail hsome n (recover s') (hfail s s' hI h).1

/-- What attempts and recovery both keep, the loop keeps. -/
theorem loop_invariant (hatt : ∀ s, I s → I (attempt s).2) (hrec : ∀ s, I s → I (recover s)) :
    ∀ (n : Nat) (s : σ), I s → I (loop attempt recover n s).2.2
  | n, s, hI => by
    obtain ⟨r, s', h⟩ : ∃ r s', attempt s = (r, s') := ⟨_, _, rfl⟩
    have hI' : I s' := by have := hatt s hI; rwa [h] at this
    cases r with
    | some a => rwa [loop_of_some h]
    | none =>
      cases n with
      | zero => rwa [loop_zero_of_none h]
      | succ n =>
        rw [loop_succ_of_none h]
        exact loop_invariant hatt hrec n (recover s') (hrec s' hI')

/-- What the rounds of a loop cost, where the budget that is left over counts as not spent. -/
theorem loop_cost {m : σ → Nat} {a c : Nat} (hatt : ∀ s, m (attempt s).2 ≤ m s + a)
    (hrec : ∀ s, m (recover s) ≤ m s + c) : ∀ (n : Nat) (s : σ),
      m (loop attempt recover n s).2.2 + (a + c) * (loop attempt recover n s).2.1 ≤
        m s + a + (a + c) * n
  | n, s => by
    obtain ⟨r, s', h⟩ : ∃ r s', attempt s = (r, s') := ⟨_, _, rfl⟩
    have hm : m s' ≤ m s + a := by have := hatt s; rwa [h] at this
    cases r with
    | some _ =>
      rw [loop_of_some h]
      exact Nat.add_le_add_right hm _
    | none =>
      cases n with
      | zero =>
        rw [loop_zero_of_none h]
        exact hm
      | succ n =>
        have hrest := loop_cost hatt hrec n (recover s')
        have hspent := hrec s'
        rw [loop_succ_of_none h, Nat.mul_succ]
        omega

/--
A measure that attempts keep and every recovery sets to `c` tells afterwards whether the loop
recovered at all.
-/
theorem loop_recovered {β : Type*} {m : σ → β} {c : β} (hatt : ∀ s, m (attempt s).2 = m s)
    (hrec : ∀ s, m (recover s) = c) : ∀ (n : Nat) (s : σ),
      m (loop attempt recover n s).2.2 = if (loop attempt recover n s).2.1 < n then c else m s
  | n, s => by
    obtain ⟨r, s', h⟩ : ∃ r s', attempt s = (r, s') := ⟨_, _, rfl⟩
    have hm : m s' = m s := by have := hatt s; rwa [h] at this
    cases r with
    | some a => rw [loop_of_some h, if_neg (Nat.lt_irrefl n), hm]
    | none =>
      cases n with
      | zero => rw [loop_zero_of_none h, if_neg (Nat.lt_irrefl 0), hm]
      | succ n =>
        have hle : (loop attempt recover n (recover s')).2.1 ≤ n := loop_budget_le n _
        rw [loop_succ_of_none h, loop_recovered hatt hrec n (recover s'), hrec,
          if_pos (Nat.lt_succ_of_le hle), ite_self]

end Rules

end Retry
