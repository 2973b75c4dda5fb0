import Forge.Source.Cloud

/-!
# Refreshing the Azure service principal token

`acrProvider.authenticate` refreshes its token through `retry` with three
attempts, before it sends any request. `retry` returns at the first attempt
that succeeds. After each failure it waits for a backoff, which a cancelled
context ends early with the context's error. Its `i == attempts` guard never
holds inside the loop, so the last failure is followed by a backoff too.

So `retry` succeeds exactly when some attempt succeeds before any backoff is
cut short. When every attempt fails, it returns the context's error if any
backoff was cut short, the one after the last attempt included, and the last
attempt's error otherwise (`retry_outcome`).
-/

namespace Forge.Guarantees.AcrRetry
open Forge.Source.Cloud

section
variable (f : Nat → Except String Unit) (backoffCancelled : Nat → Bool) (contextError : String)

/-- From attempt `i` on, with `n + 1` attempts, `retry` succeeds exactly when
an attempt succeeds after backoffs that all ran out. -/
theorem retry_eq_ok_iff (n : Nat) : ∀ (i : Nat) (last : Except String Unit),
    retry f backoffCancelled contextError (n + 1) i last = .ok () ↔
      ∃ k ≤ n, f (i + k) = .ok () ∧ ∀ j < k, backoffCancelled (i + j) = false := by
  induction n with
  | zero =>
    intro i last
    cases attempt : f i with
    | ok u => exact iff_of_true (by simp [retry, attempt]) ⟨0, Nat.le_refl 0, attempt, by simp⟩
    | error e =>
      refine iff_of_false (by simp only [retry, attempt]; split <;> simp) ?_
      rintro ⟨k, bound, succeeded, -⟩
      obtain rfl : k = 0 := Nat.le_zero.mp bound
      simp [attempt] at succeeded
  | succ n ih =>
    intro i last
    cases attempt : f i with
    | ok u => exact iff_of_true (by simp [retry, attempt]) ⟨0, Nat.zero_le _, attempt, by simp⟩
    | error e =>
      cases cancelled : backoffCancelled i with
      | true =>
        refine iff_of_false (by simp [retry, attempt, cancelled]) ?_
        rintro ⟨k, -, succeeded, waited⟩
        cases k with
        | zero => simp [attempt] at succeeded
        | succ k =>
          have ranOut := waited 0 (Nat.succ_pos k)
          rw [Nat.add_zero, cancelled] at ranOut
          cases ranOut
      | false =>
        rw [retry.eq_2, attempt]
        simp only [cancelled, Bool.false_eq_true, if_false]
        rw [ih (i + 1) (.error e)]
        constructor
        · rintro ⟨k, bound, succeeded, waited⟩
          refine ⟨k + 1, by omega, by rwa [← Nat.add_assoc, Nat.add_right_comm], fun j lt => ?_⟩
          cases j with
          | zero => exact cancelled
          | succ j =>
            have shifted := waited j (by omega)
            rwa [Nat.add_right_comm, Nat.add_assoc] at shifted
        · rintro ⟨k, bound, succeeded, waited⟩
          cases k with
          | zero => simp [attempt] at succeeded
          | succ k =>
            refine ⟨k, by omega, by rwa [Nat.add_right_comm, Nat.add_assoc], fun j lt => ?_⟩
            have shifted := waited (j + 1) (by omega)
            rwa [← Nat.add_assoc, Nat.add_right_comm] at shifted

/-- When all `n + 1` attempts from attempt `i` on fail, `retry` returns the
context's error if one of the backoffs after them was cut short, the last
included, and the last attempt's error otherwise. -/
theorem retry_of_failed (n : Nat) : ∀ (i : Nat) (last : Except String Unit),
    (∀ k ≤ n, f (i + k) ≠ .ok ()) →
      retry f backoffCancelled contextError (n + 1) i last =
        if (List.range (n + 1)).any (fun k => backoffCancelled (i + k)) then .error contextError
        else f (i + n) := by
  induction n with
  | zero =>
    intro i last failed
    obtain ⟨e, attempt⟩ : ∃ e, f i = .error e := by
      cases attempt : f i with
      | ok u => exact absurd attempt (failed 0 (Nat.le_refl 0))
      | error e => exact ⟨e, rfl⟩
    simp [retry, attempt]
  | succ n ih =>
    intro i last failed
    obtain ⟨e, attempt⟩ : ∃ e, f i = .error e := by
      cases attempt : f i with
      | ok u => exact absurd attempt (failed 0 (Nat.zero_le _))
      | error e => exact ⟨e, rfl⟩
    have later := ih (i + 1) (.error e) fun k bound => by
      have failedAt := failed (k + 1) (by omega)
      rwa [← Nat.add_assoc, Nat.add_right_comm] at failedAt
    have backoffs : (List.range (n + 1 + 1)).any (fun k => backoffCancelled (i + k)) =
        (backoffCancelled i || (List.range (n + 1)).any (fun k => backoffCancelled (i + 1 + k))) := by
      rw [List.range_succ_eq_map, List.any_cons, List.any_map]
      simp only [Nat.add_zero, Function.comp_def, Nat.succ_eq_add_one, Nat.add_assoc, Nat.add_comm 1]
    rw [backoffs]
    cases cancelled : backoffCancelled i with
    | true => simp [retry, attempt, cancelled]
    | false =>
      rw [retry.eq_2, attempt]
      simp only [cancelled, Bool.false_eq_true, if_false, Bool.false_or]
      rw [later, Nat.add_right_comm, Nat.add_assoc i n 1, Nat.add_comm n 1, ← Nat.add_assoc]

end

/-- `retry`, started as `authenticate` starts it, for any number of attempts:
it succeeds exactly when some attempt succeeds after backoffs that all ran
out; when every attempt fails it returns the context's error if a backoff was
cut short, the one after the last attempt included, and the last attempt's
error otherwise. -/
theorem retry_outcome (f : Nat → Except String Unit) (backoffCancelled : Nat → Bool) (contextError : String)
    (n : Nat) (last : Except String Unit) :
    (retry f backoffCancelled contextError (n + 1) 0 last = .ok () ↔
        ∃ k ≤ n, f k = .ok () ∧ ∀ j < k, backoffCancelled j = false) ∧
      ((∀ k ≤ n, f k ≠ .ok ()) →
        retry f backoffCancelled contextError (n + 1) 0 last =
          if (List.range (n + 1)).any backoffCancelled then .error contextError else f n) := by
  constructor
  · simpa using retry_eq_ok_iff f backoffCancelled contextError n 0 last
  · intro failed
    simpa using retry_of_failed f backoffCancelled contextError n 0 last (by simpa using failed)

/-- Three failed refreshes, with the context cancelled only during the backoff
after the third: `authenticate` gets the context's error, not the refresh's. -/
theorem cancelled_last_backoff_hides_refresh_error :
    (∀ k ≤ 2, (fun _ => .error "token expired" : Nat → Except String Unit) k ≠ .ok ()) ∧
      retry (fun _ => .error "token expired") (fun k => k == 2) "context canceled" 3 0 (.ok ()) =
        .error "context canceled" :=
  ⟨fun _ _ same => (by cases same),
    ((retry_outcome (fun _ => .error "token expired") (fun k => k == 2) "context canceled" 2 (.ok ())).2
      fun _ _ same => (by cases same)).trans rfl⟩

end Forge.Guarantees.AcrRetry
