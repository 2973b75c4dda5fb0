import Mathlib.Data.List.Basic

/-!
# Replaying a log of calls on a state

A model that records the calls a program makes on a component, in order, is
connected to a model of the component's state by replaying the log: each call
acts on the state it finds. `along act s calls` pairs each call with that
state, and `calls.foldl act s` is the state the log leaves.

A property that every call of the log keeps holds of every state of the
replay and of the last (`along_invariant`); what each call sees is checked
segment by segment of the log (`forall_mem_along_append`).
-/

namespace Forge.Lib.Replay

variable {σ α : Type}

/-- Each call of a log, with the state it is replayed on. -/
def along (act : σ → α → σ) : σ → List α → List (α × σ)
  | _, [] => []
  | s, call :: rest => (call, s) :: along act (act s call) rest

@[simp] theorem along_nil (act : σ → α → σ) (s : σ) : along act s [] = [] := rfl

@[simp] theorem along_cons (act : σ → α → σ) (s : σ) (call : α) (rest : List α) :
    along act s (call :: rest) = (call, s) :: along act (act s call) rest :=
  rfl

theorem along_append (act : σ → α → σ) :
    ∀ (s : σ) (first rest : List α),
      along act s (first ++ rest) = along act s first ++ along act (first.foldl act s) rest
  | _, [], _ => rfl
  | s, call :: first, rest => by
    rw [List.cons_append, along_cons, along_cons, along_append act (act s call) first rest,
      List.foldl_cons, List.cons_append]

theorem forall_mem_along_append {Q : α × σ → Prop} (act : σ → α → σ) (s : σ) (first rest : List α) :
    (∀ x ∈ along act s (first ++ rest), Q x) ↔
      (∀ x ∈ along act s first, Q x) ∧ ∀ x ∈ along act (first.foldl act s) rest, Q x := by
  rw [along_append, List.forall_mem_append]

theorem fst_mem_of_mem_along (act : σ → α → σ) :
    ∀ {s : σ} {calls : List α} {x : α × σ}, x ∈ along act s calls → x.1 ∈ calls
  | _, [], _, mem => by cases mem
  | s, call :: rest, x, mem => by
    rcases List.mem_cons.mp mem with rfl | later
    · exact List.mem_cons_self ..
    · exact List.mem_cons_of_mem call (fst_mem_of_mem_along act later)

theorem forall_mem_along_of_calls {Q : α × σ → Prop} (act : σ → α → σ) {calls : List α}
    (holds : ∀ call ∈ calls, ∀ s, Q (call, s)) (s : σ) : ∀ x ∈ along act s calls, Q x :=
  fun x mem => holds x.1 (fst_mem_of_mem_along act mem) x.2

/-- A property of states that each call of the log keeps holds of the state
every call finds and of the state the log leaves. -/
theorem along_invariant {P : σ → Prop} (act : σ → α → σ) :
    ∀ {calls : List α}, (∀ call ∈ calls, ∀ s, P s → P (act s call)) →
      ∀ s, P s → (∀ x ∈ along act s calls, P x.2) ∧ P (calls.foldl act s)
  | [], _, _, init => ⟨by simp, init⟩
  | call :: rest, keeps, s, init => by
    have later := along_invariant act (fun c mem => keeps c (List.mem_cons_of_mem call mem))
      (act s call) (keeps call (List.mem_cons_self ..) s init)
    refine ⟨?_, later.2⟩
    rw [along_cons, List.forall_mem_cons]
    exact ⟨init, later.1⟩

theorem foldl_eq_of_keeps {β : Type} (part : σ → β) (act : σ → α → σ) {calls : List α}
    (keeps : ∀ call ∈ calls, ∀ s, part (act s call) = part s) (s : σ) :
    part (calls.foldl act s) = part s :=
  (@along_invariant σ α (fun t => part t = part s) act calls
    (fun call mem t same => (keeps call mem t).trans same) s rfl).2

end Forge.Lib.Replay
