import Mathlib.Data.List.Infix
import Mathlib.Data.List.Count

/-!
# Two threads in one process

`Interleave t u w` says that `w` is a merge of the steps `t` of one thread and
`u` of another that keeps the order of each: any schedule of the two. A
process ends at the first step that exits it, whichever thread takes it;
`untilFirst isExit w` is the run the schedule `w` gives. Cutting a schedule
at its first exit leaves a schedule of a prefix of each thread in which one of
the two has run up to its own exit (`Interleave.exists_untilFirst`): that thread has
taken every step it takes before exiting.
-/

namespace Forge.Lib.Threads

variable {α : Type}

/-- `w` is a merge of `t` and `u` that keeps the order of each. -/
inductive Interleave : List α → List α → List α → Prop
  | nil : Interleave [] [] []
  | left {a : α} {t u w : List α} : Interleave t u w → Interleave (a :: t) u (a :: w)
  | right {a : α} {t u w : List α} : Interleave t u w → Interleave t (a :: u) (a :: w)

/-- The run up to and including the first step that exits. -/
def untilFirst (isExit : α → Bool) : List α → List α
  | [] => []
  | a :: rest => if isExit a then [a] else a :: untilFirst isExit rest

@[simp] theorem untilFirst_cons_of_exit {isExit : α → Bool} {a : α} (exits : isExit a = true)
    (rest : List α) : untilFirst isExit (a :: rest) = [a] := by
  simp [untilFirst, exits]

@[simp] theorem untilFirst_cons_of_not {isExit : α → Bool} {a : α} (stays : isExit a = false)
    (rest : List α) : untilFirst isExit (a :: rest) = a :: untilFirst isExit rest := by
  simp [untilFirst, stays]

namespace Interleave

theorem nil_right : ∀ t : List α, Interleave t [] t
  | [] => .nil
  | _ :: t => .left (nil_right t)

theorem nil_left : ∀ u : List α, Interleave [] u u
  | [] => .nil
  | _ :: u => .right (nil_left u)

theorem appendCompat {t₁ u₁ w₁ t₂ u₂ w₂ : List α} (first : Interleave t₁ u₁ w₁)
    (second : Interleave t₂ u₂ w₂) : Interleave (t₁ ++ t₂) (u₁ ++ u₂) (w₁ ++ w₂) := by
  induction first with
  | nil => exact second
  | left _ ih => exact .left ih
  | right _ ih => exact .right ih

theorem append (t u : List α) : Interleave t u (t ++ u) := by
  simpa using (nil_right t).appendCompat (nil_left u)

theorem mem_or {t u w : List α} (merged : Interleave t u w) {a : α} (mem : a ∈ w) : a ∈ t ∨ a ∈ u := by
  induction merged with
  | nil => cases mem
  | left _ ih =>
    rcases List.mem_cons.mp mem with rfl | mem
    · exact .inl (List.mem_cons_self ..)
    · exact (ih mem).imp (List.mem_cons_of_mem _) id
  | right _ ih =>
    rcases List.mem_cons.mp mem with rfl | mem
    · exact .inr (List.mem_cons_self ..)
    · exact (ih mem).imp id (List.mem_cons_of_mem _)

theorem mem_of_left {t u w : List α} (merged : Interleave t u w) {a : α} (mem : a ∈ t) : a ∈ w := by
  induction merged with
  | nil => cases mem
  | left _ ih =>
    rcases List.mem_cons.mp mem with rfl | mem
    · exact List.mem_cons_self ..
    · exact List.mem_cons_of_mem _ (ih mem)
  | right _ ih => exact List.mem_cons_of_mem _ (ih mem)

theorem count_eq [DecidableEq α] {t u w : List α} (merged : Interleave t u w) (a : α) :
    w.count a = t.count a + u.count a := by
  induction merged with
  | nil => rfl
  | left _ ih =>
    simp only [List.count_cons, ih]
    omega
  | right _ ih =>
    simp only [List.count_cons, ih]
    omega

/-- A schedule whose first thread exits, cut at its first exit, is a schedule
of a prefix of each thread in which the first has run up to its first exit,
or the second has run up to and including an exit of its own. -/
theorem exists_untilFirst (isExit : α → Bool) {t u w : List α} (merged : Interleave t u w)
    (exits : ∃ a ∈ t, isExit a = true) :
    ∃ t' u', t' <+: t ∧ u' <+: u ∧ Interleave t' u' (untilFirst isExit w) ∧
      (t' = untilFirst isExit t ∨ (u' = untilFirst isExit u ∧ ∃ a ∈ u', isExit a = true)) := by
  induction merged with
  | nil =>
    obtain ⟨a, mem, -⟩ := exits
    cases mem
  | @left a t u w _ ih =>
    cases exits' : isExit a with
    | true =>
      rw [untilFirst_cons_of_exit exits', untilFirst_cons_of_exit exits']
      exact ⟨[a], [], List.singleton_prefix_cons_iff.mpr rfl, List.nil_prefix, .left .nil, .inl rfl⟩
    | false =>
      have later : ∃ b ∈ t, isExit b = true := by
        obtain ⟨b, mem, exitsAt⟩ := exits
        rcases List.mem_cons.mp mem with rfl | mem
        · rw [exits'] at exitsAt
          cases exitsAt
        · exact ⟨b, mem, exitsAt⟩
      obtain ⟨t', u', shorter, shorter', merged', done⟩ := ih later
      rw [untilFirst_cons_of_not exits', untilFirst_cons_of_not exits']
      refine ⟨a :: t', u', List.cons_prefix_cons.mpr ⟨rfl, shorter⟩, shorter', merged'.left, ?_⟩
      exact done.imp (congrArg (a :: ·)) id
  | @right a t u w _ ih =>
    cases exits' : isExit a with
    | true =>
      rw [untilFirst_cons_of_exit exits', untilFirst_cons_of_exit exits']
      exact ⟨[], [a], List.nil_prefix, List.singleton_prefix_cons_iff.mpr rfl, .right .nil,
        .inr ⟨rfl, a, List.mem_singleton_self a, exits'⟩⟩
    | false =>
      obtain ⟨t', u', shorter, shorter', merged', done⟩ := ih exits
      rw [untilFirst_cons_of_not exits', untilFirst_cons_of_not exits']
      refine ⟨t', a :: u', shorter, List.cons_prefix_cons.mpr ⟨rfl, shorter'⟩, merged'.right, ?_⟩
      refine done.imp id fun ⟨same, b, mem, exitsAt⟩ => ⟨congrArg (a :: ·) same, b, ?_, exitsAt⟩
      exact List.mem_cons_of_mem a mem

end Interleave

theorem untilFirst_append_of_not {isExit : α → Bool} :
    ∀ (pre : List α), (∀ a ∈ pre, isExit a = false) →
      ∀ rest, untilFirst isExit (pre ++ rest) = pre ++ untilFirst isExit rest
  | [], _, _ => rfl
  | a :: pre, staying, rest => by
    rw [List.cons_append, untilFirst_cons_of_not (staying a (List.mem_cons_self ..)),
      untilFirst_append_of_not pre (fun b mem => staying b (List.mem_cons_of_mem a mem))]
    rfl

theorem untilFirst_of_last {isExit : α → Bool} (pre : List α) (last : α)
    (staying : ∀ a ∈ pre, isExit a = false) (exits : isExit last = true) :
    untilFirst isExit (pre ++ [last]) = pre ++ [last] := by
  rw [untilFirst_append_of_not pre staying, untilFirst_cons_of_exit exits]

theorem getLast?_untilFirst {isExit : α → Bool} :
    ∀ {l : List α}, (∃ a ∈ l, isExit a = true) →
      ∃ a, (untilFirst isExit l).getLast? = some a ∧ isExit a = true
  | [], ⟨_, mem, _⟩ => by cases mem
  | a :: rest, exits => by
    cases exitsHere : isExit a with
    | true => exact ⟨a, by rw [untilFirst_cons_of_exit exitsHere]; rfl, exitsHere⟩
    | false =>
      have later : ∃ b ∈ rest, isExit b = true := by
        obtain ⟨b, mem, exitsAt⟩ := exits
        rcases List.mem_cons.mp mem with rfl | mem
        · rw [exitsHere] at exitsAt
          cases exitsAt
        · exact ⟨b, mem, exitsAt⟩
      obtain ⟨b, last, exitsAt⟩ := getLast?_untilFirst later
      refine ⟨b, ?_, exitsAt⟩
      rw [untilFirst_cons_of_not exitsHere, List.getLast?_cons, last]
      rfl

theorem eq_of_prefix_of_exit {isExit : α → Bool} {pre : List α} {last : α} {run : List α}
    (staying : ∀ a ∈ pre, isExit a = false) (shorter : run <+: pre ++ [last])
    (exited : ∃ a ∈ run, isExit a = true) : run = pre ++ [last] := by
  obtain ⟨rest, whole⟩ := shorter
  cases rest with
  | nil => simpa using whole
  | cons b rest =>
    exfalso
    have lengths := congrArg List.length whole
    simp only [List.length_append, List.length_cons, List.length_nil] at lengths
    have inPre : run <+: pre :=
      List.prefix_of_prefix_length_le ⟨b :: rest, whole⟩ (List.prefix_append pre [last]) (by omega)
    obtain ⟨a, mem, exitsAt⟩ := exited
    rw [staying a (inPre.subset mem)] at exitsAt
    cases exitsAt

end Forge.Lib.Threads
