import Mathlib.Data.List.Infix
import Mathlib.Data.List.Nodup
import Mathlib.Data.List.Perm.Subperm

/-! Batches from the front of a queue. In every round the first rows are handled. If a row that has been
handled leaves the queue or goes behind all rows that have not been handled, and nobody joins the
queue, then enough rounds handle everybody.
-/

namespace Concurrency

namespace Batches

variable {α : Type} {size rounds k : Nat} {queue : Nat → List α} {row : α}

/-- The row was in the batch of an earlier round. -/
def Handled (size : Nat) (queue : Nat → List α) (k : Nat) (row : α) : Prop :=
  ∃ i < k, row ∈ (queue i).take size

/-- The queue after a round: rows that have not been handled stay, all rows come from the first queue,
and no row that has been handled is in front of one that has not.
-/
structure Requeued (size : Nat) (queue : Nat → List α) (k : Nat) : Prop where
  distinct : (queue (k + 1)).Nodup
  stays : ∀ row ∈ queue k, ¬Handled size queue (k + 1) row → row ∈ queue (k + 1)
  known : ∀ row ∈ queue (k + 1), row ∈ queue 0
  behind : (queue (k + 1)).Pairwise fun row other =>
    Handled size queue (k + 1) row → Handled size queue (k + 1) other

open Classical in
/-- The rows of the queue that have not been handled. -/
noncomputable def waiting (size : Nat) (queue : Nat → List α) (k : Nat) : List α :=
  (queue k).filter fun row => ¬Handled size queue k row

theorem mem_waiting : row ∈ waiting size queue k ↔ row ∈ queue k ∧ ¬Handled size queue k row := by
  simp [waiting]

theorem Handled.succ (handled : Handled size queue k row) : Handled size queue (k + 1) row := by
  obtain ⟨i, earlier, batch⟩ := handled
  exact ⟨i, by omega, batch⟩

/-- A list in which no row with a property is in front of one without starts with those without, by
induction on the list.
-/
theorem prefix_filter_not {p : α → Prop} [DecidablePred p] {rows : List α}
    (sorted : rows.Pairwise fun row other => p row → p other)
    : rows.filter (fun row => ¬p row) <+: rows := by
  induction rows with
  | nil => exact List.prefix_rfl
  | cons row rest ih =>
      obtain ⟨first, later⟩ := List.pairwise_cons.mp sorted
      by_cases marked : p row
      · have nothing : (row :: rest).filter (fun row => ¬p row) = [] := by
          rw [List.filter_eq_nil_iff]
          intro other member
          rcases List.mem_cons.mp member with rfl | behind
          · simpa using marked
          · simpa using first other behind marked
        rw [nothing]
        exact List.nil_prefix
      · rw [List.filter_cons_of_pos (by simpa using marked)]
        exact (List.prefix_cons_inj row).mpr (ih later)

/-- The rows that wait are the first ones of the queue. -/
theorem waiting_isPrefix (requeued : ∀ i < k, Requeued size queue i)
    : waiting size queue k <+: queue k := by
  classical
  have behind : (queue k).Pairwise fun row other =>
      Handled size queue k row → Handled size queue k other := by
    cases k with
    | zero =>
        refine List.pairwise_of_forall fun _ _ handled => ?_
        obtain ⟨i, earlier, _⟩ := handled
        omega
    | succ k => exact (requeued k (by omega)).behind
  exact prefix_filter_not behind

/-- A row that still waits after a round has waited before it. -/
theorem waited (requeued : ∀ i < k, Requeued size queue i) (unhandled : ¬Handled size queue k row)
    (member : row ∈ queue 0)
    : row ∈ queue k := by
  induction k with
  | zero => exact member
  | succ k ih =>
      have before := ih (fun i earlier => requeued i (by omega)) fun handled => unhandled handled.succ
      exact (requeued k (by omega)).stays row before unhandled

/-- A round handles a whole batch of the rows that wait, as long as there are so many. -/
theorem length_waiting_succ (requeued : ∀ i < k + 1, Requeued size queue i)
    : (waiting size queue (k + 1)).length ≤ (waiting size queue k).length - size := by
  classical
  have front : waiting size queue k <+: queue k :=
    waiting_isPrefix fun i earlier => requeued i (by omega)
  have once : (waiting size queue (k + 1)).Nodup :=
    (requeued k (by omega)).distinct.filter _
  have later : waiting size queue (k + 1) ⊆ (waiting size queue k).drop size := by
    intro row member
    obtain ⟨queued, unhandled⟩ := mem_waiting.mp member
    have waits : row ∈ waiting size queue k := by
      refine mem_waiting.mpr ⟨?_, fun handled => unhandled handled.succ⟩
      exact waited (fun i earlier => requeued i (by omega)) (fun handled => unhandled handled.succ)
        ((requeued k (by omega)).known row queued)
    rw [← List.take_append_drop size (waiting size queue k)] at waits
    rcases List.mem_append.mp waits with batch | rest
    · exact absurd ⟨k, by omega, (front.take size).subset batch⟩ unhandled
    · exact rest
  rw [← List.length_drop]
  exact (List.subperm_of_subset once later).length_le

/-- So many rounds leave so many rows waiting, by induction on the rounds. -/
theorem length_waiting (requeued : ∀ i < k, Requeued size queue i)
    : (waiting size queue k).length ≤ (queue 0).length - k * size := by
  induction k with
  | zero =>
      rw [Nat.zero_mul, Nat.sub_zero]
      exact List.length_filter_le _ _
  | succ k ih =>
      have fewer := ih fun i earlier => requeued i (by omega)
      have less := length_waiting_succ requeued
      rw [Nat.succ_mul]
      omega

/-- If there are places enough, everybody is handled. After the last round nothing is asked. -/
theorem handled_all (requeued : ∀ k, k + 1 < rounds → Requeued size queue k)
    (enough : (queue 0).length ≤ rounds * size)
    : ∀ row ∈ queue 0, Handled size queue rounds row := by
  intro row member
  cases rounds with
  | zero =>
      have nobody := List.length_pos_of_mem member
      omega
  | succ last =>
      by_contra unhandled
      have before : ∀ i < last, Requeued size queue i := fun i earlier => requeued i (by omega)
      have waits : row ∈ waiting size queue last := mem_waiting.mpr
        ⟨waited before (fun handled => unhandled handled.succ) member,
          fun handled => unhandled handled.succ⟩
      have few := length_waiting before
      rw [Nat.succ_mul] at enough
      have batch : row ∈ (waiting size queue last).take size := by
        rwa [List.take_of_length_le (by omega)]
      exact unhandled ⟨last, by omega, ((waiting_isPrefix before).take size).subset batch⟩

end Batches

end Concurrency
