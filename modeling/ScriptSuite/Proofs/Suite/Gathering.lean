import Mathlib.Data.List.Nodup
import Mathlib.Data.List.Perm.Basic
import ScriptSuite.Suite.Gathering

/-!
What is gathered from tasks.

Tasks that run together are run in turn, in an order of their own (`completeOrder_perm`), and
their results are put at their numbers (`lookup_ended`). So if what a task gives does not depend
on which of the others have run before, the same results are gathered in the same order whether
the tasks run in turn (`inTurn_eq_map`) or together, however they end (`together_eq_map`).
-/

namespace ScriptSuite.Gathering

variable {σ α β : Type} {run : α → σ → β × σ} {report : α → β}

/-! ### Orders -/

theorem nodup_eraseDups (numbers : List Nat) : numbers.eraseDups.Nodup := by
  cases numbers with
  | nil => simp
  | cons i rest =>
    rw [List.eraseDups_cons, List.nodup_cons]
    constructor
    · simp [List.mem_eraseDups]
    · exact nodup_eraseDups (rest.filter fun j => !j == i)
termination_by numbers.length
decreasing_by exact Nat.lt_succ_of_le (List.length_filter_le _ _)

/-- Each number below `n` comes once. -/
theorem completeOrder_perm (n : Nat) (order : List Nat) :
    (completeOrder n order).Perm (List.range n) := by
  have named : (order.filter (· < n)).eraseDups.Nodup := nodup_eraseDups _
  have others : ((List.range n).filter
      fun i => !((order.filter (· < n)).eraseDups).contains i).Nodup := List.nodup_range.filter _
  have nodup : (completeOrder n order).Nodup := by
    refine named.append others ?_
    intro i first second
    have listed : ((order.filter (· < n)).eraseDups).contains i = true :=
      List.contains_iff_mem.mpr first
    rw [List.mem_filter, listed] at second
    exact Bool.false_ne_true second.2
  rw [List.perm_ext_iff_of_nodup nodup List.nodup_range]
  intro i
  simp only [completeOrder, List.mem_append, List.mem_eraseDups, List.mem_filter, List.mem_range,
    decide_eq_true_eq, List.contains_iff_mem, Bool.not_eq_true', Bool.eq_false_iff, ne_eq]
  tauto

theorem filterMap_range_getElem? (tasks : List α) :
    (List.range tasks.length).filterMap (fun i => tasks[i]?) = tasks := by
  have all : (List.range tasks.length).map (fun i => tasks[i]?) = tasks.map some := by
    apply List.ext_getElem
    · simp
    · intro i first second
      simp at first
      simp [first]
  calc (List.range tasks.length).filterMap (fun i => tasks[i]?)
      = ((List.range tasks.length).map (fun i => tasks[i]?)).filterMap id := by
        rw [List.filterMap_map]
        rfl
    _ = tasks := by rw [all, List.filterMap_map]; simp

/-! ### Tasks in turn -/

/-- If each task reports the same after those before it, the results are what the tasks
report. -/
theorem inTurn_eq_map {tasks : List α} {s : σ}
    (alike : ∀ front a back, tasks = front ++ a :: back →
      (run a (inTurn run front s).2).1 = report a) :
    (inTurn run tasks s).1 = tasks.map report := by
  induction tasks generalizing s with
  | nil => rfl
  | cons first rest ih =>
    have head : (run first s).1 = report first := alike [] first rest rfl
    have tail : (inTurn run rest (run first s).2).1 = rest.map report := by
      apply ih
      intro front a back split
      exact alike (first :: front) a back (by rw [split, List.cons_append])
    rw [List.map_cons, ← head, ← tail]
    rfl

/-- A task with a number is run as it is without. -/
def numbered (run : α → σ → β × σ) (task : Nat × α) (s : σ) : (Nat × β) × σ :=
  ((task.1, (run task.2 s).1), (run task.2 s).2)

theorem inTurn_numbered (tasks : List (Nat × α)) (s : σ) :
    (inTurn (numbered run) tasks s).2 = (inTurn run (tasks.map Prod.snd) s).2 := by
  induction tasks generalizing s with
  | nil => rfl
  | cons task rest ih => exact ih _

/-! ### Tasks together -/

/-- The tasks in the order in which they end, with their numbers. -/
def inOrder (order : List Nat) (tasks : List α) : List (Nat × α) :=
  (completeOrder tasks.length order).filterMap fun i => (tasks[i]?).map fun a => (i, a)

/-- What is gathered stands at the place of its task, whenever it came. -/
theorem together_eq (order : List Nat) (tasks : List α) (s : σ) :
    (together run order tasks s).1 = (List.range tasks.length).filterMap fun i =>
      List.lookup i (inTurn (numbered run) (inOrder order tasks) s).1 :=
  rfl

theorem mem_inOrder_iff {order : List Nat} {tasks : List α} {task : Nat × α} :
    task ∈ inOrder order tasks ↔ tasks[task.1]? = some task.2 := by
  obtain ⟨i, a⟩ := task
  simp only [inOrder, List.mem_filterMap, Option.map_eq_some_iff, Prod.mk.injEq,
    (completeOrder_perm _ _).mem_iff, List.mem_range]
  constructor
  · rintro ⟨i, -, a, there, rfl, rfl⟩
    exact there
  · intro there
    exact ⟨i, (List.getElem?_eq_some_iff.mp there).1, a, there, rfl, rfl⟩

/-- In whatever order the tasks end, each of them is run once. -/
theorem inOrder_perm (order : List Nat) (tasks : List α) :
    ((inOrder order tasks).map Prod.snd).Perm tasks := by
  have all : (inOrder order tasks).map Prod.snd =
      (completeOrder tasks.length order).filterMap fun i => tasks[i]? := by
    simp [inOrder, List.map_filterMap, Function.comp_def]
  rw [all]
  refine ((completeOrder_perm _ order).filterMap _).trans ?_
  rw [filterMap_range_getElem?]

/-- Each result stands at the number of its task. -/
theorem lookup_ended {order : List Nat} {tasks : List α} {i : Nat} (below : i < tasks.length) :
    List.lookup i ((inOrder order tasks).map fun task => (task.1, report task.2)) =
      (tasks.map report)[i]? := by
  have sound : ∀ p ∈ (inOrder order tasks).map fun task => (task.1, report task.2),
      (tasks.map report)[p.1]? = some p.2 := by
    intro p mem
    obtain ⟨task, there, rfl⟩ := List.mem_map.mp mem
    simp [mem_inOrder_iff.mp there]
  cases found : List.lookup i ((inOrder order tasks).map fun task => (task.1, report task.2)) with
  | none =>
    have there : (i, tasks[i]) ∈ inOrder order tasks := by simp [mem_inOrder_iff]
    have other := List.lookup_eq_none_iff.mp found _ (List.mem_map_of_mem there)
    simp at other
  | some b =>
    obtain ⟨front, back, split, -⟩ := List.lookup_eq_some_iff.mp found
    exact (sound (i, b) (by simp [split])).symm

/-- If each task reports the same whichever of the others have run before, the results are what
the tasks report, in whatever order they end. -/
theorem together_eq_map {order : List Nat} {tasks : List α} {s : σ}
    (alike : ∀ front a back, (front ++ a :: back).Perm tasks →
      (run a (inTurn run front s).2).1 = report a) :
    (together run order tasks s).1 = tasks.map report := by
  have ended : (inTurn (numbered run) (inOrder order tasks) s).1 =
      (inOrder order tasks).map fun task => (task.1, report task.2) := by
    apply inTurn_eq_map
    intro front task back split
    rw [numbered, inTurn_numbered]
    refine Prod.ext rfl (alike _ _ (back.map Prod.snd) ?_)
    have perm := inOrder_perm order tasks
    rwa [split, List.map_append, List.map_cons] at perm
  rw [together_eq, ended]
  calc (List.range tasks.length).filterMap
        (fun i => List.lookup i ((inOrder order tasks).map fun task => (task.1, report task.2)))
      = (List.range (tasks.map report).length).filterMap (fun i => (tasks.map report)[i]?) := by
        rw [List.length_map]
        apply List.filterMap_congr
        intro i mem
        exact lookup_ended (List.mem_range.mp mem)
    _ = tasks.map report := filterMap_range_getElem? _

end ScriptSuite.Gathering
