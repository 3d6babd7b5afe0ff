/-!
Gathering results of tasks.

Tasks run one after another, or together, in which case they end in some order. Either
way there is one result for each task, in the order of the tasks.
-/

namespace ScriptSuite.Gathering

/-- Runs tasks one after another, each from what the one before has left. -/
def inTurn {σ α β : Type} (run : α → σ → β × σ) : List α → σ → List β × σ
  | [], s => ([], s)
  | a :: rest, s =>
    let (b, s) := run a s
    let (bs, s) := inTurn run rest s
    (b :: bs, s)

/-- The numbers below `n`, those of `order` first and each of them once. -/
def completeOrder (n : Nat) (order : List Nat) : List Nat :=
  let named := (order.filter (· < n)).eraseDups
  named ++ (List.range n).filter fun i => !named.contains i

/-- Runs tasks that end in the given order. A number that is not listed comes after those
that are. -/
def together {σ α β : Type} (run : α → σ → β × σ) (order : List Nat) (tasks : List α) (s : σ) :
    List β × σ :=
  let numbered := (completeOrder tasks.length order).filterMap fun i =>
    (tasks[i]?).map fun a => (i, a)
  let (ended, s) := inTurn (fun (task : Nat × α) s =>
    let (b, s) := run task.2 s
    ((task.1, b), s)) numbered s
  ((List.range tasks.length).filterMap fun i => List.lookup i ended, s)

end ScriptSuite.Gathering
