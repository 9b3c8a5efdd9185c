import RefDoc.Report.Event

/-!
# Logged steps

A fold that logs every step. The log says what changed and has no part in the result
(`foldLogged_fst`).
-/

namespace RefDoc

variable {α β : Type}

/-- Folds a list; `event` describes a step by the values before and after it. -/
def foldLogged (step : β → α → β) (event : β → β → α → Event) (b : β) : List α → β × List Event
  | [] => (b, [])
  | a :: rest =>
    let b' := step b a
    let (result, log) := foldLogged step event b' rest
    (result, event b b' a :: log)

@[simp] theorem foldLogged_fst (step : β → α → β) (event : β → β → α → Event) (b : β) (l : List α) :
    (foldLogged step event b l).1 = l.foldl step b := by
  induction l generalizing b with
  | nil => rfl
  | cons a rest ih => simp [foldLogged, ih]

end RefDoc
