/-!
# Recognizers that read one symbol at a time

A recognizer has states, a step that may refuse a symbol, and a set of final states. `stuckAt`
gives the place of the first symbol that is refused; when all are taken but the last state is
not final, that place is the end.
-/

namespace CodeAtlas.Python

/-- A deterministic recognizer over symbols of type `α`. -/
structure Recognizer (α : Type) where
  /-- The states. -/
  State : Type
  /-- The state after one more symbol, unless it is refused. -/
  step : State → α → Option State
  /-- Whether the input may end here. -/
  final : State → Bool

namespace Recognizer

variable {α : Type} (m : Recognizer α)

/-- How many symbols are taken before the first one that is refused, the end counting as a
symbol; `none` when the input is accepted. -/
def stuckAt : m.State → List α → Option Nat
  | q, [] => if m.final q then none else some 0
  | q, a :: as =>
    match m.step q a with
    | none => some 0
    | some q' => (stuckAt q' as).map (· + 1)

end Recognizer

end CodeAtlas.Python
