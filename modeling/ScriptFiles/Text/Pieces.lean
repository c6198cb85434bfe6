/-!
# Pieces between separators

A list is cut at every separator in it. Separators side by side leave an empty piece between
them, and a list without any is one piece.
-/

namespace ScriptFiles.Text

/-- The pieces of a list between its separators, empty ones included. -/
def pieces {α : Type} (isSeparator : α → Bool) : List α → List (List α)
  | [] => [[]]
  | a :: rest =>
    if isSeparator a then [] :: pieces isSeparator rest
    else
      match pieces isSeparator rest with
      | [] => [[a]]
      | piece :: more => (a :: piece) :: more

end ScriptFiles.Text
