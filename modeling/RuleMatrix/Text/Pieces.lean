set_option autoImplicit false

namespace RuleMatrix.Text

-- The pieces between separators; there is always one.
def piecesOf {α : Type} [DecidableEq α] (separator : α) : List α → List (List α)
  | [] => [[]]
  | c :: rest =>
      match piecesOf separator rest with
      | [] => [[c]]
      | piece :: pieces =>
          if c = separator then [] :: piece :: pieces else (c :: piece) :: pieces

def pieces (separator : Char) (s : String) : List String :=
  (piecesOf separator s.toList).map String.ofList

def occursIn (part : List Char) : List Char → Bool
  | [] => part.isEmpty
  | c :: rest => part.isPrefixOf (c :: rest) || occursIn part rest

end RuleMatrix.Text
