/-! # Pieces of a text

A text cut at every occurrence of a separator. There is always one piece more than there are separators,
so the empty text has one empty piece. -/

namespace TableGateway.Text

/-- The pieces of a text between separators. -/
def pieces (mark : Char) : List Char → List (List Char)
  | [] => [[]]
  | c :: cs =>
    if c = mark then [] :: pieces mark cs
    else
      match pieces mark cs with
      | [] => [[c]]
      | piece :: rest => (c :: piece) :: rest

end TableGateway.Text
