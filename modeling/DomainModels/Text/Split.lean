/-! Cutting a text at the first or the last occurrence of a character, or at every one. -/
namespace DomainModels.Text

/-- The text before and after the first occurrence of `c`, when there is one. -/
def splitFirst? (s : String) (c : Char) : Option (String × String) :=
  let cs := s.toList
  match cs.idxOf? c with
  | some i => some (String.ofList (cs.take i), String.ofList (cs.drop (i + 1)))
  | none => none

/-- The text before and after the last occurrence of `c`, when there is one. -/
def splitLast? (s : String) (c : Char) : Option (String × String) :=
  let cs := s.toList.reverse
  match cs.idxOf? c with
  | some i => some (String.ofList (cs.drop (i + 1)).reverse, String.ofList (cs.take i).reverse)
  | none => none

/-- The pieces of a text between the occurrences of `c`, one more than there are occurrences;
`s.splitOn` with the one-character separator. -/
def pieces (s : String) (c : Char) : List String :=
  (go s.toList).map String.ofList
where
  /-- The pieces of a list of characters. -/
  go : List Char → List (List Char)
    | [] => [[]]
    | d :: rest =>
      if d == c then [] :: go rest
      else match go rest with
        | p :: ps => (d :: p) :: ps
        | [] => [[d]]

end DomainModels.Text
