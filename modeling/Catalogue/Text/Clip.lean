import Catalogue.Text.Space

/-! Excerpts: the start of a long text, marked where it was cut. -/
namespace Catalogue.Text

/-- The trimmed text, or its first `limit` characters and an ellipsis if it is longer. -/
def clip (limit : Nat) (s : String) : String :=
  let chars := (trim s).toList
  if chars.length ≤ limit then String.ofList chars
  else String.ofList (chars.take limit ++ ['…'])

end Catalogue.Text
