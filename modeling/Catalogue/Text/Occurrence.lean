/-! Whether one sequence occurs within another, without gaps. -/
namespace Catalogue.Text

/-- Whether `part` stands somewhere in a list, its members next to each other. -/
def occursIn {α : Type} [BEq α] (part : List α) : List α → Bool
  | [] => part.isEmpty
  | a :: rest => part.isPrefixOf (a :: rest) || occursIn part rest

end Catalogue.Text
