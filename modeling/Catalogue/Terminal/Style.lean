/-! Styles of text on a terminal that knows escape sequences. -/
namespace Catalogue.Terminal

inductive Style where
  | bold | dimmed | cyan | boldCyan | boldGreen | boldYellow | boldRed
  deriving DecidableEq, Repr

namespace Style

/-- The codes that turn a style on. -/
def codes : Style → String
  | bold => "1"
  | dimmed => "2"
  | cyan => "36"
  | boldCyan => "1;36"
  | boldGreen => "1;32"
  | boldYellow => "1;33"
  | boldRed => "1;31"

/-- The sequence that turns every style off. -/
def reset : List Char := ['\x1b', '[', '0', 'm']

/-- The sequence that turns a style on. -/
def start (s : Style) : List Char := ['\x1b', '['] ++ s.codes.toList ++ ['m']

/-- A text in which a style is turned on again wherever the text turns it off. -/
def restarted (s : Style) : List Char → List Char
  | '\x1b' :: '[' :: '0' :: 'm' :: rest => reset ++ s.start ++ restarted s rest
  | c :: rest => c :: restarted s rest
  | [] => []

/-- A text in a style, or as it is where there are no colors. -/
def paint (colors : Bool) (s : Style) (text : String) : String :=
  if colors then String.ofList (s.start ++ s.restarted text.toList ++ reset) else text

end Style

/-- A text with spaces after it up to a width. -/
def padRight (width : Nat) (text : String) : String :=
  text ++ String.ofList (List.replicate (width - text.length) ' ')

end Catalogue.Terminal
