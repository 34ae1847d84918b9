/-! Styled text for terminals: codes switch a style on in front of the text and off behind
it. Where the text itself switches styles off, its own is switched on again. -/
namespace StudyPlan

inductive Style where
  | bold | red | green | yellow | blue | brightBlue | boldRed
  deriving DecidableEq, Repr

namespace Style

def numbers : Style → String
  | bold => "1"
  | red => "31"
  | green => "32"
  | yellow => "33"
  | blue => "34"
  | brightBlue => "94"
  | boldRed => "1;31"

def escape (numbers : String) : String := "\x1b[" ++ numbers ++ "m"

def on (s : Style) : String := escape s.numbers

def off : String := escape "0"

/-- The text with the style switched on again behind each code that switches it off. -/
def renew (on : List Char) : List Char → List Char
  | [] => []
  | c :: rest =>
    if (c :: rest).take 4 = ['\x1b', '[', '0', 'm'] then
      ['\x1b', '[', '0', 'm'] ++ on ++ renew on (rest.drop 3)
    else c :: renew on rest
termination_by s => s.length

def paint (s : Style) (text : String) : String :=
  s.on ++ String.ofList (renew s.on.toList text.toList) ++ off

end Style
end StudyPlan
