import SuspicionMonitor.Text.Casing

/-!
# Text in small letters

Every capital becomes its small letter.  A sigma has two of them, one for the
end of a word, and an I with a dot keeps the dot.
-/

namespace SuspicionMonitor

namespace Lowercase

/-- Whether a letter with case comes next, whatever is ignored before it. -/
def meetsLetter (text : List Char) : Bool :=
  (text.dropWhile Casing.isIgnored).head?.any Casing.isCased

/-- The small form of a character between the text before it, read backwards,
and the text after it. -/
def form (before : List Char) (c : Char) (after : List Char) : List Char :=
  if c = 'Σ' then
    if meetsLetter before && !meetsLetter after then ['ς'] else ['σ']
  else if c = 'İ' then
    ['i', '\u0307']
  else
    [Casing.small c]

def formsFrom (before : List Char) : List Char → List Char
  | [] => []
  | c :: after => form before c after ++ formsFrom (c :: before) after

end Lowercase

def lowercase (text : List Char) : List Char := Lowercase.formsFrom [] text

end SuspicionMonitor
