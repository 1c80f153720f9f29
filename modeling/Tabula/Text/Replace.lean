/-!
# Occurrences of a text in a text

An occurrence is looked for from left to right, and the next one begins behind it. The text that is
looked for is never empty here; an empty one is never replaced.
-/

namespace Tabula.Text

/-- A text stands somewhere in a text. -/
def contains (part : List Char) : List Char → Bool
  | [] => part.isEmpty
  | c :: cs => part.isPrefixOf (c :: cs) || contains part cs

/-- The text after `skip` characters, with every occurrence of a part replaced. -/
def replaceFrom (part new : List Char) : Nat → List Char → List Char
  | _, [] => []
  | skip + 1, _ :: cs => replaceFrom part new skip cs
  | 0, c :: cs =>
    if !part.isEmpty && part.isPrefixOf (c :: cs) then
      new ++ replaceFrom part new (part.length - 1) cs
    else c :: replaceFrom part new 0 cs

/-- The text with every occurrence of a part replaced. -/
def replace (part new cs : List Char) : List Char := replaceFrom part new 0 cs

example : replace "ab".toList "x".toList "aabab".toList = "axx".toList := by decide

end Tabula.Text
