/-!
# Splitting texts

A text is divided at every occurrence of one character, and the blanks around a text are trimmed.
The blanks are the characters with the Unicode property White_Space.
-/

namespace GrantSurvey.Text

def split (divider : Char) : List Char → List (List Char)
  | [] => [[]]
  | char :: rest =>
      if char == divider then [] :: split divider rest
      else
        match split divider rest with
        | [] => [[char]]
        | part :: parts => (char :: part) :: parts

def isBlank (char : Char) : Bool :=
  let code := char.toNat
  (0x09 ≤ code && code ≤ 0x0D) || code == 0x20 || code == 0x85 || code == 0xA0 || code == 0x1680
    || (0x2000 ≤ code && code ≤ 0x200A) || code == 0x2028 || code == 0x2029 || code == 0x202F
    || code == 0x205F || code == 0x3000

def trimBy (test : Char → Bool) (text : List Char) : List Char :=
  ((text.dropWhile test).reverse.dropWhile test).reverse

def trim (text : List Char) : List Char :=
  trimBy isBlank text

end GrantSurvey.Text
