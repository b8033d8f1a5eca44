/-!
# Names in the code page of the first personal computers

Archive members whose names are not marked as UTF-8 are named in code page 437: the lower half is
ASCII, the upper half holds accented letters, box drawings and mathematical signs.
-/

namespace GrantSurvey.Zip.CodePage

def upperHalf : List Char :=
  String.toList <|
    "ÇüéâäàåçêëèïîìÄÅ"
      ++ "ÉæÆôöòûùÿÖÜ¢£¥₧ƒ"
      ++ "áíóúñÑªº¿⌐¬½¼¡«»"
      ++ "░▒▓│┤╡╢╖╕╣║╗╝╜╛┐"
      ++ "└┴┬├─┼╞╟╚╔╩╦╠═╬╧"
      ++ "╨╤╥╙╘╒╓╫╪┘┌█▄▌▐▀"
      ++ "αßΓπΣσµτΦΘΩδ∞φε∩"
      ++ "≡±≥≤⌠⌡÷≈°∙·√ⁿ²■\u00a0"

def char (byte : UInt8) : Char :=
  if byte < 0x80 then Char.ofNat byte.toNat
  else upperHalf.getD (byte.toNat - 0x80) ' '

def text (bytes : List UInt8) : String :=
  String.ofList (bytes.map char)

end GrantSurvey.Zip.CodePage
