import Shading.Text

set_option autoImplicit false

namespace Shading.Zip

def upperHalf : Array Char :=
  ("ÇüéâäàåçêëèïîìÄÅÉæÆôöòûùÿÖÜ¢£¥₧ƒáíóúñÑªº¿⌐¬½¼¡«»░▒▓│┤╡╢╖╕╣║╗╝╜╛┐".toList ++
    "└┴┬├─┼╞╟╚╔╩╦╠═╬╧╨╤╥╙╘╒╓╫╪┘┌█▄▌▐▀αßΓπΣσµτΦΘΩδ∞φε∩≡±≥≤⌠⌡÷≈°∙·√ⁿ²■\u00A0".toList).toArray

def codePage437 (b : UInt8) : Char :=
  if b < 128 then Char.ofNat b.toNat else upperHalf.getD (b.toNat - 128) ' '

end Shading.Zip
