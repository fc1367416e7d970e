/-!
# Glyphs

One printed character for each byte, after code page 850: the printable part of ASCII stands
for itself, control codes and the upper half have pictures, and the two bytes without one are
shown as a full stop.
-/

namespace BootHost.Text

/-- The pictures of the bytes 00 to 1F. -/
def lowGlyphs : List Char :=
  (".☺☻♥♦♣♠•◘○◙♂♀♪♫☼" ++ "►◄↕‼¶§▬↨↑↓→←∟↔▲▼").toList

/-- The pictures of the bytes 80 to FF. -/
def highGlyphs : List Char :=
  ("ÇüéâäàåçêëèïîìÄÅ" ++
    "ÉæÆôöòûùÿÖÜø£Ø×ƒ" ++
    "áíóúñÑªº¿⌐¬½¼¡«»" ++
    "░▒▓│┤╡╢╖╕╣║╗╝╜╛┐" ++
    "└┴┬├─┼╞╟╚╔╩╦╠═╬╧" ++
    "╨╤╥╙╘╒╕╫╪┘┌█▄▌▐▀" ++
    "αßΓ∏∑σµτΦθΩδ∞Øε∩" ++
    "≡±≥≤⌠⌡÷≈▫¨·√ⁿ²■.").toList

/-- The picture of each byte. -/
def glyphs : Array Char :=
  (lowGlyphs ++ (List.range 95).map (fun i => Char.ofNat (0x20 + i)) ++ ['⌂'] ++ highGlyphs).toArray

/-- The character that shows a byte. -/
def glyph (b : UInt8) : Char :=
  glyphs.getD b.toNat '.'

end BootHost.Text
