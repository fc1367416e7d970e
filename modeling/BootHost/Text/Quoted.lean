import BootHost.Text.Hex
import BootHost.Text.Shown

/-!
# Quoted text

A text in double quotes, with the quote, the backslash, and everything that does not show
written as an escape. File names are quoted with apostrophes escaped as well.
-/

namespace BootHost.Text.Quoted

/-- Which characters a quoting style escapes beyond those that every style does. -/
structure Style where
  apostrophe : Bool

/-- Ordinary texts leave the apostrophe alone. -/
def plain : Style := ⟨false⟩

/-- File names escape the apostrophe. -/
def fileName : Style := ⟨true⟩

/-- A character as it stands between the quotes. -/
def escape (style : Style) (c : Char) : String :=
  if c = '\x00' then "\\0"
  else if c = '\t' then "\\t"
  else if c = '\r' then "\\r"
  else if c = '\n' then "\\n"
  else if c = '\x22' then "\\\x22"
  else if c = '\\' then "\\\\"
  else if c = '\x27' ∧ style.apostrophe then "\\\x27"
  else if isShown c then c.toString
  else "\\u\x7b" ++ Hex.digits c.toNat ++ "\x7d"

/-- The text in quotes. -/
def quote (style : Style) (text : String) : String :=
  "\x22" ++ String.join (text.toList.map (escape style)) ++ "\x22"

end BootHost.Text.Quoted
