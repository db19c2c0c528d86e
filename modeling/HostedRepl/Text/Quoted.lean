/-
A text in double quotes, as diagnostics show it.

* `escape`: how one character is written between the quotes. The quote and the backslash take a
  backslash, the four common controls have a letter or digit of their own, and every other
  unprintable character is shown by its code point in braces.
* `quoted`: the whole text.
-/
import HostedRepl.Text.Hex
import HostedRepl.Text.Unprintable

namespace HostedRepl.Text

/-- How one character is written inside a quoted text. -/
def escape (c : Char) : String :=
  match c with
  | '"' => "\\\""
  | '\\' => "\\\\"
  | '\n' => "\\n"
  | '\t' => "\\t"
  | '\r' => "\\r"
  | '\x00' => "\\0"
  | c => if isUnprintable c then "\\u\x7b" ++ hex c.toNat ++ "\x7d" else c.toString

/-- The text between double quotes, escaped. -/
def quoted (s : String) : String :=
  s.foldl (fun out c => out ++ escape c) "\"" ++ "\""

end HostedRepl.Text
