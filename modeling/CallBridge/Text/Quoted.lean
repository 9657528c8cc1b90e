import CallBridge.Text.Unprintable
import CallBridge.Word

/-!
Text in double quotes, as diagnostics show it. Quotes, backslashes and the common controls have a
two-character escape, other characters that cannot be shown are written by code point.
-/

namespace CallBridge.Text

/-- The escape of one character; an apostrophe stands for itself. -/
def quotedChar (c : Char) : String :=
  match c with
  | '\x00' => "\\0"
  | '\t' => "\\t"
  | '\r' => "\\r"
  | '\n' => "\\n"
  | '"' => "\\\""
  | '\\' => "\\\\"
  | c => if isUnprintable c then "\\u\x7b" ++ hexDigits c.toNat ++ "\x7d" else c.toString

def quoted (s : String) : String :=
  "\"" ++ String.join (s.toList.map quotedChar) ++ "\""

end CallBridge.Text
