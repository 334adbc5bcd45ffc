import GuestHost.Text.Printable

/-! Texts in double quotes, with escapes for all that would not show. -/
namespace GuestHost.Text

/-- Lowercase, without leading zeros. -/
def hex (n : Nat) : String :=
  .ofList (Nat.toDigits 16 n)

def quotedChar (c : Char) : String :=
  match c with
  | '\x00' => "\\0"
  | '\t' => "\\t"
  | '\n' => "\\n"
  | '\r' => "\\r"
  | '"' => "\\\""
  | '\\' => "\\\\"
  | c => if isShown c then c.toString else "\\u\x7b" ++ hex c.toNat ++ "\x7d"

def quoted (s : String) : String :=
  "\"" ++ String.join (s.toList.map quotedChar) ++ "\""

end GuestHost.Text
