import MediaPlayback.Text.Printable

/-! How diagnostics write a text: in quotes, with escapes for quotes, backslashes and characters that
leave no mark of their own. -/

namespace MediaPlayback

/-- A character inside quotes. -/
def escapedInQuotes (c : Char) : List Char :=
  match c with
  | '"' => ['\\', '"']
  | '\\' => ['\\', '\\']
  | '\n' => ['\\', 'n']
  | '\r' => ['\\', 'r']
  | '\t' => ['\\', 't']
  | '\x00' => ['\\', '0']
  | c =>
    if isPrintable c then [c]
    else ['\\', 'u', '\x7b'] ++ Nat.toDigits 16 c.toNat ++ ['\x7d']

def quotedText (s : String) : String :=
  String.ofList ('"' :: s.toList.flatMap escapedInQuotes ++ ['"'])

end MediaPlayback
