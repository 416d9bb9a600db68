import WholeFile.Text.Graphic

/-!
# Quoted text

Text between quotes, on one line, with every character visible.
-/

namespace WholeFile.Text

/-- The code point in hexadecimal, without leading zeros. -/
def codePoint (c : Char) : List Char :=
  "\\u\x7b".toList ++ Nat.toDigits 16 c.toNat ++ ['\x7d']

def quotedChar : Char → List Char
  | '\x00' => ['\\', '0']
  | '\t' => ['\\', 't']
  | '\r' => ['\\', 'r']
  | '\n' => ['\\', 'n']
  | '\\' => ['\\', '\\']
  | '\"' => ['\\', '\"']
  | c => if isGraphic c then [c] else codePoint c

def quoted (text : String) : String :=
  String.ofList ('\"' :: text.toList.flatMap quotedChar ++ ['\"'])

example : ['a', '\"', '\n'].flatMap quotedChar = ['a', '\\', '\"', '\\', 'n'] := by
  decide +kernel

example : quotedChar '\u200b' = ['\\', 'u', '\x7b', '2', '0', '0', 'b', '\x7d'] := by
  decide +kernel

end WholeFile.Text
