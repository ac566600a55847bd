import ServiceStability.Text.Printable
/-!
# Literal — a text in double quotes

How a message shows a text that could hold anything: in double quotes, with the quote, the backslash and every character
that is not printable written as an escape.  The apostrophe needs none.
-/
namespace ServiceStability
namespace Text

/-- The digits of a number in lower-case hexadecimal, without leading zeros. -/
def hexDigits (n : Nat) : Text := Nat.toDigits 16 n

def literalChar (c : Char) : Text :=
  if c = '"' then ['\\', '"']
  else if c = '\\' then ['\\', '\\']
  else if c = '\t' then ['\\', 't']
  else if c = '\n' then ['\\', 'n']
  else if c = '\r' then ['\\', 'r']
  else if c = '\x00' then ['\\', '0']
  else if isPrintable c then [c]
  else ['\\', 'u', '\x7b'] ++ hexDigits c.toNat ++ ['\x7d']

/-- **The literal of a text**: its characters escaped, between two quotes. -/
def literal (text : Text) : Text := '"' :: (text.flatMap literalChar ++ ['"'])

/-- Tab, quote and delete are escaped, the apostrophe is not. -/
example : literal "a\t\"b'\x7f".toList = "\"a\\t\\\"b'\\u\x7b7f\x7d\"".toList := by decide +kernel

end Text
end ServiceStability
