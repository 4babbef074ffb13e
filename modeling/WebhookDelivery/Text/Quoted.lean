import WebhookDelivery.Text.Hex
import WebhookDelivery.Unicode.Hidden

/-!
# Quoted text

Error messages show the text they complain about between double quotes, with everything that a
reader could not see or could mistake for the end of the text written as an escape.
-/

namespace WebhookDelivery

/-- A character inside quotes. The quote and the backslash are escaped, the usual controls have a
letter, and what does not show is written by number. -/
def escapeChar (c : Char) : List Char :=
  if c = '\x00' then ['\\', '0']
  else if c = '\t' then ['\\', 't']
  else if c = '\r' then ['\\', 'r']
  else if c = '\n' then ['\\', 'n']
  else if c = '\\' then ['\\', '\\']
  else if c = '"' then ['\\', '"']
  else if Unicode.hidden.contains c then
    ['\\', 'u', '\x7b'] ++ Nat.toDigits 16 c.toNat ++ ['\x7d']
  else [c]

/-- A text between quotes. -/
def quoted (s : String) : String :=
  String.ofList ('"' :: s.toList.flatMap escapeChar ++ ['"'])

end WebhookDelivery
