import Propositional.Text.Hidden
/-!
# Propositional.Text.Quoted

Texts quoted inside messages.

A quoted text stands between double quotes. The quote, the backslash and the hidden characters are
escaped, so a quoted text is one line, shows every character, and ends where its closing quote is.
All else stands for itself.
-/

namespace Propositional.Text

/-- The characters with an escape of their own, and what stands behind the backslash in it. -/
def shortEscapes : List (Char × Char) :=
  [('"', '"'), ('\\', '\\'), ('\n', 'n'), ('\r', 'r'), ('\t', 't'), ('\x00', '0')]

/-- A character as it stands between quotes. A hidden character without an escape of its own is
written as its code point in hexadecimal. -/
def escape (c : Char) : Text :=
  match shortEscapes.lookup c with
  | some letter => ['\\', letter]
  | none =>
    if isHidden c then '\\' :: 'u' :: '{' :: (Nat.toDigits 16 c.toNat ++ ['}']) else [c]

/-- The text between double quotes. -/
def quoted (text : Text) : Text := '"' :: (text.flatMap escape ++ ['"'])

end Propositional.Text
