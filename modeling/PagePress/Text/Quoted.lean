import PagePress.Text.Escape
import PagePress.Text.Printable

/-!
Quoted texts. A text is written between single quotes, or between double quotes when it holds a
single quote and no double one. The quote in use and the backslash are escaped, as is every
character that is not printable.
-/

set_option autoImplicit false

namespace PagePress.Text.Quoted

def quoteFor (cs : List Char) : Char :=
  if cs.contains '\'' && !cs.contains '"' then '"' else '\''

def element (quote c : Char) : List Char :=
  if c = quote || c = '\\' then ['\\', c]
  else if c = '\t' then ['\\', 't']
  else if c = '\n' then ['\\', 'n']
  else if c = '\r' then ['\\', 'r']
  else if Printable.isPrintable c then [c]
  else Escape.escape c

def quoteChars (cs : List Char) : List Char :=
  let quote := quoteFor cs
  quote :: (cs.flatMap (element quote) ++ [quote])

def quote (s : String) : String := String.ofList (quoteChars s.toList)

example : quote "it's" = "\"it's\"" ∧ quote "a\"'\n" = "'a\"\\'\\n'" := by decide +kernel

end PagePress.Text.Quoted
