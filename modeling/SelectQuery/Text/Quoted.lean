import SelectQuery.Text.DefaultIgnorable
import SelectQuery.Text.GraphemeExtend
import SelectQuery.Text.Printable

/-!
# Quoted text

Text between double quotation marks, with some of its characters escaped. Which characters are
escaped, and how, is a parameter of `quoted`. The escapes of diagnostics (`Diagnostic.escapeBy`) keep a
message on one line. They are given the characters that are shown as they are; in messages those are the
characters that can be seen (`Diagnostic.isVisible`).
-/

namespace SelectQuery.Text

/-- The characters between double quotation marks, each written as `escape` says. -/
def quoted (escape : Char → List Char) (text : List Char) : List Char :=
  '"' :: (text.flatMap escape ++ ['"'])

/-- The digits of a number in base sixteen, in lower case and without leading zeros. -/
def hexDigits (n : Nat) : List Char := Nat.toDigits 16 n

namespace Diagnostic

/-- The escape for a character that has no short one: its code point in base sixteen between
braces. -/
def codeEscape (c : Char) : List Char := '\\' :: 'u' :: '\x7b' :: (hexDigits c.toNat ++ ['\x7d'])

def isVisible (c : Char) : Bool :=
  isPrintable c && !attachesToPrevious c && !isDefaultIgnorable c

/-- How a character is written in a diagnostic, given the characters that are shown as they are. The
quotation mark, the backslash and four controls have short escapes; any other character that is not shown
is written by its code point. -/
def escapeBy (shown : Char → Bool) (c : Char) : List Char :=
  match c with
  | '"' => ['\\', '"']
  | '\\' => ['\\', '\\']
  | '\t' => ['\\', 't']
  | '\n' => ['\\', 'n']
  | '\r' => ['\\', 'r']
  | '\x00' => ['\\', '0']
  | c => if shown c then [c] else codeEscape c

/-- The text as it is quoted in a diagnostic (`Debug`), given the characters that are shown as they are. -/
def quoteBy (shown : Char → Bool) (text : String) : String :=
  String.ofList (quoted (escapeBy shown) text.toList)

theorem toList_quoteBy (shown : Char → Bool) (text : String) :
    (quoteBy shown text).toList = quoted (escapeBy shown) text.toList := by
  simp [quoteBy]

end Diagnostic

end SelectQuery.Text
