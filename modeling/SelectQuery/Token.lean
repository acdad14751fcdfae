import SelectQuery.Keyword
import SelectQuery.Text.Quoted

/-!
# Tokens

The pieces that query text is cut into. A token carries the text it was written with, as far as
that text matters; `Token.display` names a token in a message.
-/

namespace SelectQuery

/-- An arithmetic operator. No text is cut into operators; they are tokens for callers that put
together token sequences themselves. -/
inductive Operator where
  | plus
  | minus
  | multiply
  | divide
  deriving DecidableEq

def Operator.symbol : Operator → String
  | .plus => "+"
  | .minus => "-"
  | .multiply => "*"
  | .divide => "/"

/-- A piece of query text. -/
inductive Token where
  /-- The end of the text. -/
  | eof
  /-- A run of blanks, of any length. -/
  | whitespace
  /-- A name, a number, or any other text without blanks and marks. -/
  | word (text : String)
  /-- The text between two single quotes, without them. -/
  | quoted (text : String)
  | dot
  | comma
  | equal
  /-- A keyword and the way it was written. -/
  | keyword (k : Keyword) (text : String)
  | operator (op : Operator)
  deriving DecidableEq

namespace Token

/-- The text that is left of the token in a condition. Quoted text has lost its quotes, and blanks have no
text: `where_phase` puts a space for them itself. -/
def literal : Token → String
  | .eof => ""
  | .whitespace => ""
  | .word text => text
  | .quoted text => text
  | .dot => "."
  | .comma => ","
  | .equal => "="
  | .keyword _ text => text
  | .operator op => op.symbol

/-- The name of the token's category, which for a keyword is its spelling, however it was written. -/
def kind : Token → String
  | .eof => "EOF"
  | .whitespace => "WS"
  | .word _ => "STRING"
  | .quoted _ => "QUOTED_STRING"
  | .dot => "."
  | .comma => ","
  | .equal => "="
  | .keyword k _ => k.spelling
  | .operator _ => "OTHER"

def isKeyword (t : Token) (k : Keyword) : Bool :=
  match t with
  | .keyword l _ => l == k
  | _ => false

/-- The token as a message names it (`Display`), its category and its text in quotes, given the characters
that are shown as they are. -/
def displayBy (shown : Char → Bool) : Token → String
  | .eof => "end of input"
  | .whitespace => "whitespace"
  | t => t.kind ++ " " ++ Text.Diagnostic.quoteBy shown t.literal

def display (t : Token) : String := t.displayBy Text.Diagnostic.isVisible

end Token

end SelectQuery
