import SelectQuery.Token

/-!
# Stacks of tokens

Tokens that were handed back wait on a stack (`buffer`): the last one handed back is the first one read
again.
-/

namespace SelectQuery

/-- A stack of tokens, the top first. -/
structure TokenStack where
  toList : List Token
  deriving DecidableEq

namespace TokenStack

def empty : TokenStack := ⟨[]⟩

def push (s : TokenStack) (t : Token) : TokenStack := ⟨t :: s.toList⟩

def pop (s : TokenStack) : Option Token × TokenStack := (s.toList.head?, ⟨s.toList.tail⟩)

def isEmpty (s : TokenStack) : Bool := s.toList.isEmpty

end TokenStack

end SelectQuery
