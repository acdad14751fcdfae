import SelectQuery.SyntaxError
import SelectQuery.Token.Reader

/-!
# Lists in a statement

The column list and the table list are both read entry by entry: an entry is an item with the token
behind it, and as long as that token is a comma another entry follows. So both lists may end with a
comma, and both may be empty. `EntryReader.list` reads a whole list, given a way to read one entry.
-/

namespace SelectQuery

/-- How a list ends. -/
inductive Ending where
  /-- The input ended with the list. -/
  | finished
  /-- The keyword of the next clause was read. -/
  | next (rest : Reader)
  /-- A token did not fit. -/
  | failed (e : SyntaxError)

/-- What stands behind an item: a comma and perhaps more items, or the end of the list. -/
inductive Continuation where
  | more (rest : Reader)
  | last (ending : Ending)

/-- A part of a list, with an item unless the list ended before it. -/
structure Entry (α : Type) where
  item? : Option α
  continuation : Continuation

namespace Entry

variable {α : Type}

def more (a : α) (rest : Reader) : Entry α := ⟨some a, .more rest⟩

def last (a : α) (ending : Ending) : Entry α := ⟨some a, .last ending⟩

def none (ending : Ending) : Entry α := ⟨Option.none, .last ending⟩

def failed (expectation : Expectation) (found : Token) : Entry α :=
  none (.failed ⟨expectation, found⟩)

end Entry

/-- A way to read one entry of a list. An entry takes at least one token if others may follow it,
so that every list comes to an end. -/
structure EntryReader (α : Type) where
  read : Reader → Entry α
  size_lt : ∀ {r rest : Reader}, (read r).continuation = .more rest → rest.size < r.size

/-- The items of a list and how it ended. An error does not undo the items before it. -/
structure Listing (α : Type) where
  items : List α
  ending : Ending

/-- Reads entries until one of them is the last. -/
def EntryReader.list {α : Type} (p : EntryReader α) (r : Reader) : Listing α :=
  let entry := p.read r
  match _h : entry.continuation with
  | .more rest =>
    let following := p.list rest
    ⟨entry.item?.toList ++ following.items, following.ending⟩
  | .last ending => ⟨entry.item?.toList, ending⟩
termination_by r.size
decreasing_by exact p.size_lt _h

theorem EntryReader.list_of_more {α : Type} {p : EntryReader α} {r rest : Reader}
    (h : (p.read r).continuation = .more rest) :
    p.list r = ⟨(p.read r).item?.toList ++ (p.list rest).items, (p.list rest).ending⟩ := by
  rw [EntryReader.list]
  split
  · rename_i rest' h'
    rw [h] at h'
    cases h'
    rfl
  · rename_i ending h'
    rw [h] at h'
    cases h'

theorem EntryReader.list_of_last {α : Type} {p : EntryReader α} {r : Reader} {ending : Ending}
    (h : (p.read r).continuation = .last ending) :
    p.list r = ⟨(p.read r).item?.toList, ending⟩ := by
  rw [EntryReader.list]
  split
  · rename_i rest h'
    rw [h] at h'
    cases h'
  · rename_i ending' h'
    rw [h] at h'
    cases h'
    rfl

end SelectQuery
