import SelectQuery.Json

/-!
# White space in JSON texts

The spaces and line feeds between the parts of a JSON text carry nothing. `Json.minify` deletes them and
leaves those in strings alone; all that it knows of JSON is where a string starts and where it ends. In
whatever layout a value is written, as long as that is made of spaces and line feeds, what is left is the
value on a single line (`Json.shrinks_write`).
-/

namespace SelectQuery.Json

/-! ## Values -/

/-- Induction on a value, through the elements of a list and the values of the members of an object. -/
@[induction_eliminator, elab_as_elim]
theorem induction {P : Json → Prop} (null : P .null) (string : ∀ s, P (.string s))
    (array : ∀ elements, (∀ j ∈ elements, P j) → P (.array elements))
    (object : ∀ members, (∀ m ∈ members, P m.2) → P (.object members)) : ∀ j, P j
  | .null => null
  | .string s => string s
  | .array elements => array elements fun j _ => induction null string array object j
  | .object members => object members fun m _ => induction null string array object m.2
termination_by j => sizeOf j
decreasing_by
  · rename_i hj
    have := List.sizeOf_lt_of_mem hj
    simp only [Json.array.sizeOf_spec]
    omega
  · rename_i hm
    have hlist := List.sizeOf_lt_of_mem hm
    have hpair : sizeOf m = 1 + sizeOf m.1 + sizeOf m.2 := rfl
    simp only [Json.object.sizeOf_spec]
    omega

/-- The text of a member of an object, its name and its value. -/
def writeMember (l : Layout) (depth : Nat) (m : String × Json) : List Char :=
  quote m.1 ++ ':' :: (l.gap ++ write l depth m.2)

theorem writeElements_eq_map (l : Layout) (depth : Nat) (elements : List Json) :
    writeElements l depth elements = elements.map (write l depth) := by
  induction elements with
  | nil => simp only [writeElements, List.map_nil]
  | cons j js ih => simp only [writeElements, List.map_cons, ih]

theorem writeMembers_eq_map (l : Layout) (depth : Nat) (members : List (String × Json)) :
    writeMembers l depth members = members.map (writeMember l depth) := by
  induction members with
  | nil => simp only [writeMembers, List.map_nil]
  | cons m ms ih => simp only [writeMembers, writeMember, List.map_cons, ih]

theorem write_array (l : Layout) (depth : Nat) (elements : List Json) :
    write l depth (.array elements) =
      l.enclose depth '[' ']' (elements.map (write l (depth + 1))) := by
  rw [write, writeElements_eq_map]

theorem write_object (l : Layout) (depth : Nat) (members : List (String × Json)) :
    write l depth (.object members) =
      l.enclose depth '\x7b' '\x7d' (members.map (writeMember l (depth + 1))) := by
  rw [write, writeMembers_eq_map]

/-! ## Deleting white space -/

def isSpace (c : Char) : Bool := c = ' ' || c = '\n'

/-- Where a character of a JSON text stands. -/
inductive Spot where
  /-- Not in a string. -/
  | outside
  /-- In a string. -/
  | inside
  /-- In a string, behind the backslash of an escape. -/
  | escaped
  deriving DecidableEq

/-- Where the next character stands. A quotation mark opens a string, and closes it unless it is part of
an escape. -/
def Spot.after : Spot → Char → Spot
  | .outside, '"' => .inside
  | .outside, _ => .outside
  | .inside, '"' => .outside
  | .inside, '\\' => .escaped
  | .inside, _ => .inside
  | .escaped, _ => .inside

/-- The text without the spaces and line feeds outside its strings, from a given spot on. -/
def minifyFrom : Spot → List Char → List Char
  | _, [] => []
  | spot, c :: cs =>
    if spot = .outside ∧ isSpace c = true then minifyFrom .outside cs
    else c :: minifyFrom (spot.after c) cs

/-- The text without the spaces and line feeds outside its strings. -/
def minify (text : String) : String := String.ofList (minifyFrom .outside text.toList)

theorem minifyFrom_space {c : Char} (h : isSpace c = true) (cs : List Char) :
    minifyFrom .outside (c :: cs) = minifyFrom .outside cs := by
  rw [minifyFrom, if_pos ⟨rfl, h⟩]

theorem minifyFrom_outside {c : Char} (h : isSpace c = false) (cs : List Char) :
    minifyFrom .outside (c :: cs) = c :: minifyFrom (Spot.outside.after c) cs := by
  rw [minifyFrom, if_neg (by simp [h])]

theorem minifyFrom_inside (c : Char) (cs : List Char) :
    minifyFrom .inside (c :: cs) = c :: minifyFrom (Spot.inside.after c) cs := by
  rw [minifyFrom, if_neg (by simp)]

/-! ## Strings keep their white space -/

theorem after_inside {c : Char} (hmark : c ≠ '"') (hbackslash : c ≠ '\\') :
    Spot.inside.after c = .inside := by
  unfold Spot.after
  split <;> simp_all

theorem after_inside_digit : ∀ k < 16, Spot.inside.after (Nat.digitChar k) = .inside := by decide

/-- An escape takes the character behind its backslash, also if that is a quotation mark. -/
theorem minifyFrom_backslash (c : Char) (cs : List Char) :
    minifyFrom .inside ('\\' :: c :: cs) = '\\' :: c :: minifyFrom .inside cs := by
  simp [minifyFrom, Spot.after]

theorem minifyFrom_escape (c : Char) (rest : List Char) :
    minifyFrom .inside (escape c ++ rest) = escape c ++ minifyFrom .inside rest := by
  fun_cases escape c with
  | case8 c hmark hbackslash _ _ _ _ _ hcontrol =>
    have hhigh := after_inside_digit (c.toNat / 16) (by omega)
    have hlow := after_inside_digit (c.toNat % 16) (Nat.mod_lt _ (by decide))
    have hzero : Spot.inside.after '0' = .inside := rfl
    simp only [List.cons_append, List.nil_append, minifyFrom_backslash]
    rw [minifyFrom_inside, hzero, minifyFrom_inside, hzero, minifyFrom_inside, hhigh, minifyFrom_inside,
      hlow]
  | case9 c hmark hbackslash =>
    rw [List.singleton_append, minifyFrom_inside, after_inside hmark hbackslash, List.singleton_append]
  | _ => exact minifyFrom_backslash _ rest

theorem minifyFrom_flatMap_escape (s rest : List Char) :
    minifyFrom .inside (s.flatMap escape ++ '"' :: rest) =
      s.flatMap escape ++ '"' :: minifyFrom .outside rest := by
  induction s with
  | nil => exact minifyFrom_inside '"' rest
  | cons c s ih =>
    rw [List.flatMap_cons, List.append_assoc, minifyFrom_escape, ih, List.append_assoc]

/-! ## Texts and what is left of them -/

/-- Outside of strings, all that is left of one text is the other, whatever stands behind it. -/
def Shrinks (w v : List Char) : Prop :=
  ∀ rest, minifyFrom .outside (w ++ rest) = v ++ minifyFrom .outside rest

namespace Shrinks

variable {w v w' v' : List Char} {c : Char}

theorem nil : Shrinks [] [] := fun _ => rfl

theorem append (h : Shrinks w v) (h' : Shrinks w' v') : Shrinks (w ++ w') (v ++ v') := by
  intro rest
  rw [List.append_assoc, h, h', List.append_assoc]

theorem cons (hspace : isSpace c = false) (hmark : Spot.outside.after c = .outside) (h : Shrinks w v) :
    Shrinks (c :: w) (c :: v) := by
  intro rest
  rw [List.cons_append, minifyFrom_outside hspace, hmark, h, List.cons_append]

theorem of_space (h : ∀ c ∈ w, isSpace c = true) : Shrinks w [] := by
  induction w with
  | nil => exact nil
  | cons c w ih =>
    obtain ⟨hc, hw⟩ := List.forall_mem_cons.1 h
    intro rest
    rw [List.cons_append, minifyFrom_space hc]
    exact ih hw rest

theorem flatMap {α : Type} {f g : α → List Char} {as : List α} (h : ∀ a ∈ as, Shrinks (f a) (g a)) :
    Shrinks (as.flatMap f) (as.flatMap g) := by
  induction as with
  | nil => exact nil
  | cons a as ih =>
    obtain ⟨ha, has⟩ := List.forall_mem_cons.1 h
    exact ha.append (ih has)

end Shrinks

theorem shrinks_quote (s : String) : Shrinks (quote s) (quote s) := by
  intro rest
  rw [quote, Text.quoted, List.cons_append, List.append_assoc, List.singleton_append,
    minifyFrom_outside rfl]
  simp only [Spot.after, minifyFrom_flatMap_escape, List.cons_append, List.append_assoc,
    List.nil_append]

/-! ## Layouts -/

/-- The layout is made of spaces and line feeds. -/
structure Layout.IsSpace (l : Layout) : Prop where
  line : ∀ depth, ∀ c ∈ l.line depth, Json.isSpace c = true
  gap : ∀ c ∈ l.gap, Json.isSpace c = true

theorem Layout.isSpace_indented : Layout.indented.IsSpace where
  line depth c hc := by
    obtain rfl | ⟨-, rfl⟩ : c = '\n' ∨ 2 * depth ≠ 0 ∧ c = ' ' := by
      simpa [Layout.indented, List.mem_replicate] using hc
    · rfl
    · rfl
  gap c hc := by
    obtain rfl : c = ' ' := by simpa [Layout.indented] using hc
    rfl

variable {l : Layout}

/-- **A bracketed list shrinks with its parts.** -/
theorem shrinks_enclose {α : Type} {f g : α → List Char} {as : List α} {opening closing : Char}
    (hl : l.IsSpace) (h : ∀ a ∈ as, Shrinks (f a) (g a)) (hopening : Shrinks [opening] [opening])
    (hclosing : Shrinks [closing] [closing]) (depth depth' : Nat) :
    Shrinks (l.enclose depth opening closing (as.map f))
      (Layout.compact.enclose depth' opening closing (as.map g)) := by
  have hline : ∀ depth, Shrinks (l.line depth) [] := fun depth => .of_space (hl.line depth)
  cases as with
  | nil => exact hopening.append hclosing
  | cons a as =>
    obtain ⟨ha, has⟩ := List.forall_mem_cons.1 h
    have hpart : ∀ b ∈ as, Shrinks (',' :: (l.line (depth + 1) ++ f b)) (',' :: ([] ++ g b)) :=
      fun b hb => .cons rfl rfl ((hline (depth + 1)).append (has b hb))
    have hparts := (((hline (depth + 1)).append ha).append (.flatMap hpart)).append (hline depth)
    simpa only [Layout.enclose, Layout.compact, List.map_cons, List.flatMap_map, List.cons_append,
      List.nil_append] using hopening.append (hparts.append hclosing)

/-- **White space makes no difference.** In any layout of spaces and line feeds, what is left of a value is
the value on a single line. -/
theorem shrinks_write (hl : l.IsSpace) (j : Json) :
    ∀ depth depth', Shrinks (write l depth j) (write .compact depth' j) := by
  induction j with
  | null =>
    intro depth depth'
    rw [write, write]
    exact .cons rfl rfl (.cons rfl rfl (.cons rfl rfl (.cons rfl rfl .nil)))
  | string s =>
    intro depth depth'
    rw [write, write]
    exact shrinks_quote s
  | array elements ih =>
    intro depth depth'
    rw [write_array, write_array]
    exact shrinks_enclose hl (fun j hj => ih j hj _ _) (.cons rfl rfl .nil) (.cons rfl rfl .nil) _ _
  | object members ih =>
    intro depth depth'
    rw [write_object, write_object]
    refine shrinks_enclose hl (fun m hm => ?_) (.cons rfl rfl .nil) (.cons rfl rfl .nil) _ _
    have hvalue := (Shrinks.of_space hl.gap).append (ih m hm (depth + 1) (depth' + 1))
    exact (shrinks_quote m.1).append (.cons rfl rfl hvalue)

theorem minify_indented (j : Json) : minify j.indented = j.compact := by
  have h := shrinks_write Layout.isSpace_indented j 0 0 []
  rw [List.append_nil, minifyFrom, List.append_nil] at h
  rw [minify, indented, String.toList_ofList, h, compact]

-- The space in a string stays, and an empty list has no lines of its own.
example :
    (object [("a b", .array [.string "c \"", .null]), ("d", .array [])]).indented =
        "\x7b\n  \"a b\": [\n    \"c \\\"\",\n    null\n  ],\n  \"d\": []\n\x7d" ∧
      (object [("a b", .array [.string "c \"", .null]), ("d", .array [])]).compact =
        "\x7b\"a b\":[\"c \\\"\",null],\"d\":[]\x7d" := by
  decide +kernel

end SelectQuery.Json
