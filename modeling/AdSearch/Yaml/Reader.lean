import AdSearch.Yaml.ScalarText

/-!
# Reading the nodes of a document

Outside brackets the columns show what belongs together: the entries of a mapping and the items of a
list start in one column, their content stands further right, and only a list may start in the
column of the key that it belongs to.  Inside brackets columns do not count.  A key without a
question mark in front of it stands on one line.
-/

namespace AdSearch.Yaml

/-! ## Marks -/

/-- Whether a character may stand in the name of an anchor. -/
def isNameChar (c : Char) : Bool := c.isAlphanum || c == '-' || c == '_'

/-- The characters that may follow the name of an anchor. -/
def nameEnds : List Char := ['?', ':', ',', ']', '\x7d', '%', '@', '\x60']

/-- The name of an anchor after its sign. -/
def anchorName (c : Cursor) : Except Fault (Found String) :=
  let (name, after) := c.span isNameChar
  if !name.isEmpty && (startsApart after.rest || after.peek?.any nameEnds.contains) then
    .ok (String.ofList name, after)
  else .error .malformed

/-- The tag that is written after its sign. -/
def Tag.ofWritten? (cs : List Char) : Option Tag :=
  match cs with
  | [] => some .untyped
  | '!' :: name => names.lookup (String.ofList name)
  | '<' :: uri =>
    names.findSome? fun (name, tag) =>
      if String.ofList uri == "tag:yaml.org,2002:" ++ name ++ ">" then some tag else none
  | _ => none

/-- A tag after its sign. -/
def readTag (c : Cursor) : Except Fault (Found Tag) :=
  let (written, after) := c.span fun ch => !isSeparator ch
  match Tag.ofWritten? written with
  | some tag => .ok (tag, after)
  | none => .error .malformed

/-- The marks in front of a node, with the place where its content may start.  They end with their
line. -/
def readMarks (line : Nat) : Nat → Marks → Cursor → Except Fault (Found Marks)
  | 0, _, _ => .error .malformed
  | fuel + 1, before, c => do
    if c.line != line then .ok (before, c)
    else if c.isAt '&' then
      let (name, after) ← anchorName c.next
      match before.join? ⟨some name, none⟩ with
      | some marks => readMarks line fuel marks after.skipGap
      | none => .error .malformed
    else if c.isAt '!' then
      let (tag, after) ← readTag c.next
      match before.join? ⟨none, some tag⟩ with
      | some marks => readMarks line fuel marks after.skipGap
      | none => .error .malformed
    else .ok (before, c)

/-- The marks that stand on the line of the next content. -/
def marksHere (c : Cursor) : Except Fault (Found Marks) := readMarks c.line 3 .none c

/-- Two groups of marks of one node. -/
def joinMarks (a b : Marks) : Except Fault Marks :=
  match a.join? b with
  | some marks => .ok marks
  | none => .error .malformed

/-- Whether nothing more stands in an entry inside brackets. -/
def endsFlowEntry (c : Cursor) : Bool := c.isAt ',' || c.isAt ']' || c.isAt '\x7d'

/-! ## Content -/

mutual

/-- Content without marks that is no block: a reference, a scalar or a collection in brackets. -/
def content (inFlow : Bool) (floor : Nat) : Nat → Cursor → Except Fault (Found Node)
  | 0, _ => .error .malformed
  | fuel + 1, c =>
    match c.peek? with
    | some '*' => do
      let (name, after) ← anchorName c.next
      .ok (.ref name, after)
    | some '[' => flowItems fuel [] c.next
    | some '\x7b' => flowEntries fuel [] c.next
    | some ch =>
      if ch == '"' || ch == '\'' then do
        let (text, after) ← quotedText ch fuel c.next
        .ok (.scalar (String.ofList text) false, after)
      else if startsPlain inFlow c.rest && !c.isAtBoundary then
        let (text, after) := plainWords inFlow floor fuel c
        .ok (.scalar (String.ofList text) true, after)
      else .error .malformed
    | none => .error .malformed

def flowNode : Nat → Cursor → Except Fault (Found Node)
  | 0, _ => .error .malformed
  | fuel + 1, c => do
    let (first, c) ← marksHere c
    let (second, c) ← marksHere c
    let marks ← joinMarks first second
    if marks ≠ .none ∧ (endsFlowEntry c ∨ c.isAt ':') then
      .ok (← Node.empty.under marks, c)
    else
      let (node, after) ← content true 0 fuel c
      .ok (← node.under marks, after)

/-- A value inside brackets, after its colon. -/
def flowValue : Nat → Cursor → Except Fault (Found Node)
  | 0, _ => .error .malformed
  | fuel + 1, c =>
    let c := c.skipGap
    if endsFlowEntry c then .ok (.empty, c) else flowNode fuel c

/-- An entry inside brackets: a node, or a key with its value. -/
def flowEntry : Nat → Cursor → Except Fault (Found (Node × Option Node))
  | 0, _ => .error .malformed
  | fuel + 1, c => do
    if c.isAt '?' then
      let c := c.next.skipGap
      let (key, c) ←
        if endsFlowEntry c || c.isAt ':' then .ok (.empty, c) else flowNode fuel c
      let c := c.skipGap
      if c.isAt ':' then
        let (value, c) ← flowValue fuel c.next
        .ok ((key, some value), c)
      else .ok ((key, some .empty), c)
    else
      let (node, after) ← flowNode fuel c
      match after.afterColon? true c with
      | some c =>
        let (value, c) ← flowValue fuel c
        .ok ((node, some value), c)
      | none => .ok ((node, none), after)

/-- The items of a list in brackets after those in `before`, which are in reverse. -/
def flowItems : Nat → List Node → Cursor → Except Fault (Found Node)
  | 0, _, _ => .error .malformed
  | fuel + 1, before, c => do
    let c := c.skipGap
    if c.isAt ']' then .ok (.list before.reverse, c.next)
    else
      let ((node, value), c) ← flowEntry fuel c
      let item := match value with
        | some value => .record [(node, value)]
        | none => node
      let c := c.skipGap
      if c.isAt ',' then flowItems fuel (item :: before) c.next
      else if c.isAt ']' then .ok (.list (item :: before).reverse, c.next)
      else .error .malformed

/-- The entries of a mapping in brackets after those in `before`, which are in reverse. -/
def flowEntries : Nat → List (Node × Node) → Cursor → Except Fault (Found Node)
  | 0, _, _ => .error .malformed
  | fuel + 1, before, c => do
    let c := c.skipGap
    if c.isAt '\x7d' then .ok (.record before.reverse, c.next)
    else
      let ((key, value), c) ← flowEntry fuel c
      let entry := (key, value.getD .empty)
      let c := c.skipGap
      if c.isAt ',' then flowEntries fuel (entry :: before) c.next
      else if c.isAt '\x7d' then .ok (.record (entry :: before).reverse, c.next)
      else .error .malformed

end

/-- A node in a line that may be a key, after its own marks: the node, and the place after the
colon if it is one. -/
def keyOrContent (fuel floor : Nat) (start : Cursor) (own : Marks) (c : Cursor) :
    Except Fault (Found (Node × Option Cursor)) := do
  if own ≠ .none ∧ c.isAtMark ':' then
    .ok ((← Node.empty.under own, c.afterColon? false start), c)
  else
    let (node, after) ← content false floor fuel c
    match after.afterColon? false start with
    | some value => .ok ((← node.under own, some value), after)
    | none => .ok ((node, none), after)

/-! ## Blocks -/

/-- Where a node may stand: the first column of its content, whether it may be a block that starts
on this line, and the column in which a list may start although it is before the first one. -/
structure Place where
  floor : Nat
  fresh : Bool
  beside : Option Nat

mutual

/-- The node at a place, of which some marks were read on an earlier line. -/
def blockNode : Nat → Place → Marks → Cursor → Except Fault (Found Node)
  | 0, _, _, _ => .error .malformed
  | fuel + 1, place, given, c => do
    if c.isDone then .ok (← Node.empty.under given, c)
    else if c.isAtMark '-' && place.beside == some c.column then
      let (items, after) ← blockItems fuel c.column true [] c
      .ok (← items.under given, after)
    else if c.column < place.floor then .ok (← Node.empty.under given, c)
    else if c.isAtMark '-' then
      if place.fresh then
        let (items, after) ← blockItems fuel c.column false [] c
        .ok (← items.under given, after)
      else .error .malformed
    else if c.isAtMark '?' then
      if place.fresh then
        let (entries, after) ← blockEntries fuel c.column [] c
        .ok (← entries.under given, after)
      else .error .malformed
    else
      let (own, inner) ← marksHere c
      if inner.line != c.line || inner.rest.isEmpty then
        blockNode fuel ⟨place.floor, true, place.beside⟩ (← joinMarks given own) inner
      else if inner.isAt '|' || inner.isAt '>' then
        let (text, after) ← blockText fuel place.floor inner
        let node := Node.scalar (String.ofList text) false
        .ok (← node.under (← joinMarks given own), after)
      else
        let ((node, value), after) ← keyOrContent fuel place.floor c own inner
        match value, place.fresh with
        | some value, true =>
          let (value, after) ← blockValue fuel c.column value
          let (entries, after) ← blockEntries fuel c.column [(node, value)] after
          .ok (← entries.under given, after)
        | some _, false => .error .malformed
        | none, _ => .ok (← node.under (← joinMarks given own), after)

/-- The value of a key in column `n`, after its colon. -/
def blockValue : Nat → Nat → Cursor → Except Fault (Found Node)
  | 0, _, _ => .error .malformed
  | fuel + 1, n, c =>
    let start := c.skipGap
    blockNode fuel ⟨n + 1, start.line != c.line, some n⟩ .none start

/-- The items of a list in column `n` after those in `before`, which are in reverse; the next one
starts here.  Beside a key the list ends where the next key starts. -/
def blockItems : Nat → Nat → Bool → List Node → Cursor → Except Fault (Found Node)
  | 0, _, _, _, _ => .error .malformed
  | fuel + 1, n, besideKey, before, c => do
    let (item, after) ← blockNode fuel ⟨n + 1, true, none⟩ .none c.next.skipGap
    let c := after.skipGap
    if c.isDone || c.column < n then .ok (.list (item :: before).reverse, c)
    else if c.column == n && c.isAtMark '-' then blockItems fuel n besideKey (item :: before) c
    else if c.column == n && besideKey then .ok (.list (item :: before).reverse, c)
    else .error .malformed

/-- The entries of a mapping in column `n` after those in `before`, which are in reverse. -/
def blockEntries : Nat → Nat → List (Node × Node) → Cursor → Except Fault (Found Node)
  | 0, _, _, _ => .error .malformed
  | fuel + 1, n, before, c => do
    let c := c.skipGap
    if c.isDone || c.column < n then .ok (.record before.reverse, c)
    else if n < c.column then .error .malformed
    else if c.isAtMark '?' then
      let (key, after) ← blockNode fuel ⟨n + 1, true, some n⟩ .none c.next.skipGap
      let c := after.skipGap
      if c.column == n && c.isAtMark ':' then
        let (value, after) ← blockNode fuel ⟨n + 1, true, some n⟩ .none c.next.skipGap
        blockEntries fuel n ((key, value) :: before) after
      else blockEntries fuel n ((key, .empty) :: before) c
    else
      let (own, inner) ← marksHere c
      let ((key, value), _) ← keyOrContent fuel (n + 1) c own inner
      match value with
      | some value =>
        let (value, after) ← blockValue fuel n value
        blockEntries fuel n ((key, value) :: before) after
      | none => .error .malformed

end

end AdSearch.Yaml
