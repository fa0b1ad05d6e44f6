import AdSearch.Value.Text
import AdSearch.Yaml.Reader
import AdSearch.Yaml.Scalar

/-!
# Documents

A text holds one document, whose value is made of its nodes.  An alias stands for the value of the
anchor before it.  The key `<<` merges other mappings into its own one, whose entries win.  A text
without content is null.
-/

namespace AdSearch.Yaml

/-! ## Values of nodes -/

/-- The values of the anchors so far. -/
abbrev Anchors := List (String × Value)

/-- Whether a tag leaves a node the given kind. -/
def Tag.admits (kind : Tag) : Option Tag → Bool
  | none | some .untyped => true
  | some tag => tag = kind

/-- Whether a node is the key that merges other mappings. -/
def Node.isMerge : Node → Bool
  | .scalar text plain => plain && text == "<<"
  | _ => false

/-- Whether a node is the key of a default value, which is text. -/
def Node.isDefault : Node → Bool
  | .scalar text plain => plain && text == "="
  | _ => false

def keyText : Value → Except Fault String
  | .list _ | .record _ => .error .malformed
  | v =>
    match v.display with
    | .ok s => .ok s
    | .error _ => .error .malformed

def mergedItems : List Value → Except Fault (List (String × Value))
  | [] => .ok []
  | .record fields :: rest => do .ok ((← mergedItems rest) ++ fields)
  | _ :: _ => .error .malformed

/-- The fields that a value merges into a mapping; of several mappings the first wins. -/
def merged : Value → Except Fault (List (String × Value))
  | .record fields => .ok fields
  | .list items => mergedItems items
  | _ => .error .malformed

/-- The fields of a mapping: those merged into it, and its own. -/
structure Fields where
  merged : List (String × Value)
  own : List (String × Value)

mutual

/-- The value of a node under its tag, if it has one. -/
def nodeValue (tag : Option Tag) (known : Anchors) : Node → Except Fault (Value × Anchors)
  | .scalar text plain => (scalarValue tag text plain).map (·, known)
  | .list items => do
    let (values, known) ← itemValues known items
    if Tag.list.admits tag then .ok (.list values, known) else .error .malformed
  | .record entries => do
    let (fields, known) ← entryValues known entries
    if Tag.record.admits tag then
      .ok (.record (Keyed.ofEntries (fields.merged ++ fields.own)), known)
    else .error .malformed
  | .ref anchor =>
    match Keyed.get? anchor known with
    | some v => .ok (v, known)
    | none => .error .malformed
  | .marked marks node => do
    let (v, known) ← nodeValue marks.tag known node
    match marks.anchor with
    | none => .ok (v, known)
    | some anchor =>
      if (Keyed.get? anchor known).isSome then .error .malformed
      else .ok (v, Keyed.put anchor v known)

/-- The values of the items of a list. -/
def itemValues (known : Anchors) : List Node → Except Fault (List Value × Anchors)
  | [] => .ok ([], known)
  | item :: rest => do
    let (v, known) ← nodeValue none known item
    let (vs, known) ← itemValues known rest
    .ok (v :: vs, known)

/-- The fields of the entries of a mapping. -/
def entryValues (known : Anchors) : List (Node × Node) → Except Fault (Fields × Anchors)
  | [] => .ok (⟨[], []⟩, known)
  | (key, item) :: rest => do
    if key.isMerge then
      let (v, known) ← nodeValue none known item
      let (fields, known) ← entryValues known rest
      .ok (⟨(← merged v) ++ fields.merged, fields.own⟩, known)
    else
      let (k, known) ←
        if key.isDefault then .ok (.text "=", known) else nodeValue none known key
      let name ← keyText k
      let (v, known) ← nodeValue none known item
      let (fields, known) ← entryValues known rest
      .ok (⟨fields.merged, (name, v) :: fields.own⟩, known)

end

/-! ## Texts -/

/-- Whether a character may stand in a document. -/
def isPrintable (c : Char) : Bool :=
  let n := c.toNat
  n == 0x09 || n == 0x0A || (0x20 ≤ n && n ≤ 0x7E) || n == 0x85 ||
    (0xA0 ≤ n && n != 0xFFFE && n != 0xFFFF)

/-- A text whose lines end with line feeds alone. -/
def plainLines : List Char → List Char
  | [] => []
  | '\r' :: '\n' :: rest => '\n' :: plainLines rest
  | '\r' :: rest => '\n' :: plainLines rest
  | c :: rest => c :: plainLines rest

/-- Whether a directive may stand before a document: a version has to be one of the first. -/
def isDirective (line : List Char) : Bool :=
  match Text.dropPrefix? "%YAML ".toList line with
  | some version => (Text.dropPrefix? "1.".toList (version.dropWhile (· == ' '))).isSome
  | none => true

/-- The place after the directives, and whether there is one. -/
def skipDirectives : Nat → Cursor → Except Fault (Found Bool)
  | 0, _ => .error .malformed
  | fuel + 1, c => do
    if c.isAt '%' && c.column == 0 then
      let (line, after) := c.span fun ch => !isBreak ch
      if isDirective line then
        let (_, last) ← skipDirectives fuel after.skipGap
        .ok (true, last)
      else .error .malformed
    else .ok (false, c)

/-- Whether nothing follows but marks for the end of the document. -/
def isClosed : Nat → Cursor → Bool
  | 0, _ => false
  | fuel + 1, c =>
    let c := c.skipGap
    c.rest.isEmpty || (c.isAtRule '.' && isClosed fuel (c.advance 3))

/-- The root of the only document in a text. -/
def readRoot (cs : List Char) : Except Fault Node := do
  let fuel := 4 * cs.length + 8
  let start := Cursor.start cs
  let start := if start.isAt '\uFEFF' then start.next else start
  let (directed, c) ← skipDirectives fuel start.skipGap
  let (root, after) ←
    if c.isAtRule '-' then
      let first := (c.advance 3).skipGap
      blockNode fuel ⟨0, first.line != c.line, none⟩ .none first
    else if directed || (c.isDone && !c.rest.isEmpty) then .error .malformed
    else blockNode fuel ⟨0, true, none⟩ .none c
  if isClosed fuel after then .ok root else .error .malformed

/-- The value of the document that a text writes. -/
def read (text : String) : Except Fault Value := do
  let cs := plainLines text.toList
  if !cs.all isPrintable then .error .malformed
  else
    let root ← readRoot cs
    let (v, _) ← nodeValue none [] root
    .ok v

end AdSearch.Yaml
