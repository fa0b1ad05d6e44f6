import AdSearch.Proofs.Query.Lexing
import AdSearch.Proofs.Query.Predicate
import AdSearch.Proofs.Text.Spacing
import AdSearch.Query.Parser

/-!
# Queries before they are printed

A draft is a query together with the choices that its text leaves open: the case of the keywords,
the separators, the marks of the literals.  What would be read as something else cannot be drafted:
keywords where fields are expected, and literals that hold a date directive or a character which
does not survive in a text.
-/

namespace AdSearch.Proofs.Query.Draft

open AdSearch.Text AdSearch.Query AdSearch.Proofs.Text.Scan AdSearch.Proofs.Text.Spacing
  AdSearch.Proofs.Query.Predicate AdSearch.Proofs.Query.Lexing

/-! ## Words -/

abbrev space : Token := .symbol ' '

/-- A keyword in some letter case. -/
structure Spelling (keyword : List Char) where
  chars : List Char
  upper_eq : chars.map Char.toUpper = keyword

/-- A dotted path. -/
structure Path where
  chars : List Char
  isPath : IsPath chars

/-- A word on its own. -/
structure Name where
  chars : List Char
  ne_nil : chars ≠ []
  isWord : ∀ c ∈ chars, isWord c = true

def Spelling.token {keyword : List Char} (s : Spelling keyword) : Token := .word s.chars

def Path.token (p : Path) : Token := .word p.chars

def Name.token (n : Name) : Token := .word n.chars

/-- Whether a text would end the conditions if a blank stood before it. -/
def leadsOut (cs : List Char) : Bool :=
  (closing? Keyword.limitWord cs).isSome || (closing? Keyword.parametersWord cs).isSome

/-- A comma, with or without a blank on either side. -/
structure Comma where
  before : Bool
  after : Bool

def gap (wanted : Bool) : List Token := if wanted then [space] else []

def Comma.tokens (c : Comma) : List Token := gap c.before ++ .symbol ',' :: gap c.after

/-! ## Literals -/

/-- The start of a directive with two dates, as far as the mark of the first one. -/
def opensDates? (afterWord : Bool) (cs : List Char) : Option (List Char) := do
  if afterWord then none
  else
    let cs ← blanks? (← afterDatePath? [] cs)
    let (_, cs) ← letters? Keyword.betweenWord cs
    char? '\'' (← blanks? cs)

/-- A text in quotation marks whose blanks are single spaces, and in which no directive with a
keyword can be read. -/
structure Quoted where
  mark : Char
  inner : List Char
  isMark : isMark mark = true
  closes : mark ∉ inner
  isSpaced : (spaced false inner).isSome = true
  noDuring : find? during? false (inner ++ [mark]) = none

def Quoted.text (q : Quoted) : List Char := (Piece.literal q.mark q.inner).text

def Quoted.token (q : Quoted) : Token := .literal q.text

/-- A quoted value, in which no directive with two dates starts either. -/
structure Literal extends Quoted where
  noSplit : commaMark ∉ inner
  noBetween : find? opensDates? false (inner ++ [mark]) = none

/-- A value without quotation marks, on which nothing ends. -/
structure Bare where
  chars : List Char
  ne_nil : chars ≠ []
  isPlain : ∀ c ∈ chars, isPlain c = true
  noSplit : commaMark ∉ chars
  stays : leadsOut chars = false

/-! ## Comparisons -/

inductive Member where
  | quoted (l : Literal)
  | bare (b : Bare)

namespace Member

def token : Member → Token
  | quoted l => l.token
  | bare b => .word b.chars

def text (m : Member) : List Char := m.token.text

end Member

/-- One member or more, with commas between them. -/
structure Members where
  first : Member
  rest : List (Comma × Member)

namespace Members

def all (ms : Members) : List Member := ms.first :: ms.rest.map (·.2)

def tokens (ms : Members) : List Token :=
  ms.first.token :: ms.rest.flatMap fun (comma, m) => comma.tokens ++ [m.token]

/-- The members as they are joined again when no parentheses keep them together. -/
def joined (ms : Members) : List Char :=
  ms.first.text ++ ms.rest.flatMap fun (_, m) => ',' :: ' ' :: m.text

end Members

/-- What a field is compared with.  Without parentheses, no member is a conjunction, and no later
one starts a predicate. -/
inductive Operand where
  | plain (ms : Members) (free : ∀ m ∈ ms.all, m.token.isConjunction = false)
      (continues : ∀ entry ∈ ms.rest, startsPredicate entry.2.text = false)
  | group (opens closes : Bool) (ms : Members)

namespace Operand

def tokens : Operand → List Token
  | plain ms _ _ => ms.tokens
  | group opens closes ms => .symbol '(' :: gap opens ++ ms.tokens ++ gap closes ++ [.symbol ')']

/-- Whether the operand lists several members without parentheses. -/
def isOpenList : Operand → Bool
  | plain ms _ _ => !ms.rest.isEmpty
  | group _ _ _ => false

/-- The operand as a value, where the marks of a single literal stay only in a list. -/
def value (inList : Bool) : Operand → List Char
  | plain ⟨.quoted l, []⟩ _ _ => if inList then l.text else l.inner
  | plain ms _ _ => ms.joined
  | group opens closes ms => textOf (group opens closes ms).tokens

end Operand

/-- An operator as it is written. -/
inductive OperatorText where
  | symbol (op : Operator) (isSymbol : op ∈ [.eq, .ne, .gt, .lt, .ge, .le])
  | isIn (member : Spelling Keyword.inWord)
  | notIn (negation : Spelling Keyword.notWord) (member : Spelling Keyword.inWord)
  | like (word : Spelling Keyword.likeWord)

namespace OperatorText

def operator : OperatorText → Operator
  | symbol op _ => op
  | isIn _ => .isIn
  | notIn _ _ => .notIn
  | like _ => .like

def tokens : OperatorText → List Token
  | symbol op _ => [.word op.text.toList]
  | isIn member => [member.token]
  | notIn negation member => [negation.token, space, member.token]
  | like word => [word.token]

end OperatorText

/-- A field compared with an operand. -/
structure Comparison where
  field : Path
  operator : OperatorText
  operand : Operand
  notDate : isDatePath field.chars = false
  notConjunction : field.token.isConjunction = false
  listed : operand.isOpenList = true → operator.operator.takesList = true
  value_ne_nil : operand.value operator.operator.takesList ≠ []

namespace Comparison

def tokens (c : Comparison) : List Token :=
  c.field.token :: space :: c.operator.tokens ++ space :: c.operand.tokens

def condition (c : Comparison) : Condition :=
  ⟨String.ofList c.field.chars, c.operator.operator,
    String.ofList (c.operand.value c.operator.operator.takesList)⟩

end Comparison

/-! ## Directives -/

structure During where
  field : Path
  isDate : isDatePath field.chars = true
  word : Spelling Keyword.duringWord
  keyword : Name
  stays : leadsOut keyword.chars = false

def During.tokens (d : During) : List Token :=
  [d.field.token, space, d.word.token, space, d.keyword.token]

def During.range (d : During) : DateRange := .during (some (String.ofList d.keyword.chars))

structure Between where
  field : Path
  isDate : isDatePath field.chars = true
  word : Spelling Keyword.betweenWord
  start : Quoted
  conjunction : Spelling Keyword.andWord
  stop : Quoted
  start_mark : start.mark = '\''
  stop_mark : stop.mark = '\''

def Between.tokens (b : Between) : List Token :=
  [b.field.token, space, b.word.token, space, b.start.token, space, b.conjunction.token, space,
    b.stop.token]

def Between.range (b : Between) : DateRange :=
  .between (some (String.ofList (trim b.start.inner))) (some (String.ofList (trim b.stop.inner)))

/-! ## Conditions -/

inductive Conjunct where
  | comparison (c : Comparison)
  | during (d : During)
  | between (b : Between)

namespace Conjunct

def tokens : Conjunct → List Token
  | comparison c => c.tokens
  | during d => d.tokens
  | between b => b.tokens

def field : Conjunct → Path
  | comparison c => c.field
  | during d => d.field
  | between b => b.field

def comparison? : Conjunct → Option Comparison
  | comparison c => some c
  | _ => none

def during? : Conjunct → Option During
  | during d => some d
  | _ => none

def between? : Conjunct → Option Between
  | between b => some b
  | _ => none

end Conjunct

inductive Separator where
  | and (word : Spelling Keyword.andWord)
  | or (word : Spelling Keyword.orWord)
  | comma (c : Comma)

def Separator.tokens : Separator → List Token
  | .and word => [space, word.token, space]
  | .or word => [space, word.token, space]
  | .comma c => c.tokens

/-- What ends the conditions. -/
inductive Ending where
  | orderBy (order : Spelling Keyword.orderWord) (by' : Spelling Keyword.byWord)
  | limit (word : Spelling Keyword.limitWord)
  | parameters (word : Spelling Keyword.parametersWord)

def Ending.tokens : Ending → List Token
  | .orderBy order by' => [order.token, space, by'.token]
  | .limit word => [word.token]
  | .parameters word => [word.token]

/-- The conditions of a query: one or more, at most one directive of each form among them.  Only the
first field may be a keyword that ends the conditions. -/
structure Clause where
  word : Spelling Keyword.whereWord
  first : Conjunct
  rest : List (Separator × Conjunct)
  ending : Option Ending
  stays : ∀ entry ∈ rest, leadsOut entry.2.field.chars = false
  during_le_one : ((first :: rest.map (·.2)).filterMap Conjunct.during?).length ≤ 1
  between_le_one : ((first :: rest.map (·.2)).filterMap Conjunct.between?).length ≤ 1

namespace Clause

def conjuncts (c : Clause) : List Conjunct := c.first :: c.rest.map (·.2)

def bodyTokens (c : Clause) : List Token :=
  c.first.tokens ++ c.rest.flatMap fun (separator, conjunct) =>
    separator.tokens ++ conjunct.tokens

def endTokens (c : Clause) : List Token := c.ending.elim [] fun ending => space :: ending.tokens

def conditions (c : Clause) : List Condition :=
  (c.conjuncts.filterMap Conjunct.comparison?).map Comparison.condition

def range (c : Clause) : Option DateRange :=
  ((c.conjuncts.filterMap Conjunct.between?).head?.map Between.range).or
    ((c.conjuncts.filterMap Conjunct.during?).head?.map During.range)

end Clause

end AdSearch.Proofs.Query.Draft

/-! ## Drafts -/

namespace AdSearch.Proofs.Query

open AdSearch.Text AdSearch.Query AdSearch.Proofs.Text.Scan AdSearch.Proofs.Query.Lexing
  AdSearch.Proofs.Query.Draft

/-- A query as it is drafted.  No field after the first starts with `FROM`. -/
structure Draft where
  word : Spelling Keyword.selectWord
  first : Path
  rest : List (Comma × Path)
  fromWord : Spelling Keyword.fromWord
  source : Name
  clause : Option Clause
  stays : ∀ entry ∈ rest, closing? Keyword.fromWord entry.2.chars = none

namespace Draft

def fields (d : Draft) : List Path := d.first :: d.rest.map (·.2)

def fieldTokens (d : Draft) : List Token :=
  d.first.token :: d.rest.flatMap fun (comma, field) => comma.tokens ++ [field.token]

def clauseTokens (d : Draft) : List Token :=
  d.clause.elim [] fun c =>
    space :: c.word.token :: space :: c.bodyTokens ++ c.endTokens

def tokens (d : Draft) : List Token :=
  d.word.token :: space :: d.fieldTokens ++
    space :: d.fromWord.token :: space :: d.source.token :: d.clauseTokens

/-- The query that a draft means. -/
def query (d : Draft) : AdSearch.Query :=
  ⟨d.fields.map fun field => String.ofList field.chars, String.ofList d.source.chars,
    d.clause.elim [] Clause.conditions, d.clause.bind Clause.range⟩

/-- Whether more text may follow. -/
def isOpen (d : Draft) : Bool := (d.clause.bind Clause.ending).isSome

end Draft

/-- Tokens as they are written: every blank becomes a run of blanks. -/
inductive Written : List Token → List Char → Prop
  | nil : Written [] []
  | gap {gap ts cs} : Blanks gap → Written ts cs → Written (space :: ts) (gap ++ cs)
  | token {t ts cs} : t ≠ space → Written ts cs → Written (t :: ts) (t.text ++ cs)

/-- A text is a print of a draft, with any text after an ending. -/
def Draft.Prints (d : Draft) (s : String) : Prop :=
  ∃ cs tail, s.toList = cs ++ tail ∧ Written d.tokens cs ∧
    (tail = [] ∨ d.isOpen = true ∧ startsBlank tail = true)

end AdSearch.Proofs.Query
