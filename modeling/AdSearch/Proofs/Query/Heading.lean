import AdSearch.Proofs.Query.Overlooking
import AdSearch.Proofs.Text.Pieces

/-!
# The fields and the resource of a draft

The list of fields ends at the drafted `FROM`, since no field after the first starts with that word.
-/

namespace AdSearch.Proofs.Query.Heading

open AdSearch.Text AdSearch.Query AdSearch.Proofs.Text.Blank AdSearch.Proofs.Text.Scan
  AdSearch.Proofs.Text.Spacing AdSearch.Proofs.Text.Pieces AdSearch.Proofs.Query.Lexing
  AdSearch.Proofs.Query.Draft AdSearch.Proofs.Query.Layout AdSearch.Proofs.Query.Following
  AdSearch.Proofs.Query.Overlooking

/-! ## The search for the end of the fields -/

def fieldSearch : Search (List Char) where
  here? _ here := endOfFields? here
  shown := Token.text
  fits next := endsToken next = true
  quiet next := closing? Keyword.fromWord (trimLeft next) = none

theorem passes_of_no_blank {w : List Char} (hw : ∀ c ∈ w, isBlank c = false) (afterWord : Bool)
    (next : List Char) : Passes fieldSearch.here? afterWord w next := by
  refine Search.passes_of_no_blank (fun afterWord cs hcs => ?_) hw afterWord next
  change endOfFields? cs = none
  rw [endOfFields?, blanks?_of_not_startsBlank hcs]
  rfl

theorem passes_gap (wanted afterWord : Bool) {next : List Char} (h : fieldSearch.quiet next) :
    Passes fieldSearch.here? afterWord (textOf (gap wanted)) next := by
  cases wanted with
  | false => trivial
  | true =>
    have hquiet : closing? Keyword.fromWord (trimLeft next) = none := h
    refine ⟨?_, trivial⟩
    change endOfFields? (' ' :: next) = none
    rw [endOfFields?, blanks?_space, Option.bind_some, hquiet]
    rfl

theorem divides_comma (c : Comma) : fieldSearch.Divides c.tokens := by
  have htext : fieldSearch.text c.tokens =
      textOf (gap c.before) ++ ([','] ++ textOf (gap c.after)) := by
    simp [fieldSearch, Search.text, Comma.tokens, textOf, Token.text]
  refine ⟨(separates_comma c).ends, ?_⟩
  intro afterWord next hquiet
  have hcomma : fieldSearch.quiet ([','] ++ textOf (gap c.after) ++ next) := by
    change closing? Keyword.fromWord (trimLeft (',' :: (textOf (gap c.after) ++ next))) = none
    rw [trimLeft_eq_self (by rw [startsBlank]; decide), closing?, Keyword.fromWord,
      letters?_cons_of_ne (by decide)]
    rfl
  have hnone : ∀ d ∈ [','], isBlank d = false := by
    intro d hd
    rw [List.mem_singleton.mp hd]
    decide
  rw [htext, passes_append, passes_append]
  exact ⟨passes_gap c.before _ hcomma, passes_of_no_blank hnone _ _,
    passes_gap c.after _ hquiet⟩

theorem text_path (p : Path) : fieldSearch.text [p.token] = p.chars := by
  simp [fieldSearch, Search.text, Path.token, Token.text]

theorem overlooks_path (p : Path) : fieldSearch.Overlooks [p.token] := by
  intro afterWord next _
  rw [text_path]
  exact passes_of_no_blank (fun c hc => isBlank_of_isPlain (Path.isPlain p hc)) afterWord next

theorem hushes_path {p : Path} (h : closing? Keyword.fromWord p.chars = none) :
    fieldSearch.Hushes [p.token] := by
  intro next hnext
  rw [text_path]
  change closing? Keyword.fromWord (trimLeft (p.chars ++ next)) = none
  rw [trimLeft_eq_self (startsBlank_of_spaced (Path.isSpaced p) next),
    closing?_append_of_endsToken (mem_capitals_of_isKeyword (by decide)) p.chars hnext, h]
  rfl

theorem overlooks_fields (d : Draft) : fieldSearch.Overlooks d.fieldTokens :=
  (overlooks_path d.first).append_flatMap fun entry hentry =>
    ⟨divides_comma entry.1, overlooks_path entry.2, hushes_path (d.stays entry hentry)⟩

theorem endOfFields?_from (s : Spelling Keyword.fromWord) {next : List Char}
    (hnext : startsWord next = false) :
    endOfFields? (' ' :: (s.chars ++ next)) = some (s.chars ++ next) := by
  rw [endOfFields?, blanks?_space_spelling (by decide) s, Option.bind_some,
    closing?_spelling (by decide) s hnext]
  rfl

/-- The list of fields after `SELECT`, and the text from `FROM` on. -/
def fieldsFrom? (afterWord : Bool) (here : List Char) : Option (List Char × List Char) := do
  let rest ← opening? Keyword.selectWord afterWord here
  match ← blanks? rest with
  | [] => none
  | c :: cs =>
    let (before, rest) ← find? (fun _ here => endOfFields? here) (isWord c) cs
    some (c :: before, rest)

theorem selectClause?_eq (cs : List Char) :
    selectClause? cs = (find? fieldsFrom? false cs).map (·.2) := rfl

theorem fieldsFrom?_append (select : Spelling Keyword.selectWord)
    (from' : Spelling Keyword.fromWord) {fields next : List Char}
    (hspaced : spaced true fields = some false)
    (hpasses : Passes fieldSearch.here? false fields (' ' :: (from'.chars ++ next)))
    (hnext : startsWord next = false) :
    fieldsFrom? false (select.chars ++ ' ' :: (fields ++ ' ' :: (from'.chars ++ next))) =
      some (fields, from'.chars ++ next) := by
  cases fields with
  | nil => simp [spaced] at hspaced
  | cons c cs =>
    have hselect : letters? Keyword.selectWord
        (select.chars ++ ' ' :: (c :: cs ++ ' ' :: (from'.chars ++ next))) =
          some (select.chars, ' ' :: (c :: cs ++ ' ' :: (from'.chars ++ next))) :=
      letters?_append (Spelling.sameLetters_chars (by decide) select) _
    have hblanks : blanks? (' ' :: (c :: cs ++ ' ' :: (from'.chars ++ next))) =
        some (c :: (cs ++ ' ' :: (from'.chars ++ next))) := by
      rw [blanks?_space, trimLeft_eq_self (startsBlank_of_spaced hspaced _)]
      rfl
    have hrest : find? (fun _ here => endOfFields? here) (isWord c)
        (cs ++ ' ' :: (from'.chars ++ next)) = some (cs, from'.chars ++ next) :=
      find?_eq_some hpasses.2 (endOfFields?_from from' hnext)
    rw [fieldsFrom?, opening?, if_neg (by simp), hselect]
    simp only [Option.map_some, Option.bind_eq_bind, Option.bind_some, hblanks, hrest]

/-- The fields are cut off before the drafted `FROM`. -/
theorem selectClause?_draft (d : Draft) {next : List Char} (hnext : startsWord next = false) :
    selectClause? (textOf (d.word.token :: space :: d.fieldTokens) ++
      (' ' :: (d.fromWord.chars ++ next))) =
        some (textOf d.fieldTokens, d.fromWord.chars ++ next) := by
  have hhere := fieldsFrom?_append d.word d.fromWord ((solid_fieldTokens d).isSpaced true)
    (overlooks_fields d false (' ' :: (d.fromWord.chars ++ next)) rfl) hnext
  have htext : textOf (d.word.token :: space :: d.fieldTokens) ++
      (' ' :: (d.fromWord.chars ++ next)) =
        d.word.chars ++ ' ' :: (textOf d.fieldTokens ++ ' ' :: (d.fromWord.chars ++ next)) := by
    simp [Spelling.token, Token.text]
  rw [htext, selectClause?_eq, find?_of_here hhere]
  rfl

theorem sourceClause?_draft (d : Draft) {next : List Char} (hnext : startsWord next = false) :
    sourceClause? (d.fromWord.chars ++ (' ' :: (d.source.chars ++ next))) =
      some (d.source.chars, next) := by
  have hstarts := startsBlank_of_spaced (Name.isSpaced d.source) next
  have hfrom : letters? Keyword.fromWord (d.fromWord.chars ++ (' ' :: (d.source.chars ++ next))) =
      some (d.fromWord.chars, ' ' :: (d.source.chars ++ next)) :=
    letters?_append (Spelling.sameLetters_chars (by decide) d.fromWord) _
  rw [sourceClause?, find?_of_here (a := (d.source.chars, next))]
  · rfl
  · rw [opening?, if_neg (by simp), hfrom]
    simp only [Option.map_some, Option.bind_eq_bind, Option.bind_some, blanks?_space,
      trimLeft_eq_self hstarts]
    exact word?_append d.source.ne_nil d.source.isWord hnext

/-! ## The fields -/

theorem not_mem_path {p : Path} : ',' ∉ p.chars := by
  intro h
  exact absurd (Path.isPlain p h) (by decide)

theorem adds_fields (rest : List (Comma × Path)) :
    Adds ',' (textOf (rest.flatMap fun (comma, field) => comma.tokens ++ [field.token]))
      (rest.map fun entry => entry.2.chars) := by
  have hcomma : isBlank ',' = false := by decide
  induction rest with
  | nil => exact adds_nil
  | cons entry rest ih =>
    obtain ⟨comma, field⟩ := entry
    have hpieces := pieces_of_adds (Or.inr (Path.isSpaced field)) not_mem_path
      (isBlank_of_mem_gap comma.after) hcomma ih
    have hadds := adds_mark (isBlank_of_mem_gap comma.before) hcomma
      (textOf (gap comma.after) ++ (field.chars ++
        textOf (rest.flatMap fun (comma, field) => comma.tokens ++ [field.token])))
    rw [hpieces] at hadds
    simpa [Comma.tokens, Path.token, Token.text] using hadds

theorem fieldNames_draft (d : Draft) :
    fieldNames (textOf d.fieldTokens) = d.fields.map Path.chars := by
  have hcomma : isBlank ',' = false := by decide
  have hpieces := pieces_of_adds (Or.inr (Path.isSpaced d.first)) not_mem_path
    (List.forall_mem_nil _) hcomma (adds_fields d.rest)
  have htext : textOf d.fieldTokens = [] ++ (d.first.chars ++
      textOf (d.rest.flatMap fun (comma, field) => comma.tokens ++ [field.token])) := by
    simp [Draft.fieldTokens, Path.token, Token.text]
  have hall : ∀ name ∈ d.first.chars :: d.rest.map (fun entry => entry.2.chars),
      (!name.isEmpty) = true := by
    intro name hname
    rcases List.mem_cons.mp hname with rfl | hname
    · simpa using Path.ne_nil d.first
    · obtain ⟨entry, -, rfl⟩ := List.mem_map.mp hname
      simpa using Path.ne_nil entry.2
  rw [fieldNames, htext, hpieces, List.filter_eq_self.mpr hall]
  simp [Draft.fields, Function.comp_def]

end AdSearch.Proofs.Query.Heading
