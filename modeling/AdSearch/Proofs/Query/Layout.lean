import AdSearch.Proofs.Query.Draft

/-!
# How the parts of a draft lie in its text

A part is *solid*: its tokens can be read back wherever a token may end, and its blanks are single
spaces inside it.  Parts are held apart by tokens that *separate*.  The two notions compose, so that
a whole draft is solid because its words and literals are.
-/

namespace AdSearch.Proofs.Query.Layout

open AdSearch.Text AdSearch.Query AdSearch.Proofs.Text.Blank AdSearch.Proofs.Text.Case
  AdSearch.Proofs.Text.Spacing AdSearch.Proofs.Query.Predicate AdSearch.Proofs.Query.Lexing
  AdSearch.Proofs.Query.Draft

structure Solid (ts : List Token) : Prop where
  stands : ∀ next, endsToken next = true → AllStanding ts next
  isSpaced : ∀ afterBlank, spaced afterBlank (textOf ts) = some false

structure Separates (ts : List Token) : Prop where
  stands : ∀ next, AllStanding ts next
  ends : ∀ next, endsToken (textOf ts ++ next) = true
  isSpaced : ∃ afterBlank, spaced false (textOf ts) = some afterBlank

/-! ## Composition -/

theorem Solid.append {ts sep us : List Token} (hts : Solid ts) (hsep : Separates sep)
    (hus : Solid us) : Solid (ts ++ (sep ++ us)) := by
  refine ⟨?_, ?_⟩
  · intro next hnext
    rw [allStanding_append, allStanding_append, textOf_append, List.append_assoc]
    exact ⟨hts.stands _ (hsep.ends _), hsep.stands _, hus.stands next hnext⟩
  · intro afterBlank
    obtain ⟨flag, hflag⟩ := hsep.isSpaced
    simp only [textOf_append, spaced_append, hts.isSpaced, Option.bind_some, hflag, hus.isSpaced]

theorem Solid.append_flatMap {α : Type} {ts : List Token} {entries : List α}
    {sep part : α → List Token} (hts : Solid ts)
    (h : ∀ entry ∈ entries, Separates (sep entry) ∧ Solid (part entry)) :
    Solid (ts ++ entries.flatMap fun entry => sep entry ++ part entry) := by
  induction entries generalizing ts with
  | nil => simpa using hts
  | cons entry entries ih =>
    obtain ⟨hsep, hpart⟩ := h entry List.mem_cons_self
    rw [List.flatMap_cons, ← List.append_assoc]
    exact ih (hts.append hsep hpart) fun entry' hentry' => h entry' (List.mem_cons_of_mem _ hentry')

theorem separates_space : Separates [space] := by
  refine ⟨fun next => ⟨rfl, trivial⟩, fun next => rfl, ⟨true, rfl⟩⟩

theorem Solid.append_space {ts us : List Token} (hts : Solid ts) (hus : Solid us) :
    Solid (ts ++ space :: us) :=
  hts.append separates_space hus

theorem Solid.cons_space {t : Token} {us : List Token} (ht : Solid [t]) (hus : Solid us) :
    Solid (t :: space :: us) :=
  ht.append_space hus

theorem Solid.separates {t : Token} (ht : Solid [t]) : Separates [space, t, space] := by
  refine ⟨?_, fun next => rfl, ⟨true, ?_⟩⟩
  · intro next
    have hword := ht.stands (textOf [space] ++ next) rfl
    exact ⟨rfl, hword.1, rfl, trivial⟩
  · have hword := ht.isSpaced true
    have htext : textOf [space, t, space] = ' ' :: (textOf [t] ++ [' ']) := by simp [Token.text]
    rw [htext, spaced, if_pos (by decide), if_pos (by decide), spaced_append, hword]
    rfl

theorem allStanding_gap (wanted : Bool) (next : List Char) : AllStanding (gap wanted) next := by
  cases wanted with
  | false => trivial
  | true => exact ⟨rfl, trivial⟩

theorem spaced_gap (wanted : Bool) : spaced false (textOf (gap wanted)) = some wanted := by
  cases wanted <;> rfl

theorem eq_space_of_mem_gap {wanted : Bool} {t : Token} (h : t ∈ gap wanted) : t = space := by
  cases wanted with
  | false => cases h
  | true => exact List.mem_singleton.mp h

theorem isBlank_of_mem_gap (wanted : Bool) : ∀ c ∈ textOf (gap wanted), isBlank c = true := by
  intro c h
  cases wanted with
  | false => cases h
  | true =>
    obtain rfl : c = ' ' := by simpa [gap, Token.text] using h
    decide

theorem separates_comma (c : Comma) : Separates c.tokens := by
  refine ⟨?_, ?_, ⟨c.after, ?_⟩⟩
  · intro next
    exact allStanding_append.mpr ⟨allStanding_gap _ _, rfl, allStanding_gap _ _⟩
  · intro next
    obtain ⟨before, after⟩ := c
    cases before <;> rfl
  · have hcomma : spaced c.before (',' :: textOf (gap c.after)) = some c.after := by
      rw [spaced, if_neg (by decide), spaced_gap]
    rw [Comma.tokens, textOf_append, spaced_append, spaced_gap, Option.bind_some]
    exact hcomma

/-! ## Words -/

theorem solid_word {w : List Char} (hne : w ≠ []) (hw : ∀ c ∈ w, isPlain c = true) :
    Solid [.word w] := by
  refine ⟨fun next hnext => ⟨⟨hne, hw, hnext⟩, trivial⟩, fun afterBlank => ?_⟩
  have htext : textOf [.word w] = w := by simp [Token.text]
  rw [htext]
  exact spaced_of_no_blank hne (fun c hc => isBlank_of_isPlain (hw c hc)) afterBlank

/-- A keyword of capital letters. -/
def isKeyword (keyword : List Char) : Bool := !keyword.isEmpty && keyword.all capitals.contains

section Spelling

variable {keyword : List Char} (hkeyword : isKeyword keyword = true) (s : Spelling keyword)

include hkeyword

theorem toUpper_mem_capitals {c : Char} (hc : c ∈ s.chars) : c.toUpper ∈ capitals := by
  rw [isKeyword, Bool.and_eq_true] at hkeyword
  have hmem : c.toUpper ∈ keyword := by
    rw [← s.upper_eq]
    exact List.mem_map_of_mem hc
  simpa using List.all_eq_true.mp hkeyword.2 _ hmem

theorem Spelling.isWord {c : Char} (hc : c ∈ s.chars) : isWord c = true :=
  (of_toUpper_mem_capitals (toUpper_mem_capitals hkeyword s hc)).2.1

theorem Spelling.ne_nil : s.chars ≠ [] := by
  intro hnil
  have hempty := s.upper_eq
  rw [hnil, List.map_nil] at hempty
  simp [isKeyword, ← hempty] at hkeyword

theorem Spelling.solid : Solid [s.token] :=
  solid_word (Spelling.ne_nil hkeyword s) fun _ hc =>
    isPlain_of_isWord (Spelling.isWord hkeyword s hc)

theorem Spelling.sameLetters_chars : sameLetters keyword s.chars = true := by
  have hkeys : s.chars.map (caseKey ∘ Char.toUpper) = s.chars.map caseKey := by
    apply List.map_congr_left
    intro c hc
    have hsame := (of_toUpper_mem_capitals (toUpper_mem_capitals hkeyword s hc)).1
    simpa [sameLetter] using hsame
  have hmap : keyword.map caseKey = s.chars.map caseKey := by
    rw [← hkeys, ← List.map_map, s.upper_eq]
  simp [sameLetters, hmap]

theorem Spelling.upper_chars : upper s.chars = keyword := by
  have hletters : ∀ c ∈ s.chars, upperLetters c = [c.toUpper] := fun c hc =>
    (of_toUpper_mem_capitals (toUpper_mem_capitals hkeyword s hc)).2.2
  calc upper s.chars
      = s.chars.flatMap fun c => [c.toUpper] := List.flatMap_congr hletters
    _ = s.chars.map Char.toUpper := List.map_eq_flatMap.symm
    _ = keyword := s.upper_eq

end Spelling

theorem Path.ne_nil (p : Path) : p.chars ≠ [] := by
  intro hnil
  have hsegments := p.isPath.2
  rw [hnil] at hsegments
  exact hsegments [] (by simp [splitOn]) rfl

theorem Path.isPlain (p : Path) {c : Char} (hc : c ∈ p.chars) : isPlain c = true := by
  have hpath := p.isPath.1 c hc
  rw [Bool.or_eq_true, beq_iff_eq] at hpath
  rcases hpath with hword | rfl
  · exact isPlain_of_isWord hword
  · decide

theorem Path.solid (p : Path) : Solid [p.token] :=
  solid_word (Path.ne_nil p) fun _ => Path.isPlain p

theorem Path.isSpaced (p : Path) : spaced true p.chars = some false := by
  have hsolid := (Path.solid p).isSpaced true
  simpa [Path.token, Token.text] using hsolid

theorem Name.solid (n : Name) : Solid [n.token] :=
  solid_word n.ne_nil fun c hc => isPlain_of_isWord (n.isWord c hc)

theorem Name.isSpaced (n : Name) : spaced true n.chars = some false := by
  have hsolid := (Name.solid n).isSpaced true
  simpa [Name.token, Token.text] using hsolid

/-! ## Values -/

theorem Quoted.solid (q : Quoted) : Solid [q.token] := by
  refine ⟨fun next hnext => ⟨⟨q.mark, q.inner, rfl, q.isMark, q.closes⟩, trivial⟩, ?_⟩
  intro afterBlank
  have hmark : ¬isBlank q.mark = true := by
    rcases eq_of_isMark q.isMark with h | h <;> rw [h] <;> decide
  have htext : textOf [q.token] = q.mark :: (q.inner ++ [q.mark]) := by
    simp [Quoted.token, Quoted.text, Piece.text, Token.text]
  obtain ⟨flag, hflag⟩ := Option.isSome_iff_exists.mp q.isSpaced
  rw [htext, spaced, if_neg hmark, spaced_append, hflag, Option.bind_some, spaced, if_neg hmark]
  rfl

theorem Member.solid (m : Member) : Solid [m.token] := by
  cases m with
  | quoted l => exact Quoted.solid l.toQuoted
  | bare b => exact solid_word b.ne_nil b.isPlain

theorem Members.solid (ms : Members) : Solid ms.tokens :=
  (Member.solid ms.first).append_flatMap fun entry _ =>
    ⟨separates_comma entry.1, Member.solid entry.2⟩

theorem solid_group (opens closes : Bool) {ts : List Token} (hts : Solid ts) :
    Solid (.symbol '(' :: gap opens ++ ts ++ gap closes ++ [.symbol ')']) := by
  refine ⟨?_, ?_⟩
  · intro next hnext
    have hclose : endsToken (textOf (gap closes) ++ (textOf [.symbol ')'] ++ next)) = true := by
      cases closes <;> rfl
    simp only [List.cons_append, AllStanding, allStanding_append]
    exact ⟨rfl, ⟨⟨allStanding_gap _ _, hts.stands _ hclose⟩, allStanding_gap _ _⟩, rfl, trivial⟩
  · intro afterBlank
    have hopen : spaced afterBlank ['('] = some false := by
      rw [spaced, if_neg (by decide)]
      rfl
    have hclose : ∀ flag, spaced flag [')'] = some false := by
      intro flag
      rw [spaced, if_neg (by decide)]
      rfl
    have htext : textOf (.symbol '(' :: gap opens ++ ts ++ gap closes ++ [.symbol ')']) =
        ['('] ++ (textOf (gap opens) ++ (textOf ts ++ (textOf (gap closes) ++ [')']))) := by
      simp [Token.text]
    simp only [htext, spaced_append, hopen, hclose, spaced_gap, hts.isSpaced, Option.bind_some]

theorem Operand.solid (o : Operand) : Solid o.tokens := by
  cases o with
  | plain ms free continues => exact Members.solid ms
  | group opens closes ms => exact solid_group opens closes (Members.solid ms)

theorem OperatorText.solid (o : OperatorText) : Solid o.tokens := by
  cases o with
  | symbol op isSymbol =>
    have hall : [Operator.eq, .ne, .gt, .lt, .ge, .le].all (fun op =>
        !op.text.toList.isEmpty && op.text.toList.all isPlain) = true := by decide
    have hop := List.all_eq_true.mp hall op isSymbol
    rw [Bool.and_eq_true] at hop
    exact solid_word (by simpa using hop.1) (List.all_eq_true.mp hop.2)
  | isIn member => exact Spelling.solid (by decide) member
  | notIn negation member =>
    exact (Spelling.solid (by decide) negation).cons_space (Spelling.solid (by decide) member)
  | like word => exact Spelling.solid (by decide) word

/-! ## Conditions -/

theorem Comparison.solid (c : Comparison) : Solid c.tokens :=
  (Path.solid c.field).cons_space ((OperatorText.solid c.operator).append_space
    (Operand.solid c.operand))

theorem During.solid (d : During) : Solid d.tokens :=
  (Path.solid d.field).cons_space ((Spelling.solid (by decide) d.word).cons_space
    (Name.solid d.keyword))

theorem Between.solid (b : Between) : Solid b.tokens :=
  (Path.solid b.field).cons_space ((Spelling.solid (by decide) b.word).cons_space
    ((Quoted.solid b.start).cons_space ((Spelling.solid (by decide) b.conjunction).cons_space
      (Quoted.solid b.stop))))

theorem Conjunct.solid (c : Conjunct) : Solid c.tokens := by
  cases c with
  | comparison c => exact Comparison.solid c
  | during d => exact During.solid d
  | between b => exact Between.solid b

theorem Separator.separates (s : Separator) : Separates s.tokens := by
  cases s with
  | and word => exact (Spelling.solid (by decide) word).separates
  | or word => exact (Spelling.solid (by decide) word).separates
  | comma c => exact separates_comma c

theorem Ending.solid (e : Ending) : Solid e.tokens := by
  cases e with
  | orderBy order by' =>
    exact (Spelling.solid (by decide) order).cons_space (Spelling.solid (by decide) by')
  | limit word => exact Spelling.solid (by decide) word
  | parameters word => exact Spelling.solid (by decide) word

theorem Clause.solid (c : Clause) : Solid c.bodyTokens :=
  (Conjunct.solid c.first).append_flatMap fun entry _ =>
    ⟨Separator.separates entry.1, Conjunct.solid entry.2⟩

/-! ## The whole draft -/

theorem solid_fieldTokens (d : Draft) : Solid d.fieldTokens :=
  (Path.solid d.first).append_flatMap fun entry _ =>
    ⟨separates_comma entry.1, Path.solid entry.2⟩

theorem solid_source_clause (d : Draft) : Solid (d.source.token :: d.clauseTokens) := by
  cases hclause : d.clause with
  | none => simpa [Draft.clauseTokens, hclause] using Name.solid d.source
  | some c =>
    have hwhere : Solid (d.source.token :: space :: c.word.token :: space :: c.bodyTokens) :=
      (Name.solid d.source).cons_space
        ((Spelling.solid (by decide) c.word).cons_space (Clause.solid c))
    rw [Draft.clauseTokens, hclause]
    cases hending : c.ending with
    | none => simpa [Clause.endTokens, hending] using hwhere
    | some e => simpa [Clause.endTokens, hending] using hwhere.append_space (Ending.solid e)

theorem solid_draft (d : Draft) : Solid d.tokens :=
  ((Spelling.solid (by decide) d.word).cons_space (solid_fieldTokens d)).append_space
    ((Spelling.solid (by decide) d.fromWord).cons_space (solid_source_clause d))

end AdSearch.Proofs.Query.Layout
