import AdSearch.Proofs.Query.Directive
import AdSearch.Proofs.Query.Mention

/-!
# Taking the directives out

The conditions of a draft are a *body*: places for conjuncts with separators between them.  Taking
a directive out empties its place and touches nothing else, wherever the place is.
-/

namespace AdSearch.Proofs.Query.Extraction

open AdSearch.Text AdSearch.Query AdSearch.Proofs.Text.Blank AdSearch.Proofs.Text.Scan
  AdSearch.Proofs.Query.Predicate AdSearch.Proofs.Query.Lexing AdSearch.Proofs.Query.Draft
  AdSearch.Proofs.Query.Layout AdSearch.Proofs.Query.Following AdSearch.Proofs.Query.Overlooking
  AdSearch.Proofs.Query.Opening AdSearch.Proofs.Query.Directive AdSearch.Proofs.Query.Mention

/-! ## Reading a directive -/

theorem opens?_path {keyword : List Char} (hkeyword : isKeyword keyword = true) (p : Path)
    (hdate : isDatePath p.chars = true) (s : Spelling keyword) (next : List Char) :
    opens? keyword (p.chars ++ ' ' :: (s.chars ++ next)) = some (s.chars, next) := by
  rw [opens?, afterDatePath?_path p hdate, Option.bind_some, blanks?_space_spelling hkeyword,
    Option.bind_some, letters?_append (Spelling.sameLetters_chars hkeyword s)]

theorem during?_tokens (d : During) {next : List Char} (hnext : endsToken next = true) :
    during? false (textOf d.tokens ++ next) = some (d.range, next) := by
  have htext : textOf d.tokens ++ next =
      d.field.chars ++ ' ' :: (d.word.chars ++ (' ' :: (d.keyword.chars ++ next))) := by
    simp [During.tokens, Path.token, Spelling.token, Name.token, Token.text]
  obtain ⟨c, rest, hchars⟩ := List.exists_cons_of_ne_nil d.keyword.ne_nil
  have hblank : startsBlank (d.keyword.chars ++ next) = false := by
    rw [hchars]
    exact isBlank_of_isWord (d.keyword.isWord c (by rw [hchars]; exact List.mem_cons_self))
  rw [htext, during?_false, opens?_path (by decide) d.field d.isDate d.word, Option.bind_some,
    blanks?_space, trimLeft_eq_self hblank, Option.bind_some,
    word?_append d.keyword.ne_nil d.keyword.isWord (startsWord_of_endsToken hnext)]
  rfl

theorem quotedDate?_append {inner : List Char} (h : '\'' ∉ inner) (next : List Char) :
    quotedDate? (' ' :: '\'' :: (inner ++ '\'' :: next)) = some (inner, next) := by
  have hread := quotedDate?_dateText ⟨[' '], rfl, blanks_space, h⟩ next
  simpa using hread

/-- A directive with two dates in single quotes, which may hold anything but this mark. -/
theorem between?_quoted (p : Path) (hdate : isDatePath p.chars = true)
    (s : Spelling Keyword.betweenWord) (conjunction : Spelling Keyword.andWord)
    {first last : List Char} (hfirst : '\'' ∉ first) (hlast : '\'' ∉ last) (next : List Char) :
    between? false (p.chars ++ ' ' :: (s.chars ++ (' ' :: '\'' :: (first ++ '\'' ::
        (' ' :: (conjunction.chars ++ (' ' :: '\'' :: (last ++ '\'' :: next)))))))) =
      some (.between (some (String.ofList (trim first))) (some (String.ofList (trim last))),
        next) := by
  have hand : letters? Keyword.andWord
      (conjunction.chars ++ (' ' :: '\'' :: (last ++ '\'' :: next))) =
        some (conjunction.chars, ' ' :: '\'' :: (last ++ '\'' :: next)) :=
    letters?_append (Spelling.sameLetters_chars (by decide) conjunction) _
  rw [between?_false, opens?_path (by decide) p hdate s, Option.bind_some]
  dsimp only
  rw [quotedDate?_append hfirst, Option.bind_some]
  dsimp only
  rw [blanks?_space_spelling (by decide) conjunction, Option.bind_some, hand, Option.bind_some]
  dsimp only
  rw [quotedDate?_append hlast]
  rfl

theorem between?_tokens (b : Between) (next : List Char) :
    between? false (textOf b.tokens ++ next) = some (b.range, next) := by
  have hstart : '\'' ∉ b.start.inner := by
    have hcloses := b.start.closes
    rwa [b.start_mark] at hcloses
  have hstop : '\'' ∉ b.stop.inner := by
    have hcloses := b.stop.closes
    rwa [b.stop_mark] at hcloses
  have htext : textOf b.tokens ++ next = b.field.chars ++ ' ' :: (b.word.chars ++
      (' ' :: '\'' :: (b.start.inner ++ '\'' :: (' ' :: (b.conjunction.chars ++
        (' ' :: '\'' :: (b.stop.inner ++ '\'' :: next))))))) := by
    simp [Between.tokens, Path.token, Spelling.token, Quoted.token, Quoted.text, Piece.text,
      Token.text, b.start_mark, b.stop_mark]
  rw [htext]
  exact between?_quoted b.field b.isDate b.word b.conjunction hstart hstop next

/-! ## Bodies -/

/-- Conjuncts with separators between them, some of which have been taken out. -/
structure Body where
  first : Option Conjunct
  rest : List (Separator × Option Conjunct)

def placeTokens (place : Option Conjunct) : List Token := place.elim [] Conjunct.tokens

namespace Body

def restTokens (rest : List (Separator × Option Conjunct)) : List Token :=
  rest.flatMap fun entry => entry.1.tokens ++ placeTokens entry.2

def tokens (b : Body) : List Token := placeTokens b.first ++ restTokens b.rest

def places (b : Body) : List (Option Conjunct) := b.first :: b.rest.map (·.2)

/-- The body without the conjuncts of one kind. -/
def without {δ : Type} (kind? : Conjunct → Option δ) (b : Body) : Body :=
  ⟨b.first.filter fun c => (kind? c).isNone,
    b.rest.map fun entry => (entry.1, entry.2.filter fun c => (kind? c).isNone)⟩

/-- The conjuncts of one kind, in order. -/
def kinds {δ : Type} (kind? : Conjunct → Option δ) (b : Body) : List δ :=
  b.places.filterMap fun place => place.bind kind?

end Body

/-- The body of a clause. -/
def bodyOf (c : Clause) : Body :=
  ⟨some c.first, c.rest.map fun entry => (entry.1, some entry.2)⟩

theorem tokens_bodyOf (c : Clause) : (bodyOf c).tokens = c.bodyTokens := by
  simp [bodyOf, Body.tokens, Body.restTokens, placeTokens, Clause.bodyTokens, List.flatMap_map]

theorem endsWord_separator (s : Separator) (afterWord : Bool) :
    endsWord afterWord (textOf s.tokens) = false := by
  have hword : ∀ w, endsWord afterWord (textOf [space, .word w, space]) = false := by
    intro w
    have htext : textOf [space, .word w, space] = (' ' :: w) ++ [' '] := by simp [Token.text]
    rw [htext, endsWord_append]
    exact (by decide : isWord ' ' = false)
  cases s with
  | and word => exact hword word.chars
  | or word => exact hword word.chars
  | comma c =>
    obtain ⟨before, after⟩ := c
    have hspace : isWord ' ' = false := by decide
    have hcomma : isWord ',' = false := by decide
    cases before <;> cases after
    · exact hcomma
    · exact hspace
    · exact hcomma
    · exact hspace

/-- At most one element has an answer: none has, or one has and those around it have none. -/
theorem split_of_length_le_one {α β : Type} {f : α → Option β} {l : List α}
    (h : (l.filterMap f).length ≤ 1) :
    (∀ a ∈ l, f a = none) ∨
      ∃ before a b after, l = before ++ a :: after ∧ f a = some b ∧
        (∀ x ∈ before, f x = none) ∧ ∀ x ∈ after, f x = none := by
  induction l with
  | nil => exact Or.inl (by simp)
  | cons a l ih =>
    cases ha : f a with
    | some b =>
      rw [List.filterMap_cons_some ha, List.length_cons] at h
      have hnil : l.filterMap f = [] := List.eq_nil_of_length_eq_zero (by omega)
      exact Or.inr ⟨[], a, b, l, rfl, ha, by simp, List.filterMap_eq_nil_iff.mp hnil⟩
    | none =>
      rw [List.filterMap_cons_none ha] at h
      rcases ih h with hnone | ⟨before, a', b, after, rfl, hb, hbefore, hafter⟩
      · exact Or.inl (List.forall_mem_cons.mpr ⟨ha, hnone⟩)
      · exact Or.inr ⟨a :: before, a', b, after, rfl, hb,
          List.forall_mem_cons.mpr ⟨ha, hbefore⟩, hafter⟩

section Take

variable {δ : Type} {kind? : Conjunct → Option δ} {rangeOf : δ → DateRange} {keyword : List Char}
  {here? : Bool → List Char → Option (DateRange × List Char)}
  (hregular : (directiveSearch keyword here?).Regular keyword)
  (hover : ∀ c, kind? c = none → (directiveSearch keyword here?).Overlooks c.tokens)

include hover

theorem overlooks_place {place : Option Conjunct} (h : place.bind kind? = none) :
    (directiveSearch keyword here?).Overlooks (placeTokens place) := by
  cases place with
  | none => exact fun _ _ _ => trivial
  | some c => exact hover c h

include hregular

theorem overlooks_rest {ts : List Token} (hts : (directiveSearch keyword here?).Overlooks ts)
    {rest : List (Separator × Option Conjunct)}
    (h : ∀ entry ∈ rest, entry.2.bind kind? = none) :
    (directiveSearch keyword here?).Overlooks (ts ++ Body.restTokens rest) :=
  hts.append_flatMap fun entry hentry =>
    ⟨hregular.divides_separator entry.1, overlooks_place hover (h entry hentry),
      fun _ _ => trivial⟩

omit hregular hover in
theorem endsToken_rest (rest : List (Separator × Option Conjunct)) :
    endsToken (textOf (Body.restTokens rest)) = true := by
  cases rest with
  | nil => rfl
  | cons entry rest =>
    have hends := (Separator.separates entry.1).ends
      (textOf (placeTokens entry.2) ++ textOf (Body.restTokens rest))
    simpa [Body.restTokens] using hends

omit hregular hover in
theorem filter_of_bind_eq_none {place : Option Conjunct} (h : place.bind kind? = none) :
    place.filter (fun c => (kind? c).isNone) = place := by
  cases place with
  | none => rfl
  | some c =>
    have hc : kind? c = none := h
    simp [Option.filter, hc]

omit hregular hover in
theorem filter_of_kind {c : Conjunct} {d : δ} (h : kind? c = some d) :
    (some c).filter (fun c => (kind? c).isNone) = none := by
  simp [Option.filter, h]

omit hregular hover in
theorem without_rest {rest : List (Separator × Option Conjunct)}
    (h : ∀ entry ∈ rest, entry.2.bind kind? = none) :
    rest.map (fun entry => (entry.1, entry.2.filter fun c => (kind? c).isNone)) = rest := by
  have hsame : ∀ entry ∈ rest,
      (entry.1, entry.2.filter fun c => (kind? c).isNone) = entry := by
    intro entry hentry
    rw [filter_of_bind_eq_none (h entry hentry)]
  exact (List.map_congr_left hsame).trans (List.map_id rest)

omit hregular hover in
theorem kinds_eq (b : Body) :
    b.kinds kind? =
      (b.first.bind kind?).toList ++ b.rest.filterMap fun entry => entry.2.bind kind? := by
  rw [Body.kinds, Body.places, List.filterMap_cons, List.filterMap_map]
  cases b.first.bind kind? <;> rfl

variable (hnil : ∀ afterWord, here? afterWord [] = none)
  (hread : ∀ c d next, kind? c = some d → endsToken next = true →
    here? false (textOf c.tokens ++ next) = some (rangeOf d, next))

include hnil hread

omit hregular hover hnil in
/-- A directive in the first place is found at once. -/
theorem takeDirective_first {c : Conjunct} {d : δ} (hc : kind? c = some d)
    {rest : List (Separator × Option Conjunct)} (hrest : ∀ entry ∈ rest, entry.2.bind kind? = none)
    (range : Option DateRange) :
    takeDirective here? range (textOf (Body.mk (some c) rest).tokens) =
      (some (rangeOf d), textOf ((Body.mk (some c) rest).without kind?).tokens) := by
  have hhere : here? false (textOf (Body.mk (some c) rest).tokens) =
      some (rangeOf d, textOf (Body.restTokens rest)) := by
    rw [Body.tokens, textOf_append]
    exact hread c d _ hc (endsToken_rest rest)
  rw [takeDirective, find?_of_here hhere, Body.without]
  dsimp only
  rw [without_rest hrest, filter_of_kind hc]
  rfl

omit hread in
theorem takeDirective_none {first : Option Conjunct} (hfirst : first.bind kind? = none)
    {rest : List (Separator × Option Conjunct)} (hrest : ∀ entry ∈ rest, entry.2.bind kind? = none)
    (range : Option DateRange) :
    takeDirective here? range (textOf (Body.mk first rest).tokens) =
      (range, textOf ((Body.mk first rest).without kind?).tokens) := by
  have hover := overlooks_rest hregular hover (overlooks_place hover hfirst) hrest
  have hfind : find? here? false (textOf (Body.mk first rest).tokens) = none :=
    find?_eq_none (hover false [] ⟨rfl, rfl⟩) (hnil _)
  rw [takeDirective, hfind, Body.without]
  dsimp only
  rw [filter_of_bind_eq_none hfirst, without_rest hrest]

omit hnil in
/-- A directive in a later place is found there, since the search overlooks what is before it. -/
theorem takeDirective_later {first : Option Conjunct} (hfirst : first.bind kind? = none)
    {before after : List (Separator × Option Conjunct)}
    (hbefore : ∀ entry ∈ before, entry.2.bind kind? = none)
    (hafter : ∀ entry ∈ after, entry.2.bind kind? = none) (separator : Separator) {c : Conjunct}
    {d : δ} (hc : kind? c = some d) (range : Option DateRange) :
    takeDirective here? range
        (textOf (Body.mk first (before ++ (separator, some c) :: after)).tokens) =
      (some (rangeOf d),
        textOf ((Body.mk first (before ++ (separator, some c) :: after)).without kind?).tokens) := by
  have hover := overlooks_rest hregular hover (overlooks_place hover hfirst) hbefore
  have hdivides := hregular.divides_separator separator
  have hpasses : Passes here? false
      (textOf (placeTokens first ++ Body.restTokens before) ++ textOf separator.tokens)
      (textOf c.tokens ++ textOf (Body.restTokens after)) :=
    passes_append.mpr ⟨hover _ _ (hdivides.fits _), hdivides.passes _ _ trivial⟩
  have hend : endsWord false
      (textOf (placeTokens first ++ Body.restTokens before) ++ textOf separator.tokens) =
        false := by
    rw [endsWord_append]
    exact endsWord_separator separator _
  have htarget : here? false (textOf c.tokens ++ textOf (Body.restTokens after)) =
      some (rangeOf d, textOf (Body.restTokens after)) :=
    hread c d _ hc (endsToken_rest after)
  have hfind := find?_eq_some hpasses (hend.symm ▸ htarget)
  have htext : textOf (Body.mk first (before ++ (separator, some c) :: after)).tokens =
      textOf (placeTokens first ++ Body.restTokens before) ++ textOf separator.tokens ++
        (textOf c.tokens ++ textOf (Body.restTokens after)) := by
    simp [Body.tokens, Body.restTokens, placeTokens]
  rw [htext, takeDirective, hfind, Body.without]
  dsimp only
  rw [filter_of_bind_eq_none hfirst, List.map_append, List.map_cons, without_rest hbefore,
    without_rest hafter, filter_of_kind hc]
  simp [Body.tokens, Body.restTokens, placeTokens]

/-- Taking out a directive answers with it and empties its place. -/
theorem takeDirective_body (b : Body) (h : (b.kinds kind?).length ≤ 1) (range : Option DateRange) :
    takeDirective here? range (textOf b.tokens) =
      (((b.kinds kind?).head?.map rangeOf).or range, textOf (b.without kind?).tokens) := by
  obtain ⟨first, rest⟩ := b
  rw [kinds_eq] at h ⊢
  dsimp only at h ⊢
  -- the directive is in the first place, in none, or in a later one
  cases hfirst : first.bind kind? with
  | some d =>
    obtain ⟨c, rfl, hc⟩ := Option.bind_eq_some_iff.mp hfirst
    rw [hfirst, Option.toList_some, List.singleton_append, List.length_cons] at h
    have hnone : rest.filterMap (fun entry => entry.2.bind kind?) = [] :=
      List.eq_nil_of_length_eq_zero (by omega)
    rw [takeDirective_first hread hc (List.filterMap_eq_nil_iff.mp hnone)]
    rfl
  | none =>
    rw [hfirst, Option.toList_none, List.nil_append] at h
    rcases split_of_length_le_one h with hnone | ⟨before, entry, d, after, rfl, hd, hbefore, hafter⟩
    · rw [takeDirective_none hregular hover hnil hfirst hnone, List.filterMap_eq_nil_iff.mpr hnone]
      rfl
    · obtain ⟨separator, place⟩ := entry
      obtain ⟨c, rfl, hc⟩ := Option.bind_eq_some_iff.mp hd
      have hkinds : (before ++ (separator, some c) :: after).filterMap
          (fun entry => entry.2.bind kind?) = [d] := by
        rw [List.filterMap_append, List.filterMap_eq_nil_iff.mpr hbefore]
        simp [hc, List.filterMap_eq_nil_iff.mpr hafter]
      rw [takeDirective_later hregular hover hread hfirst hbefore hafter separator hc, hkinds]
      rfl

end Take

/-! ## Both directives -/

theorem kinds_bodyOf {δ : Type} (kind? : Conjunct → Option δ) (c : Clause) :
    (bodyOf c).kinds kind? = c.conjuncts.filterMap kind? := by
  simp [Body.kinds, Body.places, bodyOf, Clause.conjuncts, List.filterMap_cons,
    List.filterMap_map, Function.comp_def]

/-- Taking out conjuncts of one kind leaves those of the others. -/
theorem kinds_without {δ ε : Type} {kind? : Conjunct → Option δ} {other? : Conjunct → Option ε}
    (h : ∀ c, (kind? c).isNone = false → other? c = none) (b : Body) :
    (b.without kind?).kinds other? = b.kinds other? := by
  have hplace : ∀ place : Option Conjunct,
      (place.filter fun c => (kind? c).isNone).bind other? = place.bind other? := by
    intro place
    cases place with
    | none => rfl
    | some c =>
      cases hc : (kind? c).isNone with
      | true => simp [Option.filter, hc]
      | false => simp [Option.filter, hc, h c hc]
  simp [Body.kinds, Body.places, Body.without, List.filterMap_cons, List.filterMap_map,
    Function.comp_def, hplace]

theorem overlooks_during?_conjunct (c : Conjunct) (h : c.during? = none) :
    (directiveSearch Keyword.duringWord during?).Overlooks c.tokens := by
  cases c with
  | comparison c => exact regular_during.overlooks_comparison c
  | during d => cases h
  | between b =>
    exact regular_during.overlooks_between (by decide) passes_during?_quoted b

theorem overlooks_between?_conjunct (c : Conjunct) (h : c.between? = none) :
    (directiveSearch Keyword.betweenWord between?).Overlooks c.tokens := by
  cases c with
  | comparison c => exact regular_between.overlooks_comparison c
  | during d => exact regular_between.overlooks_during (by decide) d
  | between b => cases h

/-- The body of a clause without its directives. -/
def remainder (c : Clause) : Body := ((bodyOf c).without Conjunct.during?).without Conjunct.between?

theorem read_during {c : Conjunct} {d : During} {next : List Char} (h : c.during? = some d)
    (hnext : endsToken next = true) :
    during? false (textOf c.tokens ++ next) = some (d.range, next) := by
  cases c with
  | during d' =>
    obtain rfl : d' = d := Option.some.inj h
    exact during?_tokens d' hnext
  | comparison _ => cases h
  | between _ => cases h

theorem read_between {c : Conjunct} {b : Between} (h : c.between? = some b) (next : List Char) :
    between? false (textOf c.tokens ++ next) = some (b.range, next) := by
  cases c with
  | between b' =>
    obtain rfl : b' = b := Option.some.inj h
    exact between?_tokens b' next
  | comparison _ => cases h
  | during _ => cases h

theorem takeDateRange_body (c : Clause) :
    takeDateRange (textOf c.bodyTokens) = (c.range, textOf (remainder c).tokens) := by
  have hkinds : ((bodyOf c).without Conjunct.during?).kinds Conjunct.between? =
      c.conjuncts.filterMap Conjunct.between? := by
    rw [kinds_without, kinds_bodyOf]
    intro c h
    cases c <;> simp [Conjunct.during?, Conjunct.between?] at h ⊢
  have hduring : ((bodyOf c).kinds Conjunct.during?).length ≤ 1 := by
    rw [kinds_bodyOf]
    exact c.during_le_one
  have hbetween : (((bodyOf c).without Conjunct.during?).kinds Conjunct.between?).length ≤ 1 := by
    rw [hkinds]
    exact c.between_le_one
  have hfirst := takeDirective_body regular_during overlooks_during?_conjunct
    (fun afterWord => opener_during.of_opens? afterWord [] rfl) (fun _ _ _ => read_during)
    (bodyOf c) hduring none
  have hsecond := takeDirective_body regular_between overlooks_between?_conjunct
    (fun afterWord => opener_between.of_opens? afterWord [] rfl)
    (fun _ _ next h _ => read_between h next) ((bodyOf c).without Conjunct.during?) hbetween
  rw [kinds_bodyOf, Option.or_none, tokens_bodyOf] at hfirst
  rw [takeDateRange, hfirst]
  dsimp only
  rw [hsecond, hkinds]
  rfl

theorem comparisons_remainder (c : Clause) :
    (remainder c).kinds Conjunct.comparison? = c.conjuncts.filterMap Conjunct.comparison? := by
  rw [remainder, kinds_without, kinds_without, kinds_bodyOf]
  · intro c h
    cases c <;> simp [Conjunct.during?, Conjunct.comparison?] at h ⊢
  · intro c h
    cases c <;> simp [Conjunct.between?, Conjunct.comparison?] at h ⊢

theorem place_remainder (c : Clause) {place : Option Conjunct}
    (h : place ∈ (remainder c).places) : place = none ∨ ∃ d, place = some (.comparison d) := by
  have hfilter : ∃ place' : Option Conjunct,
      place = (place'.filter fun c => (Conjunct.during? c).isNone).filter
        fun c => (Conjunct.between? c).isNone := by
    simp only [Body.places, remainder, Body.without, bodyOf, List.map_map, List.mem_cons,
      List.mem_map] at h
    rcases h with rfl | ⟨entry, -, rfl⟩
    · exact ⟨_, rfl⟩
    · exact ⟨some entry.2, rfl⟩
  obtain ⟨place', rfl⟩ := hfilter
  cases place' with
  | none => exact Or.inl rfl
  | some c =>
    cases c with
    | comparison d => exact Or.inr ⟨d, rfl⟩
    | during d => exact Or.inl rfl
    | between b => exact Or.inl rfl

end AdSearch.Proofs.Query.Extraction
