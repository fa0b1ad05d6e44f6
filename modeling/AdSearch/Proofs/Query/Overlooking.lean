import AdSearch.Proofs.Query.Following

/-!
# What a search overlooks in a draft

Three searches run over the conditions of a query: for the end of the conditions, and for the date
directives of both forms.  They differ in the keyword that a field must not have after it, and in
the texts that may not come after a blank.  Once these are named, one walk over the parts of a
draft serves all three.
-/

namespace AdSearch.Proofs.Query.Overlooking

open AdSearch.Text AdSearch.Query AdSearch.Proofs.Text.Blank AdSearch.Proofs.Text.Scan
  AdSearch.Proofs.Query.Lexing AdSearch.Proofs.Query.Draft AdSearch.Proofs.Query.Layout
  AdSearch.Proofs.Query.Following

/-- A search over the text that tokens show: which texts fit after a part that is overlooked, and
which texts are quiet after a blank. -/
structure Search (α : Type) where
  here? : Bool → List Char → Option α
  shown : Token → List Char
  fits : List Char → Prop
  quiet : List Char → Prop

namespace Search

variable {α : Type}

def text (S : Search α) (ts : List Token) : List Char := ts.flatMap S.shown

/-- The search finds nothing in a part, whatever fits after it. -/
def Overlooks (S : Search α) (ts : List Token) : Prop :=
  ∀ afterWord next, S.fits next → Passes S.here? afterWord (S.text ts) next

/-- A part may come after a blank. -/
def Hushes (S : Search α) (ts : List Token) : Prop :=
  ∀ next, S.fits next → S.quiet (S.text ts ++ next)

/-- A part fits after any other, and is overlooked before a quiet text. -/
structure Divides (S : Search α) (ts : List Token) : Prop where
  fits : ∀ next, S.fits (S.text ts ++ next)
  passes : ∀ afterWord next, S.quiet next → Passes S.here? afterWord (S.text ts) next

variable {S : Search α}

@[simp] theorem text_nil : S.text [] = [] := rfl

@[simp] theorem text_cons (t : Token) (ts : List Token) :
    S.text (t :: ts) = S.shown t ++ S.text ts := rfl

@[simp] theorem text_append (ts us : List Token) : S.text (ts ++ us) = S.text ts ++ S.text us :=
  List.flatMap_append

theorem Overlooks.append {ts sep us : List Token} (hts : S.Overlooks ts) (hsep : S.Divides sep)
    (hus : S.Overlooks us) (hquiet : S.Hushes us) : S.Overlooks (ts ++ (sep ++ us)) := by
  intro afterWord next hnext
  rw [text_append, text_append, passes_append, passes_append, List.append_assoc]
  exact ⟨hts _ _ (hsep.fits _), hsep.passes _ _ (hquiet next hnext), hus _ next hnext⟩

/-- A search that succeeds at blanks only overlooks all other characters. -/
theorem passes_of_no_blank
    (h : ∀ afterWord cs, startsBlank cs = false → S.here? afterWord cs = none)
    {w : List Char} (hw : ∀ c ∈ w, isBlank c = false) (afterWord : Bool) (next : List Char) :
    Passes S.here? afterWord w next := by
  induction w generalizing afterWord with
  | nil => trivial
  | cons c w ih =>
    have hc : startsBlank (c :: (w ++ next)) = false := hw c List.mem_cons_self
    exact ⟨h _ _ hc, ih (fun d hd => hw d (List.mem_cons_of_mem c hd)) _⟩

section List

variable {β : Type} {ts : List Token} {entries : List β} {sep part : β → List Token}

theorem Overlooks.append_flatMap (hts : S.Overlooks ts)
    (h : ∀ entry ∈ entries,
      S.Divides (sep entry) ∧ S.Overlooks (part entry) ∧ S.Hushes (part entry)) :
    S.Overlooks (ts ++ entries.flatMap fun entry => sep entry ++ part entry) := by
  induction entries generalizing ts with
  | nil => simpa using hts
  | cons entry entries ih =>
    obtain ⟨hsep, hpart, hquiet⟩ := h entry List.mem_cons_self
    rw [List.flatMap_cons, ← List.append_assoc]
    exact ih (hts.append hsep hpart hquiet) fun entry' hentry' =>
      h entry' (List.mem_cons_of_mem _ hentry')

theorem fits_flatMap (h : ∀ entry ∈ entries, S.Divides (sep entry)) {next : List Char}
    (hnext : S.fits next) :
    S.fits (S.text (entries.flatMap fun entry => sep entry ++ part entry) ++ next) := by
  cases entries with
  | nil => exact hnext
  | cons entry entries =>
    rw [List.flatMap_cons, text_append, text_append, List.append_assoc, List.append_assoc]
    exact (h entry List.mem_cons_self).fits _

theorem Hushes.append_flatMap (hts : S.Hushes ts) (h : ∀ entry ∈ entries, S.Divides (sep entry)) :
    S.Hushes (ts ++ entries.flatMap fun entry => sep entry ++ part entry) := by
  intro next hnext
  rw [text_append, List.append_assoc]
  exact hts _ (fits_flatMap h hnext)

end List

end Search

/-! ## Searches over conditions -/

/-- The characters that stand for themselves between words. -/
def signs : List Char := ['=', '!', '<', '>', '(', ')', ',']

/-- The keywords that may follow a field or a value. -/
def joints : List (List Char) :=
  [Keyword.notWord, Keyword.inWord, Keyword.likeWord, Keyword.andWord, Keyword.orWord]

/-- A search over conditions, which looks for `stop` after a field. -/
structure Search.Regular {α : Type} (S : Search α) (stop : List Char) : Prop where
  shown_word : ∀ w, S.shown (.word w) = w
  shown_symbol : ∀ c, S.shown (.symbol c) = [c]
  fits_iff : ∀ next, S.fits next ↔ endsToken next = true ∧ Avoids stop next
  clash_joint : ∀ keyword ∈ joints, clash stop keyword = true
  avoids_sign : ∀ c ∈ signs, ∀ next, Avoids stop (' ' :: c :: next)
  of_word : ∀ {w}, (∀ c ∈ w, isPlain c = true) → ∀ afterWord {next}, S.fits next →
    Passes S.here? afterWord w next
  of_keyword : ∀ {keyword} (s : Spelling keyword),
    keyword ∈ [Keyword.duringWord, Keyword.betweenWord] ∨ keyword ∈ joints →
    ∀ afterWord {next}, endsToken next = true → Passes S.here? afterWord s.chars next
  of_sign : ∀ c ∈ signs, ∀ afterWord next, Passes S.here? afterWord [c] next
  of_space : ∀ afterWord {next}, S.quiet next → Passes S.here? afterWord [' '] next
  of_literal : ∀ (l : Literal) afterWord next, Passes S.here? afterWord (S.shown l.token) next
  quiet_word : ∀ {w}, w ≠ [] → (∀ c ∈ w, isPlain c = true) → leadsOut w = false →
    ∀ {next}, S.fits next → S.quiet (w ++ next)
  quiet_keyword : ∀ {keyword} (s : Spelling keyword),
    keyword ∈ [Keyword.duringWord, Keyword.betweenWord] ∨ keyword ∈ joints →
    ∀ {next}, endsToken next = true → S.quiet (s.chars ++ next)
  quiet_sign : ∀ c ∈ signs, ∀ next, S.quiet (c :: next)
  quiet_literal : ∀ (q : Quoted) next, S.quiet (S.shown q.token ++ next)

theorem isKeyword_of_mem_joints {keyword : List Char} (h : keyword ∈ joints) :
    isKeyword keyword = true := by
  have hall : joints.all isKeyword = true := by decide
  exact List.all_eq_true.mp hall keyword h

theorem isSymbol_space : isSymbol ' ' = true := by decide

theorem mem_signs_of_mem_text {op : Operator} (h : op ∈ [Operator.eq, .ne, .gt, .lt, .ge, .le])
    {c : Char} (hc : c ∈ op.text.toList) : c ∈ signs := by
  have hall : [Operator.eq, .ne, .gt, .lt, .ge, .le].all (fun op =>
      op.text.toList.all signs.contains) = true := by decide
  simpa using List.all_eq_true.mp (List.all_eq_true.mp hall op h) c hc

theorem exists_sign_of_text {op : Operator} (h : op ∈ [Operator.eq, .ne, .gt, .lt, .ge, .le]) :
    ∃ c ∈ signs, ∃ w, op.text.toList = c :: w := by
  have hne : [Operator.eq, .ne, .gt, .lt, .ge, .le].all (fun op =>
      !op.text.toList.isEmpty) = true := by decide
  have hop := List.all_eq_true.mp hne op h
  cases hchars : op.text.toList with
  | nil => simp [hchars] at hop
  | cons c w => exact ⟨c, mem_signs_of_mem_text h (by simp [hchars]), w, rfl⟩

namespace Search.Regular

variable {α : Type} {S : Search α} {stop : List Char} (hS : S.Regular stop)

include hS

theorem text_space : S.text [space] = [' '] := by
  rw [text_cons, hS.shown_symbol, text_nil]
  rfl

theorem text_word (w : List Char) : S.text [.word w] = w := by
  rw [text_cons, hS.shown_word, text_nil, List.append_nil]

theorem fits_sign {c : Char} (hc : c ∈ signs) (hsymbol : isSymbol c = true) (next : List Char) :
    S.fits (c :: next) := by
  have hall : signs.all (fun c => !isBlank c) = true := by decide
  have hblank := List.all_eq_true.mp hall c hc
  rw [hS.fits_iff]
  refine ⟨hsymbol, avoids_of_not_startsBlank stop ?_⟩
  simpa [startsBlank] using hblank

theorem fits_space_sign {c : Char} (hc : c ∈ signs) (next : List Char) :
    S.fits (' ' :: c :: next) := by
  rw [hS.fits_iff]
  exact ⟨isSymbol_space, hS.avoids_sign c hc next⟩

theorem fits_space_word {keyword : List Char} (hkeyword : isKeyword keyword = true)
    (hclash : clash stop keyword = true) (s : Spelling keyword) (next : List Char) :
    S.fits (' ' :: (s.chars ++ next)) := by
  rw [hS.fits_iff]
  exact ⟨isSymbol_space, avoids_space_word hkeyword hclash s next⟩

theorem fits_space_keyword {keyword : List Char} (hkeyword : isKeyword keyword = true)
    (hclash : clash stop keyword = true) (s : Spelling keyword) (ts : List Token)
    (next : List Char) : S.fits (' ' :: (S.text (s.token :: ts) ++ next)) := by
  rw [text_cons, Spelling.token, hS.shown_word, List.append_assoc]
  exact hS.fits_space_word hkeyword hclash s _

theorem passes_gap (wanted afterWord : Bool) {next : List Char} (hnext : S.quiet next) :
    Passes S.here? afterWord (S.text (gap wanted)) next := by
  cases wanted with
  | false => trivial
  | true =>
    change Passes S.here? afterWord (S.text [space]) next
    rw [hS.text_space]
    exact hS.of_space afterWord hnext

theorem overlooks_word {w : List Char} (hw : ∀ c ∈ w, isPlain c = true) :
    S.Overlooks [.word w] := by
  intro afterWord next hnext
  rw [hS.text_word]
  exact hS.of_word hw afterWord hnext

theorem hushes_word {w : List Char} (hne : w ≠ []) (hw : ∀ c ∈ w, isPlain c = true)
    (hstays : leadsOut w = false) : S.Hushes [.word w] := by
  intro next hnext
  rw [hS.text_word]
  exact hS.quiet_word hne hw hstays hnext

/-! ### Separators -/

theorem divides_comma (c : Comma) : S.Divides c.tokens := by
  obtain ⟨before, after⟩ := c
  have hcomma : ',' ∈ signs := by simp [signs]
  have htext : S.text (Comma.tokens ⟨before, after⟩) =
      S.text (gap before) ++ ([','] ++ S.text (gap after)) := by
    simp [Comma.tokens, hS.shown_symbol]
  refine ⟨?_, ?_⟩
  · intro next
    rw [htext]
    cases before with
    | false => exact hS.fits_sign hcomma (by decide) _
    | true =>
      change S.fits (S.text [space] ++ ([','] ++ S.text (gap after)) ++ next)
      rw [hS.text_space]
      exact hS.fits_space_sign hcomma _
  · intro afterWord next hnext
    rw [htext, passes_append, passes_append]
    exact ⟨hS.passes_gap before afterWord (hS.quiet_sign ',' hcomma _),
      hS.of_sign ',' hcomma _ _, hS.passes_gap after _ hnext⟩

theorem divides_word {keyword : List Char} (hjoint : keyword ∈ joints) (s : Spelling keyword) :
    S.Divides [space, s.token, space] := by
  have htext : S.text [space, s.token, space] = [' '] ++ (s.chars ++ [' ']) := by
    simp [Spelling.token, hS.shown_symbol, hS.shown_word]
  refine ⟨?_, ?_⟩
  · intro next
    rw [htext, List.append_assoc, List.append_assoc]
    exact hS.fits_space_word (isKeyword_of_mem_joints hjoint) (hS.clash_joint keyword hjoint) s _
  · intro afterWord next hnext
    rw [htext, passes_append, passes_append]
    refine ⟨?_, hS.of_keyword s (Or.inr hjoint) _ rfl, hS.of_space _ hnext⟩
    rw [List.append_assoc]
    exact hS.of_space afterWord (hS.quiet_keyword s (Or.inr hjoint) rfl)

theorem divides_separator (s : Separator) : S.Divides s.tokens := by
  cases s with
  | and word => exact hS.divides_word (by simp [joints]) word
  | or word => exact hS.divides_word (by simp [joints]) word
  | comma c => exact hS.divides_comma c

/-! ### Values -/

theorem overlooks_member (m : Member) : S.Overlooks [m.token] := by
  cases m with
  | bare b => exact hS.overlooks_word b.isPlain
  | quoted l =>
    intro afterWord next _
    change Passes S.here? afterWord (S.text [l.token]) next
    rw [text_cons, text_nil, List.append_nil]
    exact hS.of_literal l afterWord next

theorem hushes_member (m : Member) : S.Hushes [m.token] := by
  cases m with
  | bare b => exact hS.hushes_word b.ne_nil b.isPlain b.stays
  | quoted l =>
    intro next _
    change S.quiet (S.text [l.token] ++ next)
    rw [text_cons, text_nil, List.append_nil]
    exact hS.quiet_literal l.toQuoted next

theorem overlooks_members (ms : Members) : S.Overlooks ms.tokens :=
  (hS.overlooks_member ms.first).append_flatMap fun entry _ =>
    ⟨hS.divides_comma entry.1, hS.overlooks_member entry.2, hS.hushes_member entry.2⟩

theorem hushes_members (ms : Members) : S.Hushes ms.tokens :=
  (hS.hushes_member ms.first).append_flatMap fun entry _ => hS.divides_comma entry.1

/-- Before a closing parenthesis, with or without a blank, a part fits. -/
theorem fits_close (closes : Bool) (next : List Char) :
    S.fits (S.text (gap closes) ++ (')' :: next)) := by
  have hclose : ')' ∈ signs := by simp [signs]
  cases closes with
  | false => exact hS.fits_sign hclose (by decide) next
  | true =>
    change S.fits (S.text [space] ++ (')' :: next))
    rw [hS.text_space]
    exact hS.fits_space_sign hclose next

theorem overlooks_operand (o : Operand) : S.Overlooks o.tokens := by
  cases o with
  | plain ms free continues => exact hS.overlooks_members ms
  | group opens closes ms =>
    intro afterWord next _
    have hopen : '(' ∈ signs := by simp [signs]
    have hclose : ')' ∈ signs := by simp [signs]
    have htext : S.text (Operand.group opens closes ms).tokens =
        ['('] ++ (S.text (gap opens) ++ (S.text ms.tokens ++ (S.text (gap closes) ++ [')']))) := by
      simp [Operand.tokens, hS.shown_symbol]
    have hfits : S.fits (S.text (gap closes) ++ [')'] ++ next) := by
      rw [List.append_assoc]
      exact hS.fits_close closes next
    -- the members are followed by a sign, with or without a blank, so `next` does not matter
    rw [htext, passes_append, passes_append, passes_append, passes_append]
    refine ⟨hS.of_sign '(' hopen _ _, hS.passes_gap opens _ ?_, hS.overlooks_members ms _ _ hfits,
      hS.passes_gap closes _ (hS.quiet_sign ')' hclose _), hS.of_sign ')' hclose _ _⟩
    rw [List.append_assoc]
    exact hS.hushes_members ms _ hfits

theorem hushes_operand (o : Operand) : S.Hushes o.tokens := by
  cases o with
  | plain ms free continues => exact hS.hushes_members ms
  | group opens closes ms =>
    intro next _
    have htext : S.text (Operand.group opens closes ms).tokens =
        '(' :: S.text (gap opens ++ ms.tokens ++ gap closes ++ [.symbol ')']) := by
      simp [Operand.tokens, hS.shown_symbol]
    rw [htext]
    exact hS.quiet_sign '(' (by simp [signs]) _

/-! ### Conjuncts -/

/-- A keyword is overlooked before a blank, whatever quiet part follows. -/
theorem overlooks_keyword_space {keyword : List Char}
    (hkeyword : keyword ∈ [Keyword.duringWord, Keyword.betweenWord] ∨ keyword ∈ joints)
    (s : Spelling keyword) {ts : List Token} (hts : S.Overlooks ts) (hquiet : S.Hushes ts) :
    S.Overlooks (s.token :: space :: ts) := by
  intro afterWord next hnext
  have htext : S.text (s.token :: space :: ts) = s.chars ++ ([' '] ++ S.text ts) := by
    simp [Spelling.token, hS.shown_symbol, hS.shown_word]
  rw [htext, passes_append, passes_append]
  exact ⟨hS.of_keyword s hkeyword _ rfl, hS.of_space _ (hquiet next hnext), hts _ next hnext⟩

theorem hushes_keyword_space {keyword : List Char}
    (hkeyword : keyword ∈ [Keyword.duringWord, Keyword.betweenWord] ∨ keyword ∈ joints)
    (s : Spelling keyword) (ts : List Token) : S.Hushes (s.token :: space :: ts) := by
  intro next _
  have htext : S.text (s.token :: space :: ts) = s.chars ++ (' ' :: S.text ts) := by
    simp [Spelling.token, hS.shown_symbol, hS.shown_word]
  rw [htext, List.append_assoc]
  exact hS.quiet_keyword s hkeyword rfl

theorem passes_signs {w : List Char} (hw : ∀ c ∈ w, c ∈ signs) (afterWord : Bool)
    (next : List Char) : Passes S.here? afterWord w next := by
  induction w generalizing afterWord with
  | nil => trivial
  | cons c w ih =>
    have hsign := hS.of_sign c (hw c List.mem_cons_self) afterWord (w ++ next)
    exact ⟨hsign.1, ih (fun d hd => hw d (List.mem_cons_of_mem c hd)) _⟩

theorem overlooks_operator (o : OperatorText) {ts : List Token} (hts : S.Overlooks ts)
    (hquiet : S.Hushes ts) : S.Overlooks (o.tokens ++ space :: ts) := by
  cases o with
  | symbol op isSymbol =>
    intro afterWord next hnext
    have htext : S.text ((OperatorText.symbol op isSymbol).tokens ++ space :: ts) =
        op.text.toList ++ ([' '] ++ S.text ts) := by
      simp [OperatorText.tokens, hS.shown_symbol, hS.shown_word]
    rw [htext, passes_append, passes_append]
    exact ⟨hS.passes_signs (fun _ => mem_signs_of_mem_text isSymbol) _ _,
      hS.of_space _ (hquiet next hnext), hts _ next hnext⟩
  | isIn member => exact hS.overlooks_keyword_space (by simp [joints]) member hts hquiet
  | notIn negation member =>
    exact hS.overlooks_keyword_space (by simp [joints]) negation
      (hS.overlooks_keyword_space (by simp [joints]) member hts hquiet)
      (hS.hushes_keyword_space (by simp [joints]) member ts)
  | like word => exact hS.overlooks_keyword_space (by simp [joints]) word hts hquiet

theorem hushes_operator (o : OperatorText) (ts : List Token) :
    S.Hushes (o.tokens ++ space :: ts) := by
  cases o with
  | symbol op isSymbol =>
    intro next _
    obtain ⟨c, hc, w, hchars⟩ := exists_sign_of_text isSymbol
    have htext : S.text ((OperatorText.symbol op isSymbol).tokens ++ space :: ts) =
        c :: (w ++ S.text (space :: ts)) := by
      simp [OperatorText.tokens, hS.shown_word, hchars]
    rw [htext]
    exact hS.quiet_sign c hc _
  | isIn member => exact hS.hushes_keyword_space (by simp [joints]) member ts
  | notIn negation member =>
    exact hS.hushes_keyword_space (by simp [joints]) negation (member.token :: space :: ts)
  | like word => exact hS.hushes_keyword_space (by simp [joints]) word ts

/-- An operator fits after a field. -/
theorem fits_operator (o : OperatorText) (next : List Char) :
    S.fits (' ' :: (S.text o.tokens ++ next)) := by
  have hword : ∀ {keyword} (s : Spelling keyword), keyword ∈ joints → ∀ ts,
      S.fits (' ' :: (S.text (s.token :: ts) ++ next)) := by
    intro keyword s hjoint ts
    exact hS.fits_space_keyword (isKeyword_of_mem_joints hjoint) (hS.clash_joint keyword hjoint) s
      ts next
  cases o with
  | symbol op isSymbol =>
    obtain ⟨c, hc, w, hchars⟩ := exists_sign_of_text isSymbol
    rw [OperatorText.tokens, hS.text_word, hchars]
    exact hS.fits_space_sign hc (w ++ next)
  | isIn member => exact hword member (by simp [joints]) []
  | notIn negation member => exact hword negation (by simp [joints]) [space, member.token]
  | like word => exact hword word (by simp [joints]) []

theorem overlooks_field (p : Path) {ts : List Token}
    (hfits : ∀ next, S.fits (' ' :: (S.text ts ++ next))) (hts : S.Overlooks ts)
    (hquiet : S.Hushes ts) : S.Overlooks (p.token :: space :: ts) := by
  intro afterWord next hnext
  have htext : S.text (p.token :: space :: ts) = p.chars ++ ([' '] ++ S.text ts) := by
    simp [Path.token, hS.shown_word, hS.shown_symbol]
  rw [htext, passes_append, passes_append]
  exact ⟨hS.of_word (fun _ => Path.isPlain p) _ (hfits next), hS.of_space _ (hquiet next hnext),
    hts _ next hnext⟩

/-- A field may come after a blank unless it would end the conditions there. -/
theorem hushes_field (p : Path) (hstays : leadsOut p.chars = false) {ts : List Token}
    (hfits : ∀ next, S.fits (' ' :: (S.text ts ++ next))) :
    S.Hushes (p.token :: space :: ts) := by
  intro next _
  have htext : S.text (p.token :: space :: ts) ++ next =
      p.chars ++ ' ' :: (S.text ts ++ next) := by
    simp [Path.token, hS.shown_word, hS.shown_symbol]
  rw [htext]
  exact hS.quiet_word (Path.ne_nil p) (fun _ => Path.isPlain p) hstays (hfits next)

theorem fits_comparison (c : Comparison) (next : List Char) :
    S.fits (' ' :: (S.text (c.operator.tokens ++ space :: c.operand.tokens) ++ next)) := by
  rw [text_append, List.append_assoc]
  exact hS.fits_operator c.operator _

theorem overlooks_comparison (c : Comparison) : S.Overlooks c.tokens := by
  have hrest := hS.overlooks_operator c.operator (hS.overlooks_operand c.operand)
    (hS.hushes_operand c.operand)
  exact hS.overlooks_field c.field (hS.fits_comparison c) hrest
    (hS.hushes_operator c.operator c.operand.tokens)

theorem overlooks_during (hclash : clash stop Keyword.duringWord = true) (d : During) :
    S.Overlooks d.tokens := by
  have hkeyword : S.Overlooks [d.keyword.token] :=
    hS.overlooks_word fun c hc => isPlain_of_isWord (d.keyword.isWord c hc)
  have hquiet : S.Hushes [d.keyword.token] :=
    hS.hushes_word d.keyword.ne_nil (fun c hc => isPlain_of_isWord (d.keyword.isWord c hc)) d.stays
  have hrest := hS.overlooks_keyword_space (by simp) d.word hkeyword hquiet
  exact hS.overlooks_field d.field (hS.fits_space_keyword (by decide) hclash d.word _) hrest
    (hS.hushes_keyword_space (by simp) d.word _)

theorem overlooks_between (hclash : clash stop Keyword.betweenWord = true)
    (hquoted : ∀ (q : Quoted) afterWord next, Passes S.here? afterWord (S.shown q.token) next)
    (b : Between) : S.Overlooks b.tokens := by
  have hdate : ∀ q : Quoted, S.Overlooks [q.token] := by
    intro q afterWord next _
    rw [text_cons, text_nil, List.append_nil]
    exact hquoted q afterWord next
  have hquiet : ∀ q : Quoted, ∀ ts, S.Hushes (q.token :: ts) := by
    intro q ts next _
    rw [text_cons, List.append_assoc]
    exact hS.quiet_literal q _
  have hstop := hS.overlooks_keyword_space (by simp [joints]) b.conjunction (hdate b.stop)
    (hquiet b.stop [])
  have hstart : S.Overlooks (b.start.token :: space :: b.conjunction.token :: space ::
      [b.stop.token]) := by
    intro afterWord next hnext
    have htext : S.text (b.start.token :: space :: b.conjunction.token :: space ::
        [b.stop.token]) = S.shown b.start.token ++ ([' '] ++
          S.text (b.conjunction.token :: space :: [b.stop.token])) := by
      simp [hS.shown_symbol]
    rw [htext, passes_append, passes_append]
    exact ⟨hquoted _ _ _, hS.of_space _ (hS.hushes_keyword_space (by simp [joints]) b.conjunction _
      next hnext), hstop _ next hnext⟩
  have hrest := hS.overlooks_keyword_space (by simp) b.word hstart (hquiet b.start _)
  exact hS.overlooks_field b.field (hS.fits_space_keyword (by decide) hclash b.word _) hrest
    (hS.hushes_keyword_space (by simp) b.word _)

/-- A conjunct may come after a blank if its field may. -/
theorem hushes_conjunct (c : Conjunct) (hfield : leadsOut c.field.chars = false)
    (hduring : ∀ d, c = .during d → clash stop Keyword.duringWord = true)
    (hbetween : ∀ b, c = .between b → clash stop Keyword.betweenWord = true) :
    S.Hushes c.tokens := by
  cases c with
  | comparison c => exact hS.hushes_field c.field hfield (hS.fits_comparison c)
  | during d =>
    exact hS.hushes_field d.field hfield
      (hS.fits_space_keyword (by decide) (hduring d rfl) d.word _)
  | between b =>
    exact hS.hushes_field b.field hfield
      (hS.fits_space_keyword (by decide) (hbetween b rfl) b.word _)

end Search.Regular

end AdSearch.Proofs.Query.Overlooking
