import AdSearch.Proofs.Text.Blank
import AdSearch.Query.Split

/-!
# Tokens read back

The text of a list of tokens gives the tokens again if every token can stand before the text that
follows it.  Only words need this condition, since a word goes on as long as it can.
-/

namespace AdSearch.Proofs.Query.Lexing

open AdSearch.Text AdSearch.Query AdSearch.Proofs.Text.Blank

/-- The text of tokens. -/
def textOf (ts : List Token) : List Char := ts.flatMap Token.text

/-- Whether no word can go on here: at the end of the text, or before a symbol. -/
def endsToken : List Char → Bool
  | [] => true
  | c :: _ => isSymbol c

/-- A character that a word is made of. -/
def isPlain (c : Char) : Bool := !isMark c && !isSymbol c

/-- A token that can be read where `next` follows. -/
def Standing : Token → List Char → Prop
  | .literal text, _ =>
    ∃ mark inner, text = (Piece.literal mark inner).text ∧ isMark mark = true ∧ mark ∉ inner
  | .symbol c, _ => isSymbol c = true
  | .stray, _ => False
  | .word w, next => w ≠ [] ∧ (∀ c ∈ w, isPlain c = true) ∧ endsToken next = true

/-- Tokens that can be read one after another where `next` follows. -/
def AllStanding : List Token → List Char → Prop
  | [], _ => True
  | t :: ts, next => Standing t (textOf ts ++ next) ∧ AllStanding ts next

@[simp] theorem textOf_nil : textOf [] = [] := rfl

@[simp] theorem textOf_cons (t : Token) (ts : List Token) :
    textOf (t :: ts) = t.text ++ textOf ts := rfl

@[simp] theorem textOf_append (ts us : List Token) : textOf (ts ++ us) = textOf ts ++ textOf us :=
  List.flatMap_append

theorem allStanding_append {ts us : List Token} {next : List Char} :
    AllStanding (ts ++ us) next ↔ AllStanding ts (textOf us ++ next) ∧ AllStanding us next := by
  induction ts with
  | nil => simp [AllStanding]
  | cons t ts ih =>
    simp only [List.cons_append, AllStanding, textOf_append, List.append_assoc, ih, and_assoc]

theorem allStanding_of_forall {ts : List Token} (h : ∀ t ∈ ts, ∀ next, Standing t next)
    (next : List Char) : AllStanding ts next := by
  induction ts with
  | nil => trivial
  | cons t ts ih =>
    exact ⟨h t List.mem_cons_self _, ih fun t' ht' => h t' (List.mem_cons_of_mem t ht')⟩

/-! ## Marks and symbols -/

theorem eq_of_isMark {c : Char} (h : isMark c = true) : c = '\'' ∨ c = '"' := by
  simpa [isMark] using h

theorem isMark_of_isSymbol {c : Char} (h : isSymbol c = true) : isMark c = false := by
  cases hmark : isMark c with
  | false => rfl
  | true =>
    rcases eq_of_isMark hmark with rfl | rfl
    · exact absurd h (by decide)
    · exact absurd h (by decide)

theorem isWord_of_isSymbol {c : Char} (h : isSymbol c = true) : isWord c = false := by
  simp only [isSymbol, Bool.or_eq_true, beq_iff_eq] at h
  rcases h with ((rfl | rfl) | rfl) | hblank
  · decide
  · decide
  · decide
  · exact isWord_of_isBlank hblank

theorem isWord_of_isMark {c : Char} (h : isMark c = true) : isWord c = false := by
  rcases eq_of_isMark h with rfl | rfl <;> decide

theorem isPlain_of_isWord {c : Char} (h : isWord c = true) : isPlain c = true := by
  cases hmark : isMark c with
  | true => rw [isWord_of_isMark hmark] at h; cases h
  | false =>
    cases hsymbol : isSymbol c with
    | true => rw [isWord_of_isSymbol hsymbol] at h; cases h
    | false => simp [isPlain, hmark, hsymbol]

theorem isBlank_of_isPlain {c : Char} (h : isPlain c = true) : isBlank c = false := by
  cases hblank : isBlank c with
  | false => rfl
  | true => simp [isPlain, isSymbol, hblank] at h

theorem isMark_of_isPlain {c : Char} (h : isPlain c = true) : isMark c = false := by
  simp only [isPlain, Bool.and_eq_true, Bool.not_eq_true'] at h
  exact h.1

theorem startsWord_of_endsToken {cs : List Char} (h : endsToken cs = true) :
    startsWord cs = false := by
  cases cs with
  | nil => rfl
  | cons c cs => exact isWord_of_isSymbol h

/-! ## Pieces -/

theorem pieces_cons {c : Char} (h : isMark c = false) (cs : List Char) :
    pieces (c :: cs) = .plain c :: pieces cs := by
  simp [pieces, piecesFrom, h]

theorem pieces_append {w : List Char} (h : ∀ c ∈ w, isMark c = false) (cs : List Char) :
    pieces (w ++ cs) = w.map Piece.plain ++ pieces cs := by
  induction w with
  | nil => rfl
  | cons c w ih =>
    rw [List.cons_append, pieces_cons (h c List.mem_cons_self),
      ih fun d hd => h d (List.mem_cons_of_mem c hd)]
    rfl

theorem piecesFrom_mark {mark : Char} {inner : List Char} (h : mark ∉ inner) (cs : List Char) :
    piecesFrom (some mark) (inner ++ mark :: cs) = .literal mark inner :: pieces cs := by
  induction inner with
  | nil => simp [piecesFrom, pieces]
  | cons c inner ih =>
    rw [List.mem_cons, not_or] at h
    have hc : ¬c = mark := fun heq => h.1 heq.symm
    rw [List.cons_append, piecesFrom, if_neg (by simpa using hc), ih h.2, consInner]

theorem pieces_literal {mark : Char} {inner : List Char} (hmark : isMark mark = true)
    (h : mark ∉ inner) (cs : List Char) :
    pieces ((Piece.literal mark inner).text ++ cs) = .literal mark inner :: pieces cs := by
  have hopens : (isMark mark && (inner ++ mark :: cs).contains mark) = true := by simp [hmark]
  have htext : (Piece.literal mark inner).text ++ cs = mark :: (inner ++ mark :: cs) := by
    simp [Piece.text]
  rw [htext, pieces, piecesFrom, if_pos hopens, piecesFrom_mark h]

/-! ## Tokens -/

theorem tokens_symbol {c : Char} (h : isSymbol c = true) (cs : List Char) :
    tokens (c :: cs) = .symbol c :: tokens cs := by
  have hmark : ¬isMark c = true := by simp [isMark_of_isSymbol h]
  rw [tokens, pieces_cons (isMark_of_isSymbol h), tokensOf, if_neg hmark, if_pos h, tokens]

/-- No word comes first where a word has ended. -/
theorem consWord_of_endsToken {cs : List Char} (h : endsToken cs = true) (c : Char) :
    consWord c (tokens cs) = .word [c] :: tokens cs := by
  cases cs with
  | nil => rfl
  | cons d cs => rw [tokens_symbol h]; rfl

theorem tokens_word {w : List Char} (hne : w ≠ []) (hw : ∀ c ∈ w, isPlain c = true)
    {cs : List Char} (hcs : endsToken cs = true) : tokens (w ++ cs) = .word w :: tokens cs := by
  induction w with
  | nil => exact absurd rfl hne
  | cons c w ih =>
    have hc := hw c List.mem_cons_self
    simp only [isPlain, Bool.and_eq_true, Bool.not_eq_true'] at hc
    have hstep : tokens (c :: (w ++ cs)) = consWord c (tokens (w ++ cs)) := by
      rw [tokens, pieces_cons hc.1, tokensOf, if_neg (by simp [hc.1]), if_neg (by simp [hc.2]),
        tokens]
    rw [List.cons_append, hstep]
    cases w with
    | nil => exact consWord_of_endsToken hcs c
    | cons d w =>
      rw [ih (by simp) fun e he => hw e (List.mem_cons_of_mem c he)]
      rfl

theorem tokens_of_standing {t : Token} {cs : List Char} (h : Standing t cs) :
    tokens (t.text ++ cs) = t :: tokens cs := by
  cases t with
  | literal text =>
    obtain ⟨mark, inner, rfl, hmark, hinner⟩ := h
    rw [tokens, Token.text, pieces_literal hmark hinner, tokensOf, tokens]
  | symbol c => exact tokens_symbol h cs
  | stray => exact absurd h id
  | word w => exact tokens_word h.1 h.2.1 h.2.2

/-- The text of standing tokens gives the tokens again. -/
theorem tokens_of_allStanding {ts : List Token} {cs : List Char} (h : AllStanding ts cs) :
    tokens (textOf ts ++ cs) = ts ++ tokens cs := by
  induction ts with
  | nil => rfl
  | cons t ts ih =>
    rw [textOf_cons, List.append_assoc, tokens_of_standing h.1, ih h.2, List.cons_append]

/-! ## Masks -/

/-- The text of a token with its quoted characters replaced. -/
def maskOf : Token → List Char
  | .literal text => List.replicate text.length '_'
  | t => t.text

/-- The text of tokens with the quoted characters replaced. -/
def masked (ts : List Token) : List Char := ts.flatMap maskOf

@[simp] theorem masked_cons (t : Token) (ts : List Token) :
    masked (t :: ts) = maskOf t ++ masked ts := rfl

theorem length_masked (ts : List Token) : (masked ts).length = (textOf ts).length := by
  induction ts with
  | nil => rfl
  | cons t ts ih => cases t <;> simp [maskOf, Token.text, ih]

theorem mask_append {w : List Char} (h : ∀ c ∈ w, isMark c = false) (cs : List Char) :
    mask (w ++ cs) = w ++ mask cs := by
  rw [mask, pieces_append h, List.flatMap_append, mask]
  congr 1
  induction w with
  | nil => rfl
  | cons c w ih =>
    rw [List.map_cons, List.flatMap_cons, ih fun d hd => h d (List.mem_cons_of_mem c hd)]
    rfl

theorem mask_of_standing {t : Token} {cs : List Char} (h : Standing t cs) :
    mask (t.text ++ cs) = maskOf t ++ mask cs := by
  cases t with
  | literal text =>
    obtain ⟨mark, inner, rfl, hmark, hinner⟩ := h
    rw [mask, Token.text, pieces_literal hmark hinner, List.flatMap_cons, mask, maskOf]
    simp [Piece.text]
  | symbol c =>
    have hc : ∀ d ∈ [c], isMark d = false := by
      intro d hd
      rw [List.mem_singleton.mp hd]
      exact isMark_of_isSymbol h
    exact mask_append hc cs
  | stray => exact absurd h id
  | word w => exact mask_append (fun c hc => isMark_of_isPlain (h.2.1 c hc)) cs

theorem mask_of_allStanding {ts : List Token} {cs : List Char} (h : AllStanding ts cs) :
    mask (textOf ts ++ cs) = masked ts ++ mask cs := by
  induction ts with
  | nil => rfl
  | cons t ts ih =>
    rw [textOf_cons, List.append_assoc, mask_of_standing h.1, ih h.2, masked_cons,
      List.append_assoc]

end AdSearch.Proofs.Query.Lexing
