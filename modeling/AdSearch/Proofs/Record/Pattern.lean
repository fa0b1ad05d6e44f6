import AdSearch.Proofs.Text.Case
import AdSearch.Proofs.Text.Pieces
import AdSearch.Record.Matching
import Mathlib.Data.List.Forall2

/-!
# Patterns

A pattern matches a label in which its pieces occur one after another.  The matcher takes every
piece at the first place where it stands.  No match is lost by this: what is left after the first
place ends in what is left after any other place.
-/

namespace AdSearch.Proofs.Record.Pattern

open AdSearch.Text AdSearch.Proofs.Text.Case AdSearch.Proofs.Text.Pieces

/-! ## Pieces in order -/

/-- A text spells a piece: it has the same letters, each in any case. -/
def Spells (piece spelled : List Char) : Prop :=
  List.Forall₂ (fun p c => sameLetter p c = true) piece spelled

/-- Pieces stand in a text one after another, with any text before, between and after them. -/
inductive InOrder : List (List Char) → List Char → Prop
  | done (rest : List Char) : InOrder [] rest
  | piece {piece spelled rest : List Char} {pieces : List (List Char)} (gap : List Char) :
    Spells piece spelled → InOrder pieces rest →
      InOrder (piece :: pieces) (gap ++ (spelled ++ rest))

variable {piece spelled cs rest : List Char} {pieces : List (List Char)}

theorem inOrder_cons : InOrder (piece :: pieces) cs ↔
    ∃ gap spelled rest, cs = gap ++ (spelled ++ rest) ∧ Spells piece spelled ∧
      InOrder pieces rest := by
  constructor
  · intro h
    cases h with
    | piece gap hspells hrest => exact ⟨gap, _, _, rfl, hspells, hrest⟩
  · rintro ⟨gap, spelled, rest, rfl, hspells, hrest⟩
    exact .piece gap hspells hrest

/-- More text in front does no harm. -/
theorem InOrder.of_suffix (h : InOrder pieces rest) (hsuffix : rest <:+ cs) :
    InOrder pieces cs := by
  obtain ⟨before, rfl⟩ := hsuffix
  cases h with
  | done => exact .done _
  | piece gap hspells hrest =>
    rw [← List.append_assoc]
    exact .piece (before ++ gap) hspells hrest

/-- A piece without letters stands everywhere. -/
theorem inOrder_nil_cons : InOrder ([] :: pieces) cs ↔ InOrder pieces cs := by
  rw [inOrder_cons]
  constructor
  · rintro ⟨gap, spelled, rest, rfl, -, hrest⟩
    apply hrest.of_suffix
    exact (List.suffix_append spelled rest).trans (List.suffix_append gap _)
  · intro h
    exact ⟨[], [], cs, rfl, List.Forall₂.nil, h⟩

theorem inOrder_append_nil_cons (before : List (List Char)) :
    InOrder (before ++ [] :: pieces) cs ↔ InOrder (before ++ pieces) cs := by
  induction before generalizing cs with
  | nil => exact inOrder_nil_cons
  | cons piece before ih => simp only [List.cons_append, inOrder_cons, ih]

/-! ## The matcher -/

theorem afterPiece?_eq_some :
    afterPiece? piece cs = some rest ↔ ∃ spelled, Spells piece spelled ∧ cs = spelled ++ rest := by
  induction piece generalizing cs with
  | nil => simp [afterPiece?, Spells]
  | cons p ps ih =>
    cases cs with
    | nil => simp [afterPiece?, Spells]
    | cons c cs =>
      rw [afterPiece?]
      constructor
      · intro h
        split at h
        · rename_i hletter
          obtain ⟨spelled, hspells, rfl⟩ := ih.mp h
          exact ⟨c :: spelled, List.Forall₂.cons hletter hspells, rfl⟩
        · cases h
      · rintro ⟨spelled, hspells, hcs⟩
        cases hspells with
        | cons hletter hspells =>
          obtain ⟨rfl, rfl⟩ := List.cons.inj hcs
          rw [if_pos hletter]
          exact ih.mpr ⟨_, hspells, rfl⟩

theorem findPiece?_of_afterPiece? (h : afterPiece? piece cs = some rest) :
    findPiece? piece cs = some rest := by
  cases cs with
  | nil => exact h
  | cons c cs => rw [findPiece?, h]

theorem exists_of_findPiece? (h : findPiece? piece cs = some rest) :
    ∃ gap spelled, Spells piece spelled ∧ cs = gap ++ (spelled ++ rest) := by
  induction cs with
  | nil =>
    obtain ⟨spelled, hspells, hcs⟩ := afterPiece?_eq_some.mp h
    exact ⟨[], spelled, hspells, hcs⟩
  | cons c cs ih =>
    rw [findPiece?] at h
    split at h
    · rename_i first hfirst
      obtain rfl := Option.some.inj h
      obtain ⟨spelled, hspells, hcs⟩ := afterPiece?_eq_some.mp hfirst
      exact ⟨[], spelled, hspells, hcs⟩
    · obtain ⟨gap, spelled, hspells, rfl⟩ := ih h
      exact ⟨c :: gap, spelled, hspells, rfl⟩

/-- Where a piece stands, the matcher finds it there or before. -/
theorem findPiece?_of_spells (hspells : Spells piece spelled) (gap rest : List Char) :
    ∃ first, findPiece? piece (gap ++ (spelled ++ rest)) = some first ∧ rest <:+ first := by
  induction gap with
  | nil =>
    have hhere : afterPiece? piece (spelled ++ rest) = some rest :=
      afterPiece?_eq_some.mpr ⟨spelled, hspells, rfl⟩
    exact ⟨rest, findPiece?_of_afterPiece? hhere, List.suffix_rfl⟩
  | cons c gap ih =>
    rw [List.cons_append, findPiece?]
    split
    · rename_i first hfirst
      obtain ⟨spelled', hspells', hcs⟩ := afterPiece?_eq_some.mp hfirst
      have hlength := congrArg List.length hcs
      simp only [List.length_cons, List.length_append, ← hspells.length_eq,
        ← hspells'.length_eq] at hlength
      have hrest : rest <:+ c :: (gap ++ (spelled ++ rest)) := ⟨c :: (gap ++ spelled), by simp⟩
      have hfirst' : first <:+ c :: (gap ++ (spelled ++ rest)) := ⟨spelled', hcs.symm⟩
      exact ⟨first, rfl, List.suffix_of_suffix_length_le hrest hfirst' (by omega)⟩
    · exact ih

/-- The matcher succeeds exactly on the texts in which the pieces stand in order. -/
theorem holdsPieces_iff : holdsPieces pieces cs = true ↔ InOrder pieces cs := by
  induction pieces generalizing cs with
  | nil => exact ⟨fun _ => .done cs, fun _ => rfl⟩
  | cons piece pieces ih =>
    rw [holdsPieces]
    constructor
    · intro h
      split at h
      · rename_i rest hrest
        obtain ⟨gap, spelled, hspells, rfl⟩ := exists_of_findPiece? hrest
        exact .piece gap hspells (ih.mp h)
      · cases h
    · intro h
      cases h with
      | @piece _ spelled rest _ gap hspells hrest =>
        obtain ⟨first, hfirst, hsuffix⟩ := findPiece?_of_spells hspells gap rest
        rw [hfirst]
        exact ih.mpr (hrest.of_suffix hsuffix)

/-! ## Patterns -/

/-- The pieces of a pattern, between its percent signs. -/
def patternPieces (pattern : String) : List (List Char) := splitOn '%' pattern.toList

theorem isLike_iff (pattern label : String) :
    isLike pattern label = true ↔ InOrder (patternPieces pattern) label.toList :=
  holdsPieces_iff

theorem splitOn_append_mark (mark : Char) (xs ys : List Char) :
    splitOn mark (xs ++ mark :: ys) = splitOn mark xs ++ splitOn mark ys := by
  induction xs with
  | nil => exact splitOn_mark mark ys
  | cons c xs ih =>
    by_cases hc : c = mark
    · rw [hc, List.cons_append, splitOn_mark, splitOn_mark, ih, List.cons_append]
    · have hsingle : mark ∉ [c] := by simpa using Ne.symm hc
      obtain ⟨first, pieces, hfirst⟩ := List.exists_cons_of_ne_nil (splitOn_ne_nil mark xs)
      have hcons := splitOn_append hsingle hfirst
      rw [hfirst, List.cons_append] at ih
      have happend := splitOn_append hsingle ih
      rw [List.singleton_append, List.singleton_append] at hcons happend
      rw [List.cons_append, happend, hcons, List.cons_append]

theorem patternPieces_percent (before after : String) :
    patternPieces (before ++ "%" ++ after) = patternPieces before ++ patternPieces after := by
  rw [patternPieces, String.toList_append, String.toList_append, List.append_assoc]
  exact splitOn_append_mark '%' before.toList after.toList

/-- A percent sign does nothing at the start of a pattern, at its end, or beside another one. -/
theorem isLike_percent (label : String) :
    (∀ pattern, isLike ("%" ++ pattern) label = isLike pattern label) ∧
    (∀ pattern, isLike (pattern ++ "%") label = isLike pattern label) ∧
    ∀ before after, isLike (before ++ "%%" ++ after) label =
      isLike (before ++ "%" ++ after) label := by
  refine ⟨fun pattern => ?_, fun pattern => ?_, fun before after => ?_⟩
  · have hpieces := patternPieces_percent "" pattern
    rw [String.empty_append] at hpieces
    rw [Bool.eq_iff_iff, isLike_iff, isLike_iff, hpieces]
    exact inOrder_nil_cons
  · have hpieces := patternPieces_percent pattern ""
    rw [String.append_empty] at hpieces
    rw [Bool.eq_iff_iff, isLike_iff, isLike_iff, hpieces]
    have hdrop : InOrder (patternPieces pattern ++ [[]]) label.toList ↔
        InOrder (patternPieces pattern ++ []) label.toList := inOrder_append_nil_cons _
    rwa [List.append_nil] at hdrop
  · have hsigns : "%%" = "%" ++ "%" := rfl
    have htwice : before ++ "%%" ++ after = before ++ "%" ++ ("" ++ "%" ++ after) := by
      rw [hsigns, String.empty_append, String.append_assoc, String.append_assoc,
        String.append_assoc]
    rw [Bool.eq_iff_iff, isLike_iff, isLike_iff, htwice, patternPieces_percent,
      patternPieces_percent, patternPieces_percent]
    exact inOrder_append_nil_cons (patternPieces before)

/-- The signs that mean something in regular expressions. -/
def expressionSigns : List Char :=
  ['.', '^', '$', '*', '+', '?', '\x7b', '\x7d', '[', ']', '\\', '|', '(', ')']

/-- A sign of regular expressions stands for itself only. -/
theorem sameLetter_expressionSign {sign : Char} (h : sign ∈ expressionSigns) (c : Char) :
    sameLetter sign c = true ↔ c = sign := by
  have hall : expressionSigns.all (fun sign => caseKey sign != Char.ofNat 0 &&
      (casesOf (caseKey sign)).all fun c => c == sign) = true := by decide
  have hsign := List.all_eq_true.mp hall sign h
  rw [Bool.and_eq_true, bne_iff_ne] at hsign
  constructor
  · intro hsame
    rw [sameLetter, beq_iff_eq] at hsame
    exact beq_iff_eq.mp (List.all_eq_true.mp hsign.2 c (mem_casesOf hsign.1 hsame.symm))
  · rintro rfl
    exact beq_self_eq_true _

theorem holds_like {r v : Value} {field label : String} (hat : r.at? field = some v)
    (hlabel : v.label = .ok label) (pattern : String) :
    (Condition.mk field .like pattern).holds r = .ok (isLike pattern label) := by
  simp only [Condition.holds, hat, Operator.holds, hlabel]
  rfl

/-- A pattern asks for its pieces in order, in any letter case, with any text before, between and
after them.  It has an answer for every label; no sign but the percent sign means anything but
itself; and percent signs at the ends of a pattern or beside each other do nothing. -/
theorem like_asks_for_pieces_in_order {r v : Value} {field label : String}
    (hat : r.at? field = some v) (hlabel : v.label = .ok label) :
    (∀ pattern, ∃ b, (Condition.mk field .like pattern).holds r = .ok b ∧
      (b = true ↔ InOrder (patternPieces pattern) label.toList)) ∧
    (∀ sign ∈ expressionSigns, ∀ c, sameLetter sign c = true ↔ c = sign) ∧
    (∀ pattern, (Condition.mk field .like ("%" ++ pattern)).holds r =
      (Condition.mk field .like pattern).holds r) ∧
    (∀ pattern, (Condition.mk field .like (pattern ++ "%")).holds r =
      (Condition.mk field .like pattern).holds r) ∧
    ∀ before after, (Condition.mk field .like (before ++ "%%" ++ after)).holds r =
      (Condition.mk field .like (before ++ "%" ++ after)).holds r := by
  have hverdict := holds_like hat hlabel
  obtain ⟨hstart, hend, hrepeated⟩ := isLike_percent label
  refine ⟨fun pattern => ⟨_, hverdict pattern, isLike_iff pattern label⟩,
    fun sign hsign => sameLetter_expressionSign hsign, fun pattern => ?_, fun pattern => ?_,
    fun before after => ?_⟩
  · rw [hverdict, hverdict, hstart]
  · rw [hverdict, hverdict, hend]
  · rw [hverdict, hverdict, hrepeated]

/-- A campaign whose name has a kelvin sign, a line break and signs of regular expressions. -/
def oddCampaign : Value :=
  .record [("campaign", .record [("name", .text "aab.\u212A\n(x")])]

/-- The pieces may touch and may be in other cases, but must not overlap or change places. -/
theorem like_oddCampaign :
    oddCampaign.at? "campaign.name" = some (.text "aab.\u212A\n(x") ∧
      Value.label (.text "aab.\u212A\n(x") = .ok "aab.\u212A\n(x" ∧
      InOrder (patternPieces "A%AB.k%(X") "aab.\u212A\n(x".toList ∧
      ¬InOrder (patternPieces "aab%ab") "aab.\u212A\n(x".toList := by
  have hat : oddCampaign.at? "campaign.name" = some (.text "aab.\u212A\n(x") := by rfl
  have hlabel : Value.label (.text "aab.\u212A\n(x") = .ok "aab.\u212A\n(x" := by rfl
  obtain ⟨hverdict, -⟩ := like_asks_for_pieces_in_order hat hlabel
  obtain ⟨found, hfound, hinOrder⟩ := hverdict "A%AB.k%(X"
  obtain ⟨missed, hmissed, hoverlap⟩ := hverdict "aab%ab"
  refine ⟨hat, hlabel, hinOrder.mp ?_, fun h => ?_⟩
  · have htrue : (Condition.mk "campaign.name" .like "A%AB.k%(X").holds oddCampaign =
        .ok true := by decide +kernel
    exact Except.ok.inj (hfound.symm.trans htrue)
  · have hfalse : (Condition.mk "campaign.name" .like "aab%ab").holds oddCampaign =
        .ok false := by decide +kernel
    have hwrong := hoverlap.mpr h
    rw [Except.ok.inj (hmissed.symm.trans hfalse)] at hwrong
    cases hwrong

end AdSearch.Proofs.Record.Pattern
