import AdSearch.Proofs.Number.Digits
import AdSearch.Proofs.Page.Token
import Mathlib.Data.List.Induction
import Mathlib.Data.Nat.Digits.Defs
import Mathlib.Tactic.Common

/-!
# Pages at the offset of a token

What a size and a token ask for is settled by themselves: the page at the number that the token
writes, or a complaint about the one or the other.  A token of more digits than an integer may have
to be read is honoured neither way, and a size of more digits than may be written is not complained
about.
-/

namespace AdSearch.Proofs.Page.Offset

open AdSearch.Proofs.Number.Digits AdSearch.Proofs.Outcome AdSearch.Proofs.Page.Token

variable {α : Type} {items : List α} {size : Int} {token : Option String}

/-! ## What is asked for -/

def IsDecimal (c : Char) : Prop := '0' ≤ c ∧ c ≤ '9'

/-- The number that digits write in base ten, leading zeros included. -/
def number (cs : List Char) : Nat := Nat.ofDigits 10 (cs.reverse.map fun c => c.toNat - '0'.toNat)

/-- A token names an offset: no token the start, and digits the number that they write, which is
zero for an empty token. -/
inductive Names : Option String → Nat → Prop
  | start : Names none 0
  | digits {token : String} : (∀ c ∈ token.toList, IsDecimal c) →
    Names (some token) (number token.toList)

/-- A page of `n` items from an offset on. -/
structure Cut (items : List α) (offset n : Nat) (page : Page α) : Prop where
  getElem? : ∀ i, page.items[i]? = if i < n then items[offset + i]? else none
  totalCount : page.totalCount = items.length
  nextToken : page.nextToken =
    if offset + n < items.length then some (toString (offset + n)) else none

/-- A size and a token settle the page at an offset, unless the size is less than one or the token
has a character that is no digit. -/
inductive Settles (items : List α) (size : Int) (token : Option String) :
    Except SearchError (Page α) → Prop
  | page {n offset : Nat} {page : Page α} : size = n → 1 ≤ n → Names token offset →
    Cut items offset n page → Settles items size token (.ok page)
  | size : size < 1 → Settles items size token (.error (.request (.nonPositivePageSize size)))
  | token {t : String} : 1 ≤ size → token = some t → (∃ c ∈ t.toList, ¬IsDecimal c) →
    Settles items size token (.error (.request (.invalidPageToken t)))

/-- The page of a size would start at a token of more digits than an integer that is read may have,
or there is no such page and the size has more digits than may be written.  Either is a failure. -/
inductive TooLong (size : Int) (token : Option String) : Failure → Prop
  | token {t : String} : 1 ≤ size → token = some t → (∀ c ∈ t.toList, IsDecimal c) →
    offsetDigitLimit < t.length → TooLong size token (.integerTooLongToRead t.length)
  | size : size < 1 → 10 ^ Number.digitLimit ≤ size.natAbs →
    TooLong size token .integerTooLongToWrite

/-! ## What is settled is one outcome -/

theorem Names.not_stray {t : String} {offset : Nat} (h : Names (some t) offset) :
    ¬∃ c ∈ t.toList, ¬IsDecimal c := by
  cases h with
  | digits hdigits =>
    rintro ⟨c, hc, hstray⟩
    exact hstray (hdigits c hc)

theorem Names.unique {offset offset' : Nat} (h : Names token offset) (h' : Names token offset') :
    offset = offset' := by
  cases h with
  | start => cases h'; rfl
  | digits => cases h'; rfl

theorem Cut.unique {offset n : Nat} {page page' : Page α} (h : Cut items offset n page)
    (h' : Cut items offset n page') : page = page' := by
  have hitems : page.items = page'.items := by
    apply List.ext_getElem?
    intro i
    rw [h.getElem?, h'.getElem?]
  have htotal := h.totalCount.trans h'.totalCount.symm
  have hnext := h.nextToken.trans h'.nextToken.symm
  cases page
  cases page'
  simp_all

theorem Settles.unique {outcome outcome' : Except SearchError (Page α)}
    (h : Settles items size token outcome) (h' : Settles items size token outcome') :
    outcome = outcome' := by
  cases h with
  | page hsize hpos hnames hcut =>
    cases h' with
    | page hsize' _ hnames' hcut' =>
      obtain rfl := Int.ofNat_inj.mp (hsize.symm.trans hsize')
      obtain rfl := hnames.unique hnames'
      rw [hcut.unique hcut']
    | size hsize' => omega
    | token _ htoken hstray => exact absurd hstray (htoken ▸ hnames).not_stray
  | size hsize =>
    cases h' with
    | page hsize' hpos _ _ => omega
    | size _ => rfl
    | token hsize' _ _ => omega
  | token hsize htoken hstray =>
    cases h' with
    | page _ _ hnames _ => exact absurd hstray (htoken ▸ hnames).not_stray
    | size hsize' => omega
    | token _ htoken' _ => rw [Option.some.inj (htoken.symm.trans htoken')]

/-! ## Reading a token -/

theorem isDigit_iff {c : Char} : c.isDigit = true ↔ IsDecimal c := by
  simp [Char.isDigit, IsDecimal, Char.le_def, UInt32.le_iff_toNat_le]

theorem all_isDigit_iff {cs : List Char} :
    cs.all Char.isDigit = true ↔ ∀ c ∈ cs, IsDecimal c := by
  simp only [List.all_eq_true, isDigit_iff]

theorem foldl_eq_number (cs : List Char) :
    cs.foldl (fun n c => 10 * n + (c.toNat - 48)) 0 = number cs := by
  induction cs using List.reverseRecOn with
  | nil => rfl
  | append_singleton cs c ih =>
    rw [List.foldl_append, ih, number, number, List.reverse_append]
    simp only [List.foldl_cons, List.foldl_nil, List.reverse_singleton, List.singleton_append,
      List.map_cons, Nat.ofDigits_cons]
    exact Nat.add_comm _ _

theorem decodeToken_of_names {offset : Nat} (h : Names token offset)
    (hshort : ∀ t, token = some t → ¬offsetDigitLimit < t.length) :
    decodeToken token = .ok offset := by
  cases h with
  | start => rfl
  | @digits t hdigits =>
    have hall := all_isDigit_iff.mpr hdigits
    have hlength : ¬offsetDigitLimit < t.toList.length := hshort t rfl
    simp only [decodeToken, hall, if_neg hlength, foldl_eq_number]
    split
    · rename_i hempty
      rw [List.isEmpty_iff.mp hempty]
      rfl
    · rfl

theorem decodeToken_of_stray {t : String} (h : ∃ c ∈ t.toList, ¬IsDecimal c) :
    decodeToken (some t) = .error (.request (.invalidPageToken t)) := by
  obtain ⟨c, hc, hstray⟩ := h
  have hempty : ¬t.toList.isEmpty = true := fun hempty => by
    rw [List.isEmpty_iff.mp hempty] at hc
    cases hc
  have hall : ¬t.toList.all Char.isDigit = true := fun hall =>
    hstray (all_isDigit_iff.mp hall c hc)
  simp only [decodeToken, if_neg hempty, hall]
  rfl

theorem decodeToken_of_long {t : String} (hdigits : ∀ c ∈ t.toList, IsDecimal c)
    (hlong : offsetDigitLimit < t.toList.length) :
    decodeToken (some t) = .error (.failure (.integerTooLongToRead t.length)) := by
  have hempty : ¬t.toList.isEmpty = true := fun hempty => by
    rw [List.isEmpty_iff.mp hempty] at hlong
    exact absurd hlong (Nat.not_lt_zero _)
  have hall := all_isDigit_iff.mpr hdigits
  simp only [decodeToken, if_neg hempty, hall, if_pos hlong]
  rfl

/-! ## What is settled and what is answered -/

/-- The page of `n` items from an offset on. -/
def cut (items : List α) (offset n : Nat) : Page α :=
  ⟨(items.drop offset).take n,
    if offset + n < items.length then some (toString (offset + n)) else none, items.length⟩

theorem cut_cut (items : List α) (offset n : Nat) : Cut items offset n (cut items offset n) where
  getElem? i := by rw [cut, List.getElem?_take, List.getElem?_drop]
  totalCount := rfl
  nextToken := rfl

theorem names_or_stray (token : Option String) :
    (∃ offset, Names token offset) ∨ ∃ t, token = some t ∧ ∃ c ∈ t.toList, ¬IsDecimal c := by
  cases token with
  | none => exact Or.inl ⟨0, .start⟩
  | some t =>
    by_cases hstray : ∃ c ∈ t.toList, ¬IsDecimal c
    · exact Or.inr ⟨t, rfl, hstray⟩
    · push Not at hstray
      exact Or.inl ⟨_, .digits hstray⟩

theorem exists_settles (items : List α) (size : Int) (token : Option String) :
    ∃ outcome, Settles items size token outcome := by
  by_cases hsize : size < 1
  · exact ⟨_, .size hsize⟩
  obtain ⟨n, rfl⟩ := Int.eq_ofNat_of_zero_le (a := size) (by omega)
  obtain ⟨offset, hnames⟩ | ⟨t, htoken, hstray⟩ := names_or_stray token
  · exact ⟨_, .page rfl (by omega) hnames (cut_cut items offset n)⟩
  · exact ⟨_, .token (by omega) htoken hstray⟩

/-- The complaint about a size, if the size can be written. -/
theorem ofFault_nonPositivePageSize (size : Int) :
    SearchError.ofFault (.nonPositivePageSize size) =
      if size.natAbs < 10 ^ Number.digitLimit then .request (.nonPositivePageSize size)
      else .failure .integerTooLongToWrite := by
  simp [SearchError.ofFault, RequestFault.integers, isWritable_iff]

/-- Unless the token or the size is too long, what is settled is the answer. -/
theorem settles_paginate (h : ¬∃ f, TooLong size token f) {outcome : Except SearchError (Page α)}
    (hsettles : Settles items size token outcome) : paginate items size token = outcome := by
  cases hsettles with
  | @page n offset page hsize hpos hnames hcut =>
    subst hsize
    have hshort : ∀ t, token = some t → ¬offsetDigitLimit < t.length := by
      rintro t rfl hlong
      cases hnames with
      | digits hdigits => exact h ⟨_, .token (by omega) rfl hdigits hlong⟩
    rw [paginate_of_decode items (by omega) (decodeToken_of_names hnames hshort)]
    exact congrArg Except.ok ((cut_cut items offset n).unique hcut)
  | size hsize =>
    have hshort : size.natAbs < 10 ^ Number.digitLimit := by
      rw [← not_le]
      exact fun hlong => h ⟨_, .size hsize hlong⟩
    rw [paginate, if_pos hsize, ofFault_nonPositivePageSize, if_pos hshort]
  | token hsize htoken hstray =>
    subst htoken
    rw [paginate, if_neg (by omega), decodeToken_of_stray hstray]
    rfl

theorem paginate_of_tooLong (items : List α) {f : Failure} (h : TooLong size token f) :
    paginate items size token = .error (.failure f) := by
  cases h with
  | token hsize htoken hdigits hlong =>
    subst htoken
    rw [paginate, if_neg (by omega), decodeToken_of_long hdigits hlong]
    rfl
  | size hsize hlong =>
    rw [paginate, if_pos hsize, ofFault_nonPositivePageSize, if_neg (not_lt.mpr hlong)]

/-- Neither a page nor a complaint is a failure. -/
theorem Settles.ne_failure {outcome : Except SearchError (Page α)}
    (h : Settles items size token outcome) (f : Failure) : outcome ≠ .error (.failure f) := by
  rintro rfl
  cases h

theorem Settles.reason {e : SearchError} (h : Settles items size token (.error e)) :
    ∃ fault, e = .request fault ∧
      fault.reason = if size < 1 then "INVALID_PAGE_SIZE" else "INVALID_PAGE_TOKEN" := by
  cases h with
  | size hsize => exact ⟨_, rfl, (if_pos hsize).symm⟩
  | token hsize htoken hstray => exact ⟨_, rfl, (if_neg (by omega)).symm⟩

/-- A list, a size and a token settle one outcome, a page or a complaint about the size or the
token.  It is the answer unless the page would start at a token of more digits than a number that is
read may have, or the size is less than one and has more digits than may be written, which are
failures. -/
theorem settled_iff_not_tooLong (items : List α) (size : Int) (token : Option String) :
    ∃ outcome, Settles items size token outcome ∧
      (∀ other, Settles items size token other → other = outcome) ∧
      (∀ e, outcome = .error e → ∃ fault, e = .request fault ∧
        fault.reason = if size < 1 then "INVALID_PAGE_SIZE" else "INVALID_PAGE_TOKEN") ∧
      (paginate items size token = outcome ↔ ¬∃ f, TooLong size token f) ∧
      ∀ f, TooLong size token f → paginate items size token = .error (.failure f) := by
  obtain ⟨outcome, hsettles⟩ := exists_settles items size token
  refine ⟨outcome, hsettles, fun other hother => hother.unique hsettles,
    fun e he => (he ▸ hsettles).reason, ⟨fun hpaginate => ?_, fun h => settles_paginate h hsettles⟩,
    fun f hlong => paginate_of_tooLong items hlong⟩
  rintro ⟨f, hlong⟩
  exact hsettles.ne_failure f (hpaginate.symm.trans (paginate_of_tooLong items hlong))

/-! ## Zeros in front -/

def zeros (k : Nat) : String := String.ofList (List.replicate k '0')

theorem number_zeros_append (k : Nat) (cs : List Char) :
    number (List.replicate k '0' ++ cs) = number cs := by
  rw [number, List.reverse_append, List.reverse_replicate, List.map_append, List.map_replicate]
  exact Nat.ofDigits_append_replicate_zero _

theorem isDecimal_of_mem_zeros {k : Nat} : ∀ c ∈ (zeros k).toList, IsDecimal c := by
  intro c hc
  rw [zeros, String.toList_ofList] at hc
  rw [List.eq_of_mem_replicate hc]
  exact isDigit_iff.mp rfl

theorem names_zeros (k : Nat) : Names (some (zeros k)) 0 := by
  have hnumber : number (zeros k).toList = 0 := by
    rw [zeros, String.toList_ofList, ← List.append_nil (List.replicate k '0'),
      number_zeros_append]
    rfl
  exact hnumber ▸ Names.digits isDecimal_of_mem_zeros

theorem length_zeros (k : Nat) : (zeros k).length = k := by
  rw [zeros, String.length_ofList, List.length_replicate]

/-- One zero too many, although the zeros name the start of the list. -/
theorem zeros_not_answered :
    Settles [0, 1, 2] 1 (some (zeros 4301)) (.ok ⟨[0], some "1", 3⟩) ∧
      paginate [0, 1, 2] 1 (some (zeros 4301)) =
        .error (.failure (.integerTooLongToRead 4301)) := by
  have hlong : TooLong 1 (some (zeros 4301)) (.integerTooLongToRead (zeros 4301).length) := by
    refine .token (Int.le_refl 1) rfl isDecimal_of_mem_zeros ?_
    rw [length_zeros]
    decide
  have hfailure := paginate_of_tooLong [0, 1, 2] hlong
  rw [length_zeros] at hfailure
  exact ⟨.page rfl (Nat.le_refl 1) (names_zeros 4301) (cut_cut [0, 1, 2] 0 1), hfailure⟩

end AdSearch.Proofs.Page.Offset
