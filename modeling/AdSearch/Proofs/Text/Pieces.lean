import AdSearch.Proofs.Text.Spacing

/-!
# Pieces between marks

A text is cut at a mark and the blanks around the pieces are dropped.  `Adds` describes what a text
does to the pieces when it is put behind another one: its own blanks go to the last piece there, and
the pieces after its first mark are added.
-/

namespace AdSearch.Proofs.Text.Pieces

open AdSearch.Text AdSearch.Proofs.Text.Scan AdSearch.Proofs.Text.Spacing

/-! ## Cutting -/

theorem splitOn_append {mark : Char} {w : List Char} (h : mark ∉ w) {cs piece : List Char}
    {pieces : List (List Char)} (hcs : splitOn mark cs = piece :: pieces) :
    splitOn mark (w ++ cs) = (w ++ piece) :: pieces := by
  induction w with
  | nil => exact hcs
  | cons c w ih =>
    rw [List.mem_cons, not_or] at h
    have hc : ¬(c == mark) = true := by simpa using Ne.symm h.1
    rw [List.cons_append, splitOn, if_neg hc, ih h.2]
    rfl

theorem splitOn_eq_singleton {mark : Char} {cs : List Char} (h : mark ∉ cs) :
    splitOn mark cs = [cs] := by
  have hsplit := splitOn_append h (show splitOn mark [] = [[]] from rfl)
  rwa [List.append_nil] at hsplit

theorem splitOn_mark (mark : Char) (cs : List Char) :
    splitOn mark (mark :: cs) = [] :: splitOn mark cs := by
  rw [splitOn, if_pos (by simp)]

/-- Pieces are parts of the text without the mark. -/
theorem mem_of_mem_splitOn {mark : Char} {cs piece : List Char} (h : piece ∈ splitOn mark cs) :
    mark ∉ piece ∧ piece ⊆ cs := by
  induction cs generalizing piece with
  | nil =>
    rw [splitOn, List.mem_singleton] at h
    simp [h]
  | cons c cs ih =>
    by_cases hc : c = mark
    · rw [hc, splitOn_mark, List.mem_cons] at h
      rcases h with rfl | h
      · simp
      · exact ⟨(ih h).1, List.subset_cons_of_subset c (ih h).2⟩
    · obtain ⟨first, rest, hsplit⟩ := List.exists_cons_of_ne_nil (splitOn_ne_nil mark cs)
      have hsingle : mark ∉ [c] := by simpa using Ne.symm hc
      have hcons := splitOn_append hsingle hsplit
      rw [List.singleton_append, List.singleton_append] at hcons
      rw [hcons, List.mem_cons] at h
      rw [hsplit] at ih
      rcases h with rfl | h
      · obtain ⟨hmark, hsub⟩ := ih List.mem_cons_self
        exact ⟨by simpa using ⟨Ne.symm hc, hmark⟩, List.cons_subset_cons c hsub⟩
      · obtain ⟨hmark, hsub⟩ := ih (List.mem_cons_of_mem first h)
        exact ⟨hmark, List.subset_cons_of_subset c hsub⟩

theorem intercalate_splitOn (mark : Char) (cs : List Char) :
    List.intercalate [mark] (splitOn mark cs) = cs := by
  induction cs with
  | nil => rfl
  | cons c cs ih =>
    obtain ⟨first, rest, hsplit⟩ := List.exists_cons_of_ne_nil (splitOn_ne_nil mark cs)
    by_cases hc : c = mark
    · rw [hc, splitOn_mark, List.intercalate_cons_of_ne_nil (splitOn_ne_nil mark cs), ih]
      rfl
    · have hsingle : mark ∉ [c] := by simpa using Ne.symm hc
      have hcons := splitOn_append hsingle hsplit
      rw [List.singleton_append, List.singleton_append] at hcons
      rw [hcons]
      rw [hsplit] at ih
      cases rest with
      | nil => simpa using ih
      | cons second rest =>
        rw [List.intercalate_cons_of_ne_nil (by simp)] at ih ⊢
        simpa using ih

theorem splitOn_intercalate {mark : Char} {pieces : List (List Char)} (hne : pieces ≠ [])
    (h : ∀ piece ∈ pieces, mark ∉ piece) :
    splitOn mark (List.intercalate [mark] pieces) = pieces := by
  induction pieces with
  | nil => exact absurd rfl hne
  | cons piece pieces ih =>
    rw [List.forall_mem_cons] at h
    cases pieces with
    | nil => rw [List.intercalate_singleton, splitOn_eq_singleton h.1]
    | cons second pieces =>
      have hrest := splitOn_mark mark (List.intercalate [mark] (second :: pieces))
      rw [ih (by simp) h.2] at hrest
      have hsplit := splitOn_append h.1 hrest
      rw [List.append_nil] at hsplit
      rw [List.intercalate_cons_of_ne_nil (by simp), List.append_assoc]
      exact hsplit

/-! ## Trimming -/

theorem trimRight_append {gap : List Char} (h : ∀ c ∈ gap, isBlank c = true) (cs : List Char) :
    trimRight (cs ++ gap) = trimRight cs := by
  have hgap : ∀ c ∈ gap.reverse, isBlank c = true := fun c hc => h c (List.mem_reverse.mp hc)
  rw [trimRight, List.reverse_append, List.dropWhile_append_of_pos hgap, trimRight]

theorem trimRight_prefix (cs : List Char) : trimRight cs <+: cs := by
  have hsuffix : cs.reverse.dropWhile isBlank <:+ cs.reverse := List.dropWhile_suffix isBlank
  rw [← List.reverse_prefix, List.reverse_reverse] at hsuffix
  exact hsuffix

theorem startsBlank_trim (cs : List Char) : startsBlank (trim cs) = false := by
  obtain ⟨rest, hrest⟩ := trimRight_prefix (trimLeft cs)
  have hleft := startsBlank_trimLeft cs
  rw [← hrest] at hleft
  rw [trim]
  cases hright : trimRight (trimLeft cs) with
  | nil => rfl
  | cons c w => rwa [hright] at hleft

theorem startsBlank_reverse_trim (cs : List Char) : startsBlank (trim cs).reverse = false := by
  rw [trim, trimRight, List.reverse_reverse]
  exact startsBlank_trimLeft _

/-- A text stays as it is if there are no blanks at its ends. -/
theorem trim_eq_self {cs : List Char} (hstarts : startsBlank cs = false)
    (hends : startsBlank cs.reverse = false) : trim cs = cs := by
  have hright : trimRight cs = (trimLeft cs.reverse).reverse := rfl
  rw [trim, trimLeft_eq_self hstarts, hright, trimLeft_eq_self hends, List.reverse_reverse]

/-- A trimmed text has no blanks at its ends. -/
theorem trim_trim (cs : List Char) : trim (trim cs) = trim cs :=
  trim_eq_self (startsBlank_trim cs) (startsBlank_reverse_trim cs)

theorem trim_of_blanks {gap : List Char} (h : ∀ c ∈ gap, isBlank c = true) : trim gap = [] := by
  have hleft : trimLeft gap = [] := by
    have htrim := trimLeft_append h []
    rwa [List.append_nil] at htrim
  rw [trim, hleft]
  rfl

theorem startsBlank_of_spaced {w : List Char} (h : spaced true w = some false) (cs : List Char) :
    startsBlank (w ++ cs) = false := by
  cases w with
  | nil => simp [spaced] at h
  | cons c w =>
    rw [spaced] at h
    split at h
    · simp at h
    · rename_i hc
      simpa [startsBlank] using hc

theorem trimRight_of_spaced {w : List Char} (h : spaced true w = some false) :
    trimRight w = w := by
  rcases List.eq_nil_or_concat w with rfl | ⟨init, c, rfl⟩
  · rfl
  rw [List.concat_eq_append, spaced_append] at h
  obtain ⟨flag, -, hlast⟩ := Option.bind_eq_some_iff.mp h
  have hc : ¬isBlank c = true := by
    intro hblank
    rw [spaced, if_pos hblank] at hlast
    split at hlast
    · simp [spaced] at hlast
    · cases hlast
  rw [List.concat_eq_append, trimRight, List.reverse_append, List.reverse_singleton,
    List.singleton_append, List.dropWhile_cons_of_neg hc]
  simp

/-- The blanks around a spaced text are dropped, and no others. -/
theorem trim_of_spaced {w before after : List Char} (h : spaced true w = some false)
    (hbefore : ∀ c ∈ before, isBlank c = true) (hafter : ∀ c ∈ after, isBlank c = true) :
    trim (before ++ (w ++ after)) = w := by
  rw [trim, trimLeft_append hbefore, trimLeft_eq_self (startsBlank_of_spaced h after),
    trimRight_append hafter, trimRight_of_spaced h]

/-! ## Pieces -/

/-- A text adds pieces to a text before it, to the last piece of which it adds blanks only. -/
def Adds (mark : Char) (cs : List Char) (added : List (List Char)) : Prop :=
  ∃ gap pieces, splitOn mark cs = gap :: pieces ∧ (∀ c ∈ gap, isBlank c = true) ∧
    pieces.map trim = added

variable {mark : Char}

theorem adds_nil : Adds mark [] [] := ⟨[], [], rfl, by simp, rfl⟩

/-- A text before one that adds pieces is the first piece. -/
theorem pieces_of_adds {w before cs : List Char} {added : List (List Char)}
    (hw : w = [] ∨ spaced true w = some false) (hmark : mark ∉ w)
    (hbefore : ∀ c ∈ before, isBlank c = true) (hblank : isBlank mark = false)
    (h : Adds mark cs added) :
    (splitOn mark (before ++ (w ++ cs))).map trim = w :: added := by
  obtain ⟨gap, pieces, hsplit, hgap, rfl⟩ := h
  have hbefore' : mark ∉ before := by
    intro hmem
    rw [hbefore mark hmem] at hblank
    cases hblank
  rw [splitOn_append hbefore' (splitOn_append hmark hsplit), List.map_cons]
  rcases hw with rfl | hw
  · have hall : ∀ c ∈ before ++ gap, isBlank c = true := by
      intro c hc
      rcases List.mem_append.mp hc with hc | hc
      · exact hbefore c hc
      · exact hgap c hc
    rw [List.nil_append, trim_of_blanks hall]
  · rw [trim_of_spaced hw hbefore hgap]

/-- A mark adds the pieces of the text after it. -/
theorem adds_mark {gap : List Char} (hgap : ∀ c ∈ gap, isBlank c = true)
    (hblank : isBlank mark = false) (cs : List Char) :
    Adds mark (gap ++ mark :: cs) ((splitOn mark cs).map trim) := by
  have hnot : mark ∉ gap := by
    intro hmem
    rw [hgap mark hmem] at hblank
    cases hblank
  refine ⟨gap, splitOn mark cs, ?_, hgap, rfl⟩
  rw [splitOn_append hnot (splitOn_mark mark cs), List.append_nil]

end AdSearch.Proofs.Text.Pieces
