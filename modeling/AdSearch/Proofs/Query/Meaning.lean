import AdSearch.Proofs.Query.RoundTrip

/-!
# What a draft means

A draft means conditions and date ranges, one for each of its conjuncts.  What is read from its text
depends on the order of the conditions only: the date range is found wherever it stands.
-/

namespace AdSearch.Proofs.Query

open AdSearch.Text AdSearch.Proofs.Query.Draft AdSearch.Proofs.Query.Lexing
  AdSearch.Proofs.Query.RoundTrip AdSearch.Proofs.Text.Scan AdSearch.Proofs.Text.Spacing

/-! ## Texts -/

/-- A text spells a draft when it has its words, and after an ending any others.  Runs of blanks
count as single blanks, inside literals too. -/
def Draft.Spells (d : Draft) (s : String) : Prop :=
  ∃ tail, words s.toList = words (textOf d.tokens ++ tail) ∧
    (tail = [] ∨ d.isOpen = true ∧ startsBlank tail = true)

theorem parse_of_spells {d : Draft} {s : String} (h : d.Spells s) :
    AdSearch.Query.parse s = ⟨[], .ok d.query⟩ := by
  obtain ⟨tail, hwords, htail⟩ := h
  obtain ⟨rest, hcollapse, hrest⟩ := exists_of_collapse htail
  rw [AdSearch.Query.parse, collapse_congr hwords, hcollapse, readCollapsed_draft hrest]

/-! ## Meanings -/

/-- What a conjunct means: a condition or a date range. -/
def Draft.Conjunct.meaning : Conjunct → Condition ⊕ DateRange
  | .comparison c => .inl c.condition
  | .during d => .inr d.range
  | .between b => .inr b.range

def Draft.meanings (d : Draft) : List (Condition ⊕ DateRange) :=
  d.clause.elim [] fun c => c.conjuncts.map Conjunct.meaning

/-- The range of a directive with a keyword. -/
def duringRange? : Condition ⊕ DateRange → Option DateRange
  | .inr (.during keyword) => some (.during keyword)
  | _ => none

/-- The range of a directive with two dates. -/
def betweenRange? : Condition ⊕ DateRange → Option DateRange
  | .inr (.between start stop) => some (.between start stop)
  | _ => none

/-- The parts of one form among conjuncts are the meanings of that form. -/
theorem map_filterMap_meaning {β γ : Type} {part? : Conjunct → Option β} {f : β → γ}
    {meant? : Condition ⊕ DateRange → Option γ}
    (h : ∀ c : Conjunct, (part? c).map f = meant? c.meaning) (conjuncts : List Conjunct) :
    (conjuncts.filterMap part?).map f = (conjuncts.map Conjunct.meaning).filterMap meant? := by
  rw [List.map_filterMap, List.filterMap_map]
  exact congrArg (List.filterMap · conjuncts) (funext h)

theorem map_comparison? (c : Conjunct) :
    c.comparison?.map Comparison.condition = c.meaning.getLeft? := by
  cases c <;> rfl

theorem map_during? (c : Conjunct) : c.during?.map During.range = duringRange? c.meaning := by
  cases c <;> rfl

theorem map_between? (c : Conjunct) : c.between?.map Between.range = betweenRange? c.meaning := by
  cases c <;> rfl

namespace Draft

theorem conditions_query (d : Draft) :
    d.query.conditions = d.meanings.filterMap Sum.getLeft? := by
  rw [query, meanings]
  cases d.clause with
  | none => rfl
  | some c => exact map_filterMap_meaning map_comparison? c.conjuncts

theorem dateRange_query (d : Draft) : d.query.dateRange =
    (d.meanings.filterMap betweenRange?).head?.or (d.meanings.filterMap duringRange?).head? := by
  rw [query, meanings]
  cases d.clause with
  | none => rfl
  | some c =>
    dsimp only [Option.elim, Option.bind]
    rw [← map_filterMap_meaning map_between?, ← map_filterMap_meaning map_during?,
      List.head?_map, List.head?_map]
    rfl

theorem length_meanings_le_one (d : Draft) :
    (d.meanings.filterMap betweenRange?).length ≤ 1 ∧
      (d.meanings.filterMap duringRange?).length ≤ 1 := by
  rw [meanings]
  cases d.clause with
  | none => exact ⟨Nat.zero_le 1, Nat.zero_le 1⟩
  | some c =>
    dsimp only [Option.elim]
    rw [← map_filterMap_meaning map_between?, ← map_filterMap_meaning map_during?,
      List.length_map, List.length_map]
    exact ⟨c.between_le_one, c.during_le_one⟩

end Draft

/-! ## Order -/

/-- Two drafts ask for the same in another order: their fields are the same, and so are their
conditions and date ranges. -/
structure Reorders (d d' : Draft) : Prop where
  fields : d.query.selectFields.Perm d'.query.selectFields
  source : d.query.source = d'.query.source
  meanings : d.meanings.Perm d'.meanings

theorem eq_of_perm {α : Type} {xs ys : List α} (h : xs.Perm ys) (hlength : xs.length ≤ 1) :
    xs = ys := by
  match xs, hlength with
  | [], _ => exact h.nil_eq
  | [x], _ => exact h.singleton_eq

theorem Reorders.conditions {d d' : Draft} (h : Reorders d d') :
    d.query.conditions.Perm d'.query.conditions := by
  rw [d.conditions_query, d'.conditions_query]
  exact h.meanings.filterMap _

/-- Since there is at most one range of each form, the order does not count. -/
theorem Reorders.dateRange {d d' : Draft} (h : Reorders d d') :
    d.query.dateRange = d'.query.dateRange := by
  rw [d.dateRange_query, d'.dateRange_query,
    eq_of_perm (h.meanings.filterMap betweenRange?) d.length_meanings_le_one.1,
    eq_of_perm (h.meanings.filterMap duringRange?) d.length_meanings_le_one.2]

end AdSearch.Proofs.Query
