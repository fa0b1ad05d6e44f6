import AdSearch.Record.Projection
import Mathlib.Data.List.Infix
import Mathlib.Tactic.Common

/-!
# What a projected record holds

A projection writes the selected paths into one growing mapping, one after another.  `get?_assign`
says what one write does to every other path; the invariant of the loop, `Tracks`, relates the
mapping so far to the record, and the order of the writes drops out of it.
-/

namespace AdSearch.Proofs.Record.Projection

open AdSearch.Value

/-! ## One write -/

/-- The fields of the mapping at a key; there are none where there is no mapping. -/
def fieldsUnder (key : String) (fields : List (String × Value)) : List (String × Value) :=
  match Keyed.get? key fields with
  | some (.record inner) => inner
  | _ => []

theorem assign_cons {key : String} {path : List String} (hpath : path ≠ []) (v : Value)
    (fields : List (String × Value)) :
    assign (key :: path) v fields =
      Keyed.put key (.record (assign path v (fieldsUnder key fields))) fields := by
  cases path with
  | nil => exact absurd rfl hpath
  | cons key' path => rfl

theorem get?_cons_put_self (key : String) (path : List String) (v : Value)
    (fields : List (String × Value)) :
    get? (key :: path) (.record (Keyed.put key v fields)) = get? path v := by
  rw [get?_cons_record, Keyed.get?_put_self]
  rfl

theorem get?_cons_put_of_ne {key other : String} (h : other ≠ key) (path : List String)
    (v : Value) (fields : List (String × Value)) :
    get? (other :: path) (.record (Keyed.put key v fields)) =
      get? (other :: path) (.record fields) := by
  rw [get?_cons_record, get?_cons_record, Keyed.get?_put_of_ne h]

/-- Behind a key, a mapping and the fields under that key show the same paths. -/
theorem get?_fieldsUnder (key : String) {path : List String} (hpath : path ≠ [])
    (fields : List (String × Value)) :
    get? path (.record (fieldsUnder key fields)) = get? (key :: path) (.record fields) := by
  obtain ⟨next, path, rfl⟩ := List.exists_cons_of_ne_nil hpath
  rw [get?_cons_record key]
  unfold fieldsUnder
  cases hfound : Keyed.get? key fields with
  | none => rfl
  | some found => cases found <;> rfl

theorem get?_assign_append {p : List String} (hp : p ≠ []) (q : List String) (v : Value)
    (fields : List (String × Value)) :
    get? (p ++ q) (.record (assign p v fields)) = get? q v := by
  induction p generalizing fields with
  | nil => exact absurd rfl hp
  | cons key path ih =>
    by_cases hpath : path = []
    · subst hpath
      exact get?_cons_put_self key q v fields
    · rw [assign_cons hpath, List.cons_append, get?_cons_put_self]
      exact ih hpath _

theorem get?_assign_inside {q s : List String} (hq : q ≠ []) (hs : s ≠ []) (v : Value)
    (fields : List (String × Value)) :
    ∃ inner, get? q (.record (assign (q ++ s) v fields)) = some (.record inner) := by
  induction q generalizing fields with
  | nil => exact absurd rfl hq
  | cons key path ih =>
    rw [List.cons_append, assign_cons (by simp [hs]), get?_cons_put_self]
    by_cases hpath : path = []
    · subst hpath
      exact ⟨_, get?_nil _⟩
    · exact ih hpath _

/-- A write is seen only on its own path: at places that lie neither on it nor behind it, the
mapping is as before. -/
theorem get?_assign_apart {p q : List String} (hpq : ¬p <+: q) (hqp : ¬q <+: p) (v : Value)
    (fields : List (String × Value)) :
    get? q (.record (assign p v fields)) = get? q (.record fields) := by
  induction p generalizing q fields with
  | nil => exact absurd (List.nil_prefix) hpq
  | cons key path ih =>
    cases q with
    | nil => exact absurd (List.nil_prefix) hqp
    | cons other rest =>
      by_cases hkey : other = key
      · subst hkey
        rw [List.cons_prefix_cons] at hpq hqp
        have hpath : path ≠ [] := by
          rintro rfl
          exact hpq ⟨rfl, List.nil_prefix⟩
        have hrest : rest ≠ [] := by
          rintro rfl
          exact hqp ⟨rfl, List.nil_prefix⟩
        rw [assign_cons hpath, get?_cons_put_self,
          ih (fun h => hpq ⟨rfl, h⟩) (fun h => hqp ⟨rfl, h⟩), get?_fieldsUnder other hrest]
      · by_cases hpath : path = []
        · subst hpath
          exact get?_cons_put_of_ne hkey rest v fields
        · rw [assign_cons hpath, get?_cons_put_of_ne hkey]

/-- Writing what a path already leads to changes nothing. -/
theorem assign_eq_self {p : List String} (hp : p ≠ []) {v : Value}
    {fields : List (String × Value)} (h : get? p (.record fields) = some v) :
    assign p v fields = fields := by
  induction p generalizing fields with
  | nil => exact absurd rfl hp
  | cons key path ih =>
    rw [get?_cons_record, Option.bind_eq_some_iff] at h
    obtain ⟨found, hfound, hv⟩ := h
    by_cases hpath : path = []
    · subst hpath
      rw [get?_nil, Option.some.injEq] at hv
      subst hv
      exact Keyed.put_eq_self hfound
    · obtain ⟨next, rest, rfl⟩ := List.exists_cons_of_ne_nil hpath
      cases found with
      | record inner =>
        have hinner : fieldsUnder key fields = inner := by simp [fieldsUnder, hfound]
        rw [assign_cons hpath, hinner, ih hpath hv]
        exact Keyed.put_eq_self hfound
      | _ => simp [get?] at hv

/-! ## All writes -/

/-- Some selected path leads to a place, or to a value around it. -/
def Covers (paths : List String) (q : List String) : Prop :=
  ∃ p ∈ paths, segments p <+: q

/-- A place lies on the way to the end of some selected path that leads somewhere. -/
def LeadsThrough (r : Value) (paths : List String) (q : List String) : Prop :=
  ∃ p ∈ paths, (r.at? p).isSome ∧ q <+: segments p

/-- How a mapping relates to a record after the selected paths are copied: it agrees with the
record behind the paths, has mappings along those that lead somewhere, and nothing else. -/
structure Tracks (r : Value) (paths : List String) (fields : List (String × Value)) : Prop where
  covered : ∀ q, q ≠ [] → Covers paths q → get? q (.record fields) = get? q r
  onWay : ∀ q, q ≠ [] → ¬Covers paths q → LeadsThrough r paths q →
    ∃ inner, get? q (.record fields) = some (.record inner)
  nowhere : ∀ q, q ≠ [] → ¬Covers paths q → ¬LeadsThrough r paths q →
    get? q (.record fields) = none

theorem segments_ne_nil (path : String) : segments path ≠ [] := by
  simpa [segments] using Text.splitOn_ne_nil '.' path.toList

theorem covers_concat {paths : List String} {p : String} {q : List String} :
    Covers (paths ++ [p]) q ↔ Covers paths q ∨ segments p <+: q := by
  simp [Covers, or_and_right, exists_or]

theorem leadsThrough_concat {r : Value} {paths : List String} {p : String} {q : List String} :
    LeadsThrough r (paths ++ [p]) q ↔
      LeadsThrough r paths q ∨ ((r.at? p).isSome ∧ q <+: segments p) := by
  simp [LeadsThrough, or_and_right, exists_or]

theorem Tracks.empty (r : Value) : Tracks r [] [] where
  covered := by simp [Covers]
  onWay := by simp [LeadsThrough]
  nowhere q hq _ _ := by
    obtain ⟨key, path, rfl⟩ := List.exists_cons_of_ne_nil hq
    rfl

/-- A path that leads nowhere leaves no trace. -/
theorem Tracks.concat_of_none {r : Value} {paths : List String} {fields : List (String × Value)}
    (h : Tracks r paths fields) {p : String} (hp : r.at? p = none) :
    Tracks r (paths ++ [p]) fields where
  covered q hq hc := by
    rcases covers_concat.mp hc with hc | hpq
    · exact h.covered q hq hc
    · obtain ⟨s, rfl⟩ := hpq
      have hr : get? (segments p ++ s) r = none := by
        rw [get?_append]
        exact congrArg (·.bind (get? s)) hp
      by_cases hc' : Covers paths (segments p ++ s)
      · exact h.covered _ hq hc'
      · rw [hr]
        refine h.nowhere _ hq hc' ?_
        -- a path that goes through the end of `p` would make `p` lead somewhere
        rintro ⟨p', -, hp', t, ht⟩
        rw [at?, ← ht, get?_append, hr] at hp'
        simp at hp'
  onWay q hq hc hl := by
    rw [covers_concat, not_or] at hc
    rw [leadsThrough_concat, hp] at hl
    exact h.onWay q hq hc.1 (by simpa using hl)
  nowhere q hq hc hl := by
    rw [covers_concat, not_or] at hc
    rw [leadsThrough_concat, not_or] at hl
    exact h.nowhere q hq hc.1 hl.1

/-- Writing the value at the end of a path keeps the relation, whatever was written before. -/
theorem Tracks.concat_of_some {r : Value} {paths : List String} {fields : List (String × Value)}
    (h : Tracks r paths fields) {p : String} {v : Value} (hp : r.at? p = some v) :
    Tracks r (paths ++ [p]) (assign (segments p) v fields) where
  covered q hq hc := by
    by_cases hpq : segments p <+: q
    · obtain ⟨s, rfl⟩ := hpq
      have hr : get? (segments p) r = some v := hp
      rw [get?_assign_append (segments_ne_nil p), get?_append, hr]
      rfl
    · have hc' : Covers paths q := (covers_concat.mp hc).resolve_right hpq
      by_cases hqp : q <+: segments p
      · -- a value around the end of `p` was copied whole, so `p` is already there
        obtain ⟨p', hp', hpre⟩ := hc'
        have hthere : get? (segments p) (.record fields) = some v :=
          (h.covered _ (segments_ne_nil p) ⟨p', hp', hpre.trans hqp⟩).trans hp
        rw [assign_eq_self (segments_ne_nil p) hthere]
        exact h.covered q hq ⟨p', hp', hpre⟩
      · rw [get?_assign_apart hpq hqp]
        exact h.covered q hq hc'
  onWay q hq hc hl := by
    rw [covers_concat, not_or] at hc
    by_cases hqp : q <+: segments p
    · obtain ⟨s, hs⟩ := hqp
      have hne : s ≠ [] := by
        rintro rfl
        exact hc.2 ⟨[], by simpa using hs.symm⟩
      rw [← hs]
      exact get?_assign_inside hq hne v fields
    · rw [get?_assign_apart hc.2 hqp]
      exact h.onWay q hq hc.1 ((leadsThrough_concat.mp hl).resolve_right fun hp => hqp hp.2)
  nowhere q hq hc hl := by
    rw [covers_concat, not_or] at hc
    rw [leadsThrough_concat, not_or] at hl
    have hqp : ¬q <+: segments p := fun hqp => hl.2 ⟨by simp [hp], hqp⟩
    rw [get?_assign_apart hc.2 hqp]
    exact h.nowhere q hq hc.1 hl.1

/-- The fields of a projected record. -/
def projectedFields (r : Value) (paths : List String) : List (String × Value) :=
  paths.foldl (fun fields path => copyPath r path fields) []

theorem tracks_projectedFields (r : Value) (paths : List String) :
    Tracks r paths (projectedFields r paths) := by
  induction paths using List.reverseRecOn with
  | nil => exact Tracks.empty r
  | append_singleton paths p ih =>
    have hstep : projectedFields r (paths ++ [p]) = copyPath r p (projectedFields r paths) := by
      simp [projectedFields]
    rw [hstep]
    unfold copyPath
    cases hp : r.at? p with
    | none => exact ih.concat_of_none hp
    | some v => exact ih.concat_of_some hp

/-! ## Keys -/

theorem mem_keys_iff {key : String} {fields : List (String × Value)} :
    key ∈ Keyed.keys fields ↔ (Keyed.get? key fields).isSome := by
  induction fields with
  | nil => simp [Keyed.keys, Keyed.get?]
  | cons entry rest ih =>
    obtain ⟨k, v⟩ := entry
    rw [Keyed.get?]
    by_cases hk : k = key
    · simp [Keyed.keys, hk]
    · rw [if_neg hk, ← ih]
      simp [Keyed.keys, Ne.symm hk]

theorem get?_concat_record {q : List String} {v : Value} {inner : List (String × Value)}
    (h : get? q v = some (.record inner)) (key : String) :
    get? (q ++ [key]) v = Keyed.get? key inner := by
  rw [get?_append, h, Option.bind_some, get?_cons_record]
  cases Keyed.get? key inner <;> simp

/-- The keys of a mapping that a projection makes are the next segments of the paths that lead
through it. -/
theorem Tracks.mem_keys {r : Value} {paths : List String} {fields : List (String × Value)}
    (h : Tracks r paths fields) {q : List String} {inner : List (String × Value)}
    (hc : ¬Covers paths q) (hq : get? q (.record fields) = some (.record inner)) (key : String) :
    key ∈ Keyed.keys inner ↔ LeadsThrough r paths (q ++ [key]) := by
  have hne : q ++ [key] ≠ [] := by simp
  rw [mem_keys_iff, ← get?_concat_record hq]
  by_cases hc' : Covers paths (q ++ [key])
  · -- only the path `q ++ [key]` itself can cover this place
    rw [h.covered _ hne hc']
    obtain ⟨p, hp, hpre⟩ := hc'
    have heq : segments p = q ++ [key] := by
      rcases List.prefix_concat_iff.mp hpre with heq | hpq
      · exact heq
      · exact absurd ⟨p, hp, hpq⟩ hc
    constructor
    · intro hsome
      refine ⟨p, hp, ?_, heq ▸ List.prefix_rfl⟩
      rw [at?, heq]
      exact hsome
    · rintro ⟨p', -, hsome, s, hs⟩
      rw [at?, ← hs, get?_append] at hsome
      cases hr : get? (q ++ [key]) r with
      | none => simp [hr] at hsome
      | some _ => rfl
  · by_cases hl : LeadsThrough r paths (q ++ [key])
    · obtain ⟨found, hfound⟩ := h.onWay _ hne hc' hl
      simp [hfound, hl]
    · simp [h.nowhere _ hne hc' hl, hl]

/-! ## Order and repetition -/

/-- What a value shows without the fields of a mapping. -/
def face : Value → Value
  | .record _ => .record []
  | v => v

/-- Two values are the same mapping if every path leads nowhere in both, to a mapping in both, or
to one value.  The order of keys does not count. -/
def SameMapping (v w : Value) : Prop :=
  ∀ q : List String, (get? q v).map face = (get? q w).map face

theorem Tracks.sameMapping {r : Value} {paths paths' : List String}
    {fields fields' : List (String × Value)} (h : Tracks r paths fields)
    (h' : Tracks r paths' fields') (hmem : ∀ p, p ∈ paths' ↔ p ∈ paths) :
    SameMapping (.record fields') (.record fields) := by
  have hcovers (q : List String) : Covers paths' q ↔ Covers paths q := by simp [Covers, hmem]
  have hleads (q : List String) : LeadsThrough r paths' q ↔ LeadsThrough r paths q := by
    simp [LeadsThrough, hmem]
  intro q
  by_cases hq : q = []
  · subst hq
    simp [face]
  by_cases hc : Covers paths q
  · rw [h.covered q hq hc, h'.covered q hq ((hcovers q).mpr hc)]
  have hc' : ¬Covers paths' q := fun hc' => hc ((hcovers q).mp hc')
  by_cases hl : LeadsThrough r paths q
  · obtain ⟨inner, hinner⟩ := h.onWay q hq hc hl
    obtain ⟨inner', hinner'⟩ := h'.onWay q hq hc' ((hleads q).mpr hl)
    rw [hinner, hinner']
    rfl
  · rw [h.nowhere q hq hc hl, h'.nowhere q hq hc' fun hl' => hl ((hleads q).mp hl')]

theorem covers_of_mem {paths : List String} {p : String} (hp : p ∈ paths) :
    Covers paths (segments p) :=
  ⟨p, hp, List.prefix_rfl⟩

theorem at?_projectRecord_of_covers (r : Value) {paths : List String} {q : String}
    (h : Covers paths (segments q)) : (projectRecord paths r).at? q = r.at? q :=
  (tracks_projectedFields r paths).covered _ (segments_ne_nil q) h

theorem at?_projectRecord_of_mem (r : Value) {paths : List String} {p : String}
    (hp : p ∈ paths) : (projectRecord paths r).at? p = r.at? p :=
  at?_projectRecord_of_covers r (covers_of_mem hp)

theorem projectRecord_idempotent (r : Value) (paths : List String) :
    projectRecord paths (projectRecord paths r) = projectRecord paths r := by
  have hcopy : ∀ fields : List (String × Value), ∀ p ∈ paths,
      copyPath (projectRecord paths r) p fields = copyPath r p fields := by
    intro fields p hp
    rw [copyPath, copyPath, at?_projectRecord_of_mem r hp]
  exact congrArg Value.record (List.foldl_ext _ _ [] hcopy)

/-! ## The projection of a record -/

/-- A projection is exact.  Behind a selected path it agrees with the record; on the way to a
selected path that leads somewhere it has a mapping with just the next segments of such paths as
keys; everywhere else it has nothing.  Neither the order nor the repetition of the paths counts,
and a second projection changes nothing. -/
theorem projectRecord_exact (r : Value) (paths : List String) :
    (∀ q : String, Covers paths (segments q) → (projectRecord paths r).at? q = r.at? q) ∧
    (∀ q : String, ¬Covers paths (segments q) → LeadsThrough r paths (segments q) →
      ∃ inner, (projectRecord paths r).at? q = some (.record inner) ∧
        ∀ key, key ∈ Keyed.keys inner ↔ LeadsThrough r paths (segments q ++ [key])) ∧
    (∀ q : String, ¬Covers paths (segments q) → ¬LeadsThrough r paths (segments q) →
      (projectRecord paths r).at? q = none) ∧
    (∃ fields, projectRecord paths r = .record fields ∧
      ∀ key, key ∈ Keyed.keys fields ↔ LeadsThrough r paths [key]) ∧
    (∀ paths', (∀ p, p ∈ paths' ↔ p ∈ paths) →
      SameMapping (projectRecord paths' r) (projectRecord paths r)) ∧
    projectRecord paths (projectRecord paths r) = projectRecord paths r := by
  have h := tracks_projectedFields r paths
  refine ⟨?_, ?_, ?_, ?_, ?_, projectRecord_idempotent r paths⟩
  · intro q hc
    exact h.covered _ (segments_ne_nil q) hc
  · intro q hc hl
    obtain ⟨inner, hinner⟩ := h.onWay _ (segments_ne_nil q) hc hl
    exact ⟨inner, hinner, h.mem_keys hc hinner⟩
  · intro q hc hl
    exact h.nowhere _ (segments_ne_nil q) hc hl
  · have hroot : ¬Covers paths [] := by
      rintro ⟨p, -, hpre⟩
      exact segments_ne_nil p (List.prefix_nil.mp hpre)
    exact ⟨_, rfl, h.mem_keys hroot (get?_nil _)⟩
  · intro paths' hmem
    exact h.sameMapping (tracks_projectedFields r paths') hmem

end AdSearch.Proofs.Record.Projection
