import AdSearch.Proofs.Record.Projection
import AdSearch.Record.Matching

/-!
# Filtering records and projecting them

A condition on a field that the selected paths cover does not tell a record from its projection, so
it makes no difference whether records are filtered before they are projected or after.  On any
other field some condition does tell them apart.
-/

namespace AdSearch.Proofs.Record.Filtering

open AdSearch.Value AdSearch.Proofs.Record.Projection

variable {paths : List String}

/-! ## Covered fields -/

/-- The selected paths cover the fields of all conditions. -/
def CoversAll (paths : List String) (cs : List Condition) : Prop :=
  ∀ c ∈ cs, Covers paths (segments c.field)

theorem holds_projectRecord {c : Condition} (h : Covers paths (segments c.field)) (r : Value) :
    c.holds (projectRecord paths r) = c.holds r := by
  rw [Condition.holds, at?_projectRecord_of_covers r h, Condition.holds]

theorem holdsAll_projectRecord {cs : List Condition} (h : CoversAll paths cs) (r : Value) :
    holdsAll (projectRecord paths r) cs = holdsAll r cs := by
  induction cs with
  | nil => rfl
  | cons c cs ih =>
    have hrest : CoversAll paths cs := fun c' hc' => h c' (List.mem_cons_of_mem c hc')
    rw [holdsAll, holdsAll, holds_projectRecord (h c List.mem_cons_self), ih hrest]

/-- The same records are kept, or the same condition fails, and on the same record. -/
theorem filterRecords_project {cs : List Condition} (h : CoversAll paths cs)
    (records : List Value) :
    filterRecords cs (project paths records) = (filterRecords cs records).map (project paths) := by
  induction records with
  | nil => rfl
  | cons r records ih =>
    have hcons : project paths (r :: records) =
        projectRecord paths r :: project paths records := rfl
    rw [hcons, filterRecords, filterRecords, holdsAll_projectRecord h, ih]
    cases holdsAll r cs with
    | error f => rfl
    | ok keep =>
      cases filterRecords cs records with
      | error f => rfl
      | ok kept => cases keep <;> rfl

/-! ## Other fields -/

/-- A record with a text at one path and nothing else. -/
def lone (path label : String) : Value := .record (assign (segments path) (.text label) [])

theorem get?_lone (path label : String) (q : List String) :
    get? (segments path ++ q) (lone path label) = get? q (.text label) :=
  get?_assign_append (segments_ne_nil path) q (.text label) []

theorem at?_lone (path label : String) : (lone path label).at? path = some (.text label) := by
  have h := get?_lone path label []
  rwa [List.append_nil, get?_nil] at h

/-- Nothing lies behind the text of a lone record, so a path through it is the path to it. -/
theorem not_leadsThrough_lone {path : String} (h : ¬Covers paths (segments path))
    (label : String) : ¬LeadsThrough (lone path label) paths (segments path) := by
  rintro ⟨p, hp, hsome, s, hs⟩
  rw [at?, ← hs, get?_lone] at hsome
  cases s with
  | nil => exact h ⟨p, hp, [], by rw [← hs, List.append_nil, List.append_nil]⟩
  | cons key s => cases hsome

theorem at?_projectRecord_lone {path : String} (h : ¬Covers paths (segments path))
    (label : String) : (projectRecord paths (lone path label)).at? path = none :=
  (tracks_projectedFields _ paths).nowhere _ (segments_ne_nil path) h
    (not_leadsThrough_lone h label)

theorem filterRecords_lone (path label : String) :
    filterRecords [⟨path, .eq, label⟩] [lone path label] = .ok [lone path label] := by
  have hholds : Condition.holds ⟨path, .eq, label⟩ (lone path label) = .ok true := by
    rw [Condition.holds, at?_lone]
    change Except.ok (label == label) = _
    rw [beq_self_eq_true]
  rw [filterRecords, holdsAll, hholds]
  rfl

theorem filterRecords_project_lone {path : String} (h : ¬Covers paths (segments path))
    (label : String) :
    filterRecords [⟨path, .eq, label⟩] (project paths [lone path label]) = .ok [] := by
  have hholds : Condition.holds ⟨path, .eq, label⟩ (projectRecord paths (lone path label)) =
      .ok false := by
    rw [Condition.holds, at?_projectRecord_lone h]
  have hproject : project paths [lone path label] = [projectRecord paths (lone path label)] := rfl
  rw [hproject, filterRecords, holdsAll, hholds]
  rfl

/-- Filtering and projecting commute on covered fields.  If every condition is on a selected path or
on one that goes on from a selected path, then records that are projected first and records that are
filtered first end as the same rows in the same order, or in the same failure.  On a field that no
selected path covers, some condition keeps a record and drops its projection. -/
theorem filtering_commutes_with_projection (paths : List String) :
    (∀ cs : List Condition, CoversAll paths cs → ∀ records : List Value,
      filterRecords cs (project paths records) =
        (filterRecords cs records).map (project paths)) ∧
    ∀ field : String, ¬Covers paths (segments field) → ∃ c r, Condition.field c = field ∧
      filterRecords [c] [r] = .ok [r] ∧ filterRecords [c] (project paths [r]) = .ok [] := by
  constructor
  · intro cs h records
    exact filterRecords_project h records
  · intro field h
    exact ⟨⟨field, .eq, ""⟩, lone field "", rfl, filterRecords_lone field "",
      filterRecords_project_lone h ""⟩

/-- A campaign with dates. -/
def datedCampaign (id : String) : Value := .record [
  ("metrics", .record [("clicks", .int 7)]),
  ("campaign", .record [
    ("name", .text "spring"), ("id", .text id),
    ("dates", .list [.date ⟨2019, 8, 17, by decide, by decide, by decide, by decide⟩, .null])])]

/-- A mapping, one of its fields before it, and a path that leads nowhere. -/
def overlappingPaths : List String := ["campaign.id", "campaign", "campaign.dates.first"]

/-- The second condition sees the whole mapping, in the order of its keys. -/
def datedConditions : List Condition := [
  ⟨"campaign.dates", .eq, "2019-08-17,null"⟩,
  ⟨"campaign", .like, "spring%id%7%datetime.date(2019, 8, 17)"⟩]

theorem filtering_commutes_with_projection_dated :
    CoversAll overlappingPaths datedConditions ∧
      filterRecords datedConditions
        (project overlappingPaths [datedCampaign "6", datedCampaign "7"]) =
          .ok (project overlappingPaths [datedCampaign "7"]) := by
  have hcovers : CoversAll overlappingPaths datedConditions := by
    have hmem : "campaign" ∈ overlappingPaths := by simp [overlappingPaths]
    have hpre : segments "campaign" <+: segments "campaign.dates" := ⟨["dates"], by decide⟩
    intro c hc
    simp only [datedConditions, List.mem_cons, List.not_mem_nil, or_false] at hc
    rcases hc with rfl | rfl
    · exact ⟨_, hmem, hpre⟩
    · exact ⟨_, hmem, List.prefix_rfl⟩
  have hkept : filterRecords datedConditions [datedCampaign "6", datedCampaign "7"] =
      .ok [datedCampaign "7"] := rfl
  refine ⟨hcovers, ?_⟩
  rw [(filtering_commutes_with_projection _).1 _ hcovers, hkept]
  rfl

end AdSearch.Proofs.Record.Filtering
