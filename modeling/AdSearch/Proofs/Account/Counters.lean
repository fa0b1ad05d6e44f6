import AdSearch.Proofs.Account.Joining
import AdSearch.Proofs.Calendar.Ordinal

/-!
# Counters over windows

A listing depends on its window through the metrics only, and the counters among them through the
number of days only.  So counters over windows that follow each other add up, and a window without
days has none.
-/

namespace AdSearch.Proofs.Account.Counters

open AdSearch.Proofs.Outcome AdSearch.Proofs.Account.Tables AdSearch.Proofs.Account.Joining
open AdSearch.Proofs.Calendar.Ordinal

variable {α β γ : Type} {a : Account} {days : Nat}

/-! ## Two runs over the same entities -/

theorem each_eq_ok {f : α → Except Failure β} {xs : List α} {ys : List β} :
    Seed.each f xs = .ok ys ↔ List.Forall₂ (fun x y => f x = .ok y) xs ys := by
  induction xs generalizing ys with
  | nil => simp [Seed.each, eq_comm]
  | cons x xs ih =>
    rw [each_cons_eq_ok, List.forall₂_cons_left_iff]
    simp only [ih]
    constructor
    · rintro ⟨y, hy, ys, hys, rfl⟩
      exact ⟨y, ys, hy, hys, rfl⟩
    · rintro ⟨y, ys, hy, hys, rfl⟩
      exact ⟨y, hy, ys, hys, rfl⟩

theorem forall₂_of_each {f : α → Except Failure β} {g : α → Except Failure γ}
    {R : β → γ → Prop} (h : ∀ x y z, f x = .ok y → g x = .ok z → R y z) {xs : List α}
    {ys : List β} {zs : List γ} (hys : Seed.each f xs = .ok ys) (hzs : Seed.each g xs = .ok zs) :
    List.Forall₂ R ys zs := by
  rw [each_eq_ok] at hys hzs
  induction hys generalizing zs with
  | nil =>
    cases hzs
    exact .nil
  | cons hy _ ih =>
    cases hzs with
    | cons hz hzs => exact .cons (h _ _ _ hy hz) (ih hzs)

theorem exists_each {f : α → Except Failure β} {g : α → Except Failure γ}
    (h : ∀ x y, f x = .ok y → ∃ z, g x = .ok z) {xs : List α} {ys : List β}
    (hys : Seed.each f xs = .ok ys) : ∃ zs, Seed.each g xs = .ok zs := by
  simp only [each_eq_ok] at hys ⊢
  induction hys with
  | nil => exact ⟨[], .nil⟩
  | cons hy _ ih =>
    obtain ⟨z, hz⟩ := h _ _ hy
    obtain ⟨zs, hzs⟩ := ih
    exact ⟨z :: zs, .cons hz hzs⟩

theorem exists_getElem?_of_forall₂ {R : α → β → Prop} {xs : List α} {ys : List β}
    (h : List.Forall₂ R xs ys) {i : Nat} {y : β} (hy : ys[i]? = some y) :
    ∃ x, xs[i]? = some x ∧ R x y := by
  induction h generalizing i with
  | nil => simp at hy
  | cons hxy _ ih =>
    cases i with
    | zero =>
      obtain rfl := Option.some.inj hy
      exact ⟨_, rfl, hxy⟩
    | succ i => exact ih hy

/-! ## Metrics -/

theorem over_eq_ok {m : DailyMetrics} {v : Value} :
    m.over days = .ok v ↔ ∃ ctr, ratio 4 (m.clicks * days) (m.impressions * days) = .ok ctr ∧
      ∃ averageCpc, ratio 2 (m.costMicros * days) (m.clicks * days) = .ok averageCpc ∧
        .record [
          ("impressions", .int (m.impressions * days)), ("clicks", .int (m.clicks * days)),
          ("cost_micros", .int (m.costMicros * days)),
          ("conversions", .int (m.conversions * days)), ("ctr", .float ctr),
          ("average_cpc", .float averageCpc)] = v := by
  simp only [DailyMetrics.over, bind_eq_ok, Except.ok.injEq]

/-- Over no days the divisors are zero, so there are metrics in any case. -/
theorem ratio_no_days (places : Nat) (num den : Int) :
    ratio places num (den * (0 : Nat)) = .ok (Binary64.zero false) :=
  if_pos (Int.mul_zero den)

/-- The counters among the metrics of a record, each with the counter of one day behind it. -/
def counters : List (String × (DailyMetrics → Int)) := [
  ("metrics.impressions", DailyMetrics.impressions), ("metrics.clicks", DailyMetrics.clicks),
  ("metrics.cost_micros", DailyMetrics.costMicros),
  ("metrics.conversions", DailyMetrics.conversions)]

/-- The path of the id of an entity in its record. -/
def idPath : Source → String
  | .campaign => "campaign.id"
  | .adGroup => "ad_group.id"
  | .adGroupAd => "ad_group_ad.ad.id"

/-- The days from the start to the end of a window, at least none. -/
def span (w : Window) : Int := max 0 ((w.stop.ordinal : Int) - w.start.ordinal)

theorem span_eq_days (w : Window) : span w = (w.days : Int) := by
  rw [span, Window.days]
  omega

theorem span_add {x y z : Date} (hxy : ¬Before y x) (hyz : ¬Before z y) :
    span ⟨x, z⟩ = span ⟨x, y⟩ + span ⟨y, z⟩ := by
  rw [before_iff] at hxy hyz
  simp only [span]
  omega

/-- A record shows an entity and its counters over a number of days. -/
structure CountsOver (source : Source) (days : Int) (entity : String × DailyMetrics) (r : Value) :
    Prop where
  id : r.at? (idPath source) = some (.text entity.1)
  scaled : ∀ counter ∈ counters, r.at? counter.1 = some (.int (counter.2 entity.2 * days))

/-- A record shows no counts, and zero as its ratios. -/
structure CountsNothing (r : Value) : Prop where
  counts : ∀ counter ∈ counters, r.at? counter.1 = some (.int 0)
  ctr : r.at? "metrics.ctr" = some (.float (Binary64.zero false))
  averageCpc : r.at? "metrics.average_cpc" = some (.float (Binary64.zero false))

/-- Two records have the same fields in the same places, except what they have as metrics. -/
def EqualBesideMetrics (r r' : Value) : Prop :=
  ∃ before after v v', r = .record (before ++ ("metrics", v) :: after) ∧
    r' = .record (before ++ ("metrics", v') :: after)

/-! ## Records -/

/-- A record of a listing: the customer, the entity, its metrics and what it is joined with. -/
def recordOf (a : Account) (source : Source) (fields metrics : Value)
    (joined : List (String × Value)) : Value :=
  .record ([("customer", a.customer), (source.name, fields), ("metrics", metrics)] ++ joined)

theorem get?_metrics_recordOf (source : Source) (fields v : Value)
    (joined : List (String × Value)) (path : List String) :
    Value.get? ("metrics" :: path) (recordOf a source fields v joined) = Value.get? path v := by
  cases source <;> rfl

theorem at?_counter {source : Source} {m : DailyMetrics} {v : Value} (h : m.over days = .ok v)
    {fields : Value} {joined : List (String × Value)} :
    ∀ counter ∈ counters, (recordOf a source fields v joined).at? counter.1 =
      some (.int (counter.2 m * (days : Int))) := by
  obtain ⟨ctr, -, averageCpc, -, rfl⟩ := over_eq_ok.mp h
  intro counter hcounter
  simp only [counters, List.mem_cons, List.not_mem_nil, or_false] at hcounter
  rcases hcounter with rfl | rfl | rfl | rfl
  all_goals exact get?_metrics_recordOf source fields _ joined _

/-- How the records of a resource are made of its entities. -/
structure Builds (a : Account) (source : Source) (id : α → String) (metrics : α → DailyMetrics)
    (fieldsOf : α → Except Failure Value) (joined : α → List (String × Value))
    (build : Nat → α → Except Failure Value) : Prop where
  eq_ok : ∀ {days x r}, build days x = .ok r ↔ ∃ fields, fieldsOf x = .ok fields ∧
    ∃ v, (metrics x).over days = .ok v ∧ recordOf a source fields v (joined x) = r
  at?_id : ∀ {x fields}, fieldsOf x = .ok fields → ∀ v rest,
    (recordOf a source fields v rest).at? (idPath source) = some (.text (id x))

section Builds

variable {source : Source} {id : α → String} {metrics : α → DailyMetrics}
  {fieldsOf : α → Except Failure Value} {joined : α → List (String × Value)}
  {build : Nat → α → Except Failure Value}

theorem Builds.equalBesideMetrics (h : Builds a source id metrics fieldsOf joined build)
    {days days' : Nat} (x : α) (r r' : Value) (hr : build days x = .ok r)
    (hr' : build days' x = .ok r') : EqualBesideMetrics r r' := by
  obtain ⟨fields, hfields, v, -, rfl⟩ := h.eq_ok.mp hr
  obtain ⟨fields', hfields', v', -, rfl⟩ := h.eq_ok.mp hr'
  rw [hfields] at hfields'
  obtain rfl := Except.ok.inj hfields'
  exact ⟨[("customer", a.customer), (source.name, fields)], joined x, v, v', rfl, rfl⟩

theorem Builds.countsOver (h : Builds a source id metrics fieldsOf joined build) {x : α}
    {r : Value} (hr : build days x = .ok r) : CountsOver source days (id x, metrics x) r := by
  obtain ⟨fields, hfields, v, hv, rfl⟩ := h.eq_ok.mp hr
  exact ⟨h.at?_id hfields v (joined x), at?_counter hv⟩

theorem Builds.exists_build_zero (h : Builds a source id metrics fieldsOf joined build) (x : α)
    (r : Value) (hr : build days x = .ok r) : ∃ r', build 0 x = .ok r' := by
  obtain ⟨fields, hfields, -⟩ := h.eq_ok.mp hr
  have hv := over_eq_ok.mpr
    ⟨_, ratio_no_days 4 _ (metrics x).impressions, _, ratio_no_days 2 _ (metrics x).clicks, rfl⟩
  exact ⟨_, h.eq_ok.mpr ⟨fields, hfields, _, hv, rfl⟩⟩

theorem Builds.countsNothing (h : Builds a source id metrics fieldsOf joined build) {x : α}
    {r : Value} (hr : build 0 x = .ok r) : CountsNothing r := by
  have hcounts := (h.countsOver hr).scaled
  obtain ⟨fields, -, v, hv, rfl⟩ := h.eq_ok.mp hr
  obtain ⟨ctr, hctr, averageCpc, hcpc, rfl⟩ := over_eq_ok.mp hv
  rw [ratio_no_days, Except.ok.injEq] at hctr hcpc
  subst hctr hcpc
  refine ⟨fun counter hcounter => ?_, ?_, ?_⟩
  · rw [hcounts counter hcounter, Int.natCast_zero, Int.mul_zero]
  · exact get?_metrics_recordOf source fields _ (joined x) ["ctr"]
  · exact get?_metrics_recordOf source fields _ (joined x) ["average_cpc"]

end Builds

theorem builds_campaign (a : Account) :
    Builds a .campaign Campaign.id Campaign.metrics (fun c => .ok (a.campaignFields c))
      (fun _ => []) a.campaignRecord where
  eq_ok := by simp only [campaignRecord_eq_ok, Except.ok.injEq, exists_eq_left']; rfl
  at?_id := by
    rintro c _ ⟨⟩ v rest
    rfl

theorem builds_adGroup (a : Account) :
    Builds a .adGroup AdGroup.id AdGroup.metrics (fun g => .ok (a.adGroupFields g))
      (fun g => a.joinedCampaign g.campaignId) a.adGroupRecord where
  eq_ok := by simp only [adGroupRecord_eq_ok, Except.ok.injEq, exists_eq_left']; rfl
  at?_id := by
    rintro g _ ⟨⟩ v rest
    rfl

theorem builds_ad (a : Account) :
    Builds a .adGroupAd Ad.id Ad.metrics a.adFields (fun ad => a.joinedAdGroup ad.adGroupId)
      a.adRecord where
  eq_ok := adRecord_eq_ok
  at?_id := by
    intro ad fields hfields v rest
    obtain ⟨urls, creative, rfl⟩ := exists_of_adFields hfields
    rfl

/-- The entities of a resource, by id, each with its counters of one day. -/
def entities (a : Account) : Source → List (String × DailyMetrics)
  | .campaign => (Keyed.values a.campaigns).map fun c => (c.id, c.metrics)
  | .adGroup => (Keyed.values a.adGroups).map fun g => (g.id, g.metrics)
  | .adGroupAd => (Keyed.values a.ads).map fun ad => (ad.id, ad.metrics)

/-! ## Listings -/

theorem list_eq_ok_iff {name : String} {w : Window} {rs : List Value} :
    a.list name w = .ok rs ↔
      ∃ source, Source.ofName name = .ok source ∧ a.records w.days source = .ok rs := by
  simp only [Account.list, bind_eq_ok, mapError_eq_ok]

/-- Every resource has a way to build its records. -/
theorem exists_builds (a : Account) (source : Source) :
    ∃ (α : Type) (xs : List α) (id : α → String) (metrics : α → DailyMetrics)
      (fieldsOf : α → Except Failure Value) (joined : α → List (String × Value))
      (build : Nat → α → Except Failure Value),
      Builds a source id metrics fieldsOf joined build ∧
        (∀ days, a.records days source = Seed.each (build days) xs) ∧
        entities a source = xs.map fun x => (id x, metrics x) := by
  cases source with
  | campaign => exact ⟨_, _, _, _, _, _, _, builds_campaign a, fun _ => rfl, rfl⟩
  | adGroup => exact ⟨_, _, _, _, _, _, _, builds_adGroup a, fun _ => rfl, rfl⟩
  | adGroupAd => exact ⟨_, _, _, _, _, _, _, builds_ad a, fun _ => rfl, rfl⟩

section Records

variable {source : Source} {rs : List Value}

theorem equalBesideMetrics_records {days' : Nat} {rs' : List Value}
    (h : a.records days source = .ok rs) (h' : a.records days' source = .ok rs') :
    List.Forall₂ EqualBesideMetrics rs rs' := by
  obtain ⟨α, xs, id, metrics, fieldsOf, joined, build, hbuilds, hrecords, -⟩ :=
    exists_builds a source
  rw [hrecords] at h h'
  exact forall₂_of_each hbuilds.equalBesideMetrics h h'

theorem countsOver_records (h : a.records days source = .ok rs) :
    List.Forall₂ (CountsOver source days) (entities a source) rs := by
  obtain ⟨α, xs, id, metrics, fieldsOf, joined, build, hbuilds, hrecords, hentities⟩ :=
    exists_builds a source
  rw [hrecords, each_eq_ok] at h
  rw [hentities, List.forall₂_map_left_iff]
  exact h.imp fun _ _ => hbuilds.countsOver

theorem exists_records_zero (h : a.records days source = .ok rs) :
    ∃ rs', a.records 0 source = .ok rs' ∧ ∀ r ∈ rs', CountsNothing r := by
  obtain ⟨α, xs, id, metrics, fieldsOf, joined, build, hbuilds, hrecords, -⟩ :=
    exists_builds a source
  rw [hrecords] at h
  obtain ⟨rs', hrs'⟩ := exists_each hbuilds.exists_build_zero h
  refine ⟨rs', by rw [hrecords, hrs'], fun r hr => ?_⟩
  obtain ⟨x, -, hx⟩ := exists_of_mem_each hrs' hr
  exact hbuilds.countsNothing hx

end Records

theorem days_of_not_before {w : Window} (h : ¬Before w.start w.stop) : w.days = 0 := by
  rw [before_iff] at h
  rw [Window.days]
  omega

/-- A window only scales the counters.  Listings of a resource over two windows have equal records
in the same order, except for the metrics; the counters of a record are those of its entity for one
day times the days of the window; counters over windows that follow each other add up; and over a
window that ends where it starts, or before, nothing is counted. -/
theorem window_scales_counters {a : Account} {name : String} {w w' : Window} {rs rs' : List Value}
    (h : a.list name w = .ok rs) (h' : a.list name w' = .ok rs') :
    List.Forall₂ EqualBesideMetrics rs rs' ∧
    (∃ source, Source.ofName name = .ok source ∧
      List.Forall₂ (CountsOver source (span w)) (entities a source) rs ∧
      List.Forall₂ (CountsOver source (span w')) (entities a source) rs') ∧
    (∀ x y z : Date, ¬Before y x → ¬Before z y → ∀ first second both : List Value,
      a.list name ⟨x, y⟩ = .ok first → a.list name ⟨y, z⟩ = .ok second →
      a.list name ⟨x, z⟩ = .ok both → ∀ (i : Nat) (r : Value), both[i]? = some r →
        ∃ r₁ r₂, first[i]? = some r₁ ∧ second[i]? = some r₂ ∧ ∀ counter ∈ counters,
          ∃ m n : Int, r₁.at? counter.1 = some (.int m) ∧ r₂.at? counter.1 = some (.int n) ∧
            r.at? counter.1 = some (.int (m + n))) ∧
    ∀ empty : Window, ¬Before empty.start empty.stop →
      ∃ zeros, a.list name empty = .ok zeros ∧ ∀ r ∈ zeros, CountsNothing r := by
  obtain ⟨source, hsource, hrecords⟩ := list_eq_ok_iff.mp h
  have hrecords' := list_eq_ok hsource h'
  have hcounts : ∀ (w : Window) (rs : List Value), a.list name w = .ok rs →
      List.Forall₂ (CountsOver source (span w)) (entities a source) rs := by
    intro w rs hlist
    rw [span_eq_days]
    exact countsOver_records (list_eq_ok hsource hlist)
  refine ⟨equalBesideMetrics_records hrecords hrecords',
    ⟨source, hsource, hcounts w rs h, hcounts w' rs' h'⟩, ?_, ?_⟩
  · intro x y z hxy hyz first second both hfirst hsecond hboth i r hr
    obtain ⟨entity, hentity, hcount⟩ := exists_getElem?_of_forall₂ (hcounts _ _ hboth) hr
    obtain ⟨r₁, hr₁, hcount₁⟩ := exists_getElem?_of_forall₂ (hcounts _ _ hfirst).flip hentity
    obtain ⟨r₂, hr₂, hcount₂⟩ := exists_getElem?_of_forall₂ (hcounts _ _ hsecond).flip hentity
    refine ⟨r₁, r₂, hr₁, hr₂, fun counter hcounter => ?_⟩
    refine ⟨_, _, hcount₁.scaled counter hcounter, hcount₂.scaled counter hcounter, ?_⟩
    rw [hcount.scaled counter hcounter, span_add hxy hyz, Int.mul_add]
  · intro empty hempty
    obtain ⟨zeros, hzeros, hnothing⟩ := exists_records_zero hrecords
    refine ⟨zeros, list_eq_ok_iff.mpr ⟨source, hsource, ?_⟩, hnothing⟩
    rw [days_of_not_before hempty, hzeros]

/-- A campaign with counters and one without. -/
def countedSeed : Value := .record [
  ("customer_id", .int 1),
  ("campaigns", .list [
    .record [("id", .int 7), ("name", .text "busy"), ("metrics_per_day", .record [
      ("impressions", .int 100), ("clicks", .int 3), ("cost_micros", .int 4500),
      ("conversions", .int (-1))])],
    .record [("id", .text "8"), ("name", .text "idle")]])]

/-- The conversions that a record shows. -/
def conversions (r : Value) : Option Int :=
  match r.at? "metrics.conversions" with
  | some (.int n) => some n
  | _ => none

theorem window_scales_counters_countedSeed :
    ∃ a rs rs', Seed.accountOf countedSeed = .ok a ∧ a.list "campaign" someWindow = .ok rs ∧
      a.list "campaign" ⟨someWindow.stop, someWindow.start⟩ = .ok rs' ∧
      rs.map conversions = [some (-8), some 0] ∧
      List.Forall₂ EqualBesideMetrics rs rs' ∧ ∃ source,
        List.Forall₂ (CountsOver source (span someWindow)) (entities a source) rs := by
  obtain ⟨a, ha⟩ : ∃ a, Seed.accountOf countedSeed = .ok a := ⟨_, rfl⟩
  obtain ⟨rs, hrs, hshown⟩ : ∃ rs, a.list "campaign" someWindow = .ok rs ∧
      rs.map conversions = [some (-8), some 0] := by
    cases ha
    exact map_eq_ok.mp (by decide +kernel)
  obtain ⟨rs', hrs'⟩ : ∃ rs', a.list "campaign" ⟨someWindow.stop, someWindow.start⟩ = .ok rs' := by
    cases ha
    exact ⟨_, rfl⟩
  obtain ⟨hequal, ⟨source, -, hcounts, -⟩, -⟩ := window_scales_counters hrs hrs'
  exact ⟨a, rs, rs', ha, hrs, hrs', hshown, hequal, source, hcounts⟩

end AdSearch.Proofs.Account.Counters
