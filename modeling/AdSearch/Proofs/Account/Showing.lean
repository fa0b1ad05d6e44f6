import AdSearch.Proofs.Account.Counters

/-!
# What a record shows of an entry

An entry of a seed makes one entity, and the entity makes one record.  The record shows what the
entry says: its id and texts, its counters over a window with their ratios, and what its resource
has of its own.
-/

namespace AdSearch.Proofs.Account.Showing

open AdSearch.Proofs.Outcome AdSearch.Proofs.Account.Tables AdSearch.Proofs.Account.Joining
  AdSearch.Proofs.Account.Counters

variable {α : Type} {a : Account} {source : Source} {days : Nat}

/-! ## Entries -/

/-- An entry has an id, which is compared as text. -/
def HasId (entry : Value) (id : String) : Prop :=
  ∃ v, entry.at? "id" = some v ∧ v.display = .ok id

/-- The record that an entry makes by itself, whatever other entries there are in its section. -/
def entryRecord (a : Account) (days : Nat) : Source → Value → Except Failure Value
  | .campaign, entry => do a.campaignRecord days (← Seed.campaign entry)
  | .adGroup, entry => do a.adGroupRecord days (← Seed.adGroup entry)
  | .adGroupAd, entry => do a.adRecord days (← Seed.ad entry)

/-- A value of an entry that its record shows as it is: its key in the entry, its path in the
record, and what is shown where the entry has none. -/
structure Verbatim where
  key : String
  path : String
  default : Option Value

def verbatim : Source → List Verbatim
  | .campaign => [
    ⟨"name", "campaign.name", none⟩, ⟨"status", "campaign.status", some (.text "PAUSED")⟩,
    ⟨"advertising_channel_type", "campaign.advertising_channel_type", some (.text "SEARCH")⟩]
  | .adGroup => [
    ⟨"name", "ad_group.name", none⟩, ⟨"status", "ad_group.status", some (.text "ENABLED")⟩,
    ⟨"type", "ad_group.type", some (.text "SEARCH_STANDARD")⟩]
  | .adGroupAd => [
    ⟨"status", "ad_group_ad.status", some (.text "ENABLED")⟩,
    ⟨"type", "ad_group_ad.ad.type", some (.text "RESPONSIVE_SEARCH_AD")⟩]

theorem HasId.unique {entry : Value} {id id' : String} (h : HasId entry id)
    (h' : HasId entry id') : id = id' := by
  obtain ⟨v, hv, hid⟩ := h
  obtain ⟨v', hv', hid'⟩ := h'
  obtain rfl := Option.some.inj (hv.symm.trans hv')
  exact Except.ok.inj (hid.symm.trans hid')

theorem eq_record_of_entityFields {entry : Value} {fields : List (String × Value)}
    (h : Seed.entityFields entry = .ok fields) : entry = .record fields := by
  cases entry with
  | record fields' => rw [Except.ok.inj h]
  | _ => cases h

theorem at?_key {key : String} (hkey : Value.segments key = [key])
    (fields : List (String × Value)) : (Value.record fields).at? key = Keyed.get? key fields := by
  rw [Value.at?, hkey, Value.get?_cons_record]
  cases Keyed.get? key fields <;> simp

theorem at?_of_required {key : String} (hkey : Value.segments key = [key])
    {fields : List (String × Value)} {v : Value} (h : Seed.required key fields = .ok v) :
    (Value.record fields).at? key = some v := by
  rw [at?_key hkey]
  unfold Seed.required at h
  split at h
  · rename_i v' hget
    rw [hget, Except.ok.inj h]
  · cases h

theorem some_withDefault {key : String} (hkey : Value.segments key = [key]) (default : Value)
    (fields : List (String × Value)) :
    some (Seed.withDefault key default fields) =
      ((Value.record fields).at? key).or (some default) := by
  rw [at?_key hkey, Seed.withDefault]
  cases Keyed.get? key fields <;> rfl

theorem hasId_of_requiredId {fields : List (String × Value)} {id : String}
    (h : Seed.requiredId "id" fields = .ok id) : HasId (.record fields) id := by
  obtain ⟨v, hv, hid⟩ := bind_eq_ok.mp h
  exact ⟨v, at?_of_required (by decide) hv, hid⟩

/-! ## Records of entries -/

/-- The path of the resource name of an entity in its record. -/
def namePath : Source → String
  | .campaign => "campaign.resource_name"
  | .adGroup => "ad_group.resource_name"
  | .adGroupAd => "ad_group_ad.resource_name"

/-- The collection that a resource name is in. -/
def collection : Source → String
  | .campaign => "campaigns"
  | .adGroup => "adGroups"
  | .adGroupAd => "adGroupAds"

/-- The last part of a resource name: an id, with the id of its ad group before that of an ad. -/
def Labels : Source → String → String → Prop
  | .campaign, id, label => label = id
  | .adGroup, id, label => label = id
  | .adGroupAd, id, label => ∃ group, label = group ++ "~" ++ id

/-! ### Counters -/

/-- The counters of one day, by their keys. -/
def dailyCounters : List (String × (DailyMetrics → Int)) := [
  ("impressions", DailyMetrics.impressions), ("clicks", DailyMetrics.clicks),
  ("cost_micros", DailyMetrics.costMicros), ("conversions", DailyMetrics.conversions)]

/-- The counters of one day that an entry gives: none at all, or the integers at their keys, each
zero where nothing is given. -/
inductive DailyCounts (entry : Value) : DailyMetrics → Prop
  | absent : (∀ v, entry.at? "metrics_per_day" = some v → v.isPresent = false) →
    DailyCounts entry ⟨0, 0, 0, 0⟩
  | given {v : Value} {m : DailyMetrics} : entry.at? "metrics_per_day" = some v →
    v.isPresent = true →
    (∀ counter ∈ dailyCounters, ((v.at? counter.1).getD (.int 0)).toInteger = .ok (counter.2 m)) →
    DailyCounts entry m

/-- A record shows counters over a number of days, and the ratios of the grown counters. -/
structure ShowsMetrics (days : Nat) (m : DailyMetrics) (r : Value) : Prop where
  scaled : ∀ counter ∈ counters, r.at? counter.1 = some (.int (counter.2 m * days))
  ctr : ∃ x, ratio 4 (m.clicks * days) (m.impressions * days) = .ok x ∧
    r.at? "metrics.ctr" = some (.float x)
  averageCpc : ∃ x, ratio 2 (m.costMicros * days) (m.clicks * days) = .ok x ∧
    r.at? "metrics.average_cpc" = some (.float x)

theorem getD_at?_key {key : String} (hkey : Value.segments key = [key]) (default : Value)
    (fields : List (String × Value)) :
    ((Value.record fields).at? key).getD default = Seed.withDefault key default fields := by
  rw [at?_key hkey, Seed.withDefault]

theorem dailyCounts_of_metrics {fields : List (String × Value)} {m : DailyMetrics}
    (h : Seed.metrics fields = .ok m) : DailyCounts (.record fields) m := by
  have hentry : (Value.record fields).at? "metrics_per_day" = Keyed.get? "metrics_per_day" fields :=
    at?_key (by decide) fields
  unfold Seed.metrics at h
  dsimp only [Seed.withDefault] at h
  cases hget : Keyed.get? "metrics_per_day" fields with
  | none =>
    rw [hget] at h
    cases h
    refine .absent fun v hv => ?_
    rw [hentry, hget] at hv
    cases hv
  | some given =>
    rw [hget, Option.getD_some] at h
    cases hpresent : given.isPresent with
    | false =>
      rw [hpresent] at h
      cases h
      refine .absent fun v hv => ?_
      rw [hentry, hget] at hv
      rw [← Option.some.inj hv, hpresent]
    | true =>
      rw [hpresent, if_neg (by decide)] at h
      cases given with
      | record counts =>
        simp only [bind_eq_ok, Except.ok.injEq] at h
        obtain ⟨impressions, himpressions, clicks, hclicks, cost, hcost, conversions, hconversions,
          rfl⟩ := h
        refine .given (hentry.trans hget) hpresent ?_
        simp only [dailyCounters, List.forall_mem_cons]
        refine ⟨?_, ?_, ?_, ?_, List.forall_mem_nil _⟩
        · rw [getD_at?_key (by decide), ← himpressions, Seed.counter]
        · rw [getD_at?_key (by decide), ← hclicks, Seed.counter]
        · rw [getD_at?_key (by decide), ← hcost, Seed.counter]
        · rw [getD_at?_key (by decide), ← hconversions, Seed.counter]
      | _ => cases h

theorem showsMetrics_of_over {m : DailyMetrics} {v : Value} (h : m.over days = .ok v)
    (source : Source) (fields : Value) (joined : List (String × Value)) :
    ShowsMetrics days m (recordOf a source fields v joined) where
  scaled := at?_counter h
  ctr := by
    obtain ⟨ctr, hctr, averageCpc, -, rfl⟩ := over_eq_ok.mp h
    exact ⟨ctr, hctr, get?_metrics_recordOf source fields _ joined ["ctr"]⟩
  averageCpc := by
    obtain ⟨ctr, -, averageCpc, haverage, rfl⟩ := over_eq_ok.mp h
    exact ⟨averageCpc, haverage, get?_metrics_recordOf source fields _ joined ["average_cpc"]⟩

/-! ### What each resource shows of its own -/

/-- An entry names another entity by its id, which is compared as text. -/
def RefersTo (entry : Value) (key id : String) : Prop :=
  ∃ v, entry.at? key = some v ∧ v.display = .ok id

/-- The members of a value: the items of a list, the characters of a text, the keys of a
mapping. -/
inductive HasMembers : Value → List Value → Prop
  | list (items : List Value) : HasMembers (.list items) items
  | text (s : String) : HasMembers (.text s) (s.toList.map fun c => .text (String.singleton c))
  | record (fields : List (String × Value)) :
    HasMembers (.record fields) (fields.map fun entry => .text entry.1)

/-- What an entry has at a key, where an empty list stands for whatever counts as nothing. -/
def presentAt (entry : Value) (key : String) : Value :=
  ((entry.at? key).filter Value.isPresent).getD (.list [])

/-- Of a campaign: its budget, and its start and its target if it has them. -/
structure ShowsCampaign (a : Account) (entry r : Value) : Prop where
  budget : ∃ id, ((entry.at? "budget_id").getD (.text "")).display = .ok id ∧
    r.at? "campaign.campaign_budget" = some (a.resource "campaignBudgets" id)
  start : r.at? "campaign.start_date" = (entry.at? "start_date").filter Value.isPresent
  target : r.at? "campaign.target_spend.target_spend_micros" =
    match entry.at? "target_spend_micros" with
    | some .null => none
    | micros => micros

/-- Of an ad group: its bid and its campaign. -/
structure ShowsAdGroup (a : Account) (entry r : Value) : Prop where
  bid : ∃ n, ((entry.at? "cpc_bid_micros").getD (.int 0)).toInteger = .ok n ∧
    r.at? "ad_group.cpc_bid_micros" = some (.int n)
  campaign : ∃ id, RefersTo entry "campaign_id" id ∧
    r.at? "ad_group.campaign" = some (a.resource "campaigns" id)

/-- Two headlines, each empty if there is none, and what stands first in the descriptions. -/
structure ShowsExpanded (entry r : Value) : Prop where
  headlines : ∃ hs, presentAt entry "headlines" = .list hs ∧
    r.at? "ad_group_ad.ad.expanded_text_ad.headline_part1" = some (hs[0]?.getD (.text "")) ∧
    r.at? "ad_group_ad.ad.expanded_text_ad.headline_part2" = some (hs[1]?.getD (.text ""))
  description : ∃ ds, HasMembers (presentAt entry "descriptions") ds ∧
    r.at? "ad_group_ad.ad.expanded_text_ad.description" = some (ds[0]?.getD (.text ""))

/-- All headlines and all descriptions. -/
structure ShowsResponsive (entry r : Value) : Prop where
  headlines : ∃ hs, HasMembers (presentAt entry "headlines") hs ∧
    r.at? "ad_group_ad.ad.responsive_search_ad.headlines" =
      some (.list (hs.map fun h => .record [("text", h)]))
  descriptions : ∃ ds, HasMembers (presentAt entry "descriptions") ds ∧
    r.at? "ad_group_ad.ad.responsive_search_ad.descriptions" =
      some (.list (ds.map fun d => .record [("text", d)]))

/-- Of an ad: its ad group, its final URLs and its texts, in the form of its type. -/
structure ShowsAd (a : Account) (entry : Value) (id : String) (r : Value) : Prop where
  adGroup : ∃ group, RefersTo entry "ad_group_id" group ∧
    r.at? "ad_group_ad.ad_group" = some (a.resource "adGroups" group) ∧
    r.at? "ad_group_ad.resource_name" = some (a.resource "adGroupAds" (group ++ "~" ++ id))
  urls : ∃ urls, HasMembers (presentAt entry "final_urls") urls ∧
    r.at? "ad_group_ad.ad.final_urls" = some (.list urls)
  expanded : entry.at? "type" = some (.text "EXPANDED_TEXT_AD") → ShowsExpanded entry r
  responsive : entry.at? "type" ≠ some (.text "EXPANDED_TEXT_AD") → ShowsResponsive entry r

def ShowsOwn (a : Account) : Source → Value → String → Value → Prop
  | .campaign, entry, _, r => ShowsCampaign a entry r
  | .adGroup, entry, _, r => ShowsAdGroup a entry r
  | .adGroupAd, entry, id, r => ShowsAd a entry id r

/-- A record shows what an entry with an id says. -/
structure ShowsEntry (a : Account) (source : Source) (days : Nat) (entry : Value) (id : String)
    (r : Value) : Prop where
  made : entryRecord a days source entry = .ok r
  id_eq : r.at? (idPath source) = some (.text id)
  verbatim : ∀ shown ∈ verbatim source, r.at? shown.path = (entry.at? shown.key).or shown.default
  named : ∃ label, Labels source id label ∧
    r.at? (namePath source) = some (a.resource (collection source) label)
  metrics : ∃ m, DailyCounts entry m ∧ ShowsMetrics days m r
  own : ShowsOwn a source entry id r

/-! ### Entities of entries -/

theorem exists_of_campaign {entry : Value} {c : Campaign} (h : Seed.campaign entry = .ok c) :
    ∃ fields, entry = .record fields ∧ Seed.requiredId "id" fields = .ok c.id ∧
      Seed.required "name" fields = .ok c.name ∧
      (Seed.withDefault "budget_id" (.text "") fields).display = .ok c.budgetId ∧
      Seed.metrics fields = .ok c.metrics ∧
      c.status = Seed.withDefault "status" (.text "PAUSED") fields ∧
      c.channelType = Seed.withDefault "advertising_channel_type" (.text "SEARCH") fields ∧
      c.startDate = Seed.withDefault "start_date" .null fields ∧
      c.targetSpendMicros = Seed.withDefault "target_spend_micros" .null fields := by
  simp only [Seed.campaign, bind_eq_ok, Except.ok.injEq] at h
  obtain ⟨fields, hfields, id, hid, name, hname, budget, hbudget, daily, hdaily, rfl⟩ := h
  exact ⟨fields, eq_record_of_entityFields hfields, hid, hname, hbudget, hdaily, rfl, rfl, rfl, rfl⟩

theorem exists_of_adGroup {entry : Value} {g : AdGroup} (h : Seed.adGroup entry = .ok g) :
    ∃ fields, entry = .record fields ∧ Seed.requiredId "id" fields = .ok g.id ∧
      Seed.requiredId "campaign_id" fields = .ok g.campaignId ∧
      Seed.required "name" fields = .ok g.name ∧
      Seed.counter "cpc_bid_micros" fields = .ok g.cpcBidMicros ∧
      Seed.metrics fields = .ok g.metrics ∧
      g.status = Seed.withDefault "status" (.text "ENABLED") fields ∧
      g.type = Seed.withDefault "type" (.text "SEARCH_STANDARD") fields := by
  simp only [Seed.adGroup, bind_eq_ok, Except.ok.injEq] at h
  obtain ⟨fields, hfields, id, hid, campaignId, hcampaign, name, hname, bid, hbid, daily, hdaily,
    rfl⟩ := h
  exact ⟨fields, eq_record_of_entityFields hfields, hid, hcampaign, hname, hbid, hdaily, rfl, rfl⟩

theorem presentOrEmpty_eq {key : String} (hkey : Value.segments key = [key])
    (fields : List (String × Value)) :
    Seed.presentOrEmpty key fields = presentAt (.record fields) key := by
  rw [Seed.presentOrEmpty, presentAt, at?_key hkey, Seed.withDefault]
  cases Keyed.get? key fields with
  | none => rfl
  | some v => cases hpresent : v.isPresent <;> simp [Option.filter, hpresent]

theorem exists_of_ad {entry : Value} {ad : Ad} (h : Seed.ad entry = .ok ad) :
    ∃ fields, entry = .record fields ∧ Seed.requiredId "id" fields = .ok ad.id ∧
      Seed.requiredId "ad_group_id" fields = .ok ad.adGroupId ∧
      Seed.metrics fields = .ok ad.metrics ∧
      ad.status = Seed.withDefault "status" (.text "ENABLED") fields ∧
      ad.type = Seed.withDefault "type" (.text "RESPONSIVE_SEARCH_AD") fields ∧
      ad.finalUrls = presentAt (.record fields) "final_urls" ∧
      ad.headlines = presentAt (.record fields) "headlines" ∧
      ad.descriptions = presentAt (.record fields) "descriptions" := by
  simp only [Seed.ad, bind_eq_ok, Except.ok.injEq] at h
  obtain ⟨fields, hfields, id, hid, groupId, hgroup, daily, hdaily, rfl⟩ := h
  exact ⟨fields, eq_record_of_entityFields hfields, hid, hgroup, hdaily, rfl, rfl,
    presentOrEmpty_eq (by decide) fields, presentOrEmpty_eq (by decide) fields,
    presentOrEmpty_eq (by decide) fields⟩

theorem refersTo_of_requiredId {key : String} (hkey : Value.segments key = [key])
    {fields : List (String × Value)} {id : String} (h : Seed.requiredId key fields = .ok id) :
    RefersTo (.record fields) key id := by
  obtain ⟨v, hv, hid⟩ := bind_eq_ok.mp h
  exact ⟨v, at?_of_required hkey hv, hid⟩

theorem hasMembers_of_members {v : Value} {vs : List Value} (h : Seed.members v = .ok vs) :
    HasMembers v vs := by
  cases v with
  | list items =>
    obtain rfl := Except.ok.inj h
    exact .list items
  | text s =>
    obtain rfl := Except.ok.inj h
    exact .text s
  | record fields =>
    obtain rfl := Except.ok.inj h
    exact .record fields
  | _ => cases h

theorem textRecords_eq_ok {texts : Value} {v : Value} (h : Account.textRecords texts = .ok v) :
    ∃ vs, HasMembers texts vs ∧ v = .list (vs.map fun text => .record [("text", text)]) := by
  obtain ⟨vs, hvs, hv⟩ := bind_eq_ok.mp h
  exact ⟨vs, hasMembers_of_members hvs, (Except.ok.inj hv).symm⟩

/-! ### Records of entities -/

theorem at?_under_campaign (c : Campaign) (metrics : Value) {path rest : String}
    (h : Value.segments path = "campaign" :: Value.segments rest) :
    (Value.record [("customer", a.customer), ("campaign", a.campaignFields c),
      ("metrics", metrics)]).at? path = (a.campaignFields c).at? rest := by
  rw [Value.at?, h]
  rfl

theorem at?_start_campaignFields (c : Campaign) :
    (a.campaignFields c).at? "start_date" = (some c.startDate).filter Value.isPresent := by
  rw [Account.campaignFields]
  cases hstart : c.startDate.isPresent <;> cases c.targetSpendMicros <;>
    simp only [Option.filter, hstart] <;> rfl

theorem at?_target_campaignFields (c : Campaign) :
    (a.campaignFields c).at? "target_spend.target_spend_micros" =
      match c.targetSpendMicros with
      | .null => none
      | micros => some micros := by
  rw [Account.campaignFields]
  cases c.startDate.isPresent <;> cases c.targetSpendMicros <;> rfl

/-- What a record shows of a campaign of its own comes from the entry of the campaign. -/
theorem showsCampaign_of_fields {fields : List (String × Value)} {c : Campaign} (metrics : Value)
    (hbudget : (Seed.withDefault "budget_id" (.text "") fields).display = .ok c.budgetId)
    (hstart : c.startDate = Seed.withDefault "start_date" .null fields)
    (htarget : c.targetSpendMicros = Seed.withDefault "target_spend_micros" .null fields) :
    ShowsCampaign a (.record fields) (.record [("customer", a.customer),
      ("campaign", a.campaignFields c), ("metrics", metrics)]) where
  budget := by
    refine ⟨c.budgetId, ?_, rfl⟩
    rw [getD_at?_key (by decide), hbudget]
  start := by
    have hpath : Value.segments "campaign.start_date" =
        "campaign" :: Value.segments "start_date" := by decide
    rw [at?_under_campaign c metrics hpath, at?_start_campaignFields, hstart,
      some_withDefault (by decide)]
    cases (Value.record fields).at? "start_date" <;> rfl
  target := by
    have hpath : Value.segments "campaign.target_spend.target_spend_micros" =
        "campaign" :: Value.segments "target_spend.target_spend_micros" := by decide
    rw [at?_under_campaign c metrics hpath, at?_target_campaignFields, htarget,
      at?_key (by decide), Seed.withDefault]
    cases Keyed.get? "target_spend_micros" fields with
    | none => rfl
    | some v => cases v <;> rfl

theorem presentAt_eq_nil_of_not_isPresent {entry : Value} {key : String}
    (h : (presentAt entry key).isPresent = false) : presentAt entry key = .list [] := by
  unfold presentAt at h ⊢
  cases hfilter : (entry.at? key).filter Value.isPresent with
  | none => rfl
  | some v =>
    rw [hfilter, Option.getD_some, (Option.filter_eq_some_iff.mp hfilter).2] at h
    cases h

theorem headlineParts_eq_ok {v : Value} {parts : Value × Value}
    (h : Account.headlineParts v = .ok parts) :
    ∃ hs, v = .list hs ∧ parts = (hs[0]?.getD (.text ""), hs[1]?.getD (.text "")) := by
  cases v with
  | list hs => exact ⟨hs, rfl, (Except.ok.inj h).symm⟩
  | _ => cases h

theorem firstDescription_eq_ok {v first : Value} (hempty : v.isPresent = false → v = .list [])
    (h : Account.firstDescription v = .ok first) :
    ∃ ds, HasMembers v ds ∧ first = ds[0]?.getD (.text "") := by
  cases hpresent : v.isPresent with
  | false =>
    have habsent : (!v.isPresent) = true := by simp [hpresent]
    obtain rfl := Except.ok.inj ((if_pos habsent).symm.trans h)
    rw [hempty hpresent]
    exact ⟨[], .list [], rfl⟩
  | true =>
    have htext : (!v.isPresent) ≠ true := by simp [hpresent]
    cases v with
    | list ds =>
      cases ds with
      | nil => cases hpresent
      | cons d ds => exact ⟨_, .list _, (Except.ok.inj h).symm⟩
    | text s =>
      obtain rfl := Except.ok.inj ((if_neg htext).symm.trans h)
      refine ⟨_, .text s, ?_⟩
      cases hs : s.toList with
      | nil => simp [Value.isPresent, String.toList_eq_nil_iff.mp hs] at hpresent
      | cons c cs => rfl
    | _ => cases (if_neg htext).symm.trans h

theorem expandedText_eq_ok {ad : Ad} {v : Value} (h : Account.expandedText ad = .ok v) :
    ∃ hs first, ad.headlines = .list hs ∧ Account.firstDescription ad.descriptions = .ok first ∧
      v = .record [("headline_part1", hs[0]?.getD (.text "")),
        ("headline_part2", hs[1]?.getD (.text "")), ("description", first)] := by
  simp only [Account.expandedText, bind_eq_ok, Except.ok.injEq] at h
  obtain ⟨parts, hparts, first, hfirst, rfl⟩ := h
  obtain ⟨hs, hhs, rfl⟩ := headlineParts_eq_ok hparts
  exact ⟨hs, first, hhs, hfirst, rfl⟩

/-- The fields of an ad show its final URLs and its texts in the form of its type. -/
theorem adFields_eq_ok {ad : Ad} {fields : Value} (h : a.adFields ad = .ok fields) :
    ∃ urls creative, HasMembers ad.finalUrls urls ∧
      (Account.isExpanded ad = true →
        ∃ text, Account.expandedText ad = .ok text ∧ creative = ("expanded_text_ad", text)) ∧
      (Account.isExpanded ad = false →
        ∃ text, Account.responsiveText ad = .ok text ∧ creative = ("responsive_search_ad", text)) ∧
      fields = .record [
        ("resource_name", a.resource "adGroupAds" (ad.adGroupId ++ "~" ++ ad.id)),
        ("status", ad.status), ("ad_group", a.resource "adGroups" ad.adGroupId),
        ("ad", .record [
          ("id", .text ad.id), ("type", ad.type), ("final_urls", .list urls), creative])] := by
  simp only [Account.adFields, bind_eq_ok] at h
  obtain ⟨urls, hurls, h⟩ := h
  refine ⟨urls, ?_⟩
  split at h
  · rename_i hform
    obtain ⟨creative, hcreative, h⟩ := bind_eq_ok.mp h
    obtain ⟨text, htext, rfl⟩ := map_eq_ok.mp hcreative
    exact ⟨_, hasMembers_of_members hurls, fun _ => ⟨text, htext, rfl⟩,
      fun hother => absurd (hform.symm.trans hother) (by decide), (Except.ok.inj h).symm⟩
  · rename_i hform
    obtain ⟨creative, hcreative, h⟩ := bind_eq_ok.mp h
    obtain ⟨text, htext, rfl⟩ := map_eq_ok.mp hcreative
    exact ⟨_, hasMembers_of_members hurls, fun hother => absurd hother hform,
      fun _ => ⟨text, htext, rfl⟩, (Except.ok.inj h).symm⟩

theorem isExpanded_iff {ad : Ad} {fields : List (String × Value)}
    (htype : ad.type = Seed.withDefault "type" (.text "RESPONSIVE_SEARCH_AD") fields) :
    Account.isExpanded ad = true ↔
      (Value.record fields).at? "type" = some (.text "EXPANDED_TEXT_AD") := by
  rw [Account.isExpanded, htype, at?_key (by decide), Seed.withDefault]
  cases Keyed.get? "type" fields with
  | none => simp
  | some v => cases v <;> simp

/-- How the entries of a section become entities and then records. -/
structure Serves (a : Account) (source : Source) (entity : Value → Except Failure α)
    (id : α → String) (build : Nat → α → Except Failure Value) : Prop where
  hasId : ∀ {entry x}, entity entry = .ok x → HasId entry (id x)
  shows : ∀ {entry x days r}, entity entry = .ok x → build days x = .ok r →
    ShowsEntry a source days entry (id x) r

theorem serves_campaign (a : Account) :
    Serves a .campaign Seed.campaign Campaign.id a.campaignRecord where
  hasId := by
    intro entry c h
    obtain ⟨fields, rfl, hid, -⟩ := exists_of_campaign h
    exact hasId_of_requiredId hid
  shows := by
    intro entry c days r h hr
    obtain ⟨fields, rfl, -, hname, hbudget, hdaily, hstatus, hchannel, hstart, htarget⟩ :=
      exists_of_campaign h
    have hmade : entryRecord a days .campaign (.record fields) = .ok r := bind_eq_ok.mpr ⟨c, h, hr⟩
    obtain ⟨metrics, hmetrics, rfl⟩ := campaignRecord_eq_ok.mp hr
    refine ⟨hmade, rfl, ?_, ⟨c.id, rfl, rfl⟩, ⟨c.metrics, dailyCounts_of_metrics hdaily,
      showsMetrics_of_over hmetrics .campaign _ []⟩,
      showsCampaign_of_fields metrics hbudget hstart htarget⟩
    simp only [verbatim, List.forall_mem_cons]
    refine ⟨?_, ?_, ?_, List.forall_mem_nil _⟩
    · rw [at?_of_required (by decide) hname]
      rfl
    · rw [← some_withDefault (by decide), ← hstatus]
      rfl
    · rw [← some_withDefault (by decide), ← hchannel]
      rfl

theorem serves_adGroup (a : Account) :
    Serves a .adGroup Seed.adGroup AdGroup.id a.adGroupRecord where
  hasId := by
    intro entry g h
    obtain ⟨fields, rfl, hid, -⟩ := exists_of_adGroup h
    exact hasId_of_requiredId hid
  shows := by
    intro entry g days r h hr
    obtain ⟨fields, rfl, -, hcampaign, hname, hbid, hdaily, hstatus, htype⟩ := exists_of_adGroup h
    have hmade : entryRecord a days .adGroup (.record fields) = .ok r := bind_eq_ok.mpr ⟨g, h, hr⟩
    obtain ⟨metrics, hmetrics, rfl⟩ := adGroupRecord_eq_ok.mp hr
    refine ⟨hmade, rfl, ?_, ⟨g.id, rfl, rfl⟩, ⟨g.metrics, dailyCounts_of_metrics hdaily,
      showsMetrics_of_over hmetrics .adGroup _ _⟩, ?_⟩
    · simp only [verbatim, List.forall_mem_cons]
      refine ⟨?_, ?_, ?_, List.forall_mem_nil _⟩
      · rw [at?_of_required (by decide) hname]
        rfl
      · rw [← some_withDefault (by decide), ← hstatus]
        rfl
      · rw [← some_withDefault (by decide), ← htype]
        rfl
    · refine ⟨⟨g.cpcBidMicros, ?_, rfl⟩,
        ⟨g.campaignId, refersTo_of_requiredId (by decide) hcampaign, rfl⟩⟩
      rw [getD_at?_key (by decide), ← hbid, Seed.counter]

theorem serves_ad (a : Account) : Serves a .adGroupAd Seed.ad Ad.id a.adRecord where
  hasId := by
    intro entry ad h
    obtain ⟨fields, rfl, hid, -⟩ := exists_of_ad h
    exact hasId_of_requiredId hid
  shows := by
    intro entry ad days r h hr
    obtain ⟨fields, rfl, -, hgroup, hdaily, hstatus, htype, hurls, hheadlines, hdescriptions⟩ :=
      exists_of_ad h
    have hmade : entryRecord a days .adGroupAd (.record fields) = .ok r :=
      bind_eq_ok.mpr ⟨ad, h, hr⟩
    obtain ⟨own, hown, metrics, hmetrics, rfl⟩ := adRecord_eq_ok.mp hr
    obtain ⟨urls, creative, hmembers, hexpanded, hresponsive, rfl⟩ := adFields_eq_ok hown
    refine ⟨hmade, rfl, ?_, ⟨_, ⟨ad.adGroupId, rfl⟩, rfl⟩,
      ⟨ad.metrics, dailyCounts_of_metrics hdaily, showsMetrics_of_over hmetrics .adGroupAd _ _⟩, ?_⟩
    · simp only [verbatim, List.forall_mem_cons]
      refine ⟨?_, ?_, List.forall_mem_nil _⟩
      · rw [← some_withDefault (by decide), ← hstatus]
        rfl
      · rw [← some_withDefault (by decide), ← htype]
        rfl
    · refine ⟨⟨ad.adGroupId, refersTo_of_requiredId (by decide) hgroup, rfl, rfl⟩,
        ⟨urls, hurls ▸ hmembers, rfl⟩, fun hform => ?_, fun hform => ?_⟩
      · obtain ⟨text, htext, rfl⟩ := hexpanded ((isExpanded_iff htype).mpr hform)
        obtain ⟨hs, first, hhs, hfirst, rfl⟩ := expandedText_eq_ok htext
        rw [hdescriptions] at hfirst
        obtain ⟨ds, hds, rfl⟩ := firstDescription_eq_ok presentAt_eq_nil_of_not_isPresent hfirst
        exact ⟨⟨hs, hheadlines ▸ hhs, rfl, rfl⟩, ⟨ds, hds, rfl⟩⟩
      · obtain ⟨text, htext, rfl⟩ := hresponsive (by
          rw [← Bool.not_eq_true, isExpanded_iff htype]
          exact hform)
        obtain ⟨headlines, hh, descriptions, hd, htext⟩ := by
          simpa only [Account.responsiveText, bind_eq_ok] using htext
        obtain rfl := Except.ok.inj htext
        obtain ⟨hs, hhs, rfl⟩ := textRecords_eq_ok hh
        obtain ⟨ds, hds, rfl⟩ := textRecords_eq_ok hd
        exact ⟨⟨hs, hheadlines ▸ hhs, rfl⟩, ⟨ds, hdescriptions ▸ hds, rfl⟩⟩

end AdSearch.Proofs.Account.Showing
