import AdSearch.Account.Listing
import AdSearch.Proofs.Account.Tables

/-!
# Joined parents

A record of an ad group shows the campaign it belongs to, and a record of an ad its ad group and the
campaign of that.  Each is looked up by the id that the child refers to, and is shown as in its own
listing, or not at all.
-/

namespace AdSearch.Proofs.Account.Joining

open AdSearch.Proofs.Outcome AdSearch.Proofs.Account.Tables

variable {a : Account} {days : Nat}

/-! ## Listings -/

theorem list_eq_ok {name : String} {source : Source} (hname : Source.ofName name = .ok source)
    {window : Window} {records : List Value} (h : a.list name window = .ok records) :
    a.records window.days source = .ok records := by
  simpa only [Account.list, bind_eq_ok, hname, Except.ok.injEq, exists_eq_left', mapError_eq_ok]
    using h

theorem campaignRecord_eq_ok {c : Campaign} {r : Value} :
    a.campaignRecord days c = .ok r ↔ ∃ metrics, c.metrics.over days = .ok metrics ∧
      .record [("customer", a.customer), ("campaign", a.campaignFields c), ("metrics", metrics)] =
        r := by
  simp only [Account.campaignRecord, bind_eq_ok, Except.ok.injEq]

theorem adGroupRecord_eq_ok {g : AdGroup} {r : Value} :
    a.adGroupRecord days g = .ok r ↔ ∃ metrics, g.metrics.over days = .ok metrics ∧
      .record ([("customer", a.customer), ("ad_group", a.adGroupFields g), ("metrics", metrics)] ++
        a.joinedCampaign g.campaignId) = r := by
  simp only [Account.adGroupRecord, bind_eq_ok, Except.ok.injEq]

theorem adRecord_eq_ok {ad : Ad} {r : Value} :
    a.adRecord days ad = .ok r ↔ ∃ fields, a.adFields ad = .ok fields ∧
      ∃ metrics, ad.metrics.over days = .ok metrics ∧
        .record ([("customer", a.customer), ("ad_group_ad", fields), ("metrics", metrics)] ++
          a.joinedAdGroup ad.adGroupId) = r := by
  simp only [Account.adRecord, bind_eq_ok, Except.ok.injEq]

/-- A listing shows at a key each entity that counts, and no others. -/
structure Lists {α : Type} (key : String) (id : α → String) (fieldsOf : α → Value)
    (entities : List α) (listing : List Value) : Prop where
  each : ∀ r ∈ listing, ∃ x, Counts id entities x ∧ r.at? key = some (fieldsOf x)
  all : ∀ x, Counts id entities x → ∃ r ∈ listing, r.at? key = some (fieldsOf x)

theorem lists_of_each {α : Type} {key : String} {id : α → String} {fieldsOf : α → Value}
    {entities : List α} {recordOf : α → Except Failure Value} {listing : List Value}
    (h : Seed.each recordOf (Keyed.values (tableOf id entities)) = .ok listing)
    (hrecord : ∀ x r, recordOf x = .ok r → r.at? key = some (fieldsOf x)) :
    Lists key id fieldsOf entities listing where
  each r hr := by
    obtain ⟨x, hx, hxr⟩ := exists_of_mem_each h hr
    exact ⟨x, mem_values_tableOf.mp hx, hrecord x r hxr⟩
  all x hx := by
    obtain ⟨r, hr, hxr⟩ := exists_mem_of_each h (mem_values_tableOf.mpr hx)
    exact ⟨r, hr, hrecord x r hxr⟩

theorem at?_campaignRecord {c : Campaign} {r : Value} (h : a.campaignRecord days c = .ok r) :
    r.at? "campaign" = some (a.campaignFields c) := by
  obtain ⟨metrics, -, rfl⟩ := campaignRecord_eq_ok.mp h
  rfl

theorem at?_adGroupRecord {g : AdGroup} {r : Value} (h : a.adGroupRecord days g = .ok r) :
    r.at? "ad_group" = some (a.adGroupFields g) := by
  obtain ⟨metrics, -, rfl⟩ := adGroupRecord_eq_ok.mp h
  rfl

/-! ## Parents -/

/-- A mapping is the parent with an id: the listing of its kind shows this mapping with that id and
no other one, and the child refers to it by its resource name. -/
structure IsParent (key reference : String) (listing : List Value) (id : String) (child v : Value) :
    Prop where
  id_eq : v.at? "id" = some (.text id)
  referred : ∃ name, child.at? reference = some name ∧ v.at? "resource_name" = some name
  listed : ∃ own ∈ listing, own.at? key = some v
  only : ∀ own ∈ listing, ∀ w, own.at? key = some w → w.at? "id" = some (.text id) → w = v

/-- At a key, a child shows the parent with an id if an entity has that id, and nothing else. -/
def Joins {α : Type} (key reference : String) (id : α → String) (entities : List α)
    (listing : List Value) (parentId : String) (child : Value) : Prop :=
  ((child.at? key).isSome ↔ ∃ x ∈ entities, id x = parentId) ∧
    ∀ v, child.at? key = some v → IsParent key reference listing parentId child v

theorem Lists.joins {α : Type} {key reference : String} {id : α → String} {fieldsOf : α → Value}
    {entities : List α} {listing : List Value} (h : Lists key id fieldsOf entities listing)
    (hid : ∀ x, (fieldsOf x).at? "id" = some (.text (id x))) {resource : String → Value}
    (hname : ∀ x, (fieldsOf x).at? "resource_name" = some (resource (id x))) {parentId : String}
    {child : Value}
    (hchild : child.at? key = (Keyed.get? parentId (tableOf id entities)).map fieldsOf)
    (hreference : (child.at? key).isSome → child.at? reference = some (resource parentId)) :
    Joins key reference id entities listing parentId child := by
  refine ⟨by rw [hchild, Option.isSome_map, isSome_get?_tableOf], ?_⟩
  intro v hv
  have hrefers := hreference (by rw [hv]; rfl)
  rw [hchild, Option.map_eq_some_iff] at hv
  obtain ⟨x, hx, rfl⟩ := hv
  obtain ⟨hcounts, rfl⟩ := get?_tableOf.mp hx
  refine ⟨hid x, ⟨_, hrefers, hname x⟩, h.all x hcounts, ?_⟩
  intro own hown w hw hwid
  obtain ⟨y, hy, hyw⟩ := h.each own hown
  obtain rfl : w = fieldsOf y := Option.some.inj (hw.symm.trans hyw)
  have hsame : id y = id x := Value.text.inj (Option.some.inj ((hid y).symm.trans hwid))
  have hget := get?_tableOf.mpr ⟨hy, hsame⟩
  rw [hx] at hget
  rw [Option.some.inj hget]

theorem at?_id_campaignFields (c : Campaign) :
    (a.campaignFields c).at? "id" = some (.text c.id) := rfl

theorem at?_name_campaignFields (c : Campaign) :
    (a.campaignFields c).at? "resource_name" = some (a.resource "campaigns" c.id) := rfl

theorem at?_id_adGroupFields (g : AdGroup) :
    (a.adGroupFields g).at? "id" = some (.text g.id) := rfl

theorem at?_name_adGroupFields (g : AdGroup) :
    (a.adGroupFields g).at? "resource_name" = some (a.resource "adGroups" g.id) := rfl

/-- A record of an ad group joins its campaign. -/
theorem joins_campaign_of_adGroup {campaigns : List Campaign} {listing : List Value}
    (htable : a.campaigns = tableOf Campaign.id campaigns)
    (hlists : Lists "campaign" Campaign.id a.campaignFields campaigns listing) {g : AdGroup}
    {r : Value} (h : a.adGroupRecord days g = .ok r) :
    Joins "campaign" "ad_group.campaign" Campaign.id campaigns listing g.campaignId r := by
  obtain ⟨metrics, -, rfl⟩ := adGroupRecord_eq_ok.mp h
  refine hlists.joins at?_id_campaignFields at?_name_campaignFields ?_ fun _ => rfl
  rw [← htable, Account.joinedCampaign]
  cases Keyed.get? g.campaignId a.campaigns <;> rfl

theorem exists_of_adFields {ad : Ad} {fields : Value} (h : a.adFields ad = .ok fields) :
    ∃ urls creative, fields = .record [
      ("resource_name", a.resource "adGroupAds" (ad.adGroupId ++ "~" ++ ad.id)),
      ("status", ad.status), ("ad_group", a.resource "adGroups" ad.adGroupId),
      ("ad", .record [
        ("id", .text ad.id), ("type", ad.type), ("final_urls", .list urls), creative])] := by
  simp only [Account.adFields, bind_eq_ok] at h
  obtain ⟨urls, -, h⟩ := h
  split at h
  all_goals
    rw [bind_eq_ok] at h
    obtain ⟨creative, -, h⟩ := h
    exact ⟨urls, creative, (Except.ok.inj h).symm⟩

theorem at?_reference_adFields {ad : Ad} {fields : Value} (h : a.adFields ad = .ok fields) :
    fields.at? "ad_group" = some (a.resource "adGroups" ad.adGroupId) := by
  obtain ⟨urls, creative, rfl⟩ := exists_of_adFields h
  rfl

/-- A record of an ad joins its ad group. -/
theorem joins_adGroup_of_ad {adGroups : List AdGroup} {listing : List Value}
    (htable : a.adGroups = tableOf AdGroup.id adGroups)
    (hlists : Lists "ad_group" AdGroup.id a.adGroupFields adGroups listing) {ad : Ad} {r : Value}
    (h : a.adRecord days ad = .ok r) :
    Joins "ad_group" "ad_group_ad.ad_group" AdGroup.id adGroups listing ad.adGroupId r := by
  obtain ⟨fields, hfields, metrics, -, rfl⟩ := adRecord_eq_ok.mp h
  refine hlists.joins at?_id_adGroupFields at?_name_adGroupFields ?_ fun _ => ?_
  · rw [← htable, Account.joinedAdGroup]
    cases Keyed.get? ad.adGroupId a.adGroups <;> rfl
  · exact at?_reference_adFields hfields

/-- A record of an ad joins the campaign of its ad group, if it has an ad group. -/
theorem joins_campaign_of_ad {campaigns : List Campaign} {adGroups : List AdGroup}
    {listing : List Value} (hcampaigns : a.campaigns = tableOf Campaign.id campaigns)
    (hgroups : a.adGroups = tableOf AdGroup.id adGroups)
    (hlists : Lists "campaign" Campaign.id a.campaignFields campaigns listing) {ad : Ad} {r : Value}
    (h : a.adRecord days ad = .ok r) {g : AdGroup} (hg : Counts AdGroup.id adGroups g)
    (hid : g.id = ad.adGroupId) :
    Joins "campaign" "ad_group.campaign" Campaign.id campaigns listing g.campaignId r := by
  obtain ⟨fields, -, metrics, -, rfl⟩ := adRecord_eq_ok.mp h
  have hget : Keyed.get? ad.adGroupId a.adGroups = some g := by
    rw [hgroups]
    exact get?_tableOf.mpr ⟨hg, hid⟩
  have hjoined : a.joinedAdGroup ad.adGroupId =
      ("ad_group", a.adGroupFields g) :: a.joinedCampaign g.campaignId := by
    rw [Account.joinedAdGroup, hget]
  rw [hjoined]
  refine hlists.joins at?_id_campaignFields at?_name_campaignFields ?_ fun _ => rfl
  rw [← hcampaigns, Account.joinedCampaign]
  cases Keyed.get? g.campaignId a.campaigns <;> rfl

theorem at?_campaign_of_no_adGroup {ad : Ad} {r : Value} (h : a.adRecord days ad = .ok r)
    (hget : Keyed.get? ad.adGroupId a.adGroups = none) : r.at? "campaign" = none := by
  obtain ⟨fields, -, metrics, -, rfl⟩ := adRecord_eq_ok.mp h
  rw [Account.joinedAdGroup, hget]
  rfl

/-- A record of an ad shows a campaign if its ad group is there, and the campaign of that. -/
theorem isSome_campaign_of_ad {campaigns : List Campaign} {adGroups : List AdGroup}
    {listing : List Value} (hcampaigns : a.campaigns = tableOf Campaign.id campaigns)
    (hgroups : a.adGroups = tableOf AdGroup.id adGroups)
    (hlists : Lists "campaign" Campaign.id a.campaignFields campaigns listing) {ad : Ad} {r : Value}
    (h : a.adRecord days ad = .ok r) :
    (r.at? "campaign").isSome ↔ ∃ g, Counts AdGroup.id adGroups g ∧ g.id = ad.adGroupId ∧
      ∃ c ∈ campaigns, c.id = g.campaignId := by
  constructor
  · intro hsome
    cases hget : Keyed.get? ad.adGroupId a.adGroups with
    | none =>
      rw [at?_campaign_of_no_adGroup h hget] at hsome
      cases hsome
    | some g =>
      rw [hgroups] at hget
      obtain ⟨hg, hid⟩ := get?_tableOf.mp hget
      exact ⟨g, hg, hid, (joins_campaign_of_ad hcampaigns hgroups hlists h hg hid).1.mp hsome⟩
  · rintro ⟨g, hg, hid, hc⟩
    exact (joins_campaign_of_ad hcampaigns hgroups hlists h hg hid).1.mpr hc

/-- Joined parents are the right ones, or absent.  In the account of a seed, with dangling ids and
repeated ones, a record of an ad group shows a campaign exactly if some campaign has the id that the
ad group refers to; a record of an ad shows an ad group exactly if some ad group has the id that the
ad refers to, and a campaign exactly if that ad group is there and its campaign is.  What is shown
is the parent as its own listing shows it. -/
theorem joined_parents {seed : Value} (h : Seed.accountOf seed = .ok a) {window : Window}
    {campaignRecords adGroupRecords adRecords : List Value}
    (hcampaigns : a.list "campaign" window = .ok campaignRecords)
    (hgroups : a.list "ad_group" window = .ok adGroupRecords)
    (hads : a.list "ad_group_ad" window = .ok adRecords) :
    ∃ campaigns adGroups ads, States seed campaigns adGroups ads ∧
      (∀ r ∈ adGroupRecords, ∃ g, Counts AdGroup.id adGroups g ∧
        r.at? "ad_group" = some (a.adGroupFields g) ∧
        Joins "campaign" "ad_group.campaign" Campaign.id campaigns campaignRecords g.campaignId
          r) ∧
      ∀ r ∈ adRecords, ∃ ad fields, Counts Ad.id ads ad ∧ a.adFields ad = .ok fields ∧
        r.at? "ad_group_ad" = some fields ∧
        Joins "ad_group" "ad_group_ad.ad_group" AdGroup.id adGroups adGroupRecords ad.adGroupId
          r ∧
        ((r.at? "campaign").isSome ↔ ∃ g, Counts AdGroup.id adGroups g ∧ g.id = ad.adGroupId ∧
          ∃ c ∈ campaigns, c.id = g.campaignId) ∧
        ∀ g, Counts AdGroup.id adGroups g → g.id = ad.adGroupId →
          Joins "campaign" "ad_group.campaign" Campaign.id campaigns campaignRecords g.campaignId
            r := by
  obtain ⟨campaigns, adGroups, ads, hstates, hcampaignTable, hgroupTable, hadTable⟩ :=
    exists_states h
  have hcampaigns := list_eq_ok (show Source.ofName _ = .ok .campaign from rfl) hcampaigns
  have hgroups := list_eq_ok (show Source.ofName _ = .ok .adGroup from rfl) hgroups
  have hads := list_eq_ok (show Source.ofName _ = .ok .adGroupAd from rfl) hads
  rw [Account.records, hcampaignTable] at hcampaigns
  rw [Account.records, hgroupTable] at hgroups
  rw [Account.records, hadTable] at hads
  have hcampaignList := lists_of_each hcampaigns fun _ _ => at?_campaignRecord
  have hgroupList := lists_of_each hgroups fun _ _ => at?_adGroupRecord
  refine ⟨campaigns, adGroups, ads, hstates, ?_, ?_⟩
  · intro r hr
    obtain ⟨g, hg, hgr⟩ := exists_of_mem_each hgroups hr
    exact ⟨g, mem_values_tableOf.mp hg, at?_adGroupRecord hgr,
      joins_campaign_of_adGroup hcampaignTable hcampaignList hgr⟩
  · intro r hr
    obtain ⟨ad, had, hadr⟩ := exists_of_mem_each hads hr
    obtain ⟨fields, hfields, metrics, -, hrecord⟩ := adRecord_eq_ok.mp hadr
    refine ⟨ad, fields, mem_values_tableOf.mp had, hfields, hrecord ▸ rfl,
      joins_adGroup_of_ad hgroupTable hgroupList hadr,
      isSome_campaign_of_ad hcampaignTable hgroupTable hcampaignList hadr, ?_⟩
    intro g hg hid
    exact joins_campaign_of_ad hcampaignTable hgroupTable hcampaignList hadr hg hid

/-- A seed with two campaigns of one id, an ad group without a campaign and an ad without an ad
group, where some ids are numbers and some are texts. -/
def mixedSeed : Value := .record [
  ("customer_id", .int 1),
  ("campaigns", .list [
    .record [("id", .int 7), ("name", .text "first")],
    .record [("id", .text "7"), ("name", .text "second")]]),
  ("ad_groups", .list [
    .record [("id", .int 3), ("campaign_id", .int 7), ("name", .text "kept")],
    .record [("id", .text "4"), ("campaign_id", .text "8"), ("name", .text "astray")]]),
  ("ad_group_ads", .list [
    .record [("id", .int 1), ("ad_group_id", .text "3")],
    .record [("id", .int 2), ("ad_group_id", .int 4)],
    .record [("id", .int 5), ("ad_group_id", .int 6)]])]

/-- Some days at the turn of a year. -/
def someWindow : Window :=
  ⟨⟨2022, 12, 29, by decide, by decide, by decide, by decide⟩,
    ⟨2023, 1, 6, by decide, by decide, by decide, by decide⟩⟩

theorem joined_parents_mixedSeed :
    ∃ a campaignRecords adGroupRecords adRecords, Seed.accountOf mixedSeed = .ok a ∧
      a.list "campaign" someWindow = .ok campaignRecords ∧
      a.list "ad_group" someWindow = .ok adGroupRecords ∧
      a.list "ad_group_ad" someWindow = .ok adRecords ∧
      adGroupRecords.map (fun r => (r.at? "campaign").isSome) = [true, false] ∧
      adRecords.map (fun r => ((r.at? "ad_group").isSome, (r.at? "campaign").isSome)) =
        [(true, true), (true, false), (false, false)] ∧
      ∃ campaigns adGroups ads, States mixedSeed campaigns adGroups ads ∧
        ∀ r ∈ adGroupRecords, ∃ g, Counts AdGroup.id adGroups g ∧
          Joins "campaign" "ad_group.campaign" Campaign.id campaigns campaignRecords g.campaignId
            r := by
  obtain ⟨a, ha⟩ : ∃ a, Seed.accountOf mixedSeed = .ok a := ⟨_, rfl⟩
  obtain ⟨campaignRecords, hcampaigns⟩ : ∃ rs, a.list "campaign" someWindow = .ok rs := by
    cases ha
    exact ⟨_, rfl⟩
  obtain ⟨adGroupRecords, hgroups, hshownGroups⟩ : ∃ rs, a.list "ad_group" someWindow = .ok rs ∧
      rs.map (fun r => (r.at? "campaign").isSome) = [true, false] := by
    cases ha
    exact ⟨_, rfl, rfl⟩
  obtain ⟨adRecords, hads, hshownAds⟩ : ∃ rs, a.list "ad_group_ad" someWindow = .ok rs ∧
      rs.map (fun r => ((r.at? "ad_group").isSome, (r.at? "campaign").isSome)) =
        [(true, true), (true, false), (false, false)] := by
    cases ha
    exact ⟨_, rfl, rfl⟩
  obtain ⟨campaigns, adGroups, ads, hstates, hjoins, -⟩ :=
    joined_parents ha hcampaigns hgroups hads
  refine ⟨a, campaignRecords, adGroupRecords, adRecords, ha, hcampaigns, hgroups, hads,
    hshownGroups, hshownAds, campaigns, adGroups, ads, hstates, ?_⟩
  intro r hr
  obtain ⟨g, hg, -, hjoin⟩ := hjoins r hr
  exact ⟨g, hg, hjoin⟩

end AdSearch.Proofs.Account.Joining
