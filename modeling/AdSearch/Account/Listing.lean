import AdSearch.Account.Seed
import AdSearch.Calendar.Window
import AdSearch.Text.Case

/-!
# Listings

A listing has one record for each entity of a resource, in order, with the customer, the entity, its
metrics over the window, and the entities it belongs to, if they are there.
-/

namespace AdSearch

inductive Source where
  | campaign
  | adGroup
  | adGroupAd
deriving DecidableEq

namespace Source

def name : Source → String
  | campaign => "campaign"
  | adGroup => "ad_group"
  | adGroupAd => "ad_group_ad"

def all : List Source := [campaign, adGroup, adGroupAd]

def names : List String := all.map name

/-- The resource with a name, in any letter case. -/
def ofName? (s : String) : Option Source :=
  let lowered := String.ofList (Text.lower s.toList)
  all.find? fun source => source.name == lowered

/-- The resource with a name, or the fault that names the supported ones. -/
def ofName (s : String) : Except SearchError Source :=
  match ofName? s with
  | some source => .ok source
  | none => .error (.request (.unsupportedResource s names))

end Source

namespace Account

/-- The path of an entity of the account. -/
def resource (a : Account) (collection id : String) : Value :=
  .text ("customers/" ++ a.customerId ++ "/" ++ collection ++ "/" ++ id)

def customer (a : Account) : Value :=
  .record [("id", .text a.customerId), ("resource_name", .text ("customers/" ++ a.customerId))]

def campaignFields (a : Account) (c : Campaign) : Value :=
  let start := if c.startDate.isPresent then [("start_date", c.startDate)] else []
  let target := match c.targetSpendMicros with
    | .null => []
    | micros => [("target_spend", .record [("target_spend_micros", micros)])]
  .record ([
    ("resource_name", a.resource "campaigns" c.id), ("id", .text c.id), ("name", c.name),
    ("status", c.status), ("advertising_channel_type", c.channelType),
    ("campaign_budget", a.resource "campaignBudgets" c.budgetId)] ++ start ++ target)

def adGroupFields (a : Account) (g : AdGroup) : Value :=
  .record [
    ("resource_name", a.resource "adGroups" g.id), ("id", .text g.id), ("name", g.name),
    ("status", g.status), ("type", g.type), ("cpc_bid_micros", .int g.cpcBidMicros),
    ("campaign", a.resource "campaigns" g.campaignId)]

/-- The first two headlines, each empty where there is none. -/
def headlineParts : Value → Except Failure (Value × Value)
  | .list headlines => .ok (headlines[0]?.getD (.text ""), headlines[1]?.getD (.text ""))
  | _ => .error .wrongKind

/-- What stands first in descriptions, empty where there are none. -/
def firstDescription (descriptions : Value) : Except Failure Value :=
  if !descriptions.isPresent then .ok (.text "")
  else match descriptions with
    | .list (first :: _) => .ok first
    | .text s => .ok (.text (String.ofList (s.toList.take 1)))
    | .record _ => .error .missingFirst
    | _ => .error .wrongKind

def expandedText (ad : Ad) : Except Failure Value := do
  let parts ← headlineParts ad.headlines
  let description ← firstDescription ad.descriptions
  .ok (.record [
    ("headline_part1", parts.1), ("headline_part2", parts.2), ("description", description)])

def textRecords (texts : Value) : Except Failure Value := do
  let texts ← Seed.members texts
  .ok (.list (texts.map fun text => .record [("text", text)]))

def responsiveText (ad : Ad) : Except Failure Value := do
  let headlines ← textRecords ad.headlines
  let descriptions ← textRecords ad.descriptions
  .ok (.record [("headlines", headlines), ("descriptions", descriptions)])

/-- Whether an ad has the expanded form. -/
def isExpanded (ad : Ad) : Bool :=
  match ad.type with
  | .text s => s == "EXPANDED_TEXT_AD"
  | _ => false

def adFields (a : Account) (ad : Ad) : Except Failure Value := do
  let urls ← Seed.members ad.finalUrls
  let creative ←
    if isExpanded ad then (expandedText ad).map fun text => ("expanded_text_ad", text)
    else (responsiveText ad).map fun text => ("responsive_search_ad", text)
  .ok (.record [
    ("resource_name", a.resource "adGroupAds" (ad.adGroupId ++ "~" ++ ad.id)),
    ("status", ad.status), ("ad_group", a.resource "adGroups" ad.adGroupId),
    ("ad", .record [
      ("id", .text ad.id), ("type", ad.type), ("final_urls", .list urls), creative])])

/-- The campaign with an id, as a field of a record. -/
def joinedCampaign (a : Account) (id : String) : List (String × Value) :=
  match Keyed.get? id a.campaigns with
  | some c => [("campaign", a.campaignFields c)]
  | none => []

/-- The ad group with an id and its campaign, as fields of a record. -/
def joinedAdGroup (a : Account) (id : String) : List (String × Value) :=
  match Keyed.get? id a.adGroups with
  | some g => ("ad_group", a.adGroupFields g) :: a.joinedCampaign g.campaignId
  | none => []

def campaignRecord (a : Account) (days : Nat) (c : Campaign) : Except Failure Value := do
  let metrics ← c.metrics.over days
  .ok (.record [
    ("customer", a.customer), ("campaign", a.campaignFields c), ("metrics", metrics)])

def adGroupRecord (a : Account) (days : Nat) (g : AdGroup) : Except Failure Value := do
  let metrics ← g.metrics.over days
  .ok (.record ([
    ("customer", a.customer), ("ad_group", a.adGroupFields g), ("metrics", metrics)] ++
      a.joinedCampaign g.campaignId))

def adRecord (a : Account) (days : Nat) (ad : Ad) : Except Failure Value := do
  let fields ← a.adFields ad
  let metrics ← ad.metrics.over days
  .ok (.record ([
    ("customer", a.customer), ("ad_group_ad", fields), ("metrics", metrics)] ++
      a.joinedAdGroup ad.adGroupId))

/-- The records of a resource over a number of days. -/
def records (a : Account) (days : Nat) : Source → Except Failure (List Value)
  | .campaign => Seed.each (a.campaignRecord days) (Keyed.values a.campaigns)
  | .adGroup => Seed.each (a.adGroupRecord days) (Keyed.values a.adGroups)
  | .adGroupAd => Seed.each (a.adRecord days) (Keyed.values a.ads)

/-- The records of the resource with a name over a window. -/
def list (a : Account) (source : String) (window : Window) : Except SearchError (List Value) := do
  let source ← Source.ofName source
  (a.records window.days source).mapError .failure

end Account

end AdSearch
