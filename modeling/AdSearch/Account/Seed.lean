import AdSearch.Account.Entity
import AdSearch.Value.Number
import AdSearch.Value.Text

/-!
# Accounts from seeds

A seed is a mapping with a customer id and lists of campaigns, ad groups and ads.  Ids are compared
as text.  Missing entries have defaults, except ids and names.
-/

namespace AdSearch.Seed

/-- The fields of an entity: its `id` is looked up before anything else. -/
def entityFields : Value → Except Failure (List (String × Value))
  | .record fields => .ok fields
  | _ => .error .wrongKind

/-- An entry that must be there. -/
def required (key : String) (fields : List (String × Value)) : Except Failure Value :=
  match Keyed.get? key fields with
  | some v => .ok v
  | none => .error (.missingKey key)

/-- An entry with a default. -/
def withDefault (key : String) (default : Value) (fields : List (String × Value)) : Value :=
  (Keyed.get? key fields).getD default

/-- An id, as text. -/
def requiredId (key : String) (fields : List (String × Value)) : Except Failure String := do
  (← required key fields).display

/-- A counter, which is zero by default. -/
def counter (key : String) (fields : List (String × Value)) : Except Failure Int :=
  (withDefault key (.int 0) fields).toInteger

def metrics (fields : List (String × Value)) : Except Failure DailyMetrics :=
  let given := withDefault "metrics_per_day" .null fields
  if !given.isPresent then .ok .none
  else match given with
    | .record counters => do
      let impressions ← counter "impressions" counters
      let clicks ← counter "clicks" counters
      let costMicros ← counter "cost_micros" counters
      let conversions ← counter "conversions" counters
      .ok ⟨impressions, clicks, costMicros, conversions⟩
    | _ => .error .noMember

def campaign (seed : Value) : Except Failure Campaign := do
  let fields ← entityFields seed
  let id ← requiredId "id" fields
  let name ← required "name" fields
  let budgetId ← (withDefault "budget_id" (.text "") fields).display
  let metrics ← metrics fields
  .ok {
    id, name, budgetId, metrics
    status := withDefault "status" (.text "PAUSED") fields
    channelType := withDefault "advertising_channel_type" (.text "SEARCH") fields
    startDate := withDefault "start_date" .null fields
    targetSpendMicros := withDefault "target_spend_micros" .null fields }

def adGroup (seed : Value) : Except Failure AdGroup := do
  let fields ← entityFields seed
  let id ← requiredId "id" fields
  let campaignId ← requiredId "campaign_id" fields
  let name ← required "name" fields
  let cpcBidMicros ← counter "cpc_bid_micros" fields
  let metrics ← metrics fields
  .ok {
    id, campaignId, name, cpcBidMicros, metrics
    status := withDefault "status" (.text "ENABLED") fields
    type := withDefault "type" (.text "SEARCH_STANDARD") fields }

/-- An entry that counts as an empty list unless something is there. -/
def presentOrEmpty (key : String) (fields : List (String × Value)) : Value :=
  let given := withDefault key .null fields
  if given.isPresent then given else .list []

def ad (seed : Value) : Except Failure Ad := do
  let fields ← entityFields seed
  let id ← requiredId "id" fields
  let adGroupId ← requiredId "ad_group_id" fields
  let metrics ← metrics fields
  .ok {
    id, adGroupId, metrics
    status := withDefault "status" (.text "ENABLED") fields
    type := withDefault "type" (.text "RESPONSIVE_SEARCH_AD") fields
    finalUrls := presentOrEmpty "final_urls" fields
    headlines := presentOrEmpty "headlines" fields
    descriptions := presentOrEmpty "descriptions" fields }

/-- The members of a value: the items of a list, the characters of a text, the keys of a
mapping. -/
def members : Value → Except Failure (List Value)
  | .list items => .ok items
  | .text s => .ok (s.toList.map fun c => .text (String.singleton c))
  | .record fields => .ok (fields.map fun entry => .text entry.1)
  | _ => .error .wrongKind

/-- The results for all items, in order, or the first failure. -/
def each {α β : Type} (f : α → Except Failure β) : List α → Except Failure (List β)
  | [] => .ok []
  | a :: rest => do
    let head ← f a
    let tail ← each f rest
    .ok (head :: tail)

/-- The entities of a section of a seed. -/
def entities {α : Type} (entity : Value → Except Failure α) (key : String)
    (fields : List (String × Value)) : Except Failure (List α) := do
  each entity (← members (withDefault key (.list []) fields))

def account (seed : List (String × Value)) : Except Failure Account := do
  let campaigns ← entities campaign "campaigns" seed
  let adGroups ← entities adGroup "ad_groups" seed
  let ads ← entities ad "ad_group_ads" seed
  let customerId ← (withDefault "customer_id" (.text "") seed).display
  .ok {
    customerId
    campaigns := Keyed.ofEntries (campaigns.map fun c => (c.id, c))
    adGroups := Keyed.ofEntries (adGroups.map fun g => (g.id, g))
    ads := Keyed.ofEntries (ads.map fun a => (a.id, a)) }

/-- The account of what a seed file holds: a mapping, or nothing. -/
def accountOf (seed : Value) : Except Failure Account :=
  if !seed.isPresent then account []
  else match seed with
    | .record fields => account fields
    | _ => .error .noMember

end AdSearch.Seed
