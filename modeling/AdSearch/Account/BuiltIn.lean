import AdSearch.Account.Entity

/-!
# The built-in account

A small account for trying out the service: twelve campaigns, six ad groups and four ads.
-/

namespace AdSearch.BuiltIn

/-- A campaign with a name, a state, a channel, a budget, a first day and counters. -/
def campaign (id name status channel budget start : String) (metrics : DailyMetrics) :
    Campaign where
  id := id
  name := .text name
  status := .text status
  channelType := .text channel
  budgetId := budget
  startDate := .text start
  targetSpendMicros := .null
  metrics := metrics

def campaigns : List Campaign := [
  { campaign "9876543210" "Sample Search Campaign" "ENABLED" "SEARCH"
    "1111111111" "2024-01-15" ⟨1200, 48, 36000000, 3⟩ with
    targetSpendMicros := .int 10000000 },
  campaign "9876543211" "Spring Sale 2025" "ENABLED" "SEARCH"
    "1111111112" "2025-03-01" ⟨5400, 162, 97200000, 9⟩,
  campaign "9876543212" "Black Friday 2025" "PAUSED" "SHOPPING"
    "1111111113" "2025-11-01" ⟨0, 0, 0, 0⟩,
  campaign "9876543213" "Brand Awareness 2025" "ENABLED" "DISPLAY"
    "1111111114" "2025-01-10" ⟨42000, 210, 63000000, 2⟩,
  campaign "9876543214" "Retargeting Always On" "ENABLED" "DISPLAY"
    "1111111115" "2024-06-01" ⟨8800, 132, 52800000, 11⟩,
  campaign "9876543215" "Product Launch Video" "PAUSED" "VIDEO"
    "1111111116" "2025-05-20" ⟨15000, 75, 30000000, 1⟩,
  campaign "9876543216" "Holiday Special 2025" "REMOVED" "SEARCH"
    "1111111117" "2024-12-01" ⟨0, 0, 0, 0⟩,
  campaign "9876543217" "Lead Generation Q3" "ENABLED" "SEARCH"
    "1111111118" "2025-07-01" ⟨3100, 124, 74400000, 14⟩,
  campaign "9876543218" "Summer Campaign 2025" "PAUSED" "MULTI_CHANNEL"
    "1111111119" "2025-06-01" ⟨9600, 96, 28800000, 4⟩,
  campaign "9876543219" "Loyalty Program" "ENABLED" "SEARCH"
    "1111111120" "2024-09-15" ⟨2200, 110, 44000000, 12⟩,
  campaign "9876543220" "Flash Sale Shopping" "ENABLED" "SHOPPING"
    "1111111121" "2025-08-08" ⟨6700, 201, 80400000, 16⟩,
  campaign "9876543221" "New Customer Search" "ENABLED" "SEARCH"
    "1111111122" "2025-02-14" ⟨1900, 57, 39900000, 5⟩]

/-- An ad group of a campaign with a name, a state, a type, a bid and counters. -/
def adGroup (id campaignId name status type : String) (bid : Int) (metrics : DailyMetrics) :
    AdGroup where
  id := id
  campaignId := campaignId
  name := .text name
  status := .text status
  type := .text type
  cpcBidMicros := bid
  metrics := metrics

def adGroups : List AdGroup := [
  adGroup "5555555501" "9876543210" "Running Shoes" "ENABLED" "SEARCH_STANDARD"
    1000000 ⟨700, 30, 22000000, 2⟩,
  adGroup "5555555502" "9876543210" "Trail Shoes" "PAUSED" "SEARCH_STANDARD"
    1200000 ⟨500, 18, 14000000, 1⟩,
  adGroup "5555555503" "9876543211" "Spring Jackets" "ENABLED" "SEARCH_STANDARD"
    800000 ⟨5400, 162, 97200000, 9⟩,
  adGroup "5555555504" "9876543213" "Awareness Banners" "ENABLED" "DISPLAY_STANDARD"
    300000 ⟨42000, 210, 63000000, 2⟩,
  adGroup "5555555505" "9876543214" "Cart Abandoners" "ENABLED" "DISPLAY_STANDARD"
    450000 ⟨8800, 132, 52800000, 11⟩,
  adGroup "5555555506" "9876543217" "B2B Leads" "ENABLED" "SEARCH_STANDARD"
    2500000 ⟨3100, 124, 74400000, 14⟩]

def texts (ss : List String) : Value := .list (ss.map .text)

/-- An ad of an ad group with a state, a type, addresses, headlines, descriptions and counters. -/
def ad (id adGroupId status type : String) (urls headlines descriptions : List String)
    (metrics : DailyMetrics) : Ad where
  id := id
  adGroupId := adGroupId
  status := .text status
  type := .text type
  finalUrls := texts urls
  headlines := texts headlines
  descriptions := texts descriptions
  metrics := metrics

def ads : List Ad := [
  ad "7777777701" "5555555501" "ENABLED" "RESPONSIVE_SEARCH_AD"
    ["https://example.com/running"]
    ["Fast Running Shoes", "Free Shipping Today", "Shop The Sale"]
    ["Lightweight shoes for every runner.", "Order now and save 20%."]
    ⟨400, 18, 13000000, 1⟩,
  ad "7777777702" "5555555501" "PAUSED" "EXPANDED_TEXT_AD"
    ["https://example.com/running?v=2"]
    ["Running Shoes Sale", "Top Brands"]
    ["Find your perfect fit."]
    ⟨300, 12, 9000000, 1⟩,
  ad "7777777703" "5555555503" "ENABLED" "RESPONSIVE_SEARCH_AD"
    ["https://example.com/jackets"]
    ["Spring Jackets", "New Season Styles", "Waterproof Picks"]
    ["Stay dry this spring.", "Free returns on all jackets."]
    ⟨5400, 162, 97200000, 9⟩,
  ad "7777777704" "5555555506" "ENABLED" "RESPONSIVE_SEARCH_AD"
    ["https://example.com/b2b"]
    ["Grow Your Pipeline", "Book A Demo", "Trusted By Teams"]
    ["Qualified leads delivered weekly."]
    ⟨3100, 124, 74400000, 14⟩]

def account : Account where
  customerId := "1234567890"
  campaigns := Keyed.ofEntries (campaigns.map fun c => (c.id, c))
  adGroups := Keyed.ofEntries (adGroups.map fun g => (g.id, g))
  ads := Keyed.ofEntries (ads.map fun a => (a.id, a))

end AdSearch.BuiltIn
