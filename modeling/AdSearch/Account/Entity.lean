import AdSearch.Account.Metrics

/-!
# Entities of an account

What a seed leaves open stays a value: names, states and creatives are shown as they are given.
-/

namespace AdSearch

structure Campaign where
  id : String
  name : Value
  status : Value
  channelType : Value
  budgetId : String
  startDate : Value
  targetSpendMicros : Value
  metrics : DailyMetrics

/-- An ad group, which belongs to the campaign with an id. -/
structure AdGroup where
  id : String
  campaignId : String
  name : Value
  status : Value
  type : Value
  cpcBidMicros : Int
  metrics : DailyMetrics

/-- An ad, which belongs to the ad group with an id. -/
structure Ad where
  id : String
  adGroupId : String
  status : Value
  type : Value
  finalUrls : Value
  headlines : Value
  descriptions : Value
  metrics : DailyMetrics

/-- An account: its entities by id, in the order in which the ids first came. -/
structure Account where
  customerId : String
  campaigns : List (String × Campaign)
  adGroups : List (String × AdGroup)
  ads : List (String × Ad)

end AdSearch
