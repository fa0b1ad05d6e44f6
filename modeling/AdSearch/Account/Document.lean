import AdSearch.Account.Seed
import AdSearch.Yaml.Document

/-!
# Accounts from documents

A seed is kept as a document.  One without content is an empty account.
-/

namespace AdSearch

/-- Why a document is no account. -/
inductive LoadError where
  | unreadable (fault : Yaml.Fault)
  | unfit (failure : Failure)
deriving DecidableEq

def Account.ofDocument (text : String) : Except LoadError Account :=
  match Yaml.read text with
  | .error fault => .error (.unreadable fault)
  | .ok seed =>
    match Seed.accountOf seed with
    | .error failure => .error (.unfit failure)
    | .ok account => .ok account

end AdSearch
