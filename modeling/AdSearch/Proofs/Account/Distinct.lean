import AdSearch.Proofs.Account.Showing

/-!
# One record for each id

A section of a seed may have several entries with one id.  A listing has one record for all of them:
it stands where the id first comes, and is made of the entry where the id last comes.
-/

namespace AdSearch.Proofs.Account.Distinct

open AdSearch.Proofs.Outcome AdSearch.Proofs.Account.Tables AdSearch.Proofs.Account.Joining
  AdSearch.Proofs.Account.Counters AdSearch.Proofs.Account.Showing

variable {α β γ : Type} {a : Account} {source : Source} {days : Nat}

/-! ## Entries that count -/

/-- The section of a seed that a resource lists. -/
def sectionKey : Source → String
  | .campaign => "campaigns"
  | .adGroup => "ad_groups"
  | .adGroupAd => "ad_group_ads"

/-- An entry is the last one with its id. -/
def IsLast (id : String) (entries : List Value) (entry : Value) : Prop :=
  ∃ before after, entries = before ++ entry :: after ∧ HasId entry id ∧
    ∀ later ∈ after, ¬HasId later id

theorem exists_mem_of_forall₂ {R : α → β → Prop} {xs : List α} {ys : List β}
    (h : List.Forall₂ R xs ys) {x : α} (hx : x ∈ xs) : ∃ y ∈ ys, R x y := by
  induction h with
  | nil => cases hx
  | cons hxy _ ih =>
    rcases List.mem_cons.mp hx with rfl | hx
    · exact ⟨_, List.mem_cons_self, hxy⟩
    · obtain ⟨y, hy, hxy⟩ := ih hx
      exact ⟨y, List.mem_cons_of_mem _ hy, hxy⟩

theorem entities_eq_ok {entity : Value → Except Failure α} {key : String}
    {fields : List (String × Value)} {xs : List α} :
    Seed.entities entity key fields = .ok xs ↔
      ∃ entries, Seed.members (Seed.withDefault key (.list []) fields) = .ok entries ∧
        List.Forall₂ (fun entry x => entity entry = .ok x) entries xs := by
  simp only [Seed.entities, bind_eq_ok, each_eq_ok]

/-- An entity that counts comes from the last entry with its id. -/
theorem exists_isLast {entity : Value → Except Failure α} {id : α → String}
    (hid : ∀ {entry x}, entity entry = .ok x → HasId entry (id x)) {entries : List Value}
    {xs : List α} (h : List.Forall₂ (fun entry x => entity entry = .ok x) entries xs) {x : α}
    (hx : Counts id xs x) : ∃ entry, IsLast (id x) entries entry ∧ entity entry = .ok x := by
  obtain ⟨before, after, rfl, hafter⟩ := hx
  have hdrop := List.forall₂_drop_append _ _ _ h
  obtain ⟨entry, later, hentry, hlater, hsplit⟩ := List.forall₂_cons_right_iff.mp hdrop
  refine ⟨entry, ⟨entries.take before.length, later, ?_, hid hentry, ?_⟩, hentry⟩
  · rw [← hsplit, List.take_append_drop]
  · intro other hother hsame
    obtain ⟨y, hy, hyother⟩ := exists_mem_of_forall₂ hlater hother
    exact hafter y hy ((hid hyother).unique hsame)

/-- Records of the entities that count stand in the order in which the ids first come. -/
theorem forall₂_listing {id : α → String} {build : α → Except Failure Value} {xs : List α}
    {listing : List Value} {S : String → Value → Prop}
    (h : Seed.each build (Keyed.values (tableOf id xs)) = .ok listing)
    (hS : ∀ x r, Counts id xs x → build x = .ok r → S (id x) r) :
    List.Forall₂ S (xs.map id).eraseDups listing := by
  rw [each_eq_ok, Keyed.values, List.forall₂_map_left_iff] at h
  rw [← keys_tableOf, Keyed.keys, List.forall₂_map_left_iff]
  have hcounts : ∀ entry ∈ tableOf id xs, Counts id xs entry.2 ∧ id entry.2 = entry.1 :=
    fun entry hentry => get?_tableOf.mp (get?_of_mem (Keyed.nodup_keys_ofEntries _) hentry)
  refine ((List.forall₂_and_left _ _).mpr ⟨hcounts, h⟩).imp ?_
  rintro entry r ⟨⟨hx, hkey⟩, hr⟩
  rw [← hkey]
  exact hS entry.2 r hx hr

/-! ## Listings -/

/-- A record shows the last entry with an id. -/
def ShowsLast (a : Account) (source : Source) (days : Nat) (entries : List Value) (id : String)
    (r : Value) : Prop :=
  ∃ entry, IsLast id entries entry ∧ ShowsEntry a source days entry id r

theorem exists_ids_of_serves {entity : Value → Except Failure α} {id : α → String}
    {build : Nat → α → Except Failure Value} (h : Serves a source entity id build)
    {fields : List (String × Value)} {xs : List α}
    (hxs : Seed.entities entity (sectionKey source) fields = .ok xs) {listing : List Value}
    (hlisting : Seed.each (build days) (Keyed.values (tableOf id xs)) = .ok listing) :
    ∃ entries ids, Seed.members (Seed.withDefault (sectionKey source) (.list []) fields) =
        .ok entries ∧ List.Forall₂ HasId entries ids ∧
      List.Forall₂ (ShowsLast a source days entries) ids.eraseDups listing := by
  obtain ⟨entries, hentries, hparsed⟩ := entities_eq_ok.mp hxs
  refine ⟨entries, xs.map id, hentries, ?_, ?_⟩
  · rw [List.forall₂_map_right_iff]
    exact hparsed.imp fun _ _ => h.hasId
  · apply forall₂_listing hlisting
    intro x r hx hr
    obtain ⟨entry, hlast, hentry⟩ := exists_isLast h.hasId hparsed hx
    exact ⟨entry, hlast, h.shows hentry hr⟩

theorem exists_ids {seed : Value} (h : Seed.accountOf seed = .ok a) {listing : List Value}
    (hlisting : a.records days source = .ok listing) :
    ∃ entries ids, Seed.members (Seed.withDefault (sectionKey source) (.list []) (sections seed)) =
        .ok entries ∧ List.Forall₂ HasId entries ids ∧
      List.Forall₂ (ShowsLast a source days entries) ids.eraseDups listing := by
  obtain ⟨campaigns, adGroups, ads, hstates, hcampaigns, hgroups, hads⟩ := exists_states h
  cases source with
  | campaign =>
    rw [Account.records, hcampaigns] at hlisting
    exact exists_ids_of_serves (serves_campaign a) hstates.campaigns hlisting
  | adGroup =>
    rw [Account.records, hgroups] at hlisting
    exact exists_ids_of_serves (serves_adGroup a) hstates.adGroups hlisting
  | adGroupAd =>
    rw [Account.records, hads] at hlisting
    exact exists_ids_of_serves (serves_ad a) hstates.ads hlisting

/-! ## Resource names -/

theorem eq_of_append_cons {c : Char} {xs ys xs' ys' : List Char} (hys : c ∉ ys) (hys' : c ∉ ys')
    (h : xs ++ c :: ys = xs' ++ c :: ys') : ys = ys' := by
  rcases List.append_eq_append_iff.mp h with ⟨zs, -, htail⟩ | ⟨zs, -, htail⟩
  · cases zs with
    | nil => exact (List.cons.inj htail).2
    | cons d zs =>
      refine absurd ?_ hys
      rw [(List.cons.inj htail).2]
      exact List.mem_append_right _ List.mem_cons_self
  · cases zs with
    | nil => exact (List.cons.inj htail).2.symm
    | cons d zs =>
      refine absurd ?_ hys'
      rw [(List.cons.inj htail).2]
      exact List.mem_append_right _ List.mem_cons_self

/-- The id can be told from the name of an entity, if it has no tilde in case of an ad. -/
theorem eq_of_labels {id id' label : String} (h : Labels source id label)
    (h' : Labels source id' label)
    (htilde : source = .adGroupAd → '~' ∉ id.toList ∧ '~' ∉ id'.toList) : id = id' := by
  cases source with
  | campaign => exact h.symm.trans h'
  | adGroup => exact h.symm.trans h'
  | adGroupAd =>
    obtain ⟨group, rfl⟩ := h
    obtain ⟨group', hlabel⟩ := h'
    have hlist := congrArg String.toList hlabel
    simp only [String.toList_append, List.append_assoc] at hlist
    obtain ⟨hid, hid'⟩ := htilde rfl
    exact String.toList_inj.mp (eq_of_append_cons hid hid' hlist)

theorem nodup_map_of_forall₂ {R : α → β → Prop} {f : β → γ} {xs : List α} {ys : List β}
    (h : List.Forall₂ R xs ys) (hxs : xs.Nodup)
    (hinj : ∀ x ∈ xs, ∀ x' ∈ xs, ∀ y y', R x y → R x' y' → f y = f y' → x = x') :
    (ys.map f).Nodup := by
  induction h with
  | nil => exact List.nodup_nil
  | @cons x y xs ys hxy hrest ih =>
    rw [List.nodup_cons] at hxs
    rw [List.map_cons, List.nodup_cons]
    refine ⟨?_, ih hxs.2 fun x hx x' hx' =>
      hinj x (List.mem_cons_of_mem _ hx) x' (List.mem_cons_of_mem _ hx')⟩
    intro hmem
    obtain ⟨y', hy', heq⟩ := List.mem_map.mp hmem
    obtain ⟨x', hx', hxy'⟩ := exists_mem_of_forall₂ hrest.flip hy'
    have hsame := hinj x List.mem_cons_self x' (List.mem_cons_of_mem _ hx') y y' hxy hxy' heq.symm
    exact hxs.1 (hsame ▸ hx')

theorem nodup_eraseDups (ids : List String) : ids.eraseDups.Nodup := by
  have hnodup := Keyed.nodup_keys_ofEntries (ids.map fun id => (id, id))
  have hkeys := keys_tableOf (fun id => id) ids
  rw [List.map_id'] at hkeys
  rwa [← hkeys]

theorem nodup_names {entries : List Value} {ids : List String} {listing : List Value}
    (h : List.Forall₂ (ShowsLast a source days entries) ids.eraseDups listing)
    (htilde : source = .adGroupAd → ∀ id ∈ ids, '~' ∉ id.toList) :
    (listing.map fun r => r.at? (namePath source)).Nodup := by
  refine nodup_map_of_forall₂ h (nodup_eraseDups ids) ?_
  rintro id hid id' hid' r r' ⟨entry, -, hr⟩ ⟨entry', -, hr'⟩ heq
  obtain ⟨label, hlabel, hname⟩ := hr.named
  obtain ⟨label', hlabel', hname'⟩ := hr'.named
  rw [List.mem_eraseDups] at hid hid'
  have hsame : label = label' := by
    have hresource := Value.text.inj (Option.some.inj ((hname.symm.trans heq).trans hname'))
    simpa using hresource
  subst hsame
  exact eq_of_labels hlabel hlabel' fun hads => ⟨htilde hads id hid, htilde hads id' hid'⟩

/-- A listing has one record for each id.  In the account of a seed, where several entries of a
section may have one id, also written as values of different kinds, the records of a listing stand
in the order in which the ids first come; each shows its id and what the last entry with that id
says, and there are no others.  Their resource names are all different, unless the id of an ad has a
tilde in it. -/
theorem one_record_for_each_id {seed : Value} (h : Seed.accountOf seed = .ok a) {name : String}
    {window : Window} {listing : List Value} (hlisting : a.list name window = .ok listing) :
    ∃ source entries ids, Source.ofName name = .ok source ∧
      Seed.members (Seed.withDefault (sectionKey source) (.list []) (sections seed)) =
        .ok entries ∧
      List.Forall₂ HasId entries ids ∧
      List.Forall₂ (ShowsLast a source window.days entries) ids.eraseDups listing ∧
      ((source = .adGroupAd → ∀ id ∈ ids, '~' ∉ id.toList) →
        (listing.map fun r => r.at? (namePath source)).Nodup) := by
  obtain ⟨source, hsource, hrecords⟩ := list_eq_ok_iff.mp hlisting
  obtain ⟨entries, ids, hentries, hids, hshows⟩ := exists_ids h hrecords
  exact ⟨source, entries, ids, hsource, hentries, hids, hshows, nodup_names hshows⟩

/-- Three ads, of which the first and the last have one id, a number first and a text later. -/
def repeatedAds : List Value := [
  .record [("id", .int 1), ("ad_group_id", .text "3"), ("headlines", .list [.text "Old"])],
  .record [("id", .text "2"), ("ad_group_id", .text "3~1"), ("status", .text "PAUSED")],
  .record [("id", .text "1"), ("ad_group_id", .int 4), ("status", .text "REMOVED"),
    ("final_urls", .list [.text "/new"]), ("headlines", .list [.text "New", .text "Newer"]),
    ("descriptions", .text "ab"),
    ("metrics_per_day", .record [("impressions", .int 40), ("clicks", .int 2)])]]

def repeatedSeed : Value := .record [("customer_id", .int 1), ("ad_group_ads", .list repeatedAds)]

/-- What the record of the first id shows. -/
def shownFirst : List (String × Value) := [
  ("ad_group_ad.status", .text "REMOVED"), ("ad_group_ad.ad.final_urls", .list [.text "/new"]),
  ("ad_group_ad.ad.responsive_search_ad.headlines",
    .list [.record [("text", .text "New")], .record [("text", .text "Newer")]]),
  ("ad_group_ad.ad.responsive_search_ad.descriptions",
    .list [.record [("text", .text "a")], .record [("text", .text "b")]]),
  ("metrics.impressions", .int 320), ("metrics.clicks", .int 16),
  ("metrics.cost_micros", .int 0)]

/-- The last ad takes the place of the first one. -/
theorem one_record_for_each_id_repeatedSeed :
    ∃ a r r', Seed.accountOf repeatedSeed = .ok a ∧
      a.list "AD_GROUP_AD" someWindow = .ok [r, r'] ∧
      (∀ shown ∈ shownFirst, r.at? shown.1 = some shown.2) ∧
      List.Forall₂ (ShowsLast a .adGroupAd someWindow.days repeatedAds) ["1", "2"] [r, r'] ∧
      ([r, r'].map fun r => r.at? (namePath .adGroupAd)).Nodup := by
  obtain ⟨a, ha⟩ : ∃ a, Seed.accountOf repeatedSeed = .ok a := ⟨_, rfl⟩
  obtain ⟨r, r', hlisting, hshown⟩ : ∃ r r', a.list "AD_GROUP_AD" someWindow = .ok [r, r'] ∧
      ∀ shown ∈ shownFirst, r.at? shown.1 = some shown.2 := by
    cases ha
    refine ⟨_, _, rfl, ?_⟩
    simp only [shownFirst, List.forall_mem_cons]
    exact ⟨rfl, rfl, rfl, rfl, rfl, rfl, rfl, List.forall_mem_nil _⟩
  obtain ⟨source, entries, ids, hsource, hentries, hids, hrecords, hnames⟩ :=
    one_record_for_each_id ha hlisting
  obtain rfl : .adGroupAd = source := Except.ok.inj hsource
  obtain rfl : repeatedAds = entries := Except.ok.inj hentries
  have hwritten : List.Forall₂ HasId repeatedAds ["1", "2", "1"] :=
    .cons ⟨.int 1, rfl, rfl⟩ (.cons ⟨.text "2", rfl, rfl⟩ (.cons ⟨.text "1", rfl, rfl⟩ .nil))
  have hunique : Relator.RightUnique HasId := fun _ _ _ h h' => h.unique h'
  obtain rfl : ids = ["1", "2", "1"] := hunique.forall₂ hids hwritten
  exact ⟨a, r, r', ha, hlisting, hshown, hrecords, hnames fun _ => by decide⟩

end AdSearch.Proofs.Account.Distinct
