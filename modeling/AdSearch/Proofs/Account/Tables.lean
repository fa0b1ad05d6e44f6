import AdSearch.Account.Seed
import AdSearch.Proofs.Outcome
import Mathlib.Data.List.Induction
import Mathlib.Tactic.Common

/-!
# Tables of entities

The entities of a section of a seed end in a table by their ids.  Where several have one id, the
last of them counts, so the table answers for an id exactly when some entity has it.
-/

namespace AdSearch.Proofs.Account.Tables

open AdSearch.Proofs.Outcome

variable {α β : Type}

/-! ## Entries -/

theorem get?_of_mem {table : List (String × α)} (h : (Keyed.keys table).Nodup) {key : String}
    {x : α} (hmem : (key, x) ∈ table) : Keyed.get? key table = some x := by
  induction table with
  | nil => cases hmem
  | cons entry rest ih =>
    obtain ⟨k, y⟩ := entry
    obtain ⟨hk, hrest⟩ := List.nodup_cons.mp h
    rcases List.mem_cons.mp hmem with heq | hmem
    · cases heq
      rw [Keyed.get?, if_pos rfl]
    · have hne : k ≠ key := by
        rintro rfl
        exact hk (List.mem_map.mpr ⟨_, hmem, rfl⟩)
      rw [Keyed.get?, if_neg hne]
      exact ih hrest hmem

theorem mem_of_get? {table : List (String × α)} {key : String} {x : α}
    (h : Keyed.get? key table = some x) : (key, x) ∈ table := by
  induction table with
  | nil => cases h
  | cons entry rest ih =>
    obtain ⟨k, y⟩ := entry
    rw [Keyed.get?] at h
    split at h
    · rename_i hk
      rw [hk, Option.some.inj h]
      exact List.mem_cons_self
    · exact List.mem_cons_of_mem _ (ih h)

/-! ## Entities by id -/

/-- The table of entities by id. -/
def tableOf (id : α → String) (entities : List α) : List (String × α) :=
  Keyed.ofEntries (entities.map fun x => (id x, x))

/-- An entity counts if it is the last one with its id. -/
def Counts (id : α → String) (entities : List α) (x : α) : Prop :=
  ∃ before after, entities = before ++ x :: after ∧ ∀ y ∈ after, id y ≠ id x

theorem counts_concat {id : α → String} {entities : List α} {x y : α} :
    Counts id (entities ++ [y]) x ↔ x = y ∨ (Counts id entities x ∧ id y ≠ id x) := by
  constructor
  · rintro ⟨before, after, heq, hafter⟩
    rcases List.eq_nil_or_concat after with rfl | ⟨init, last, rfl⟩
    · exact Or.inl (List.cons.inj (List.append_inj' heq rfl).2).1.symm
    · rw [List.concat_eq_append, ← List.cons_append, ← List.append_assoc] at heq
      obtain ⟨hinit, hlast⟩ := List.append_inj' heq rfl
      obtain rfl : y = last := (List.cons.inj hlast).1
      refine Or.inr ⟨⟨before, init, hinit, ?_⟩, hafter y (by simp)⟩
      intro z hz
      exact hafter z (by simp [hz])
  · rintro (rfl | ⟨⟨before, after, rfl, hafter⟩, hy⟩)
    · exact ⟨entities, [], rfl, by simp⟩
    · refine ⟨before, after ++ [y], by simp, ?_⟩
      intro z hz
      rcases List.mem_append.mp hz with hz | hz
      · exact hafter z hz
      · rw [List.mem_singleton.mp hz]
        exact hy

theorem tableOf_concat (id : α → String) (entities : List α) (y : α) :
    tableOf id (entities ++ [y]) = Keyed.put (id y) y (tableOf id entities) := by
  simp [tableOf, Keyed.ofEntries]

theorem eraseDups_concat (keys : List String) (key : String) :
    (keys ++ [key]).eraseDups =
      if key ∈ keys then keys.eraseDups else keys.eraseDups ++ [key] := by
  rw [List.eraseDups_append, List.removeAll]
  by_cases h : key ∈ keys
  · simp [h]
  · simp [h, List.eraseDups_cons]

/-- The keys of a table are the ids, each once and where it first comes. -/
theorem keys_tableOf (id : α → String) (entities : List α) :
    Keyed.keys (tableOf id entities) = (entities.map id).eraseDups := by
  induction entities using List.reverseRecOn with
  | nil => rfl
  | append_singleton entities y ih =>
    rw [tableOf_concat, Keyed.keys_put, ih, List.map_append, List.map_singleton, eraseDups_concat]
    simp only [List.mem_eraseDups]

/-- A table answers with the entity that counts. -/
theorem get?_tableOf {id : α → String} {entities : List α} {key : String} {x : α} :
    Keyed.get? key (tableOf id entities) = some x ↔ Counts id entities x ∧ id x = key := by
  induction entities using List.reverseRecOn with
  | nil => simp [tableOf, Keyed.ofEntries, Keyed.get?, Counts]
  | append_singleton entities y ih =>
    rw [tableOf_concat, counts_concat]
    by_cases hkey : key = id y
    · subst hkey
      rw [Keyed.get?_put_self, Option.some.injEq]
      constructor
      · rintro rfl
        exact ⟨Or.inl rfl, rfl⟩
      · rintro ⟨rfl | ⟨-, hy⟩, hx⟩
        · rfl
        · exact absurd hx.symm hy
    · rw [Keyed.get?_put_of_ne hkey, ih]
      constructor
      · rintro ⟨hcounts, rfl⟩
        exact ⟨Or.inr ⟨hcounts, Ne.symm hkey⟩, rfl⟩
      · rintro ⟨rfl | ⟨hcounts, -⟩, hx⟩
        · exact absurd hx.symm hkey
        · exact ⟨hcounts, hx⟩

theorem isSome_get?_tableOf {id : α → String} {entities : List α} {key : String} :
    (Keyed.get? key (tableOf id entities)).isSome ↔ ∃ x ∈ entities, id x = key := by
  induction entities using List.reverseRecOn with
  | nil => simp [tableOf, Keyed.ofEntries, Keyed.get?]
  | append_singleton entities y ih =>
    rw [tableOf_concat]
    by_cases hkey : key = id y
    · subst hkey
      simp [Keyed.get?_put_self]
    · rw [Keyed.get?_put_of_ne hkey, ih]
      simp [Ne.symm hkey, or_and_right, exists_or]

/-- The entities of a table are those that count. -/
theorem mem_values_tableOf {id : α → String} {entities : List α} {x : α} :
    x ∈ Keyed.values (tableOf id entities) ↔ Counts id entities x := by
  constructor
  · intro h
    obtain ⟨⟨key, x'⟩, hmem, rfl⟩ := List.mem_map.mp h
    exact (get?_tableOf.mp (get?_of_mem (Keyed.nodup_keys_ofEntries _) hmem)).1
  · intro h
    exact List.mem_map.mpr ⟨(id x, x), mem_of_get? (get?_tableOf.mpr ⟨h, rfl⟩), rfl⟩

/-! ## The sections of a seed -/

theorem each_cons_eq_ok {f : α → Except Failure β} {x : α} {xs : List α} {zs : List β} :
    Seed.each f (x :: xs) = .ok zs ↔
      ∃ y, f x = .ok y ∧ ∃ ys, Seed.each f xs = .ok ys ∧ y :: ys = zs := by
  simp only [Seed.each, bind_eq_ok, Except.ok.injEq]

theorem exists_of_mem_each {f : α → Except Failure β} {xs : List α} {ys : List β}
    (h : Seed.each f xs = .ok ys) {y : β} (hy : y ∈ ys) : ∃ x ∈ xs, f x = .ok y := by
  induction xs generalizing ys with
  | nil =>
    cases h
    cases hy
  | cons x xs ih =>
    obtain ⟨y', hxy, ys, hys, rfl⟩ := each_cons_eq_ok.mp h
    rcases List.mem_cons.mp hy with rfl | hy
    · exact ⟨x, List.mem_cons_self, hxy⟩
    · obtain ⟨x', hx', hxy'⟩ := ih hys hy
      exact ⟨x', List.mem_cons_of_mem _ hx', hxy'⟩

theorem exists_mem_of_each {f : α → Except Failure β} {xs : List α} {ys : List β}
    (h : Seed.each f xs = .ok ys) {x : α} (hx : x ∈ xs) : ∃ y ∈ ys, f x = .ok y := by
  induction xs generalizing ys with
  | nil => cases hx
  | cons x' xs ih =>
    obtain ⟨y', hxy, ys, hys, rfl⟩ := each_cons_eq_ok.mp h
    rcases List.mem_cons.mp hx with rfl | hx
    · exact ⟨y', List.mem_cons_self, hxy⟩
    · obtain ⟨y, hy, hxy'⟩ := ih hys hx
      exact ⟨y, List.mem_cons_of_mem _ hy, hxy'⟩

/-- The fields of a seed; anything that is no mapping has none. -/
def sections : Value → List (String × Value)
  | .record fields => fields
  | _ => []

/-- The entities that the sections of a seed state, in order, repeated ids included. -/
structure States (seed : Value) (campaigns : List Campaign) (adGroups : List AdGroup)
    (ads : List Ad) : Prop where
  campaigns : Seed.entities Seed.campaign "campaigns" (sections seed) = .ok campaigns
  adGroups : Seed.entities Seed.adGroup "ad_groups" (sections seed) = .ok adGroups
  ads : Seed.entities Seed.ad "ad_group_ads" (sections seed) = .ok ads

theorem accountOf_eq (seed : Value) {a : Account} (h : Seed.accountOf seed = .ok a) :
    Seed.account (sections seed) = .ok a := by
  unfold Seed.accountOf at h
  split at h
  · rename_i hpresent
    cases seed with
    | record fields =>
      obtain rfl : fields = [] := by simpa [Value.isPresent] using hpresent
      exact h
    | _ => exact h
  · cases seed with
    | record fields => exact h
    | _ => cases h

/-- The account of a seed keeps the entities that the seed states by their ids. -/
theorem exists_states {seed : Value} {a : Account} (h : Seed.accountOf seed = .ok a) :
    ∃ campaigns adGroups ads, States seed campaigns adGroups ads ∧
      a.campaigns = tableOf Campaign.id campaigns ∧ a.adGroups = tableOf AdGroup.id adGroups ∧
      a.ads = tableOf Ad.id ads := by
  have haccount := accountOf_eq seed h
  simp only [Seed.account, bind_eq_ok, Except.ok.injEq] at haccount
  obtain ⟨campaigns, hcampaigns, adGroups, hgroups, ads, hads, customer, -, rfl⟩ := haccount
  exact ⟨campaigns, adGroups, ads, ⟨hcampaigns, hgroups, hads⟩, rfl, rfl, rfl⟩

end AdSearch.Proofs.Account.Tables
