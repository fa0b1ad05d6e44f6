import AdSearch.Log.Registry
import Mathlib.Algebra.Group.Nat.Even
import Mathlib.Data.List.Infix
import Mathlib.Tactic.Common

/-!
# Histories of loggers

A history tells in order at which levels loggers are asked for and which lines they write.  After
any history a logger that was asked for has one handler and the level of its latest request.  It
writes a line once, as long as no logger above it has been asked for; one whose name starts the
title of the root does not count if it was asked for later.
-/

namespace AdSearch.Proofs.Log.History

open AdSearch.Log AdSearch.Log.Registry

/-- The name of a level, in any letter case. -/
structure LevelName where
  text : String
  level : Level
  spells : String.ofList (Text.upper text.toList) = level.name

inductive Event where
  | request (name : String) (level : LevelName)
  | emission (line : Line)

/-- The loggers after an event. -/
def after (r : Registry) : Event → Registry
  | .request name level => (r.request name level.text).1
  | .emission _ => r

/-- The loggers after a history. -/
def registryOf (events : List Event) : Registry := events.foldl after []

/-- The level at which an event asks for the logger of a key. -/
def askedLevel? (k : String) : Event → Option Level
  | .request name level => if key name = k then some level.level else none
  | .emission _ => none

/-- The level of the latest request for the logger of a key. -/
def latest? (k : String) (events : List Event) : Option Level :=
  events.reverse.findSome? (askedLevel? k)

def Requested (events : List Event) (name : String) : Prop :=
  ∃ level, Event.request name level ∈ events

/-- Whether a name was asked for before another one was. -/
def AskedBefore (events : List Event) (name other : String) : Prop :=
  ∃ before, before <+: events ∧ Requested before name ∧ ¬Requested before other

/-- A line as its logger shows it. -/
def shown (line : Line) : Line := { line with logger := title line.logger }

/-! ## Cutting a name -/

def leadingDots (cs : List Char) : Nat := (cs.takeWhile (· == '.')).length

/-- Whether the logger of one name is above that of another: the root is above all others, and a
name is above those that go on after it with a dot.  Of dots in a row only every second one counts,
from the last. -/
def IsAbove (other name : String) : Prop :=
  key name ≠ "" ∧ (key other = "" ∨
    ∃ rest, name.toList = (key other).toList ++ '.' :: rest ∧ Even (leadingDots rest))

/-- Whether the logger of one name leaves that of another with the root: its name starts the title
of the root, and it was asked for later. -/
def LeavesToRoot (events : List Event) (other name : String) : Prop :=
  key other ≠ "" ∧ other.toList <+: rootTitle.toList ∧ AskedBefore events name other

/-- Whether the lines of one name come to the logger of another, above it, that was asked for. -/
def Hears (events : List Event) (other name : String) : Prop :=
  Requested events other ∧ IsAbove other name ∧ ¬LeavesToRoot events other name

theorem leadingDots_append (xs ys : List Char) :
    leadingDots (xs ++ ys) =
      if leadingDots xs = xs.length then xs.length + leadingDots ys else leadingDots xs := by
  unfold leadingDots
  rw [List.takeWhile_append]
  split
  · rw [List.length_append]
  · rfl

theorem leadingDots_append_of_ne (xs : List Char) {c : Char} (h : c ≠ '.') :
    leadingDots (xs ++ [c]) = leadingDots xs := by
  have hc : leadingDots [c] = 0 := by simp [leadingDots, h]
  rw [leadingDots_append, hc]
  split
  · omega
  · rfl

/-- A dot with a character before it leaves the parity as it is. -/
theorem even_leadingDots_append (xs : List Char) (c : Char) :
    Even (leadingDots (xs ++ [c, '.'])) ↔ Even (leadingDots xs) := by
  have hpair : leadingDots [c, '.'] = if c = '.' then 2 else 0 := by
    by_cases hc : c = '.' <;> simp [leadingDots, hc]
  rw [leadingDots_append, hpair]
  split
  · rename_i hall
    rw [hall]
    split
    · exact Nat.even_add.trans (iff_true_right (by decide))
    · rfl
  · rfl

/-- A name that is given from its end is cut before a dot. -/
def CutTo (back front : List Char) : Prop :=
  front ≠ [] ∧ ∃ rest, back = rest ++ '.' :: front ∧ Even (leadingDots rest.reverse)

theorem not_cutTo_nil (front : List Char) : ¬CutTo [] front := by
  rintro ⟨-, rest, hsplit, -⟩
  simp at hsplit

theorem cutTo_dot {c : Char} {cs front : List Char} :
    CutTo ('.' :: c :: cs) front ↔ front = c :: cs ∨ CutTo cs front := by
  constructor
  · rintro ⟨hfront, rest, hsplit, heven⟩
    match rest with
    | [] => exact Or.inl (List.cons.inj hsplit).2.symm
    | [d] =>
      obtain ⟨rfl, -⟩ := List.cons.inj hsplit
      exact absurd heven (by decide)
    | d :: e :: rest =>
      obtain ⟨rfl, htail⟩ := List.cons.inj hsplit
      obtain ⟨rfl, rfl⟩ := List.cons.inj htail
      rw [List.reverse_cons, List.reverse_cons, List.append_assoc] at heven
      exact Or.inr ⟨hfront, rest, rfl, (even_leadingDots_append rest.reverse c).mp heven⟩
  · rintro (rfl | ⟨hfront, rest, rfl, heven⟩)
    · exact ⟨by simp, [], rfl, ⟨0, rfl⟩⟩
    · refine ⟨hfront, '.' :: c :: rest, rfl, ?_⟩
      rw [List.reverse_cons, List.reverse_cons, List.append_assoc]
      exact (even_leadingDots_append rest.reverse c).mpr heven

theorem cutTo_cons {c : Char} {cs front : List Char} (h : c = '.' → cs = []) :
    CutTo (c :: cs) front ↔ CutTo cs front := by
  by_cases hc : c = '.'
  · obtain rfl := h hc
    constructor
    · rintro ⟨hfront, rest, hsplit, -⟩
      have hlength := congrArg List.length hsplit
      have hpos := List.length_pos_of_ne_nil hfront
      simp at hlength
      omega
    · exact fun hcut => absurd hcut (not_cutTo_nil front)
  · have heven : ∀ rest, Even (leadingDots (c :: rest).reverse) ↔
        Even (leadingDots rest.reverse) := by
      intro rest
      rw [List.reverse_cons, leadingDots_append_of_ne _ hc]
    constructor
    · rintro ⟨hfront, rest, hsplit, hrest⟩
      cases rest with
      | nil => exact absurd (List.cons.inj hsplit).1 hc
      | cons d rest =>
        obtain ⟨rfl, rfl⟩ := List.cons.inj hsplit
        exact ⟨hfront, rest, rfl, (heven rest).mp hrest⟩
    · rintro ⟨hfront, rest, rfl, hrest⟩
      exact ⟨hfront, c :: rest, rfl, (heven rest).mpr hrest⟩

/-! ## Loggers above a name -/

/-- A name that starts the title of the root has no dot. -/
theorem not_cutTo_of_isPrefixOf {c : Char} {cs front : List Char}
    (h : (String.ofList (c :: cs).reverse).toList.isPrefixOf rootTitle.toList = true) :
    ¬CutTo cs front := by
  rintro ⟨-, rest, rfl, -⟩
  have hprefix := List.isPrefixOf_iff_prefix.mp h
  have hdot : '.' ∈ rootTitle.toList := hprefix.subset (by simp)
  exact absurd hdot (by decide)

theorem above_eq_nil_iff (r : Registry) (child : String) (back : List Char) :
    r.above child back = [] ↔ Keyed.get? "" r = none ∧
      ∀ front, CutTo back front → Keyed.get? (String.ofList front.reverse) r = none ∨
        r.staysWithRoot child (String.ofList front.reverse) = true := by
  fun_induction above r child back with
  | case1 => simp [not_cutTo_nil]
  | case2 child c cs front logger hfound hstays =>
    have hfront : ∀ front', CutTo ('.' :: c :: cs) front' → front' = c :: cs := fun front' hcut =>
      (cutTo_dot.mp hcut).resolve_right
        (not_cutTo_of_isPrefixOf ((Bool.and_eq_true _ _).mp hstays).1)
    refine ⟨fun h => ⟨by simpa using h, fun front' hcut => ?_⟩, fun h => by simp [h.1]⟩
    rw [hfront front' hcut]
    exact Or.inr hstays
  | case3 child c cs front logger hfound hstays ih =>
    have hnot : ¬∀ front', CutTo ('.' :: c :: cs) front' →
        Keyed.get? (String.ofList front'.reverse) r = none ∨
          r.staysWithRoot child (String.ofList front'.reverse) = true := by
      intro hall
      rcases hall _ (cutTo_dot.mpr (Or.inl rfl)) with hnone | hstays'
      · cases hfound.symm.trans hnone
      · exact hstays hstays'
    simp [hnot]
  | case4 child c cs front hnone ih =>
    rw [ih]
    refine and_congr_right fun _ => forall_congr' fun front' => ?_
    rw [cutTo_dot]
    refine ⟨?_, fun h hcut => h (Or.inr hcut)⟩
    rintro h (rfl | hcut)
    · exact Or.inl hnone
    · exact h hcut
  | case5 child c cs hshape ih =>
    have hlast : c = '.' → cs = [] := by
      intro hc
      cases cs with
      | nil => rfl
      | cons d cs => exact (hshape d cs hc rfl).elim
    simp only [ih, cutTo_cons hlast]

/-- Every logger above a name is one of the registry. -/
theorem exists_of_mem_above {r : Registry} {child : String} {back : List Char} {logger : Logger}
    (h : logger ∈ r.above child back) : ∃ k, Keyed.get? k r = some logger := by
  fun_induction above r child back with
  | case1 => exact ⟨"", by simpa using h⟩
  | case2 => exact ⟨"", by simpa using h⟩
  | case3 child c cs front found hfound hstays ih =>
    rcases List.mem_cons.mp h with rfl | h
    · exact ⟨_, hfound⟩
    · exact ih h
  | case4 child c cs front hnone ih => exact ih h
  | case5 child c cs hshape ih => exact ih h

/-! ## What a history leaves -/

theorem handlers_attached (logger : Logger) (h : logger.handlers ≤ 1) :
    logger.attached.handlers = 1 := by
  unfold Logger.attached
  split
  · rename_i hnone
    simp [hnone]
  · omega

theorem registryOf_append (events : List Event) (event : Event) :
    registryOf (events ++ [event]) = after (registryOf events) event := by
  rw [registryOf, List.foldl_append]
  rfl

theorem latest?_append (k : String) (events : List Event) (event : Event) :
    latest? k (events ++ [event]) = (askedLevel? k event).or (latest? k events) := by
  rw [latest?, List.reverse_append, List.reverse_singleton, List.singleton_append,
    List.findSome?_cons, latest?]
  cases askedLevel? k event <;> rfl

theorem request_of_levelName (r : Registry) (name : String) (level : LevelName) :
    (r.request name level.text).1 = r.set name level.level.rank := by
  rw [request, Threshold.ofName_of_name level.level level.spells]

/-- After any history the loggers that were asked for are there, with one handler and the level of
the latest request. -/
theorem get?_registryOf (events : List Event) (k : String) :
    Keyed.get? k (registryOf events) = (latest? k events).map fun level => ⟨level.rank, 1⟩ := by
  induction events using List.reverseRecOn generalizing k with
  | nil => rfl
  | append_singleton events event ih =>
    rw [registryOf_append, latest?_append]
    cases event with
    | emission line => exact ih k
    | request name level =>
      have hfew : ((registryOf events).logger name).handlers ≤ 1 := by
        rw [logger, find?, ih (key name)]
        cases latest? (key name) events with
        | none => exact Nat.zero_le 1
        | some level => exact Nat.le_refl 1
      rw [after, request_of_levelName, Registry.set, askedLevel?]
      by_cases hk : key name = k
      · rw [if_pos hk, ← hk, Keyed.get?_put_self]
        simp [handlers_attached _ hfew]
      · rw [if_neg hk, Keyed.get?_put_of_ne (Ne.symm hk), ih k]
        rfl

theorem exists_of_latest? {k : String} {events : List Event} {level : Level}
    (h : latest? k events = some level) : ∃ name, Requested events name ∧ key name = k := by
  obtain ⟨event, hmem, hasked⟩ := List.exists_of_findSome?_eq_some h
  cases event with
  | emission line => cases hasked
  | request name asked =>
    rw [askedLevel?] at hasked
    split at hasked
    · rename_i hk
      exact ⟨name, ⟨asked, List.mem_reverse.mp hmem⟩, hk⟩
    · cases hasked

theorem exists_latest?_of_requested {events : List Event} {name : String}
    (h : Requested events name) : ∃ level, latest? (key name) events = some level := by
  obtain ⟨asked, hmem⟩ := h
  rw [← Option.isSome_iff_exists, latest?, List.findSome?_isSome_iff]
  refine ⟨_, List.mem_reverse.mpr hmem, ?_⟩
  rw [askedLevel?, if_pos rfl]
  rfl

/-- A key is found exactly if its logger was asked for. -/
theorem get?_registryOf_eq_none_iff (events : List Event) (k : String) :
    Keyed.get? k (registryOf events) = none ↔ ¬∃ name, Requested events name ∧ key name = k := by
  rw [get?_registryOf, Option.map_eq_none_iff]
  constructor
  · rintro hnone ⟨name, hrequested, rfl⟩
    obtain ⟨level, hlevel⟩ := exists_latest?_of_requested hrequested
    rw [hnone] at hlevel
    cases hlevel
  · intro hnot
    rw [Option.eq_none_iff_forall_ne_some]
    exact fun level hlevel => hnot (exists_of_latest? hlevel)

/-! ## The order of requests -/

theorem key_of_ne_empty {name : String} (h : key name ≠ "") : key name = name := by
  unfold key at h ⊢
  split
  · rename_i hroot
    exact absurd (if_pos hroot) h
  · rfl

theorem requested_append {events : List Event} {event : Event} {name : String} :
    Requested (events ++ [event]) name ↔
      Requested events name ∨ ∃ level, event = .request name level := by
  simp only [Requested, List.mem_append, List.mem_singleton, exists_or, eq_comm]

theorem askedBefore_append {events : List Event} {event : Event} {name other : String} :
    AskedBefore (events ++ [event]) name other ↔ AskedBefore events name other ∨
      (Requested (events ++ [event]) name ∧ ¬Requested (events ++ [event]) other) := by
  simp only [AskedBefore, List.prefix_concat_iff, or_and_right, exists_or, exists_eq_left]
  exact or_comm

theorem idxOf_concat_lt_iff {ks : List String} {x k k' : String} :
    (ks ++ [x]).idxOf k < (ks ++ [x]).idxOf k' ↔
      ks.idxOf k < ks.idxOf k' ∨ (k ∈ ks ++ [x] ∧ k' ∉ ks ++ [x]) := by
  have hk := List.idxOf_le_length (a := k) (l := ks)
  have hk' := List.idxOf_le_length (a := k') (l := ks)
  rw [List.idxOf_append, List.idxOf_append]
  grind [List.idxOf_lt_length_iff, List.idxOf_eq_length_iff]

theorem idxOf_lt_iff_or {ks : List String} {k k' : String} :
    ks.idxOf k < ks.idxOf k' ↔ ks.idxOf k < ks.idxOf k' ∨ (k ∈ ks ∧ k' ∉ ks) := by
  refine ⟨Or.inl, fun h => h.elim id fun ⟨hk, hk'⟩ => ?_⟩
  rw [List.idxOf_eq_length_iff.mpr hk']
  exact List.idxOf_lt_length_iff.mpr hk

/-- The keys after a request: that of the name comes last, unless it is there already. -/
theorem keys_after_request (r : Registry) (name : String) (level : LevelName) :
    Keyed.keys (after r (.request name level)) =
      if key name ∈ Keyed.keys r then Keyed.keys r else Keyed.keys r ++ [key name] := by
  rw [after, request_of_levelName, Registry.set, Keyed.keys_put]

theorem mem_keys_registryOf {events : List Event} {name : String} (h : key name ≠ "") :
    name ∈ Keyed.keys (registryOf events) ↔ Requested events name := by
  induction events using List.reverseRecOn with
  | nil => simp [registryOf, Keyed.keys, Requested]
  | append_singleton events event ih =>
    rw [registryOf_append, requested_append, ← ih]
    cases event with
    | emission line => simp [after]
    | request other level =>
      have hsame : key other = name ↔ other = name := by
        refine ⟨fun hkey => ?_, fun heq => by rw [heq, key_of_ne_empty h]⟩
        have hne : key other ≠ "" := by rwa [hkey, ← key_of_ne_empty h]
        rw [← key_of_ne_empty hne, hkey]
      have hother : (∃ level', Event.request other level = .request name level') ↔
          name = key other := by
        rw [eq_comm, hsame]
        simp
      rw [keys_after_request, hother]
      split
      · rename_i hmem
        exact ⟨Or.inl, fun hor => hor.elim id fun heq => heq ▸ hmem⟩
      · simp

/-- The order of the keys is that of the first requests. -/
theorem precedes_registryOf {events : List Event} {name other : String} (hname : key name ≠ "")
    (hother : key other ≠ "") :
    (registryOf events).precedes name other = true ↔ AskedBefore events name other := by
  rw [precedes, decide_eq_true_eq]
  induction events using List.reverseRecOn with
  | nil => simp [registryOf, Keyed.keys, AskedBefore, Requested]
  | append_singleton events event ih =>
    rw [askedBefore_append, ← mem_keys_registryOf hname, ← mem_keys_registryOf hother,
      registryOf_append, ← ih]
    cases event with
    | emission line => exact idxOf_lt_iff_or
    | request asked level =>
      rw [keys_after_request]
      split
      · exact idxOf_lt_iff_or
      · exact idxOf_concat_lt_iff

/-! ## The lines of an emission -/

theorem cutTo_toList_iff {name k : String} (hk : k ≠ "") :
    CutTo name.toList.reverse k.toList.reverse ↔
      ∃ rest, name.toList = k.toList ++ '.' :: rest ∧ Even (leadingDots rest) := by
  constructor
  · rintro ⟨-, rest, hsplit, heven⟩
    refine ⟨rest.reverse, ?_, heven⟩
    rw [← List.reverse_inj, hsplit]
    simp
  · rintro ⟨rest, hsplit, heven⟩
    refine ⟨by simpa using hk, rest.reverse, by simp [hsplit], ?_⟩
    rwa [List.reverse_reverse]

theorem staysWithRoot_iff {events : List Event} {name other : String} (hname : key name ≠ "")
    (hother : key other ≠ "") :
    (registryOf events).staysWithRoot name other = true ↔ LeavesToRoot events other name := by
  rw [staysWithRoot, Bool.and_eq_true, List.isPrefixOf_iff_prefix,
    precedes_registryOf hname hother, LeavesToRoot, and_iff_right hother]

/-- The loggers above a name are those of the requests above it that do not leave it to the root. -/
theorem above_registryOf_eq_nil_iff (events : List Event) {name : String} (h : key name ≠ "") :
    (registryOf events).above name name.toList.reverse = [] ↔
      ¬∃ other, Hears events other name := by
  simp only [above_eq_nil_iff, get?_registryOf_eq_none_iff]
  constructor
  · rintro ⟨hroot, hcuts⟩ ⟨other, hrequested, ⟨-, habove⟩, hheard⟩
    by_cases hk : key other = ""
    · exact hroot ⟨other, hrequested, hk⟩
    · have hcut := (cutTo_toList_iff hk).mpr (habove.resolve_left hk)
      rcases hcuts _ hcut with hnone | hstays
      · exact hnone ⟨other, hrequested, by simp⟩
      · rw [List.reverse_reverse, String.ofList_toList, key_of_ne_empty hk] at hstays
        exact hheard ((staysWithRoot_iff h hk).mp hstays)
  · intro hnot
    refine ⟨?_, fun front hcut => ?_⟩
    · rintro ⟨other, hrequested, hk⟩
      exact hnot ⟨other, hrequested, ⟨h, Or.inl hk⟩, fun hleaves => hleaves.1 hk⟩
    · rw [or_iff_not_imp_left, not_not]
      rintro ⟨other, hrequested, hk⟩
      have hfront : front = (key other).toList.reverse := by simp [hk]
      have hne : key other ≠ "" := by
        intro hempty
        exact hcut.1 (by simp [hfront, hempty])
      rw [hfront, cutTo_toList_iff hne] at hcut
      rw [← hk, key_of_ne_empty hne, staysWithRoot_iff h hne]
      by_contra hheard
      exact hnot ⟨other, hrequested, ⟨h, Or.inr hcut⟩, hheard⟩

variable {events : List Event} {name : String} {level : Level}

theorem find?_of_latest? (h : latest? (key name) events = some level) :
    (registryOf events).find? name = some ⟨level.rank, 1⟩ := by
  rw [find?, get?_registryOf, h]
  rfl

theorem logger_of_latest? (h : latest? (key name) events = some level) :
    (registryOf events).logger name = ⟨level.rank, 1⟩ := by
  rw [logger, find?_of_latest? h]
  rfl

/-- The loggers of a history have one handler each, so a line is written once for each. -/
theorem flatMap_handlers {loggers : List Logger} (h : ∀ logger ∈ loggers, logger.handlers = 1)
    (line : Line) :
    (loggers.flatMap fun logger => List.replicate logger.handlers line) =
      List.replicate loggers.length line := by
  induction loggers with
  | nil => rfl
  | cons logger loggers ih =>
    rw [List.forall_mem_cons] at h
    rw [List.flatMap_cons, ih h.2, h.1, List.replicate_append_replicate, List.length_cons,
      Nat.add_comm]

theorem handlers_of_mem_lineage {logger : Logger} (h : logger ∈ (registryOf events).lineage name) :
    logger.handlers = 1 := by
  have hkept : ∀ {k : String}, Keyed.get? k (registryOf events) = some logger →
      logger.handlers = 1 := by
    intro k hk
    rw [get?_registryOf] at hk
    obtain ⟨level, -, rfl⟩ := Option.map_eq_some_iff.mp hk
    rfl
  rcases List.mem_append.mp h with hself | habove
  · exact hkept (Option.mem_toList.mp hself)
  · split at habove
    · cases habove
    · obtain ⟨k, hk⟩ := exists_of_mem_above habove
      exact hkept hk

/-- A logger that was asked for writes a line once itself, and once for every logger above it. -/
theorem emit_registryOf {line : Line} (h : latest? (key line.logger) events = some level) :
    (registryOf events).emit line =
      if level.rank ≤ line.level.rank then
        List.replicate ((registryOf events).lineage line.logger).length (shown line)
      else [] := by
  have hthreshold : (registryOf events).threshold line.logger = level.rank := by
    have hrank : (level.rank != 0) = true := by cases level <;> rfl
    rw [threshold, lineage, find?_of_latest? h]
    simp [hrank]
  rw [emit, hthreshold, flatMap_handlers (fun _ => handlers_of_mem_lineage)]
  rfl

theorem length_lineage_eq_one_iff (h : latest? (key name) events = some level) :
    ((registryOf events).lineage name).length = 1 ↔ ¬∃ other, Hears events other name := by
  rw [lineage, find?_of_latest? h]
  by_cases hroot : key name = ""
  · have hnot : ¬∃ other, Hears events other name := by
      rintro ⟨other, -, ⟨hne, -⟩, -⟩
      exact hne hroot
    simp [hroot, hnot]
  · rw [if_neg hroot, ← above_registryOf_eq_nil_iff events hroot]
    simp

/-! ## Whole histories -/

/-- After every part of a history the loggers that were asked for have one handler and the level of
their latest request. -/
def KeepsLoggers (events : List Event) : Prop :=
  ∀ before name level, before <+: events → latest? (key name) before = some level →
    (registryOf before).handlers name = 1 ∧ ((registryOf before).logger name).rank = level.rank

/-- Every line of a logger that was asked for is written once if its level is at least that of the
logger, and not at all if not. -/
def WritesOnce (events : List Event) : Prop :=
  ∀ before line level, before ++ [.emission line] <+: events →
    latest? (key line.logger) before = some level →
    (registryOf before).emit line = if level.rank ≤ line.level.rank then [shown line] else []

/-- Whether a line that its logger does not suppress comes to a logger above as well. -/
def Overheard (before : List Event) (line : Line) : Prop :=
  ∃ level other, latest? (key line.logger) before = some level ∧ level.rank ≤ line.level.rank ∧
    Hears before other line.logger

theorem emit_eq_singleton_iff {line : Line} (h : latest? (key line.logger) events = some level) :
    (registryOf events).emit line = (if level.rank ≤ line.level.rank then [shown line] else []) ↔
      ¬Overheard events line := by
  have hoverheard : Overheard events line ↔ level.rank ≤ line.level.rank ∧
      ∃ other, Hears events other line.logger := by
    constructor
    · rintro ⟨level', other, h', hrank, hother⟩
      obtain rfl := Option.some.inj (h.symm.trans h')
      exact ⟨hrank, other, hother⟩
    · rintro ⟨hrank, other, hother⟩
      exact ⟨level, other, h, hrank, hother⟩
  rw [emit_registryOf h, hoverheard]
  by_cases hrank : level.rank ≤ line.level.rank
  · have hone : [shown line] = List.replicate 1 (shown line) := rfl
    rw [if_pos hrank, if_pos hrank, hone, List.replicate_inj, and_iff_left (Or.inr rfl),
      length_lineage_eq_one_iff h]
    simp [hrank]
  · simp [hrank]

/-- A line that is overheard is written at least twice. -/
theorem two_le_length_emit {line : Line} (h : Overheard events line) :
    2 ≤ ((registryOf events).emit line).length ∧
      ∀ written ∈ (registryOf events).emit line, written = shown line := by
  obtain ⟨level, other, hlatest, hrank, hother⟩ := h
  have hmany : ((registryOf events).lineage line.logger).length ≠ 1 := fun hone =>
    (length_lineage_eq_one_iff hlatest).mp hone ⟨other, hother⟩
  have hself : 1 ≤ ((registryOf events).lineage line.logger).length := by
    simp [lineage, find?_of_latest? hlatest]
  rw [emit_registryOf hlatest, if_pos hrank, List.length_replicate]
  exact ⟨by omega, fun written hwritten => List.eq_of_mem_replicate hwritten⟩

/-- Loggers keep one handler and the level of their latest request.  Lines are written once in a
history in which none is overheard, and only in such a one. -/
theorem writesOnce_iff_not_overheard (events : List Event) :
    KeepsLoggers events ∧
      (WritesOnce events ↔
        ∀ before line, before ++ [.emission line] <+: events → ¬Overheard before line) ∧
      ∀ before line, Overheard before line → 2 ≤ ((registryOf before).emit line).length ∧
        ∀ written ∈ (registryOf before).emit line, written = shown line := by
  refine ⟨?_, ⟨fun hwrites before line hprefix hoverheard => ?_,
    fun hnot before line level hprefix hlatest => ?_⟩, fun before line => two_le_length_emit⟩
  · intro before name level hprefix hlatest
    rw [handlers, logger_of_latest? hlatest]
    exact ⟨rfl, rfl⟩
  · obtain ⟨level, other, hlatest, hheard⟩ := hoverheard
    exact (emit_eq_singleton_iff hlatest).mp (hwrites before line level hprefix hlatest)
      ⟨level, other, hlatest, hheard⟩
  · exact (emit_eq_singleton_iff hlatest).mpr (hnot before line hprefix)

/-! ## A logger below another -/

def infoName : LevelName := ⟨"info", .info, by decide⟩

/-- A logger `r` that was asked for after `r.x` does not write the lines of `r.x` again. -/
example : ((registryOf [.request "r.x" infoName, .request "r" infoName]).emit
    ⟨.info, "r.x", "hello"⟩) = [⟨.info, "r.x", "hello"⟩] := by
  decide +kernel

def nestedLine : Line := ⟨.info, "ads.search", "hello"⟩

/-- The line of a logger is written again by the one above it, which was asked for before. -/
theorem not_writesOnce_nested :
    ¬WritesOnce [.request "ads" infoName, .request "ads.search" infoName, .emission nestedLine] ∧
      (registryOf [.request "ads" infoName, .request "ads.search" infoName]).emit nestedLine =
        [nestedLine, nestedLine] := by
  have hlines : (registryOf [.request "ads" infoName, .request "ads.search" infoName]).emit
      nestedLine = [nestedLine, nestedLine] := by decide +kernel
  refine ⟨fun hwrites => ?_, hlines⟩
  have honce := hwrites [.request "ads" infoName, .request "ads.search" infoName] nestedLine .info
    (List.prefix_refl _) (by decide +kernel)
  rw [hlines] at honce
  cases honce

end AdSearch.Proofs.Log.History
