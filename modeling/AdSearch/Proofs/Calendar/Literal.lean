import AdSearch.Proofs.Calendar.Week

/-!
# Dates and their literals

A date has four written forms: by month or by week, with or without hyphens.  Each is read back as
the date it was written for.
-/

namespace AdSearch

/-- How a date is written: by month or by week, with hyphens between the fields or without. -/
inductive DateForm where
  | month (separated : Bool)
  | week (separated : Bool)
deriving DecidableEq

namespace DateForm

def hyphen (separated : Bool) : List Char := if separated then ['-'] else []

/-- The text of a date in a form. -/
def write (d : Date) : DateForm → List Char
  | month separated =>
    Date.padded 4 d.year ++ (hyphen separated ++
      (Date.padded 2 d.month ++ (hyphen separated ++ Date.padded 2 d.day)))
  | week separated =>
    Date.padded 4 d.weekDate.year ++ (hyphen separated ++ 'W' ::
      (Date.padded 2 d.weekDate.week ++ (hyphen separated ++ Date.padded 1 d.weekDate.weekday)))

end DateForm

namespace Proofs.Calendar.Literal

open AdSearch.Calendar AdSearch.DateForm AdSearch.Proofs.Calendar.Ordinal
  AdSearch.Proofs.Calendar.Week

/-! ## Numbers of a fixed width -/

theorem isDigit_of_mem_padded {width n : Nat} {c : Char} (h : c ∈ Date.padded width n) :
    c.isDigit = true := by
  rw [Date.padded, List.mem_append, List.mem_replicate] at h
  rcases h with ⟨-, rfl⟩ | h
  · rfl
  · exact Nat.isDigit_of_mem_toDigits (by omega) (by omega) h

theorem length_padded {width n : Nat} (hwidth : 0 < width) (h : n < 10 ^ width) :
    (Date.padded width n).length = width := by
  have hlength := (Nat.length_toDigits_le_iff (b := 10) (by omega) hwidth).mpr h
  rw [Date.padded, List.length_append, List.length_replicate]
  omega

/-- The first digit of a number. -/
theorem exists_padded_cons {width n : Nat} (hwidth : 0 < width) (h : n < 10 ^ width) :
    ∃ c cs, Date.padded width n = c :: cs ∧ c.isDigit = true := by
  have hlength := length_padded hwidth h
  obtain ⟨c, cs, hcs⟩ := List.exists_cons_of_length_pos (hlength.symm ▸ hwidth)
  exact ⟨c, cs, hcs, isDigit_of_mem_padded (hcs ▸ List.mem_cons_self)⟩

theorem digits?_append {ds : List Char} (hds : ∀ c ∈ ds, c.isDigit = true) (value : Nat)
    (cs : List Char) :
    Date.digits? ds.length value (ds ++ cs) = some (Nat.ofDigitChars 10 ds value, cs) := by
  induction ds generalizing value with
  | nil => rfl
  | cons c ds ih =>
    rw [List.forall_mem_cons] at hds
    rw [List.length_cons, List.cons_append, Date.digits?, Date.asciiDigit?, if_pos hds.1,
      Option.bind_some, ih hds.2, Nat.ofDigitChars_cons]
    rfl

/-- A number of a fixed width is read back. -/
theorem digits?_padded {width n : Nat} (hwidth : 0 < width) (h : n < 10 ^ width)
    (cs : List Char) : Date.digits? width 0 (Date.padded width n ++ cs) = some (n, cs) := by
  have hvalue : Nat.ofDigitChars 10 (Date.padded width n) 0 = n := by
    rw [Date.padded, Nat.ofDigitChars_append, Nat.ofDigitChars_replicate_zero, Nat.mul_zero,
      Nat.ofDigitChars_ten_toDigits]
  have hdigits : ∀ c ∈ Date.padded width n, c.isDigit = true := fun _ => isDigit_of_mem_padded
  have hread := digits?_append hdigits 0 cs
  rwa [length_padded hwidth h, hvalue] at hread

/-! ## Fields -/

theorem separator?_hyphen (separated : Bool) (cs : List Char) :
    Date.separator? separated (hyphen separated ++ cs) = some cs := by
  cases separated <;> rfl

theorem readMonth?_padded (year : Nat) {month day : Nat} (hmonth : month < 10 ^ 2)
    (hday : day < 10 ^ 2) (separated : Bool) :
    Date.readMonth? year separated
        (Date.padded 2 month ++ (hyphen separated ++ Date.padded 2 day)) =
      Date.ofFields? year month day := by
  have hread := digits?_padded (by omega) hday []
  rw [List.append_nil] at hread
  simp only [Date.readMonth?, digits?_padded (by omega) hmonth, separator?_hyphen,
    hread, Option.bind_eq_bind, Option.bind_some]

theorem readWeek?_padded (year : Nat) {week weekday : Nat} (hweek : week < 10 ^ 2)
    (hweekday : weekday < 10 ^ 1) (separated : Bool) :
    Date.readWeek? year separated
        (Date.padded 2 week ++ (hyphen separated ++ Date.padded 1 weekday)) =
      Date.ofWeek? year week weekday := by
  have hread := digits?_padded (by omega) hweekday []
  rw [List.append_nil] at hread
  have hmore : (hyphen separated ++ Date.padded 1 weekday).isEmpty = false := by
    obtain ⟨c, cs, hcs, -⟩ := exists_padded_cons (by omega) hweekday
    rw [hcs, List.isEmpty_eq_false_iff]
    simp
  simp only [Date.readWeek?, digits?_padded (by omega) hweek, hmore,
    separator?_hyphen, hread, Option.bind_eq_bind, Option.bind_some, Bool.false_eq_true, if_false]

/-! ## Characters -/

/-- The characters of a date. -/
def dateChars : List Char :=
  ['0', '1', '2', '3', '4', '5', '6', '7', '8', '9', '-', 'W']

theorem mem_dateChars_of_isDigit {c : Char} (h : c.isDigit = true) : c ∈ dateChars := by
  rw [Char.isDigit, Bool.and_eq_true, decide_eq_true_iff, decide_eq_true_iff, ge_iff_le,
    UInt32.le_iff_toNat_le, UInt32.le_iff_toNat_le] at h
  have hmem : c.toNat ∈ List.range' 48 10 := List.mem_range'_1.mpr ⟨h.1, Nat.lt_succ_of_le h.2⟩
  have hchar := List.mem_map_of_mem (f := Char.ofNat) hmem
  rw [Char.ofNat_toNat] at hchar
  exact List.mem_append_left ['-', 'W'] hchar

theorem mem_dateChars_of_mem_hyphen {separated : Bool} {c : Char} (h : c ∈ hyphen separated) :
    c ∈ dateChars := by
  cases separated with
  | false => cases h
  | true =>
    obtain rfl := List.mem_singleton.mp h
    decide

theorem mem_dateChars_of_mem_padded {width n : Nat} {c : Char} (h : c ∈ Date.padded width n) :
    c ∈ dateChars := mem_dateChars_of_isDigit (isDigit_of_mem_padded h)

theorem mem_dateChars {form : DateForm} {d : Date} {c : Char} (h : c ∈ form.write d) :
    c ∈ dateChars := by
  cases form with
  | month separated =>
    simp only [write, List.mem_append] at h
    rcases h with h | h | h | h | h
    · exact mem_dateChars_of_mem_padded h
    · exact mem_dateChars_of_mem_hyphen h
    · exact mem_dateChars_of_mem_padded h
    · exact mem_dateChars_of_mem_hyphen h
    · exact mem_dateChars_of_mem_padded h
  | week separated =>
    simp only [write, List.mem_append, List.mem_cons] at h
    rcases h with h | h | rfl | h | h | h
    · exact mem_dateChars_of_mem_padded h
    · exact mem_dateChars_of_mem_hyphen h
    · decide
    · exact mem_dateChars_of_mem_padded h
    · exact mem_dateChars_of_mem_hyphen h
    · exact mem_dateChars_of_mem_padded h

/-- Every character of a date takes one octet. -/
theorem octets_eq_length {cs : List Char} (h : ∀ c ∈ cs, c ∈ dateChars) :
    cs.foldr (fun c n => c.utf8Size + n) 0 = cs.length := by
  have hall : dateChars.all (fun c => c.utf8Size == 1) = true := by decide
  induction cs with
  | nil => rfl
  | cons c cs ih =>
    rw [List.forall_mem_cons] at h
    have hsize := beq_iff_eq.mp (List.all_eq_true.mp hall c h.1)
    rw [List.foldr_cons, ih h.2, hsize, List.length_cons, Nat.add_comm]

/-! ## Dates -/

theorem monthLength_le (year month : Nat) : monthLength year month ≤ 31 := by
  have hall : ∀ leap, ∀ length ∈ monthLengths leap, length ≤ 31 := by decide
  rw [monthLength]
  split
  · omega
  · rw [List.getD_eq_getElem?_getD]
    cases hget : (monthLengths (isLeap year))[month - 1]? with
    | none => exact Nat.zero_le 31
    | some length => exact hall _ length (List.mem_of_getElem? hget)

theorem fields_lt (d : Date) : d.year < 10 ^ 4 ∧ d.month < 10 ^ 2 ∧ d.day < 10 ^ 2 := by
  have hyear := d.year_le
  have hmonth := month_le d
  have hday := d.day_le
  have hlength := monthLength_le d.year d.month
  omega

theorem weekFields_lt (d : Date) :
    d.weekDate.year < 10 ^ 4 ∧ d.weekDate.week < 10 ^ 2 ∧ d.weekDate.weekday < 10 ^ 1 := by
  obtain ⟨dayOfYear, hweek, -, hyear, hless, -⟩ := exists_thursday d
  have hlength : yearLength d.weekDate.year ≤ 366 := by
    rw [yearLength]
    split <;> omega
  have hweekday : d.weekday < 7 := Nat.mod_lt _ (by omega)
  generalize d.weekDate.year = year at *
  rw [hweek]
  dsimp only
  omega

theorem length_write (form : DateForm) (d : Date) :
    (form.write d).length = 8 ∨ (form.write d).length = 10 := by
  obtain ⟨hyear, hmonth, hday⟩ := fields_lt d
  obtain ⟨hweekYear, hweek, hweekday⟩ := weekFields_lt d
  rcases form with (_ | _) | (_ | _)
  all_goals
    simp only [write, hyphen, List.length_append, List.length_cons,
      length_padded (by omega) hyear, length_padded (by omega) hmonth,
      length_padded (by omega) hday, length_padded (by omega) hweekYear,
      length_padded (by omega) hweek, length_padded (by omega) hweekday]
    decide

/-- A date is read by its year, and then by its week if a W follows, else by its month. -/
theorem read?_year {cs : List Char} (hchars : ∀ c ∈ cs, c ∈ dateChars)
    (hlength : cs.length = 8 ∨ cs.length = 10) {year : Nat} (hyear : year < 10 ^ 4)
    {separated : Bool} {c : Char} {rest : List Char} (hc : c ≠ '-')
    (hcs : cs = Date.padded 4 year ++ (hyphen separated ++ c :: rest)) :
    (c = 'W' → Date.read? cs = Date.readWeek? year separated rest) ∧
      (c ≠ 'W' → Date.read? cs = Date.readMonth? year separated (c :: rest)) := by
  have hoctets : (cs.length != 7 && cs.length != 8 && cs.length != 10) = false := by
    rcases hlength with h | h <;> rw [h] <;> rfl
  have hread := digits?_padded (by omega) hyear (hyphen separated ++ c :: rest)
  rw [← hcs] at hread
  have hhead : ((hyphen separated ++ c :: rest).head? == some '-') = separated := by
    cases separated with
    | true => rfl
    | false => simpa [hyphen] using hc
  have hdrop : (if separated = true then (hyphen separated ++ c :: rest).drop 1
      else hyphen separated ++ c :: rest) = c :: rest := by
    cases separated <;> rfl
  rw [Date.read?, octets_eq_length hchars, hoctets]
  simp only [Bool.false_eq_true, if_false, hread, Option.bind_eq_bind, Option.bind_some, hhead,
    hdrop]
  constructor
  · rintro rfl
    rfl
  · intro hletter
    split
    · rename_i heq
      exact absurd (List.cons.inj heq).1 hletter
    · rfl

/-- A date is read back from each of its forms. -/
theorem read?_write (form : DateForm) (d : Date) : Date.read? (form.write d) = some d := by
  have hchars : ∀ c ∈ form.write d, c ∈ dateChars := fun _ => mem_dateChars
  have hlength := length_write form d
  cases form with
  | month separated =>
    obtain ⟨hyear, hmonth, hday⟩ := fields_lt d
    obtain ⟨c, rest, hcons, hdigit⟩ := exists_padded_cons (by omega) hmonth
    have hhyphen : c ≠ '-' := by
      rintro rfl
      cases hdigit
    have hletter : c ≠ 'W' := by
      rintro rfl
      cases hdigit
    have hself : Date.ofFields? d.year d.month d.day = some d :=
      dif_pos ⟨d.year_pos, d.year_le, d.day_pos, d.day_le⟩
    have hfields := readMonth?_padded d.year hmonth hday separated
    rw [hcons, List.cons_append] at hfields
    have hread := (read?_year hchars hlength hyear hhyphen
      (by rw [write, hcons, List.cons_append])).2 hletter
    rw [hread, hfields, hself]
  | week separated =>
    obtain ⟨hyear, hweek, hweekday⟩ := weekFields_lt d
    rw [(read?_year hchars hlength hyear (by decide) rfl).1 rfl]
    exact (readWeek?_padded _ hweek hweekday separated).trans (ofWeek?_weekDate d)

end Proofs.Calendar.Literal

end AdSearch
