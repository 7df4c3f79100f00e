import Switchboard.Timestamp

/-!
# Dates and day numbers

Every day number is the number of its own date (`Date.dayNumber_dateOf`), so the calendar has
all dates that `Date.dateOf` comes to (`Date.dayOf?_dateOf`).

The calendar repeats after an era of 400 years, or 146097 days.  Within an era, years start in
March and `yearOfEra` guesses the year of a day by taking out the leap days before it, all
years then having 365 days.  The guess is right (`yearOfEra_spec`): a century has 36524 days
and four years have 1461, so with the century and the four-year cycle of a day named, the leap
days that were taken out are known up to one.  The last day of an era is on its own, since it
belongs to a century that is a day longer.
-/

namespace Switchboard.Date

/-- The year of a day of an era. -/
def yearOfEra (day : Int) : Int := (day - day / 1460 + day / 36524 - day / 146096) / 365

/-- The number of days of an era before a year. -/
def daysBefore (year : Int) : Int := 365 * year + year / 4 - year / 100

theorem yearOfEra_bounds {day : Int} (h0 : 0 ≤ day) (h : day < 146097) :
    0 ≤ yearOfEra day ∧ yearOfEra day ≤ 399 := by
  unfold yearOfEra
  omega

/-- A day lies in its year. -/
theorem yearOfEra_spec {day : Int} (h0 : 0 ≤ day) (h : day < 146097) :
    daysBefore (yearOfEra day) ≤ day ∧ day ≤ daysBefore (yearOfEra day) + 365 := by
  by_cases hlast : day = 146096
  · subst hlast
    decide
  · unfold yearOfEra daysBefore
    generalize hcentury : day / 36524 = century
    generalize hcycle : (day - 36524 * century) / 1461 = cycle
    generalize hleap : day / 1460 = leap
    have hera : day / 146096 = 0 := by omega
    have hleap' : leap = 25 * century + cycle ∨ leap = 25 * century + cycle + 1 := by omega
    generalize hyear : (day - leap + century - day / 146096) / 365 = year
    have hyear' : 100 * century + 4 * cycle ≤ year ∧ year ≤ 100 * century + 4 * cycle + 3 := by
      omega
    have hquarter : year / 4 = 25 * century + cycle := by omega
    have hhundred : year / 100 = century := by omega
    omega

/-- The date of a day of a year of an era, both counted from zero.  The year starts in March. -/
def ofMarch (era year day : Int) : Date :=
  let month := (5 * day + 2) / 153
  ⟨if month < 10 then year + era * 400 else year + era * 400 + 1,
    if month < 10 then month + 3 else month - 9, day - (153 * month + 2) / 5 + 1⟩

theorem exists_ofMarch (n : Int) :
    ∃ era year day : Int, 0 ≤ year ∧ year ≤ 399 ∧ 0 ≤ day ∧ day ≤ 365 ∧
      n = era * 146097 + daysBefore year + day - epochShift ∧ dateOf n = ofMarch era year day := by
  let era := (n + epochShift) / 146097
  let doe := n + epochShift - era * 146097
  have h0 : 0 ≤ doe := by omega
  have h : doe < 146097 := by omega
  obtain ⟨hyear0, hyear⟩ := yearOfEra_bounds h0 h
  obtain ⟨hday0, hday⟩ := yearOfEra_spec h0 h
  refine ⟨era, yearOfEra doe, doe - daysBefore (yearOfEra doe), hyear0, hyear, by omega, by omega,
    by omega, ?_⟩
  let month := (5 * (doe - daysBefore (yearOfEra doe)) + 2) / 153
  have hshifted : (if (if month < 10 then month + 3 else month - 9) ≤ 2 then
        yearOfEra doe + era * 400 + 1 else yearOfEra doe + era * 400) =
      if month < 10 then yearOfEra doe + era * 400 else yearOfEra doe + era * 400 + 1 := by
    by_cases hmonth : month < 10
    · rw [if_pos hmonth, if_pos hmonth, if_neg (by omega)]
    · rw [if_neg hmonth, if_neg hmonth, if_pos (by omega)]
  exact congrArg (fun y : Int => Date.mk y _ _) hshifted

theorem dayNumber_ofMarch {era year day : Int} (hyear0 : 0 ≤ year) (hyear : year ≤ 399)
    (hday0 : 0 ≤ day) (hday : day ≤ 365) :
    (ofMarch era year day).dayNumber = era * 146097 + daysBefore year + day - epochShift := by
  unfold ofMarch dayNumber daysBefore
  simp only
  by_cases hmonth : (5 * day + 2) / 153 < 10
  · simp only [hmonth, if_true]
    omega
  · simp only [hmonth, if_false]
    omega

theorem ofMarch_bounds {era year day : Int} (hday0 : 0 ≤ day) (hday : day ≤ 365) :
    1 ≤ (ofMarch era year day).month ∧ (ofMarch era year day).month ≤ 12 ∧
      1 ≤ (ofMarch era year day).day ∧ (ofMarch era year day).day ≤ 31 := by
  unfold ofMarch
  by_cases hmonth : (5 * day + 2) / 153 < 10
  · simp only [hmonth, if_true]
    omega
  · simp only [hmonth, if_false]
    omega

/-- A date has a month of the year and a day of the month. -/
theorem dateOf_bounds (n : Int) :
    1 ≤ (dateOf n).month ∧ (dateOf n).month ≤ 12 ∧ 1 ≤ (dateOf n).day ∧ (dateOf n).day ≤ 31 := by
  obtain ⟨era, year, day, -, -, hday0, hday, -, hdate⟩ := exists_ofMarch n
  rw [hdate]
  exact ofMarch_bounds hday0 hday

/-- A day is the day of its own date. -/
theorem dayNumber_dateOf (n : Int) : (dateOf n).dayNumber = n := by
  obtain ⟨era, year, day, hyear0, hyear, hday0, hday, hn, hdate⟩ := exists_ofMarch n
  rw [hdate, dayNumber_ofMarch hyear0 hyear hday0 hday, hn]

/-- The calendar has the date of every day. -/
theorem dayOf?_dateOf (n : Int) : dayOf? (dateOf n) = some n := by
  rw [dayOf?, dayNumber_dateOf, if_pos rfl]

end Switchboard.Date
