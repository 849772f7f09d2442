import RunTable.Proofs.Export.Calendar
import RunTable.Proofs.Number.PaddedDigits

/-! # Reading points in time back

A reader of dates and times of day that shares nothing with the writer but the
digits: a year of four digits, or of more behind a plus sign, and two digits for
everything else. What it finds is counted from the beginning of 1970 by the
calendar (`Moment.seconds`). Below the year 10000 all texts have one layout, so
their order as texts is that of what is read. -/

namespace RunTable

open Calendar

/-- A date and a time of day. -/
structure Moment where
  date : Date
  hour : Nat
  minute : Nat
  second : Nat
  deriving DecidableEq

namespace Moment

/-- There is such a date, and such a time of day. -/
def Valid (m : Moment) : Prop := m.date.Valid ∧ m.hour < 24 ∧ m.minute < 60 ∧ m.second < 60

instance (m : Moment) : Decidable m.Valid := inferInstanceAs (Decidable (_ ∧ _ ∧ _ ∧ _))

/-- The seconds from the beginning of 1970 to a moment. -/
def seconds (m : Moment) : Int :=
  ((m.date.number : Int) - (Date.mk 1970 1 1).number) * 86400 +
    m.hour * 3600 + m.minute * 60 + m.second

/-! ## A reader -/

/-- A number of so many digits, and what follows it. -/
def fixed? (width : Nat) (s : List Char) : Option (Nat × List Char) :=
  let (ds, rest) := takeDigits s
  if ds.length = width then some (spelled ds, rest) else none

/-- A year, and what follows it. -/
def year? : List Char → Option (Nat × List Char)
  | '+' :: s =>
    let (ds, rest) := takeDigits s
    if 4 < ds.length then some (spelled ds, rest) else none
  | s => fixed? 4 s

/-- A character and a number of two digits behind it, and what follows them. -/
def field? (c : Char) : List Char → Option (Nat × List Char)
  | [] => none
  | d :: s => if d = c then fixed? 2 s else none

/-- The moment that a text spells. -/
def read? (text : String) : Option Moment := do
  let (year, s) ← year? text.toList
  let (month, s) ← field? '-' s
  let (day, s) ← field? '-' s
  let (hour, s) ← field? ' ' s
  let (minute, s) ← field? ':' s
  let (second, s) ← field? ':' s
  if s = [] then some ⟨⟨year, month, day⟩, hour, minute, second⟩ else none

/-- No digit comes first in a text. -/
def StartsPlain (s : List Char) : Prop := ∀ c ∈ s.head?, Digit.ofChar? c = none

theorem fixed?_paddedDigits {width n : Nat} (hwidth : 0 < width) (hn : n < 10 ^ width)
    {rest : List Char} (hrest : StartsPlain rest) :
    fixed? width (digitChars (paddedDigits width n) ++ rest) = some (n, rest) := by
  rw [fixed?, takeDigits_digitChars _ hrest]
  simp [length_paddedDigits hwidth hn]

theorem field?_paddedDigits (c : Char) {n : Nat} (hn : n < 100) {rest : List Char}
    (hrest : StartsPlain rest) :
    field? c (c :: (digitChars (paddedDigits 2 n) ++ rest)) = some (n, rest) := by
  rw [field?, if_pos rfl]
  exact fixed?_paddedDigits (by decide) hn hrest

/-- A digit is no sign. -/
theorem year?_of_digit (d : Digit) (s : List Char) :
    year? (d.char :: s) = fixed? 4 (d.char :: s) := by
  have hsign : d.char ≠ '+' := by
    revert d
    decide
  unfold year?
  split
  · next heq => exact absurd (List.cons.inj heq).1 hsign
  · rfl

theorem year?_yearText (year : Nat) {rest : List Char} (hrest : StartsPlain rest) :
    year? ((yearText year).toList ++ rest) = some (year, rest) := by
  unfold yearText
  split
  · next h =>
    have hlength : 4 < (digits year).length := by
      refine Nat.lt_of_not_le fun hshort => ?_
      have hlt := lt_pow_length_digits year
      have hpow : 10 ^ (digits year).length ≤ 10 ^ 4 := Nat.pow_le_pow_right (by decide) hshort
      omega
    have htext : ("+" ++ naturalText year).toList ++ rest =
        '+' :: (digitChars (digits year) ++ rest) := by
      simp [naturalText]
    rw [htext, year?, takeDigits_digitChars _ hrest]
    simp [hlength]
  · next h =>
    have hyear : year < 10 ^ 4 := by omega
    have hread := fixed?_paddedDigits (by decide) hyear hrest
    have hpos : 0 < (paddedDigits 4 year).length := by
      rw [length_paddedDigits (by decide) hyear]
      decide
    rw [paddedText_eq, String.toList_ofList]
    obtain ⟨d, ds, hds⟩ := List.exists_cons_of_length_pos hpos
    rw [hds, digitChars, List.map_cons, List.cons_append] at hread ⊢
    rw [year?_of_digit, hread]

/-- The moment of a second from the beginning of 1970 on. -/
def ofSecond (second : Nat) : Moment :=
  ⟨dateOf (epochDay + second / 86400), second % 86400 / 3600, second % 86400 / 60 % 60,
    second % 86400 % 60⟩

theorem valid_ofSecond (second : Nat) : (ofSecond second).Valid :=
  ⟨(dateOf_spec _).1, by simp only [ofSecond]; omega, by simp only [ofSecond]; omega,
    by simp only [ofSecond]; omega⟩

theorem number_epoch : (Date.mk 1970 1 1).number = epochDay := number_newYear 1970

theorem seconds_ofSecond (second : Nat) : (ofSecond second).seconds = second := by
  have hdate : (ofSecond second).date.number = epochDay + second / 86400 := (dateOf_spec _).2
  rw [seconds, hdate, number_epoch]
  simp only [ofSecond]
  omega

/-- The last millisecond with a date is the last one of the year 262142. -/
example : ofSecond (lastDatedMillisecond / 1000) = ⟨⟨262142, 12, 31⟩, 23, 59, 59⟩ ∧
    ofSecond (lastDatedMillisecond / 1000 + 1) = ⟨⟨262143, 1, 1⟩, 0, 0, 0⟩ := by decide +kernel

theorem toList_secondText (second : Nat) :
    let m := ofSecond second
    (secondText second).toList = (yearText m.date.year).toList ++
      '-' :: (digitChars (paddedDigits 2 m.date.month) ++
      '-' :: (digitChars (paddedDigits 2 m.date.day) ++
      ' ' :: (digitChars (paddedDigits 2 m.hour) ++
      ':' :: (digitChars (paddedDigits 2 m.minute) ++
      ':' :: digitChars (paddedDigits 2 m.second))))) := by
  simp [secondText, ofSecond, paddedText_eq]

/-- All numbers but the year have two digits at most. -/
theorem Valid.short {m : Moment} (h : m.Valid) :
    m.date.month < 100 ∧ m.date.day < 100 ∧ m.hour < 100 ∧ m.minute < 100 ∧ m.second < 100 := by
  obtain ⟨⟨-, hmonth, -, hday⟩, hhour, hminute, hsecond⟩ := h
  have hlength := monthLength_le m.date.year m.date.month
  exact ⟨by omega, by omega, by omega, by omega, by omega⟩

theorem startsPlain_nil : StartsPlain [] := nofun

theorem startsPlain_cons {c : Char} (h : Digit.ofChar? c = none) (s : List Char) :
    StartsPlain (c :: s) := by
  intro d hd
  cases hd
  exact h

theorem read?_secondText (second : Nat) : read? (secondText second) = some (ofSecond second) := by
  obtain ⟨hmonth, hday, hhour, hminute, hsecond⟩ := (valid_ofSecond second).short
  have hdash : Digit.ofChar? '-' = none := by decide
  have hblank : Digit.ofChar? ' ' = none := by decide
  have hcolon : Digit.ofChar? ':' = none := by decide
  have hlast := field?_paddedDigits ':' hsecond startsPlain_nil
  rw [List.append_nil] at hlast
  simp only [read?, toList_secondText, Option.bind_eq_bind,
    year?_yearText _ (startsPlain_cons hdash _), Option.bind_some,
    field?_paddedDigits _ hmonth (startsPlain_cons hdash _),
    field?_paddedDigits _ hday (startsPlain_cons hblank _),
    field?_paddedDigits _ hhour (startsPlain_cons hcolon _),
    field?_paddedDigits _ hminute (startsPlain_cons hcolon _), hlast, if_true]

/-! ## Order -/

/-- The numbers of a moment, from the year on. -/
def fields (m : Moment) : List Nat :=
  [m.date.year, m.date.month, m.date.day, m.hour, m.minute, m.second]

/-- Of two moments the one whose numbers come first is the earlier one. -/
theorem seconds_lt {m n : Moment} (hm : m.Valid) (hn : n.Valid) (h : m.fields < n.fields) :
    m.seconds < n.seconds := by
  have hdates := number_lt hm.1 hn.1
  obtain ⟨⟨year, month, day⟩, hour, minute, second⟩ := m
  obtain ⟨⟨year', month', day'⟩, hour', minute', second'⟩ := n
  obtain ⟨-, hhour, hminute, hsecond⟩ := hm
  obtain ⟨-, hhour', hminute', hsecond'⟩ := hn
  simp only [fields, List.cons_lt_cons_iff, List.not_lt_nil, and_false, or_false] at h hdates
  simp only [seconds]
  simp only at hhour hminute hsecond hhour' hminute' hsecond'
  -- A later date outweighs the time of day.
  rcases h with h | ⟨rfl, h | ⟨rfl, h | ⟨rfl, h⟩⟩⟩
  · have hdate := hdates (Or.inl h)
    omega
  · have hdate := hdates (Or.inr ⟨rfl, Or.inl h⟩)
    omega
  · have hdate := hdates (Or.inr ⟨rfl, Or.inr ⟨rfl, h⟩⟩)
    omega
  · omega

theorem fields_lt {m n : Moment} (hm : m.Valid) (hn : n.Valid) (h : m.seconds < n.seconds) :
    m.fields < n.fields := by
  refine Decidable.byContradiction fun hnot => ?_
  rcases List.le_iff_lt_or_eq.mp (List.not_lt.mp hnot) with hlt | heq
  · exact Int.lt_asymm h (seconds_lt hn hm hlt)
  · have hsame : m = n := by
      obtain ⟨⟨_, _, _⟩, _, _, _⟩ := m
      obtain ⟨⟨_, _, _⟩, _, _, _⟩ := n
      simp only [fields, List.cons.injEq, and_true] at heq
      obtain ⟨rfl, rfl, rfl, rfl, rfl, rfl⟩ := heq
      rfl
    exact Int.lt_irrefl _ (hsame ▸ h)

/-- The first moment whose year has five digits. -/
def yearTenThousand : Moment := ⟨⟨10000, 1, 1⟩, 0, 0, 0⟩

theorem seconds_yearTenThousand : yearTenThousand.seconds = 253402300800 := by
  rw [seconds, number_epoch, yearTenThousand, number_newYear]
  decide

theorem year_lt {m : Moment} (hm : m.Valid) (h : m.seconds < yearTenThousand.seconds) :
    m.date.year < 10000 := by
  have hfields := fields_lt hm (n := yearTenThousand) (by decide) h
  obtain ⟨⟨hmonth, -, hday, -⟩, -⟩ := hm
  simp only [fields, yearTenThousand, List.cons_lt_cons_iff, List.not_lt_nil, and_false,
    or_false] at hfields
  omega

/-- How a moment before the year 10000 is laid out: the digits of each number, and
what follows them. -/
def layout : List (Nat × List Char) :=
  [(4, ['-']), (2, ['-']), (2, [' ']), (2, [':']), (2, [':']), (2, [])]

theorem Valid.fits {m : Moment} (h : m.Valid) (hyear : m.date.year < 10000) :
    Fits layout m.fields := by
  obtain ⟨hmonth, hday, hhour, hminute, hsecond⟩ := h.short
  simp [Fits, layout, fields, hyear, hmonth, hday, hhour, hminute, hsecond]

theorem toList_secondText_of_year {second : Nat} (h : (ofSecond second).date.year < 10000) :
    (secondText second).toList = writeFixed layout (ofSecond second).fields := by
  have hyear : yearText (ofSecond second).date.year = paddedText 4 (ofSecond second).date.year :=
    if_neg (by omega)
  rw [toList_secondText, hyear, paddedText_eq, String.toList_ofList]
  simp [writeFixed, layout, fields]

/-- Before the year 10000 a later second has a later text. -/
theorem secondText_lt {s t : Nat} (h : s < t) (ht : (t : Int) < yearTenThousand.seconds) :
    secondText s < secondText t := by
  have hs : (s : Int) < yearTenThousand.seconds := by omega
  rw [← seconds_ofSecond] at hs ht
  have hyear := year_lt (valid_ofSecond s) hs
  have hyear' := year_lt (valid_ofSecond t) ht
  rw [String.lt_iff, toList_secondText_of_year hyear, toList_secondText_of_year hyear']
  refine writeFixed_lt ((valid_ofSecond s).fits hyear) ((valid_ofSecond t).fits hyear')
    (fields_lt (valid_ofSecond s) (valid_ofSecond t) ?_)
  rw [seconds_ofSecond, seconds_ofSecond]
  exact Int.ofNat_lt.mpr h

theorem secondText_le {s t : Nat} (h : s ≤ t) (ht : (t : Int) < yearTenThousand.seconds) :
    secondText s ≤ secondText t := by
  rcases Nat.lt_or_eq_of_le h with hlt | rfl
  · exact Std.le_of_lt (secondText_lt hlt ht)
  · exact String.le_refl _

end Moment

/-! ## Milliseconds -/

variable {a b ms : Int64}

theorem timestampText_of_le (hpos : 0 < ms) (h : ms.toInt ≤ lastDatedMillisecond) :
    timestampText ms = secondText (ms.toInt.toNat / 1000) := by
  have hlast : ms.toInt.toNat ≤ lastDatedMillisecond := by omega
  simp only [timestampText, if_neg (Int64.not_le.mpr hpos), if_pos hlast]

theorem timestampText_of_lt (h : (lastDatedMillisecond : Int) < ms.toInt) :
    timestampText ms = naturalText ms.toInt.toNat := by
  have hpos : ¬ms ≤ 0 := by
    rw [Int64.le_iff_toInt_le, Int64.toInt_zero]
    omega
  have hlast : ¬ms.toInt.toNat ≤ lastDatedMillisecond := by omega
  simp only [timestampText, if_neg hpos, if_neg hlast]

theorem naturalText_injective {m n : Nat} (h : naturalText m = naturalText n) : m = n := by
  have hread (n : Nat) : takeDigits (naturalText n).toList = (digits n, []) := by
    have htake := takeDigits_digitChars (digits n) Moment.startsPlain_nil
    rw [List.append_nil] at htake
    rw [naturalText, String.toList_ofList, htake]
  have hdigits := hread m
  rw [h, hread n] at hdigits
  rw [← spelled_digits m, ← spelled_digits n, (Prod.mk.inj hdigits).1]

/-- A date has dashes, a number has none. -/
theorem secondText_ne_naturalText (second n : Nat) : secondText second ≠ naturalText n := by
  intro h
  have hdash : '-' ∈ (naturalText n).toList := by
    rw [← h, Moment.toList_secondText]
    simp
  rw [naturalText, String.toList_ofList, digitChars, List.mem_map] at hdash
  obtain ⟨d, -, hd⟩ := hdash
  revert d
  decide

theorem read?_timestampText (hpos : 0 < ms) (h : ms.toInt ≤ lastDatedMillisecond) :
    Moment.read? (timestampText ms) = some (.ofSecond (ms.toInt.toNat / 1000)) := by
  rw [timestampText_of_le hpos h, Moment.read?_secondText]

theorem toInt_pos (hpos : 0 < ms) : 0 < ms.toInt := by
  rwa [Int64.lt_iff_toInt_lt, Int64.toInt_zero] at hpos

theorem seconds_of_milliseconds (hpos : 0 < ms) :
    (Moment.ofSecond (ms.toInt.toNat / 1000)).seconds = ms.toInt / 1000 := by
  have hzero := toInt_pos hpos
  rw [Moment.seconds_ofSecond]
  omega

theorem second_eq_of_timestampText_eq (ha : 0 < a) (hb : 0 < b)
    (ha' : a.toInt ≤ lastDatedMillisecond) (hb' : b.toInt ≤ lastDatedMillisecond)
    (h : timestampText a = timestampText b) : a.toInt / 1000 = b.toInt / 1000 := by
  have hmoment := read?_timestampText ha ha'
  rw [h, read?_timestampText hb hb'] at hmoment
  rw [← seconds_of_milliseconds ha, ← seconds_of_milliseconds hb, Option.some.inj hmoment]

theorem le_lastDated_of_year (h : ms.toInt < 1000 * Moment.yearTenThousand.seconds) :
    ms.toInt ≤ lastDatedMillisecond := by
  rw [Moment.seconds_yearTenThousand] at h
  simp only [lastDatedMillisecond]
  omega

theorem timestampText_mono (hpos : 0 < a) (hle : a ≤ b)
    (h : b.toInt < 1000 * Moment.yearTenThousand.seconds) :
    timestampText a ≤ timestampText b := by
  have hlast := le_lastDated_of_year h
  have hposb := Int64.lt_of_lt_of_le hpos hle
  have hle' := Int64.le_iff_toInt_le.mp hle
  have hzero := toInt_pos hpos
  rw [timestampText_of_le hpos (by omega), timestampText_of_le hposb hlast]
  exact Moment.secondText_le (by omega) (by omega)

/-- **A date reads back as its second.** What is written for a time up to the last
one with a date reads as a moment that there is and that has as many whole
seconds since the beginning of 1970. So no two seconds have one text, and no
later time, for which its digits are written, has the text of a date or of
another such time. Before the year 10000 the order of the texts is that of the
seconds. -/
theorem timestampText_reads_back :
    (∀ ms : Int64, 0 < ms → ms.toInt ≤ lastDatedMillisecond →
      ∃ m, Moment.read? (timestampText ms) = some m ∧ m.Valid ∧
        m.seconds = ms.toInt / 1000) ∧
    (∀ a b : Int64, 0 < a → 0 < b → a.toInt ≤ lastDatedMillisecond →
      b.toInt ≤ lastDatedMillisecond → timestampText a = timestampText b →
      a.toInt / 1000 = b.toInt / 1000) ∧
    (∀ a b : Int64, 0 < a → a.toInt ≤ lastDatedMillisecond →
      (lastDatedMillisecond : Int) < b.toInt → timestampText a ≠ timestampText b) ∧
    (∀ a b : Int64, (lastDatedMillisecond : Int) < a.toInt →
      (lastDatedMillisecond : Int) < b.toInt → timestampText a = timestampText b → a = b) ∧
    ∀ a b : Int64, 0 < a → a ≤ b → b.toInt < 1000 * Moment.yearTenThousand.seconds →
      timestampText a ≤ timestampText b ∧
        (timestampText a = timestampText b ↔ a.toInt / 1000 = b.toInt / 1000) := by
  refine ⟨fun ms hpos hlast => ?_, fun a b ha hb => second_eq_of_timestampText_eq ha hb,
    fun a b hpos ha hb => ?_, fun a b ha hb h => ?_, fun a b hpos hle hyear => ?_⟩
  · exact ⟨_, read?_timestampText hpos hlast, Moment.valid_ofSecond _,
      seconds_of_milliseconds hpos⟩
  · rw [timestampText_of_le hpos ha, timestampText_of_lt hb]
    exact secondText_ne_naturalText _ _
  · rw [timestampText_of_lt ha, timestampText_of_lt hb] at h
    have hnat := naturalText_injective h
    exact Int64.toInt_inj.mp (by omega)
  · have hlast := le_lastDated_of_year hyear
    have hposb := Int64.lt_of_lt_of_le hpos hle
    have hlasta := Int.le_trans (Int64.le_iff_toInt_le.mp hle) hlast
    refine ⟨timestampText_mono hpos hle hyear,
      second_eq_of_timestampText_eq hpos hposb hlasta hlast, fun h => ?_⟩
    have hzero := toInt_pos hpos
    have hsecond : a.toInt.toNat / 1000 = b.toInt.toNat / 1000 := by omega
    rw [timestampText_of_le hpos hlasta, timestampText_of_le hposb hlast, hsecond]

/-- A leap day at the end of a century, the last times of the years 9999 and
262142, and the first and the last time without a date. -/
theorem timestampText_reads_back_leapDay :
    let leapDay : Int64 := 951782400123
    let yearEnd : Int64 := 253402300799999
    let last : Int64 := 8210266876799999
    let undated : Int64 := 8210266876800000
    let greatest : Int64 := 9223372036854775807
    (0 < leapDay ∧ leapDay.toInt ≤ lastDatedMillisecond ∧
      ∃ m, Moment.read? (timestampText leapDay) = some m ∧ m.Valid ∧ m.seconds = 951782400) ∧
    (0 < last ∧ last.toInt ≤ lastDatedMillisecond ∧
      (lastDatedMillisecond : Int) < undated.toInt ∧
      timestampText last ≠ timestampText undated) ∧
    (timestampText leapDay = timestampText (leapDay + 876) →
      leapDay.toInt / 1000 = (leapDay + 876).toInt / 1000) ∧
    (timestampText undated = timestampText greatest → undated = greatest) ∧
    leapDay ≤ yearEnd ∧ yearEnd.toInt < 1000 * Moment.yearTenThousand.seconds ∧
      timestampText leapDay ≤ timestampText yearEnd ∧
      (timestampText leapDay = timestampText yearEnd ↔
        leapDay.toInt / 1000 = yearEnd.toInt / 1000) := by
  intro leapDay yearEnd last undated greatest
  obtain ⟨reads, dated, apart, undatedToo, ordered⟩ := timestampText_reads_back
  have hpos : 0 < leapDay := by decide
  have hlast : leapDay.toInt ≤ lastDatedMillisecond := by decide
  have hundated : (lastDatedMillisecond : Int) < undated.toInt := by decide
  have hle : leapDay ≤ yearEnd := by decide
  have hyear : yearEnd.toInt < 1000 * Moment.yearTenThousand.seconds := by
    rw [Moment.seconds_yearTenThousand]
    decide
  have hread := reads leapDay hpos hlast
  rw [show leapDay.toInt / 1000 = 951782400 from by decide] at hread
  exact ⟨⟨hpos, hlast, hread⟩,
    ⟨by decide, by decide, hundated, apart last undated (by decide) (by decide) hundated⟩,
    dated leapDay (leapDay + 876) hpos (by decide) hlast (by decide),
    undatedToo undated greatest hundated (by decide), hle, hyear, ordered _ _ hpos hle hyear⟩

end RunTable
