import AttrExpr.Coercion
import AttrExpr.Proofs.FieldTexts

/-! Canonical texts of dates and instants, read again. A date is read as itself, and an instant of a
year with four digits as itself up to the millisecond. -/
set_option autoImplicit false

namespace AttrExpr

theorem daysInMonth_le (year : Int) (month : Nat) : daysInMonth year month ≤ 31 := by
  unfold daysInMonth
  split
  · split <;> decide
  all_goals decide

namespace Fields

/-- A field that is not set takes a value in its range. -/
theorem map_agree_none {low high value : Int} (h : low ≤ value ∧ value ≤ high)
    (f : Option Int → Fields) : (agree low high none value).map f = some (f (some value)) := by
  rw [agree, if_pos h]
  rfl

/-! The fields of a date, one after the other. -/

def ofYear (date : Date) : Fields := { year := some date.year }

def ofMonth (date : Date) : Fields := { ofYear date with month := some date.month }

def ofDate (date : Date) : Fields := { ofMonth date with day := some date.day }

section

variable (date : Date)

theorem set_year : empty.set .year date.year = some (ofYear date) := by
  have hyear : firstYear ≤ date.year ∧ date.year ≤ lastYear := date.valid.1
  unfold firstYear lastYear at hyear
  exact map_agree_none (by omega) _

theorem set_month : (ofYear date).set .month date.month = some (ofMonth date) := by
  have hmonth : 1 ≤ date.month ∧ date.month ≤ 12 := date.valid.2.1
  exact map_agree_none (by omega) _

theorem set_day : (ofMonth date).set .day date.day = some (ofDate date) := by
  have hday : 1 ≤ date.day ∧ date.day ≤ daysInMonth date.year date.month := date.valid.2.2
  have hlast := daysInMonth_le date.year date.month
  exact map_agree_none (by omega) _

/-- Whatever the fields of the time, those of the date make it. -/
theorem date_ofDate (half hourOfHalf minute second nanosecond offset : Option Int) :
    ({ ofDate date with
        half := half, hourOfHalf := hourOfHalf, minute := minute, second := second,
        nanosecond := nanosecond, offset := offset } : Fields).date = .ok date := by
  have hparts : Date.ofParts? date.year date.month date.day = some date := dif_pos date.valid
  simp [Fields.date, ofDate, ofMonth, ofYear, resolveYear, candidate?, hparts, fits, allows,
    allowsYearParts, bind, Except.bind, pure, Except.pure]

end

end Fields

theorem Date.month_fixed (date : Date) : FixedDigits 2 (padZeros 2 date.month) date.month := by
  have hmonth : 1 ≤ date.month ∧ date.month ≤ 12 := date.valid.2.1
  exact padZeros_fixed (by decide) (show _ < 100 by omega)

theorem Date.day_fixed (date : Date) : FixedDigits 2 (padZeros 2 date.day) date.day := by
  have hday : 1 ≤ date.day ∧ date.day ≤ daysInMonth date.year date.month := date.valid.2.2
  have hlast := daysInMonth_le date.year date.month
  exact padZeros_fixed (by decide) (show _ < 100 by omega)

/-- The canonical text of a date is read as that date, whatever its year. -/
theorem Date.ofText?_text (date : Date) : Date.ofText? Formats.standard.date date.text = some date := by
  have hitems : Formats.standard.date.items =
      [.zeros .year, .dash, .zeros .month, .dash, .zeros .day] := by decide
  have hyearRead (rest : List Char) : NumberField.read? .year .empty
      (yearText .zero date.year ++ '-' :: rest) = some (.ofYear date, '-' :: rest) := by
    rw [NumberField.read?_year _ _ (by simp), Fields.set_year]
    rfl
  have hmonthRead (rest : List Char) : NumberField.read? .month (.ofYear date)
      (padZeros 2 date.month ++ '-' :: rest) = some (.ofMonth date, '-' :: rest) := by
    rw [date.month_fixed.read?_eq rfl rfl, Fields.set_month]
    rfl
  have hdayRead : NumberField.read? .day (.ofMonth date) (padZeros 2 date.day) =
      some (.ofDate date, []) := by
    rw [← List.append_nil (padZeros 2 date.day), date.day_fixed.read?_eq rfl rfl, Fields.set_day]
    rfl
  have hread : Formats.standard.date.read? date.text = some (.ofDate date) := by
    simp only [Pattern.read?, hitems, Date.text, readItems?, PatternItem.zeros, PatternItem.dash,
      PatternItem.read?, hyearRead, hmonthRead, hdayRead, Text.after?_self, Option.map_some, List.isEmpty_nil,
      if_true]
  have hdate := Fields.date_ofDate date none none none none none none
  rw [ofText?, hread]
  change (Fields.ofDate date).date = _ at hdate
  rw [Option.bind_some, hdate]
  rfl

/-! Instants. -/

theorem TimeOfDay.within_milliseconds (time : TimeOfDay) :
    time.nanosecond.val / 1000000 * 1000000 < 1000000000 :=
  Nat.lt_of_le_of_lt (Nat.div_mul_le_self _ _) time.nanosecond.isLt

/-- A time without the part of its fraction that is less than a millisecond. -/
def TimeOfDay.inMilliseconds (time : TimeOfDay) : TimeOfDay :=
  { time with nanosecond := ⟨time.nanosecond.val / 1000000 * 1000000, time.within_milliseconds⟩ }

theorem TimeOfDay.nanosecond_inMilliseconds (time : TimeOfDay) :
    time.inMilliseconds.nanosecond.val = time.nanosecond.val / 1000000 * 1000000 := rfl

theorem TimeOfDay.inMilliseconds_again (time : TimeOfDay) :
    time.inMilliseconds.inMilliseconds = time.inMilliseconds := by
  have hmillis : time.nanosecond.val / 1000000 * 1000000 / 1000000 = time.nanosecond.val / 1000000 :=
    Nat.mul_div_cancel _ (by decide)
  simp only [inMilliseconds, hmillis]

def Instant.inMilliseconds (instant : Instant) : Instant :=
  ⟨instant.date, instant.time.inMilliseconds, instant.offset, instant.within⟩

namespace Fields

/-! The fields of an instant, one after the other. -/

def ofHour (date : Date) (time : TimeOfDay) : Fields :=
  { ofDate date with
    half := some ((time.hour.val : Int) / 12), hourOfHalf := some ((time.hour.val : Int) % 12) }

def ofMinute (date : Date) (time : TimeOfDay) : Fields :=
  { ofHour date time with minute := some time.minute.val }

def ofSecond (date : Date) (time : TimeOfDay) : Fields :=
  { ofMinute date time with second := some time.second.val }

def ofTime (date : Date) (time : TimeOfDay) : Fields :=
  { ofSecond date time with nanosecond := some time.nanosecond.val }

def ofInstant (instant : Instant) : Fields :=
  { ofTime instant.date instant.time with offset := some instant.offset.minutes }

section

variable (date : Date) (time : TimeOfDay)

theorem set_hour : (ofDate date).set .hour time.hour.val = some (ofHour date time) := by
  have hhour := time.hour.isLt
  have hhalf : (ofDate date).setHalf (time.hour.val / 12) =
      some { ofDate date with half := some ((time.hour.val : Int) / 12) } :=
    map_agree_none (by omega) _
  rw [set, setHour, if_pos (by omega), hhalf]
  exact map_agree_none (by omega) _

theorem set_minute : (ofHour date time).set .minute time.minute.val = some (ofMinute date time) := by
  have hminute := time.minute.isLt
  exact map_agree_none (by omega) _

theorem set_second :
    (ofMinute date time).set .second time.second.val = some (ofSecond date time) := by
  have hsecond := time.second.isLt
  exact map_agree_none (by omega) _

theorem set_nanosecond :
    (ofSecond date time).set .nanosecond time.nanosecond.val = some (ofTime date time) := by
  have hnanosecond := time.nanosecond.isLt
  exact map_agree_none (by omega) _

end

theorem setOffset_ofTime (instant : Instant) :
    (ofTime instant.date instant.time).setOffset instant.offset.minutes =
      some (ofInstant instant) := by
  have hoffset := instant.offset.within
  exact map_agree_none (by omega) _

theorem time_ofInstant (instant : Instant) : (ofInstant instant).time = .ok instant.time := by
  obtain ⟨date, ⟨hour, minute, second, nanosecond⟩, offset, within⟩ := instant
  have hhour : ((hour.val : Int) / 12 * 12 + (hour.val : Int) % 12).toNat = hour.val := by omega
  have hparts : TimeOfDay.ofParts? hour.val minute.val second.val nanosecond.val =
      some ⟨hour, minute, second, nanosecond⟩ :=
    dif_pos ⟨hour.isLt, minute.isLt, second.isLt, nanosecond.isLt⟩
  simp only [Fields.time, ofInstant, ofTime, ofSecond, ofMinute, ofHour, Option.getD_some,
    Int.toNat_natCast, hhour, hparts]

theorem instant?_ofInstant (instant : Instant) : (ofInstant instant).instant? = some instant := by
  have hdate : (ofInstant instant).date = .ok instant.date := date_ofDate instant.date _ _ _ _ _ _
  have htime := time_ofInstant instant
  have hmoment : (ofInstant instant).dateTime instant.offset.minutes =
      .ok (instant.date, instant.time) := by
    rw [dateTime, hdate, htime]
    rfl
  have hoffset : Offset.ofMinutes? instant.offset.minutes = some instant.offset :=
    dif_pos instant.offset.within
  have hlocal : Instant.ofLocal? instant.date instant.time instant.offset = some instant :=
    dif_pos instant.within
  have hinstant : (ofInstant instant).offset = some instant.offset.minutes := rfl
  simp only [Fields.instant?, hinstant, Option.getD_some, hmoment, hoffset, Option.bind_some, hlocal]

end Fields

namespace Instant

theorem canonicalText_eq (instant : Instant) :
    instant.canonicalText = yearText .zero instant.date.year ++ '-' ::
      (padZeros 2 instant.date.month ++ '-' :: (padZeros 2 instant.date.day ++ 'T' ::
        (padZeros 2 instant.time.hour ++ ':' :: (padZeros 2 instant.time.minute ++ ':' ::
          (padZeros 2 instant.time.second ++ '.' ::
            (padZeros 3 (instant.time.nanosecond / 1000000) ++ instant.offset.shortText)))))) := by
  simp [canonicalText, localText, Date.text, TimeOfDay.clockText]

/-- What is less than a millisecond is not in the canonical text. -/
theorem canonicalText_inMilliseconds (instant : Instant) :
    instant.inMilliseconds.canonicalText = instant.canonicalText := by
  rw [canonicalText_eq, canonicalText_eq]
  have hmillis : instant.inMilliseconds.time.nanosecond.val / 1000000 =
      instant.time.nanosecond.val / 1000000 := Nat.mul_div_cancel _ (by decide)
  rw [hmillis]
  rfl

section

variable (date : Date) (time : TimeOfDay) (rest : List Char)

theorem read_year (h : 0 ≤ date.year ∧ date.year < 10000) :
    readExact? 4 .year .empty (yearText .zero date.year ++ rest) = some (.ofYear date, rest) := by
  rw [(yearText_fixed h).readExact?_eq, Int.natAbs_of_nonneg h.1, Fields.set_year]
  rfl

theorem read_month :
    readExact? 2 .month (.ofYear date) (padZeros 2 date.month ++ rest) =
      some (.ofMonth date, rest) := by
  rw [date.month_fixed.readExact?_eq, Fields.set_month]
  rfl

theorem read_day :
    readExact? 2 .day (.ofMonth date) (padZeros 2 date.day ++ rest) = some (.ofDate date, rest) := by
  rw [date.day_fixed.readExact?_eq, Fields.set_day]
  rfl

theorem read_hour :
    readExact? 2 .hour (.ofDate date) (padZeros 2 time.hour ++ rest) =
      some (.ofHour date time, rest) := by
  have hhour := time.hour.isLt
  rw [(padZeros_fixed (by decide) (show _ < 100 by omega)).readExact?_eq, Fields.set_hour]
  rfl

theorem read_minute :
    readExact? 2 .minute (.ofHour date time) (padZeros 2 time.minute ++ rest) =
      some (.ofMinute date time, rest) := by
  have hminute := time.minute.isLt
  rw [(padZeros_fixed (by decide) (show _ < 100 by omega)).readExact?_eq, Fields.set_minute]
  rfl

theorem read_second :
    readExact? 2 .second (.ofMinute date time) (padZeros 2 time.second ++ rest) =
      some (.ofSecond date time, rest) := by
  have hsecond := time.second.isLt
  rw [(padZeros_fixed (by decide) (show _ < 100 by omega)).readExact?_eq, Fields.set_second]
  rfl

/-- A fraction of whole milliseconds has three digits. -/
theorem read_fraction (hmillis : time.inMilliseconds = time)
    (hrest : ∀ c ∈ rest.head?, c.isDigit = false) :
    TextField.readPoint? (.ofSecond date time)
      ('.' :: (padZeros 3 (time.nanosecond / 1000000) ++ rest)) =
        some (.ofTime date time, rest) := by
  have hnanosecond := time.nanosecond.isLt
  have hmillion : tenTo (9 - 3) = 1000000 := rfl
  have hread : readFraction? (padZeros 3 (time.nanosecond / 1000000) ++ rest) =
      some (time.nanosecond.val, rest) := by
    rw [(padZeros_fixed (by decide) (show _ < 1000 by omega)).readFraction?_eq (by decide) hrest,
      hmillion, ← TimeOfDay.nanosecond_inMilliseconds, hmillis]
  exact TextField.readPoint?_eq hread (Fields.set_nanosecond date time)

end

/-- The canonical text of an instant in whole milliseconds is read as that instant, if its year has
four digits. -/
theorem ofStandard?_canonicalText {instant : Instant}
    (hmillis : instant.time.inMilliseconds = instant.time)
    (hyear : 0 ≤ instant.date.year ∧ instant.date.year < 10000) :
    ofStandard? instant.canonicalText = some instant := by
  rw [canonicalText_eq]
  simp only [ofStandard?, read_year _ _ hyear, read_month, read_day, read_hour, read_minute,
    read_second, read_fraction _ _ _ hmillis instant.offset.shortText_head, Text.after?_self,
    readZuluOffset?_shortText, Fields.setOffset_ofTime, Option.bind_eq_bind, Option.bind_some,
    List.isEmpty_nil, if_true]
  exact Fields.instant?_ofInstant instant

end Instant

namespace Fields

/-! The year of an instant is the one that is read first. -/

/-- Fields with the year and the timestamp of others. -/
structure Keeps (found fields : Fields) : Prop where
  year : found.year = fields.year
  timestamp : found.timestamp = fields.timestamp

variable {found between fields : Fields} {value : Int}

theorem Keeps.trans (h : found.Keeps between) (h' : between.Keeps fields) : found.Keeps fields :=
  ⟨h.year.trans h'.year, h.timestamp.trans h'.timestamp⟩

theorem Keeps.of_map {value : Option (Option Int)} {f : Option Int → Fields}
    (h : value.map f = some found) (hf : ∀ v, (f v).Keeps fields) : found.Keeps fields := by
  obtain ⟨v, -, rfl⟩ := Option.map_eq_some_iff.mp h
  exact hf v

theorem Keeps.of_setWeekday {weekday : Weekday} (h : fields.setWeekday weekday = some found) :
    found.Keeps fields := .of_map h fun _ => ⟨rfl, rfl⟩

theorem Keeps.of_setHourOfHalf (h : fields.setHourOfHalf value = some found) :
    found.Keeps fields := .of_map h fun _ => ⟨rfl, rfl⟩

theorem Keeps.of_setHour (h : fields.setHour value = some found) : found.Keeps fields := by
  unfold setHour at h
  split at h
  · obtain ⟨between, hhalf, hhour⟩ := Option.bind_eq_some_iff.mp h
    exact (Keeps.of_setHourOfHalf hhour).trans (.of_map hhalf fun _ => ⟨rfl, rfl⟩)
  · cases h

theorem Keeps.of_setOffset (h : fields.setOffset value = some found) : found.Keeps fields :=
  .of_map h fun _ => ⟨rfl, rfl⟩

/-- No other field sets the year or the timestamp. -/
theorem Keeps.of_set {field : NumberField} (h : fields.set field value = some found)
    (hyear : field ≠ .year) (htimestamp : field ≠ .timestamp) : found.Keeps fields := by
  cases field with
  | year => exact absurd rfl hyear
  | timestamp => exact absurd rfl htimestamp
  | hour => exact .of_setHour h
  | clockHour =>
    simp only [set] at h
    split at h
    · exact .of_setHourOfHalf h
    · cases h
  | daysFromSunday | weekdayNumber =>
    simp only [set] at h
    split at h
    · exact .of_setWeekday h
    · cases h
  | _ => exact .of_map h fun _ => ⟨rfl, rfl⟩

theorem Keeps.of_readExact? {digits : Nat} {field : NumberField} {cs rest : List Char}
    (h : readExact? digits field fields cs = some (found, rest))
    (hyear : field ≠ .year) (htimestamp : field ≠ .timestamp) : found.Keeps fields := by
  unfold readExact? at h
  dsimp only at h
  split at h
  · obtain ⟨found, hset, heq⟩ := Option.map_eq_some_iff.mp h
    cases heq
    exact .of_set hset hyear htimestamp
  · cases h

theorem Keeps.of_readPoint? {cs rest : List Char}
    (h : TextField.readPoint? fields cs = some (found, rest)) : found.Keeps fields := by
  unfold TextField.readPoint? at h
  split at h
  · obtain ⟨⟨n, left⟩, -, h⟩ := Option.bind_eq_some_iff.mp h
    obtain ⟨found, hset, heq⟩ := Option.map_eq_some_iff.mp h
    cases heq
    exact .of_set hset (by decide) (by decide)
  · cases h
    exact ⟨rfl, rfl⟩

/-- Four digits are a year before the ten thousandth. -/
theorem year_of_readExact? {cs rest : List Char}
    (h : readExact? 4 .year .empty cs = some (found, rest)) :
    found.timestamp = none ∧ ∃ year, found.year = some year ∧ 0 ≤ year ∧ year < 10000 := by
  unfold readExact? at h
  dsimp only at h
  split at h
  · next hdigits =>
    obtain ⟨found, hset, heq⟩ := Option.map_eq_some_iff.mp h
    cases heq
    have hlt := digitsValue_lt (List.all_eq_true.mp hdigits.2)
    rw [hdigits.1] at hlt
    have hlt : digitsValue (cs.take 4) < 10000 := hlt
    have hfound : empty.set .year (digitsValue (cs.take 4)) =
        some { year := some (digitsValue (cs.take 4) : Int) } := map_agree_none (by omega) _
    obtain rfl := Option.some.inj (hfound.symm.trans hset)
    exact ⟨rfl, _, rfl, by omega, by omega⟩
  · cases h

theorem year_of_date {date : Date} {year : Int} (h : fields.date = .ok date)
    (hyear : fields.year = some year) : date.year = year := by
  unfold Fields.date at h
  obtain ⟨resolved, -, h⟩ := bind_eq_ok.mp h
  obtain ⟨isoYear, -, h⟩ := bind_eq_ok.mp h
  split at h
  · cases h
  · cases h
  · split at h
    · next hfits =>
      cases h
      have hallows : allows fields.year date.year = true := by grind [fits]
      rw [hyear] at hallows
      exact (beq_iff_eq.mp hallows).symm
    · cases h

theorem date_of_dateTime {offset : Int} {date : Date} {time : TimeOfDay}
    (h : fields.dateTime offset = .ok (date, time)) (htimestamp : fields.timestamp = none) :
    fields.date = .ok date := by
  unfold dateTime at h
  rw [htimestamp] at h
  split at h
  · next hdate _ _ =>
    cases h
    exact hdate
  all_goals simp_all

theorem year_of_instant? {instant : Instant} {year : Int} (h : fields.instant? = some instant)
    (hyear : fields.year = some year) (htimestamp : fields.timestamp = none) :
    instant.date.year = year := by
  unfold instant? at h
  split at h
  · cases h
  · split at h
    · cases h
    · next date time hmoment =>
      obtain ⟨offset, -, hlocal⟩ := Option.bind_eq_some_iff.mp h
      unfold Instant.ofLocal? at hlocal
      split at hlocal
      · cases hlocal
        exact year_of_date (date_of_dateTime hmoment htimestamp) hyear
      · cases hlocal

end Fields

namespace Instant

/-- What follows the letter between date and time in the standard form. -/
def readTime? (fields : Fields) (cs : List Char) : Option Instant := do
  let (fields, cs) ← readExact? 2 .hour fields cs
  let (fields, cs) ← readExact? 2 .minute fields (← Text.after? [':'] cs)
  let (fields, cs) ← readExact? 2 .second fields (← Text.after? [':'] cs)
  let (fields, cs) ← TextField.readPoint? fields cs
  let (minutes, cs) ← readZuluOffset? readColon? false cs
  let fields ← fields.setOffset minutes
  if cs.isEmpty then fields.instant? else none

theorem fields_of_readTime? {fields : Fields} {cs : List Char} {instant : Instant}
    (h : readTime? fields cs = some instant) :
    ∃ found : Fields, found.Keeps fields ∧ found.instant? = some instant := by
  simp only [readTime?, Option.bind_eq_bind, Option.bind_eq_some_iff] at h
  obtain ⟨hour, hhour, _, -, minute, hminute, _, -, second, hsecond, point, hpoint, _, -, found,
    hoffset, h⟩ := h
  have hkeeps : found.Keeps fields :=
    (Fields.Keeps.of_setOffset hoffset).trans <| (Fields.Keeps.of_readPoint? hpoint).trans <|
      (Fields.Keeps.of_readExact? hsecond (by decide) (by decide)).trans <|
      (Fields.Keeps.of_readExact? hminute (by decide) (by decide)).trans <|
      Fields.Keeps.of_readExact? hhour (by decide) (by decide)
  split at h
  · exact ⟨found, hkeeps, h⟩
  · cases h

/-- An instant in the standard form is of a year with four digits. -/
theorem year_of_ofStandard? {cs : List Char} {instant : Instant}
    (h : ofStandard? cs = some instant) : 0 ≤ instant.date.year ∧ instant.date.year < 10000 := by
  simp only [ofStandard?, Option.bind_eq_bind, Option.bind_eq_some_iff] at h
  obtain ⟨⟨year, _⟩, hyear, _, -, ⟨month, _⟩, hmonth, _, -, ⟨day, left⟩, hday, h⟩ := h
  have htime : ∃ rest, readTime? day rest = some instant := by
    dsimp only at h
    split at h
    · exact ⟨_, h⟩
    · exact ⟨_, h⟩
    · exact ⟨_, h⟩
    · cases h
  obtain ⟨rest, htime⟩ := htime
  obtain ⟨found, hkeeps, hinstant⟩ := fields_of_readTime? htime
  obtain ⟨htimestamp, n, hn, hbounds⟩ := Fields.year_of_readExact? hyear
  have hfirst : found.Keeps year :=
    hkeeps.trans <| (Fields.Keeps.of_readExact? hday (by decide) (by decide)).trans <|
      Fields.Keeps.of_readExact? hmonth (by decide) (by decide)
  rw [Fields.year_of_instant? hinstant (hfirst.year.trans hn) (hfirst.timestamp.trans htimestamp)]
  exact hbounds

end Instant

/-- Canonical texts are stable. A date that is turned into text and back is that date, and the text
of an instant that was read from a text is read as the instant with the same offset, date and time
up to the millisecond, of which it is the text again. -/
theorem Value.temporal_text_stable :
    (∀ date : Date, ∃ text, (Value.date date).coerce .standard .string = .ok (.string text) ∧
      (Value.string text).coerce .standard .date = .ok (.date date)) ∧
    ∀ (text : String) (instant : Instant),
      (Value.string text).coerce .standard .instant = .ok (.instant instant) →
        ∃ canonical again,
          (Value.instant instant).coerce .standard .string = .ok (.string canonical) ∧
          (Value.string canonical).coerce .standard .instant = .ok (.instant again) ∧
          again.offset = instant.offset ∧ again.date = instant.date ∧
          again.time = instant.time.inMilliseconds ∧
          (Value.instant again).coerce .standard .string = .ok (.string canonical) := by
  constructor
  · intro date
    refine ⟨_, rfl, ?_⟩
    have hread : Formats.standard.readDate? none (Value.date date).text = some date := by
      rw [Formats.readDate?, Value.text, String.toList_ofList]
      exact date.ofText?_text
    simp only [Value.coerce, coerceText, hread]
  · intro text instant h
    have hinstant : Instant.ofStandard? text.toList = some instant := by
      change coerceText .standard .instant text = _ at h
      simp only [coerceText] at h
      split at h
      · next found hfound =>
        cases h
        exact hfound
      · cases h
    have hyear := Instant.year_of_ofStandard? hinstant
    have hread : Formats.standard.readInstant? none (Value.instant instant).text =
        some instant.inMilliseconds := by
      change Instant.ofStandard? (String.ofList instant.canonicalText).toList = _
      rw [String.toList_ofList, ← Instant.canonicalText_inMilliseconds]
      exact Instant.ofStandard?_canonicalText instant.time.inMilliseconds_again hyear
    refine ⟨_, instant.inMilliseconds, rfl, ?_, rfl, rfl, rfl, ?_⟩
    · simp only [Value.coerce, coerceText, hread]
    · simp only [Value.coerce, Value.text, Instant.canonicalText_inMilliseconds]

/-- A leap second west of universal time, with four digits of a fraction. -/
def leapSecond : Instant :=
  ⟨⟨2016, 12, 31, by decide⟩,
    ⟨⟨18, by decide⟩, ⟨29, by decide⟩, ⟨60, by decide⟩, ⟨123900000, by decide⟩⟩,
    ⟨-330, by decide⟩, by decide⟩

/-- In a text the letter may be small and the minus sign not a hyphen. -/
theorem Value.temporal_text_stable_leapSecond :
    (Value.string "2016-12-31t18:29:60.1239−05:30").coerce .standard .instant =
        .ok (.instant leapSecond) ∧
      (Value.instant leapSecond).text = "2016-12-31T18:29:60.123-05:30" ∧
      ∃ canonical again, (Value.instant leapSecond).coerce .standard .string =
          .ok (.string canonical) ∧
        (Value.string canonical).coerce .standard .instant = .ok (.instant again) ∧
        again.offset = leapSecond.offset ∧ again.date = leapSecond.date ∧
        again.time = leapSecond.time.inMilliseconds ∧
        (Value.instant again).coerce .standard .string = .ok (.string canonical) := by
  have hinstant : Formats.standard.readInstant? none "2016-12-31t18:29:60.1239−05:30" =
      some leapSecond := by decide +kernel
  have hread : (Value.string "2016-12-31t18:29:60.1239−05:30").coerce .standard .instant =
      .ok (.instant leapSecond) := by simp only [coerce, coerceText, hinstant]
  exact ⟨hread, by decide +kernel, Value.temporal_text_stable.2 _ leapSecond hread⟩

end AttrExpr
