import TeraCore.Commons.CivilTime
import TeraCore.Packets.RoundTrip

/-!
# Packed times

A time is sent as a civil date and time, to the minute, packed into 32 bits.  The writer takes the
local time apart and has eight bits for the years since 2000.  The reader looks at five of them, and
adds the offset of the time zone to what `mktime` makes of the date, which has added it before.

## Main results

* `packTime_toNat`: the fields of a packed time
* `readPackedTime_iff`: when the reader gives the time that the writer was given, to the minute
-/

namespace TeraCore.Packets

open Commons

/-- **A time zone**: the seconds that it is west of UTC.  They are less than 25 hours. -/
structure TimeZone where
  timezone : ℤ
  gt : -90000 < timezone
  lt : timezone < 90000

/-- `struct tm` -/
structure Tm where
  tm_min : ℕ
  tm_hour : ℕ
  tm_mday : ℕ
  tm_mon : ℕ
  tm_year : ℤ
  tm_wday : ℕ
  deriving DecidableEq

namespace TimeZone

variable (z : TimeZone) (t : ℤ)

/-- The day of a time, in local time. -/
def localDay : ℤ := (t - z.timezone) / 86400

/-- The second of its day. -/
def localSecond : ℕ := ((t - z.timezone) % 86400).toNat

def localYear : ℤ := yearOf (z.localDay t)

def localYearDay : ℕ := (z.localDay t - yearStart (z.localYear t)).toNat

/-- `localtime`: a time as a local date; the seconds are not looked at. -/
def localtime : Tm where
  tm_min := z.localSecond t / 60 % 60
  tm_hour := z.localSecond t / 3600
  tm_mday := z.localYearDay t -
    monthStart (isLeap (z.localYear t)) (monthOf (isLeap (z.localYear t)) (z.localYearDay t)) + 1
  tm_mon := monthOf (isLeap (z.localYear t)) (z.localYearDay t)
  tm_year := z.localYear t - 1900
  tm_wday := ((z.localDay t + 4) % 7).toNat

/-- `mktime`: months from 12 on are in the years that follow. -/
def mktime (lt : Tm) : ℤ :=
  let year := lt.tm_year + 1900 + (lt.tm_mon / 12 : ℕ)
  (yearStart year + monthStart (isLeap year) (lt.tm_mon % 12) + lt.tm_mday - 1) * 86400 +
    lt.tm_hour * 3600 + lt.tm_min * 60 + z.timezone

end TimeZone

/-! ## The writer and the reader -/

/-- The number that `AppendPackedTime` writes. -/
def packTime (lt : Tm) : BitVec 32 :=
  BitVec.ofInt 32 (lt.tm_year - 100) <<< 24 ||| BitVec.ofNat 32 lt.tm_mon <<< 20 |||
    BitVec.ofNat 32 (lt.tm_mday - 1) <<< 14 ||| BitVec.ofNat 32 lt.tm_wday <<< 11 |||
    BitVec.ofNat 32 lt.tm_hour <<< 6 ||| BitVec.ofNat 32 lt.tm_min

/-- The date that `ReadPackedTime` reads from the number. -/
def unpackTime (packedDate : BitVec 32) : Tm where
  tm_min := (packedDate &&& 0x3F).toNat
  tm_hour := (packedDate >>> 6 &&& 0x1F).toNat
  tm_mday := (packedDate >>> 14 &&& 0x3F).toNat + 1
  tm_mon := (packedDate >>> 20 &&& 0xF).toNat
  tm_year := (packedDate >>> 24 &&& 0x1F).toNat + 100
  tm_wday := 0

def AppendPackedTime (z : TimeZone) (time : ℤ) (b : ByteBuffer) : Except Failure ByteBuffer :=
  putInt .uint32 (packTime (z.localtime time)) b

/-- The time that a packed date stands for. -/
def timeOfPacked (z : TimeZone) (packedDate : BitVec 32) : BitVec 32 :=
  BitVec.ofInt 32 (z.mktime (unpackTime packedDate) + z.timezone)

def ReadPackedTime (z : TimeZone) (b : ByteBuffer) : Except Failure (BitVec 32 × ByteBuffer) :=
  getInt .uint32 b >>= fun p => .ok (timeOfPacked z p.1, p.2)

/-! ## The fields -/

theorem packTime_toNat {lt : Tm} (hmin : lt.tm_min < 64) (hhour : lt.tm_hour < 32)
    (hwday : lt.tm_wday < 8) (hmday : lt.tm_mday ≤ 64) (hmon : lt.tm_mon < 16) :
    (packTime lt).toNat = ((lt.tm_year - 100) % 256).toNat * 2 ^ 24 + lt.tm_mon * 2 ^ 20 +
      (lt.tm_mday - 1) * 2 ^ 14 + lt.tm_wday * 2 ^ 11 + lt.tm_hour * 2 ^ 6 + lt.tm_min := by
  have hor : ∀ (i b : ℕ) {a : ℕ}, b < 2 ^ i → a % 2 ^ i = 0 → a ||| b = a + b := by
    intro i b a hb ha
    obtain ⟨c, rfl⟩ := Nat.dvd_of_mod_eq_zero ha
    exact (Nat.two_pow_add_eq_or_of_lt hb c).symm
  have hyear : (BitVec.ofInt 32 (lt.tm_year - 100) <<< 24).toNat =
      ((lt.tm_year - 100) % 256).toNat * 2 ^ 24 := by
    rw [BitVec.toNat_shiftLeft, BitVec.toNat_ofInt, Nat.shiftLeft_eq]
    omega
  have hfield : ∀ n i : ℕ, n * 2 ^ i < 2 ^ 32 → (BitVec.ofNat 32 n <<< i).toNat = n * 2 ^ i := by
    intro n i h
    have hn : n < 2 ^ 32 := lt_of_le_of_lt (Nat.le_mul_of_pos_right n (Nat.two_pow_pos i)) h
    rw [BitVec.toNat_shiftLeft, BitVec.toNat_ofNat, Nat.mod_eq_of_lt hn, Nat.shiftLeft_eq,
      Nat.mod_eq_of_lt h]
  have hmin' : (BitVec.ofNat 32 lt.tm_min).toNat = lt.tm_min := by
    rw [BitVec.toNat_ofNat]
    omega
  rw [packTime, BitVec.toNat_or, BitVec.toNat_or, BitVec.toNat_or, BitVec.toNat_or,
    BitVec.toNat_or, hyear, hfield lt.tm_mon 20 (by omega), hfield (lt.tm_mday - 1) 14 (by omega),
    hfield lt.tm_wday 11 (by omega), hfield lt.tm_hour 6 (by omega), hmin',
    hor 24 (lt.tm_mon * 2 ^ 20) (by omega) (by omega),
    hor 20 ((lt.tm_mday - 1) * 2 ^ 14) (by omega) (by omega),
    hor 14 (lt.tm_wday * 2 ^ 11) (by omega) (by omega),
    hor 11 (lt.tm_hour * 2 ^ 6) (by omega) (by omega), hor 6 lt.tm_min (by omega) (by omega)]

theorem packed_fields {y mon mday wday hour min : ℕ} (hmin : min < 64) (hhour : hour < 32)
    (hwday : wday < 8) (hmday : mday < 64) (hmon : mon < 16) :
    let n := y * 2 ^ 24 + mon * 2 ^ 20 + mday * 2 ^ 14 + wday * 2 ^ 11 + hour * 2 ^ 6 + min
    n % 2 ^ 6 = min ∧ n / 2 ^ 6 % 2 ^ 5 = hour ∧ n / 2 ^ 14 % 2 ^ 6 = mday ∧
      n / 2 ^ 20 % 2 ^ 4 = mon ∧ n / 2 ^ 24 % 2 ^ 5 = y % 2 ^ 5 := by
  refine ⟨?_, ?_, ?_, ?_, ?_⟩ <;> omega

/-- What is read of a packed time: the date that was written, with five bits for the year. -/
theorem unpackTime_packTime {lt : Tm} (hmin : lt.tm_min < 64) (hhour : lt.tm_hour < 32)
    (hwday : lt.tm_wday < 8) (hmday : 1 ≤ lt.tm_mday ∧ lt.tm_mday ≤ 64) (hmon : lt.tm_mon < 16) :
    unpackTime (packTime lt) =
      { lt with tm_year := (lt.tm_year - 100) % 32 + 100, tm_wday := 0 } := by
  have hmask : ∀ k i : ℕ, 2 ^ i - 1 < 2 ^ 32 →
      (packTime lt >>> k &&& BitVec.ofNat 32 (2 ^ i - 1)).toNat =
        (packTime lt).toNat / 2 ^ k % 2 ^ i := by
    intro k i hi
    rw [BitVec.toNat_and, BitVec.toNat_ushiftRight, BitVec.toNat_ofNat, Nat.mod_eq_of_lt hi,
      Nat.and_two_pow_sub_one_eq_mod, Nat.shiftRight_eq_div_pow]
  rw [packTime_toNat hmin hhour hwday hmday.2 hmon] at hmask
  obtain ⟨h0, h6, h14, h20, h24⟩ := packed_fields (y := ((lt.tm_year - 100) % 256).toNat) hmin hhour
    hwday (Nat.sub_one_lt_of_le hmday.1 hmday.2) hmon
  have hmday' : lt.tm_mday - 1 + 1 = lt.tm_mday := Nat.sub_add_cancel hmday.1
  have hyear : ((((lt.tm_year - 100) % 256).toNat % 2 ^ 5 : ℕ) : ℤ) = (lt.tm_year - 100) % 32 := by
    omega
  have hfirst := hmask 0 6 (by decide)
  rw [BitVec.ushiftRight_zero, pow_zero, Nat.div_one] at hfirst
  rw [unpackTime, Tm.mk.injEq]
  refine ⟨hfirst.trans h0, (hmask 6 5 (by decide)).trans h6, ?_,
    (hmask 20 4 (by decide)).trans h20, ?_, rfl⟩
  · rw [← hmday', ← h14, ← hmask 14 6 (by decide)]
    rfl
  · rw [← hyear, ← h24, ← hmask 24 5 (by decide)]
    rfl

/-! ## The round trip -/

variable (z : TimeZone) {t : ℤ}

/-- **The times that come back**: in local time they are in the years that five bits can tell, and
the zone is UTC.  Half a minute is the one other offset that can be lost by rounding. -/
def KeepsMinute (t : ℤ) : Prop :=
  (2000 ≤ z.localYear t ∧ z.localYear t ≤ 2031) ∧
    (z.timezone = 0 ∨ z.timezone = 30 ∧ t % 60 < 30 ∨ z.timezone = -30 ∧ 30 ≤ t % 60)

instance (t : ℤ) : Decidable (KeepsMinute z t) := inferInstanceAs (Decidable (_ ∧ _))

theorem localYearDay_spec (t : ℤ) :
    yearStart (z.localYear t) + z.localYearDay t = z.localDay t ∧ z.localYearDay t < 366 := by
  have hle := yearStart_yearOf_le (z.localDay t)
  have hlt := lt_yearStart_yearOf (z.localDay t)
  have hyear := yearStart_succ_le (z.localYear t)
  unfold TimeZone.localYearDay
  rw [← TimeZone.localYear] at hle hlt
  omega

/-- What `mktime` makes of the date that is read: the minute of the local time, in the year with the
same five bits. -/
theorem mktime_unpackTime (t : ℤ) :
    let year := 2000 + (z.localYear t - 2000) % 32
    let month := monthOf (isLeap (z.localYear t)) (z.localYearDay t)
    z.mktime (unpackTime (packTime (z.localtime t))) =
      (yearStart year + monthStart (isLeap year) month +
        (z.localYearDay t - monthStart (isLeap (z.localYear t)) month)) * 86400 +
        z.localSecond t / 60 * 60 + z.timezone := by
  obtain ⟨hmon, hstart, hmday⟩ :=
    monthOf_spec (isLeap (z.localYear t)) (localYearDay_spec z t).2
  have hsecond : z.localSecond t < 86400 := by
    unfold TimeZone.localSecond
    omega
  have hread := @unpackTime_packTime (z.localtime t)
    (by simp only [TimeZone.localtime]; omega) (by simp only [TimeZone.localtime]; omega)
    (by simp only [TimeZone.localtime]; omega) (by simp only [TimeZone.localtime]; omega)
    (by simp only [TimeZone.localtime]; omega)
  have hyear : (z.localYear t - 1900 - 100) % 32 + 100 + 1900 +
      ((monthOf (isLeap (z.localYear t)) (z.localYearDay t) / 12 : ℕ) : ℤ) =
        2000 + (z.localYear t - 2000) % 32 := by omega
  rw [hread]
  simp only [TimeZone.mktime, TimeZone.localtime, hyear,
    Nat.mod_eq_of_lt (Nat.lt_succ_of_le hmon)]
  omega

/-- In the years that five bits can tell, the time zone's offset is added twice. -/
theorem mktime_of_localYear (h : 2000 ≤ z.localYear t) (h' : z.localYear t ≤ 2031) :
    z.mktime (unpackTime (packTime (z.localtime t))) =
      t - z.timezone - (t - z.timezone) % 60 + z.timezone := by
  have hyear : 2000 + (z.localYear t - 2000) % 32 = z.localYear t := by omega
  have hday := (localYearDay_spec z t).1
  rw [mktime_unpackTime, hyear]
  have hlocal : z.localDay t * 86400 + z.localSecond t = t - z.timezone := by
    unfold TimeZone.localDay TimeZone.localSecond
    omega
  omega

theorem mktime_of_not_localYear (ht : 946684800 ≤ t)
    (h : ¬ (2000 ≤ z.localYear t ∧ z.localYear t ≤ 2031)) :
    946000000 ≤ z.mktime (unpackTime (packTime (z.localtime t))) ∧
      z.mktime (unpackTime (packTime (z.localtime t))) ≤ 1957000000 ∧
      (z.mktime (unpackTime (packTime (z.localtime t))) + 900000000 ≤ t ∨
        t + 900000000 ≤ z.mktime (unpackTime (packTime (z.localtime t)))) := by
  obtain ⟨hday, hyday⟩ := localYearDay_spec z t
  obtain ⟨hgt, hlt⟩ := And.intro z.gt z.lt
  have hlocal : z.localDay t * 86400 + z.localSecond t = t - z.timezone ∧
      z.localSecond t < 86400 := by
    unfold TimeZone.localDay TimeZone.localSecond
    omega
  rw [mktime_unpackTime]
  generalize hy : 2000 + (z.localYear t - 2000) % 32 = year
  generalize monthOf (isLeap (z.localYear t)) (z.localYearDay t) = month
  have hmonth := monthStart_le (isLeap year) (isLeap (z.localYear t)) month
  have hmonth' := monthStart_le (isLeap (z.localYear t)) (isLeap year) month
  have hfirst : yearStart 2000 = 10957 := by decide
  have hlast : yearStart 2031 = 22280 := by decide
  have hle := yearStart_le 2000 year (by omega)
  have hge := yearStart_le year 2031 (by omega)
  rcases Int.lt_or_le (z.localYear t) 2000 with hearly | hlate
  · -- new year's eve, where local time is behind
    have hafter := yearStart_le (z.localYear t) 2000 (by omega)
    obtain rfl : year = 2031 := by omega
    omega
  · have hoff := yearStart_le year (z.localYear t) (by omega)
    omega

theorem timeOfPacked_iff (ht : 946684800 ≤ t) (ht' : t ≤ 4102444800) :
    ((timeOfPacked z (packTime (z.localtime t))).toNat : ℤ) = t - t % 60 ↔ KeepsMinute z t := by
  have hgt := z.gt
  have hlt := z.lt
  rw [timeOfPacked, BitVec.toNat_ofInt, KeepsMinute]
  by_cases h : 2000 ≤ z.localYear t ∧ z.localYear t ≤ 2031
  · have hsmall : 0 ≤ z.mktime (unpackTime (packTime (z.localtime t))) + z.timezone ∧
        z.mktime (unpackTime (packTime (z.localtime t))) + z.timezone < (2 ^ 32 : ℕ) := by
      rw [mktime_of_localYear z h.1 h.2]
      omega
    rw [Int.emod_eq_of_lt hsmall.1 hsmall.2, Int.toNat_of_nonneg hsmall.1,
      mktime_of_localYear z h.1 h.2, and_iff_right h]
    -- the offset is what rounding takes off local time more than off the time itself
    have hround : t - z.timezone - (t - z.timezone) % 60 + z.timezone + z.timezone = t - t % 60 ↔
        z.timezone = (t - z.timezone) % 60 - t % 60 := by omega
    rw [hround]
    omega
  · obtain ⟨hle, hge, hfar⟩ := mktime_of_not_localYear z ht h
    refine iff_of_false ?_ fun h' => h h'.1
    omega

/-- **What the reader makes of what the writer appended** is the time to the minute just when local
time is UTC and the year can be told by five bits, or the offset is lost by rounding. -/
theorem readPackedTime_iff (z : TimeZone) {t : ℤ} (ht : 946684800 ≤ t) (ht' : t ≤ 4102444800)
    {b b' : ByteBuffer} (hend : b.wpos = b.size) (happend : AppendPackedTime z t b = .ok b') :
    (∃ time b'', ReadPackedTime z { b' with rpos := b.size } = .ok (time, b'') ∧
      (time.toNat : ℤ) = t - t % 60) ↔ KeepsMinute z t := by
  obtain ⟨rfl, -⟩ := putInt_eq hend happend
  have hrest : ByteBuffer.rest { b.written (encodeInt .uint32 (packTime (z.localtime t))) with
      rpos := b.size } = encodeInt .uint32 (packTime (z.localtime t)) ++ [] := by
    rw [List.append_nil]
    exact List.drop_left
  obtain ⟨b'', hread⟩ : ∃ b'', ReadPackedTime z
      { b.written (encodeInt .uint32 (packTime (z.localtime t))) with rpos := b.size } =
        .ok (timeOfPacked z (packTime (z.localtime t)), b'') :=
    ⟨_, (reads_getInt .uint32 (packTime (z.localtime t))).map (timeOfPacked z) _ _ hrest⟩
  rw [← timeOfPacked_iff z ht ht', hread]
  constructor
  · rintro ⟨time, b₁, hok, htime⟩
    obtain ⟨rfl, -⟩ := Prod.mk.inj (Except.ok.inj hok)
    exact htime
  · exact fun h => ⟨_, b'', rfl, h⟩

/-- A time zone one hour east of UTC. -/
def cet : TimeZone := ⟨-3600, by decide, by decide⟩

def utc : TimeZone := ⟨0, by decide, by decide⟩

/-- In UTC the first second of 2013 comes back. -/
theorem readPackedTime_utc :
    ∃ time b'', ReadPackedTime utc { ByteBuffer.empty.written
        (encodeInt .uint32 (packTime (utc.localtime 1356998400))) with rpos := 0 } =
          .ok (time, b'') ∧ (time.toNat : ℤ) = 1356998400 - 1356998400 % 60 :=
  (readPackedTime_iff utc (t := 1356998400) (b := .empty) (by decide) (by decide) rfl rfl).mpr
    (by decide)

/-- One hour east of UTC it comes back an hour early. -/
theorem readPackedTime_cet :
    ∃ b' b'', AppendPackedTime cet 1356998400 .empty = .ok b' ∧
      ReadPackedTime cet b' = .ok (1356994800#32, b'') :=
  ⟨_, _, rfl, rfl⟩

end TeraCore.Packets
