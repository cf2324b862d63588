import JooanW3U.Library.ClockOffset
import Mathlib.Data.Rat.Cast.Order
import Mathlib.Tactic.NormNum

/-!
Owns the reading of an SNTP reply, which the media service and the system service do
alike: the conversion of time stamps and the offset. Main results: stamps are put into
their era from 1968-01-20T03:14:08 to 2104-02-26T09:42:23, the offset is within half of
the round trip without the hold, and a microsecond, of the server's, and no signed
operation overflows.

Does not own the exchange's socket, or what is done with the offset.
-/

namespace JooanW3U.Media.Ntp

open JooanW3U.Library

abbrev Bytes := List UInt8

def NTP_UNIX_EPOCH : Nat := 2208988800
def NTP_MIN_UNIX : Int := 1767225600

/-! ### Fixed-width arithmetic -/

/-- The result of a signed operation on 64 bits; `none` is an overflow. -/
def int64 (value : Int) : Option Int :=
  if -9223372036854775808 ≤ value ∧ value < 9223372036854775808 then some value else none

/-- The result of an unsigned operation on 64 bits. -/
def uint64 (value : Nat) : Nat := value % 18446744073709551616

/-- The conversion to `int64_t`. -/
def toInt64 (value : Nat) : Int :=
  if value < 9223372036854775808 then value else value - 18446744073709551616

/-! ### The reply -/

def byteAt (bytes : Bytes) (index : Nat) : Nat := (bytes.getD index 0).toNat

def read64 (bytes : Bytes) : Nat :=
  (bytes.take 8).foldl (fun value byte => uint64 (value <<< 8 ||| byte.toNat)) 0

/-- `unix_us`. -/
def unix_us (stamp : Nat) : Option Int := do
  let seconds := stamp >>> 32
  let fraction := stamp &&& 0xffffffff
  let seconds := if seconds &&& 0x80000000 = 0 then uint64 (seconds + 4294967296) else seconds
  let whole ← int64
    (toInt64 (uint64 (seconds + 18446744073709551616 - NTP_UNIX_EPOCH)) * 1000000)
  int64 (whole + toInt64 (uint64 (uint64 (fraction * 1000000) + 2147483648) >>> 32))

/-- The checks on the reply's first bytes. -/
def acceptable (reply origin : Bytes) : Bool :=
  48 ≤ reply.length && byteAt reply 0 >>> 6 ≠ 3 && 3 ≤ (byteAt reply 0 >>> 3) &&& 7 &&
    (byteAt reply 0 >>> 3) &&& 7 ≤ 4 && byteAt reply 0 &&& 7 = 4 && 1 ≤ byteAt reply 1 &&
    byteAt reply 1 ≤ 15 && (reply.drop 24).take 8 = origin

/-- The offset of a reply: `none` if a signed operation overflows, `some none` for the result
-1. -/
def ntpOffset (reply origin : Bytes) (sent_us : Int) (round_trip_us : Nat) :
    Option (Option Int) :=
  if !acceptable reply origin then some none
  else if read64 (reply.drop 32) = 0 ∨ read64 (reply.drop 40) = 0 then some none
  else do
    let t2 ← unix_us (read64 (reply.drop 32))
    let t3 ← unix_us (read64 (reply.drop 40))
    let t4 ← int64 (sent_us + toInt64 round_trip_us)
    if t2 < NTP_MIN_UNIX * 1000000 ∨ t3 < t2 then some none
    else do
      let hold ← int64 (t3 - t2)
      if hold.toNat > round_trip_us then some none
      else do
        let forward ← int64 (t2 - sent_us)
        let back ← int64 (t3 - t4)
        let both ← int64 (forward + back)
        some (some (both.tdiv 2))

/-- The media service's. -/
def jipc_ntp_offset : Bytes → Bytes → Int → Nat → Option (Option Int) := ntpOffset

/-- The system service's. -/
def joan_ntp_offset : Bytes → Bytes → Int → Nat → Option (Option Int) := ntpOffset

/-! ### The clocks -/

/-- What `clock_gettime` returns: the kernel's clocks are signed 64-bit nanoseconds. -/
structure Timespec where
  tv_sec : Nat
  tv_nsec : Nat
  seconds : tv_sec ≤ 9223372036
  nanoseconds : tv_nsec < 1000000000

def Timespec.us (reading : Timespec) : Nat := reading.tv_sec * 1000000 + reading.tv_nsec / 1000

/-- The readings of `exchange`: the wall clock when the request is sent, and the monotonic
clock then and when the reply is there. -/
structure Readings where
  wall : Timespec
  sent : Timespec
  now : Timespec
  order : sent.us ≤ now.us

def Readings.sent_us (readings : Readings) : Int := readings.wall.us

def Readings.round_trip_us (readings : Readings) : Nat := readings.now.us - readings.sent.us

theorem Timespec.us_lt (reading : Timespec) : reading.us < 9223372037000000 := by
  have seconds := reading.seconds
  have nanoseconds := reading.nanoseconds
  unfold Timespec.us
  omega

/-! ### Time stamps -/

theorem int64_some {value : Int} (low : -9223372036854775808 ≤ value)
    (high : value < 9223372036854775808) : int64 value = some value := if_pos ⟨low, high⟩

theorem int64_bind {Result : Type} {value : Int} (low : -9223372036854775808 ≤ value)
    (high : value < 9223372036854775808) (next : Int → Option Result) :
    (int64 value).bind next = next value := by
  rw [int64_some low high, Option.bind_some]

theorem read64_lt (bytes : Bytes) : read64 bytes < 18446744073709551616 := by
  unfold read64
  rcases List.eq_nil_or_concat (bytes.take 8) with none | ⟨early, last, shape⟩
  · rw [none]
    decide
  · rw [shape, List.concat_eq_append, List.foldl_append]
    exact Nat.mod_lt _ (by decide)

/-- The seconds of a stamp in the era that its first bit names. -/
def eraSeconds (stamp : Nat) : Nat :=
  if stamp / 4294967296 < 2147483648 then stamp / 4294967296 + 4294967296
  else stamp / 4294967296

theorem top_bit {seconds : Nat} (small : seconds < 4294967296) :
    seconds &&& 0x80000000 = 0 ↔ seconds < 2147483648 := by
  have shifted : (seconds &&& 0x80000000) / 2147483648 = seconds / 2147483648 % 2 := by
    have moved := Nat.shiftRight_and_distrib (a := seconds) (b := 0x80000000) (i := 31)
    rw [Nat.shiftRight_eq_div_pow, Nat.shiftRight_eq_div_pow, Nat.shiftRight_eq_div_pow] at moved
    exact moved.trans (Nat.and_one_is_mod _)
  have multiple : (seconds &&& 0x80000000) % 2147483648 = 0 := by
    have low := Nat.and_mod_two_pow (a := seconds) (b := 0x80000000) (n := 31)
    rw [show (0x80000000 : Nat) % 2 ^ 31 = 0 by rfl, Nat.and_zero] at low
    exact low
  omega

theorem unix_us_eq {stamp : Nat} (small : stamp < 18446744073709551616) :
    unix_us stamp = some (((eraSeconds stamp : Int) - NTP_UNIX_EPOCH) * 1000000 +
      ((stamp % 4294967296 * 1000000 + 2147483648) / 4294967296 : Nat)) := by
  have seconds : stamp >>> 32 = stamp / 4294967296 := Nat.shiftRight_eq_div_pow _ _
  have fraction : stamp &&& 0xffffffff = stamp % 4294967296 :=
    Nat.and_two_pow_sub_one_eq_mod stamp 32
  have era : (if stamp / 4294967296 &&& 0x80000000 = 0
      then uint64 (stamp / 4294967296 + 4294967296) else stamp / 4294967296) =
        eraSeconds stamp := by
    simp only [top_bit (show stamp / 4294967296 < 4294967296 by omega), eraSeconds, uint64]
    split <;> omega
  have bounds : 2147483648 ≤ eraSeconds stamp ∧ eraSeconds stamp < 6442450944 := by
    unfold eraSeconds
    split <;> omega
  have whole : toInt64 (uint64 (eraSeconds stamp + 18446744073709551616 - NTP_UNIX_EPOCH)) =
      (eraSeconds stamp : Int) - NTP_UNIX_EPOCH := by
    unfold toInt64 uint64 NTP_UNIX_EPOCH
    split <;> omega
  have part : toInt64 (uint64 (uint64 (stamp % 4294967296 * 1000000) + 2147483648) >>> 32) =
      ((stamp % 4294967296 * 1000000 + 2147483648) / 4294967296 : Nat) := by
    rw [Nat.shiftRight_eq_div_pow]
    unfold toInt64 uint64
    split <;> omega
  unfold unix_us
  simp only [seconds, fraction, era, whole, part]
  have epoch : NTP_UNIX_EPOCH = 2208988800 := rfl
  rw [int64_some (by omega) (by omega)]
  exact int64_some (by omega) (by omega)

theorem unix_us_range {stamp : Nat} (small : stamp < 18446744073709551616) :
    ∃ us, unix_us stamp = some us ∧ -61505152000000 ≤ us ∧ us ≤ 4233462144000000 := by
  have epoch : NTP_UNIX_EPOCH = 2208988800 := rfl
  have bounds : 2147483648 ≤ eraSeconds stamp ∧ eraSeconds stamp < 6442450944 := by
    unfold eraSeconds
    split <;> omega
  exact ⟨_, unix_us_eq small, by omega, by omega⟩

/-- A time as microseconds since 1970, from its count of 2⁻³² seconds since 1900. -/
def microseconds (ticks : Nat) : ℚ := ticks * 1000000 / 4294967296 - 2208988800 * 1000000

/-- The times from 1968-01-20T03:14:08 to 2104-02-26T09:42:23. -/
def InEra (ticks : Nat) : Prop := 2147483648 ≤ ticks / 4294967296 ∧ ticks / 4294967296 < 6442450944

instance (ticks : Nat) : Decidable (InEra ticks) := by
  unfold InEra
  infer_instance

/-- A stamp is put into its era, and rounded to the nearest microsecond. -/
theorem unix_us_near {ticks : Nat} (era : InEra ticks) :
    ∃ us, unix_us (ticks % 18446744073709551616) = some us ∧
      |(us : ℚ) - microseconds ticks| ≤ 1 / 2 := by
  obtain ⟨low, high⟩ := era
  have seconds : eraSeconds (ticks % 18446744073709551616) = ticks / 4294967296 := by
    unfold eraSeconds
    split <;> omega
  have fraction : ticks % 18446744073709551616 % 4294967296 = ticks % 4294967296 := by omega
  refine ⟨_, unix_us_eq (Nat.mod_lt _ (by decide)), ?_⟩
  rw [seconds, fraction]
  have split : ticks = 4294967296 * (ticks / 4294967296) + ticks % 4294967296 :=
    (Nat.div_add_mod _ _).symm
  generalize ticks / 4294967296 = whole at split
  generalize ticks % 4294967296 = part at split
  have below := Nat.div_mul_le_self (part * 1000000 + 2147483648) 4294967296
  have above := Nat.lt_div_mul_add (a := part * 1000000 + 2147483648) (b := 4294967296) (by decide)
  generalize (part * 1000000 + 2147483648) / 4294967296 = rounded at below above
  have lower : (rounded : ℚ) * 4294967296 ≤ part * 1000000 + 2147483648 := by exact_mod_cast below
  have upper : (part : ℚ) * 1000000 + 2147483648 < rounded * 4294967296 + 4294967296 := by
    exact_mod_cast above
  have value : (ticks : ℚ) = 4294967296 * whole + part := by exact_mod_cast split
  rw [microseconds, value, abs_le]
  push_cast [NTP_UNIX_EPOCH]
  constructor <;> linarith

/-! ### The offset -/

/-- No operation overflows, and an accepted reply's offset is the mean of the differences. -/
theorem ntpOffset_spec (reply origin : Bytes) (readings : Readings) :
    ∃ answer, ntpOffset reply origin readings.sent_us readings.round_trip_us = some answer ∧
      ∀ offset, answer = some offset → ∃ t2 t3, unix_us (read64 (reply.drop 32)) = some t2 ∧
        unix_us (read64 (reply.drop 40)) = some t3 ∧
        offset = ((t2 - readings.sent_us) +
          (t3 - (readings.sent_us + readings.round_trip_us))).tdiv 2 := by
  obtain ⟨t2, second, low2, high2⟩ := unix_us_range (read64_lt (reply.drop 32))
  obtain ⟨t3, third, low3, high3⟩ := unix_us_range (read64_lt (reply.drop 40))
  have wall := readings.wall.us_lt
  have now := readings.now.us_lt
  have sent : readings.sent_us = readings.wall.us := rfl
  have trip : readings.round_trip_us < 9223372037000000 := by
    unfold Readings.round_trip_us
    omega
  have signed : toInt64 readings.round_trip_us = readings.round_trip_us := if_pos (by omega)
  unfold ntpOffset
  by_cases refused : (!acceptable reply origin) = true
  · rw [if_pos refused]
    exact ⟨none, rfl, nofun⟩
  · rw [if_neg refused]
    by_cases empty : read64 (reply.drop 32) = 0 ∨ read64 (reply.drop 40) = 0
    · rw [if_pos empty]
      exact ⟨none, rfl, nofun⟩
    · rw [if_neg empty, second, third, signed, Option.bind_eq_bind, Option.bind_some,
        Option.bind_some, int64_bind (by omega) (by omega)]
      by_cases early : t2 < NTP_MIN_UNIX * 1000000 ∨ t3 < t2
      · rw [if_pos early]
        exact ⟨none, rfl, nofun⟩
      · rw [if_neg early, int64_bind (by omega) (by omega)]
        by_cases long : (t3 - t2).toNat > readings.round_trip_us
        · rw [if_pos long]
          exact ⟨none, rfl, nofun⟩
        · rw [if_neg long, int64_bind (by omega) (by omega), int64_bind (by omega) (by omega),
            int64_bind (by omega) (by omega)]
          refine ⟨_, rfl, ?_⟩
          intro offset same
          exact ⟨t2, t3, rfl, rfl, (Option.some.inj same).symm⟩

/-- The exchange as it was: the client's times as its clocks give them, the server's as its
stamps do. -/
def Readings.exchange (readings : Readings) (received transmitted : Nat) :
    ClockOffset.Exchange ℚ where
  sent := readings.sent_us
  received := microseconds received
  transmitted := microseconds transmitted
  arrived := readings.sent_us + readings.round_trip_us

theorem tdiv_two_near (value : Int) : |((value.tdiv 2 : Int) : ℚ) - value / 2| ≤ 1 / 2 := by
  have split := Int.mul_tdiv_add_tmod value 2
  have remainder := Int.tmod_lt_of_pos value (show (0 : Int) < 2 by decide)
  have negative := Int.lt_tmod_of_pos value (show (0 : Int) < 2 by decide)
  have low : value - 1 ≤ 2 * value.tdiv 2 := by omega
  have high : 2 * value.tdiv 2 ≤ value + 1 := by omega
  have lower : (value : ℚ) - 1 ≤ 2 * (value.tdiv 2 : Int) := by exact_mod_cast low
  have upper : (2 : ℚ) * (value.tdiv 2 : Int) ≤ value + 1 := by exact_mod_cast high
  rw [abs_le]
  constructor <;> linarith

/-- Both services put every stamp of the years from 1968-01-20T03:14:08 to 2104-02-26T09:42:23
into its era, compute without an overflow, and get an offset within half of the round trip
without the hold, and a microsecond, of the server's. -/
theorem ntp_offset_within :
    (∀ ticks, InEra ticks → ∃ us, unix_us (ticks % 18446744073709551616) = some us ∧
      |(us : ℚ) - microseconds ticks| ≤ 1 / 2) ∧
    ∀ offsetOf ∈ [jipc_ntp_offset, joan_ntp_offset],
      ∀ (reply origin : Bytes) (readings : Readings), ∃ answer,
        offsetOf reply origin readings.sent_us readings.round_trip_us = some answer ∧
        ∀ offset received transmitted (serverOffset : ℚ), answer = some offset →
          InEra received → InEra transmitted →
          read64 (reply.drop 32) = received % 18446744073709551616 →
          read64 (reply.drop 40) = transmitted % 18446744073709551616 →
          (readings.exchange received transmitted).Causal serverOffset →
          |offset - serverOffset| ≤ (readings.exchange received transmitted).uncertainty + 1 := by
  refine ⟨fun ticks era => unix_us_near era, ?_⟩
  intro offsetOf either reply origin readings
  have same : offsetOf = ntpOffset := by
    rcases List.mem_cons.mp either with media | system
    · exact media
    · exact List.mem_singleton.mp system
  obtain ⟨answer, computed, spec⟩ := ntpOffset_spec reply origin readings
  refine ⟨answer, same ▸ computed, ?_⟩
  intro offset received transmitted serverOffset accepted inEra2 inEra3 stamp2 stamp3 causal
  obtain ⟨t2, t3, second, third, rfl⟩ := spec offset accepted
  obtain ⟨us2, value2, near2⟩ := unix_us_near inEra2
  obtain ⟨us3, value3, near3⟩ := unix_us_near inEra3
  rw [stamp2, value2] at second
  rw [stamp3, value3] at third
  cases second
  cases third
  apply causal.computed_near
  have halved := abs_le.mp (tdiv_two_near
    ((t2 - readings.sent_us) + (t3 - (readings.sent_us + readings.round_trip_us))))
  obtain ⟨low2, high2⟩ := abs_le.mp near2
  obtain ⟨low3, high3⟩ := abs_le.mp near3
  rw [ClockOffset.Exchange.measured, abs_le]
  dsimp only [Readings.exchange]
  push_cast at halved ⊢
  constructor <;> linarith [halved.1, halved.2]

/-- The first moment of 1968 is taken for one in 2104. -/
theorem january_1968_in_wrong_era :
    unix_us (2145830400 * 4294967296 % 18446744073709551616) = some 4231808896000000 ∧
      microseconds (2145830400 * 4294967296) = -63158400000000 := by
  constructor
  · decide +kernel
  · norm_num [microseconds]

/-- The time 2026-10-21T00:00:00.015625. -/
def sampleTicks : Nat := 4001577600 * 4294967296 + 67108864

/-- A reply of a server of stratum 2 that holds the request for no time. -/
def sampleReply : Bytes :=
  let stamp : Bytes := [0xee, 0x83, 0x3a, 0x80, 0x04, 0, 0, 0]
  [0x24, 2] ++ List.replicate 22 0 ++ [1, 2, 3, 4, 5, 6, 7, 8] ++ stamp ++ stamp

/-- The wall clock is nine hours behind, and the round trip takes 30 ms. -/
def sampleReadings : Readings where
  wall := ⟨1792556400, 0, by decide, by decide⟩
  sent := ⟨100, 0, by decide, by decide⟩
  now := ⟨100, 30000000, by decide, by decide⟩
  order := by decide

theorem ntp_offset_within_sample :
    jipc_ntp_offset sampleReply [1, 2, 3, 4, 5, 6, 7, 8] sampleReadings.sent_us
        sampleReadings.round_trip_us = some (some 32400000625) ∧
      |((32400000625 : Int) : ℚ) - 32400000000| ≤
        (sampleReadings.exchange sampleTicks sampleTicks).uncertainty + 1 := by
  obtain ⟨answer, computed, near⟩ := ntp_offset_within.2 jipc_ntp_offset List.mem_cons_self
    sampleReply [1, 2, 3, 4, 5, 6, 7, 8] sampleReadings
  have value : jipc_ntp_offset sampleReply [1, 2, 3, 4, 5, 6, 7, 8] sampleReadings.sent_us
      sampleReadings.round_trip_us = some (some 32400000625) := by decide +kernel
  have same : answer = some 32400000625 := Option.some.inj (computed.symm.trans value)
  have sent : sampleReadings.sent_us = 1792556400000000 := by decide +kernel
  have trip : sampleReadings.round_trip_us = 30000 := by decide +kernel
  have causal : (sampleReadings.exchange sampleTicks sampleTicks).Causal 32400000000 := by
    constructor <;> norm_num [Readings.exchange, microseconds, sampleTicks, sent, trip]
  exact ⟨value, near 32400000625 sampleTicks sampleTicks 32400000000 same (by decide +kernel)
    (by decide +kernel) (by decide +kernel) (by decide +kernel) causal⟩

end JooanW3U.Media.Ntp
