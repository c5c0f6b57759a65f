/-
# Moments are read back from their notation

A number that is padded with zeros is read back digit by digit (`digits?_padded`), and from there a
date and a time of day.  A clock is read part by part: one step of it takes two digits and the colon
behind them, so that the three lengths in which times and offsets are written differ in how many such
steps there are before the last one.

`read?_iso` puts this together: reading the notation of a moment gives the moment back, but that an
offset of less than a second is taken for none at all (`Moment.readBack`).
-/
import Typewright.Time.Iso
import Mathlib.Algebra.Group.Nat.Defs
import Mathlib.Data.List.Basic

namespace Typewright

namespace Number

theorem isDigit_of_mem_padded {width n : Nat} {c : Char} (h : c ∈ padded width n) :
    c.isDigit = true := by
  rw [padded, List.mem_append, List.mem_replicate] at h
  rcases h with ⟨-, rfl⟩ | h
  · rfl
  · exact Nat.isDigit_of_mem_toDigits (by omega) (by omega) h

theorem length_padded {width n : Nat} (hwidth : 0 < width) (h : n < 10 ^ width) :
    (padded width n).length = width := by
  have hle : (decimalDigits n).length ≤ width :=
    (Nat.length_toDigits_le_iff (by omega) hwidth).mpr h
  rw [padded, List.length_append, List.length_replicate]
  omega

/-- Leading zeros do not change what digits write. -/
theorem ofDigitChars_padded (width n : Nat) : Nat.ofDigitChars 10 (padded width n) 0 = n := by
  rw [padded, Nat.ofDigitChars_append, Nat.ofDigitChars_replicate_zero, Nat.mul_zero]
  exact Nat.ofDigitChars_ten_toDigits

end Number

namespace Time

open Number (padded)

namespace Iso

/-- The bytes of ASCII characters. -/
def codes (s : List Char) : Bytes := s.map code

theorem codes_append (s t : List Char) : codes (s ++ t) = codes s ++ codes t := List.map_append

theorem codes_cons (c : Char) (s : List Char) : codes (c :: s) = code c :: codes s := rfl

theorem length_codes (s : List Char) : (codes s).length = s.length := List.length_map _

/-! ## Bytes of a text -/

/-- Going through bytes from one of them on gives those that are left, in order. -/
theorem toList_loop (bs : ByteArray) (i : Nat) (done : List UInt8) :
    ByteArray.toList.loop bs i done = done.reverse ++ bs.data.toList.drop i := by
  unfold ByteArray.toList.loop
  split
  · rename_i hi
    have hlength : i < bs.data.toList.length := by simpa using hi
    have hget : bs.get! i = bs.data.toList[i] := getElem!_pos bs.data i hi
    rw [toList_loop bs (i + 1), List.drop_eq_getElem_cons hlength, hget, List.reverse_cons,
      List.append_assoc, List.singleton_append]
  · rw [List.drop_eq_nil_of_le (by simpa using Nat.le_of_not_lt ‹_›), List.append_nil]
termination_by bs.size - i

theorem utf8EncodeChar_ascii {c : Char} (h : c.toNat < 128) :
    (String.utf8EncodeChar c).map UInt8.toNat = [code c] := by
  have hval : c.val ≤ 127 := UInt32.le_iff_toNat_le.mpr (Nat.le_of_lt_succ h)
  rw [String.utf8EncodeChar_eq_singleton (Char.utf8Size_eq_one_iff.mpr hval), List.map_singleton]
  refine congrArg (fun n => [n]) ?_
  show c.val.toUInt8.toNat = c.val.toNat
  rw [UInt32.toNat_toUInt8]
  exact Nat.mod_eq_of_lt (Nat.lt_trans h (by decide))

/-- A text of ASCII characters has one byte for each of them. -/
theorem bytes_ofList {s : List Char} (h : ∀ c ∈ s, c.toNat < 128) :
    (String.ofList s).toUTF8.toList.map UInt8.toNat = codes s := by
  rw [ByteArray.toList, toList_loop, String.toUTF8_eq_toByteArray, String.toByteArray_ofList,
    List.utf8Encode, List.toList_data_toByteArray]
  show (s.flatMap String.utf8EncodeChar).map UInt8.toNat = codes s
  induction s with
  | nil => rfl
  | cons c s ih =>
      obtain ⟨hc, hs⟩ := List.forall_mem_cons.mp h
      rw [List.flatMap_cons, List.map_append, ih hs, utf8EncodeChar_ascii hc]
      rfl

/-! ## Digits -/

theorem isDigitByte_code {c : Char} (h : c.isDigit = true) : isDigitByte (code c) = true := by
  obtain ⟨hlow, hhigh⟩ := Char.isDigit_iff_toNat.mp h
  exact Bool.and_eq_true_iff.mpr ⟨decide_eq_true hlow, decide_eq_true hhigh⟩

theorem digits?_go_append {ds : List Char} (h : ∀ c ∈ ds, c.isDigit = true) (v : Nat) (r : Bytes) :
    digits?.go ds.length v (codes ds ++ r) = some (Nat.ofDigitChars 10 ds v, r) := by
  induction ds generalizing v with
  | nil => rfl
  | cons c ds ih =>
      obtain ⟨hc, hds⟩ := List.forall_mem_cons.mp h
      rw [codes_cons, List.length_cons, List.cons_append, digits?.go, if_pos (isDigitByte_code hc),
        ih hds, Nat.ofDigitChars_cons, Nat.mul_comm]
      rfl

/-- A padded number is read back. -/
theorem digits?_padded {width n : Nat} (hwidth : 0 < width) (h : n < 10 ^ width) (r : Bytes) :
    digits? width (codes (Number.padded width n) ++ r) = some (n, r) := by
  have hdigits : ∀ c ∈ Number.padded width n, c.isDigit = true :=
    fun _ => Number.isDigit_of_mem_padded
  have hgo := digits?_go_append hdigits 0 r
  rwa [Number.length_padded hwidth h, Number.ofDigitChars_padded] at hgo

theorem byteAt_append_left {s : Bytes} {i : Nat} (h : i < s.length) (r : Bytes) :
    byteAt (s ++ r) i = byteAt s i := by
  simp [byteAt, List.getElem?_append_left h]

theorem byteAt_append_right {s : Bytes} {i : Nat} (h : s.length ≤ i) (r : Bytes) :
    byteAt (s ++ r) i = byteAt r (i - s.length) := by
  simp [byteAt, List.getElem?_append_right h]

/-- What starts with a padded number starts with a digit. -/
theorem isDigitByte_byteAt_padded {width n : Nat} (hwidth : 0 < width) (h : n < 10 ^ width)
    (r : Bytes) : isDigitByte (byteAt (codes (Number.padded width n) ++ r) 0) = true := by
  have hlength : 0 < (codes (Number.padded width n)).length := by
    rw [length_codes, Number.length_padded hwidth h]
    exact hwidth
  rw [byteAt_append_left hlength]
  cases hdigits : Number.padded width n with
  | nil => simp [hdigits, codes] at hlength
  | cons c cs =>
      exact isDigitByte_code (Number.isDigit_of_mem_padded (hdigits ▸ List.mem_cons_self))

end Iso

/-! ## Dates -/

namespace Date

variable {d : Date}

theorem bounds (d : Date) : d.year < 10 ^ 4 ∧ d.month < 10 ^ 2 ∧ d.day < 10 ^ 2 := by
  have hdays : daysInMonth d.year d.month ≤ 31 := by
    unfold daysInMonth
    repeat' split
    all_goals omega
  have hvalid := d.valid
  simp only [isDate, Bool.and_eq_true, decide_eq_true_eq] at hvalid
  omega

theorem length_chars (d : Date) : d.chars.length = 10 := by
  obtain ⟨hyear, hmonth, hday⟩ := d.bounds
  simp [chars, Number.length_padded (Nat.succ_pos 3) hyear,
    Number.length_padded (Nat.succ_pos 1) hmonth, Number.length_padded (Nat.succ_pos 1) hday]

end Date

namespace Iso

theorem codes_date (d : Date) (r : Bytes) : codes d.chars ++ r = codes (padded 4 d.year) ++
    code '-' :: (codes (padded 2 d.month) ++ code '-' :: (codes (padded 2 d.day) ++ r)) := by
  simp [Date.chars, codes_append, codes_cons]

/-- A byte that is a digit is none of the marks of dates and times. -/
theorem ne_code_of_isDigitByte {b : Nat} (h : isDigitByte b = true) {c : Char}
    (hc : isDigitByte (code c) = false) : b ≠ code c :=
  fun heq => Bool.false_ne_true (hc ▸ heq ▸ h)

theorem date?_chars (d : Date) (r : Bytes) : date? (codes d.chars ++ r) 10 = some d := by
  obtain ⟨hyear, hmonth, hday⟩ := d.bounds
  have hlength : (codes d.chars ++ r).length - r.length = 10 := by
    rw [List.length_append, length_codes, d.length_chars]
    omega
  have hdash (s : Bytes) : byteAt (code '-' :: s) 0 = code '-' := rfl
  have hweek := ne_code_of_isDigitByte (isDigitByte_byteAt_padded (by omega) hmonth
    (code '-' :: (codes (padded 2 d.day) ++ r))) (c := 'W') rfl
  have hreads := codes_date d r ▸ digits?_padded (by omega) hyear
    (code '-' :: (codes (padded 2 d.month) ++ code '-' :: (codes (padded 2 d.day) ++ r)))
  have hdate : Date.of? d.year d.month d.day = some d := dif_pos d.valid
  unfold date?
  simp [hreads, hdash, hweek, digits?_padded (Nat.succ_pos 1) hmonth,
    digits?_padded (Nat.succ_pos 1) hday, hdate, d.length_chars, length_codes]

theorem dateEnd?_chars (d : Date) (r : Bytes) : dateEnd? (codes d.chars ++ r) = some 10 := by
  obtain ⟨hyear, hmonth, -⟩ := d.bounds
  have hlength : 10 ≤ (codes d.chars ++ r).length := by
    rw [List.length_append, length_codes, d.length_chars]
    omega
  have hfour : (codes (padded 4 d.year)).length = 4 := by
    rw [length_codes, Number.length_padded (by omega) hyear]
  have hdash : byteAt (codes d.chars ++ r) 4 = code '-' := by
    rw [codes_date, byteAt_append_right (by omega), hfour]
    rfl
  have hdigit : isDigitByte (byteAt (codes d.chars ++ r) 5) = true := by
    rw [codes_date, byteAt_append_right (by omega), hfour]
    exact isDigitByte_byteAt_padded (by omega) hmonth _
  have hweek : (byteAt (codes d.chars ++ r) 5 == code 'W') = false :=
    beq_false_of_ne (ne_code_of_isDigitByte hdigit rfl)
  unfold dateEnd?
  simp only [hdash, hweek, beq_self_eq_true, if_true]
  rw [if_neg (by simp only [beq_iff_eq]; omega)]
  rfl

end Iso

/-! ## Times of day -/

namespace Moment

theorem time_bounds (m : Moment) :
    m.hour < 10 ^ 2 ∧ m.minute < 10 ^ 2 ∧ m.sec < 10 ^ 2 ∧ m.micro < 10 ^ 6 := by
  have hvalid := m.validTime
  simp only [isTime, Bool.and_eq_true, decide_eq_true_eq] at hvalid
  obtain ⟨⟨⟨hhour, hminute⟩, hsec⟩, hmicro⟩ := hvalid
  exact ⟨by omega, by omega, by omega, hmicro⟩

end Moment

namespace Iso

variable {i parts left v micro : Nat} {c : Clock} {r : Bytes}

/-- A part of a clock with a colon behind it is read before the next part. -/
theorem clockParts?_colon (hv : v < 10 ^ 2) (hleft : 3 < left) (r : Bytes) :
    clockParts? (parts + 1) i true c left (codes (padded 2 v) ++ code ':' :: r) =
      clockParts? parts (i + 1) true (c.set i v) (left - 3) r := by
  have hnext : byteAt (code ':' :: r) 0 = code ':' := rfl
  rw [clockParts?]
  simp [digits?_padded (Nat.succ_pos 1) hv, hnext, Nat.not_le.mpr hleft]

/-- The last part of a clock is read up to its end. -/
theorem clockParts?_last (hv : v < 10 ^ 2) (hleft : left ≤ 3) (r : Bytes) :
    clockParts? (parts + 1) i true c left (codes (padded 2 v) ++ r) =
      some { c.set i v with more := byteAt r 0 != 0 } := by
  rw [clockParts?]
  simp [digits?_padded (Nat.succ_pos 1) hv, hleft]

/-- A part of a clock with a point behind it is read before the microseconds. -/
theorem clockParts?_point (hv : v < 10 ^ 2) (hmicro : micro < 10 ^ 6) (hi : i ≠ 0)
    (hr : isDigitByte (byteAt r 0) = false) :
    clockParts? (parts + 1) i true c 9
        (codes (padded 2 v) ++ code '.' :: (codes (padded 6 micro) ++ r)) =
      some { c.set i v with micro := micro, more := byteAt r 0 != 0 } := by
  have hrest : r.dropWhile isDigitByte = r := by
    cases r with
    | nil => rfl
    | cons b r => exact List.dropWhile_cons_of_neg (by simpa [byteAt] using hr)
  have hnext (s : Bytes) : byteAt (code '.' :: s) 0 = code '.' := rfl
  have hmark : code '.' ≠ code ':' := by decide
  rw [clockParts?]
  simp [digits?_padded (Nat.succ_pos 1) hv, hnext, hmark, hi, fraction?,
    digits?_padded (Nat.succ_pos 5) hmicro, hrest, show Number.tenTo 0 = 1 from rfl]

/-- Hours, minutes and seconds as they are written. -/
def clockChars (hour minute sec : Nat) : List Char :=
  padded 2 hour ++ ':' :: padded 2 minute ++ ':' :: padded 2 sec

variable {hour minute sec : Nat}

theorem length_padded_two {n : Nat} (hn : n < 10 ^ 2) : (padded 2 n).length = 2 :=
  Number.length_padded (Nat.succ_pos 1) hn

theorem clock?_minutes (hhour : hour < 10 ^ 2) (hminute : minute < 10 ^ 2) :
    clock? (padded 2 hour ++ ':' :: padded 2 minute).length
        (codes (padded 2 hour ++ ':' :: padded 2 minute)) =
      some ⟨hour, minute, 0, 0, false⟩ := by
  have hlength : (padded 2 hour ++ ':' :: padded 2 minute).length = 5 := by
    simp [length_padded_two hhour, length_padded_two hminute]
  have hlast : clockParts? 2 1 true ⟨hour, 0, 0, 0, false⟩ 2 (codes (padded 2 minute) ++ []) =
      some ⟨hour, minute, 0, 0, false⟩ := clockParts?_last hminute (by omega) []
  rw [List.append_nil] at hlast
  rw [hlength, clock?, codes_append, codes_cons, clockParts?_colon hhour (by omega)]
  exact hlast

theorem clock?_seconds (hhour : hour < 10 ^ 2) (hminute : minute < 10 ^ 2) (hsec : sec < 10 ^ 2)
    (r : Bytes) :
    clock? (clockChars hour minute sec).length (codes (clockChars hour minute sec) ++ r) =
      some ⟨hour, minute, sec, 0, byteAt r 0 != 0⟩ := by
  have hlength : (clockChars hour minute sec).length = 8 := by
    simp [clockChars, length_padded_two hhour, length_padded_two hminute, length_padded_two hsec]
  rw [hlength, clockChars]
  simp only [codes_append, codes_cons, List.append_assoc, List.cons_append]
  rw [clock?, clockParts?_colon hhour (by omega), clockParts?_colon hminute (by omega),
    clockParts?_last hsec (by omega)]
  rfl

theorem clock?_micros (hhour : hour < 10 ^ 2) (hminute : minute < 10 ^ 2) (hsec : sec < 10 ^ 2)
    (hmicro : micro < 10 ^ 6) (hr : isDigitByte (byteAt r 0) = false) :
    clock? (clockChars hour minute sec ++ '.' :: padded 6 micro).length
        (codes (clockChars hour minute sec ++ '.' :: padded 6 micro) ++ r) =
      some ⟨hour, minute, sec, micro, byteAt r 0 != 0⟩ := by
  have hlength : (clockChars hour minute sec ++ '.' :: padded 6 micro).length = 15 := by
    simp [clockChars, length_padded_two hhour, length_padded_two hminute, length_padded_two hsec,
      Number.length_padded (Nat.succ_pos 5) hmicro]
  rw [hlength, clockChars]
  simp only [codes_append, codes_cons, List.append_assoc, List.cons_append]
  rw [clock?, clockParts?_colon hhour (by omega), clockParts?_colon hminute (by omega),
    clockParts?_point hsec hmicro (by omega) hr]
  rfl

theorem clock?_timeChars (m : Moment) (hr : isDigitByte (byteAt r 0) = false) :
    clock? m.timeChars.length (codes m.timeChars ++ r) =
      some ⟨m.hour, m.minute, m.sec, m.micro, byteAt r 0 != 0⟩ := by
  obtain ⟨hhour, hminute, hsec, hmicro⟩ := m.time_bounds
  rw [Moment.timeChars, ← clockChars]
  by_cases hzero : m.micro = 0
  · rw [if_pos (beq_iff_eq.mpr hzero), List.append_nil, clock?_seconds hhour hminute hsec, hzero]
  · rw [if_neg (by simpa using hzero), clock?_micros hhour hminute hsec hmicro hr]

/-! ## Offsets -/

/-- The hours, minutes, seconds and microseconds of an offset. -/
def offsetClock (x : Int) : Clock :=
  ⟨x.natAbs / second / 3600, x.natAbs / second / 60 % 60, x.natAbs / second % 60,
    x.natAbs % second, false⟩

/-- An offset is a sign and a clock. -/
theorem clock?_offsetChars {x : Int} (hx : x.natAbs < day) : ∃ sign body,
    Moment.offsetChars x = sign :: body ∧ sign = (if x < 0 then '-' else '+') ∧
      clock? body.length (codes body) = some (offsetClock x) := by
  have hhour : x.natAbs / second / 3600 < 10 ^ 2 := by
    have hseconds : x.natAbs / second < 86400 := Nat.div_lt_of_lt_mul (by rwa [Nat.mul_comm])
    omega
  have hminute : x.natAbs / second / 60 % 60 < 10 ^ 2 := by omega
  have hsec : x.natAbs / second % 60 < 10 ^ 2 := by omega
  have hmicro : x.natAbs % second < 10 ^ 6 := Nat.mod_lt _ (by decide)
  refine ⟨_, _, rfl, rfl, ?_⟩
  unfold offsetClock
  generalize x.natAbs / second / 3600 = hour at hhour ⊢
  generalize x.natAbs / second / 60 % 60 = minute at hminute ⊢
  generalize x.natAbs / second % 60 = sec at hsec ⊢
  generalize x.natAbs % second = micro at hmicro ⊢
  have hseconds := clock?_seconds hhour hminute hsec []
  have hmicros := clock?_micros (r := []) hhour hminute hsec hmicro rfl
  rw [List.append_nil, clockChars] at hseconds hmicros
  by_cases hzero : micro = 0
  · rw [if_pos (beq_iff_eq.mpr hzero)]
    by_cases hnone : sec = 0
    · rw [if_pos (by simp [hnone, hzero]), hzero, hnone]
      exact clock?_minutes hhour hminute
    · rw [if_neg (by simp [hnone]), hseconds, hzero]
      rfl
  · rw [if_neg (by simpa using hzero), if_neg (by simp [hzero]), hmicros]
    rfl

/-- The offset that is read where one is written: less than a second is none at all. -/
def offsetBack (x : Int) : Int := if x.natAbs < second then 0 else x

theorem seconds_offsetClock (x : Int) : (offsetClock x).hour * 3600 + (offsetClock x).minute * 60 +
    (offsetClock x).sec = x.natAbs / second := by
  dsimp only [offsetClock]
  omega

/-- The seconds and microseconds of an offset, with its sign. -/
theorem offset_eq (x : Int) : (if x.natAbs / second == 0 then (0 : Int)
    else if decide (x < 0) then -((x.natAbs / second : Nat) * second + (offsetClock x).micro)
    else (x.natAbs / second : Nat) * second + (offsetClock x).micro) = offsetBack x := by
  have hparts : ((x.natAbs / second : Nat) : Int) * second + (offsetClock x).micro = x.natAbs := by
    have := Nat.div_add_mod' x.natAbs second
    exact_mod_cast this
  rw [hparts, offsetBack]
  by_cases hsmall : x.natAbs < second
  · rw [if_pos (beq_iff_eq.mpr (Nat.div_eq_of_lt hsmall)), if_pos hsmall]
  · have hne : x.natAbs / second ≠ 0 := fun h =>
      hsmall ((Nat.div_eq_zero_iff_lt (by decide)).mp h)
    rw [if_neg (by simpa using hne), if_neg hsmall]
    by_cases hneg : x < 0
    · rw [if_pos (decide_eq_true hneg)]
      omega
    · rw [if_neg (by simpa using hneg)]
      omega

/-! ## Times with offsets -/

theorem digit_or_mark_of_mem_timeChars {m : Moment} {a : Char} (ha : a ∈ m.timeChars) :
    a.isDigit = true ∨ a = ':' ∨ a = '.' := by
  have hdigit {width n : Nat} (h : a ∈ padded width n) : a.isDigit = true :=
    Number.isDigit_of_mem_padded h
  simp only [Moment.timeChars, List.mem_append, List.mem_cons, or_assoc] at ha
  rcases ha with h | h | h | h | h | h
  · exact .inl (hdigit h)
  · exact .inr (.inl h)
  · exact .inl (hdigit h)
  · exact .inr (.inl h)
  · exact .inl (hdigit h)
  · split at h
    · cases h
    · rcases List.mem_cons.mp h with h | h
      · exact .inr (.inr h)
      · exact .inl (hdigit h)

/-- No byte of a time of day starts an offset. -/
theorem startsOffset_timeChars {m : Moment} {b : Nat} (hb : b ∈ codes m.timeChars) :
    startsOffset b = false := by
  obtain ⟨a, ha, rfl⟩ := List.mem_map.mp hb
  rcases digit_or_mark_of_mem_timeChars ha with hdigit | rfl | rfl
  · have hne (mark : Char) (hmark : isDigitByte (code mark) = false) :
        (code a == code mark) = false :=
      beq_false_of_ne (ne_code_of_isDigitByte (isDigitByte_code hdigit) hmark)
    rw [startsOffset, hne '+' rfl, hne '-' rfl, hne 'Z' rfl]
    rfl
  · rfl
  · rfl

theorem exists_codes_timeChars (m : Moment) : ∃ b s, codes m.timeChars = b :: s := by
  have hlength := length_padded_two m.time_bounds.1
  cases hhour : padded 2 m.hour with
  | nil => simp [hhour] at hlength
  | cons a s => exact ⟨code a, _, by rw [Moment.timeChars, hhour]; rfl⟩

theorem time?_timeChars (m : Moment) : time? (codes m.timeChars) =
    some (⟨m.hour, m.minute, m.sec, m.micro, false⟩, none) := by
  have hclock := clock?_timeChars m (r := []) rfl
  have hstarts := fun b => startsOffset_timeChars (m := m) (b := b)
  obtain ⟨b, s, hs⟩ := exists_codes_timeChars m
  rw [← length_codes, List.append_nil] at hclock
  rw [hs] at hclock hstarts ⊢
  obtain ⟨hb, hrest⟩ := List.forall_mem_cons.mp hstarts
  have htake : (s ++ []).takeWhile (!startsOffset ·) = s ++ [].takeWhile (!startsOffset ·) :=
    List.takeWhile_append_of_pos fun a ha => by rw [hrest a ha]; rfl
  rw [List.append_nil, List.takeWhile_nil, List.append_nil] at htake
  simp only [time?, hb, htake, hclock, Bool.false_eq_true, if_false, List.isEmpty_cons,
    List.drop_length, Option.bind_eq_bind, Option.bind_some]
  rfl

theorem time?_offsetChars (m : Moment) {x : Int} (hx : x.natAbs < day) :
    time? (codes m.timeChars ++ codes (Moment.offsetChars x)) =
      some (⟨m.hour, m.minute, m.sec, m.micro, true⟩, some (offsetBack x)) := by
  obtain ⟨sign, body, hchars, hsign, hbody⟩ := clock?_offsetChars hx
  have hclock := clock?_timeChars m (r := codes (sign :: body)) (hsign ▸ by split <;> rfl)
  have hmore : (byteAt (codes (sign :: body)) 0 != 0) = true := hsign ▸ by split <;> rfl
  have hzone : (code sign == code 'Z') = false := hsign ▸ by split <;> rfl
  have hminus : (code sign == code '-') = decide (x < 0) := by
    by_cases hneg : x < 0 <;> simp [hsign, hneg, code]
  have hstarts := fun b => startsOffset_timeChars (m := m) (b := b)
  obtain ⟨b, s, hs⟩ := exists_codes_timeChars m
  rw [← length_codes, hmore] at hclock
  rw [← length_codes] at hbody
  rw [hchars]
  rw [hs] at hclock hstarts ⊢
  rw [codes_cons, List.cons_append] at hclock ⊢
  obtain ⟨hb, hrest⟩ := List.forall_mem_cons.mp hstarts
  have htake : (s ++ code sign :: codes body).takeWhile (!startsOffset ·) = s := by
    rw [List.takeWhile_append_of_pos fun a ha => by rw [hrest a ha]; rfl,
      List.takeWhile_cons_of_neg (hsign ▸ by split <;> decide), List.append_nil]
  have hdrop : (b :: (s ++ code sign :: codes body)).drop (b :: s).length =
      code sign :: codes body := by
    rw [← List.cons_append, List.drop_left]
  simp only [time?, hb, htake, hclock, hdrop, hbody, hzone, hminus, seconds_offsetClock,
    Bool.false_eq_true, if_false, List.isEmpty_cons, Option.bind_eq_bind, Option.bind_some]
  rw [offset_eq]
  rfl

/-! ## Moments -/

/-- The marks between the numbers of a moment. -/
def marks : List Char := ['-', 'T', ':', '.', '+']

/-- A character that moments are written with. -/
def Written (a : Char) : Prop := a.isDigit = true ∨ a ∈ marks

theorem written_of_mem_padded {width n : Nat} {a : Char} (ha : a ∈ padded width n) : Written a :=
  .inl (Number.isDigit_of_mem_padded ha)

theorem written_of_mem_offsetChars {x : Int} {a : Char} (ha : a ∈ Moment.offsetChars x) :
    Written a := by
  have hclock (h min : Nat) (hs : a ∈ padded 2 h ++ ':' :: padded 2 min) : Written a := by
    simp only [List.mem_append, List.mem_cons] at hs
    rcases hs with hs | rfl | hs
    · exact written_of_mem_padded hs
    · exact .inr (by decide)
    · exact written_of_mem_padded hs
  have hpart {mark : Char} (hmark : mark ∈ marks) (width n : Nat) {s : List Char}
      (hs : a ∈ s → Written a) (h : a ∈ s ++ mark :: padded width n) : Written a := by
    simp only [List.mem_append, List.mem_cons] at h
    rcases h with h | rfl | h
    · exact hs h
    · exact .inr hmark
    · exact written_of_mem_padded h
  rcases List.mem_cons.mp ha with rfl | h
  · exact .inr (by split <;> decide)
  · split at h
    · split at h
      · exact hclock _ _ h
      · exact hpart (by decide) _ _ (hclock _ _) h
    · split at h
      · exact hpart (by decide) _ _ (hclock _ _) h
      · exact hpart (by decide) _ _ (hpart (by decide) _ _ (hclock _ _)) h

theorem written_of_mem_chars {m : Moment} {a : Char} (ha : a ∈ m.chars 'T') : Written a := by
  simp only [Moment.chars, Date.chars, List.mem_append, List.mem_cons, or_assoc] at ha
  rcases ha with h | rfl | h | rfl | h | rfl | h | h
  · exact written_of_mem_padded h
  · exact .inr (by decide)
  · exact written_of_mem_padded h
  · exact .inr (by decide)
  · exact written_of_mem_padded h
  · exact .inr (by decide)
  · rcases digit_or_mark_of_mem_timeChars h with h | rfl | rfl
    · exact .inl h
    · exact .inr (by decide)
    · exact .inr (by decide)
  · cases hoffset : m.offset with
    | none => simp [hoffset] at h
    | some x => exact written_of_mem_offsetChars (by simpa [hoffset] using h)

theorem Written.ascii {a : Char} (h : Written a) : a.toNat < 128 := by
  rcases h with h | h
  · obtain ⟨-, hhigh⟩ := Char.isDigit_iff_toNat.mp h
    exact Nat.lt_of_le_of_lt hhigh (by decide)
  · have hmarks : ∀ a ∈ marks, a.toNat < 128 := by
      simp only [marks, List.forall_mem_cons, List.not_mem_nil, false_implies, implies_true]
      decide
    exact hmarks a h

/-- No moment is written with a letter for no offset. -/
theorem Written.ne_zone {a : Char} (h : Written a) : a ≠ 'Z' ∧ a ≠ 'z' := by
  constructor
  · rintro rfl
    exact absurd h (by unfold Written; decide)
  · rintro rfl
    exact absurd h (by unfold Written; decide)

end Iso

namespace Moment

/-- The moment that is read back: an offset of less than a second is taken for none. -/
def readBack (m : Moment) : Moment :=
  { m with
    offset := m.offset.map Iso.offsetBack
    validOffset := by
      have hvalid := m.validOffset
      cases hoffset : m.offset with
      | none => rfl
      | some x =>
          simp only [isOffset, hoffset, Option.all_some, decide_eq_true_eq] at hvalid
          simp only [isOffset, Option.map_some, Option.all_some, decide_eq_true_eq, Iso.offsetBack]
          split
          · decide
          · exact hvalid }

end Moment

namespace Iso

theorem codes_chars (m : Moment) : codes (m.chars 'T') = codes m.date.chars ++ code 'T' ::
    (codes m.timeChars ++ codes ((m.offset.map Moment.offsetChars).getD [])) := by
  simp [Moment.chars, codes_append, codes_cons]

theorem time?_chars (m : Moment) : ∃ more,
    time? (codes m.timeChars ++ codes ((m.offset.map Moment.offsetChars).getD [])) =
      some (⟨m.hour, m.minute, m.sec, m.micro, more⟩, m.offset.map offsetBack) := by
  have hvalid := m.validOffset
  cases hoffset : m.offset with
  | none =>
      rw [Option.map_none, Option.getD_none]
      exact ⟨false, (congrArg time? (List.append_nil _)).trans (time?_timeChars m)⟩
  | some x =>
      simp only [isOffset, hoffset, Option.all_some, decide_eq_true_eq] at hvalid
      exact ⟨true, time?_offsetChars m hvalid⟩

theorem read?_iso (m : Moment) : read? m.iso = some m.readBack := by
  obtain ⟨more, htime⟩ := time?_chars m
  have hchars := codes_chars m
  generalize codes ((m.offset.map Moment.offsetChars).getD []) = offset at hchars htime
  have hlength : (codes m.date.chars).length = 10 := by rw [length_codes, m.date.length_chars]
  have hmark : byteAt (codes (m.chars 'T')) 10 = code 'T' := by
    rw [hchars, byteAt_append_right (by omega), hlength]
    rfl
  have hdrop : (codes (m.chars 'T')).drop (10 + 1) = codes m.timeChars ++ offset := by
    rw [hchars, ← hlength, ← List.drop_drop, List.drop_left]
    rfl
  have hdate : date? (codes (m.chars 'T')) 10 = some m.date := hchars ▸ date?_chars m.date _
  have hend : dateEnd? (codes (m.chars 'T')) = some 10 := hchars ▸ dateEnd?_chars m.date _
  have hlong : 10 < (codes (m.chars 'T')).length := by
    rw [hchars, List.length_append, hlength, List.length_cons]
    omega
  have hvalid : Moment.of? m.date m.hour m.minute m.sec m.micro (m.offset.map offsetBack) =
      some m.readBack := by
    exact (dif_pos m.validTime).trans (dif_pos m.readBack.validOffset)
  unfold read?
  rw [Moment.iso, bytes_ofList fun a ha => (written_of_mem_chars ha).ascii]
  simp only [hend, hdate, hmark, Option.bind_eq_bind, Option.bind_some]
  rw [if_neg (by omega), if_neg (by omega)]
  have hskip : charLength (code 'T') = 1 := rfl
  rw [hskip, hdrop, htime]
  exact hvalid

end Iso

end Time

end Typewright
