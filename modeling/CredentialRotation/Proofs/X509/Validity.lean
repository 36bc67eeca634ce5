import CredentialRotation.Proofs.Der.Written
import CredentialRotation.X509.Validity

/-!
Moments as they are written in certificates, in either form. A real moment that was written is read
as that moment.
-/
namespace CredentialRotation.X509.Written

open Der (Held Reads)
open Der.Lenient (reads_element)
open Der.Strict (encode)

/-- Two decimal digits. -/
def twoDigits (n : Nat) : Octets := [UInt8.ofNat (48 + n / 10), UInt8.ofNat (48 + n % 10)]

theorem reads_pair {n : Nat} (small : n < 100) : Reads Moment.pair (twoDigits n) n := by
  have digit (d : Nat) (decimal : d < 10) : Moment.digit? (UInt8.ofNat (48 + d)) = some d := by
    have octet : (UInt8.ofNat (48 + d)).toNat = 48 + d := by
      rw [UInt8.toNat_ofNat', Nat.mod_eq_of_lt (by omega)]
    rw [Moment.digit?, octet, if_pos (by omega), Nat.add_sub_cancel_left]
  intro rest
  simp only [twoDigits, Moment.pair, List.cons_append, List.nil_append,
    digit (n / 10) (by omega), digit (n % 10) (by omega)]
  have joined : n / 10 * 10 + n % 10 = n := by omega
  simp [joined]

theorem reads_pairOrLast {n : Nat} (small : n < 100) : Reads Moment.pairOrLast (twoDigits n) n :=
  reads_pair small

/-- A moment that the calendar has, in the form with two or with four digits of the year. -/
structure Moment where
  time : CalendarTime
  real : time.isReal = true
  fourDigits : Bool
  fits : if fourDigits then time.year < 10000 else 1950 ≤ time.year ∧ time.year < 2050

namespace Moment
variable {m : Moment}

/-- What both forms have behind the year. -/
def behindYear (t : CalendarTime) : Octets :=
  twoDigits t.month ++ (twoDigits t.day ++ (twoDigits t.hour ++ (twoDigits t.minute ++
    (twoDigits t.second ++ [X509.Moment.zed]))))

def octets (m : Moment) : Octets :=
  if m.fourDigits then
    encode 24 (twoDigits (m.time.year / 100) ++
      (twoDigits (m.time.year % 100) ++ behindYear m.time))
  else encode 23 (twoDigits (m.time.year % 100) ++ behindYear m.time)

/-- No number in a real moment takes more than two digits. -/
theorem lt_of_isReal {t : CalendarTime} (real : t.isReal = true) :
    t.month < 100 ∧ t.day < 100 ∧ t.hour < 100 ∧ t.minute < 100 ∧ t.second < 100 := by
  have days : CalendarTime.daysInMonth t.year t.month ≤ 31 ∧
      (0 < CalendarTime.daysInMonth t.year t.month → t.month ≤ 12) := by
    unfold CalendarTime.daysInMonth
    split_ifs <;> omega
  simp only [CalendarTime.isReal, Bool.and_eq_true, decide_eq_true_eq] at real
  omega

section Forms
variable {t : CalendarTime}

theorem short?_written (real : t.isReal = true) (fits : 1950 ≤ t.year ∧ t.year < 2050) :
    X509.Moment.short? (twoDigits (t.year % 100) ++ behindYear t) = some t := by
  obtain ⟨month, day, hour, minute, second⟩ := lt_of_isReal real
  have century : (if t.year % 100 < 50 then 2000 + t.year % 100 else 1900 + t.year % 100) =
      t.year := by
    split <;> omega
  refine Option.bind_eq_some_iff.2 ⟨(t, [X509.Moment.zed]), ?_, if_pos (by simp [real]; rfl)⟩
  refine (reads_pair (Nat.mod_lt _ (by decide))).step <| (reads_pair month).step <|
    (reads_pair day).step <| (reads_pair hour).step <| (reads_pair minute).step <|
    (reads_pairOrLast second).step ?_
  exact congrArg (fun year => some ({ t with year }, [X509.Moment.zed])) century

theorem long?_written (real : t.isReal = true) (fits : t.year < 10000) :
    X509.Moment.long? (twoDigits (t.year / 100) ++ (twoDigits (t.year % 100) ++ behindYear t)) =
      some t := by
  obtain ⟨month, day, hour, minute, second⟩ := lt_of_isReal real
  have joined : t.year / 100 * 100 + t.year % 100 = t.year := by omega
  refine Option.bind_eq_some_iff.2 ⟨(t, [X509.Moment.zed]), ?_, if_pos (by simp [real]; rfl)⟩
  refine (reads_pair (by omega)).step <| (reads_pair (Nat.mod_lt _ (by decide))).step <|
    (reads_pair month).step <| (reads_pair day).step <| (reads_pair hour).step <|
    (reads_pair minute).step <| (reads_pairOrLast second).step ?_
  exact congrArg (fun year => some ({ t with year }, [X509.Moment.zed])) joined

end Forms

theorem reads (held : Held m.octets) : Reads X509.Moment.read m.octets m.time := by
  intro rest
  obtain ⟨t, real, fourDigits, fits⟩ := m
  cases fourDigits with
  | true =>
    refine (reads_element (by decide) (Held.content held)).step ?_
    change (liftM (X509.Moment.long? _) : Der.Reader CalendarTime) rest = _
    rw [long?_written real fits]
    rfl
  | false =>
    refine (reads_element (by decide) (Held.content held)).step ?_
    change (liftM (X509.Moment.short? _) : Der.Reader CalendarTime) rest = _
    rw [short?_written real fits]
    rfl

end Moment
end CredentialRotation.X509.Written
