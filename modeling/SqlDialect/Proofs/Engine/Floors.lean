import SqlDialect.Proofs.Calendar.Starts
import SqlDialect.Proofs.Engine.Truncation

/-!
# Truncations as floors

Timestamps in the order of time, and the starts of the units that truncations know. Main statement:
the value at such a granularity is the greatest start of a unit up to the timestamp. Being greatest
determines it, so what follows about truncations needs the inclusion of starts only and no
calendar.
-/

namespace SqlDialect
namespace Timestamp

instance : LE Timestamp where
  le s t := s.date.Before t.date ∨
    s.date = t.date ∧ (s.second < t.second ∨ s.second = t.second ∧ s.nano ≤ t.nano)

/-- The place of a timestamp in time. Every second has room for a leap second after it. -/
def position (t : Timestamp) : Int :=
  (86400 * t.date.dayNumber + t.second) * 2000000000 + t.nano

theorem le_iff {s t : Timestamp} : s ≤ t ↔ s.position ≤ t.position := by
  have hs := s.valid
  have ht := t.valid
  show (s.date.Before t.date ∨ s.date = t.date ∧
    (s.second < t.second ∨ s.second = t.second ∧ s.nano ≤ t.nano)) ↔ _
  rw [Date.before_iff, ← Date.dayNumber_inj]
  unfold position
  omega

theorem position_injective {s t : Timestamp} (h : s.position = t.position) : s = t := by
  have hs := s.valid
  have ht := t.valid
  unfold position at h
  have hdate : s.date = t.date := Date.dayNumber_injective (by omega)
  have hsecond : s.second = t.second := by omega
  have hnano : s.nano = t.nano := by omega
  cases s
  cases t
  simp only at hdate hsecond hnano
  subst hdate hsecond hnano
  rfl

instance : PartialOrder Timestamp where
  le := (· ≤ ·)
  le_refl s := le_iff.2 (Int.le_refl _)
  le_trans s t u hst htu := le_iff.2 (Int.le_trans (le_iff.1 hst) (le_iff.1 htu))
  le_antisymm s t hst hts := position_injective (Int.le_antisymm (le_iff.1 hst) (le_iff.1 hts))

theorem midnight_le_iff {d : Date} {t : Timestamp} : midnight d ≤ t ↔ d ≤ t.date := by
  have ht := t.valid
  rw [le_iff, Date.le_iff]
  simp only [position, midnight]
  omega

/-- Whether a timestamp is the first moment of a day with a property. -/
def IsMidnightOf (P : Date → Prop) (t : Timestamp) : Prop :=
  P t.date ∧ t = midnight t.date

/-- The last moment of this kind is the midnight of the last day of this kind. -/
theorem isGreatest_midnight {P : Date → Prop} {t : Timestamp} {d : Date}
    (h : IsGreatest {e | P e ∧ e ≤ t.date} d) :
    IsGreatest {s | s.IsMidnightOf P ∧ s ≤ t} (midnight d) := by
  obtain ⟨⟨hd, hdt⟩, hgreatest⟩ := h
  refine ⟨⟨⟨hd, rfl⟩, midnight_le_iff.2 hdt⟩, ?_⟩
  rintro s ⟨⟨hs, hmidnight⟩, hst⟩
  rw [hmidnight] at hst ⊢
  exact midnight_le_iff.2 (hgreatest ⟨hs, midnight_le_iff.1 hst⟩)

/-- Whether a timestamp is the first moment of a span of some seconds, counted from midnight. -/
def IsMultipleOf (seconds : Nat) (t : Timestamp) : Prop :=
  t.second % seconds = 0 ∧ t.nano = 0

theorem isGreatest_startOfMinute (t : Timestamp) :
    IsGreatest {s | s.IsMultipleOf 60 ∧ s ≤ t} t.startOfMinute := by
  have ht := t.valid
  refine ⟨⟨⟨?_, rfl⟩, ?_⟩, ?_⟩
  · simp only [startOfMinute]
    omega
  · rw [le_iff]
    simp only [position, startOfMinute, hour, minute]
    omega
  · rintro s ⟨⟨hsecond, hnano⟩, hst⟩
    rw [le_iff] at hst ⊢
    simp only [position, startOfMinute, hour, minute] at hst ⊢
    omega

theorem isGreatest_startOfHour (t : Timestamp) :
    IsGreatest {s | s.IsMultipleOf 3600 ∧ s ≤ t} t.startOfHour := by
  have ht := t.valid
  refine ⟨⟨⟨?_, rfl⟩, ?_⟩, ?_⟩
  · simp only [startOfHour]
    omega
  · rw [le_iff]
    simp only [position, startOfHour, hour]
    omega
  · rintro s ⟨⟨hsecond, hnano⟩, hst⟩
    rw [le_iff] at hst ⊢
    simp only [position, startOfHour, hour] at hst ⊢
    omega

end Timestamp

namespace Granularity

/-- The granularities at which a point in time becomes the start of a unit. -/
def truncations : List Granularity :=
  [.minute, .hour, .week, .month, .quarter]

/-- Whether a timestamp is the start of a unit of a granularity; other granularities than the
truncations have none. -/
def IsStart : Granularity → Timestamp → Prop
  | .minute => Timestamp.IsMultipleOf 60
  | .hour => Timestamp.IsMultipleOf 3600
  | .week => Timestamp.IsMidnightOf Date.StartsWeek
  | .month => Timestamp.IsMidnightOf Date.StartsMonth
  | .quarter => Timestamp.IsMidnightOf Date.StartsQuarter
  | _ => fun _ => False

/-- The value at a truncation is the last start of a unit. -/
theorem exists_isGreatest_value {g : Granularity} (hg : g ∈ truncations) (t : Timestamp) :
    ∃ start, g.value t = .timestamp start ∧ IsGreatest {s | g.IsStart s ∧ s ≤ t} start := by
  simp only [truncations, List.mem_cons, List.not_mem_nil, or_false] at hg
  rcases hg with rfl | rfl | rfl | rfl | rfl
  · exact ⟨_, rfl, t.isGreatest_startOfMinute⟩
  · exact ⟨_, rfl, t.isGreatest_startOfHour⟩
  · exact ⟨_, rfl, Timestamp.isGreatest_midnight t.date.isGreatest_startOfWeek⟩
  · exact ⟨_, rfl, Timestamp.isGreatest_midnight t.date.isGreatest_startOfMonth⟩
  · exact ⟨_, rfl, Timestamp.isGreatest_midnight t.date.isGreatest_startOfQuarter⟩

end Granularity
end SqlDialect
