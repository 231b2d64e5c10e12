import Mathlib.Tactic.Ring
import PolicyAgent.Command

/-!
# Offsets of creation dates

A creation date is given in UTC, with an offset of hours and minutes, or without one. So the
offset of a command that was decoded is a whole number of minutes.
-/
namespace PolicyAgent

open PolicyAgent.Json PolicyAgent.Time

theorem mapError_eq_ok_iff {α ε δ : Type} {x : Except ε α} {f : ε → δ} {a : α} :
    x.mapError f = .ok a ↔ x = .ok a := by
  cases x with
  | error e => exact ⟨nofun, nofun⟩
  | ok b => exact ⟨fun h => congrArg _ (Except.ok.inj h), fun h => congrArg _ (Except.ok.inj h)⟩

theorem exists_eq_ok_of_isOk {ε α : Type} {x : Except ε α} (h : x.isOk = true) :
    ∃ a, x = .ok a := by
  cases x with
  | ok a => exact ⟨a, rfl⟩
  | error e => nomatch h

theorem bind_eq_ok_iff {ε α β : Type} {x : Except ε α} {f : α → Except ε β} {b : β} :
    (x >>= f) = .ok b ↔ ∃ a, x = .ok a ∧ f a = .ok b := by
  cases x with
  | error e => exact ⟨nofun, nofun⟩
  | ok a => exact ⟨fun h => ⟨a, rfl, h⟩, fun ⟨_, ha, h⟩ => Except.ok.inj ha ▸ h⟩

theorem toOption_eq_some_iff {ε α : Type} {x : Except ε α} {a : α} :
    x.toOption = some a ↔ x = .ok a := by
  cases x <;> simp [Except.toOption]

namespace Time

theorem dvd_of_offset? {cs : List Char} {seconds : Option Int} (h : offset? cs = some seconds) :
    60 ∣ seconds.getD 0 := by
  unfold offset? at h
  split at h
  · obtain rfl := Option.some.inj h
    exact dvd_zero _
  · split at h
    · obtain rfl := Option.some.inj h
      exact dvd_zero _
    · simp at h
  · simp only [Option.bind_eq_bind, Option.bind_eq_some_iff] at h
    obtain ⟨factor, -, ⟨hours, _⟩, -, ⟨minutes, rest⟩, -, h⟩ := h
    split at h
    · obtain rfl := Option.some.inj h
      have hminutes : (60 : Int) ∣ ((hours * 60 + minutes) * 60 : Nat) :=
        Int.natCast_dvd_natCast.2 (Dvd.intro_left _ rfl)
      exact hminutes.mul_left factor
    · simp at h

theorem dvd_of_timeAndOffset? {cs : List Char} {hour minute second micro : Nat}
    {seconds : Option Int} (h : timeAndOffset? cs = some (hour, minute, second, micro, seconds)) :
    60 ∣ seconds.getD 0 := by
  unfold timeAndOffset? at h
  split at h
  · simp only [Option.some.injEq, Prod.mk.injEq] at h
    exact h.2.2.2.2 ▸ dvd_zero _
  · split at h
    · simp only [Option.bind_eq_bind, Option.bind_eq_some_iff] at h
      obtain ⟨_, -, _, -, _, -, _, -, offset, hoffset, h⟩ := h
      simp only [Option.pure_def, Option.some.injEq, Prod.mk.injEq] at h
      exact h.2.2.2.2 ▸ dvd_of_offset? hoffset
    · simp at h

theorem offsetSeconds_of_numbers {n : Numbers} {t : Timestamp} (h : n.timestamp = .ok t) :
    t.offsetSeconds = n.offset := by
  unfold Numbers.timestamp Offset.ofSeconds? at h
  split at h
  · simp at h
  · rename_i offset hoffset
    split at h
    · simp at h
    · split at h
      · simp at h
      · obtain rfl := Except.ok.inj h
        split at hoffset
        · obtain rfl := Option.some.inj hoffset
          rfl
        · simp at hoffset

theorem offsetSeconds_of_dateOfMicros {micros : Int} {t : Timestamp}
    (h : dateOfMicros micros = .ok t) : t.offsetSeconds = 0 := by
  unfold dateOfMicros at h
  dsimp only at h
  split_ifs at h
  rw [mapError_eq_ok_iff] at h
  unfold Timestamp.ofInstant at h
  cases hday : Day.ofNumber ((micros - beginningOfCalendar * 1000000).toNat / 86400000000) with
  | error e => rw [hday] at h; cases h
  | ok day => rw [hday] at h; cases h; rfl

theorem offsetSeconds_of_dateOfFloat {x : Float} {t : Timestamp} (h : dateOfFloat x = .ok t) :
    t.offsetSeconds = 0 := by
  unfold dateOfFloat at h
  split at h
  · simp at h
  · simp at h
  · exact offsetSeconds_of_dateOfMicros h

theorem dvd_of_dateOfText {cs : List Char} {t : Timestamp} (h : dateOfText cs = .ok t) :
    60 ∣ t.offsetSeconds := by
  unfold dateOfText at h
  split at h
  · simp at h
  · split at h
    · simp at h
    · rename_i hrest
      split at h
      · rename_i hnumbers
        obtain rfl := Except.ok.inj h
        split_ifs
        · rw [offsetSeconds_of_numbers hnumbers]
          exact dvd_of_timeAndOffset? hrest
        · exact dvd_zero _
      · simp at h

theorem dvd_of_readDateText {cs : List Char} {t : Timestamp} (h : readDateText cs = .ok t) :
    60 ∣ t.offsetSeconds := by
  unfold readDateText at h
  split at h
  · exact dvd_of_dateOfText h
  · rw [mapError_eq_ok_iff] at h
    exact offsetSeconds_of_dateOfMicros h ▸ dvd_zero _
  · split at h
    · rename_i hfloat
      obtain rfl := Except.ok.inj h
      exact offsetSeconds_of_dateOfFloat hfloat ▸ dvd_zero _
    · split at h
      · exact dvd_of_dateOfText h
      · simp at h

/-- The offset of a creation date has whole minutes, however the date is spelt. -/
theorem dvd_of_readCreationDate {v : Value} {t : Timestamp} (h : readCreationDate v = .ok t) :
    60 ∣ t.offsetSeconds := by
  unfold readCreationDate at h
  split at h
  · split at h
    · simp at h
    · rw [mapError_eq_ok_iff] at h
      exact offsetSeconds_of_dateOfMicros h ▸ dvd_zero _
  · rw [mapError_eq_ok_iff] at h
    exact offsetSeconds_of_dateOfFloat h ▸ dvd_zero _
  · split at h
    · exact dvd_of_readDateText h
    · simp at h
  · simp at h

end Time

/-- The command is one that a listing can have. -/
def Command.IsDecoded (c : Command) : Prop := ∃ v, Command.decode v = .ok c

theorem Command.createdAt_of_ofFields {fields : Fields} {c : Command}
    (h : Command.ofFields fields = .ok c) :
    ∃ v t, readCreationDate v = .ok t ∧ c.createdAt = t.withOffset := by
  unfold Command.ofFields at h
  split at h
  · rename_i createdAt _ _ hdate _
    obtain rfl := Except.ok.inj h
    unfold requiredField at hdate
    split at hdate
    · simp at hdate
    · rw [mapError_eq_ok_iff, checkDate, mapError_eq_ok_iff] at hdate
      exact ⟨_, createdAt, hdate, rfl⟩
  · simp at h

theorem Command.IsDecoded.dvd_offsetSeconds {c : Command} (h : c.IsDecoded) :
    60 ∣ c.createdAt.offsetSeconds := by
  obtain ⟨v, hv⟩ := h
  unfold Command.decode decodeObject at hv
  rw [mapError_eq_ok_iff] at hv
  unfold checkObject at hv
  split at hv
  · obtain ⟨date, t, hdate, heq⟩ := Command.createdAt_of_ofFields hv
    rw [heq, Timestamp.offsetSeconds_withOffset]
    exact dvd_of_readCreationDate hdate
  · simp at hv

end PolicyAgent
