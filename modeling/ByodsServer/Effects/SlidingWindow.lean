/-
# Sliding windows

A log of times, the part of it that a window of a given length still counts, and
logs whose every entry was admitted by the count of the window that it closes.
A log that was pruned to an earlier window still answers for every later one.
-/

import Mathlib.Algebra.Order.Group.Defs
import Mathlib.Data.List.Induction
import Mathlib.Tactic.Abel
import Mathlib.Tactic.Linarith

namespace Effects

variable {T : Type} [AddCommGroup T] [LinearOrder T]

/-- The entries that a window of length `span` ending now still counts. -/
def recent (span now : T) (log : List T) : List T :=
  log.filter fun t => now - span ≤ t

theorem recent_append (span now : T) (log more : List T) :
    recent span now (log ++ more) = recent span now log ++ recent span now more :=
  List.filter_append ..

/-- What an earlier window dropped, no later window counts. -/
theorem recent_recent_of_le [IsOrderedAddMonoid T] {span now later : T} (hle : now ≤ later)
    (log : List T) :
    recent span later (recent span now log) = recent span later log := by
  rw [recent, recent, List.filter_filter]
  apply List.filter_congr
  intro t _
  have hstart : now - span ≤ later - span := sub_le_sub_right hle span
  by_cases hcounted : later - span ≤ t
  · simp [hcounted, le_trans hstart hcounted]
  · simp [hcounted]

/-- Every entry of the log came when its window counted fewer than the limit. -/
def Limited (span : T) (limit : ℤ) (log : List T) : Prop :=
  ∀ earlier t later, log = earlier ++ t :: later → ((recent span t earlier).length : ℤ) < limit

theorem limited_nil (span : T) (limit : ℤ) : Limited span limit [] := by
  intro earlier t later h
  simp at h

theorem Limited.concat {span : T} {limit : ℤ} {log : List T} (h : Limited span limit log) {t : T}
    (hroom : ((recent span t log).length : ℤ) < limit) : Limited span limit (log ++ [t]) := by
  intro earlier last later hsplit
  induction later using List.reverseRecOn with
  | nil =>
      obtain ⟨rfl, hlast⟩ := List.append_inj' hsplit rfl
      obtain rfl : t = last := by simpa using hlast
      exact hroom
  | append_singleton later _ _ =>
      rw [← List.cons_append, ← List.append_assoc] at hsplit
      exact h earlier last later (List.append_inj' hsplit rfl).1

theorem Limited.of_concat {span : T} {limit : ℤ} {log : List T} {t : T}
    (h : Limited span limit (log ++ [t])) : Limited span limit log := by
  intro earlier last later hsplit
  exact h earlier last (later ++ [t]) (by simp [hsplit])

section Count

variable [IsOrderedAddMonoid T]

/-- The window that an entry closes counts all that a closed window around it
holds of the earlier entries. -/
theorem length_closed_le_recent {span start t : T} (hclose : t ≤ start + span) (log : List T) :
    (log.filter fun s => start ≤ s ∧ s ≤ start + span).length ≤ (recent span t log).length := by
  have hstart : t - span ≤ start := sub_le_iff_le_add.mpr hclose
  have hcount := List.countP_mono_left (l := log)
    (p := fun s => decide (start ≤ s ∧ s ≤ start + span)) (q := fun s => decide (t - span ≤ s))
    fun s _ hs => by simpa using le_trans hstart (by simpa using hs : _ ∧ _).1
  rwa [List.countP_eq_length_filter, List.countP_eq_length_filter] at hcount

/-- No closed window, wherever it starts, holds more than the limit. -/
theorem Limited.count_le {span : T} {limit : ℤ} (hlimit : 0 ≤ limit) {log : List T}
    (h : Limited span limit log) (start : T) :
    ((log.filter fun t => start ≤ t ∧ t ≤ start + span).length : ℤ) ≤ limit := by
  induction log using List.reverseRecOn with
  | nil => simpa using hlimit
  | append_singleton log t ih =>
      have hlog := ih h.of_concat
      rw [List.filter_append, List.length_append, Nat.cast_add]
      by_cases hinside : start ≤ t ∧ t ≤ start + span
      · have hroom : ((recent span t log).length : ℤ) < limit := h log t [] rfl
        have hsub := length_closed_le_recent hinside.2 log
        have hone : ([t].filter fun t => start ≤ t ∧ t ≤ start + span).length = 1 := by
          simp [hinside]
        omega
      · have hnone : ([t].filter fun t => start ≤ t ∧ t ≤ start + span).length = 0 := by
          simp [hinside]
        omega

end Count

end Effects
