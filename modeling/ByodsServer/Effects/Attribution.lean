/-
# Notes and whose they are

Calls of a pool leave notes in one list. When every participant notes what is its
own, and that once, the list keeps the participants apart: no two of its notes have
the same owner, and each is in the history of the participant that it belongs to.

A program that is translated follows the protocol of its source, as far as the
translations of the single calls do.
-/

import ByodsServer.Effects.Faults
import ByodsServer.Effects.LoggedPool

namespace Effects

variable {S T : Signature} {ε α ι σ ν κ : Type}

namespace Program

/-- The rule for translations: related histories stay related over every call. -/
theorem Follows.translate {allowed : History S ε → S.Call → Prop}
    {post : History S ε → Except ε α → Prop} {permitted : History T ε → T.Call → Prop}
    {R : History S ε → History T ε → Prop}
    {f : (request : S.Call) → Program T ε (S.Reply request)}
    (hcalls : ∀ request history other, allowed history request → R history other →
      (f request).Follows permitted (fun other reply => R (⟨request, reply⟩ :: history) other)
        other)
    {p : Program S ε α} {history : History S ε} {other : History T ε}
    (h : p.Follows allowed post history) (hrelated : R history other) :
    (p.translate f).Follows permitted
      (fun other result => ∃ history, R history other ∧ post history result) other := by
  induction p generalizing history other with
  | finish result => exact ⟨history, hrelated, h⟩
  | call request next ih =>
      exact (hcalls request history other h.1 hrelated).resume fun other reply hreply =>
        ih reply (h.2 reply) hreply

theorem Follows.mono {allowed : History S ε → S.Call → Prop}
    {first second : History S ε → Except ε α → Prop} {p : Program S ε α} {history : History S ε}
    (h : p.Follows allowed first history)
    (himplies : ∀ history result, first history result → second history result) :
    p.Follows allowed second history := by
  rw [← p.resume_finish_right]
  exact h.resume himplies

theorem follows_anything (p : Program S ε α) (history : History S ε) :
    p.Follows (fun _ _ => True) (fun _ _ => True) history := by
  induction p generalizing history with
  | finish result => trivial
  | call request next ih => exact ⟨trivial, fun reply => ih reply _⟩

end Program

/-- The notes of a history, the latest first. -/
def noted (note : S.Call → Option ν) (history : History S ε) : List ν :=
  history.filterMap fun answered => note answered.1

/-- A call notes what belongs to the key, and nothing was noted before. -/
def NotesOwnOnce (note : S.Call → Option ν) (owner : ν → κ) (key : κ) (history : History S ε)
    (request : S.Call) : Prop :=
  ∀ entry, note request = some entry → owner entry = key ∧ noted note history = []

theorem noted_cons (note : S.Call → Option ν) (history : History S ε) (request : S.Call)
    (reply : Except ε (S.Reply request)) :
    noted note (⟨request, reply⟩ :: history) = (note request).toList ++ noted note history := by
  cases hnote : note request with
  | none => exact List.filterMap_cons_none hnote
  | some entry => exact List.filterMap_cons_some hnote

/-- The notes of the calls that were answered, the latest first. -/
def answeredNotes (note : S.Call → Option ν) (history : History S ε) : List ν :=
  history.filterMap fun answered => answered.2.toOption.bind fun _ => note answered.1

theorem answeredNotes_sublist (note : S.Call → Option ν) (history : History S ε) :
    (answeredNotes note history).Sublist (noted note history) := by
  induction history with
  | nil => exact List.Sublist.slnil
  | cons answered history ih =>
      obtain ⟨request, reply⟩ := answered
      rw [noted_cons]
      cases reply with
      | error e => exact ih.trans (List.sublist_append_right _ _)
      | ok value =>
          have hcons : answeredNotes note (⟨request, .ok value⟩ :: history) =
              (note request).toList ++ answeredNotes note history := by
            cases hnote : note request with
            | none => exact List.filterMap_cons_none hnote
            | some entry => exact List.filterMap_cons_some hnote
          rw [hcons]
          exact ih.append_left _

/-- Where every noted call was answered, no note is missing. -/
theorem answeredNotes_eq_noted {note : S.Call → Option ν} {history : History S ε}
    (h : ∀ answered ∈ history, ∀ entry, note answered.1 = some entry →
      ∃ value, answered.2 = .ok value) :
    answeredNotes note history = noted note history := by
  refine List.filterMap_congr fun answered hmem => ?_
  cases hnote : note answered.1 with
  | none => exact Option.bind_fun_none _
  | some entry =>
      obtain ⟨value, hvalue⟩ := h answered hmem entry hnote
      rw [hvalue]
      rfl

/-- Calls that note nothing may be made by everybody. -/
theorem Program.Uses.notes_nothing {note : S.Call → Option ν} {p : Program S ε α}
    (huses : p.Uses fun request => note request = none) (owner : ν → κ) (key : κ)
    {history : History S ε} (hnothing : noted note history = []) :
    p.Follows (NotesOwnOnce note owner key) (fun history _ => noted note history = [])
      history := by
  refine huses.follows (fun history request hnone _ entry hentry => ?_)
    (fun history request reply hnone hnothing => ?_) hnothing
  · cases hnone.symm.trans hentry
  · rw [noted_cons, hnone, Option.toList_none, List.nil_append, hnothing]

namespace LoggedPool

variable [DecidableEq ι] {handler : Handler S ε σ} {allowed : ι → History S ε → S.Call → Prop}
  {post : ι → History S ε → Except ε α → Prop}

omit [DecidableEq ι] in
/-- Every participant follows a protocol of its own from its own history on. -/
def EachFollows (allowed : ι → History S ε → S.Call → Prop)
    (post : ι → History S ε → Except ε α → Prop) (pool : LoggedPool S ε α ι σ) : Prop :=
  ∀ who, (pool.programs who).Follows (allowed who) (post who) (pool.histories who)

/-- A turn leaves everybody following their protocols. -/
theorem EachFollows.turn {pool : LoggedPool S ε α ι σ} (h : pool.EachFollows allowed post)
    (who : ι) : (pool.turn handler who).EachFollows allowed post := by
  cases hprogram : pool.programs who with
  | finish result =>
      rw [turn_finish handler hprogram]
      exact h
  | call request next =>
      rw [turn_call handler hprogram]
      intro other
      by_cases hother : other = who
      · subst hother
        have hwho := h other
        rw [hprogram] at hwho
        simpa using hwho.2 (handler request pool.state).1
      · simpa [Function.update_of_ne hother] using h other

omit [DecidableEq ι] in
/-- The histories say what the handler answered. -/
def AnsweredBy (handler : Handler S ε σ) (pool : LoggedPool S ε α ι σ) : Prop :=
  ∀ who, ∀ answered ∈ pool.histories who, ∃ state, answered.2 = (handler answered.1 state).1

theorem AnsweredBy.turn {pool : LoggedPool S ε α ι σ} (h : pool.AnsweredBy handler) (who : ι) :
    (pool.turn handler who).AnsweredBy handler := by
  cases hprogram : pool.programs who with
  | finish result =>
      rw [turn_finish handler hprogram]
      exact h
  | call request next =>
      rw [turn_call handler hprogram]
      intro other answered hanswered
      dsimp only at hanswered
      by_cases hother : other = who
      · subst hother
        rw [Function.update_self, List.mem_cons] at hanswered
        rcases hanswered with rfl | hbefore
        · exact ⟨pool.state, rfl⟩
        · exact h other answered hbefore
      · rw [Function.update_of_ne hother] at hanswered
        exact h other answered hanswered

/-- A turn leaves the histories of all others as they are. -/
theorem turn_histories_of_ne (handler : Handler S ε σ) (pool : LoggedPool S ε α ι σ)
    {who other : ι} (hother : other ≠ who) :
    (pool.turn handler who).histories other = pool.histories other := by
  cases hprogram : pool.programs who with
  | finish result => rw [turn_finish handler hprogram]
  | call request next =>
      rw [turn_call handler hprogram]
      exact Function.update_of_ne hother _ _

omit [DecidableEq ι] in
/-- Each note belongs to a participant, no two to the same one, and the notes that belong to
a participant are those of its history. -/
structure Attributed [DecidableEq κ] (note : S.Call → Option ν) (owner : ν → κ) (key : ι → κ)
    (pool : LoggedPool S ε α ι (σ × List ν)) : Prop where
  owned : ∀ entry ∈ pool.state.2, ∃ who, owner entry = key who
  nodup : (pool.state.2.map owner).Nodup
  filter_eq : ∀ who, pool.state.2.filter (fun entry => owner entry = key who) =
    noted note (pool.histories who)

/-- A turn of a participant that notes its own, once, keeps the notes apart. -/
theorem Attributed.turn [DecidableEq κ] {note : S.Call → Option ν} {owner : ν → κ} {key : ι → κ}
    {pool : LoggedPool S ε α ι (σ × List ν)} (h : pool.Attributed note owner key)
    (hkey : Function.Injective key) {who : ι}
    (hallowed : ∀ request next, pool.programs who = .call request next →
      NotesOwnOnce note owner (key who) (pool.histories who) request) :
    (pool.turn (handler.noting note) who).Attributed note owner key := by
  cases hprogram : pool.programs who with
  | finish result =>
      rw [turn_finish _ hprogram]
      exact h
  | call request next =>
      have hnotes := hallowed request next hprogram
      rw [turn_call _ hprogram]
      cases hnote : note request with
      | none =>
          have hstate : (handler.noting note request pool.state).2.2 = pool.state.2 := by
            rw [Handler.noting, hnote, Option.toList_none, List.append_nil]
          refine ⟨?_, ?_, fun other => ?_⟩ <;> dsimp only <;> rw [hstate]
          · exact h.owned
          · exact h.nodup
          · rw [h.filter_eq other]
            by_cases hother : other = who
            · subst hother
              rw [Function.update_self, noted_cons, hnote, Option.toList_none, List.nil_append]
            · rw [Function.update_of_ne hother]
      | some entry =>
          obtain ⟨howner, hnothing⟩ := hnotes entry hnote
          have hstate : (handler.noting note request pool.state).2.2 = pool.state.2 ++ [entry] := by
            rw [Handler.noting, hnote, Option.toList_some]
          refine ⟨?_, ?_, fun other => ?_⟩ <;> dsimp only <;> rw [hstate]
          · intro noticed hnoticed
            rcases List.mem_append.mp hnoticed with hbefore | hnow
            · exact h.owned noticed hbefore
            · rw [List.mem_singleton.mp hnow]
              exact ⟨who, howner⟩
          · rw [List.map_append, List.map_singleton]
            refine List.nodup_append.mpr ⟨h.nodup, List.nodup_singleton _, ?_⟩
            rintro _ hbefore _ hnow rfl
            rw [List.mem_singleton, howner] at hnow
            obtain ⟨earlier, hearlier, hsame⟩ := List.mem_map.mp hbefore
            -- An earlier note of the same participant would be in its history.
            have hown : earlier ∈ pool.state.2.filter (fun entry => owner entry = key who) :=
              List.mem_filter.mpr ⟨hearlier, decide_eq_true (hsame.trans hnow)⟩
            rw [h.filter_eq who, hnothing] at hown
            cases hown
          · rw [List.filter_append, h.filter_eq other]
            by_cases hother : other = who
            · subst hother
              rw [Function.update_self, noted_cons, hnote, hnothing,
                List.filter_singleton, decide_eq_true howner]
              rfl
            · have hne : owner entry ≠ key other := fun heq =>
                hother (hkey (heq.symm.trans howner))
              rw [Function.update_of_ne hother, List.filter_singleton, decide_eq_false hne,
                cond_false, List.append_nil]

end LoggedPool

end Effects
