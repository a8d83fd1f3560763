/-
# What concurrent calls leave under one key

Calls without failures, in any order, by any number of callers. What stands
under a key in the end is what somebody was bound to put there after every call
that wrote something else, or nothing, when every put is followed by a delete.
-/

import ByodsServer.Effects.Schedule
import ByodsServer.Persistence.Client

namespace ByodsServer

open Effects

variable {ι α : Type}

/-- The call writes under the key. -/
def Touches (key : Key) (request : TableCall) : Prop :=
  request = .deleteItem key ∨ ∃ item, request = .putItem item ∧ item.key = key

/-- The call deletes the key. -/
def Deletes (key : Key) (request : TableCall) : Prop := request = .deleteItem key

/-- The call puts accepted attributes under the key. -/
def Puts (key : Key) (accepted : Attrs → Prop) (request : TableCall) : Prop :=
  ∃ attrs, accepted attrs ∧ request = .putItem ⟨key, attrs⟩

/-- The call writes something else under the key. -/
def Spoils (key : Key) (accepted : Attrs → Prop) (request : TableCall) : Prop :=
  Touches key request ∧ ¬ Puts key accepted request

/-- Accepted attributes stand under the key. -/
def Holds (key : Key) (accepted : Attrs → Prop) (table : Table) : Prop :=
  ∃ attrs, accepted attrs ∧ table[key]? = some attrs

/-- The call on turn is answered as it is when every answer fits on one page. -/
def AnsweredInOnePage (paging : Paging) (pool : Pool tableCalls PyException α ι Table)
    (who : ι) : Prop :=
  ∀ request, (pool.programs who).nextCall? = some request →
    perform paging request pool.state = dynamo request pool.state

theorem not_touches_query (key : Key) (args : QueryArgs) : ¬ Touches key (.query args) := by
  intro h
  rcases h with h | ⟨item, h, _⟩
  · cases h
  · cases h

theorem not_touches_putItem {key : Key} {item : Item} (hne : item.key ≠ key) :
    ¬ Touches key (.putItem item) := by
  intro h
  rcases h with h | ⟨other, h, hkey⟩
  · cases h
  · cases h
    exact hne hkey

theorem not_touches_deleteItem {key other : Key} (hne : other ≠ key) :
    ¬ Touches key (.deleteItem other) := by
  intro h
  rcases h with h | ⟨item, h, _⟩
  · cases h
    exact hne rfl
  · cases h

/-- A call changes nothing under the keys it does not write. -/
theorem getElem?_of_not_touches {paging : Paging} {key : Key} {request : TableCall}
    (h : ¬ Touches key request) (table : Table) :
    (perform paging request table).2[key]? = table[key]? := by
  cases request with
  | getItem other => rfl
  | query args => rfl
  | scan sk start => rfl
  | putItem item =>
      have hne : item.key ≠ key := fun hkey => h (Or.inr ⟨item, rfl, hkey⟩)
      exact (Table.getElem?_insert table item.key key item.attrs).trans (if_neg hne)
  | deleteItem other =>
      have hne : other ≠ key := fun hkey => h (Or.inl (congrArg TableCall.deleteItem hkey))
      exact (Table.getElem?_erase table other key).trans (if_neg hne)

theorem holds_of_puts (paging : Paging) {key : Key} {accepted : Attrs → Prop}
    {request : TableCall} (h : Puts key accepted request) (table : Table) :
    Holds key accepted (perform paging request table).2 := by
  obtain ⟨attrs, haccepted, rfl⟩ := h
  exact ⟨attrs, haccepted, (Table.getElem?_insert table key key attrs).trans (if_pos rfl)⟩

/-- Accepted attributes are brought about by every accepted put and ended only
by calls that spoil them. -/
theorem puts_obligation (paging : Paging) (key : Key) (accepted : Attrs → Prop) :
    Pool.Obligation (perform paging)
      (fun (_ : ι) (p : TableProgram α) => p.Restores (Spoils key accepted) (Puts key accepted))
      (fun _ p => p.Ensures (Puts key accepted)) (Holds key accepted) := by
  apply Pool.obligation_of_restores (perform_answers paging)
    fun request table hputs => holds_of_puts paging hputs table
  intro request table hspoils hholds
  by_cases hputs : Puts key accepted request
  · exact holds_of_puts paging hputs table
  · obtain ⟨attrs, haccepted, hstored⟩ := hholds
    refine ⟨attrs, haccepted, ?_⟩
    rw [getElem?_of_not_touches fun htouches => hspoils ⟨htouches, hputs⟩, hstored]

theorem absent_of_deletes {paging : Paging} {key : Key} {request : TableCall}
    (h : Deletes key request) (table : Table) : (perform paging request table).2[key]? = none := by
  subst h
  exact (Table.getElem?_erase table key key).trans (if_pos rfl)

/-- Nothing comes to stand under a key except by a put. -/
theorem absent_of_not_puts {paging : Paging} {key : Key} {request : TableCall}
    (h : ¬ Puts key (fun _ => True) request) {table : Table} (habsent : table[key]? = none) :
    (perform paging request table).2[key]? = none := by
  by_cases hdeletes : Deletes key request
  · exact absent_of_deletes hdeletes table
  · rw [getElem?_of_not_touches, habsent]
    intro htouches
    rcases htouches with htouches | ⟨item, rfl, rfl⟩
    · exact hdeletes htouches
    · exact h ⟨item.attrs, trivial, rfl⟩

/-- Nothing stands under the key after every delete of it, until a put. -/
theorem deletes_obligation (paging : Paging) (key : Key) :
    Pool.Obligation (perform paging)
      (fun (_ : ι) (p : TableProgram α) => p.Restores (Puts key fun _ => True) (Deletes key))
      (fun _ p => p.Ensures (Deletes key)) fun table => table[key]? = none :=
  Pool.obligation_of_restores (perform_answers paging)
    (fun _ table hdeletes => absent_of_deletes hdeletes table)
    fun _ _ hputs habsent => absent_of_not_puts hputs habsent

/-- The program starts with a query, and every item of the answer that stands
under the key is deleted later. -/
def DeletesListed (key : Key) (args : QueryArgs) (p : TableProgram α) : Prop :=
  ∃ k : Page → TableProgram α, p = (query args >>= k) ∧
    ∀ page : Page, (∃ item ∈ page.items, item.key = key) → (k page).Ensures (Deletes key)

/-- A key that nobody puts is cleared by those who list it and delete what they
saw: whoever queries next either sees it or finds it gone. -/
theorem deletesListed_obligation (key : Key) (args : QueryArgs)
    (hselect : ∀ table : Table, table[key]? ≠ none →
      ∃ item ∈ table.select args, item.key = key) :
    Pool.Obligation dynamo
      (fun (_ : ι) (p : TableProgram α) => p.Uses fun request => ¬ Puts key (fun _ => True) request)
      (fun _ p => DeletesListed key args p ∨ p.Ensures (Deletes key))
      fun table => table[key]? = none where
  live_next _ _ _ _ hlive := hlive.2 _
  not_pending_finish _ _ hpending := by
    rcases hpending with ⟨k, hk, _⟩ | hpending
    · cases hk
    · exact hpending
  pending_next _ request next table hlive hpending := by
    rcases hpending with ⟨k, hk, hlisted⟩ | hpending
    · cases hk
      by_cases habsent : table[key]? = none
      · exact Or.inl habsent
      · exact Or.inr (Or.inr (hlisted _ (hselect table habsent)))
    · rcases hpending with hdeletes | hensures
      · exact Or.inl (absent_of_deletes hdeletes table)
      · obtain ⟨reply, hreply⟩ := perform_answers Paging.single request table
        refine Or.inr (Or.inr ?_)
        rw [dynamo, hreply]
        exact hensures reply
  goal_next _ _ _ _ hlive habsent := Or.inl (absent_of_not_puts hlive.1 habsent)

end ByodsServer
