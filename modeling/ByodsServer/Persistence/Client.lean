/-
# The shared DynamoDB table

One table holds every kind of item, told apart by partition and sort key alone.
The calls are those of `DynamoDBTable`; their meaning is that of the service:
each call is atomic, a put replaces the whole item, and a query answers the items
of one partition whose sort key has a prefix, in sort-key order.

How an answer is cut into pages is left open. A `Paging` fixes it: a query is
answered by its first page, a scan goes on from the page its start key names,
and its order is the service's own. `dynamo` is the service whose answers fit
on one page.
-/

import ByodsServer.Effects.Faults
import ByodsServer.Exceptions
import ByodsServer.Python.Text
import Std.Data.ExtTreeMap

namespace ByodsServer

open Effects Python

/-- The primary key of an item. -/
@[ext]
structure Key where
  pk : String
  sk : String
  deriving DecidableEq, Repr

namespace Key

/-- Keys by partition, then by sort key. -/
def order : Key → Key → Ordering :=
  compareLex (compareOn Key.pk) (compareOn Key.sk)

instance : Std.TransCmp order :=
  inferInstanceAs (Std.TransCmp (compareLex (compareOn Key.pk) (compareOn Key.sk)))

instance : Std.LawfulEqCmp order where
  eq_of_compare {first second} h := by
    obtain ⟨hpk, hsk⟩ : compare first.pk second.pk = .eq ∧ compare first.sk second.sk = .eq := by
      simpa [order, compareLex, compareOn, Ordering.then_eq_eq] using h
    cases first
    cases second
    simp_all

end Key

/-- A stored attribute. `other` is any value beyond the first four kinds, of
which the program only ever sees the text and the truth value. -/
inductive Attr
  | null
  | bool (value : Bool)
  | int (value : Int)
  | str (value : String)
  | other (text : String) (truth : Bool)
  deriving DecidableEq, Repr

namespace Attr

/-- `str(value)`. -/
def toText : Attr → String
  | null => "None"
  | bool true => "True"
  | bool false => "False"
  | int value => toString value
  | str value => value
  | other text _ => text

/-- `bool(value)`. -/
def truthy : Attr → Bool
  | null => false
  | bool value => value
  | int value => value != 0
  | str value => value != ""
  | other _ truth => truth

end Attr

/-- The attributes of an item besides its key. -/
abbrev Attrs := List (String × Attr)

/-- An item as the service returns it. -/
structure Item where
  key : Key
  attrs : Attrs
  deriving DecidableEq, Repr

namespace Item

/-- `item.get(name)`. -/
def get? (item : Item) (name : String) : Option Attr :=
  item.attrs.lookup name

/-- `item[name]`. -/
def get (item : Item) (name : String) : Except PyException Attr :=
  match item.get? name with
  | some value => .ok value
  | none => .error (.keyError name)

end Item

/-- The contents of the table. -/
abbrev Table := Std.ExtTreeMap Key Attrs Key.order

/-- The arguments of a query: the partition, the prefix of the sort key, the
direction and the number of items asked for. -/
structure QueryArgs where
  pk : String
  skPrefix : String
  scanIndexForward : Bool := true
  limit : Option ℕ := none
  deriving DecidableEq, Repr

/-- One page of an answer; a page that is not the last names where to go on. -/
structure Page where
  items : List Item
  lastEvaluatedKey : Option ℕ

/-- The calls of `DynamoDBTable`. A scan filters on the sort key. -/
inductive TableCall
  | getItem (key : Key)
  | putItem (item : Item)
  | deleteItem (key : Key)
  | query (args : QueryArgs)
  | scan (sk : String) (exclusiveStartKey : Option ℕ)

namespace TableCall

/-- What each call answers. -/
@[reducible]
def Reply : TableCall → Type
  | getItem _ => Option Item
  | putItem _ => Unit
  | deleteItem _ => Unit
  | query _ => Page
  | scan _ _ => Page

/-- The single-item calls that change the table. -/
def isWrite : TableCall → Bool
  | putItem _ | deleteItem _ => true
  | _ => false

end TableCall

/-- The table as something a program can call. -/
def tableCalls : Signature where
  Call := TableCall
  Reply := TableCall.Reply

/-- An asynchronous method that talks to the table. -/
abbrev TableProgram := Program tableCalls PyException

/-- How answers are cut into pages. -/
structure Paging where
  /-- The pages of a query's answer. -/
  queryPages : QueryArgs → List Item → List (List Item)
  /-- The pages of a scan's answer, in the order the service scans in. -/
  scanPages : List Item → List (List Item)
  /-- A query is answered in sort-key order, nothing added or lost. -/
  query_flatten : ∀ args items, (queryPages args items).flatten = items
  /-- A scan answers everything once, in some order. -/
  scan_flatten : ∀ items, (scanPages items).flatten.Perm items

/-- Every answer fits on one page. -/
def Paging.single : Paging where
  queryPages _ items := [items]
  scanPages items := [items]
  query_flatten _ items := by simp
  scan_flatten items := by simp

namespace Table

/-- The item under a key. -/
def item? (table : Table) (key : Key) : Option Item :=
  table[key]?.map (Item.mk key)

/-- All items, in key order. -/
def items (table : Table) : List Item :=
  table.toList.map fun entry => ⟨entry.1, entry.2⟩

/-- The items a query asks for, before they are cut into pages. -/
def select (table : Table) (args : QueryArgs) : List Item :=
  let found := table.items.filter fun item =>
    item.key.pk = args.pk && startsWith item.key.sk args.skPrefix
  let ordered := if args.scanIndexForward then found else found.reverse
  match args.limit with
  | none => ordered
  | some limit => ordered.take limit

/-- The items a scan asks for, before they are ordered and cut into pages. -/
def withSortKey (table : Table) (sk : String) : List Item :=
  table.items.filter fun item => item.key.sk = sk

theorem mem_items {table : Table} {item : Item} :
    item ∈ table.items ↔ table[item.key]? = some item.attrs := by
  simp only [items, List.mem_map, Prod.exists]
  constructor
  · rintro ⟨key, attrs, hmem, rfl⟩
    exact Std.ExtTreeMap.mem_toList_iff_getElem?_eq_some.mp hmem
  · intro h
    exact ⟨item.key, item.attrs, Std.ExtTreeMap.mem_toList_iff_getElem?_eq_some.mpr h, rfl⟩

/-- No key occurs twice among the items. -/
theorem items_pairwise_key (table : Table) :
    table.items.Pairwise fun first second => first.key ≠ second.key := by
  rw [items, List.pairwise_map]
  exact (Std.ExtTreeMap.distinct_keys_toList (t := table)).imp
    fun hne heq => hne (Std.LawfulEqCmp.compare_eq_iff_eq.mpr heq)

theorem getElem?_insert (table : Table) (key other : Key) (attrs : Attrs) :
    (table.insert key attrs)[other]? = if key = other then some attrs else table[other]? := by
  simp only [Std.ExtTreeMap.getElem?_insert, Std.LawfulEqCmp.compare_eq_iff_eq]

theorem getElem?_erase (table : Table) (key other : Key) :
    (table.erase key)[other]? = if key = other then none else table[other]? := by
  simp only [Std.ExtTreeMap.getElem?_erase, Std.LawfulEqCmp.compare_eq_iff_eq]

/-- The table after deleting items one by one. -/
def eraseAll (table : Table) (items : List Item) : Table :=
  items.foldl (fun table item => table.erase item.key) table

/-- The table after putting items one by one. -/
def insertAll (table : Table) (items : List Item) : Table :=
  items.foldl (fun table item => table.insert item.key item.attrs) table

theorem getElem?_eraseAll (table : Table) (items : List Item) (key : Key) :
    (table.eraseAll items)[key]? =
      if key ∈ items.map Item.key then none else table[key]? := by
  induction items generalizing table with
  | nil => simp [eraseAll]
  | cons item items ih =>
      rw [eraseAll, List.foldl_cons, ← eraseAll, ih, getElem?_erase, List.map_cons]
      simp only [List.mem_cons]
      grind

theorem getElem?_insertAll_of_not_mem (table : Table) {items : List Item} {key : Key}
    (h : ∀ item ∈ items, item.key ≠ key) : (table.insertAll items)[key]? = table[key]? := by
  induction items generalizing table with
  | nil => rfl
  | cons item items ih =>
      rw [List.forall_mem_cons] at h
      rw [insertAll, List.foldl_cons, ← insertAll, ih _ h.2, getElem?_insert, if_neg h.1]

/-- Items put under one key all alike are found under it. -/
theorem getElem?_insertAll_of_mem (table : Table) {items : List Item} {item : Item}
    (hmem : item ∈ items)
    (hsame : ∀ other ∈ items, other.key = item.key → other.attrs = item.attrs) :
    (table.insertAll items)[item.key]? = some item.attrs := by
  induction items generalizing table with
  | nil => cases hmem
  | cons first items ih =>
      rw [List.forall_mem_cons] at hsame
      rw [insertAll, List.foldl_cons, ← insertAll]
      by_cases hlater : ∃ other ∈ items, other.key = item.key
      · obtain ⟨other, hother, hkey⟩ := hlater
        have hattrs := hsame.2 other hother hkey
        have heq : other = item := by
          cases other
          cases item
          simp_all
        exact ih _ (heq ▸ hother) hsame.2
      · have hfirst : item = first := (List.mem_cons.mp hmem).resolve_right
          fun hin => hlater ⟨item, hin, rfl⟩
        rw [getElem?_insertAll_of_not_mem _ fun other hother hkey =>
          hlater ⟨other, hother, hkey⟩, getElem?_insert, hfirst, if_pos rfl]

end Table

/-- The page of an answer with a number, and the number of the next page. -/
def pageAt (pages : List (List Item)) (number : ℕ) : Page where
  items := pages.getD number []
  lastEvaluatedKey := if number + 1 < pages.length then some (number + 1) else none

/-- The service, for a way of cutting answers into pages. -/
def perform (paging : Paging) : Handler tableCalls PyException Table
  | .getItem key, table => (.ok (table.item? key), table)
  | .putItem item, table => (.ok (), table.insert item.key item.attrs)
  | .deleteItem key, table => (.ok (), table.erase key)
  | .query args, table =>
      (.ok (pageAt (paging.queryPages args (table.select args)) 0), table)
  | .scan sk start, table =>
      (.ok (pageAt (paging.scanPages (table.withSortKey sk)) (start.getD 0)), table)

/-- The service when every answer fits on one page. -/
def dynamo : Handler tableCalls PyException Table := perform Paging.single

/-- The service itself never raises. -/
theorem perform_answers (paging : Paging) (request : TableCall) (table : Table) :
    ∃ reply, (perform paging request table).1 = .ok reply := by
  cases request <;> exact ⟨_, rfl⟩

/-! ## Calls as methods -/

/-- `table.get_item(Key=key)`. -/
def getItem (key : Key) : TableProgram (Option Item) :=
  Program.await (S := tableCalls) (.getItem key)

/-- `table.put_item(Item=item)`. -/
def putItem (item : Item) : TableProgram Unit :=
  Program.await (S := tableCalls) (.putItem item)

/-- `table.delete_item(Key=key)`. -/
def deleteItem (key : Key) : TableProgram Unit :=
  Program.await (S := tableCalls) (.deleteItem key)

/-- `table.query(...)`. -/
def query (args : QueryArgs) : TableProgram Page :=
  Program.await (S := tableCalls) (.query args)

/-- `table.scan(FilterExpression="SK = :sk", ...)`. -/
def scan (sk : String) (exclusiveStartKey : Option ℕ) : TableProgram Page :=
  Program.await (S := tableCalls) (.scan sk exclusiveStartKey)

/-- `check_table_reachable`. -/
def checkTableReachable : TableProgram Bool :=
  tryCatch (do
    let _ ← getItem ⟨"CATALOG", "META"⟩
    return true) fun e =>
      match e with
      | .clientError _ | .botoCoreError _ | .osError _ => return false
      | e => throw e

/-- A check that returns says whether the item could be read. -/
theorem isOk_of_checkTableReachable
    {answers : (request : tableCalls.Call) → Except PyException (tableCalls.Reply request)}
    {reachable : Bool} (h : checkTableReachable.resultOf answers = .ok reachable) :
    reachable = (answers (.getItem ⟨"CATALOG", "META"⟩)).isOk := by
  rw [checkTableReachable, Program.tryCatch_eq, Program.resultOf_resume, Program.bind_eq,
    Program.resultOf_resume] at h
  have hread : (getItem ⟨"CATALOG", "META"⟩).resultOf answers =
      answers (.getItem ⟨"CATALOG", "META"⟩) := rfl
  rw [hread] at h
  cases hanswer : answers (.getItem ⟨"CATALOG", "META"⟩) with
  | ok item =>
      rw [hanswer] at h
      exact (Except.ok.inj h).symm
  | error e =>
      rw [hanswer] at h
      cases e <;> cases h <;> rfl

theorem query_reads (args : QueryArgs) :
    (query args).Uses fun request => TableCall.isWrite request = false :=
  ⟨rfl, fun _ => trivial⟩

theorem getItem_reads (key : Key) :
    (getItem key).Uses fun request => TableCall.isWrite request = false :=
  ⟨rfl, fun _ => trivial⟩

/-- Reading keeps everything. -/
theorem maintains_of_reads {α : Type} {paging : Paging} {P : Table → Prop} {p : TableProgram α}
    (huses : p.Uses fun request => TableCall.isWrite request = false) :
    p.Maintains (perform paging) P := by
  refine huses.maintains ?_
  intro request hread table htable
  cases request with
  | putItem item => cases hread
  | deleteItem key => cases hread
  | _ => exact htable

section Exec

variable (paging : Paging) (table : Table)

@[simp]
theorem exec_getItem (key : Key) :
    (getItem key).exec (perform paging) table = (.ok (table.item? key), table) := rfl

@[simp]
theorem exec_putItem (item : Item) :
    (putItem item).exec (perform paging) table =
      (.ok (), table.insert item.key item.attrs) := rfl

@[simp]
theorem exec_deleteItem (key : Key) :
    (deleteItem key).exec (perform paging) table = (.ok (), table.erase key) := rfl

@[simp]
theorem exec_query (args : QueryArgs) :
    (query args).exec (perform paging) table =
      (.ok (pageAt (paging.queryPages args (table.select args)) 0), table) := rfl

@[simp]
theorem exec_query_dynamo (args : QueryArgs) :
    (query args).exec dynamo table = (.ok ⟨table.select args, none⟩, table) := rfl

theorem exec_forEach_deleteItem (items : List Item) :
    (Program.forEach items fun item => deleteItem item.key).exec (perform paging) table =
      (.ok (), table.eraseAll items) :=
  Program.exec_forEach (perform paging) (fun item table => table.erase item.key)
    (fun _ _ => rfl) items table

theorem exec_forEach_putItem {β : Type} (itemOf : β → Item) (xs : List β) :
    (Program.forEach xs fun x => putItem (itemOf x)).exec (perform paging) table =
      (.ok (), table.insertAll (xs.map itemOf)) := by
  rw [Table.insertAll, List.foldl_map]
  exact Program.exec_forEach (perform paging)
    (fun x table => table.insert (itemOf x).key (itemOf x).attrs) (fun _ _ => rfl) xs table

end Exec

example : ((do putItem ⟨⟨"P", "b"⟩, []⟩; putItem ⟨⟨"P", "a"⟩, []⟩; deleteItem ⟨"P", "b"⟩
               let page ← query ⟨"P", "", true, none⟩
               return page.items.map fun item => item.key.sk :
             TableProgram (List String)).exec dynamo ∅).1 = .ok ["a"] := by
  decide

end ByodsServer
