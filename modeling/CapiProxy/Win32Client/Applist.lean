import CapiProxy.Heaps.Headed
import CapiProxy.Win32Client.Functions

/-! `appl_list` as it lies in memory. Its functions run under `appllist_mutex`, but the first entry that
`setdata_app` starts from is read by its caller, before the mutex. -/
namespace CapiProxy.Win32Client
open Heaps

abbrev ApplList := Headed Application

namespace ApplList

/-- What a function leaves behind, with the blocks it frees; `none` when it reads an entry that has been
freed. -/
abbrev Result := Option (ApplList × List Nat)

def addApp (applID : UInt32) (list : ApplList) : Result :=
  (list.append ⟨applID, none⟩).map fun list => (list, [])

def delApp (applID : UInt32) (list : ApplList) : Result :=
  match list.find (·.applID == applID) list.head with
  | .dangling => none
  | .missing => some (list, [])
  | .found prev r cell => some (list.erase prev r cell.next, cell.value.data.toList)

/-- The first entry goes, whatever it is. -/
def getfirstApp (list : ApplList) : Result :=
  match list.find (fun _ => true) list.head with
  | .dangling => none
  | .missing => some (list, [])
  | .found prev r cell => some (list.erase prev r cell.next, cell.value.data.toList)

/-- `start` is the first entry that the caller has read. -/
def setdataApp (applID : UInt32) (start : Option Nat) (data : Nat) (list : ApplList) : Result :=
  match list.find (·.applID == applID) start with
  | .dangling => none
  | .missing => some (list, [data])
  | .found _ r cell => some (list.replace r { cell.value with data := some data }, cell.value.data.toList)

def finds (applID : UInt32) (start : Option Nat) (list : ApplList) : Bool :=
  match list.find (·.applID == applID) start with
  | .found _ _ _ => true
  | _ => false

def Lists (list : ApplList) (apps : List Application) : Prop :=
  ∃ c, list.Represents c ∧ c.map Prod.snd = apps

end ApplList

def getdataApp (applID : UInt32) (list : List Application) : Option Nat :=
  (list.find? (·.applID == applID)).bind (·.data)

def held (list : List Application) : List Nat := list.filterMap (·.data)

section lists
variable {applID : UInt32} {list before : List Application}

theorem setdataApp_append (earlier : ∀ app ∈ before, app.applID ≠ applID) (data : Nat) :
    setdataApp applID data (before ++ list) =
      (before ++ (setdataApp applID data list).1, (setdataApp applID data list).2) := by
  induction before with
  | nil => rfl
  | cons app before ih =>
    rw [List.cons_append, setdataApp, if_neg (earlier app List.mem_cons_self),
      ih fun app member => earlier app (List.mem_cons_of_mem _ member)]
    rfl

theorem delApp_append (earlier : ∀ app ∈ before, app.applID ≠ applID) :
    delApp applID (before ++ list) = (before ++ (delApp applID list).1, (delApp applID list).2) := by
  induction before with
  | nil => rfl
  | cons app before ih =>
    rw [List.cons_append, delApp, if_neg (earlier app List.mem_cons_self),
      ih fun app member => earlier app (List.mem_cons_of_mem _ member)]
    rfl

theorem setdataApp_absent (absent : ∀ app ∈ list, app.applID ≠ applID) (data : Nat) :
    setdataApp applID data list = (list, [data]) := by
  have whole : setdataApp applID data (list ++ []) = _ := setdataApp_append absent data
  simpa [setdataApp] using whole

theorem delApp_absent (absent : ∀ app ∈ list, app.applID ≠ applID) : delApp applID list = (list, []) := by
  have whole : delApp applID (list ++ []) = _ := delApp_append absent
  simpa [delApp] using whole

end lists

namespace ApplList
variable {list : ApplList} {apps : List Application}

/-- The result is this list with these blocks freed, and what a caller has read before is still the first
entry or has been freed. -/
structure Yields (list : ApplList) (result : Result) (apps : List Application) (freed : List Nat) : Prop where
  lists : ∃ list', result = some (list', freed) ∧ Lists list' apps ∧ ∀ r, list.Sampled r → list'.Sampled r

theorem addApp_yields (lists : Lists list apps) (applID : UInt32) :
    Yields list (addApp applID list) (Win32Client.addApp applID apps) [] := by
  obtain ⟨c, represents, rfl⟩ := lists
  obtain ⟨list', appended, grown⟩ := represents.append ⟨applID, none⟩
  exact ⟨list', by rw [addApp, appended]; rfl, ⟨_, grown, List.map_append⟩,
    fun r sampled => sampled.append appended⟩

theorem find_applID {c : List (Nat × Application)} (represents : list.Represents c) (applID : UInt32) :
    (list.find (·.applID == applID) list.head = .missing ∧ ∀ app ∈ c.map Prod.snd, app.applID ≠ applID) ∨
    ∃ before r data after next, c = before ++ (r, ⟨applID, data⟩) :: after ∧
      (∀ app ∈ before.map Prod.snd, app.applID ≠ applID) ∧ list.cells r = some ⟨next, ⟨applID, data⟩⟩ ∧
      list.find (·.applID == applID) list.head = .found (refs before).getLast? r ⟨next, ⟨applID, data⟩⟩ := by
  have apart {c : List (Nat × Application)} (none : ∀ x ∈ c, (x.2.applID == applID) = false) :
      ∀ app ∈ c.map Prod.snd, app.applID ≠ applID :=
    List.forall_mem_map.mpr fun x member => beq_eq_false_iff_ne.mp (none x member)
  rcases represents.find (·.applID == applID) with
    ⟨missing, absent⟩ | ⟨before, r, ⟨id, data⟩, after, next, rfl, earlier, here, cell, found⟩
  · exact .inl ⟨missing, apart absent⟩
  · obtain rfl : id = applID := beq_iff_eq.mp here
    exact .inr ⟨before, r, data, after, next, rfl, apart earlier, cell, found⟩

theorem delApp_yields (lists : Lists list apps) (applID : UInt32) :
    Yields list (delApp applID list) (Win32Client.delApp applID apps).1 (Win32Client.delApp applID apps).2 := by
  obtain ⟨c, represents, rfl⟩ := lists
  rcases find_applID represents applID with
    ⟨missing, absent⟩ | ⟨before, r, data, after, next, rfl, earlier, cell, found⟩
  · rw [delApp_absent absent]
    exact ⟨list, by simp only [delApp, missing], ⟨c, represents, rfl⟩, fun r => id⟩
  · rw [List.map_append, List.map_cons, delApp_append earlier, Win32Client.delApp, if_pos rfl]
    exact ⟨_, by simp only [delApp, found], ⟨_, represents.erase cell, List.map_append⟩,
      fun r sampled => sampled.erase next represents⟩

theorem setdataApp_yields (lists : Lists list apps) (applID : UInt32) (data : Nat) :
    Yields list (setdataApp applID list.head data list) (Win32Client.setdataApp applID data apps).1
      (Win32Client.setdataApp applID data apps).2 := by
  obtain ⟨c, represents, rfl⟩ := lists
  rcases find_applID represents applID with
    ⟨missing, absent⟩ | ⟨before, r, old, after, next, rfl, earlier, cell, found⟩
  · rw [setdataApp_absent absent]
    exact ⟨list, by simp only [setdataApp, missing], ⟨c, represents, rfl⟩, fun r => id⟩
  · rw [List.map_append, List.map_cons, setdataApp_append earlier, Win32Client.setdataApp, if_pos rfl]
    exact ⟨_, by simp only [setdataApp, found], ⟨_, represents.replace ⟨applID, some data⟩, by simp⟩,
      fun r sampled => sampled.replace _⟩

theorem getfirstApp_yields (lists : Lists list apps) :
    Yields list (getfirstApp list) apps.tail (held (apps.take 1)) := by
  obtain ⟨c, represents, rfl⟩ := lists
  rcases represents.find (fun _ => true) with
    ⟨missing, absent⟩ | ⟨before, r, a, after, next, rfl, earlier, -, cell, found⟩
  · obtain rfl : c = [] := List.eq_nil_iff_forall_not_mem.mpr fun x member => by simpa using absent x member
    exact ⟨list, by simp only [getfirstApp, missing]; rfl, ⟨[], represents, rfl⟩, fun r => id⟩
  · obtain rfl : before = [] :=
      List.eq_nil_iff_forall_not_mem.mpr fun x member => by simpa using earlier x member
    refine ⟨_, ?_, ⟨after, represents.erase cell, rfl⟩, fun r sampled => sampled.erase next represents⟩
    simp only [getfirstApp, found]
    cases data : a.data <;> simp [held, data]

theorem finds_iff (lists : Lists list apps) (applID : UInt32) :
    finds applID list.head list = true ↔ applID ∈ apps.map Application.applID := by
  obtain ⟨c, represents, rfl⟩ := lists
  rcases find_applID represents applID with
    ⟨missing, absent⟩ | ⟨before, r, data, after, next, rfl, -, -, found⟩
  · refine iff_of_false (by simp [finds, missing]) fun listed => ?_
    obtain ⟨app, member, here⟩ := List.mem_map.mp listed
    exact absent app member here
  · exact iff_of_true (by simp [finds, found]) (by simp)

end ApplList

section lists
variable {applID other : UInt32} {list : List Application}

/-- Blocks only move: from the caller to an entry, and from an entry to the blocks that are freed. -/
theorem setdataApp_held (applID : UInt32) (data : Nat) (list : List Application) :
    (held (setdataApp applID data list).1 ++ (setdataApp applID data list).2).Perm (data :: held list) := by
  induction list with
  | nil => exact .refl _
  | cons app list ih =>
    rw [setdataApp]
    split
    · cases old : app.data with
      | none => simp [held, old]
      | some block => simp [held, old]
    · cases old : app.data with
      | none => simpa [held, old] using ih
      | some block =>
        have moved : (block :: (held (setdataApp applID data list).1 ++ (setdataApp applID data list).2)).Perm
            (block :: data :: held list) := ih.cons block
        simpa [held, old] using moved.trans (.swap _ _ _)

theorem delApp_held (applID : UInt32) (list : List Application) :
    (held (delApp applID list).1 ++ (delApp applID list).2).Perm (held list) := by
  induction list with
  | nil => exact .refl _
  | cons app list ih =>
    rw [delApp]
    split
    · cases old : app.data with
      | none => simp [held, old]
      | some block => simp [held, old]
    · cases old : app.data with
      | none => simpa [held, old] using ih
      | some block => simpa [held, old] using ih.cons block

theorem getdataApp_held (found : getdataApp applID list = some data) : data ∈ held list := by
  obtain ⟨app, first, kept⟩ := Option.bind_eq_some_iff.mp found
  exact List.mem_filterMap.mpr ⟨app, List.mem_of_find?_eq_some first, kept⟩

theorem getdataApp_add (applID : UInt32) (found : getdataApp other list = some data) :
    getdataApp other (addApp applID list) = some data := by
  obtain ⟨app, first, kept⟩ := Option.bind_eq_some_iff.mp found
  rw [getdataApp, addApp, List.find?_append, first]
  exact kept

theorem getdataApp_set (listed : applID ∈ list.map Application.applID) (data : Nat) :
    getdataApp applID (setdataApp applID data list).1 = some data := by
  induction list with
  | nil => cases listed
  | cons app list ih =>
    rw [setdataApp]
    split
    · next here => simp [getdataApp, here]
    · next apart =>
      have later := (List.mem_cons.mp listed).resolve_left fun same => apart same.symm
      simpa [getdataApp, apart] using ih later

theorem getdataApp_set_other (apart : other ≠ applID) (data : Nat) :
    getdataApp other (setdataApp applID data list).1 = getdataApp other list := by
  induction list with
  | nil => rfl
  | cons app list ih =>
    rw [setdataApp]
    split
    · next here => simp [getdataApp, here, apart.symm]
    · by_cases mine : app.applID = other
      · simp [getdataApp, mine]
      · simpa [getdataApp, mine] using ih

theorem getdataApp_del_other (apart : other ≠ applID) :
    getdataApp other (delApp applID list).1 = getdataApp other list := by
  induction list with
  | nil => rfl
  | cons app list ih =>
    rw [delApp]
    split
    · next here => simp [getdataApp, here, apart.symm]
    · by_cases mine : app.applID = other
      · simp [getdataApp, mine]
      · simpa [getdataApp, mine] using ih

end lists
end CapiProxy.Win32Client
