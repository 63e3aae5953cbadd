import Kin.Lib.Run
import Mathlib.Data.List.Nodup
import Mathlib.Data.List.Count

/-!
The tab manager of `kin/tui/workspace.py`. Opening a tab looks for an open one it would
repeat; reopening a closed tab does not look.
-/

namespace Kin.Tui

open Kin.Lib

inductive TabKind
  | home | agents | network | inbox | dispatch | session | search | launcher
  deriving DecidableEq

structure WorkspaceTab where
  tabId : String
  title : String
  kind : TabKind
  singleton : Bool := false
  closeable : Bool := true
  dirty : Bool := false
  badge : Option String := none
  glyph : String := "○"
  deriving DecidableEq

def homeTab : WorkspaceTab :=
  { tabId := "home", title := "Home", kind := .home, singleton := true, closeable := false,
    glyph := "●" }

/-- The Home tab, whatever was done to its badge and its mark of unsaved changes. -/
def WorkspaceTab.IsHome (t : WorkspaceTab) : Prop :=
  t = { homeTab with dirty := t.dirty, badge := t.badge }

/-- Home is at index 0. -/
def HomeFirst (tabs : List WorkspaceTab) : Prop := ∃ home rest, tabs = home :: rest ∧ home.IsHome

/-- The tab manager. Home is first in every one that can be built, so that no index its
operations compute is out of range. -/
structure WorkspaceTabManager where
  tabs : List WorkspaceTab
  activeTabId : String
  closedTabsStack : List WorkspaceTab
  homeFirst : HomeFirst tabs

/-- `WorkspaceTabManager()`. -/
def WorkspaceTabManager.fresh : WorkspaceTabManager :=
  { tabs := [homeTab], activeTabId := "home", closedTabsStack := [],
    homeFirst := ⟨homeTab, [], rfl, rfl⟩ }

def getTab (tabs : List WorkspaceTab) (tabId : String) : Option WorkspaceTab :=
  tabs.find? fun t => t.tabId = tabId

section

variable {tabs tabs' : List WorkspaceTab} {t : WorkspaceTab}

theorem HomeFirst.length_pos (h : HomeFirst tabs) : 0 < tabs.length := by
  obtain ⟨home, rest, rfl, -⟩ := h
  exact Nat.succ_pos _

theorem HomeFirst.append (h : HomeFirst tabs) : HomeFirst (tabs ++ tabs') := by
  obtain ⟨home, rest, rfl, hhome⟩ := h
  exact ⟨home, rest ++ tabs', rfl, hhome⟩

theorem WorkspaceTab.IsHome.kind_eq (h : t.IsHome) : t.kind = .home := by
  rw [WorkspaceTab.IsHome] at h
  rw [h]
  rfl

theorem HomeFirst.erase (h : HomeFirst tabs) (ht : t.kind ≠ .home) : HomeFirst (tabs.erase t) := by
  obtain ⟨home, rest, rfl, hhome⟩ := h
  have hne : home ≠ t := by
    rintro rfl
    exact ht hhome.kind_eq
  exact ⟨home, rest.erase t, List.erase_cons_tail (by simpa using hne), hhome⟩

/-- A change of badges and marks leaves Home where it is. -/
theorem HomeFirst.modify (h : HomeFirst tabs) (i : Nat) {f : WorkspaceTab → WorkspaceTab}
    (hf : ∀ t, t.IsHome → (f t).IsHome) : HomeFirst (tabs.modify i f) := by
  obtain ⟨home, rest, rfl, hhome⟩ := h
  cases i with
  | zero => exact ⟨f home, rest, rfl, hf home hhome⟩
  | succ i => exact ⟨home, rest.modify i f, rfl, hhome⟩

theorem WorkspaceTab.IsHome.setBadge (h : t.IsHome) (badge : Option String) :
    WorkspaceTab.IsHome { t with badge } := by
  rw [WorkspaceTab.IsHome] at h ⊢
  rw [h]

theorem WorkspaceTab.IsHome.setDirty (h : t.IsHome) (dirty : Bool) :
    WorkspaceTab.IsHome { t with dirty } := by
  rw [WorkspaceTab.IsHome] at h ⊢
  rw [h]

/-- The neighbour that takes the focus when a tab is closed is there. -/
theorem neighbour_lt (h : HomeFirst (tabs.erase t)) (ht : t ∈ tabs) :
    tabs.idxOf t - 1 < (tabs.erase t).length := by
  have hlt : tabs.idxOf t < tabs.length := List.idxOf_lt_length_iff.mpr ht
  have hpos := h.length_pos
  rw [List.length_erase_of_mem ht] at hpos ⊢
  omega

end

namespace WorkspaceTabManager

/-! ### Operations -/

/-- `self.tabs[i].tab_id`. -/
def tabIdAt (tabs : List WorkspaceTab) (i : Nat) (h : i < tabs.length) : String :=
  (tabs.get ⟨i, h⟩).tabId

/-- `kind in ("agents", "network", "inbox")`. -/
def singletonKinds : List TabKind := [.agents, .network, .inbox]

def openTab (s : WorkspaceTabManager) (tabId title : String) (kind : TabKind)
    (singleton closeable : Bool) (badge : Option String) (glyph : String) :
    WorkspaceTabManager × Bool × Option String :=
  match getTab s.tabs tabId with
  | some existing =>
      ({ s with activeTabId := existing.tabId }, true,
        some ("Focused existing singleton " ++ existing.title ++ " tab."))
  | none =>
      match if singleton || kind ∈ singletonKinds then s.tabs.find? (·.kind = kind) else none with
      | some t =>
          ({ s with activeTabId := t.tabId }, true,
            some ("Focused existing singleton " ++ t.title ++ " tab."))
      | none =>
          match if kind = .dispatch then s.tabs.find? (·.kind = .dispatch) else none with
          | some t =>
              if t.dirty then (s, false, some "Unsaved changes in active Dispatch draft!")
              else
                ({ s with activeTabId := t.tabId }, true,
                  some "Focused existing Dispatch draft tab.")
          | none =>
              ({ s with
                  tabs := s.tabs ++ [{ tabId, title, kind, singleton, closeable, badge, glyph }]
                  activeTabId := tabId
                  homeFirst := s.homeFirst.append }, true, none)

/-- `tab_id or self.active_tab_id`. -/
def closeTarget (s : WorkspaceTabManager) (tabId : Option String) : String :=
  match tabId with
  | some id => if id = "" then s.activeTabId else id
  | none => s.activeTabId

def closeTab (s : WorkspaceTabManager) (tabId : Option String) (force : Bool) :
    WorkspaceTabManager × Bool × Option String :=
  match htarget : getTab s.tabs (s.closeTarget tabId) with
  | none => (s, false, some "Tab not found.")
  | some target =>
      if hclose : target.closeable = false ∨ target.kind = .home then
        (s, false, some "Home tab cannot be closed.")
      else if target.dirty && !force then
        (s, false, some ("Cannot close tab '" ++ target.title ++ "': unsaved draft changes!"))
      else
        have hfirst : HomeFirst (s.tabs.erase target) :=
          s.homeFirst.erase fun hkind => hclose (.inr hkind)
        ({ tabs := s.tabs.erase target
           activeTabId :=
             if s.activeTabId = s.closeTarget tabId then
               tabIdAt (s.tabs.erase target) (s.tabs.idxOf target - 1)
                 (neighbour_lt hfirst (List.mem_of_find?_eq_some htarget))
             else s.activeTabId
           closedTabsStack := s.closedTabsStack ++ [target]
           homeFirst := hfirst }, true, some ("Closed tab '" ++ target.title ++ "'."))

def reopenLastTab (s : WorkspaceTabManager) : WorkspaceTabManager × Bool × Option String :=
  match s.closedTabsStack.getLast? with
  | none => (s, false, some "No closed tabs to reopen.")
  | some reopened =>
      ({ tabs := s.tabs ++ [reopened]
         activeTabId := reopened.tabId
         closedTabsStack := s.closedTabsStack.dropLast
         homeFirst := s.homeFirst.append }, true, some ("Reopened tab '" ++ reopened.title ++ "'."))

def activeIndex (s : WorkspaceTabManager) : Nat :=
  (s.tabs.findIdx? fun t => t.tabId = s.activeTabId).getD 0

/-- `(curr_idx + direction) % len(self.tabs)`; Python's `%` is never negative here. -/
def nextIndex (s : WorkspaceTabManager) (direction : Int) : Nat :=
  ((s.activeIndex + direction) % s.tabs.length).toNat

theorem nextIndex_lt (s : WorkspaceTabManager) (direction : Int) :
    s.nextIndex direction < s.tabs.length := by
  have hpos := s.homeFirst.length_pos
  have hlt := Int.emod_lt_of_pos (s.activeIndex + direction) (Int.natCast_pos.mpr hpos)
  rw [nextIndex]
  omega

def cycleTab (s : WorkspaceTabManager) (direction : Int) : WorkspaceTabManager :=
  if s.tabs.length ≤ 1 then s
  else
    { s with
      activeTabId := tabIdAt s.tabs (s.nextIndex direction) (s.nextIndex_lt direction) }

def jumpToTabIndex (s : WorkspaceTabManager) (index : Int) : WorkspaceTabManager × Bool :=
  if h : 1 ≤ index ∧ index ≤ s.tabs.length then
    ({ s with activeTabId := tabIdAt s.tabs (index - 1).toNat (by omega) }, true)
  else (s, false)

def updateTabBadge (s : WorkspaceTabManager) (tabId : String) (badge : Option String) :
    WorkspaceTabManager × Bool :=
  match s.tabs.findIdx? fun t => t.tabId = tabId with
  | some i =>
      ({ s with
          tabs := s.tabs.modify i fun t => { t with badge }
          homeFirst := s.homeFirst.modify i fun _ ht => ht.setBadge badge }, true)
  | none => (s, false)

/-- `tab.dirty = dirty`, as the screen of the open tab at an index does it. -/
def setDirty (s : WorkspaceTabManager) (i : Nat) (dirty : Bool) : WorkspaceTabManager :=
  { s with
    tabs := s.tabs.modify i fun t => { t with dirty }
    homeFirst := s.homeFirst.modify i fun _ ht => ht.setDirty dirty }

inductive Op
  | openTab (tabId title : String) (kind : TabKind) (singleton closeable : Bool)
      (badge : Option String) (glyph : String)
  | closeTab (tabId : Option String) (force : Bool)
  | reopenLastTab
  | cycleTab (direction : Int)
  | jumpToTabIndex (index : Int)
  | updateTabBadge (tabId : String) (badge : Option String)
  | setDirty (i : Nat) (dirty : Bool)

def step (s : WorkspaceTabManager) : Op → WorkspaceTabManager
  | .openTab tabId title kind singleton closeable badge glyph =>
      (s.openTab tabId title kind singleton closeable badge glyph).1
  | .closeTab tabId force => (s.closeTab tabId force).1
  | .reopenLastTab => s.reopenLastTab.1
  | .cycleTab direction => s.cycleTab direction
  | .jumpToTabIndex index => (s.jumpToTabIndex index).1
  | .updateTabBadge tabId badge => (s.updateTabBadge tabId badge).1
  | .setDirty i dirty => s.setDirty i dirty

/-! ### One of each -/

def soleKinds : List TabKind := [.agents, .network, .inbox, .dispatch]

structure OneEach (tabs : List WorkspaceTab) : Prop where
  distinct : (tabs.map (·.tabId)).Nodup
  sole : ∀ kind ∈ soleKinds, tabs.countP (·.kind = kind) ≤ 1

def Fits (t : WorkspaceTab) (tabs : List WorkspaceTab) : Prop :=
  (∀ u ∈ tabs, u.tabId ≠ t.tabId) ∧ (t.kind ∈ soleKinds → ∀ u ∈ tabs, u.kind ≠ t.kind)

instance (t : WorkspaceTab) (tabs : List WorkspaceTab) : Decidable (Fits t tabs) :=
  inferInstanceAs (Decidable (_ ∧ _))

section

variable {tabs tabs' : List WorkspaceTab} {t : WorkspaceTab}

theorem OneEach.append_iff (h : OneEach tabs) : OneEach (tabs ++ [t]) ↔ Fits t tabs := by
  have hdistinct : ((tabs ++ [t]).map (·.tabId)).Nodup ↔ ∀ u ∈ tabs, u.tabId ≠ t.tabId := by
    rw [List.map_append, List.nodup_append]
    simp [h.distinct]
  have hcount (kind : TabKind) : (tabs ++ [t]).countP (·.kind = kind) =
      tabs.countP (·.kind = kind) + if t.kind = kind then 1 else 0 := by
    simp [List.countP_append, List.countP_singleton]
  constructor
  · intro h'
    refine ⟨hdistinct.mp h'.distinct, fun hkind u hu heq => ?_⟩
    have hle := h'.sole t.kind hkind
    have hpos : 0 < tabs.countP (·.kind = t.kind) :=
      List.countP_pos_iff.mpr ⟨u, hu, by simpa using heq⟩
    rw [hcount, if_pos rfl] at hle
    omega
  · intro hfits
    refine ⟨hdistinct.mpr hfits.1, fun kind hkind => ?_⟩
    rw [hcount]
    split
    · rename_i heq
      subst heq
      have hzero : tabs.countP (·.kind = t.kind) = 0 :=
        List.countP_eq_zero.mpr fun u hu => by simpa using hfits.2 hkind u hu
      omega
    · exact h.sole kind hkind

theorem OneEach.sublist (h : OneEach tabs) (hsub : tabs'.Sublist tabs) : OneEach tabs' :=
  ⟨h.distinct.sublist (hsub.map _), fun kind hkind =>
    Nat.le_trans hsub.countP_le (h.sole kind hkind)⟩

/-- Only the ids and the kinds count. -/
theorem OneEach.of_same (h : OneEach tabs) (hids : tabs'.map (·.tabId) = tabs.map (·.tabId))
    (hkinds : tabs'.map (·.kind) = tabs.map (·.kind)) : OneEach tabs' := by
  refine ⟨hids ▸ h.distinct, fun kind hkind => ?_⟩
  have hcount (l : List WorkspaceTab) : l.countP (·.kind = kind) =
      (l.map (·.kind)).countP fun k => k = kind := by
    rw [List.countP_map]
    rfl
  rw [hcount, hkinds, ← hcount]
  exact h.sole kind hkind

theorem map_modify_of_fixed {α β : Type} {f : α → α} {g : α → β} (hf : ∀ a, g (f a) = g a)
    (l : List α) (i : Nat) : (l.modify i f).map g = l.map g := by
  induction l generalizing i with
  | nil => simp
  | cons a l ih =>
      cases i with
      | zero => simp [hf]
      | succ i => simp [ih]

/-- A tab that is found has the id that was asked for. -/
theorem getTab_some {tabId : String} (h : getTab tabs tabId = some t) :
    t ∈ tabs ∧ t.tabId = tabId :=
  ⟨List.mem_of_find?_eq_some h, by simpa using List.find?_some h⟩

theorem getTab_none {tabId : String} (h : getTab tabs tabId = none) : ∀ u ∈ tabs, u.tabId ≠ tabId :=
  fun u hu => by simpa using List.find?_eq_none.mp h u hu

end

/-! ### What a call does to the open tabs -/

/-- The call closes a tab with this id and does not ask about unsaved changes. -/
def Op.forces (s : WorkspaceTabManager) : Op → String → Bool
  | .closeTab tabId true, id => s.closeTarget tabId = id
  | _, _ => false

inductive Effect (s : WorkspaceTabManager) (op : Op) (tabs' : List WorkspaceTab) : Prop
  | kept (hids : tabs'.map (·.tabId) = s.tabs.map (·.tabId))
      (hkinds : tabs'.map (·.kind) = s.tabs.map (·.kind)) (hop : op ≠ .reopenLastTab)
  | opened (t : WorkspaceTab) (hop : op ≠ .reopenLastTab) (hfits : Fits t s.tabs)
      (htabs : tabs' = s.tabs ++ [t])
  | reopened (t : WorkspaceTab) (hop : op = .reopenLastTab)
      (hlast : s.closedTabsStack.getLast? = some t) (htabs : tabs' = s.tabs ++ [t])
  | stackEmpty (hop : op = .reopenLastTab) (hlast : s.closedTabsStack.getLast? = none)
      (htabs : tabs' = s.tabs)
  | closed (t : WorkspaceTab) (hop : op ≠ .reopenLastTab)
      (hdirty : t.dirty = true → op.forces s t.tabId = true) (htabs : tabs' = s.tabs.erase t)

variable {s : WorkspaceTabManager}

theorem Effect.of_tabs_eq {op : Op} {tabs' : List WorkspaceTab} (htabs : tabs' = s.tabs)
    (hop : op ≠ .reopenLastTab) : Effect s op tabs' :=
  .kept (by rw [htabs]) (by rw [htabs]) hop

theorem Effect.of_modify {op : Op} {i : Nat} {f : WorkspaceTab → WorkspaceTab}
    (hid : ∀ t, (f t).tabId = t.tabId) (hkind : ∀ t, (f t).kind = t.kind)
    (hop : op ≠ .reopenLastTab) : Effect s op (s.tabs.modify i f) :=
  .kept (map_modify_of_fixed hid _ _) (map_modify_of_fixed hkind _ _) hop

/-- `open_tab` opens a tab only after it looked for one that this tab repeats. -/
theorem openTab_effect (tabId title : String) (kind : TabKind) (singleton closeable : Bool)
    (badge : Option String) (glyph : String) :
    Effect s (.openTab tabId title kind singleton closeable badge glyph)
      (s.openTab tabId title kind singleton closeable badge glyph).1.tabs := by
  have hop : Op.openTab tabId title kind singleton closeable badge glyph ≠ .reopenLastTab := by
    simp
  cases hget : getTab s.tabs tabId with
  | some existing => exact .of_tabs_eq (by simp [openTab, hget]) hop
  | none =>
      cases hsingle : if singleton || kind ∈ singletonKinds then s.tabs.find? (·.kind = kind)
          else none with
      | some t => exact .of_tabs_eq (by simp only [openTab, hget, hsingle]) hop
      | none =>
          cases hdraft : if kind = .dispatch then s.tabs.find? (·.kind = .dispatch) else none with
          | some t =>
              refine .of_tabs_eq ?_ hop
              simp only [openTab, hget, hsingle, hdraft]
              split <;> rfl
          | none =>
              refine .opened _ hop ⟨getTab_none hget, fun hkind u hu heq => ?_⟩
                (by simp only [openTab, hget, hsingle, hdraft]; rfl)
              -- an open tab of the kind would have been found by one of the two searches
              simp only [soleKinds, List.mem_cons, List.not_mem_nil, or_false] at hkind
              by_cases hdispatch : kind = .dispatch
              · rw [if_pos hdispatch, List.find?_eq_none] at hdraft
                exact hdraft u hu (by simpa [hdispatch] using heq)
              · have hkinds : kind ∈ singletonKinds := by
                  simp only [singletonKinds, List.mem_cons, List.not_mem_nil, or_false]
                  tauto
                rw [if_pos (by simp [hkinds]), List.find?_eq_none] at hsingle
                exact hsingle u hu (by simpa using heq)

/-- `close_tab` takes out a tab without unsaved changes, or the one it is forced to. -/
theorem closeTab_effect (tabId : Option String) (force : Bool) :
    Effect s (.closeTab tabId force) (s.closeTab tabId force).1.tabs := by
  have hop : Op.closeTab tabId force ≠ .reopenLastTab := by simp
  unfold closeTab
  split
  · exact .of_tabs_eq rfl hop
  · rename_i target htarget
    split
    · exact .of_tabs_eq rfl hop
    · split
      · exact .of_tabs_eq rfl hop
      · rename_i hforce
        refine .closed target hop (fun hdirty => ?_) rfl
        have hid := (getTab_some htarget).2
        simp only [hdirty, Bool.true_and, Bool.not_eq_true', Bool.not_eq_false] at hforce
        simp [Op.forces, hforce, hid]

/-- Every call, by what it does to the open tabs. -/
theorem effect (s : WorkspaceTabManager) (op : Op) : Effect s op (step s op).tabs := by
  cases op with
  | openTab tabId title kind singleton closeable badge glyph => exact openTab_effect ..
  | closeTab tabId force => exact closeTab_effect ..
  | reopenLastTab =>
      cases hlast : s.closedTabsStack.getLast? with
      | none => exact .stackEmpty rfl hlast (by simp [step, reopenLastTab, hlast])
      | some t => exact .reopened t rfl hlast (by simp [step, reopenLastTab, hlast])
  | cycleTab direction =>
      refine .of_tabs_eq ?_ (by simp)
      simp only [step, cycleTab]
      split <;> rfl
  | jumpToTabIndex index =>
      refine .of_tabs_eq ?_ (by simp)
      simp only [step, jumpToTabIndex]
      split <;> rfl
  | updateTabBadge tabId badge =>
      simp only [step, updateTabBadge]
      split
      · exact .of_modify (by simp) (by simp) (by simp)
      · exact .of_tabs_eq rfl (by simp)
  | setDirty i dirty =>
      simp only [step, WorkspaceTabManager.setDirty]
      exact .of_modify (by simp) (by simp) (by simp)

/-- Where the call reopens a tab, the tab repeats no open one. -/
def ReopenFits (s : WorkspaceTabManager) (op : Op) : Prop :=
  op = .reopenLastTab → ∀ t ∈ s.closedTabsStack.getLast?, Fits t s.tabs

theorem oneEach_step_iff (h : OneEach s.tabs) (op : Op) :
    OneEach (step s op).tabs ↔ ReopenFits s op := by
  cases effect s op with
  | kept hids hkinds hop =>
      exact iff_of_true (h.of_same hids hkinds) fun hreopen => absurd hreopen hop
  | opened t hop hfits htabs =>
      rw [htabs]
      exact iff_of_true (h.append_iff.mpr hfits) fun hreopen => absurd hreopen hop
  | reopened t hop hlast htabs =>
      rw [htabs, h.append_iff]
      simp [ReopenFits, hop, hlast]
  | stackEmpty hop hlast htabs =>
      rw [htabs]
      exact iff_of_true h fun _ => by simp [hlast]
  | closed t hop hdirty htabs =>
      rw [htabs]
      exact iff_of_true (h.sublist List.erase_sublist) fun hreopen => absurd hreopen hop

/-- The ids of the tabs with unsaved changes that the call is not forced to close. -/
def unsaved (s : WorkspaceTabManager) (op : Op) : List String :=
  (s.tabs.filter fun t => t.dirty && !op.forces s t.tabId).map (·.tabId)

/-- No tab with unsaved changes leaves the list, but by a forced close. -/
def UnsavedStay (s : WorkspaceTabManager) (op : Op) : Prop :=
  (unsaved s op).Sublist ((step s op).tabs.map (·.tabId))

theorem unsavedStay (s : WorkspaceTabManager) (op : Op) : UnsavedStay s op := by
  have hsub : (unsaved s op).Sublist (s.tabs.map (·.tabId)) := List.filter_sublist.map _
  rw [UnsavedStay]
  cases effect s op with
  | kept hids hkinds hop => rwa [hids]
  | opened t hop hfits htabs =>
      rw [htabs, List.map_append]
      exact hsub.trans (List.sublist_append_left _ _)
  | reopened t hop hlast htabs =>
      rw [htabs, List.map_append]
      exact hsub.trans (List.sublist_append_left _ _)
  | stackEmpty hop hlast htabs => rwa [htabs]
  | closed t hop hdirty htabs =>
      rw [htabs, unsaved]
      apply List.Sublist.map
      -- the erased tab is not among those that are to stay
      have hnot : t ∉ s.tabs.filter fun u => u.dirty && !op.forces s u.tabId := by
        simp only [List.mem_filter, Bool.and_eq_true, Bool.not_eq_true']
        rintro ⟨-, ht, hforces⟩
        rw [hdirty ht] at hforces
        cases hforces
      have herase := List.filter_sublist (l := s.tabs)
        (p := fun u => u.dirty && !op.forces s u.tabId)
      rw [← List.erase_of_not_mem hnot]
      exact herase.erase t

/-! ### The active tab -/

def ActiveOpen (s : WorkspaceTabManager) : Prop := s.activeTabId ∈ s.tabs.map (·.tabId)

theorem tabIdAt_mem {tabs : List WorkspaceTab} {i : Nat} (h : i < tabs.length) :
    tabIdAt tabs i h ∈ tabs.map (·.tabId) :=
  List.mem_map_of_mem (List.get_mem _ _)

theorem active_of_modify (h : ActiveOpen s) {i : Nat} {f : WorkspaceTab → WorkspaceTab}
    (hid : ∀ t, (f t).tabId = t.tabId) : s.activeTabId ∈ (s.tabs.modify i f).map (·.tabId) := by
  rw [map_modify_of_fixed hid]
  exact h

theorem openTab_active (h : ActiveOpen s) (tabId title : String) (kind : TabKind)
    (singleton closeable : Bool) (badge : Option String) (glyph : String) :
    ActiveOpen (s.openTab tabId title kind singleton closeable badge glyph).1 := by
  have hfound {p : WorkspaceTab → Bool} {t : WorkspaceTab} {c : Prop} [Decidable c]
      (hfind : (if c then s.tabs.find? p else none) = some t) :
      t.tabId ∈ s.tabs.map (·.tabId) := by
    split at hfind
    · exact List.mem_map_of_mem (List.mem_of_find?_eq_some hfind)
    · cases hfind
  unfold openTab
  split
  · rename_i existing hget
    exact List.mem_map_of_mem (getTab_some hget).1
  · split
    · rename_i t hsingle
      exact hfound hsingle
    · split
      · rename_i t hdraft
        split
        · exact h
        · exact hfound hdraft
      · simp [ActiveOpen]

theorem closeTab_active (h : ActiveOpen s) (tabId : Option String) (force : Bool) :
    ActiveOpen (s.closeTab tabId force).1 := by
  unfold closeTab
  split
  · exact h
  · rename_i target htarget
    split
    · exact h
    · split
      · exact h
      · by_cases hactive : s.activeTabId = s.closeTarget tabId
        · simp only [ActiveOpen, if_pos hactive]
          exact tabIdAt_mem _
        · simp only [ActiveOpen, if_neg hactive]
          obtain ⟨t, ht, hid⟩ := List.mem_map.mp h
          have hne : t ≠ target := by
            rintro rfl
            exact hactive (hid ▸ (getTab_some htarget).2)
          rw [← hid]
          exact List.mem_map_of_mem ((List.mem_erase_of_ne hne).mpr ht)

theorem step_active (h : ActiveOpen s) (op : Op) : ActiveOpen (step s op) := by
  cases op with
  | openTab tabId title kind singleton closeable badge glyph => exact openTab_active h ..
  | closeTab tabId force => exact closeTab_active h ..
  | reopenLastTab =>
      simp only [step, reopenLastTab]
      split
      · exact h
      · simp [ActiveOpen]
  | cycleTab direction =>
      simp only [step, cycleTab]
      split
      · exact h
      · exact tabIdAt_mem _
  | jumpToTabIndex index =>
      simp only [step, jumpToTabIndex]
      split
      · exact tabIdAt_mem _
      · exact h
  | updateTabBadge tabId badge =>
      simp only [step, updateTabBadge]
      split
      · exact active_of_modify h (by simp)
      · exact h
  | setDirty i dirty => exact active_of_modify h (by simp)

/-! ### Runs -/

/-- What is to hold of the open tabs in every state. -/
structure TabInvariant (s : WorkspaceTabManager) : Prop where
  oneEach : OneEach s.tabs
  home : ∃ home, s.tabs[0]? = some home ∧ home.IsHome
  active : ActiveOpen s

theorem home_at_zero (s : WorkspaceTabManager) : ∃ home, s.tabs[0]? = some home ∧ home.IsHome := by
  obtain ⟨home, rest, htabs, hhome⟩ := s.homeFirst
  exact ⟨home, by rw [htabs]; rfl, hhome⟩

theorem fresh_invariant : TabInvariant fresh where
  oneEach := ⟨by decide, by decide⟩
  home := home_at_zero fresh
  active := by simp [ActiveOpen, fresh, homeTab]

theorem invariant_step_iff (h : TabInvariant s) (op : Op) :
    TabInvariant (step s op) ↔ ReopenFits s op := by
  rw [← oneEach_step_iff h.oneEach op]
  exact ⟨fun h' => h'.oneEach, fun h' => ⟨h', home_at_zero _, step_active h.active op⟩⟩

/-- Over every run the tabs keep their invariant, and none with unsaved changes is lost,
exactly when every tab that is reopened repeats no open one. -/
theorem tabs_sole_iff_reopened_fit (ops : List Op) :
    ((∀ calls, calls <+: ops → TabInvariant (run step fresh calls)) ∧
      Along step UnsavedStay fresh ops) ↔ Along step ReopenFits fresh ops := by
  rw [and_iff_left (along_of_forall unsavedStay fresh ops)]
  exact forall_prefix_iff_along (I := TabInvariant) (fun _ op h => invariant_step_iff h op)
    fresh_invariant

def agentsTwice : List Op :=
  [.openTab "agents" "Agents" .agents true true none "○", .closeTab none false,
    .openTab "agents" "Agents" .agents true true none "○", .reopenLastTab]

/-- Two Agents tabs with one id are open then. -/
theorem reopened_tab_repeats : ¬((∀ calls, calls <+: agentsTwice →
    TabInvariant (run step fresh calls)) ∧ Along step UnsavedStay fresh agentsTwice) := by
  intro h
  have hdistinct := (h.1 agentsTwice (List.prefix_refl _)).oneEach.distinct
  revert hdistinct
  decide

end WorkspaceTabManager

end Kin.Tui
