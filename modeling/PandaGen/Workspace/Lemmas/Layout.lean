import PandaGen.Workspace.Layout
import Mathlib.Data.List.Nodup

/-!
# Well-formed layouts

The indexes of a layout are valid, and every tab is in one tile only.
-/

namespace PandaGen.Workspace

/-! ## Tiles -/

namespace WindowTileState

variable {t t' : WindowTileState} {c : ComponentId}

/-- The active tab of an empty tile is 0. -/
def Valid (t : WindowTileState) : Prop := t.activeTab < t.tabs.length ∨ t.tabs = [] ∧ t.activeTab = 0

theorem valid_new : new.Valid := .inr ⟨rfl, rfl⟩

theorem valid_withTabs (tabs) : (withTabs tabs).Valid := by
  cases tabs with
  | nil => exact .inr ⟨rfl, rfl⟩
  | cons c tabs => exact .inl (by simp [withTabs])

theorem setActiveComponent_isSome : (t.setActiveComponent c).isSome = true ↔ c ∈ t.tabs := by
  simp [setActiveComponent]

theorem setActiveComponent_tabs (h : t.setActiveComponent c = some t') : t'.tabs = t.tabs := by
  obtain ⟨position, -, rfl⟩ := Option.map_eq_some_iff.mp h
  rfl

theorem setActiveComponent_active (h : t.setActiveComponent c = some t') : t'.activeComponent = some c := by
  obtain ⟨position, hposition, rfl⟩ := Option.map_eq_some_iff.mp h
  obtain ⟨hlt, hc, -⟩ := List.idxOf?_eq_some_iff.mp hposition
  exact List.getElem?_eq_some_iff.mpr ⟨hlt, hc⟩

theorem valid_of_active (h : t.activeComponent = some c) : t.Valid := by
  obtain ⟨hlt, -⟩ := getElem?_eq_some_iff.mp h
  exact .inl hlt

theorem Valid.active_of_ne_nil (h : t.Valid) (htabs : t.tabs ≠ []) : ∃ c, t.activeComponent = some c := by
  rcases h with hlt | ⟨hnil, -⟩
  · exact ⟨_, List.getElem?_eq_getElem hlt⟩
  · exact absurd hnil htabs

theorem addTab_active (t : WindowTileState) (c) : (t.addTab c).activeComponent = some c := by
  unfold addTab
  split
  · rename_i position hposition
    obtain ⟨hlt, hc, -⟩ := List.idxOf?_eq_some_iff.mp hposition
    exact List.getElem?_eq_some_iff.mpr ⟨hlt, hc⟩
  · simp [activeComponent]

theorem removeComponent_of_not_mem (h : c ∉ t.tabs) : t.removeComponent c = t := by
  simp [removeComponent, List.idxOf?_eq_none_iff.mpr h]

theorem removeComponent_tabs : (t.removeComponent c).tabs = t.tabs.erase c := by
  by_cases hc : c ∈ t.tabs
  · obtain ⟨position, hposition⟩ := Option.isSome_iff_exists.mp (List.isSome_idxOf?.mpr hc)
    have hidx : t.tabs.idxOf c = position := (List.findIdx?_eq_some_iff_findIdx_eq.mp hposition).2
    rw [← List.eraseIdx_idxOf_eq_erase, hidx, removeComponent, hposition]
    dsimp only
    split
    · rfl
    · split
      · rfl
      · split <;> rfl
  · rw [removeComponent_of_not_mem hc, List.erase_of_not_mem hc]

theorem Valid.removeComponent (h : t.Valid) : (t.removeComponent c).Valid := by
  unfold WindowTileState.removeComponent
  split
  · exact h
  · rename_i position hposition
    dsimp only
    split
    · exact .inr ⟨‹_›, rfl⟩
    · rename_i hne
      have hpos := List.length_pos_iff.mpr hne
      left
      split
      · exact Nat.sub_lt hpos Nat.one_pos
      · split
        · dsimp only
          omega
        · dsimp only
          omega

theorem removeComponent_active {a} (h : t.activeComponent = some a) (hne : a ≠ c) :
    (t.removeComponent c).activeComponent = some a := by
  obtain ⟨hactive, ha⟩ := List.getElem?_eq_some_iff.mp h
  unfold WindowTileState.removeComponent
  split
  · exact h
  · rename_i position hposition
    obtain ⟨hlt, hc, -⟩ := List.idxOf?_eq_some_iff.mp hposition
    have hother : position ≠ t.activeTab := by
      rintro rfl
      exact hne (ha.symm.trans hc)
    have hlen : (t.tabs.eraseIdx position).length = t.tabs.length - 1 := List.length_eraseIdx_of_lt hlt
    unfold activeComponent at h ⊢
    dsimp only
    split
    · rename_i hnil
      rw [hnil] at hlen
      simp at hlen
      omega
    · split
      · dsimp only
        rw [List.getElem?_eraseIdx, hlen, if_neg (by omega)]
        rw [show t.tabs.length - 1 - 1 + 1 = t.activeTab by omega]
        exact h
      · split
        · dsimp only
          rw [List.getElem?_eraseIdx, if_neg (by omega)]
          rw [show t.activeTab - 1 + 1 = t.activeTab by omega]
          exact h
        · dsimp only
          rw [List.getElem?_eraseIdx, if_pos (by omega)]
          exact h

theorem focusNextTab_tabs : t.focusNextTab.tabs = t.tabs := by
  unfold focusNextTab
  split <;> rfl

theorem focusPreviousTab_tabs : t.focusPreviousTab.tabs = t.tabs := by
  unfold focusPreviousTab
  split <;> rfl

theorem Valid.focusNextTab (h : t.Valid) : t.focusNextTab.Valid := by
  unfold WindowTileState.focusNextTab
  split
  · exact h
  · rename_i hne
    exact .inl (Nat.mod_lt _ (List.length_pos_iff.mpr hne))

theorem Valid.focusPreviousTab (h : t.Valid) : t.focusPreviousTab.Valid := by
  unfold WindowTileState.focusPreviousTab
  split
  · exact h
  · rename_i hne
    obtain hlt | ⟨hnil, -⟩ := h
    · left
      dsimp only
      split <;> omega
    · exact absurd hnil hne

theorem takeActive_tabs :
    ((WindowLayoutState.takeActive t).1 ++ (WindowLayoutState.takeActive t).2.tabs).Perm t.tabs := by
  unfold WindowLayoutState.takeActive
  split
  · rename_i hlen
    have hlt : min t.activeTab (t.tabs.length - 1) < t.tabs.length := by omega
    dsimp only
    rw [List.getElem?_eq_getElem hlt]
    exact List.getElem_cons_eraseIdx_perm hlt
  · exact .refl _

theorem Valid.takeActive (h : t.Valid) : (WindowLayoutState.takeActive t).2.Valid := by
  unfold WindowLayoutState.takeActive
  split
  · rename_i hlen
    have hlt : min t.activeTab (t.tabs.length - 1) < t.tabs.length := by omega
    have herase := List.length_eraseIdx_of_lt hlt
    left
    dsimp only
    split <;> omega
  · exact h

end WindowTileState

/-! ## Layouts -/

namespace WindowLayoutState

open WindowTileState Option List Nat

variable {l : WindowLayoutState} {c : ComponentId}

def components (l : WindowLayoutState) : List ComponentId := l.tiles.flatMap (·.tabs)

structure WellFormed (l : WindowLayoutState) : Prop where
  focused : l.focusedTile < l.tiles.length
  active : ∀ t ∈ l.tiles, t.Valid
  axis : l.tiles.length = 1 → l.splitAxis = none
  nodup : l.components.Nodup

theorem wellFormed_new : new.WellFormed where
  focused := by simp [new]
  active := by simp [new, valid_new]
  axis _ := rfl
  nodup := nodup_nil

theorem normalize_components : l.normalize.components = l.components := by
  unfold normalize components
  split
  · rename_i hnil
    simp [hnil, WindowTileState.new]
  · rfl

theorem wellFormed_normalize (hactive : ∀ t ∈ l.tiles, t.Valid) (hnodup : l.components.Nodup) :
    l.normalize.WellFormed where
  focused := by
    have hpos : 0 < (if l.tiles = [] then [WindowTileState.new] else l.tiles).length := by
      split
      · exact one_pos
      · exact length_pos_iff.mpr ‹_›
    unfold normalize
    dsimp only
    generalize (if l.tiles = [] then [WindowTileState.new] else l.tiles) = tiles at hpos ⊢
    split <;> omega
  active := by
    unfold normalize
    dsimp only
    split
    · simp [valid_new]
    · exact hactive
  axis h := by
    unfold normalize at h ⊢
    exact if_pos h.le
  nodup := by rwa [normalize_components]

theorem normalize_of_lt (h : l.focusedTile < l.tiles.length) :
    l.normalize.tiles = l.tiles ∧ l.normalize.focusedTile = l.focusedTile := by
  have hne : l.tiles ≠ [] := ne_nil_of_length_pos (zero_lt_of_lt h)
  simp [normalize, hne, not_le.mpr h]

section

variable (h : l.WellFormed)
include h

theorem WellFormed.normalize_eq : l.normalize = l := by
  have hne : l.tiles ≠ [] := ne_nil_of_length_pos (zero_lt_of_lt h.focused)
  have hfocused := h.focused
  have haxis : (if l.tiles.length ≤ 1 then none else l.splitAxis) = l.splitAxis := by
    split
    · exact (h.axis (by omega)).symm
    · rfl
  simp [normalize, hne, haxis, not_le.mpr hfocused]

omit h in
theorem mem_components_of_active (h : l.focusedActiveComponent = some c) : c ∈ l.components := by
  obtain ⟨t, ht, hc⟩ := bind_eq_some_iff.mp h
  exact mem_flatMap.mpr ⟨t, mem_of_getElem? ht, mem_of_getElem? hc⟩

/-! ## Operations -/

theorem WellFormed.replace {pre post t} (htiles : l.tiles = pre ++ t :: post)
    (ts new focusedTile splitAxis) (hvalid : ∀ t' ∈ ts, t'.Valid) (htabs : (ts.flatMap (·.tabs)).Perm (new ++ t.tabs))
    (hnew : (new ++ l.components).Nodup) (hfocused : focusedTile < (pre ++ ts ++ post).length)
    (haxis : (pre ++ ts ++ post).length = 1 → splitAxis = none) :
    WellFormed ⟨splitAxis, focusedTile, pre ++ ts ++ post⟩ ∧
      (components ⟨splitAxis, focusedTile, pre ++ ts ++ post⟩).Perm (new ++ l.components) := by
  have hperm : (components ⟨splitAxis, focusedTile, pre ++ ts ++ post⟩).Perm (new ++ l.components) := by
    simp only [components, htiles, flatMap_append, flatMap_cons]
    have hcomm : (pre.flatMap (·.tabs) ++ new).Perm (new ++ pre.flatMap (·.tabs)) := perm_append_comm
    refine ((htabs.append_left _).append_right _).trans ?_
    simpa using hcomm.append_right (t.tabs ++ post.flatMap (·.tabs))
  refine ⟨⟨hfocused, ?_, haxis, hperm.symm.nodup hnew⟩, hperm⟩
  intro t' ht'
  simp only [mem_append] at ht'
  rcases ht' with (ht' | ht') | ht'
  · exact h.active t' (by simp [htiles, ht'])
  · exact hvalid t' ht'
  · exact h.active t' (by simp [htiles, ht'])

theorem WellFormed.modify {f} (new : List ComponentId) (hvalid : ∀ t, t.Valid → (f t).Valid)
    {i focusedTile} (hi : i < l.tiles.length) (htabs : ∀ t ∈ l.tiles, (f t).tabs.Perm (new ++ t.tabs))
    (hnew : (new ++ l.components).Nodup) (hfocused : focusedTile < l.tiles.length) :
    WellFormed { l with tiles := l.tiles.modify i f, focusedTile } ∧
      (components { l with tiles := l.tiles.modify i f, focusedTile }).Perm (new ++ l.components) := by
  obtain ⟨pre, t, post, htiles, -, hmodify⟩ := exists_of_modify f hi
  have ht : t ∈ l.tiles := by simp [htiles]
  have hlen : (pre ++ [f t] ++ post).length = l.tiles.length := by simp [htiles]
  rw [hmodify, show pre ++ f t :: post = pre ++ [f t] ++ post by simp]
  exact h.replace htiles [f t] new focusedTile l.splitAxis (by simpa using hvalid t (h.active t ht))
    (by simpa using htabs t ht) hnew
    (hlen ▸ hfocused) (hlen ▸ h.axis)

theorem WellFormed.onFocused {f} (hvalid : ∀ t, t.Valid → (f t).Valid) (htabs : ∀ t, (f t).tabs = t.tabs) :
    (l.onFocused f).WellFormed ∧ (l.onFocused f).components.Perm l.components := by
  rw [WindowLayoutState.onFocused, h.normalize_eq]
  exact h.modify [] hvalid h.focused (fun t _ => .of_eq (htabs t)) h.nodup h.focused

theorem WellFormed.focusNextTab : l.focusNextTab.WellFormed ∧ l.focusNextTab.components.Perm l.components :=
  h.onFocused (fun _ => Valid.focusNextTab) fun _ => focusNextTab_tabs

theorem WellFormed.focusPreviousTab : l.focusPreviousTab.WellFormed ∧ l.focusPreviousTab.components.Perm l.components :=
  h.onFocused (fun _ => Valid.focusPreviousTab) fun _ => focusPreviousTab_tabs

omit h in
theorem setFocusedComponent_isSome : (l.setFocusedComponent c).isSome = true ↔ c ∈ l.components := by
  simp [setFocusedComponent, components, setActiveComponent_isSome]

theorem WellFormed.setFocusedComponent {l'} (hset : l.setFocusedComponent c = some l') :
    l'.WellFormed ∧ l'.components.Perm l.components := by
  obtain ⟨index, hindex, rfl⟩ := map_eq_some_iff.mp hset
  obtain ⟨hlt, -⟩ := findIdx?_eq_some_iff_getElem.mp hindex
  refine h.modify [] ?_ hlt ?_ h.nodup hlt
  · intro t ht
    cases hactive : t.setActiveComponent c with
    | none => exact ht
    | some t' => exact valid_of_active (setActiveComponent_active hactive)
  · intro t _
    cases hactive : t.setActiveComponent c with
    | none => exact .refl _
    | some t' => exact .of_eq (setActiveComponent_tabs hactive)

omit h in
theorem setFocusedComponent_active {l'} (hset : l.setFocusedComponent c = some l') :
    l'.focusedActiveComponent = some c := by
  obtain ⟨index, hindex, rfl⟩ := map_eq_some_iff.mp hset
  obtain ⟨hlt, hsome, -⟩ := findIdx?_eq_some_iff_getElem.mp hindex
  obtain ⟨t, ht⟩ := isSome_iff_exists.mp hsome
  simp [focusedActiveComponent, hlt, ht, setActiveComponent_active ht]

theorem addComponentTab_of_not_mem (hc : c ∉ l.components) :
    (l.addComponentTab c).WellFormed ∧ (l.addComponentTab c).components.Perm (c :: l.components) := by
  have hnone : l.setFocusedComponent c = none := by
    rw [← not_isSome_iff_eq_none, setFocusedComponent_isSome]
    exact hc
  have hadd : ∀ t ∈ l.tiles, t.addTab c = ⟨t.tabs ++ [c], t.tabs.length⟩ := by
    intro t ht
    have hnot : c ∉ t.tabs := fun hmem => hc (mem_flatMap.mpr ⟨t, ht, hmem⟩)
    simp [addTab, List.idxOf?_eq_none_iff.mpr hnot]
  simp only [addComponentTab, hnone, h.normalize_eq]
  refine h.modify [c] ?_ h.focused ?_ (nodup_cons.mpr ⟨hc, h.nodup⟩) h.focused
  · exact fun t _ => valid_of_active (addTab_active t c)
  · intro t ht
    rw [hadd t ht]
    exact perm_append_singleton c t.tabs

omit h in
theorem flatMap_filter_tabs (tiles : List WindowTileState) :
    (tiles.filter (·.tabs ≠ [])).flatMap (·.tabs) = tiles.flatMap (·.tabs) := by
  induction tiles with
  | nil => rfl
  | cons t tiles ih =>
    by_cases ht : t.tabs = [] <;> simpa [ht] using ih

theorem WellFormed.removeComponent (c) :
    (l.removeComponent c).WellFormed ∧ (l.removeComponent c).components = l.components.filter (· ≠ c) := by
  let tiles := l.tiles.map (·.removeComponent c)
  let kept := if tiles.length > 1 then tiles.filter (·.tabs ≠ []) else tiles
  have hkept : ∀ t ∈ kept, t ∈ tiles := by
    intro t ht
    simp only [kept] at ht
    split at ht
    · exact mem_of_mem_filter ht
    · exact ht
  have htabs : kept.flatMap (·.tabs) = l.components.filter (· ≠ c) := by
    have hall : kept.flatMap (·.tabs) = tiles.flatMap (·.tabs) := by
      simp only [kept]
      split
      · exact flatMap_filter_tabs tiles
      · rfl
    have hnodup := (nodup_flatMap.mp h.nodup).1
    rw [hall, flatMap_map, components, filter_flatMap]
    refine flatMap_congr fun t ht => ?_
    rw [removeComponent_tabs, (hnodup t ht).erase_eq_filter]
    exact filter_congr fun _ _ => by rw [Bool.eq_iff_iff]; simp
  have hvalid : ∀ t ∈ kept, t.Valid := by
    intro t ht
    obtain ⟨t0, ht0, rfl⟩ := mem_map.mp (hkept t ht)
    exact (h.active t0 ht0).removeComponent
  have hnodup : (kept.flatMap (·.tabs)).Nodup := htabs ▸ h.nodup.filter _
  exact ⟨wellFormed_normalize hvalid hnodup, normalize_components.trans htabs⟩

omit h in
theorem getElem?_filter_of_take {α : Type} {p} {xs : List α} {i : Nat} (h : ∀ x ∈ xs.take (i + 1), p x) :
    i < xs.length → (xs.filter p)[i]? = xs[i]? := by
  intro hi
  have hlen : i < (xs.take (i + 1)).length := by
    rw [length_take]
    omega
  have hkept : xs.filter p = xs.take (i + 1) ++ (xs.drop (i + 1)).filter p := by
    conv_lhs => rw [← take_append_drop (i + 1) xs]
    rw [filter_append, filter_eq_self.mpr h]
  rw [hkept, getElem?_append_left hlen, getElem?_take_of_lt (lt_succ_self i)]

def KeepsTiles (l : WindowLayoutState) (c : ComponentId) : Prop :=
  ∀ t ∈ l.tiles.take (l.focusedTile + 1), (t.removeComponent c).tabs ≠ []

theorem WellFormed.active_of_keepsTiles (hkeeps : l.KeepsTiles c) : ∃ a, l.focusedActiveComponent = some a := by
  have hfocused := h.focused
  have ht := getElem?_eq_getElem hfocused
  have hmem : l.tiles[l.focusedTile] ∈ l.tiles.take (l.focusedTile + 1) :=
    mem_take_iff_getElem.mpr ⟨l.focusedTile, by omega, rfl⟩
  have htabs := hkeeps _ hmem
  rw [WindowTileState.removeComponent_tabs] at htabs
  obtain ⟨a, ha⟩ := (h.active _ (mem_of_getElem? ht)).active_of_ne_nil fun hnil => htabs (by rw [hnil]; rfl)
  exact ⟨a, bind_eq_some_iff.mpr ⟨_, ht, ha⟩⟩

instance (l : WindowLayoutState) (c : ComponentId) : Decidable (l.KeepsTiles c) :=
  inferInstanceAs (Decidable (∀ t ∈ l.tiles.take (l.focusedTile + 1), (t.removeComponent c).tabs ≠ []))

/-- Where no tile before the focused one vanishes, another active tab stays the active one. -/
theorem WellFormed.removeComponent_active {a} (hkeeps : l.KeepsTiles c)
    (hactive : l.focusedActiveComponent = some a) (hne : a ≠ c) :
    (l.removeComponent c).focusedActiveComponent = some a := by
  let tiles := l.tiles.map (·.removeComponent c)
  have hlen : tiles.length = l.tiles.length := by simp [tiles]
  have hkept : (if tiles.length > 1 then tiles.filter (·.tabs ≠ []) else tiles)[l.focusedTile]? =
      tiles[l.focusedTile]? := by
    split
    · refine getElem?_filter_of_take (fun t ht => ?_) (hlen ▸ h.focused)
      rw [← List.map_take] at ht
      obtain ⟨t0, ht0, rfl⟩ := List.mem_map.mp ht
      simpa using hkeeps t0 ht0
    · rfl
  obtain ⟨t, ht, ha⟩ := bind_eq_some_iff.mp hactive
  have htile : tiles[l.focusedTile]? = some (t.removeComponent c) := by simp [tiles, ht]
  rw [htile] at hkept
  obtain ⟨hlt, -⟩ := List.getElem?_eq_some_iff.mp hkept
  have hnormal : (l.removeComponent c).tiles[(l.removeComponent c).focusedTile]? = some (t.removeComponent c) := by
    obtain ⟨htiles, hfocused⟩ := normalize_of_lt (l := { l with
      tiles := if tiles.length > 1 then tiles.filter (·.tabs ≠ []) else tiles }) hlt
    rw [WindowLayoutState.removeComponent, htiles, hfocused]
    exact hkept
  rw [focusedActiveComponent, hnormal, bind_some]
  exact WindowTileState.removeComponent_active ha hne

omit h in
theorem insertIdx_append_cons (pre post : List WindowTileState) (t t') :
    (pre ++ t :: post).insertIdx (pre.length + 1) t' = pre ++ [t, t'] ++ post := by
  induction pre with
  | nil => rfl
  | cons _ pre ih => simpa using ih

theorem WellFormed.splitFocusedTile (axis) :
    (l.splitFocusedTile axis).WellFormed ∧ (l.splitFocusedTile axis).components.Perm l.components := by
  obtain ⟨pre, t, post, htiles, hpre, hmodify⟩ := exists_of_modify (fun tile => (takeActive tile).2) h.focused
  have ht : t ∈ l.tiles := by simp [htiles]
  have hsource : l.tiles[l.focusedTile]? = some t := by simp [htiles, ← hpre]
  have hsplit : l.splitFocusedTile axis = normalize ⟨some axis, pre.length + 1,
      pre ++ [(takeActive t).2, .withTabs (takeActive t).1] ++ post⟩ := by
    simp only [WindowLayoutState.splitFocusedTile, h.normalize_eq, hsource, hmodify, map_some, getD_some]
    rw [← hpre, insertIdx_append_cons]
  have hreplaced := h.replace htiles [(takeActive t).2, .withTabs (takeActive t).1] [] (pre.length + 1) (some axis)
    (by simpa using ⟨(h.active t ht).takeActive, valid_withTabs _⟩)
    (by simpa [withTabs] using perm_append_comm.trans takeActive_tabs) h.nodup (by simp) (by simp; omega)
  rw [hsplit, hreplaced.1.normalize_eq]
  exact hreplaced

end

end WindowLayoutState

end PandaGen.Workspace
