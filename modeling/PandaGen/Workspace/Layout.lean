import PandaGen.Core.Uuid

/-!
# The window layout

The tiles and tabs of `services_workspace_manager/src/lib.rs`.
-/

namespace PandaGen.Workspace

inductive SplitAxis where
  | horizontal
  | vertical

/-! ## Tiles -/

structure WindowTileState where
  tabs : List ComponentId
  activeTab : Nat

namespace WindowTileState

def new : WindowTileState := ⟨[], 0⟩

def withTabs (tabs : List ComponentId) : WindowTileState := ⟨tabs, tabs.length - 1⟩

variable (self : WindowTileState)

def activeComponent : Option ComponentId := self.tabs[self.activeTab]?

def addTab (componentId : ComponentId) : WindowTileState :=
  match self.tabs.idxOf? componentId with
  | some position => { self with activeTab := position }
  | none => ⟨self.tabs ++ [componentId], self.tabs.length⟩

def setActiveComponent (componentId : ComponentId) : Option WindowTileState :=
  (self.tabs.idxOf? componentId).map fun position => { self with activeTab := position }

def removeComponent (componentId : ComponentId) : WindowTileState :=
  match self.tabs.idxOf? componentId with
  | none => self
  | some position =>
    let tabs := self.tabs.eraseIdx position
    if tabs = [] then ⟨tabs, 0⟩
    else if self.activeTab ≥ tabs.length then ⟨tabs, tabs.length - 1⟩
    else if position ≤ self.activeTab ∧ self.activeTab > 0 then ⟨tabs, self.activeTab - 1⟩
    else ⟨tabs, self.activeTab⟩

def focusNextTab : WindowTileState :=
  if self.tabs = [] then self else { self with activeTab := (self.activeTab + 1) % self.tabs.length }

def focusPreviousTab : WindowTileState :=
  if self.tabs = [] then self
  else { self with activeTab := if self.activeTab = 0 then self.tabs.length - 1 else self.activeTab - 1 }

end WindowTileState

/-! ## Layouts -/

structure WindowLayoutState where
  splitAxis : Option SplitAxis
  focusedTile : Nat
  tiles : List WindowTileState

namespace WindowLayoutState

def new : WindowLayoutState := ⟨none, 0, [.new]⟩

variable (self : WindowLayoutState)

def normalize : WindowLayoutState :=
  let tiles := if self.tiles = [] then [.new] else self.tiles
  { tiles
    focusedTile := if self.focusedTile ≥ tiles.length then tiles.length - 1 else self.focusedTile
    splitAxis := if tiles.length ≤ 1 then none else self.splitAxis }

def setFocusedComponent (componentId : ComponentId) : Option WindowLayoutState :=
  (self.tiles.findIdx? fun tile => (tile.setActiveComponent componentId).isSome).map fun index =>
    { self with
      tiles := self.tiles.modify index fun tile => (tile.setActiveComponent componentId).getD tile
      focusedTile := index }

def addComponentTab (componentId : ComponentId) : WindowLayoutState :=
  match self.setFocusedComponent componentId with
  | some self => self
  | none =>
    let self := self.normalize
    { self with tiles := self.tiles.modify self.focusedTile (·.addTab componentId) }

def removeComponent (self : WindowLayoutState) (componentId : ComponentId) : WindowLayoutState :=
  let tiles := self.tiles.map (·.removeComponent componentId)
  normalize { self with tiles := if tiles.length > 1 then tiles.filter (·.tabs ≠ []) else tiles }

def takeActive (tile : WindowTileState) : List ComponentId × WindowTileState :=
  if tile.tabs.length > 1 then
    let activeIndex := min tile.activeTab (tile.tabs.length - 1)
    let tabs := tile.tabs.eraseIdx activeIndex
    (tile.tabs[activeIndex]?.toList,
      ⟨tabs, if tile.activeTab ≥ tabs.length then tabs.length - 1 else tile.activeTab⟩)
  else ([], tile)

def splitFocusedTile (axis : SplitAxis) : WindowLayoutState :=
  let self := self.normalize
  let sourceIndex := self.focusedTile
  let movedTabs := (self.tiles[sourceIndex]?.map fun tile => (takeActive tile).1).getD []
  let tiles := self.tiles.modify sourceIndex fun tile => (takeActive tile).2
  normalize
    { tiles := tiles.insertIdx (sourceIndex + 1) (.withTabs movedTabs)
      focusedTile := sourceIndex + 1
      splitAxis := some axis }

def focusedActiveComponent : Option ComponentId :=
  self.tiles[self.focusedTile]?.bind (·.activeComponent)

def onFocused (f : WindowTileState → WindowTileState) : WindowLayoutState :=
  let self := self.normalize
  { self with tiles := self.tiles.modify self.focusedTile f }

def focusNextTab : WindowLayoutState := self.onFocused (·.focusNextTab)

def focusPreviousTab : WindowLayoutState := self.onFocused (·.focusPreviousTab)

def tileCount : Nat := self.tiles.length

end WindowLayoutState

end PandaGen.Workspace
