import PandaGen.Workspace.Layout

/-!
# The windows of the tiles

How `services_gui_host/src/lib.rs` cuts a surface into one window for each tile of a snapshot. What a window shows
(its frame, role and tabs) is left out. Its title may count the tile as `tile_index + 1`, which must not overflow.
-/

namespace PandaGen.Gui

open Workspace (SplitAxis)

structure SurfaceSize where
  width : Nat
  height : Nat

structure SurfaceRect where
  x : Nat
  y : Nat
  width : Nat
  height : Nat

structure WorkspaceTileRenderSnapshot where
  tileIndex : Nat
  isFocused : Bool
  tileIndex_lt : tileIndex + 1 < 2 ^ 64

structure WorkspaceRenderSnapshot where
  splitAxis : Option SplitAxis
  tiles : List WorkspaceTileRenderSnapshot

structure DesktopWindow where
  rect : SurfaceRect
  zIndex : Nat
  focused : Bool

/-- The offset and the length of each slice. The loop carries the offset of the next one. -/
def partitionExtent (total count : Nat) : List (Nat × Nat) :=
  if count = 0 then []
  else
    let base := total / count
    let remainder := total % count
    ((List.range count).foldl (fun (offset, slices) index =>
      let len := base + if index < remainder then 1 else 0
      (offset + len, slices ++ [(offset, len)])) (0, [])).2

def partitionRectsVertical (size : SurfaceSize) (count : Nat) : List SurfaceRect :=
  (partitionExtent size.width count).map fun (x, width) => ⟨x, 0, width, size.height⟩

def partitionRectsHorizontal (size : SurfaceSize) (count : Nat) : List SurfaceRect :=
  (partitionExtent size.height count).map fun (y, height) => ⟨0, y, size.width, height⟩

def tileRects (axis : Option SplitAxis) (size : SurfaceSize) (tileCount : Nat) : List SurfaceRect :=
  match axis with
  | some .vertical => partitionRectsVertical size tileCount
  | _ => partitionRectsHorizontal size tileCount

/-- `sort_by_key` is stable, as `mergeSort` is. -/
def sortedTiles (snapshot : WorkspaceRenderSnapshot) : List WorkspaceTileRenderSnapshot :=
  snapshot.tiles.mergeSort fun tile tile' => tile.tileIndex ≤ tile'.tileIndex

def workspaceTileWindows (size : SurfaceSize) (snapshot : WorkspaceRenderSnapshot) : List DesktopWindow :=
  let tileCount := (sortedTiles snapshot).length
  if tileCount = 0 then []
  else ((sortedTiles snapshot).zip (tileRects snapshot.splitAxis size tileCount)).map fun (tile, rect) =>
    ⟨rect, tile.tileIndex, tile.isFocused⟩

end PandaGen.Gui
