import PandaGen.Gui.Tiles
import Mathlib.Data.List.Sort

/-!
# The tiles partition the surface
-/

namespace PandaGen.Gui

open List
open Workspace (SplitAxis)

/-! ## Slices -/

variable {total count : Nat}

def sliceStart (total count i : Nat) : Nat := i * (total / count) + min i (total % count)

def sliceLength (total count i : Nat) : Nat := total / count + if i < total % count then 1 else 0

theorem sliceStart_succ (i) : sliceStart total count (i + 1) =
    sliceStart total count i + sliceLength total count i := by
  rw [sliceStart, sliceStart, sliceLength, Nat.succ_mul]
  split <;> omega

theorem sliceStart_mono {i j} (h : i ≤ j) : sliceStart total count i ≤ sliceStart total count j := by
  induction h with
  | refl => exact Nat.le_refl _
  | step _ ih => exact ih.trans (sliceStart_succ _ ▸ Nat.le_add_right _ _)

theorem sliceStart_count (h : 0 < count) : sliceStart total count count = total := by
  rw [sliceStart, Nat.min_eq_right (Nat.mod_lt _ h).le, Nat.div_add_mod]

theorem partitionExtent_eq (h : 0 < count) :
    partitionExtent total count = (range count).map fun i => (sliceStart total count i, sliceLength total count i) := by
  have hloop : ∀ n, (range n).foldl (fun (acc : Nat × List (Nat × Nat)) i =>
      (acc.1 + sliceLength total count i, acc.2 ++ [(acc.1, sliceLength total count i)])) (0, []) =
        (sliceStart total count n, (range n).map fun i => (sliceStart total count i, sliceLength total count i)) := by
    intro n
    induction n with
    | zero => simp [sliceStart]
    | succ n ih => rw [range_succ, foldl_append, ih, sliceStart_succ, map_append]; rfl
  rw [partitionExtent, if_neg h.ne']
  exact congrArg Prod.snd (hloop count)

theorem exists_slice (h : 0 < count) {p} :
    (∃ i < count, sliceStart total count i ≤ p ∧ p < sliceStart total count i + sliceLength total count i) ↔
      p < total := by
  constructor
  · rintro ⟨i, hi, -, hlt⟩
    rw [← sliceStart_succ] at hlt
    exact hlt.trans_le ((sliceStart_mono hi).trans_eq (sliceStart_count h))
  · intro hp
    have hall : ∀ n, p < sliceStart total count n →
        ∃ i < n, sliceStart total count i ≤ p ∧ p < sliceStart total count i + sliceLength total count i := by
      intro n hn
      induction n with
      | zero => simp [sliceStart] at hn
      | succ n ih =>
        by_cases hlt : p < sliceStart total count n
        · obtain ⟨i, hi, hin⟩ := ih hlt
          exact ⟨i, Nat.lt_succ_of_lt hi, hin⟩
        · exact ⟨n, Nat.lt_succ_self n, not_lt.mp hlt, sliceStart_succ n ▸ hn⟩
    exact hall count (hp.trans_eq (sliceStart_count h).symm)

/-! ## Rectangles -/

def along (axis : Option SplitAxis) (horizontal vertical : Nat) : Nat :=
  match axis with
  | some .vertical => horizontal
  | _ => vertical

namespace SurfaceRect

def Contains (r : SurfaceRect) (x y : Nat) : Prop := (r.x ≤ x ∧ x < r.x + r.width) ∧ r.y ≤ y ∧ y < r.y + r.height

def start (axis : Option SplitAxis) (r : SurfaceRect) : Nat := along axis r.x r.y

def extent (axis : Option SplitAxis) (r : SurfaceRect) : Nat := along axis r.width r.height

end SurfaceRect

variable {size : SurfaceSize} {snapshot : WorkspaceRenderSnapshot} {axis : Option SplitAxis} {r : SurfaceRect}
  {x y : Nat}

theorem SurfaceRect.Contains.along (axis) (h : r.Contains x y) :
    r.start axis ≤ along axis x y ∧ along axis x y < r.start axis + r.extent axis := by
  rcases axis with _ | _ | _
  · exact h.2
  · exact h.2
  · exact h.1

def sliceRect (axis : Option SplitAxis) (size : SurfaceSize) (count i : Nat) : SurfaceRect :=
  match axis with
  | some .vertical => ⟨sliceStart size.width count i, 0, sliceLength size.width count i, size.height⟩
  | _ => ⟨0, sliceStart size.height count i, size.width, sliceLength size.height count i⟩

theorem sliceRect_start (i) :
    (sliceRect axis size count i).start axis = sliceStart (along axis size.width size.height) count i := by
  rcases axis with _ | _ | _ <;> rfl

theorem sliceRect_extent (i) :
    (sliceRect axis size count i).extent axis = sliceLength (along axis size.width size.height) count i := by
  rcases axis with _ | _ | _ <;> rfl

theorem pairwise_sliceRect (count) : ((range count).map (sliceRect axis size count)).Pairwise fun r r' =>
    r.start axis + r.extent axis ≤ r'.start axis := by
  refine pairwise_map.mpr (pairwise_lt_range.imp fun hlt => ?_)
  rw [sliceRect_start, sliceRect_start, sliceRect_extent, ← sliceStart_succ]
  exact sliceStart_mono hlt

theorem exists_sliceRect (axis) (h : 0 < count) :
    (∃ i < count, (sliceRect axis size count i).Contains x y) ↔ x < size.width ∧ y < size.height := by
  have hx := @exists_slice size.width count h x
  have hy := @exists_slice size.height count h y
  rcases axis with _ | _ | _
  · simp [sliceRect, SurfaceRect.Contains, ← hy, and_left_comm]
  · simp [sliceRect, SurfaceRect.Contains, ← hy, and_left_comm]
  · simp [sliceRect, SurfaceRect.Contains, ← hx, ← and_assoc]

theorem tileRects_eq (h : 0 < count) : tileRects axis size count = (range count).map (sliceRect axis size count) := by
  rcases axis with _ | _ | _ <;>
    simp [tileRects, partitionRectsVertical, partitionRectsHorizontal, partitionExtent_eq h, sliceRect]

theorem map_windows (size) (h : 0 < snapshot.tiles.length) :
    (workspaceTileWindows size snapshot).map (·.zIndex) = (sortedTiles snapshot).map (·.tileIndex) ∧
      (workspaceTileWindows size snapshot).map (·.rect) =
        (range snapshot.tiles.length).map (sliceRect snapshot.splitAxis size snapshot.tiles.length) := by
  have hlength : (sortedTiles snapshot).length = snapshot.tiles.length := length_mergeSort _
  rw [workspaceTileWindows, hlength, if_neg h.ne', tileRects_eq h, map_map, map_map]
  constructor
  · change map (WorkspaceTileRenderSnapshot.tileIndex ∘ Prod.fst) _ = _
    rw [← map_map, map_fst_zip (by simp [hlength])]
  · exact map_snd_zip (by simp [hlength])

theorem pairwise_sortedTiles : (sortedTiles snapshot).Pairwise fun tile tile' => tile.tileIndex ≤ tile'.tileIndex := by
  let le (tile tile' : WorkspaceTileRenderSnapshot) : Bool := tile.tileIndex ≤ tile'.tileIndex
  have hsorted := @pairwise_mergeSort _ le (by simp [le]; omega) (by simp [le]; omega) snapshot.tiles
  simpa [sortedTiles, le] using hsorted

/-- For each tile there is a window. No two have a cell in common, together they have the cells of the surface, and they
follow each other along the axis in the order of the tile indices, with extents that differ by one at most. -/
theorem tiles_partition_surface (size snapshot) (h : snapshot.tiles ≠ []) :
    let windows := workspaceTileWindows size snapshot
    let axis := snapshot.splitAxis
    (windows.map (·.zIndex)).Perm (snapshot.tiles.map (·.tileIndex)) ∧
    windows.Pairwise (fun w w' => ∀ x y, w.rect.Contains x y → ¬ w'.rect.Contains x y) ∧
    (∀ x y, (∃ w ∈ windows, w.rect.Contains x y) ↔ x < size.width ∧ y < size.height) ∧
    windows.Pairwise (fun w w' => w.zIndex ≤ w'.zIndex ∧ w.rect.start axis + w.rect.extent axis ≤ w'.rect.start axis) ∧
    ∀ w ∈ windows, ∀ w' ∈ windows, w.rect.extent axis ≤ w'.rect.extent axis + 1 := by
  intro windows axis
  have hpos := length_pos_iff.mpr h
  obtain ⟨hindices, hrects⟩ := map_windows size hpos
  have hplaced := pairwise_map.mp (hrects ▸ pairwise_sliceRect snapshot.tiles.length)
  have hsorted := pairwise_map.mp (hindices ▸ pairwise_map.mpr pairwise_sortedTiles)
  refine ⟨?_, ?_, fun x y => ?_, ?_, fun w hw w' hw' => ?_⟩
  · rw [hindices]
    exact (mergeSort_perm _ _).map _
  · refine hplaced.imp fun hle x y hin hin' => ?_
    have := hin.along snapshot.splitAxis
    have := hin'.along snapshot.splitAxis
    omega
  · rw [← exists_sliceRect axis hpos]
    simpa using congrArg (fun rects => ∃ r ∈ rects, SurfaceRect.Contains r x y) hrects
  · exact hsorted.and hplaced
  · have hslice : ∀ w ∈ windows, ∃ i, sliceRect axis size snapshot.tiles.length i = w.rect := by
      intro w hw
      obtain ⟨i, -, hi⟩ := mem_map.mp (hrects ▸ mem_map_of_mem hw)
      exact ⟨i, hi⟩
    obtain ⟨i, hi⟩ := hslice w hw
    obtain ⟨j, hj⟩ := hslice w' hw'
    rw [← hi, ← hj, sliceRect_extent, sliceRect_extent, sliceLength, sliceLength]
    split <;> omega

def beside : WorkspaceRenderSnapshot := ⟨some .vertical, [⟨1, false, by decide⟩, ⟨0, true, by decide⟩]⟩

theorem tiles_partition_beside : ∃ w ∈ workspaceTileWindows ⟨5, 3⟩ beside, w.rect.Contains 4 2 := by
  obtain ⟨-, -, hcover, -⟩ := tiles_partition_surface ⟨5, 3⟩ beside (cons_ne_nil _ _)
  exact (hcover 4 2).mpr ⟨by decide, by decide⟩

end PandaGen.Gui
