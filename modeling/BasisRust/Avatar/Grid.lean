import BasisRust.Avatar.Sync

/-!
# `avatar_sync.rs`: the spatial grid

The peers are filed by cell, and a receiver goes over the cells around its own first.  The cell of a position is
computed in floating point and is a parameter; the coordinates around it wrap as in a release build, so at either
end of the numbers there is nothing to go over.
-/

namespace BasisRust.Avatar

open Lib Protocol Transport

abbrev Cell := Int32 × Int32 × Int32

structure GridFloats where
  /-- `low_distance_sq.sqrt()`, unless that is not finite or at most `f32::EPSILON` -/
  cellSize : F32 → Option F32
  /-- `(coordinate / cell_size).floor() as i32` -/
  coordinate : F32 → F32 → Int32

def GridFloats.cellForPosition (floats : GridFloats) (position : Vector F32 3) (cellSize : F32) : Cell :=
  (floats.coordinate position[0] cellSize, floats.coordinate position[1] cellSize,
    floats.coordinate position[2] cellSize)

structure SpatialGrid where
  cellSize : F32
  cells : Dict Cell (List ℕ)

namespace SpatialGrid

/-- `entry(cell).or_insert_with(Vec::new).push(index)` -/
def file (cells : Dict Cell (List ℕ)) (cell : Cell) (index : ℕ) : Dict Cell (List ℕ) :=
  cells.insert cell ((cells.lookup cell).getD [] ++ [index])

def build (floats : GridFloats) (peerStates : List (PeerId × PlayerAvatarState)) (lowDistanceSq : F32) :
    Option SpatialGrid := do
  let cellSize ← floats.cellSize lowDistanceSq
  let cells := peerStates.zipIdx.foldl
    (fun cells peer => file cells (floats.cellForPosition peer.1.2.position cellSize) peer.2) ∅
  return { cellSize, cells }

/-- `lo..=hi` -/
def inclusive (lo hi : Int32) : List Int32 :=
  (List.range (hi.toInt - lo.toInt + 1).toNat).map fun i => lo + Int32.ofNat i

def neighbours (cell : Cell) : List Cell :=
  (inclusive (cell.1 - 1) (cell.1 + 1)).flatMap fun x =>
    (inclusive (cell.2.1 - 1) (cell.2.1 + 1)).flatMap fun y =>
      (inclusive (cell.2.2 - 1) (cell.2.2 + 1)).map fun z => (x, y, z)

/-- The flags of the indices, with those that were met so far. -/
structure Included where
  included : List Bool
  indices : List ℕ

def Included.add (peerCount : ℕ) (s : Included) (index : ℕ) : Included :=
  if index < peerCount ∧ s.included[index]? = some false then
    { included := s.included.set index true, indices := s.indices ++ [index] }
  else s

/-- The indices in the cell and the 26 around it, and then the others. -/
def indicesAround (grid : SpatialGrid) (cell : Cell) (peerCount : ℕ) : List ℕ :=
  let start : Included := { included := List.replicate peerCount false, indices := [] }
  let near := (neighbours cell).foldl
    (fun s key => ((grid.cells.lookup key).getD []).foldl (Included.add peerCount) s) start
  near.indices ++ (List.range peerCount).filter fun index => near.included[index]? = some false

def orderedIndices (floats : GridFloats) (grid : SpatialGrid) (position : Vector F32 3) (peerCount : ℕ) : List ℕ :=
  grid.indicesAround (floats.cellForPosition position grid.cellSize) peerCount

/-! ### Every index once -/

/-- The flags mark the indices that were met, each of them once. -/
structure Included.Marks (peerCount : ℕ) (s : Included) : Prop where
  length : s.included.length = peerCount
  nodup : s.indices.Nodup
  marked : ∀ i, s.included[i]? = some true ↔ i ∈ s.indices

namespace Included.Marks

variable {peerCount : ℕ} {s : Included}

lemma lt (h : s.Marks peerCount) {i : ℕ} (hi : i ∈ s.indices) : i < peerCount := by
  obtain ⟨hlt, -⟩ := List.getElem?_eq_some_iff.mp ((h.marked i).mpr hi)
  rwa [← h.length]

lemma start (peerCount : ℕ) : Included.Marks peerCount ⟨List.replicate peerCount false, []⟩ := by
  refine ⟨List.length_replicate, List.nodup_nil, fun i => ?_⟩
  simp [List.getElem?_replicate]

lemma add (h : s.Marks peerCount) (index : ℕ) : (s.add peerCount index).Marks peerCount := by
  rw [Included.add]
  split
  next hnew =>
    obtain ⟨hlt, hfalse⟩ := hnew
    have hnot : index ∉ s.indices := by
      intro hmem
      rw [(h.marked index).mpr hmem] at hfalse
      cases hfalse
    refine ⟨?_, ?_, fun i => ?_⟩
    · rw [List.length_set]
      exact h.length
    · refine List.nodup_append.mpr ⟨h.nodup, List.nodup_singleton index, fun i hi j hj heq => hnot ?_⟩
      rw [← List.mem_singleton.mp hj, ← heq]
      exact hi
    · rw [List.mem_append, List.mem_singleton, ← h.marked i]
      by_cases hi : i = index
      · subst hi
        have := h.length
        simp [this, hlt]
      · simp [Ne.symm hi, hi]
  next => exact h

lemma foldl_add (h : s.Marks peerCount) (cell : List ℕ) : (cell.foldl (Included.add peerCount) s).Marks peerCount := by
  induction cell generalizing s with
  | nil => exact h
  | cons index cell ih => exact ih (h.add index)

lemma foldl_cells (h : s.Marks peerCount) (grid : SpatialGrid) (keys : List Cell) :
    (keys.foldl (fun s key => ((grid.cells.lookup key).getD []).foldl (Included.add peerCount) s) s).Marks
      peerCount := by
  induction keys generalizing s with
  | nil => exact h
  | cons key keys ih => exact ih (h.foldl_add _)

end Included.Marks

/-- **Every index is visited, and none twice**, whatever the grid holds. -/
theorem indicesAround_perm (grid : SpatialGrid) (cell : Cell) (peerCount : ℕ) :
    (grid.indicesAround cell peerCount).Perm (List.range peerCount) := by
  have hmarks := (Included.Marks.start peerCount).foldl_cells grid (neighbours cell)
  rw [indicesAround]
  generalize (neighbours cell).foldl _ _ = near at hmarks ⊢
  have hrest (i : ℕ) : near.included[i]? = some false ↔ i < peerCount ∧ i ∉ near.indices := by
    rw [← hmarks.marked, ← hmarks.length, List.getElem?_eq_some_iff, List.getElem?_eq_some_iff]
    constructor
    · rintro ⟨hlt, hfalse⟩
      refine ⟨hlt, fun ⟨_, htrue⟩ => ?_⟩
      rw [hfalse] at htrue
      cases htrue
    · rintro ⟨hlt, hnot⟩
      exact ⟨hlt, Bool.eq_false_iff.mpr fun htrue => hnot ⟨hlt, htrue⟩⟩
  refine (List.perm_ext_iff_of_nodup ?_ List.nodup_range).mpr fun i => ?_
  · refine List.nodup_append.mpr ⟨hmarks.nodup, List.nodup_range.filter _, fun i hi j hj heq => ?_⟩
    have hfalse := of_decide_eq_true (List.mem_filter.mp hj).2
    exact ((hrest j).mp hfalse).2 (heq ▸ hi)
  · rw [List.mem_append, List.mem_filter, List.mem_range, decide_eq_true_iff, hrest]
    constructor
    · rintro (hi | hi)
      · exact hmarks.lt hi
      · exact hi.1
    · intro hi
      by_cases hmem : i ∈ near.indices
      · exact .inl hmem
      · exact .inr ⟨hi, hi, hmem⟩

end SpatialGrid
end BasisRust.Avatar
