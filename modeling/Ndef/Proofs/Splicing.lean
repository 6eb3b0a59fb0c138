import Mathlib.Data.List.Induction
import Ndef.Message
import Ndef.Record.Build

/-!
# Splicing frames

Frames that each stand alone are put behind one another by changing the flags of the last
frame and of the new one (`Frame.join`).  What comes out is the frames with the places they
have in a message of their own (`Message.foldl_join`).
-/

namespace Ndef

/-- The frame at another place. -/
def Frame.moved (f : Frame) (p : Position) : Frame :=
  { f with position := p }

theorem Frame.moved_position (f : Frame) :
  f.moved f.position = f
  := rfl

/-- Records that were interpreted still have their frames. -/
theorem Record.filterMap_frame?_map_ofFrame (language : Option Language) (frames : List Frame) :
  (frames.map (ofFrame language)).filterMap frame? = frames
  := by
  rw [List.filterMap_map]
  apply List.filterMap_some

namespace Message

/-- The frames with the places they have if more frames follow. -/
def opening (frames : List Frame) : List Frame :=
  frames.mapIdx fun i f => f.moved ⟨i = 0, false⟩

theorem opening_concat (frames : List Frame) (f : Frame) :
  opening (frames ++ [f]) = opening frames ++ [f.moved ⟨frames.length = 0, false⟩]
  := List.mapIdx_concat

/-- All frames but the last have the places they have if more frames follow. -/
theorem placed_concat (frames : List Frame) (f : Frame) :
  placed (frames ++ [f]) = opening frames ++ [f.moved ⟨frames.length = 0, true⟩]
  := by
  simp only [placed, List.mapIdx_concat, List.length_append, List.length_singleton]
  congr 1
  apply List.mapIdx_eq_mapIdx_iff.mpr
  intro i hi
  have hne : i ≠ frames.length := by omega
  simp [Frame.moved, hne]

/-- A frame that stands alone, put behind frames in their places, has its place as well. -/
theorem join_placed (frames : List Frame) {f : Frame} (hf : f.position = .alone) :
  Frame.join (placed frames) f = placed (frames ++ [f])
  := by
  rcases List.eq_nil_or_concat frames with rfl | ⟨front, before, rfl⟩
  · change [f] = [f.moved .alone]
    rw [← hf, Frame.moved_position]
  · rw [List.concat_eq_append, placed_concat, placed_concat, opening_concat, Frame.join]
    simp [Frame.moved, Position.diff, Position.alone, hf]

/-- Joining frames that stand alone, one after the other, puts them in their places. -/
theorem foldl_join {frames : List Frame} (h : ∀ f ∈ frames, f.position = .alone) :
  frames.foldl Frame.join [] = placed frames
  := by
  induction frames using List.reverseRecOn with
  | nil => rfl
  | append_singleton frames f ih =>
    have hfront : ∀ g ∈ frames, g.position = .alone := fun g hg =>
      h g (List.mem_append_left _ hg)
    rw [List.foldl_append, ih hfront]
    apply join_placed
    apply h f (by simp)

/-! ### What does not depend on the place -/

theorem exists_of_mem_placed {frames : List Frame} {g : Frame} (h : g ∈ placed frames) :
  ∃ f ∈ frames, ∃ p, g = f.moved p
  := by
  obtain ⟨i, hi, rfl⟩ := List.exists_of_mem_mapIdx h
  exact ⟨frames[i], List.getElem_mem hi, _, rfl⟩

theorem exists_moved_mem_placed {frames : List Frame} {f : Frame} (h : f ∈ frames) :
  ∃ p, f.moved p ∈ placed frames
  := by
  obtain ⟨i, hi, rfl⟩ := List.getElem_of_mem h
  use ⟨i = 0, i + 1 = frames.length⟩
  apply List.mem_mapIdx.mpr
  exact ⟨i, hi, rfl⟩

/-- Frames that fit still do in their places. -/
theorem fits_of_mem_placed {frames : List Frame} (hfits : ∀ f ∈ frames, f.Fits) :
  ∀ g ∈ placed frames, g.Fits
  := by
  intro g hg
  obtain ⟨f, hf, p, rfl⟩ := exists_of_mem_placed hg
  apply hfits f hf

/-- Frames that are no chunks still are none in their places. -/
theorem filter_placed {frames : List Frame} (hwhole : ∀ f ∈ frames, f.chunked = false) :
  (placed frames).filter (!·.chunked) = placed frames
  := by
  rw [List.filter_eq_self]
  intro g hg
  obtain ⟨f, hf, p, rfl⟩ := exists_of_mem_placed hg
  have hchunked : (f.moved p).chunked = false := hwhole f hf
  rw [hchunked]
  rfl

/-- Frames that have their places keep them. -/
theorem placed_placed (frames : List Frame) :
  placed (placed frames) = placed frames
  := by
  simp [placed, List.mapIdx_mapIdx, Function.comp_def]

/-- What is read off frames is read off them in their places if the place does not matter. -/
theorem map_mapIdx_moved {α : Type} {g : Frame → α} {frames : List Frame}
    (hg : ∀ f ∈ frames, ∀ p, g (f.moved p) = g f) (place : Nat → Position) :
  (frames.mapIdx fun i f => f.moved (place i)).map g = frames.map g
  := by
  apply List.ext_getElem
  · simp
  · intro i hi hi'
    simp [hg]

end Message

end Ndef
