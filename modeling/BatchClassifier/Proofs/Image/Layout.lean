import BatchClassifier.Image.Tensor
import Mathlib.Algebra.BigOperators.Group.List.Basic
import Mathlib.Data.List.Perm.Subperm

namespace BatchClassifier.Tensor

def place (s : InputSize) (cell : Nat × Nat × Nat) : Nat := index s cell.1 cell.2.1 cell.2.2

theorem mem_cells {s : InputSize} {c y x : Nat} :
    (c, y, x) ∈ cells s ↔ c < channels ∧ y < s.height ∧ x < s.width := by
  simp only [cells, List.mem_flatMap, List.mem_map, List.mem_range, Prod.mk.injEq]
  constructor
  · rintro ⟨y, hy, x, hx, c, hc, rfl, rfl, rfl⟩
    exact ⟨hc, hy, hx⟩
  · rintro ⟨hc, hy, hx⟩
    exact ⟨y, hy, x, hx, c, hc, rfl, rfl, rfl⟩

theorem length_cells (s : InputSize) : (cells s).length = channels * area s := by
  simp only [cells, List.length_flatMap, List.length_map, List.length_range, List.map_const',
    List.sum_replicate_nat, area]
  rw [← Nat.mul_assoc, Nat.mul_comm, Nat.mul_comm s.height]

theorem add_lt_area {s : InputSize} {y x : Nat} (hy : y < s.height) (hx : x < s.width) :
    y * s.width + x < area s :=
  calc y * s.width + x < y * s.width + s.width := Nat.add_lt_add_left hx _
    _ = (y + 1) * s.width := (Nat.succ_mul y s.width).symm
    _ ≤ s.height * s.width := Nat.mul_le_mul_right s.width hy
    _ = area s := Nat.mul_comm s.height s.width

/-- Every place belongs to a cell: what counts first is its plane, then its row in the plane. -/
theorem exists_place {s : InputSize} {i : Nat} (hi : i < channels * area s) :
    ∃ cell ∈ cells s, place s cell = i := by
  have ha : 0 < area s := Nat.pos_of_mul_pos_left (Nat.zero_lt_of_lt hi)
  have hw : 0 < s.width := Nat.pos_of_mul_pos_right ha
  have hc : i / area s < channels := Nat.div_lt_of_lt_mul (Nat.mul_comm channels _ ▸ hi)
  have hy : i % area s / s.width < s.height := Nat.div_lt_of_lt_mul (Nat.mod_lt i ha)
  refine ⟨(i / area s, i % area s / s.width, i % area s % s.width), mem_cells.2 ⟨hc, hy, Nat.mod_lt _ hw⟩, ?_⟩
  show i / area s * area s + (i % area s / s.width * s.width + i % area s % s.width) = i
  rw [Nat.div_add_mod', Nat.div_add_mod']

/-- There are no more cells than places, so each place is that of one cell only. -/
theorem place_perm (s : InputSize) : ((cells s).map (place s)).Perm (List.range (channels * area s)) := by
  have hsub : List.range (channels * area s) ⊆ (cells s).map (place s) := by
    intro i hi
    exact List.mem_map.2 (exists_place (List.mem_range.1 hi))
  have hlen : ((cells s).map (place s)).length = (List.range (channels * area s)).length := by
    rw [List.length_map, length_cells, List.length_range]
  exact ((List.subperm_of_subset List.nodup_range hsub).perm_of_length_le (Nat.le_of_eq hlen)).symm

example : (cells ⟨2, 1⟩).map (place ⟨2, 1⟩) = [0, 2, 4, 1, 3, 5] := by decide

theorem place_lt {s : InputSize} {cell : Nat × Nat × Nat} (h : cell ∈ cells s) :
    place s cell < channels * area s :=
  List.mem_range.1 ((place_perm s).subset (List.mem_map_of_mem h))

section Writing

variable {κ α : Type}

def write (place : κ → Nat) (value : κ → α) (keys : List κ) (data : Array α) : Array α :=
  keys.foldl (fun data k => data.setIfInBounds (place k) (value k)) data

variable {place : κ → Nat} {value : κ → α} {keys : List κ} {data : Array α}

theorem size_write : (write place value keys data).size = data.size := by
  induction keys generalizing data with
  | nil => rfl
  | cons k keys ih => exact ih.trans Array.size_setIfInBounds

theorem getElem?_write_of_notMem {i : Nat} (h : i ∉ keys.map place) :
    (write place value keys data)[i]? = data[i]? := by
  induction keys generalizing data with
  | nil => rfl
  | cons k keys ih =>
      rw [List.map_cons, List.mem_cons, not_or] at h
      exact (ih h.2).trans (Array.getElem?_setIfInBounds_ne (Ne.symm h.1))

theorem getElem?_write (hn : (keys.map place).Nodup) {k : κ} (hk : k ∈ keys) (hp : place k < data.size) :
    (write place value keys data)[place k]? = some (value k) := by
  induction keys generalizing data with
  | nil => exact absurd hk List.not_mem_nil
  | cons first keys ih =>
      obtain ⟨hfirst, hn⟩ := List.nodup_cons.1 hn
      rcases List.mem_cons.1 hk with rfl | hk
      · refine (getElem?_write_of_notMem hfirst).trans ?_
        rw [Array.getElem?_setIfInBounds, if_pos rfl, if_pos hp]
      · exact ih hn hk (Array.size_setIfInBounds.symm ▸ hp)

end Writing

variable {s : InputSize} {pixel : Nat → Nat → Nat → Nat}

theorem fill_data (s : InputSize) (pixel : Nat → Nat → Nat → Nat) :
    (fill s pixel).data =
      write (place s) (fun cell => scale (pixel cell.2.2 cell.2.1 cell.1)) (cells s)
        (Array.replicate (channels * area s) 0) := rfl

theorem size_fill (s : InputSize) (pixel : Nat → Nat → Nat → Nat) :
    (fill s pixel).data.size = channels * area s := by
  rw [fill_data, size_write, Array.size_replicate]

theorem getElem?_fill {c y x : Nat} (hc : c < channels) (hy : y < s.height) (hx : x < s.width) :
    (fill s pixel).data[index s c y x]? = some (scale (pixel x y c)) := by
  have hn : ((cells s).map (place s)).Nodup := (place_perm s).nodup_iff.2 List.nodup_range
  have hcell : (c, y, x) ∈ cells s := mem_cells.2 ⟨hc, hy, hx⟩
  have hp : place s (c, y, x) < (Array.replicate (channels * area s) (0 : Score)).size := by
    rw [Array.size_replicate]
    exact place_lt hcell
  rw [fill_data]
  exact getElem?_write hn hcell hp

theorem plane?_eq {t : Tensor} (ht : t.data.size = channels * area t.size) {c : Nat} (hc : c < channels) :
    t.plane? c = some (t.data.extract (c * area t.size) ((c + 1) * area t.size)) := by
  have hlast : (c + 1) * area t.size ≤ t.data.size := ht ▸ Nat.mul_le_mul_right (area t.size) hc
  simp only [plane?, if_pos hlast]

theorem size_plane {t : Tensor} (ht : t.data.size = channels * area t.size) {c : Nat} (hc : c < channels) :
    (t.data.extract (c * area t.size) ((c + 1) * area t.size)).size = area t.size := by
  have hlast : (c + 1) * area t.size ≤ t.data.size := ht ▸ Nat.mul_le_mul_right (area t.size) hc
  rw [Array.size_extract, Nat.min_eq_left hlast, Nat.succ_mul, Nat.add_sub_cancel_left]

theorem getElem?_plane {t : Tensor} (ht : t.data.size = channels * area t.size) {c o : Nat} (hc : c < channels)
    (ho : o < area t.size) :
    (t.data.extract (c * area t.size) ((c + 1) * area t.size))[o]? = t.data[c * area t.size + o]? := by
  have hsize := size_plane ht hc
  rw [Array.size_extract] at hsize
  rw [Array.getElem?_extract, if_pos (hsize.symm ▸ ho)]

theorem planes_append {t : Tensor} (ht : t.data.size = channels * area t.size) :
    t.data.extract (0 * area t.size) (1 * area t.size) ++ t.data.extract (1 * area t.size) (2 * area t.size) ++
      t.data.extract (2 * area t.size) (3 * area t.size) = t.data := by
  have hsize : t.data.size = 3 * area t.size := ht
  have hred : min (0 * area t.size) (1 * area t.size) = 0 := by omega
  have hgreen : max (1 * area t.size) (2 * area t.size) = 2 * area t.size := by omega
  have hblue : max (2 * area t.size) (3 * area t.size) = t.data.size := by omega
  rw [Array.extract_append_extract, hred, hgreen, Array.extract_append_extract, Nat.zero_min, hblue,
    Array.extract_size]

/-- The tensor of an image, whatever its samples are and whatever size is asked for, also without any
pixels. Every write goes into the buffer, every cell of it is written once, each plane is read back as it
was written, and the planes one after another are the buffer. -/
theorem planes_laid_out (s : InputSize) (pixel : Nat → Nat → Nat → Nat) :
    let t := fill s pixel
    (∀ c y x, (c, y, x) ∈ cells s → index s c y x < t.data.size) ∧
    ((cells s).map fun (c, y, x) => index s c y x).Perm (List.range t.data.size) ∧
    (∀ c < 3, ∃ plane, t.plane? c = some plane ∧ plane.size = s.width * s.height ∧
      ∀ y < s.height, ∀ x < s.width,
        plane[y * s.width + x]? = some ((pixel x y c).toUInt8.toFloat32 / 255)) ∧
    (∃ red green blue, t.plane? 0 = some red ∧ t.plane? 1 = some green ∧ t.plane? 2 = some blue ∧
      red ++ green ++ blue = t.data) ∧
    t.data.size = t.shape.prod ∧ t.shape = [1, 3, s.height, s.width] ∧
    ∀ image : Raster, ofRaster image s = fill s (Resample.resize image s.width s.height).rgb := by
  intro t
  have ht : t.data.size = channels * area t.size := size_fill s pixel
  refine ⟨?_, ?_, ?_, ?_, ?_, rfl, fun image => rfl⟩
  · intro c y x hcell
    exact ht ▸ place_lt hcell
  · exact ht ▸ place_perm s
  · intro c hc
    refine ⟨_, plane?_eq ht hc, size_plane ht hc, fun y hy x hx => ?_⟩
    exact (getElem?_plane ht hc (add_lt_area hy hx)).trans (getElem?_fill hc hy hx)
  · exact ⟨_, _, _, plane?_eq ht (by decide), plane?_eq ht (by decide), plane?_eq ht (by decide),
      planes_append ht⟩
  · rw [ht]
    simp [shape, area, channels, t, fill, Nat.mul_comm]

/-- Two pixels side by side: their green samples stand third and fourth in the buffer. -/
theorem planes_laid_out_wide :
    let t := fill ⟨2, 1⟩ fun x _ c => 100 * c + x
    (1, 0, 1) ∈ cells ⟨2, 1⟩ ∧ 3 < t.data.size ∧
    ∃ green, t.plane? 1 = some green ∧ green.size = 2 ∧ green[1]? = some (101 / 255) := by
  intro t
  have hcell : (1, 0, 1) ∈ cells ⟨2, 1⟩ := by decide
  obtain ⟨hplace, -, hplanes, -⟩ := planes_laid_out ⟨2, 1⟩ fun x _ c => 100 * c + x
  obtain ⟨green, hgreen, hsize, hsamples⟩ := hplanes 1 (by decide)
  have hsample := hsamples 0 (by decide) 1 (by decide)
  exact ⟨hcell, hplace 1 0 1 hcell, green, hgreen, hsize, hsample⟩

end BatchClassifier.Tensor
