/-
Which tables are accepted. The starts cut the master sequence into stretches, each from its own start to
the next one and the last one to the end. Tables are accepted if there is something in them, they are not
too large, and the stretches are not empty and make up the whole sequence; then every place of the sequence
is in one playlist and in no other.
-/
import Mathlib.Data.List.Chain
import Mathlib.Tactic.SplitIfs
import VoxelCube.Bench.Sample
import VoxelCube.Proofs.Playlist.Places

namespace VoxelCube.Playlist

variable {master : List Entry} {starts names : List UInt8} {c : Catalog} {playlist : UInt8}

/-! ## Stretches -/

/-- The stretches that starts cut out of a sequence of this length. -/
def stretches (length : Nat) : List UInt8 → List (Nat × Nat)
  | [] => []
  | [start] => [(start.toNat, length)]
  | start :: next :: rest => (start.toNat, next.toNat) :: stretches length (next :: rest)

/-- The entries of a stretch. -/
def slice (master : List Entry) (stretch : Nat × Nat) : List Entry :=
  (master.drop stretch.1).take (stretch.2 - stretch.1)

/-- No stretch is empty, and one after the other they are the whole master sequence. -/
structure Partitions (master : List Entry) (starts : List UInt8) : Prop where
  filled : ∀ stretch ∈ stretches master.length starts, stretch.1 < stretch.2
  whole : (stretches master.length starts).flatMap (slice master) = master

theorem getElem?_stretches (length : Nat) (starts : List UInt8) (n : Nat) :
    (stretches length starts)[n]? = starts[n]?.map fun start =>
      (start.toNat, (starts[n + 1]?.map UInt8.toNat).getD length) := by
  induction starts using stretches.induct generalizing n with
  | case1 => rfl
  | case2 start => cases n <;> rfl
  | case3 start next rest ih =>
    cases n with
    | zero => rfl
    | succ n => exact ih n

theorem length_stretches (length : Nat) (starts : List UInt8) :
    (stretches length starts).length = starts.length := by
  induction starts using stretches.induct with
  | case1 => rfl
  | case2 start => rfl
  | case3 start next rest ih =>
    rw [stretches, List.length_cons, ih]
    rfl

/-- From the first start on, every place is in a stretch. -/
theorem exists_stretch {length place : Nat} {start : UInt8} {rest : List UInt8}
    (after : start.toNat ≤ place) (inside : place < length) :
    ∃ (n : Nat) (stretch : Nat × Nat), (stretches length (start :: rest))[n]? = some stretch ∧
      stretch.1 ≤ place ∧ place < stretch.2 := by
  induction rest generalizing start with
  | nil => exact ⟨0, _, rfl, after, inside⟩
  | cons next rest ih =>
    rcases Nat.lt_or_ge place next.toNat with before | beyond
    · exact ⟨0, _, rfl, after, before⟩
    · obtain ⟨n, stretch, found, within⟩ := ih beyond
      exact ⟨n + 1, stretch, found, within⟩

theorem range?_eq (c : Catalog) (playlist : UInt8) :
    c.range? playlist = (stretches c.master.length c.starts)[playlist.toNat]? :=
  (getElem?_stretches _ _ _).symm

/-- No stretch is empty exactly if the starts ascend inside the sequence. -/
theorem filled_iff (length : Nat) (starts : List UInt8) :
    (∀ stretch ∈ stretches length starts, stretch.1 < stretch.2) ↔
      starts.IsChain (· < ·) ∧ ∀ start ∈ starts, start.toNat < length := by
  induction starts using stretches.induct with
  | case1 => simp [stretches]
  | case2 start => simp [stretches]
  | case3 start next rest ih =>
    rw [stretches, List.forall_mem_cons, ih, List.isChain_cons_cons]
    constructor
    · rintro ⟨first, chain, inside⟩
      have below := inside next List.mem_cons_self
      exact ⟨⟨first, chain⟩, List.forall_mem_cons.mpr ⟨Nat.lt_trans first below, inside⟩⟩
    · rintro ⟨⟨first, chain⟩, inside⟩
      exact ⟨first, chain, (List.forall_mem_cons.mp inside).2⟩

/-- Stretches that are not empty are the sequence from their first start on. -/
theorem flatMap_slice {start : UInt8} {rest : List UInt8}
    (filled : ∀ stretch ∈ stretches master.length (start :: rest), stretch.1 < stretch.2) :
    (stretches master.length (start :: rest)).flatMap (slice master) = master.drop start.toNat := by
  induction rest generalizing start with
  | nil =>
    have whole : (master.drop start.toNat).length ≤ master.length - start.toNat := by simp
    simp [stretches, slice, List.take_of_length_le whole]
  | cons next rest ih =>
    rw [stretches, List.forall_mem_cons] at filled
    obtain ⟨first, others⟩ := filled
    rw [stretches, List.flatMap_cons, ih others]
    have behind : master.drop next.toNat = (master.drop start.toNat).drop (next.toNat - start.toNat) := by
      rw [List.drop_drop]
      congr 1
      dsimp only at first
      omega
    rw [behind]
    exact List.take_append_drop _ _

theorem partitions_iff_cuts (full : master ≠ []) : Partitions master starts ↔ Cuts master starts := by
  constructor
  · rintro ⟨filled, whole⟩
    obtain ⟨chain, inside⟩ := (filled_iff _ _).mp filled
    refine ⟨?_, List.isChain_iff_pairwise.mp chain, inside⟩
    cases starts with
    | nil => exact absurd whole.symm full
    | cons start rest =>
      -- what stands before the first start would be in no stretch
      rw [flatMap_slice filled] at whole
      have length := congrArg List.length whole
      rw [List.length_drop] at length
      have some := List.length_pos_iff.mpr full
      have zero : start.toNat = 0 := by omega
      simp [← UInt8.toNat_inj, zero]
  · rintro ⟨first, ascending, inside⟩
    have filled := (filled_iff master.length starts).mpr ⟨List.isChain_iff_pairwise.mpr ascending, inside⟩
    refine ⟨filled, ?_⟩
    cases starts with
    | nil => cases first
    | cons start rest =>
      cases first
      rw [flatMap_slice filled]
      rfl

/-! ## Catalogs -/

theorem sizes_iff : Sizes master starts names ↔
    master.length ≤ 256 ∧ starts.length ≤ 256 ∧ names.length ≤ 65534 := by
  constructor
  · rintro ⟨entries, playlists, text⟩
    exact ⟨entries, playlists, text⟩
  · rintro ⟨entries, playlists, text⟩
    exact ⟨entries, playlists, text⟩

namespace Catalog

/-- A catalog is accepted from its own tables. -/
theorem ofTables_eq_ok_iff :
    ofTables master starts names = .ok c ↔ c.master = master ∧ c.starts = starts ∧ c.names = names := by
  constructor
  · intro accepted
    unfold ofTables at accepted
    split_ifs at accepted
    cases accepted
    exact ⟨rfl, rfl, rfl⟩
  · rintro ⟨rfl, rfl, rfl⟩
    have some : ¬(c.master = [] ∨ c.starts = []) := by
      rintro (empty | empty)
      · exact c.master_ne_nil empty
      · exact c.count_pos.ne' (List.length_eq_zero_iff.mpr empty)
    unfold ofTables
    rw [if_neg some, dif_pos c.sizes, dif_pos c.cuts]

theorem ofTables_accepts_iff : (∃ c, ofTables master starts names = .ok c) ↔
    master ≠ [] ∧ starts ≠ [] ∧ Sizes master starts names ∧ Partitions master starts := by
  constructor
  · rintro ⟨c, accepted⟩
    obtain ⟨rfl, rfl, rfl⟩ := ofTables_eq_ok_iff.mp accepted
    have some : c.starts ≠ [] := List.length_pos_iff.mp c.count_pos
    exact ⟨c.master_ne_nil, some, c.sizes, (partitions_iff_cuts c.master_ne_nil).mpr c.cuts⟩
  · rintro ⟨full, -, sizes, partitions⟩
    have cuts := (partitions_iff_cuts full).mp partitions
    exact ⟨⟨master, starts, names, sizes, cuts⟩, ofTables_eq_ok_iff.mpr ⟨rfl, rfl, rfl⟩⟩

theorem partitions (c : Catalog) : Partitions c.master c.starts :=
  (partitions_iff_cuts c.master_ne_nil).mpr c.cuts

theorem range?_eq_none_iff : c.range? playlist = none ↔ c.count ≤ playlist.toNat := by
  unfold range? count
  rw [Option.map_eq_none_iff, List.getElem?_eq_none_iff]

/-- A playlist is numbered by one byte. -/
theorem toNat_ofNat_playlist {n : Nat} (h : n < c.count) : (UInt8.ofNat n).toNat = n :=
  UInt8.toNat_ofNat_of_lt' (Nat.lt_of_lt_of_le h c.sizes.starts)

/-- The playlists one after the other are the whole master sequence. -/
theorem flatMap_entries (c : Catalog) :
    (List.range c.count).flatMap (fun n => c.entries (UInt8.ofNat n)) = c.master := by
  have slices : (List.range c.count).map (fun n => c.entries (UInt8.ofNat n)) =
      (stretches c.master.length c.starts).map (slice c.master) := by
    apply List.ext_getElem
    · rw [List.length_map, List.length_map, List.length_range, length_stretches]
      rfl
    · intro n counted inside
      rw [List.length_map, List.length_range] at counted
      rw [List.length_map] at inside
      rw [List.getElem_map, List.getElem_map, List.getElem_range]
      unfold entries
      rw [range?_eq, toNat_ofNat_playlist counted, List.getElem?_eq_getElem inside]
      rfl
  rw [List.flatMap_def, slices, ← List.flatMap_def]
  exact c.partitions.whole

/-! ## Places in playlists -/

/-- A playlist ends before a later one starts. -/
theorem range?_ascending {earlier later : UInt8} {first stop first' stop' : Nat}
    (range : c.range? earlier = some (first, stop)) (range' : c.range? later = some (first', stop'))
    (before : earlier.toNat < later.toNat) : stop ≤ first' := by
  obtain ⟨s, -, same⟩ := Option.map_eq_some_iff.mp range
  obtain ⟨t, found, same'⟩ := Option.map_eq_some_iff.mp range'
  obtain ⟨rfl, rfl⟩ := Prod.mk.inj same
  obtain ⟨rfl, rfl⟩ := Prod.mk.inj same'
  obtain ⟨inside, rfl⟩ := List.getElem?_eq_some_iff.mp found
  have next : earlier.toNat + 1 < c.starts.length := by omega
  rw [List.getElem?_eq_getElem next]
  rcases Nat.lt_or_eq_of_le (show earlier.toNat + 1 ≤ later.toNat from before) with apart | behind
  · exact Nat.le_of_lt (List.pairwise_iff_getElem.mp c.cuts.ascending _ _ next inside apart)
  · simp [behind]

theorem Holds.unique {other : UInt8} {place : Nat} (holds : c.Holds playlist place)
    (again : c.Holds other place) : other = playlist := by
  obtain ⟨first, stop, range, after, below⟩ := holds
  obtain ⟨first', stop', range', after', below'⟩ := again
  rcases Nat.lt_trichotomy playlist.toNat other.toNat with earlier | same | later
  · have := range?_ascending range range' earlier
    omega
  · exact (UInt8.toNat_inj.mp same).symm
  · have := range?_ascending range' range later
    omega

theorem exists_holds {place : Nat} (inside : place < c.master.length) :
    ∃ playlist, c.Holds playlist place := by
  have first := c.cuts.first
  cases starts : c.starts with
  | nil => simp [starts] at first
  | cons start rest =>
    rw [starts, List.head?_cons] at first
    cases first
    obtain ⟨n, stretch, found, after, before⟩ : ∃ (n : Nat) (stretch : Nat × Nat),
        (stretches c.master.length (0 :: rest))[n]? = some stretch ∧ stretch.1 ≤ place ∧ place < stretch.2 :=
      exists_stretch (Nat.zero_le place) inside
    have counted : n < c.count := by
      rw [count, starts, ← length_stretches c.master.length]
      exact (List.getElem?_eq_some_iff.mp found).1
    refine ⟨UInt8.ofNat n, stretch.1, stretch.2, ?_, after, before⟩
    rw [range?_eq, toNat_ofNat_playlist counted, starts, found]

end Catalog

/-- **Partition.** Tables are accepted exactly if there are entries and playlists, not too many of them nor too
long names, and the starts cut the master sequence into stretches that are not empty. The playlists of the
catalog are then not empty, one after the other they are the master sequence, and each of its places, which
fits a byte, is in exactly one of them. -/
theorem accepted_iff_partitions (master : List Entry) (starts names : List UInt8) :
    ((∃ c, Catalog.ofTables master starts names = .ok c) ↔
      master ≠ [] ∧ starts ≠ [] ∧
        (master.length ≤ 256 ∧ starts.length ≤ 256 ∧ names.length ≤ 65534) ∧ Partitions master starts) ∧
    ∀ c, Catalog.ofTables master starts names = .ok c →
      c.count = starts.length ∧
      (∀ playlist, c.range? playlist = none ↔ c.count ≤ playlist.toNat) ∧
      (∀ playlist first stop, c.range? playlist = some (first, stop) → first < stop) ∧
      (List.range c.count).flatMap (fun n => c.entries (UInt8.ofNat n)) = master ∧
      ∀ place < master.length, place < 256 ∧ ∃! playlist, c.Holds playlist place := by
  constructor
  · rw [Catalog.ofTables_accepts_iff, sizes_iff]
  · intro c accepted
    obtain ⟨rfl, rfl, rfl⟩ := Catalog.ofTables_eq_ok_iff.mp accepted
    refine ⟨rfl, fun playlist => Catalog.range?_eq_none_iff, fun playlist first stop range => ?_,
      c.flatMap_entries, fun place inside => ⟨Catalog.lt_256_of_lt_length inside, ?_⟩⟩
    · exact (Catalog.range?_bounds range).1
    · obtain ⟨playlist, holds⟩ := Catalog.exists_holds inside
      exact ⟨playlist, holds, fun other again => holds.unique again⟩

end VoxelCube.Playlist

namespace VoxelCube.Bench

open Playlist

/-- The tables of the sample cube are accepted, and its last entry is in one playlist alone. -/
theorem sampleTables_partition : Catalog.ofTables sampleMaster sampleStarts sampleNames = .ok sampleCatalog ∧
    sampleMaster.length ≤ 256 ∧ Partitions sampleMaster sampleStarts ∧
      sampleCatalog.count = 2 ∧ ∃! playlist, sampleCatalog.Holds playlist 4 := by
  have accepted : Catalog.ofTables sampleMaster sampleStarts sampleNames = .ok sampleCatalog :=
    Catalog.ofTables_eq_ok_iff.mpr ⟨rfl, rfl, rfl⟩
  obtain ⟨accepts, parts⟩ := accepted_iff_partitions sampleMaster sampleStarts sampleNames
  obtain ⟨-, -, ⟨small, -, -⟩, partitions⟩ := accepts.mp ⟨_, accepted⟩
  obtain ⟨count, -, -, -, alone⟩ := parts sampleCatalog accepted
  exact ⟨accepted, small, partitions, count, (alone 4 (by decide)).2⟩

end VoxelCube.Bench
