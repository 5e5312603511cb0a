import PermeantOS.SessionRun
import Mathlib.Data.List.Perm.Basic
import Mathlib.Data.List.Nodup
import Mathlib.Data.List.Perm.Subperm

namespace PermeantOS

/-- Where a chunk belongs: its block, its layer and its tensor. -/
def PayloadChunk.position (chunk : PayloadChunk) : Nat × Nat × String :=
  (chunk.chunkIndex.toNat, chunk.layerIndex.toNat, chunk.tensorName)

/-- Every place a header advertises. -/
def grid (header : UsxfHeader) : List (Nat × Nat × String) :=
  (List.range header.blockHashes.length).flatMap fun block =>
    (List.range header.modelCacheSpec.nLayers.toNat).flatMap fun layer =>
      [(block, layer, keyName layer), (block, layer, valueName layer)]

theorem mem_grid_iff {header : UsxfHeader} {block layer : Nat} {name : String} :
    (block, layer, name) ∈ grid header ↔ block < header.blockHashes.length ∧
      layer < header.modelCacheSpec.nLayers.toNat ∧
      (name = keyName layer ∨ name = valueName layer) := by
  simp only [grid, List.mem_flatMap, List.mem_range, List.mem_cons, Prod.mk.injEq, List.not_mem_nil,
    or_false]
  constructor
  · intro hparts
    obtain ⟨b, hb, l, hl, ⟨rfl, rfl, rfl⟩ | ⟨rfl, rfl, rfl⟩⟩ := hparts
    · exact ⟨hb, hl, Or.inl rfl⟩
    · exact ⟨hb, hl, Or.inr rfl⟩
  · intro hparts
    obtain ⟨hb, hl, rfl | rfl⟩ := hparts
    · exact ⟨block, hb, layer, hl, Or.inl ⟨rfl, rfl, rfl⟩⟩
    · exact ⟨block, hb, layer, hl, Or.inr ⟨rfl, rfl, rfl⟩⟩

theorem grid_length (header : UsxfHeader) : (grid header).length =
    header.modelCacheSpec.nLayers.toNat * 2 * header.blockHashes.length := by
  simp [grid, List.length_flatMap]
  ring

theorem grid_nodup (header : UsxfHeader) : (grid header).Nodup := by
  refine List.nodup_flatMap.mpr ⟨?_, ?_⟩
  · intro block _
    refine List.nodup_flatMap.mpr ⟨?_, ?_⟩
    · intro layer _
      simp [keyName_ne_valueName]
    · refine List.nodup_range.imp ?_
      intro a b hne x hx hy
      simp only [List.mem_cons, List.not_mem_nil, or_false] at hx hy
      rcases hx with rfl | rfl <;> simp [hne] at hy
  · refine List.nodup_range.imp ?_
    intro a b hne x hx hy
    simp only [List.mem_flatMap, List.mem_range, List.mem_cons, List.not_mem_nil, or_false] at hx hy
    obtain ⟨_, _, rfl | rfl⟩ := hx <;> simp [hne] at hy

theorem PayloadChunk.position_injective {a b : PayloadChunk} :
    a.position = b.position ↔ a.key = b.key := by
  simp only [PayloadChunk.position, PayloadChunk.key, Prod.mk.injEq, UInt32.toNat_inj]

theorem nodup_positions_iff {chunks : List PayloadChunk} :
    (chunks.map PayloadChunk.position).Nodup ↔ (chunks.map PayloadChunk.key).Nodup := by
  simp only [List.nodup_iff_pairwise_ne, List.pairwise_map, ne_eq, PayloadChunk.position_injective]

theorem PositionAccepted.mem_grid {header : UsxfHeader} {received : Finset ChunkKey}
    {chunk : PayloadChunk} {blockHash : String}
    (h : PositionAccepted header received chunk blockHash) : chunk.position ∈ grid header :=
  mem_grid_iff.mpr ⟨(List.getElem?_eq_some_iff.mp h.block).1, h.layer, h.name⟩

variable {F : Type} [F32Bits F] [F32Arith F] {host : Host F} {header : UsxfHeader}
  {staging last : Staging F} {chunks : List PayloadChunk}

/-- What the streaming loop asks of a chunk, apart from what was received before it. -/
structure ChunkAccepted (host : Host F) (header : UsxfHeader) (chunk : PayloadChunk) : Prop where
  checksum : host.crc32 chunk.data = chunk.crc32
  position : chunk.position ∈ grid header
  payload : ∃ data, decodePayload host.qatq (header.transferQuantization.map (·.scheme)) chunk.codec
      chunk.data (blockFloatCount header chunk.tensorName) = .ok data ∧
    data.length = (blockFloatCount header chunk.tensorName).toNat

theorem Stages.nodup (h : Stages host header staging chunks last) :
    (chunks.map PayloadChunk.key).Nodup ∧
      ∀ chunk ∈ chunks, chunk.key ∉ staging.receivedChunks := by
  induction h with
  | nil => simp
  | @cons staging next last chunk chunks _ hs _ ih =>
    obtain ⟨blockHash, data, hp, _, _, rfl⟩ := stageChunk_ok_iff.mp hs
    simp only [Finset.mem_insert, not_or] at ih
    refine ⟨?_, ?_⟩
    · rw [List.map_cons, List.nodup_cons]
      refine ⟨?_, ih.1⟩
      intro hmem
      obtain ⟨other, ho, hkey⟩ := List.mem_map.mp hmem
      exact (ih.2 other ho).1 hkey
    · intro other ho
      rcases List.mem_cons.mp ho with rfl | ho
      · exact hp.fresh
      · exact (ih.2 other ho).2

theorem Stages.forall_accepted (h : Stages host header staging chunks last) :
    ∀ chunk ∈ chunks, ChunkAccepted host header chunk := by
  induction h with
  | nil => simp
  | cons hcrc hs _ ih =>
    obtain ⟨blockHash, data, hp, hd, hlen, rfl⟩ := stageChunk_ok_iff.mp hs
    intro other ho
    rcases List.mem_cons.mp ho with rfl | ho
    · exact ⟨hcrc, hp.mem_grid, data, hd, hlen⟩
    · exact ih other ho

theorem stages_of_forall_accepted (h : ∀ chunk ∈ chunks, ChunkAccepted host header chunk)
    (hn : (chunks.map PayloadChunk.key).Nodup)
    (hf : ∀ chunk ∈ chunks, chunk.key ∉ staging.receivedChunks) :
    ∃ last, Stages host header staging chunks last := by
  induction chunks generalizing staging with
  | nil => exact ⟨staging, .nil⟩
  | cons chunk chunks ih =>
    obtain ⟨hcrc, hgrid, data, hd, hlen⟩ := h chunk (by simp)
    obtain ⟨hb, hl, hname⟩ := mem_grid_iff.mp hgrid
    rw [List.map_cons, List.nodup_cons] at hn
    obtain ⟨next, hstage, hreceived⟩ : ∃ next, stageChunk host header staging chunk = .ok next ∧
        next.receivedChunks = insert chunk.key staging.receivedChunks :=
      ⟨_, stageChunk_ok_iff.mpr ⟨_, data,
        ⟨List.getElem?_eq_getElem hb, hl, hname, hf chunk (by simp)⟩, hd, hlen, rfl⟩, rfl⟩
    have hf' : ∀ other ∈ chunks, other.key ∉ next.receivedChunks := by
      intro other ho hmem
      rw [hreceived] at hmem
      rcases Finset.mem_insert.mp hmem with hkey | hmem
      · exact hn.1 (hkey ▸ List.mem_map_of_mem ho)
      · exact hf other (List.mem_cons_of_mem chunk ho) hmem
    obtain ⟨last, hlast⟩ := ih (fun other ho => h other (List.mem_cons_of_mem chunk ho)) hn.2 hf'
    exact ⟨last, .cons hcrc hstage hlast⟩

theorem Stages.mem_blocks_iff (h : Stages host header staging chunks last) {hash : String} :
    hash ∈ last.accumulatedBlocks ↔ hash ∈ staging.accumulatedBlocks ∨
      ∃ chunk ∈ chunks, header.blockHashes[chunk.chunkIndex.toNat]? = some hash := by
  induction h with
  | nil => simp
  | cons _ hs _ ih =>
    obtain ⟨blockHash, data, hp, _, _, rfl⟩ := stageChunk_ok_iff.mp hs
    rw [ih]
    simp only [stageTensor, Finmap.mem_insert, List.mem_cons, exists_eq_or_imp, hp.block,
      Option.some.injEq]
    tauto

/-- As many chunks as there are places fill every place once. -/
theorem Stages.perm_grid (h : Stages host header staging chunks last)
    (hlen : (grid header).length ≤ chunks.length) :
    (chunks.map PayloadChunk.position).Perm (grid header) := by
  have hnodup := nodup_positions_iff.mpr h.nodup.1
  have hsub : chunks.map PayloadChunk.position ⊆ grid header := by
    intro position hmem
    obtain ⟨chunk, hc, rfl⟩ := List.mem_map.mp hmem
    exact (h.forall_accepted chunk hc).position
  exact (hnodup.subperm hsub).perm_of_length_le (by simpa using hlen)

end PermeantOS
