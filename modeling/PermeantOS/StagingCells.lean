import PermeantOS.SessionRun

namespace PermeantOS

variable {F : Type}

/-- The tensor that a block map holds under a hash and a name. -/
def cell (blocks : BlockMap F) (hash name : String) : Option (Tensor F) :=
  (blocks.lookup hash).bind (·.lookup name)

theorem cell_eq_lookup (blocks : BlockMap F) (hash name : String) :
    cell blocks hash name = ((blocks.lookup hash).getD ∅).lookup name := by
  unfold cell
  cases blocks.lookup hash with
  | none => simp
  | some tensors => simp

theorem cell_stageTensor_self (blocks : BlockMap F) (hash name : String) (tensor : Tensor F) :
    cell (stageTensor blocks hash name tensor) hash name = some tensor := by
  simp [cell, stageTensor]

theorem cell_stageTensor_of_ne {blocks : BlockMap F} {hash name hash' name' : String}
    {tensor : Tensor F} (h : hash' = hash → name' ≠ name) :
    cell (stageTensor blocks hash name tensor) hash' name' = cell blocks hash' name' := by
  unfold cell stageTensor
  by_cases hh : hash' = hash
  · obtain rfl := hh
    rw [Finmap.lookup_insert, Option.bind_some, Finmap.lookup_insert_of_ne _ (h rfl)]
    cases blocks.lookup hash' with
    | none => simp
    | some tensors => simp
  · rw [Finmap.lookup_insert_of_ne _ hh]

variable [F32Bits F] [F32Arith F] {host : Host F} {header : UsxfHeader} {staging last : Staging F}

theorem Stages.of_append {before after : List PayloadChunk}
    (h : Stages host header staging (before ++ after) last) :
    ∃ mid, Stages host header staging before mid ∧ Stages host header mid after last := by
  induction before generalizing staging with
  | nil => exact ⟨staging, .nil, h⟩
  | cons chunk before ih =>
    cases h with
    | cons hcrc hstage hrest =>
      obtain ⟨mid, hbefore, hafter⟩ := ih hrest
      exact ⟨mid, .cons hcrc hstage hbefore, hafter⟩

/-- Chunks of other blocks or of other tensors leave a cell alone. -/
theorem Stages.cell_of_untouched {chunks : List PayloadChunk} {hash name : String}
    (h : Stages host header staging chunks last)
    (hn : ∀ chunk ∈ chunks, header.blockHashes[chunk.chunkIndex.toNat]? = some hash →
      chunk.tensorName ≠ name) :
    cell last.accumulatedBlocks hash name = cell staging.accumulatedBlocks hash name := by
  induction h with
  | nil => rfl
  | @cons staging next last chunk chunks _ hs _ ih =>
    obtain ⟨blockHash, data, hp, _, _, rfl⟩ := stageChunk_ok_iff.mp hs
    rw [ih fun other ho => hn other (List.mem_cons_of_mem chunk ho)]
    apply cell_stageTensor_of_ne
    rintro rfl
    exact (hn chunk List.mem_cons_self hp.block).symm

/-- The last chunk of a block and a tensor decides what is staged there. -/
theorem Stages.cell_of_last {before after : List PayloadChunk} {chunk : PayloadChunk} {hash : String}
    (h : Stages host header staging (before ++ chunk :: after) last)
    (hhash : header.blockHashes[chunk.chunkIndex.toNat]? = some hash)
    (hn : ∀ other ∈ after, header.blockHashes[other.chunkIndex.toNat]? = some hash →
      other.tensorName ≠ chunk.tensorName) :
    ∃ data, decodePayload host.qatq (header.transferQuantization.map (·.scheme)) chunk.codec
        chunk.data (blockFloatCount header chunk.tensorName) = .ok data ∧
      cell last.accumulatedBlocks hash chunk.tensorName =
        some ⟨data, blockShape header chunk.tensorName⟩ := by
  obtain ⟨mid, _, hrest⟩ := h.of_append
  cases hrest with
  | cons _ hs hafter =>
    obtain ⟨blockHash, data, hp, hd, _, rfl⟩ := stageChunk_ok_iff.mp hs
    obtain rfl := Option.some.inj (hp.block.symm.trans hhash)
    exact ⟨data, hd, by rw [hafter.cell_of_untouched hn, cell_stageTensor_self]⟩

end PermeantOS
