import PermeantOS.SessionComplete

namespace PermeantOS

/-- A chunk of every advertised block was among the messages. -/
def ReceivedEveryBlock (header : UsxfHeader) (inbox : List (Fallible MigrationMessage)) : Prop :=
  ∀ block < header.blockHashes.length,
    ∃ chunk, .ok (.payloadChunk chunk) ∈ inbox ∧ chunk.chunkIndex.toNat = block

variable {F : Type} [F32Bits F] [F32Arith F] {host : Host F} {header : UsxfHeader}

theorem StagedSession.receivedEveryBlock {s : Session F} (st : StagedSession host s)
    (hl : 1 ≤ st.header.modelCacheSpec.nLayers.toNat) (hc : chunkProduct st.header < 2 ^ 64) :
    ReceivedEveryBlock st.header s.inbox := by
  intro block hblock
  have hgrid : (block, 0, keyName 0) ∈ grid st.header := mem_grid_iff.mpr ⟨hblock, hl, Or.inl rfl⟩
  obtain ⟨chunk, hmem, hpos⟩ := List.mem_map.mp ((st.perm_grid hc).mem_iff.mpr hgrid)
  refine ⟨chunk, ?_, congrArg Prod.fst hpos⟩
  rw [st.inbox_eq]
  simp [hmem]

/-- A session with this header is committed only after a chunk of every block. -/
def CommitsEveryBlock (host : Host F) (header : UsxfHeader) : Prop :=
  ∀ orchestrator blockSize before connection, CarriesHeader host connection.inbox header →
    CommitSent (serve host (.mock orchestrator blockSize before) connection).outbox →
    ReceivedEveryBlock header connection.inbox

theorem commitsEveryBlock (hl : 1 ≤ header.modelCacheSpec.nLayers.toNat)
    (hc : chunkProduct header < 2 ^ 64) : CommitsEveryBlock host header := by
  intro orchestrator blockSize before connection hcarries hsent
  obtain ⟨st, _⟩ := staged_of_commitSent hsent
  obtain rfl := st.header_eq hcarries
  exact st.receivedEveryBlock hl hc

theorem two_le_chunkProduct (hv : header.Valid) (hl : 1 ≤ header.modelCacheSpec.nLayers.toNat) :
    2 ≤ chunkProduct header := by
  obtain ⟨_, _, hs, hb, _⟩ := validateHeader_ok_iff.mp hv
  have hblocks : 1 ≤ header.seqLen.toNat ⌈/⌉ header.blockSize.toNat := by
    have hpos := usize_pos_of_ne_zero hb
    have hseq := usize_pos_of_ne_zero hs
    rw [Nat.ceilDiv_eq_add_pred_div, Nat.le_div_iff_mul_le hpos]
    omega
  calc 2 = 1 * 2 * 1 := rfl
    _ ≤ header.modelCacheSpec.nLayers.toNat * 2 *
        (header.seqLen.toNat ⌈/⌉ header.blockSize.toNat) :=
      Nat.mul_le_mul (Nat.mul_le_mul_right 2 hl) hblocks

/-- The header's products are the mathematical ones, and guard the commit, exactly when there is a
layer and neither product reaches `2 ^ 64`. -/
theorem headerArithmetic_iff (host : Host F) (hv : header.Valid) :
    ((chunkCount header).toNat = chunkProduct header ∧ 2 ≤ (chunkCount header).toNat ∧
      (∀ tensorName, (blockFloatCount header tensorName).toNat = floatCount header) ∧
      CommitsEveryBlock host header) ↔
    1 ≤ header.modelCacheSpec.nLayers.toNat ∧ chunkProduct header < 2 ^ 64 ∧
      floatCount header < 2 ^ 64 := by
  constructor
  · intro hparts
    obtain ⟨hcount, htwo, hfloat, _⟩ := hparts
    refine ⟨?_, ?_, ?_⟩
    · by_contra hl
      have hzero : header.modelCacheSpec.nLayers.toNat = 0 := by omega
      rw [hcount, chunkProduct, hzero, Nat.zero_mul] at htwo
      omega
    · rw [← hcount]
      exact (chunkCount header).toNat_lt
    · rw [← hfloat ""]
      exact (blockFloatCount header "").toNat_lt
  · intro hparts
    obtain ⟨hl, hc, hf⟩ := hparts
    have hcount : (chunkCount header).toNat = chunkProduct header := by
      rw [chunkCount_toNat hv, Nat.mod_eq_of_lt hc]
    exact ⟨hcount, hcount ▸ two_le_chunkProduct hv hl, blockFloatCount_toNat hf,
      commitsEveryBlock hl hc⟩

def manyLayersHeader : UsxfHeader :=
  { oneTokenHeader "test" with
    modelCacheSpec := { (oneTokenHeader "test").modelCacheSpec with nLayers := 0x8000000000000000 } }

theorem manyLayersHeader_valid : manyLayersHeader.Valid :=
  validateHeader_ok_iff.mpr (validateHeader_ok_iff.mp (oneTokenHeader_valid "test"))

theorem headerArithmetic_oneToken :
    (chunkCount (oneTokenHeader "test")).toNat = chunkProduct (oneTokenHeader "test") :=
  ((headerArithmetic_iff (F := F32) testRecording.host (oneTokenHeader_valid "test")).mpr
    ⟨by simp [oneTokenHeader, testHeader], by rw [chunkProduct_oneToken]; norm_num,
      by rw [floatCount_oneToken]; norm_num⟩).1

/-- A valid header whose `2 ^ 64` chunks wrap to none. -/
theorem chunkCount_wraps : manyLayersHeader.Valid ∧ chunkCount manyLayersHeader = 0 ∧
    chunkProduct manyLayersHeader = 2 ^ 64 ∧
    ¬((chunkCount manyLayersHeader).toNat = chunkProduct manyLayersHeader ∧
      2 ≤ (chunkCount manyLayersHeader).toNat) := by
  have hcount : chunkCount manyLayersHeader = 0 := by decide
  have hproduct : chunkProduct manyLayersHeader = 2 ^ 64 := by
    simp [chunkProduct, manyLayersHeader, oneTokenHeader, testHeader]
  refine ⟨manyLayersHeader_valid, hcount, hproduct, ?_⟩
  intro hparts
  obtain ⟨_, htwo⟩ := hparts
  rw [hcount] at htwo
  exact absurd htwo (by decide)

end PermeantOS
