import PermeantOS.PyJson
import PermeantOS.Usxf

namespace PermeantOS

/-- The state of an `AgentMemoryGraph`. -/
structure AgentMemoryGraph where
  templateName : String
  tokenIds : List Int
  turnBoundaries : List Nat
  roles : List String
  deriving DecidableEq, Repr

/-- The first argument of `attach_agent_memory`: a list of token ids, or something else. -/
inductive TurnTokens
  | tokens (ids : List Int)
  | other
  deriving DecidableEq, Repr

/-- The longest list that Python can hold, `sys.maxsize`. -/
def maxListLength : Nat := 2 ^ 63 - 1

namespace AgentMemoryGraph

def new (templateName : String) : AgentMemoryGraph := ⟨templateName, [], [0], []⟩

def validRoles : List String := ["system", "user", "assistant", "tool"]

/-- `self.token_ids.extend(ids)`, which refuses to make a list that is too long before it changes it. -/
def extendTokenIds (ids : List Int) : EStateM PyException AgentMemoryGraph Unit := do
  let graph ← get
  if maxListLength < graph.tokenIds.length + ids.length then throw .memoryError
  else set { graph with tokenIds := graph.tokenIds ++ ids }

def attachAgentMemory (turnTokens : TurnTokens) (role : String) : EStateM PyException AgentMemoryGraph Unit :=
  match turnTokens with
  | .other => throw .typeError
  | .tokens ids =>
    if role ∉ validRoles then throw (.valueError s!"Invalid agent role: {role}")
    else do
      extendTokenIds ids
      modify fun graph => { graph with turnBoundaries := graph.turnBoundaries ++ [graph.tokenIds.length] }
      modify fun graph => { graph with roles := graph.roles ++ [role] }

/-- The object after a call, whether it returned or raised. -/
def afterCall (graph : AgentMemoryGraph) (call : TurnTokens × String) : AgentMemoryGraph :=
  leftState ((attachAgentMemory call.1 call.2).run graph)

def afterCalls (graph : AgentMemoryGraph) (calls : List (TurnTokens × String)) : AgentMemoryGraph :=
  calls.foldl afterCall graph

/-- The turn that a call attaches: that of a call that returns. -/
def attachedTurn (graph : AgentMemoryGraph) (call : TurnTokens × String) : List (List Int × String) :=
  match call.1, (attachAgentMemory call.1 call.2).run graph with
  | .tokens ids, .ok _ _ => [(ids, call.2)]
  | _, _ => []

def attachedTurns (graph : AgentMemoryGraph) : List (TurnTokens × String) → List (List Int × String)
  | [] => []
  | call :: calls => attachedTurn graph call ++ attachedTurns (afterCall graph call) calls

variable (sha256 : List UInt8 → List UInt8)

def getTemplateHash (graph : AgentMemoryGraph) : String :=
  "sha256:" ++ lowerHex (sha256 (asBytes graph.templateName))

def toUsxfChatState (graph : AgentMemoryGraph) : ChatState where
  templateName := graph.templateName
  templateHash := getTemplateHash sha256 graph
  turnBoundaries := graph.turnBoundaries.map UInt64.ofNat
  roles := graph.roles

/-- `int(token).to_bytes(4, byteorder="big")` -/
def tokenBytes (token : Int) : Except PyException (List UInt8) :=
  if 0 ≤ token ∧ token < 2 ^ 32 then .ok (bigEndian 4 token.toNat) else .error .overflowError

def blockHash (tokens : List Int) : Except PyException String := do
  let bytes ← tokens.mapM tokenBytes
  pure ("sha256:" ++ lowerHex (sha256 bytes.flatten))

def headerBlockSize : Nat := 256

/-- The hashes of the blocks `token_ids[i * block_size : (i + 1) * block_size]`. -/
def blockHashes (graph : AgentMemoryGraph) : Except PyException (List String) :=
  let numBlocks := (graph.tokenIds.length + headerBlockSize - 1) / headerBlockSize
  (List.range numBlocks).mapM fun i =>
    blockHash sha256 ((graph.tokenIds.drop (i * headerBlockSize)).take headerBlockSize)

/-- The header, as the receiving side reads it; `createdAt` is the clock. -/
def serializeMetadataHeader (graph : AgentMemoryGraph) (modelArch configHash createdAt : String) :
    Except PyException UsxfHeader := do
  let totalTokens := graph.tokenIds.length
  let hashes ← blockHashes sha256 graph
  pure {
    usxfVersion := "1.1"
    modelArchitecture := modelArch
    modelIdentity := ⟨s!"sha256:{configHash}", s!"hf:meta-llama/{modelArch}@main"⟩
    attentionType := .gqa
    -- the bits of 500000.0
    modelCacheSpec := ⟨32, 32, 8, 128, 4096, some 131072, some 0x411e848000000000, none⟩
    mlaSpec := none
    chatState := some (toUsxfChatState sha256 graph)
    tokenIds := graph.tokenIds.map fun token => UInt32.ofNat token.toNat
    seqLen := UInt64.ofNat totalTokens
    batchSize := 1
    dtype := .bfloat16
    sourceQuantization := none
    transferQuantization := none
    blockSize := UInt64.ofNat headerBlockSize
    blockHashes := hashes
    positionIds := none
    createdAt := createdAt
    extractorId := "permeant-os-python-sdk-v0.1.0"
    checksum := "sha256:0000000000000000000000000000000000000000000000000000000000000000"
    signature := "" }

section Calls

variable {graph : AgentMemoryGraph}

/-- The object with one more turn. -/
def withTurn (graph : AgentMemoryGraph) (ids : List Int) (role : String) : AgentMemoryGraph where
  templateName := graph.templateName
  tokenIds := graph.tokenIds ++ ids
  turnBoundaries := graph.turnBoundaries ++ [graph.tokenIds.length + ids.length]
  roles := graph.roles ++ [role]

/-- A call attaches its turn, or raises and leaves everything as it was. -/
theorem attachAgentMemory_cases (graph : AgentMemoryGraph) (call : TurnTokens × String) :
    (∃ ids, call.1 = .tokens ids ∧ call.2 ∈ validRoles ∧ graph.tokenIds.length + ids.length ≤ maxListLength ∧
      (attachAgentMemory call.1 call.2).run graph = .ok () (graph.withTurn ids call.2)) ∨
    ∃ e, (attachAgentMemory call.1 call.2).run graph = .error e graph := by
  obtain ⟨turnTokens, role⟩ := call
  cases turnTokens with
  | other => exact Or.inr ⟨_, rfl⟩
  | tokens ids =>
    dsimp only [attachAgentMemory]
    by_cases hrole : role ∉ validRoles
    · rw [if_pos hrole]
      exact Or.inr ⟨_, rfl⟩
    rw [if_neg hrole]
    have hextend : (extendTokenIds ids).run graph =
        if maxListLength < graph.tokenIds.length + ids.length then .error .memoryError graph
        else .ok () { graph with tokenIds := graph.tokenIds ++ ids } := by
      rw [extendTokenIds, run_get_bind]
      split
      next => rfl
      next => rfl
    by_cases hlong : maxListLength < graph.tokenIds.length + ids.length
    · rw [if_pos hlong] at hextend
      exact Or.inr ⟨_, run_bind_of_error hextend⟩
    · rw [if_neg hlong] at hextend
      refine Or.inl ⟨ids, rfl, not_not.mp hrole, not_lt.mp hlong, ?_⟩
      rw [run_bind_of_ok hextend, withTurn, ← List.length_append]
      rfl

theorem afterCall_cases (graph : AgentMemoryGraph) (call : TurnTokens × String) :
    (∃ ids, graph.tokenIds.length + ids.length ≤ maxListLength ∧
      graph.afterCall call = graph.withTurn ids call.2 ∧ graph.attachedTurn call = [(ids, call.2)]) ∨
    (graph.afterCall call = graph ∧ graph.attachedTurn call = []) := by
  rcases attachAgentMemory_cases graph call with ⟨ids, htokens, _, hlength, hrun⟩ | ⟨e, hrun⟩
  · refine Or.inl ⟨ids, hlength, ?_, ?_⟩
    · rw [afterCall, hrun, leftState_ok]
    · rw [attachedTurn, hrun, htokens]
  · refine Or.inr ⟨?_, ?_⟩
    · rw [afterCall, hrun, leftState_error]
    · rw [attachedTurn, hrun]
      cases call.1 <;> rfl

theorem attachedTurns_append (graph : AgentMemoryGraph) (first second : List (TurnTokens × String)) :
    graph.attachedTurns (first ++ second) =
      graph.attachedTurns first ++ (graph.afterCalls first).attachedTurns second := by
  induction first generalizing graph with
  | nil => rfl
  | cons call first ih =>
    rw [List.cons_append, attachedTurns, attachedTurns, ih, List.append_assoc]
    rfl

/-- What an object holds after it was given some turns. -/
structure Tracks (graph : AgentMemoryGraph) (turns : List (List Int × String)) : Prop where
  tokens : graph.tokenIds = (turns.map Prod.fst).flatten
  roles : graph.roles = turns.map Prod.snd
  boundaries : graph.turnBoundaries =
    (List.range (turns.length + 1)).map fun k => ((turns.take k).map Prod.fst).flatten.length
  length : graph.tokenIds.length ≤ maxListLength

theorem tracks_new (templateName : String) : Tracks (new templateName) [] where
  tokens := rfl
  roles := rfl
  boundaries := rfl
  length := Nat.zero_le _

theorem Tracks.withTurn {turns : List (List Int × String)} (h : Tracks graph turns) {ids : List Int}
    (hlength : graph.tokenIds.length + ids.length ≤ maxListLength) (role : String) :
    Tracks (graph.withTurn ids role) (turns ++ [(ids, role)]) where
  tokens := by simp [AgentMemoryGraph.withTurn, h.tokens]
  roles := by simp [AgentMemoryGraph.withTurn, h.roles]
  boundaries := by
    have hlast : ((turns ++ [(ids, role)]).map Prod.fst).flatten.length =
        graph.tokenIds.length + ids.length := by simp [h.tokens]
    show graph.turnBoundaries ++ [graph.tokenIds.length + ids.length] = _
    rw [h.boundaries, List.length_append, List.length_singleton, List.range_succ (n := turns.length + 1),
      List.map_append]
    congr 1
    · apply List.map_congr_left
      intro k hk
      rw [List.take_append_of_le_length (by have := List.mem_range.mp hk; omega)]
    · rw [List.map_singleton, List.take_of_length_le (by simp), hlast]
  length := by simpa [AgentMemoryGraph.withTurn] using hlength

theorem Tracks.afterCall {turns : List (List Int × String)} (h : Tracks graph turns)
    (call : TurnTokens × String) : Tracks (graph.afterCall call) (turns ++ graph.attachedTurn call) := by
  rcases afterCall_cases graph call with ⟨ids, hlength, hgraph, hturn⟩ | ⟨hgraph, hturn⟩
  · rw [hgraph, hturn]
    exact h.withTurn hlength call.2
  · rw [hgraph, hturn, List.append_nil]
    exact h

theorem Tracks.afterCalls {turns : List (List Int × String)} (h : Tracks graph turns)
    (calls : List (TurnTokens × String)) :
    Tracks (graph.afterCalls calls) (turns ++ graph.attachedTurns calls) := by
  induction calls generalizing graph turns with
  | nil => simpa [AgentMemoryGraph.afterCalls, attachedTurns] using h
  | cons call calls ih =>
    have hrest := ih (h.afterCall call)
    rwa [List.append_assoc] at hrest

/-- Where a turn starts. -/
def boundary (graph : AgentMemoryGraph) (i : Nat) : Nat := graph.turnBoundaries.getD i 0

theorem Tracks.boundary_eq {turns : List (List Int × String)} (h : Tracks graph turns) {i : Nat}
    (hi : i ≤ turns.length) : graph.boundary i = ((turns.take i).map Prod.fst).flatten.length := by
  rw [boundary, h.boundaries, List.getD_eq_getElem?_getD, List.getElem?_map,
    List.getElem?_range (by omega)]
  rfl

/-- The tokens between two boundaries are the turn that was attached there. -/
theorem Tracks.slice {turns : List (List Int × String)} (h : Tracks graph turns) {i : Nat}
    (hi : i < turns.length) :
    (graph.tokenIds.take (graph.boundary (i + 1))).drop (graph.boundary i) = turns[i].1 := by
  have hsplit : turns = turns.take i ++ turns[i] :: turns.drop (i + 1) := by
    rw [List.getElem_cons_drop, List.take_append_drop]
  have hnext : turns.take (i + 1) = turns.take i ++ [turns[i]] := List.take_succ_eq_append_getElem hi
  have htokens : graph.tokenIds = ((turns.take (i + 1)).map Prod.fst).flatten ++
      ((turns.drop (i + 1)).map Prod.fst).flatten := by
    rw [h.tokens, ← List.flatten_append, ← List.map_append, List.take_append_drop]
  rw [h.boundary_eq (by omega), h.boundary_eq (by omega), htokens, List.take_left, hnext, List.map_append,
    List.flatten_append, List.drop_left]
  simp

theorem Tracks.pairwise {turns : List (List Int × String)} (h : Tracks graph turns) :
    graph.turnBoundaries.Pairwise (· ≤ ·) := by
  rw [h.boundaries, List.pairwise_map]
  refine List.pairwise_lt_range.imp ?_
  intro a b hab
  have hprefix : turns.take a <+: turns.take b := List.take_prefix_take_left (by omega)
  obtain ⟨more, hmore⟩ := hprefix
  rw [← hmore]
  simp

end Calls

section Header

variable {sha256 : List UInt8 → List UInt8} {graph : AgentMemoryGraph}

def InRange (token : Int) : Prop := 0 ≤ token ∧ token < 2 ^ 32

instance (token : Int) : Decidable (InRange token) := inferInstanceAs (Decidable (0 ≤ token ∧ token < 2 ^ 32))

def asU32 (token : Int) : UInt32 := UInt32.ofNat token.toNat

theorem toNat_asU32 {token : Int} (h : InRange token) : ((asU32 token).toNat : Int) = token := by
  obtain ⟨hlow, hhigh⟩ := h
  rw [asU32, UInt32.toNat_ofNat', Nat.mod_eq_of_lt (by omega)]
  omega

theorem blockHash_eq {tokens : List Int} (h : ∀ token ∈ tokens, InRange token) :
    blockHash sha256 tokens = .ok (computeSha256 sha256 ((tokens.map asU32).flatMap u32ToBeBytes)) := by
  have hbytes : tokens.mapM tokenBytes = .ok (tokens.map fun token => u32ToBeBytes (asU32 token)) := by
    apply mapM_eq_map
    intro token hmem
    have hword := toNat_asU32 (h token hmem)
    rw [tokenBytes, if_pos (show 0 ≤ token ∧ token < 2 ^ 32 from h token hmem), u32ToBeBytes,
      show (asU32 token).toNat = token.toNat by omega]
  rw [blockHash, except_bind_of_ok hbytes, computeSha256, List.flatMap_map, List.flatMap_def]
  rfl

/-- The two languages hash the same blocks. -/
theorem blockHashes_eq (h : ∀ token ∈ graph.tokenIds, InRange token) :
    graph.blockHashes sha256 = .ok (computeTokenBlockHashes sha256 (graph.tokenIds.map asU32) headerBlockSize) := by
  have hcount : (graph.tokenIds.map asU32).length ⌈/⌉ headerBlockSize =
      (graph.tokenIds.length + headerBlockSize - 1) / headerBlockSize := by
    rw [List.length_map, Nat.ceilDiv_eq_add_pred_div]
  rw [blockHashes, computeTokenBlockHashes, chunks, hcount, List.map_map]
  apply mapM_eq_map
  intro i _
  rw [blockHash_eq fun token hmem => h token (List.mem_of_mem_drop (List.mem_of_mem_take hmem)),
    List.map_take, List.map_drop]
  rfl

theorem startsWithSha256_append (text : String) : startsWithSha256 ("sha256:" ++ text) = true := by
  rw [startsWithSha256, String.toList_append, List.isPrefixOf_iff_prefix]
  exact List.prefix_append _ _

/-- A header for at least one token is one that the receiver accepts. -/
theorem serializeMetadataHeader_valid (sha256 : List UInt8 → List UInt8) (hne : graph.tokenIds ≠ [])
    (hlength : graph.tokenIds.length ≤ maxListLength) (hrange : ∀ token ∈ graph.tokenIds, InRange token)
    (modelArch configHash createdAt : String) : ∃ header,
      graph.serializeMetadataHeader sha256 modelArch configHash createdAt = .ok header ∧ header.Valid ∧
      header.tokenIds = graph.tokenIds.map asU32 ∧
      header.blockHashes = computeTokenBlockHashes sha256 header.tokenIds 256 ∧
      header.chatState = some (graph.toUsxfChatState sha256) := by
  refine ⟨_, except_bind_of_ok (blockHashes_eq hrange), ?_, rfl, rfl, rfl⟩
  have hmax : maxListLength < 2 ^ 64 := by decide
  have hcount : (UInt64.ofNat graph.tokenIds.length).toNat = graph.tokenIds.length := by
    rw [UInt64.toNat_ofNat']
    exact Nat.mod_eq_of_lt (by omega)
  have hpos : 0 < graph.tokenIds.length := List.length_pos_iff.mpr hne
  have hblock : UInt64.ofNat headerBlockSize ≠ 0 := by decide
  have hchecksum : startsWithSha256
      "sha256:0000000000000000000000000000000000000000000000000000000000000000" = true := by
    decide +kernel
  refine validateHeader_ok_iff.mpr ⟨rfl, rfl, ?_, hblock, ?_, by simp, ?_, hchecksum⟩
  · intro hzero
    have := congrArg UInt64.toNat hzero
    rw [hcount] at this
    simp at this
    exact hne this
  · rw [divCeil_toNat hblock, hcount]
    simp [computeTokenBlockHashes, chunks, headerBlockSize]
  · exact startsWithSha256_append configHash

/-- What an object holds after any calls, and the header that is made of it. -/
theorem header_of_calls (sha256 : List UInt8 → List UInt8) {templateName : String}
    {calls : List (TurnTokens × String)} {graph : AgentMemoryGraph} {turns : List (List Int × String)}
    (hgraph : (new templateName).afterCalls calls = graph)
    (hturns : (new templateName).attachedTurns calls = turns) :
    (∀ call e left, (attachAgentMemory call.1 call.2).run graph = .error e left →
      left = graph ∧ (new templateName).afterCalls (calls ++ [call]) = graph ∧
        (new templateName).attachedTurns (calls ++ [call]) = turns) ∧
    graph.turnBoundaries.head? = some 0 ∧ graph.turnBoundaries.Pairwise (· ≤ ·) ∧
    graph.turnBoundaries.getLast? = some graph.tokenIds.length ∧
    graph.turnBoundaries.length = graph.roles.length + 1 ∧ graph.roles = turns.map Prod.snd ∧
    (List.range graph.roles.length).map (fun i =>
      (graph.tokenIds.take (graph.boundary (i + 1))).drop (graph.boundary i)) = turns.map Prod.fst ∧
    (graph.tokenIds ≠ [] → (∀ token ∈ graph.tokenIds, InRange token) →
      ∀ modelArch configHash createdAt, ∃ header chatState,
        graph.serializeMetadataHeader sha256 modelArch configHash createdAt = .ok header ∧ header.Valid ∧
        header.tokenIds.map (fun token => (token.toNat : Int)) = graph.tokenIds ∧
        header.blockHashes = computeTokenBlockHashes sha256 header.tokenIds 256 ∧
        header.chatState = some chatState ∧
        chatState.turnBoundaries.map UInt64.toNat = graph.turnBoundaries ∧ chatState.roles = graph.roles) := by
  have htracks := (tracks_new templateName).afterCalls calls
  rw [List.nil_append, hgraph, hturns] at htracks
  have hroles : graph.roles.length = turns.length := by rw [htracks.roles, List.length_map]
  refine ⟨?_, ?_, htracks.pairwise, ?_, ?_, htracks.roles, ?_, ?_⟩
  · intro call e left hrun
    rcases attachAgentMemory_cases graph call with ⟨_, _, _, _, hok⟩ | ⟨e', herror⟩
    · cases hok.symm.trans hrun
    · cases herror.symm.trans hrun
      have hafter : graph.afterCall call = graph := by rw [afterCall, herror, leftState_error]
      have hnone : graph.attachedTurn call = [] := by
        rw [attachedTurn, herror]
        cases call.1 <;> rfl
      refine ⟨rfl, ?_, ?_⟩
      · rw [afterCalls, List.foldl_append, List.foldl_cons, List.foldl_nil, ← afterCalls, hgraph, hafter]
      · rw [attachedTurns_append, hturns, hgraph, attachedTurns, hnone]
        simp [attachedTurns]
  · rw [htracks.boundaries, List.range_succ_eq_map]
    simp
  · rw [htracks.boundaries, List.range_succ, List.map_append, List.map_singleton, List.getLast?_concat,
      List.take_of_length_le (le_refl _), htracks.tokens]
  · rw [htracks.boundaries, hroles, List.length_map, List.length_range]
  · rw [hroles]
    apply List.ext_getElem
    · simp
    · intro i hi hi'
      rw [List.getElem_map, List.getElem_range, List.getElem_map]
      exact htracks.slice (by simpa using hi)
  · intro hne hrange modelArch configHash createdAt
    obtain ⟨header, hheader, hvalid, htokens, hhashes, hchat⟩ :=
      serializeMetadataHeader_valid sha256 hne htracks.length hrange modelArch configHash createdAt
    refine ⟨header, _, hheader, hvalid, ?_, hhashes, hchat, ?_, rfl⟩
    · rw [htokens, List.map_map]
      conv_rhs => rw [← List.map_id graph.tokenIds]
      apply List.map_congr_left
      intro token hmem
      exact toNat_asU32 (hrange token hmem)
    · rw [toUsxfChatState, List.map_map]
      conv_rhs => rw [← List.map_id graph.turnBoundaries]
      apply List.map_congr_left
      intro bound hmem
      -- every boundary counts tokens of the list
      have hle : bound ≤ graph.tokenIds.length := by
        rw [htracks.boundaries] at hmem
        obtain ⟨k, _, rfl⟩ := List.mem_map.mp hmem
        rw [htracks.tokens]
        have hprefix : turns.take k <+: turns := List.take_prefix k turns
        obtain ⟨more, hmore⟩ := hprefix
        conv_rhs => rw [← hmore]
        simp
      have hmax : maxListLength < 2 ^ 64 := by decide
      have := htracks.length
      rw [Function.comp_apply, UInt64.toNat_ofNat', Nat.mod_eq_of_lt (by omega)]
      rfl

/-- The second one is refused. -/
def threeCalls : List (TurnTokens × String) :=
  [(.tokens [1, 2], "user"), (.tokens [3], "nobody"), (.tokens [4], "assistant")]

theorem header_of_threeCalls : ∃ header : UsxfHeader,
    ((new "llama-3.1-instruct").afterCalls threeCalls).serializeMetadataHeader Sha256.digest "m" "c" "t" = .ok header ∧
    header.Valid := by
  obtain ⟨graph, hgraph⟩ : ∃ graph, (new "llama-3.1-instruct").afterCalls threeCalls = graph := ⟨_, rfl⟩
  obtain ⟨_, _, _, _, _, _, _, hheader⟩ := header_of_calls Sha256.digest hgraph rfl
  subst hgraph
  obtain ⟨header, _, hrun, hvalid, _⟩ := hheader (by decide) (by decide) "m" "c" "t"
  exact ⟨header, hrun, hvalid⟩

end Header

end AgentMemoryGraph

end PermeantOS
