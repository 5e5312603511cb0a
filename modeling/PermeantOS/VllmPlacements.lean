import PermeantOS.VllmRegistry

namespace PermeantOS

variable {P E : Type}

section Placements

variable (host : CacheHost P E)

/-- Where an assignment puts its value. -/
def cellLog (storage : CacheArray) (path : List Int) (x : E) : List (Cell × E) :=
  match resolvePath storage.shape path with
  | some index => [((storage.id, index), x)]
  | none => []

variable (storage : CacheArray) (source : LayerSource P) (targetBlockIds : Option (List Int))

def elementLog (targetBlock : Int) (path : List Int) (element : P × P) : List (Cell × E) :=
  cellLog storage (targetBlock :: 0 :: path) (host.cast element.1) ++
    cellLog storage (targetBlock :: 1 :: path) (host.cast element.2)

def tokenHeadDimLog (views : LayerViews) : List (Cell × E) :=
  logBelow views.blockCount fun block =>
    logBelow views.blockSize fun token =>
      logBelow views.kvHeads fun head =>
        logBelow views.headDim fun dim =>
          onOk (sourceValue source block head dim token) fun element =>
            onOk (targetBlockId block targetBlockIds) fun targetBlock =>
              elementLog host storage targetBlock [token, head, dim] element

def headTokenDimLog (views : LayerViews) : List (Cell × E) :=
  logBelow views.blockCount fun block =>
    logBelow views.kvHeads fun head =>
      logBelow views.blockSize fun token =>
        logBelow views.headDim fun dim =>
          onOk (sourceValue source block head dim token) fun element =>
            onOk (targetBlockId block targetBlockIds) fun targetBlock =>
              elementLog host storage targetBlock [head, token, dim] element

def splitLog (arrange : Nat → Nat → Nat → List Int) (tokens blocks : Nat) (views : LayerViews) :
    List (Cell × E) :=
  logBelow views.blockCount fun block =>
    logBelow views.blockSize fun token =>
      onOk (targetBlockId ((block * blocks + token / tokens : Nat) : Int) targetBlockIds)
        fun targetBlock =>
          logBelow views.kvHeads fun head =>
            logBelow views.headDim fun dim =>
              onOk (sourceValue source block head dim token) fun element =>
                elementLog host storage targetBlock (arrange (token % tokens) head dim) element

def layoutLog (views : LayerViews) : CombinedLayout → List (Cell × E)
  | .tokenHeadDim => tokenHeadDimLog host storage source targetBlockIds views
  | .headTokenDim => headTokenDimLog host storage source targetBlockIds views
  | .splitTokenHeadDim tokens blocks =>
    splitLog host storage source targetBlockIds (fun token head dim => [token, head, dim])
      tokens blocks views
  | .splitHeadTokenDim tokens blocks =>
    splitLog host storage source targetBlockIds (fun token head dim => [head, token, dim])
      tokens blocks views
  | .unsupported => []

def combinedLog : List (Cell × E) :=
  onOk (layerBlockViews source) fun views =>
    onOk (combinedLayout storage.shape views) fun layout =>
      layoutLog host storage source targetBlockIds views layout

def separateLog (n₀ n₁ n₂ n₃ : Nat) (element : Nat → Nat → Nat → Nat → Except PyException P) :
    List (Cell × E) :=
  logBelow n₀ fun i₀ =>
    logBelow n₁ fun i₁ =>
      logBelow n₂ fun i₂ =>
        logBelow n₃ fun i₃ =>
          onOk (element i₀ i₁ i₂ i₃) fun x => cellLog storage [i₀, i₁, i₂, i₃] (host.cast x)

def sideLog (views : LayerViews) (a b c : Nat)
    (first second : Nat → Nat → Nat → Nat → Except PyException P) : List (Cell × E) :=
  match storage.shape with
  | [] => []
  | blocks :: sizes =>
    if sizes = [a, b, c] then separateLog host storage blocks a b c first
    else separateLog host storage blocks views.blockSize views.kvHeads views.headDim second

def keyCacheLog (views : LayerViews) : List (Cell × E) :=
  sideLog host storage views views.kvHeads views.headDim views.blockSize
    (fun block head dim token => source.keyOnly block head dim token)
    (fun block token head dim => source.keyOnly block head dim token)

def valueCacheLog (views : LayerViews) : List (Cell × E) :=
  sideLog host storage views views.kvHeads views.blockSize views.headDim
    (fun block head token dim => source.valueOnly block head dim token)
    (fun block token head dim => source.valueOnly block head dim token)

def separateCacheLog (cache : KvCache) : List (Cell × E) :=
  onOk (separateArrays cache) fun (key, value) =>
    onOk (layerBlockViews source) fun views =>
      keyCacheLog host key source views ++ valueCacheLog host value source views

def layerLog (cache : KvCache) : List (Cell × E) :=
  match cache with
  | .array storage =>
    if storage.shape.length = 5 then combinedLog host storage source targetBlockIds
    else separateCacheLog host source cache
  | _ => separateCacheLog host source cache

/-- The elements of a payload, each with the cell that its registration puts it in. -/
def placements (runtime : VllmRuntime) (call : RegistryCall P) : List (Cell × E) :=
  onOk (getLayerMap runtime) fun layerMap =>
    onOk (allocateTargetBlockIds runtime layerMap call) fun targetBlockIds =>
      call.layers.flatMap fun layer =>
        onOk (layerCache runtime layerMap layer) fun (_, cache) =>
          layerLog host layer.source targetBlockIds cache

end Placements

section Adequacy

variable {host : CacheHost P E} {storage : CacheArray} {source : LayerSource P}
  {targetBlockIds : Option (List Int)} {views : LayerViews}

theorem stores_writeCell (storage : CacheArray) (path : List Int) (x : E) :
    Stores (writeCell storage path x) (cellLog storage path x) := by
  unfold writeCell cellLog
  cases resolvePath storage.shape path with
  | none => exact .throw _ _
  | some index =>
    intro cells a after h
    cases h
    rfl

theorem stores_readCell (storage : CacheArray) (path : List Int) :
    Stores (readCell (E := E) storage path) [] := by
  intro cells a after h
  rw [readCell, run_get_bind] at h
  split at h
  next => cases h; rfl
  next => cases h

theorem stores_writeElement (targetBlock : Int) (path : List Int) (element : P × P) :
    Stores (writeElement host storage targetBlock path element)
      (elementLog host storage targetBlock path element) :=
  (stores_writeCell _ _ _).bind fun _ => stores_writeCell _ _ _

theorem stores_writeTokenHeadDim :
    Stores (writeTokenHeadDim host storage source targetBlockIds views)
      (tokenHeadDimLog host storage source targetBlockIds views) := by
  unfold writeTokenHeadDim tokenHeadDimLog
  refine .forBelow fun block => .forBelow fun _ => .forBelow fun _ => .forBelow fun _ => ?_
  exact .lift fun element _ => .lift fun target _ => stores_writeElement target _ element

theorem stores_writeHeadTokenDim :
    Stores (writeHeadTokenDim host storage source targetBlockIds views)
      (headTokenDimLog host storage source targetBlockIds views) := by
  unfold writeHeadTokenDim headTokenDimLog
  refine .forBelow fun block => .forBelow fun _ => .forBelow fun _ => .forBelow fun _ => ?_
  exact .lift fun element _ => .lift fun target _ => stores_writeElement target _ element

theorem stores_writeSplit (arrange : Nat → Nat → Nat → List Int) (tokens blocks : Nat) :
    Stores (writeSplit host storage source targetBlockIds arrange tokens blocks views)
      (splitLog host storage source targetBlockIds arrange tokens blocks views) := by
  unfold writeSplit splitLog
  refine .forBelow fun block => .forBelow fun token => .lift fun target _ => ?_
  refine .forBelow fun head => .forBelow fun dim => .lift fun element _ => ?_
  exact stores_writeElement target _ element

theorem stores_writeLayout (layout : CombinedLayout) :
    Stores (writeLayout host storage source targetBlockIds views layout)
      (layoutLog host storage source targetBlockIds views layout) := by
  unfold writeLayout layoutLog
  cases layout with
  | tokenHeadDim => exact stores_writeTokenHeadDim
  | headTokenDim => exact stores_writeHeadTokenDim
  | splitTokenHeadDim tokens blocks => exact stores_writeSplit _ tokens blocks
  | splitHeadTokenDim tokens blocks => exact stores_writeSplit _ tokens blocks
  | unsupported => exact .throw _ _

theorem stores_writeCombinedCache :
    Stores (writeCombinedCache host storage source targetBlockIds)
      (combinedLog host storage source targetBlockIds) := by
  rw [writeCombinedCache_eq]
  refine .lift fun views _ => ?_
  split
  next => exact .throw _ _
  next => exact .lift fun layout _ => stores_writeLayout layout

theorem stores_slotSample (layout : CombinedLayout) (point : SamplePoint) :
    Stores (slotSample host storage source targetBlockIds layout point) [] := by
  intro cells a after h
  obtain ⟨element, _, h⟩ := run_liftExcept_bind_ok_iff.mp h
  obtain ⟨indices, _, h⟩ := run_liftExcept_bind_ok_iff.mp h
  obtain ⟨key, mid, hkey, h⟩ := run_bind_ok_iff.mp h
  obtain ⟨value, last, hvalue, h⟩ := run_bind_ok_iff.mp h
  cases h
  rw [stores_readCell _ _ mid value after hvalue, stores_readCell _ _ cells key mid hkey]
  rfl

theorem stores_slotSamples (layout : CombinedLayout) (points : List SamplePoint) :
    Stores (slotSamples host storage source targetBlockIds layout points) [] := by
  induction points with
  | nil => exact .pure _
  | cons point points ih =>
    refine (stores_slotSample layout point).bind fun _ => ?_
    exact ih.bind fun _ => .pure _

/-- A slot probe only reads. -/
theorem stores_combinedSlotSamples (limit : Int) :
    Stores (combinedSlotSamples host limit storage source targetBlockIds) [] := by
  intro cells a after h
  obtain ⟨views, _, h⟩ := run_liftExcept_bind_ok_iff.mp h
  obtain ⟨layout, _, h⟩ := run_liftExcept_bind_ok_iff.mp h
  exact stores_slotSamples layout _ cells a after h

theorem stores_writeSeparate (n₀ n₁ n₂ n₃ : Nat)
    (element : Nat → Nat → Nat → Nat → Except PyException P) :
    Stores (writeSeparate host storage n₀ n₁ n₂ n₃ element)
      (separateLog host storage n₀ n₁ n₂ n₃ element) := by
  unfold writeSeparate separateLog
  refine .forBelow fun _ => .forBelow fun _ => .forBelow fun _ => .forBelow fun _ => ?_
  exact .lift fun x _ => stores_writeCell _ _ _

theorem stores_writeSide (side : String) (a b c : Nat)
    (first second : Nat → Nat → Nat → Nat → Except PyException P) :
    Stores (writeSide host side storage views a b c first second)
      (sideLog host storage views a b c first second) := by
  unfold writeSide sideLog
  cases storage.shape with
  | nil => exact .throw _ _
  | cons blocks sizes =>
    by_cases hfirst : sizes = [a, b, c]
    · simp only [hfirst, if_true]
      exact stores_writeSeparate _ _ _ _ _
    · simp only [hfirst, if_false]
      split
      next => exact stores_writeSeparate _ _ _ _ _
      next => exact .throw _ _

theorem stores_writeSeparateCache (cache : KvCache) :
    Stores (writeSeparateCache host source cache) (separateCacheLog host source cache) := by
  refine .lift fun arrays _ => .lift fun views _ => ?_
  exact (stores_writeSide _ _ _ _ _ _).bind fun _ => stores_writeSide _ _ _ _ _ _

variable {limit : Int} {runtime : VllmRuntime} {layerMap : List (Int × String)}

theorem stores_registerLayer (layer : PreparedLayer P) :
    Stores (registerLayer host limit runtime layerMap targetBlockIds layer)
      (onOk (layerCache runtime layerMap layer) fun (_, cache) =>
        layerLog host layer.source targetBlockIds cache) := by
  refine .lift fun named _ => ?_
  obtain ⟨name, cache⟩ := named
  have hseparate : Stores (do
      writeSeparateCache host layer.source cache
      pure (name, none) : EStateM PyException (Cell → E) (String × Option Bool))
        (separateCacheLog host layer.source cache ++ []) :=
    (stores_writeSeparateCache cache).bind fun _ => .pure _
  rw [List.append_nil] at hseparate
  cases cache with
  | array storage =>
    simp only [layerLog]
    split
    next =>
      have hprobe : Stores (do
          let allSamplesMatch ←
            combinedSlotSamples host limit storage layer.source targetBlockIds
          pure (name, some allSamplesMatch) : EStateM PyException (Cell → E) (String × Option Bool))
            ([] ++ []) :=
        (stores_combinedSlotSamples limit).bind fun _ => .pure _
      rw [← List.append_nil (combinedLog host storage layer.source targetBlockIds)]
      exact stores_writeCombinedCache.bind fun _ => hprobe
    next => exact hseparate
  | pair key value => exact hseparate
  | dict key value => exact hseparate

theorem stores_registerAll (layers : List (PreparedLayer P)) :
    Stores (registerAll host limit runtime layerMap targetBlockIds layers)
      (layers.flatMap fun layer => onOk (layerCache runtime layerMap layer) fun (_, cache) =>
        layerLog host layer.source targetBlockIds cache) := by
  induction layers with
  | nil => exact .pure _
  | cons layer layers ih =>
    rw [List.flatMap_cons, ← List.append_nil (layers.flatMap _)]
    exact (stores_registerLayer layer).bind fun _ => ih.bind fun _ => .pure _

/-- A registration that succeeds puts its elements in their cells and changes nothing else. -/
theorem stores_directRegister (call : RegistryCall P) :
    Stores (directRegisterIntoKvCaches host limit runtime call) (placements host runtime call) := by
  unfold directRegisterIntoKvCaches placements
  split
  next => exact .throw _ _
  next =>
    refine .lift fun layerMap _ => .lift fun targetBlockIds _ => ?_
    rw [← List.append_nil (call.layers.flatMap _)]
    exact (stores_registerAll call.layers).bind fun _ => .pure _

end Adequacy

section Cells

theorem pyIndex_natCast_ok_iff {α : Type} {xs : List α} {n : Nat} {x : α} :
    pyIndex xs n = .ok x ↔ xs[n]? = some x := by
  have hn : ¬((n : Int) < 0) := by omega
  simp only [pyIndex, hn, if_false, Int.toNat_natCast]
  cases xs[n]? <;> simp

/-- Indices that are not negative stand for themselves. -/
theorem resolvePath_eq {shape index : List Nat} {path : List Int}
    (h : resolvePath shape path = some index) (hn : ∀ i ∈ path, 0 ≤ i) :
    path = index.map fun (n : Nat) => (n : Int) := by
  induction shape generalizing path index with
  | nil =>
    cases path with
    | nil =>
      cases h
      rfl
    | cons i path => cases h
  | cons size shape ih =>
    cases path with
    | nil => cases h
    | cons i path =>
      obtain ⟨hi, hpath⟩ := List.forall_mem_cons.mp hn
      simp only [resolvePath, if_neg (not_lt.mpr hi)] at h
      split at h
      next =>
        obtain ⟨rest, hrest, rfl⟩ := Option.map_eq_some_iff.mp h
        rw [List.map_cons, ← ih hrest hpath, Int.toNat_of_nonneg hi]
      next => cases h

theorem mem_cellLog_iff {storage : CacheArray} {path : List Int} {x : E} {write : Cell × E} :
    write ∈ cellLog storage path x ↔
      ∃ index, resolvePath storage.shape path = some index ∧ write = ((storage.id, index), x) := by
  unfold cellLog
  cases resolvePath storage.shape path with
  | none => simp
  | some index => simp

/-- The cell that an index stands for, and the element that it gets. -/
theorem mem_elementLog {host : CacheHost P E} {storage : CacheArray} {target : Int} {path : List Int}
    {element : P × P} {write : Cell × E} (h : write ∈ elementLog host storage target path element)
    (ht : 0 ≤ target) (hp : ∀ i ∈ path, 0 ≤ i) :
    write.1.1 = storage.id ∧
      ((write.1.2.map (fun (n : Nat) => (n : Int)) = target :: 0 :: path ∧
        write.2 = host.cast element.1) ∨
      (write.1.2.map (fun (n : Nat) => (n : Int)) = target :: 1 :: path ∧
        write.2 = host.cast element.2)) := by
  rcases List.mem_append.mp h with h | h
  · obtain ⟨index, hindex, rfl⟩ := mem_cellLog_iff.mp h
    exact ⟨rfl, Or.inl ⟨(resolvePath_eq hindex (by simpa [ht] using hp)).symm, rfl⟩⟩
  · obtain ⟨index, hindex, rfl⟩ := mem_cellLog_iff.mp h
    exact ⟨rfl, Or.inr ⟨(resolvePath_eq hindex (by simpa [ht] using hp)).symm, rfl⟩⟩

end Cells

section Elements

variable {host : CacheHost P E} {storage : CacheArray} {source : LayerSource P}
  {targetBlockIds : Option (List Int)} {views : LayerViews}

def Placed (host : CacheHost P E) (log : List (Cell × E)) (element : P × P) : Prop :=
  (∃ cell, (cell, host.cast element.1) ∈ log) ∧ ∃ cell, (cell, host.cast element.2) ∈ log

theorem Placed.mono {log more : List (Cell × E)} {element : P × P} (h : Placed host log element)
    (hsub : log ⊆ more) : Placed host more element := by
  obtain ⟨⟨keyCell, hkey⟩, valueCell, hvalue⟩ := h
  exact ⟨⟨keyCell, hsub hkey⟩, valueCell, hsub hvalue⟩

theorem mem_cellLog_of_run {path : List Int} {x : E} {cells after : Cell → E}
    (h : (writeCell storage path x).run cells = .ok () after) :
    ∃ cell, (cell, x) ∈ cellLog storage path x := by
  unfold writeCell at h
  split at h
  next index hindex => exact ⟨(storage.id, index), mem_cellLog_iff.mpr ⟨index, hindex, rfl⟩⟩
  next => cases h

theorem placed_of_writeElement {target : Int} {path : List Int} {element : P × P}
    {cells after : Cell → E}
    (h : (writeElement host storage target path element).run cells = .ok () after) :
    Placed host (elementLog host storage target path element) element := by
  obtain ⟨_, mid, hkey, hvalue⟩ := run_bind_ok_iff.mp h
  obtain ⟨keyCell, hkey⟩ := mem_cellLog_of_run hkey
  obtain ⟨valueCell, hvalue⟩ := mem_cellLog_of_run hvalue
  exact ⟨⟨keyCell, List.mem_append_left _ hkey⟩, valueCell, List.mem_append_right _ hvalue⟩

/-- Every element of the blocks that there is room for is written somewhere. -/
def AllPlaced (host : CacheHost P E) (source : LayerSource P) (views : LayerViews)
    (room : Nat → Prop) (log : List (Cell × E)) : Prop :=
  ∀ block < views.blockCount, room block → ∀ token < views.blockSize, ∀ head < views.kvHeads,
    ∀ dim < views.headDim, ∃ element,
      sourceValue source block head dim token = .ok element ∧ Placed host log element

theorem AllPlaced.mono {room : Nat → Prop} {log more : List (Cell × E)}
    (h : AllPlaced host source views room log) (hsub : log ⊆ more) :
    AllPlaced host source views room more := by
  intro block hblock hroom token ht head hh dim hd
  obtain ⟨element, helement, hplaced⟩ := h block hblock hroom token ht head hh dim hd
  exact ⟨element, helement, hplaced.mono hsub⟩

theorem allPlaced_tokenHeadDim {room : Nat → Prop} {cells after : Cell → E}
    (h : (writeTokenHeadDim host storage source targetBlockIds views).run cells = .ok () after) :
    AllPlaced host source views room
      (tokenHeadDimLog host storage source targetBlockIds views) := by
  intro block hblock _ token ht head hh dim hd
  obtain ⟨_, _, h⟩ := run_forBelow_ok h hblock
  obtain ⟨_, _, h⟩ := run_forBelow_ok h ht
  obtain ⟨_, _, h⟩ := run_forBelow_ok h hh
  obtain ⟨_, _, h⟩ := run_forBelow_ok h hd
  obtain ⟨element, helement, h⟩ := run_liftExcept_bind_ok_iff.mp h
  obtain ⟨target, htarget, h⟩ := run_liftExcept_bind_ok_iff.mp h
  refine ⟨element, helement, (placed_of_writeElement h).mono ?_⟩
  intro write hwrite
  simp only [tokenHeadDimLog, mem_logBelow_iff, mem_onOk_iff]
  exact ⟨block, hblock, token, ht, head, hh, dim, hd, element, helement, target, htarget, hwrite⟩

theorem allPlaced_headTokenDim {room : Nat → Prop} {cells after : Cell → E}
    (h : (writeHeadTokenDim host storage source targetBlockIds views).run cells = .ok () after) :
    AllPlaced host source views room
      (headTokenDimLog host storage source targetBlockIds views) := by
  intro block hblock _ token ht head hh dim hd
  obtain ⟨_, _, h⟩ := run_forBelow_ok h hblock
  obtain ⟨_, _, h⟩ := run_forBelow_ok h hh
  obtain ⟨_, _, h⟩ := run_forBelow_ok h ht
  obtain ⟨_, _, h⟩ := run_forBelow_ok h hd
  obtain ⟨element, helement, h⟩ := run_liftExcept_bind_ok_iff.mp h
  obtain ⟨target, htarget, h⟩ := run_liftExcept_bind_ok_iff.mp h
  refine ⟨element, helement, (placed_of_writeElement h).mono ?_⟩
  intro write hwrite
  simp only [headTokenDimLog, mem_logBelow_iff, mem_onOk_iff]
  exact ⟨block, hblock, head, hh, token, ht, dim, hd, element, helement, target, htarget, hwrite⟩

theorem allPlaced_split {arrange : Nat → Nat → Nat → List Int} {tokens blocks : Nat}
    {room : Nat → Prop} {cells after : Cell → E}
    (h : (writeSplit host storage source targetBlockIds arrange tokens blocks views).run cells =
      .ok () after) :
    AllPlaced host source views room
      (splitLog host storage source targetBlockIds arrange tokens blocks views) := by
  intro block hblock _ token ht head hh dim hd
  obtain ⟨_, _, h⟩ := run_forBelow_ok h hblock
  obtain ⟨_, _, h⟩ := run_forBelow_ok h ht
  obtain ⟨target, htarget, h⟩ := run_liftExcept_bind_ok_iff.mp h
  obtain ⟨_, _, h⟩ := run_forBelow_ok h hh
  obtain ⟨_, _, h⟩ := run_forBelow_ok h hd
  obtain ⟨element, helement, h⟩ := run_liftExcept_bind_ok_iff.mp h
  refine ⟨element, helement, (placed_of_writeElement h).mono ?_⟩
  intro write hwrite
  simp only [splitLog, mem_logBelow_iff, mem_onOk_iff]
  exact ⟨block, hblock, token, ht, target, htarget, head, hh, dim, hd, element, helement, hwrite⟩

theorem allPlaced_combined {cells after : Cell → E}
    (h : (writeCombinedCache host storage source targetBlockIds).run cells = .ok () after)
    (room : Nat → Prop) :
    ∃ views, layerBlockViews source = .ok views ∧ AllPlaced host source views room
      (combinedLog host storage source targetBlockIds) := by
  rw [writeCombinedCache_eq] at h
  obtain ⟨views, hviews, h⟩ := run_liftExcept_bind_ok_iff.mp h
  refine ⟨views, hviews, ?_⟩
  split at h
  next => cases h
  next =>
    obtain ⟨layout, hlayout, h⟩ := run_liftExcept_bind_ok_iff.mp h
    rw [combinedLog, hviews, onOk, hlayout, onOk]
    unfold writeLayout at h
    cases layout with
    | tokenHeadDim => exact allPlaced_tokenHeadDim h
    | headTokenDim => exact allPlaced_headTokenDim h
    | splitTokenHeadDim tokens blocks =>
      rw [layoutLog]
      exact allPlaced_split h
    | splitHeadTokenDim tokens blocks =>
      rw [layoutLog]
      exact allPlaced_split h
    | unsupported => cases h

theorem placed_of_writeSeparate {n₀ n₁ n₂ n₃ : Nat}
    {element : Nat → Nat → Nat → Nat → Except PyException P} {cells after : Cell → E}
    (h : (writeSeparate host storage n₀ n₁ n₂ n₃ element).run cells = .ok () after)
    {i₀ i₁ i₂ i₃ : Nat} (h₀ : i₀ < n₀) (h₁ : i₁ < n₁) (h₂ : i₂ < n₂) (h₃ : i₃ < n₃) :
    ∃ x, element i₀ i₁ i₂ i₃ = .ok x ∧
      ∃ cell, (cell, host.cast x) ∈ separateLog host storage n₀ n₁ n₂ n₃ element := by
  obtain ⟨_, _, h⟩ := run_forBelow_ok h h₀
  obtain ⟨_, _, h⟩ := run_forBelow_ok h h₁
  obtain ⟨_, _, h⟩ := run_forBelow_ok h h₂
  obtain ⟨_, _, h⟩ := run_forBelow_ok h h₃
  obtain ⟨x, hx, h⟩ := run_liftExcept_bind_ok_iff.mp h
  obtain ⟨cell, hcell⟩ := mem_cellLog_of_run h
  refine ⟨x, hx, cell, ?_⟩
  simp only [separateLog, mem_logBelow_iff, mem_onOk_iff]
  exact ⟨i₀, h₀, i₁, h₁, i₂, h₂, i₃, h₃, x, hx, hcell⟩

/-- Both layouts of a side hold the element of a token, a head and a dimension. -/
theorem placed_of_writeSide {side : String} {a b c : Nat}
    {first second : Nat → Nat → Nat → Nat → Except PyException P} {cells after : Cell → E}
    (h : (writeSide host side storage views a b c first second).run cells = .ok () after)
    {block token head dim i j k : Nat} (hblock : block < storage.shape.headD 0)
    (ht : token < views.blockSize) (hh : head < views.kvHeads) (hd : dim < views.headDim)
    (hi : i < a) (hj : j < b) (hk : k < c)
    (hsame : first block i j k = second block token head dim) :
    ∃ x, second block token head dim = .ok x ∧
      ∃ cell, (cell, host.cast x) ∈ sideLog host storage views a b c first second := by
  unfold writeSide at h
  unfold sideLog
  cases hshape : storage.shape with
  | nil =>
    rw [hshape] at h
    cases h
  | cons blocks sizes =>
    rw [hshape] at h hblock
    by_cases hfirst : sizes = [a, b, c]
    · simp only [hfirst, if_true] at h ⊢
      rw [← hsame]
      exact placed_of_writeSeparate h hblock hi hj hk
    · simp only [hfirst, if_false] at h ⊢
      split at h
      next => exact placed_of_writeSeparate h hblock ht hh hd
      next => cases h

theorem sourceValue_of_parts {block head dim token : Int} {x y : P}
    (hx : source.keyOnly block head dim token = .ok x)
    (hy : source.valueOnly block head dim token = .ok y) :
    sourceValue source block head dim token = .ok (x, y) := by
  cases source with
  | blocks keyBlocks valueBlocks =>
    rw [LayerSource.keyOnly] at hx
    rw [LayerSource.valueOnly] at hy
    rw [sourceValue, except_bind_of_ok hx, except_bind_of_ok hy]
    rfl
  | flat key value =>
    simp only [LayerSource.keyOnly, LayerSource.valueOnly] at hx hy
    cases hs : sourceValue (.flat key value) block head dim token with
    | error e =>
      rw [hs] at hx
      cases hx
    | ok element =>
      rw [hs] at hx hy
      cases hx
      cases hy
      rfl
  | missing => cases hx

/-- A separate cache takes as many blocks of a payload as its arrays have. -/
def KvCache.Room (cache : KvCache) (block : Nat) : Prop :=
  ∀ key value, separateArrays cache = .ok (key, value) →
    block < key.shape.headD 0 ∧ block < value.shape.headD 0

theorem allPlaced_separate {cache : KvCache} {cells after : Cell → E}
    (h : (writeSeparateCache host source cache).run cells = .ok () after) :
    ∃ views, layerBlockViews source = .ok views ∧
      AllPlaced host source views cache.Room (separateCacheLog host source cache) := by
  obtain ⟨⟨key, value⟩, harrays, h⟩ := run_liftExcept_bind_ok_iff.mp h
  obtain ⟨views, hviews, h⟩ := run_liftExcept_bind_ok_iff.mp h
  obtain ⟨_, mid, hkey, hvalue⟩ := run_bind_ok_iff.mp h
  refine ⟨views, hviews, ?_⟩
  intro block _ hroom token ht head hh dim hd
  obtain ⟨hkeyRoom, hvalueRoom⟩ := hroom key value harrays
  obtain ⟨x, hx, keyCell, hkeyCell⟩ := placed_of_writeSide hkey hkeyRoom ht hh hd hh hd ht rfl
  obtain ⟨y, hy, valueCell, hvalueCell⟩ := placed_of_writeSide hvalue hvalueRoom ht hh hd hh ht hd rfl
  refine ⟨(x, y), sourceValue_of_parts hx hy, ?_⟩
  simp only [separateCacheLog, harrays, onOk, hviews]
  exact ⟨⟨keyCell, List.mem_append_left _ hkeyCell⟩, valueCell, List.mem_append_right _ hvalueCell⟩

variable {limit : Int} {runtime : VllmRuntime} {layerMap : List (Int × String)}

/-- Every element of a layer is written somewhere. -/
def LayerPlaced (host : CacheHost P E) (source : LayerSource P) (targetBlockIds : Option (List Int))
    (cache : KvCache) : Prop :=
  ∃ views, layerBlockViews source = .ok views ∧
    AllPlaced host source views cache.Room (layerLog host source targetBlockIds cache)

theorem layerPlaced_of_separate {cache : KvCache} {cells after : Cell → E}
    (h : (writeSeparateCache host source cache).run cells = .ok () after)
    (hlog : layerLog host source targetBlockIds cache = separateCacheLog host source cache) :
    LayerPlaced host source targetBlockIds cache := by
  unfold LayerPlaced
  rw [hlog]
  exact allPlaced_separate h

theorem layerPlaced_of_registered {layer : PreparedLayer P} {written : String × Option Bool}
    {cells after : Cell → E}
    (h : (registerLayer host limit runtime layerMap targetBlockIds layer).run cells =
      .ok written after) :
    ∃ name cache, layerCache runtime layerMap layer = .ok (name, cache) ∧
      LayerPlaced host layer.source targetBlockIds cache := by
  obtain ⟨⟨name, cache⟩, hcache, h⟩ := run_liftExcept_bind_ok_iff.mp h
  refine ⟨name, cache, hcache, ?_⟩
  cases cache with
  | array storage =>
    simp only at h
    split at h
    next hfive =>
      obtain ⟨_, mid, hrun, _⟩ := run_bind_ok_iff.mp h
      unfold LayerPlaced
      rw [layerLog, if_pos hfive]
      exact allPlaced_combined hrun _
    next hfive =>
      obtain ⟨_, mid, hrun, _⟩ := run_bind_ok_iff.mp h
      exact layerPlaced_of_separate hrun (by rw [layerLog, if_neg hfive])
  | pair key value =>
    obtain ⟨_, mid, hrun, _⟩ := run_bind_ok_iff.mp h
    exact layerPlaced_of_separate hrun rfl
  | dict key value =>
    obtain ⟨_, mid, hrun, _⟩ := run_bind_ok_iff.mp h
    exact layerPlaced_of_separate hrun rfl

theorem run_registerAll_ok {layers : List (PreparedLayer P)} {written : List (String × Option Bool)}
    {cells after : Cell → E}
    (h : (registerAll host limit runtime layerMap targetBlockIds layers).run cells =
      .ok written after) {layer : PreparedLayer P} (hlayer : layer ∈ layers) :
    ∃ one before next,
      (registerLayer host limit runtime layerMap targetBlockIds layer).run before = .ok one next := by
  induction layers generalizing cells written after with
  | nil => cases hlayer
  | cons first layers ih =>
    obtain ⟨one, mid, hfirst, h⟩ := run_bind_ok_iff.mp h
    obtain ⟨rest, last, hrest, _⟩ := run_bind_ok_iff.mp h
    rcases List.mem_cons.mp hlayer with rfl | hlayer
    · exact ⟨one, cells, mid, hfirst⟩
    · exact ih hrest hlayer

/-- Every element of a payload has its cells. -/
def PlacesAll (host : CacheHost P E) (runtime : VllmRuntime) (call : RegistryCall P) : Prop :=
  ∃ layerMap, getLayerMap runtime = .ok layerMap ∧ ∀ layer ∈ call.layers, ∃ name cache views,
    layerCache runtime layerMap layer = .ok (name, cache) ∧
    layerBlockViews layer.source = .ok views ∧
    AllPlaced host layer.source views cache.Room (placements host runtime call)

theorem placesAll_of_registered {call : RegistryCall P} {registration : Registration}
    {cells after : Cell → E}
    (h : (directRegisterIntoKvCaches host limit runtime call).run cells = .ok registration after) :
    PlacesAll host runtime call := by
  unfold directRegisterIntoKvCaches at h
  split at h
  next => cases h
  next =>
    obtain ⟨layerMap, hmap, h⟩ := run_liftExcept_bind_ok_iff.mp h
    obtain ⟨targetBlockIds, hids, h⟩ := run_liftExcept_bind_ok_iff.mp h
    obtain ⟨written, last, hall, _⟩ := run_bind_ok_iff.mp h
    refine ⟨layerMap, hmap, ?_⟩
    intro layer hlayer
    obtain ⟨one, before, next, hone⟩ := run_registerAll_ok hall hlayer
    obtain ⟨name, cache, hcache, views, hviews, hplaced⟩ := layerPlaced_of_registered hone
    refine ⟨name, cache, views, hcache, hviews, hplaced.mono ?_⟩
    intro write hwrite
    rw [placements, hmap, onOk, hids, onOk]
    refine List.mem_flatMap.mpr ⟨layer, hlayer, ?_⟩
    rw [hcache]
    exact hwrite

end Elements

end PermeantOS
