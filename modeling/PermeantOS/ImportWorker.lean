import PermeantOS.AgentFiles
import PermeantOS.SpanMetadata
import Mathlib.Data.List.Sort

namespace PermeantOS

variable {P : Type}

section Payloads

variable (host : AgentHost P)

/-- The entry of a dictionary, or `None` where the value is none. -/
def entryOf (value : Json P) (key : String) : Json P :=
  match value with
  | .dict fields => (fields.lookup key).getD .null
  | _ => .null

/-- `a` where it is not `None`, else `b`. -/
def firstGiven (a b : Json P) : Json P :=
  match a with
  | .null => b
  | a => a

def optionalText (message : String) : Json P → Except PyException (Option String)
  | .null => .ok none
  | .str text => .ok (some text)
  | _ => .error (.adapterError message)

def optionalTokenIds : Json P → Except PyException (Option (Json P))
  | .null => .ok none
  | .list items =>
    if items.any (fun item => item.asInt.isNone) = true then
      .error (.adapterError "target prompt token_ids must be an integer list when present")
    else .ok (some (.list items))
  | _ => .error (.adapterError "target prompt token_ids must be an integer list when present")

/-- The token count that is given, or that of the token ids. -/
def optionalTokenCount (tokenCount : Json P) (tokenIds : Option (Json P)) : Except PyException (Option Int) :=
  match firstGiven tokenCount (tokenIds.elim .null fun ids => .int ids.asList.length) with
  | .null => .ok none
  | value =>
    match value.asInt.filter (0 < ·) with
    | some count => .ok (some count)
    | none => .error (.adapterError "target prompt token_count must be a positive integer when present")

/-- `_target_prompt_view` -/
def targetPromptView (payload : Json P) : Except PyException (PromptView P) := do
  let promptView := entryOf payload "target_prompt"
  let tokenization := entryOf payload "prompt_tokenization"
  let expectedPrompt ← optionalText "target prompt text must be a string when present"
    (firstGiven (entryOf promptView "text") (entryOf payload "prompt"))
  let expectedTokenIds ← optionalTokenIds
    (firstGiven (entryOf promptView "token_ids") (entryOf payload "prompt_token_ids"))
  let expectedTokenCount ← optionalTokenCount
    (firstGiven (entryOf promptView "token_count") (entryOf tokenization "token_count")) expectedTokenIds
  let expectedTokenizerHash ← optionalText "target prompt tokenizer_hash must be a string when present"
    (firstGiven (entryOf promptView "tokenizer_hash") (entryOf tokenization "tokenizer_hash"))
  pure ⟨expectedPrompt, expectedTokenCount, expectedTokenIds, expectedTokenizerHash⟩

/-- The metadata of a payload, validated for the payload's own view of the prompt. -/
def graphSpanValidation (payload : Fields P) : Except PyException (Option (Json P)) :=
  match payload.lookup "agent_graph_span_metadata" with
  | none => .ok none
  | some metadata =>
    match targetPromptView (.dict payload) >>= validatePromptSpanMetadata host metadata with
    | .ok result => .ok (some result)
    | .error (.spanMetadataError message) => .error (.adapterError ("invalid agent graph span metadata: " ++ message))
    | .error e => .error e

/-- What a hook's answer comes to, with the validation of the metadata if there was any. -/
def hookResult (validation : Option (Json P)) : Json P → Except PyException (Fields P)
  | .null => .ok (withValidation [("success", .bool true)])
  | .dict result => .ok (withValidation result)
  | _ => .error (.adapterError "runtime hook must return a dict or None")
where
  withValidation (result : Fields P) : Fields P :=
    validation.elim result fun validation => dictInsert result "agent_graph_span_validation" validation

/-- `import_dir / text`, with the import directory named from the root on. -/
def importPath (directory : Directory) (text : String) : PurePath :=
  if (PurePath.parse text).isAbsolute then PurePath.parse text
  else ⟨"/", directory.names ++ (PurePath.parse text).parts⟩

/-- `_load_json` -/
def loadObject (disk : Disk) (path : PurePath) : Except PyException (Fields P) := do
  match ← jsonAt host disk path.parts with
  | .dict fields => .ok fields
  | _ => .error (.adapterError (path.asPosix ++ " did not contain a JSON object"))

def descriptorHash (descriptor : Fields P) : Except PyException String :=
  match nonEmptyString ((descriptor.lookup "hash").getD .null) with
  | some hash => .ok hash
  | none => .error (.adapterError "ready descriptor is missing a valid 'hash'")

/-- `_full_payload_path` -/
def fullPayloadPath (directory : Directory) (disk : Disk) (hash : String) : Except PyException PurePath :=
  if fileExists disk (importPath directory (hash ++ ".json")).parts = true then
    .ok (importPath directory (hash ++ ".json"))
  else .error (.adapterError ("staged payload missing for hash " ++ hash))

/-- The hash and the payload that a ready descriptor stands for. -/
def stagedPayload (directory : Directory) (disk : Disk) (ready : String) : Except PyException (String × Fields P) := do
  let descriptor ← loadObject host disk ⟨"/", directory.names ++ [ready]⟩
  let hash ← descriptorHash descriptor
  let path ← fullPayloadPath directory disk hash
  let payload ← loadObject host disk path
  pure (hash, payload)

end Payloads

section Markers

/-- A name that `*.ready.json` matches. -/
def isReady (name : String) : Bool := ".ready.json".toList.isSuffixOf name.toList

/-- `ready_path.with_suffix(".processed.json")` of a name that ends in `.json` -/
def markerName (ready : String) : String :=
  String.ofList (ready.toList.take (ready.toList.length - 5)) ++ ".processed.json"

theorem markerName_toList (ready : String) : (markerName ready).toList =
    ready.toList.take (ready.toList.length - 5) ++ ".processed.json".toList := by
  rw [markerName, String.toList_append, String.toList_ofList]

theorem markerName_ne_dots (ready : String) : markerName ready ≠ ".." := by
  intro h
  have hlen := congrArg (fun text => text.toList.length) h
  simp only [markerName_toList, List.length_append] at hlen
  have : ".processed.json".toList.length = 15 := by decide
  have : "..".toList.length = 2 := by decide
  omega

theorem isReady_iff {name : String} : isReady name = true ↔ ∃ stem, name.toList = stem ++ ".ready.json".toList := by
  rw [isReady, List.isSuffixOf_iff_suffix]
  exact exists_congr fun stem => eq_comm

theorem markerName_injective {a b : String} (ha : isReady a = true) (hb : isReady b = true)
    (h : markerName a = markerName b) : a = b := by
  obtain ⟨front, hfront⟩ := isReady_iff.mp ha
  obtain ⟨back, hback⟩ := isReady_iff.mp hb
  have htake : ∀ stem : List Char, (stem ++ ".ready.json".toList).take
      ((stem ++ ".ready.json".toList).length - 5) = stem ++ ".ready".toList := by
    intro stem
    have hsplit : stem ++ ".ready.json".toList = (stem ++ ".ready".toList) ++ ".json".toList := by
      rw [List.append_assoc]
      rfl
    rw [hsplit]
    apply List.take_left'
    have hlen : ((stem ++ ".ready".toList) ++ ".json".toList).length =
        (stem ++ ".ready".toList).length + ".json".toList.length := List.length_append
    have : ".json".toList.length = 5 := by decide
    omega
  have hlist := congrArg String.toList h
  rw [markerName_toList, markerName_toList, hfront, hback, htake, htake] at hlist
  have hstem := List.append_cancel_right (List.append_cancel_right hlist)
  exact String.toList_injective (by rw [hfront, hback, hstem])

/-- A disk, and the names in the import directory in the order in which the system lists them. -/
structure ImportDirectory (directory : Directory) where
  disk : Disk
  names : List String
  nodup : names.Nodup
  mem_names_iff : ∀ name, name ∈ names ↔ (disk (directory.names ++ [name])).isSome = true

variable {directory : Directory}

def markerPath (directory : Directory) (ready : String) : List String := directory.names ++ [markerName ready]

def ImportDirectory.HasMarker (folder : ImportDirectory directory) (ready : String) : Prop :=
  fileExists folder.disk (markerPath directory ready) = true

instance (folder : ImportDirectory directory) (ready : String) : Decidable (folder.HasMarker ready) :=
  inferInstanceAs (Decidable (fileExists folder.disk (markerPath directory ready) = true))

/-- `sorted(import_dir.glob("*.ready.json"))` -/
def ImportDirectory.readyNames (folder : ImportDirectory directory) : List String :=
  (folder.names.filter fun name => isReady name).insertionSort (· ≤ ·)

theorem resolve_markerPath {disk : Disk} {ready : String} {location : Location}
    (h : resolve disk (markerPath directory ready) = .ok location) : location = markerPath directory ready := by
  apply resolve_of_not_mem _ h
  rw [markerPath, List.mem_append, List.mem_singleton, not_or]
  exact ⟨directory.no_dots, (markerName_ne_dots ready).symm⟩

theorem mem_names_update {folder : ImportDirectory directory} {ready : String} {node : FileNode} (name : String) :
    name ∈ (if markerName ready ∈ folder.names then folder.names else folder.names ++ [markerName ready]) ↔
      (Function.update folder.disk (markerPath directory ready) (some node)
        (directory.names ++ [name])).isSome = true := by
  have hmem : name ∈ (if markerName ready ∈ folder.names then folder.names
      else folder.names ++ [markerName ready]) ↔ name = markerName ready ∨ name ∈ folder.names := by
    split
    next hin =>
      constructor
      · exact Or.inr
      · rintro (rfl | h)
        · exact hin
        · exact h
    next => rw [List.mem_append, List.mem_singleton, or_comm]
  rw [hmem, markerPath]
  by_cases heq : name = markerName ready
  · subst heq
    simp
  · have hne : directory.names ++ [name] ≠ directory.names ++ [markerName ready] := by simpa using heq
    rw [Function.update_of_ne hne, folder.mem_names_iff]
    simp [heq]

/-- The marker of a descriptor is written, and listed from then on. -/
def ImportDirectory.writeMarker (folder : ImportDirectory directory) (ready : String) (content : List UInt8) :
    Except PyException (ImportDirectory directory) :=
  match h : writeBytes folder.disk (markerPath directory ready) content with
  | .error e => .error (.ofFileError e)
  | .ok disk => .ok {
      disk := disk
      names := if markerName ready ∈ folder.names then folder.names else folder.names ++ [markerName ready]
      nodup := by
        split
        next => exact folder.nodup
        next hnew => exact List.nodup_append.mpr ⟨folder.nodup, List.nodup_singleton _, by
          rintro name hname other hother rfl
          exact hnew (List.mem_singleton.mp hother ▸ hname)⟩
      mem_names_iff := by
        obtain ⟨location, hresolve, _, rfl⟩ := writeBytes_ok_iff.mp h
        rw [resolve_markerPath hresolve]
        exact mem_names_update }

end Markers

section Worker

variable (host : AgentHost P) (directory : Directory)

/-- The import directory, and the calls of the hook so far, each with its descriptor and its payload. -/
structure WorkerState (P : Type) (directory : Directory) extends ImportDirectory directory where
  calls : List (String × Fields P)

/-- A hook, which may answer each call as it likes, and the clock. -/
structure ImportHook (P : Type) where
  answer : List (String × Fields P) → Fields P → Except PyException (Json P)
  time : List (String × Fields P) → P

variable (hook : ImportHook P)

abbrev WorkerIO (P : Type) (directory : Directory) (α : Type) := EStateM PyException (WorkerState P directory) α

variable {directory}

def callHook (ready : String) (payload : Fields P) : WorkerIO P directory (Json P) := do
  let state ← get
  set { state with calls := state.calls ++ [(ready, payload)] }
  liftExcept (hook.answer state.calls payload)

def markerBytes (hash : String) (time : P) (result : Fields P) : List UInt8 :=
  asBytes (jsonDumpsIndented host.floatRepr
    (.dict [("hash", .str hash), ("processed_at_epoch_s", .float time), ("result", .dict result)]))

/-- `_record_processed` -/
def recordProcessed (ready hash : String) (result : Fields P) : WorkerIO P directory Unit := do
  let state ← get
  let folder ← liftExcept (state.writeMarker ready (markerBytes host hash (hook.time state.calls) result))
  set { state with toImportDirectory := folder }

/-- `_consume_one` -/
def consumeOne (ready : String) : WorkerIO P directory (Fields P) := do
  let state ← get
  let (hash, payload) ← liftExcept (stagedPayload host directory state.disk ready)
  let validation ← liftExcept (graphSpanValidation host payload)
  let answer ← callHook hook ready payload
  let result ← liftExcept (hookResult validation answer)
  recordProcessed host hook ready hash result
  pure result

/-- The loop over the ready descriptors, without what it prints. -/
def processEach : List String → Nat → WorkerIO P directory Nat
  | [], processed => pure processed
  | ready :: rest, processed => do
    let state ← get
    if state.HasMarker ready then processEach rest processed
    else do
      let _ ← consumeOne host hook ready
      processEach rest (processed + 1)

/-- `run_once` -/
def runOnce : WorkerIO P directory Nat := do
  let state ← get
  processEach host hook state.readyNames 0

/-- The state after some passes, each of which goes on from where the one before it ended or raised. -/
def afterPasses (state : WorkerState P directory) : Nat → WorkerState P directory
  | 0 => state
  | passes + 1 => leftState ((runOnce host hook).run (afterPasses state passes))

end Worker

end PermeantOS
