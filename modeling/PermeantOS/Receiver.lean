import PermeantOS.PyFiles
import PermeantOS.RuntimeAdapters

namespace PermeantOS

variable {P : Type}

section Acknowledgements

def ackFile (stateDir : Directory) : List String := stateDir.names ++ ["acked.json"]

def hashStrings : Json P → List String
  | .list items => items.filterMap fun item => match item with
    | .str hash => some hash
    | _ => none
  | _ => []

def loadAcknowledged (parseFloat : List Char → P) (stateDir : Directory) (disk : Disk) :
    Except PyException (Finset String) :=
  if fileExists disk (ackFile stateDir) = false then .ok ∅
  else do
    let text ← readText disk (ackFile stateDir)
    match jsonLoads parseFloat text with
    | .error _ => pure ∅
    | .ok payload => pure (hashStrings payload).toFinset

/-- `json.dumps(sorted(hashes), indent=2)` -/
def acknowledgedText (floatRepr : P → String) (hashes : Finset String) : String :=
  jsonDumpsIndented floatRepr (.list ((hashes.sort (· ≤ ·)).map .str))

def saveAcknowledged (floatRepr : P → String) (stateDir : Directory) (hashes : Finset String)
    (disk : Disk) : Except FileError Disk :=
  writeBytes disk (ackFile stateDir) (asBytes (acknowledgedText floatRepr hashes))

variable {floatRepr : P → String} {parseFloat : List Char → P} {stateDir : Directory} {disk : Disk}

theorem printable_strings (hashes : List String) :
    PrintableItems floatRepr parseFloat (hashes.map .str) := by
  induction hashes with
  | nil => trivial
  | cons hash hashes ih => exact ⟨trivial, ih⟩

theorem hashStrings_strings (hashes : List String) :
    hashStrings (.list (hashes.map .str) : Json P) = hashes := by
  rw [hashStrings, List.filterMap_map]
  exact List.filterMap_some

/-- What was saved is loaded again. -/
theorem loadAcknowledged_of_content {hashes : Finset String}
    (h : readBytes disk (ackFile stateDir) = .ok (asBytes (acknowledgedText floatRepr hashes))) :
    loadAcknowledged parseFloat stateDir disk = .ok hashes := by
  have hprintable : Printable floatRepr parseFloat (.list ((hashes.sort (· ≤ ·)).map .str)) :=
    printable_strings _
  have hreturn : '\r' ∉ (acknowledgedText floatRepr hashes).toList := by
    rw [acknowledgedText, jsonDumpsIndented, String.toList_ofList]
    exact return_not_mem_indentChars 0 _ hprintable
  have hloads := jsonLoads_indented hprintable [] (by simp)
  rw [List.append_nil] at hloads
  rw [loadAcknowledged, if_neg (by simp [fileExists_of_readBytes h]),
    except_bind_of_ok (readText_of_readBytes h hreturn), acknowledgedText, jsonDumpsIndented, hloads]
  show Except.ok _ = _
  rw [hashStrings_strings, Finset.sort_toFinset]

theorem loadAcknowledged_saved (parseFloat : List Char → P) {hashes : Finset String} {disk' : Disk}
    (h : saveAcknowledged floatRepr stateDir hashes disk = .ok disk') :
    loadAcknowledged parseFloat stateDir disk' = .ok hashes := by
  obtain ⟨location, hresolve, hdir, rfl⟩ := writeBytes_ok_iff.mp h
  exact loadAcknowledged_of_content (readBytes_written hresolve hdir)

/-- A hash that `_verify` finds acknowledged. -/
def Acknowledged (parseFloat : List Char → P) (stateDir : Directory) (disk : Disk) (hash : String) : Prop :=
  ∃ hashes, loadAcknowledged parseFloat stateDir disk = .ok hashes ∧ hash ∈ hashes

theorem readBytes_of_acknowledged {hash : String} (h : Acknowledged parseFloat stateDir disk hash) :
    ∃ content, readBytes disk (ackFile stateDir) = .ok content := by
  obtain ⟨hashes, hload, hmem⟩ := h
  unfold loadAcknowledged at hload
  split at hload
  next =>
    cases hload
    exact absurd hmem (Finset.notMem_empty hash)
  next =>
    obtain ⟨text, htext, _⟩ := except_bind_ok_iff.mp hload
    obtain ⟨content, hcontent, _⟩ := except_bind_ok_iff.mp htext
    exact ⟨content, liftFile_ok_iff.mp hcontent⟩

theorem acknowledged_of_readBytes {disk' : Disk} {hash : String}
    (h : Acknowledged parseFloat stateDir disk hash)
    (hread : ∀ content, readBytes disk (ackFile stateDir) = .ok content →
      readBytes disk' (ackFile stateDir) = .ok content) :
    Acknowledged parseFloat stateDir disk' hash := by
  obtain ⟨content, hcontent⟩ := readBytes_of_acknowledged h
  obtain ⟨hashes, hload, hmem⟩ := h
  refine ⟨hashes, ?_, hmem⟩
  rw [← hload]
  unfold loadAcknowledged readText
  rw [hcontent, hread content hcontent, fileExists_of_readBytes hcontent,
    fileExists_of_readBytes (hread content hcontent)]

theorem resolve_ackFile {location : Location} (h : resolve disk (ackFile stateDir) = .ok location) :
    location = ackFile stateDir := by
  apply resolve_of_not_mem _ h
  intro hmem
  rcases List.mem_append.mp hmem with hmem | hmem
  · exact stateDir.no_dots hmem
  · exact absurd (List.mem_singleton.mp hmem) (by decide)

theorem acknowledged_sameFiles {disk' : Disk} {hash : String} (hfiles : SameFiles disk disk')
    (h : Acknowledged parseFloat stateDir disk hash) : Acknowledged parseFloat stateDir disk' hash :=
  acknowledged_of_readBytes h fun _ hcontent => hfiles.readBytes hcontent

theorem acknowledged_update {hash : String} {location : Location} {bytes : List UInt8}
    (hne : location ≠ ackFile stateDir) (hdir : disk location ≠ some .dir)
    (h : Acknowledged parseFloat stateDir disk hash) :
    Acknowledged parseFloat stateDir (Function.update disk location (some (.file bytes))) hash := by
  apply acknowledged_of_readBytes h
  intro content hcontent
  obtain ⟨found, hresolve, _⟩ := readBytes_ok_iff.mp hcontent
  apply readBytes_update hcontent hresolve hdir
  rw [resolve_ackFile hresolve]
  exact hne.symm

end Acknowledgements

section Requests

/-- What the consumer hook does with a payload; `none` where no hook is set. -/
abbrev ConsumerAnswer (P : Type) := Option (Except PyException (Json P))

def callConsumer : ConsumerAnswer P → Except PyException (Fields P)
  | none => .ok [("success", .bool true)]
  | some (.error e) => .error e
  | some (.ok .null) => .ok [("success", .bool true)]
  | some (.ok (.dict result)) => .ok result
  | some (.ok _) => .error (.adapterError "consumer hook must return a dict or None")

/-- A hash is a sequence of Unicode scalars: a lone surrogate, which JSON can spell, is not modelled. -/
def injectedHash (payload : Fields P) : Except PyException String :=
  match nonEmptyString ((payload.lookup "hash").getD .null) with
  | some hash => .ok hash
  | none => .error (.adapterError "inject_block payload requires a non-empty 'hash'")

/-- `state_dir / f"{block_hash}.json"` -/
def payloadFile (stateDir : Directory) (hash : String) : List String :=
  (PurePath.parse (hash ++ ".json")).under stateDir.names

variable (host : AdapterHost P) (parseFloat : List Char → P) (stateDir : Directory)

/-- `result.get("success", True)` -/
def succeeded (result : Fields P) : Bool := ((result.lookup "success").getD (.bool true)).truthy host

def payloadBytes (payload : Fields P) : List UInt8 :=
  asBytes (jsonDumpsIndented host.floatRepr (.dict payload))

def writePayload (payload : Fields P) (hash : String) : PyIO Unit := do
  update (makeDirs · stateDir.names)
  update (writeBytes · (payloadFile stateDir hash) (payloadBytes host payload))

/-- `Receiver._inject` -/
def inject (payload : Fields P) (answer : ConsumerAnswer P) : PyIO (Fields P) := do
  let blockHash ← liftExcept (injectedHash payload)
  writePayload host stateDir payload blockHash
  let result ← liftExcept (callConsumer answer)
  if succeeded host result = true then do
    let hashes ← inspect (loadAcknowledged parseFloat stateDir)
    update (saveAcknowledged host.floatRepr stateDir (insert blockHash hashes))
    pure result
  else pure result

/-- What `_verify` answers when no hash is missing. -/
def consumerVerdict (answer : ConsumerAnswer P) : Except PyException (Fields P) := do
  let result ← callConsumer answer
  if succeeded host result = true then
    pure (result.foldl (fun fields field => dictInsert fields field.1 field.2) [("success", .bool true)])
  else pure result

/-- `Receiver._verify` -/
def verify (payload : Fields P) (answer : ConsumerAnswer P) (disk : Disk) :
    Except PyException (Fields P) :=
  match ((payload.lookup "block_hashes").getD .null).asStrings with
  | none => .error (.adapterError "verify_continuation payload requires string list 'block_hashes'")
  | some hashes => do
    let acknowledged ← loadAcknowledged parseFloat stateDir disk
    if hashes.filter (· ∉ acknowledged) ≠ [] then
      pure [("success", .bool false),
        ("missing_hashes", .list ((hashes.filter (· ∉ acknowledged)).map .str))]
    else consumerVerdict host answer

/-- Where the payload of a hash goes, once the directory is there. -/
def payloadLocation (disk : Disk) (hash : String) : Option Location :=
  match makeDirs disk stateDir.names with
  | .ok disk => (resolve disk (payloadFile stateDir hash)).toOption
  | .error _ => none

theorem mapM_asStr (hashes : List String) :
    (hashes.map .str : List (Json P)).mapM Json.asStr = some hashes := by
  induction hashes with
  | nil => rfl
  | cons hash hashes ih =>
    rw [List.map_cons, List.mapM_cons, ih]
    rfl

theorem verify_of_acknowledged {payload : Fields P} {hashes : List String} {disk : Disk}
    (hpayload : payload.lookup "block_hashes" = some (.list (hashes.map .str))) (hne : hashes ≠ [])
    (h : ∀ hash ∈ hashes, Acknowledged parseFloat stateDir disk hash) (answer : ConsumerAnswer P) :
    verify host parseFloat stateDir payload answer disk = consumerVerdict host answer := by
  obtain ⟨first, rest, rfl⟩ := List.exists_cons_of_ne_nil hne
  obtain ⟨acknowledged, hload, _⟩ := h first List.mem_cons_self
  have hmissing : (first :: rest).filter (fun hash => decide (hash ∉ acknowledged)) = [] := by
    rw [List.filter_eq_nil_iff]
    intro hash hmem
    obtain ⟨found, hfound, hin⟩ := h hash hmem
    cases hload.symm.trans hfound
    simpa using hin
  have hstrings : ((payload.lookup "block_hashes").getD .null).asStrings = some (first :: rest) := by
    rw [hpayload]
    exact mapM_asStr _
  rw [verify, hstrings]
  dsimp only
  rw [except_bind_of_ok hload, if_neg (by simpa using hmissing)]

variable {parseFloat}

/-- A payload is written to one place, and where it is not nothing but directories changes. -/
theorem run_writePayload (payload : Fields P) (hash : String) (disk : Disk) :
    (∃ mid location, SameFiles disk mid ∧ payloadLocation stateDir disk hash = some location ∧
        mid location ≠ some .dir ∧ (writePayload host stateDir payload hash).run disk =
          .ok () (Function.update mid location (some (.file (payloadBytes host payload))))) ∨
      ∃ mid e, SameFiles disk mid ∧ (writePayload host stateDir payload hash).run disk = .error e mid := by
  unfold writePayload payloadLocation
  cases hdirs : makeDirs disk stateDir.names with
  | error e =>
    right
    exact ⟨disk, _, SameFiles.refl disk, run_bind_of_error (run_update_of_error hdirs)⟩
  | ok mid =>
    have hfiles := makeDirs_sameFiles hdirs
    rw [run_bind_of_ok (run_update_of_ok hdirs)]
    cases hwrite : writeBytes mid (payloadFile stateDir hash) (payloadBytes host payload) with
    | error e =>
      right
      exact ⟨mid, _, hfiles, run_update_of_error hwrite⟩
    | ok disk' =>
      left
      obtain ⟨location, hresolve, hdir, rfl⟩ := writeBytes_ok_iff.mp hwrite
      refine ⟨mid, location, hfiles, ?_, hdir, run_update_of_ok hwrite⟩
      dsimp only
      rw [hresolve]
      rfl

end Requests

end PermeantOS
