import PermeantOS.ReceiverThreads

namespace PermeantOS

variable {P : Type}

section Effect

variable {host : AdapterHost P} {parseFloat : List Char → P} {stateDir : Directory}

/-- What `_inject` does once the payload is written. -/
def acknowledge (host : AdapterHost P) (parseFloat : List Char → P) (stateDir : Directory) (hash : String)
    (answer : ConsumerAnswer P) : PyIO (Fields P) := do
  let result ← liftExcept (callConsumer answer)
  if succeeded host result = true then do
    let hashes ← inspect (loadAcknowledged parseFloat stateDir)
    update (saveAcknowledged host.floatRepr stateDir (insert hash hashes))
    pure result
  else pure result

theorem run_inject_of_error {payload : Fields P} {e : PyException} (h : injectedHash payload = .error e)
    (answer : ConsumerAnswer P) (disk : Disk) :
    (inject host parseFloat stateDir payload answer).run disk = .error e disk := by
  unfold inject
  exact run_bind_of_error (by rw [h, run_liftExcept_error])

theorem run_inject_of_hash {payload : Fields P} {hash : String} (h : injectedHash payload = .ok hash)
    (answer : ConsumerAnswer P) (disk : Disk) :
    (inject host parseFloat stateDir payload answer).run disk =
      (writePayload host stateDir payload hash >>= fun _ =>
        acknowledge host parseFloat stateDir hash answer).run disk := by
  unfold inject
  rw [run_liftExcept_bind_of_ok h]
  rfl

/-- An acknowledgement changes at most the file of the acknowledgements, and adds its hash there. -/
theorem run_acknowledge (host : AdapterHost P) (parseFloat : List Char → P) (stateDir : Directory) (hash : String)
    (answer : ConsumerAnswer P) (disk : Disk) :
    leftState ((acknowledge host parseFloat stateDir hash answer).run disk) = disk ∨
      ∃ hashes disk', loadAcknowledged parseFloat stateDir disk = .ok hashes ∧
        saveAcknowledged host.floatRepr stateDir (insert hash hashes) disk = .ok disk' ∧
        leftState ((acknowledge host parseFloat stateDir hash answer).run disk) = disk' := by
  unfold acknowledge
  cases hanswer : callConsumer answer with
  | error e => exact .inl rfl
  | ok result =>
    rw [run_liftExcept_bind_of_ok rfl]
    by_cases hsuccess : succeeded host result = true
    · rw [if_pos hsuccess]
      cases hload : loadAcknowledged parseFloat stateDir disk with
      | error e =>
        rw [run_bind_of_error (run_inspect_of_error hload)]
        exact .inl rfl
      | ok hashes =>
        rw [run_bind_of_ok (run_inspect_of_ok hload)]
        cases hsave : saveAcknowledged host.floatRepr stateDir (insert hash hashes) disk with
        | error e =>
          rw [run_bind_of_error (run_update_of_error hsave)]
          exact .inl rfl
        | ok disk' =>
          rw [run_bind_of_ok (run_update_of_ok hsave)]
          exact .inr ⟨hashes, disk', rfl, hsave, rfl⟩
    · rw [if_neg hsuccess]
      exact .inl rfl

theorem acknowledged_acknowledge {hash other : String} {answer : ConsumerAnswer P} {disk : Disk}
    (h : Acknowledged parseFloat stateDir disk other) : Acknowledged parseFloat stateDir
      (leftState ((acknowledge host parseFloat stateDir hash answer).run disk)) other := by
  rcases run_acknowledge host parseFloat stateDir hash answer disk with
    hsame | ⟨hashes, disk', hload, hsave, hleft⟩
  · rwa [hsame]
  · rw [hleft]
    obtain ⟨found, hfound, hmem⟩ := h
    cases hload.symm.trans hfound
    exact ⟨_, loadAcknowledged_saved parseFloat hsave, Finset.mem_insert_of_mem hmem⟩

theorem acknowledge_other {hash : String} {answer : ConsumerAnswer P} {disk : Disk} {location : Location}
    (h : location ≠ ackFile stateDir) :
    leftState ((acknowledge host parseFloat stateDir hash answer).run disk) location = disk location := by
  rcases run_acknowledge host parseFloat stateDir hash answer disk with
    hsame | ⟨hashes, disk', _, hsave, hleft⟩
  · rw [hsame]
  · rw [hleft]
    obtain ⟨found, hresolve, _, rfl⟩ := writeBytes_ok_iff.mp hsave
    rw [resolve_ackFile hresolve, Function.update_of_ne h]

end Effect

section Runs

variable (host : AdapterHost P) (parseFloat : List Char → P) (stateDir : Directory)

/-- A request with what its consumer will answer. -/
abbrev InjectRequest (P : Type) := Fields P × ConsumerAnswer P

/-- The hash of a request, and the place where its payload was written, if it was. -/
def storedPayload (disk : Disk) (payload : Fields P) : Option (String × Location) :=
  match injectedHash payload with
  | .error _ => none
  | .ok hash =>
    match (writePayload host stateDir payload hash).run disk with
    | .error _ _ => none
    | .ok _ _ => (payloadLocation stateDir disk hash).map fun location => (hash, location)

/-- The disk after some requests, and where their payloads were written. -/
structure Served where
  disk : Disk
  stored : List (String × Location)

def serveInject (served : Served) (request : InjectRequest P) : Served where
  disk := leftState ((inject host parseFloat stateDir request.1 request.2).run served.disk)
  stored := served.stored ++ (storedPayload host stateDir served.disk request.1).toList

def serveEach (disk : Disk) (requests : List (InjectRequest P)) : Served :=
  requests.foldl (serveInject host parseFloat stateDir) ⟨disk, []⟩

/-- The payload of a request goes neither to the file of the acknowledgements nor to the place of a
payload with another hash. -/
def Apart (served : Served) (request : InjectRequest P) : Prop :=
  ∀ hash location, injectedHash request.1 = .ok hash →
    payloadLocation stateDir served.disk hash = some location →
      location ≠ ackFile stateDir ∧ ∀ stored ∈ served.stored, stored.2 = location → stored.1 = hash

variable {host parseFloat stateDir}

theorem serveInject_acknowledged {served : Served} {request : InjectRequest P}
    (hapart : Apart stateDir served request) {other : String}
    (h : Acknowledged parseFloat stateDir served.disk other) :
    Acknowledged parseFloat stateDir (serveInject host parseFloat stateDir served request).disk other := by
  show Acknowledged _ _ (leftState ((inject host parseFloat stateDir request.1 request.2).run served.disk)) _
  cases hhash : injectedHash request.1 with
  | error e =>
    rw [run_inject_of_error hhash]
    exact h
  | ok hash =>
    have hwrite : Acknowledged parseFloat stateDir
        (leftState ((writePayload host stateDir request.1 hash).run served.disk)) other := by
      apply acknowledged_writePayload _ h
      intro hlocation
      exact (hapart hash _ hhash hlocation).1 rfl
    rw [run_inject_of_hash hhash]
    cases hrun : (writePayload host stateDir request.1 hash).run served.disk with
    | error e disk =>
      rw [hrun] at hwrite
      rwa [run_bind_of_error hrun]
    | ok _ disk =>
      rw [hrun] at hwrite
      rw [run_bind_of_ok hrun]
      exact acknowledged_acknowledge hwrite

/-- Every payload that was written is a file, and none is the file of the acknowledgements. -/
def StoredApart (stateDir : Directory) (served : Served) : Prop :=
  ∀ stored ∈ served.stored, (∃ content, served.disk stored.2 = some (.file content)) ∧
    stored.2 ≠ ackFile stateDir

/-- A file that is neither the file of the acknowledgements nor the place of the payload stays. -/
theorem serveInject_other {served : Served} {request : InjectRequest P} {location : Location}
    {content : List UInt8} (hfile : served.disk location = some (.file content))
    (hack : location ≠ ackFile stateDir)
    (hpayload : ∀ hash, injectedHash request.1 = .ok hash →
      payloadLocation stateDir served.disk hash ≠ some location) :
    (serveInject host parseFloat stateDir served request).disk location = some (.file content) := by
  show leftState ((inject host parseFloat stateDir request.1 request.2).run served.disk) location = _
  cases hhash : injectedHash request.1 with
  | error e =>
    rw [run_inject_of_error hhash]
    exact hfile
  | ok hash =>
    rw [run_inject_of_hash hhash]
    rcases run_writePayload host stateDir request.1 hash served.disk with
      ⟨mid, place, hfiles, hplace, _, hrun⟩ | ⟨mid, e, hfiles, hrun⟩
    · rw [run_bind_of_ok hrun, acknowledge_other hack, Function.update_of_ne]
      · exact (hfiles.file_iff location content).mpr hfile
      · rintro rfl
        exact hpayload hash hhash hplace
    · rw [run_bind_of_error hrun]
      exact (hfiles.file_iff location content).mpr hfile

/-- The place of the payload is a file afterwards. -/
theorem serveInject_place {served : Served} {request : InjectRequest P} {hash : String} {location : Location}
    (hhash : injectedHash request.1 = .ok hash)
    (hlocation : payloadLocation stateDir served.disk hash = some location)
    (hack : location ≠ ackFile stateDir)
    (hbefore : (∃ content, served.disk location = some (.file content)) ∨
      storedPayload host stateDir served.disk request.1 = some (hash, location)) :
    ∃ content, (serveInject host parseFloat stateDir served request).disk location = some (.file content) := by
  show ∃ content, leftState ((inject host parseFloat stateDir request.1 request.2).run served.disk) location =
    some (.file content)
  rw [run_inject_of_hash hhash]
  rcases run_writePayload host stateDir request.1 hash served.disk with
    ⟨mid, place, _, hplace, _, hrun⟩ | ⟨mid, e, hfiles, hrun⟩
  · cases hlocation.symm.trans hplace
    rw [run_bind_of_ok hrun, acknowledge_other hack, Function.update_self]
    exact ⟨_, rfl⟩
  · rw [run_bind_of_error hrun]
    rcases hbefore with ⟨content, hfile⟩ | hstored
    · exact ⟨content, (hfiles.file_iff location content).mpr hfile⟩
    · rw [storedPayload, hhash] at hstored
      dsimp only at hstored
      rw [hrun] at hstored
      cases hstored

theorem storedPayload_eq_some {disk : Disk} {payload : Fields P} {stored : String × Location}
    (h : storedPayload host stateDir disk payload = some stored) :
    injectedHash payload = .ok stored.1 ∧ payloadLocation stateDir disk stored.1 = some stored.2 := by
  unfold storedPayload at h
  cases hhash : injectedHash payload with
  | error e =>
    rw [hhash] at h
    cases h
  | ok hash =>
    rw [hhash] at h
    dsimp only at h
    cases hrun : (writePayload host stateDir payload hash).run disk with
    | error e mid =>
      rw [hrun] at h
      cases h
    | ok _ mid =>
      rw [hrun] at h
      obtain ⟨location, hlocation, rfl⟩ := Option.map_eq_some_iff.mp h
      exact ⟨rfl, hlocation⟩

theorem serveInject_storedApart {served : Served} {request : InjectRequest P}
    (hstored : StoredApart stateDir served) (hapart : Apart stateDir served request) :
    StoredApart stateDir (serveInject host parseFloat stateDir served request) := by
  intro stored hmem
  rcases List.mem_append.mp hmem with hold | hnew
  · obtain ⟨⟨content, hfile⟩, hack⟩ := hstored stored hold
    refine ⟨?_, hack⟩
    by_cases hplace : ∃ hash, injectedHash request.1 = .ok hash ∧
        payloadLocation stateDir served.disk hash = some stored.2
    · obtain ⟨hash, hhash, hlocation⟩ := hplace
      exact serveInject_place hhash hlocation hack (.inl ⟨content, hfile⟩)
    · refine ⟨content, serveInject_other hfile hack ?_⟩
      intro hash hhash hlocation
      exact hplace ⟨hash, hhash, hlocation⟩
  · have hat := Option.mem_toList.mp hnew
    obtain ⟨hhash, hlocation⟩ := storedPayload_eq_some hat
    have hack := (hapart stored.1 stored.2 hhash hlocation).1
    exact ⟨serveInject_place hhash hlocation hack (.inr hat), hack⟩

theorem serveEach_concat (disk : Disk) (requests : List (InjectRequest P)) (request : InjectRequest P) :
    serveEach host parseFloat stateDir disk (requests ++ [request]) =
      serveInject host parseFloat stateDir (serveEach host parseFloat stateDir disk requests) request := by
  rw [serveEach, List.foldl_append, serveEach]
  rfl

theorem serveEach_storedApart {disk : Disk} {requests : List (InjectRequest P)}
    (h : ∀ front request, front ++ [request] <+: requests →
      Apart stateDir (serveEach host parseFloat stateDir disk front) request) :
    StoredApart stateDir (serveEach host parseFloat stateDir disk requests) := by
  induction requests using List.reverseRecOn with
  | nil =>
    intro stored hmem
    cases hmem
  | append_singleton requests request ih =>
    rw [serveEach_concat]
    apply serveInject_storedApart
    · exact ih fun front last hfront => h front last (hfront.trans (List.prefix_append _ _))
    · exact h requests request (List.prefix_refl _)

/-- In a run whose payloads stay apart, every request keeps what is acknowledged, and the payload of an
earlier hash is changed only by a request for that hash. Hashes are sequences of Unicode scalars. -/
theorem serveEach_keeps {disk : Disk} {requests : List (InjectRequest P)}
    (h : ∀ front request, front ++ [request] <+: requests →
      Apart stateDir (serveEach host parseFloat stateDir disk front) request) :
    ∀ front request, front ++ [request] <+: requests →
      (∀ hash, Acknowledged parseFloat stateDir (serveEach host parseFloat stateDir disk front).disk hash →
        Acknowledged parseFloat stateDir
          (serveEach host parseFloat stateDir disk (front ++ [request])).disk hash) ∧
      ∀ stored ∈ (serveEach host parseFloat stateDir disk front).stored,
        injectedHash request.1 ≠ .ok stored.1 →
          (serveEach host parseFloat stateDir disk (front ++ [request])).disk stored.2 =
            (serveEach host parseFloat stateDir disk front).disk stored.2 := by
  intro front request hfront
  have hapart := h front request hfront
  have hstored : StoredApart stateDir (serveEach host parseFloat stateDir disk front) := by
    apply serveEach_storedApart
    intro before last hbefore
    exact h before last (hbefore.trans ((List.prefix_append _ _).trans hfront))
  rw [serveEach_concat]
  refine ⟨fun hash hack => serveInject_acknowledged hapart hack, ?_⟩
  intro stored hmem hother
  obtain ⟨⟨content, hfile⟩, hack⟩ := hstored stored hmem
  rw [hfile]
  apply serveInject_other hfile hack
  intro hash hhash hlocation
  have hsame := (hapart hash stored.2 hhash hlocation).2 stored hmem rfl
  exact hother (hsame ▸ hhash)

theorem payloadFile_of_plain {hash : String} (h : '/' ∉ hash.toList) :
    payloadFile stateDir hash = stateDir.names ++ [hash ++ ".json"] := by
  have hslash : '/' ∉ (hash ++ ".json").toList := by
    rw [String.toList_append, List.mem_append, not_or]
    exact ⟨h, by decide⟩
  have hlength : 5 ≤ (hash ++ ".json").toList.length := by
    rw [String.toList_append, List.length_append]
    exact Nat.le_add_left _ _
  have hroot : (hash ++ ".json").toList.takeWhile (fun c => decide (c = '/')) = [] := by
    cases hchars : (hash ++ ".json").toList with
    | nil => rfl
    | cons c cs =>
      rw [hchars, List.mem_cons, not_or] at hslash
      rw [List.takeWhile_cons_of_neg (by simpa using fun heq => hslash.1 heq.symm)]
  have hparts : ((hash ++ ".json").toList.splitOn '/').filter
      (fun part => decide (part ≠ [] ∧ part ≠ ['.'])) = [(hash ++ ".json").toList] := by
    have hkept : decide ((hash ++ ".json").toList ≠ [] ∧ (hash ++ ".json").toList ≠ ['.']) = true := by
      rw [decide_eq_true_eq]
      constructor
      · intro hnil
        rw [hnil] at hlength
        cases hlength
      · intro hdot
        rw [hdot] at hlength
        exact absurd hlength (by decide)
    rw [List.splitOn_eq_singleton hslash]
    exact List.filter_cons_of_pos hkept
  unfold payloadFile PurePath.parse
  rw [hroot, hparts]
  show stateDir.names ++ [String.ofList (hash ++ ".json").toList] = _
  rw [String.ofList_toList]

theorem payloadLocation_of_plain {disk : Disk} {hash : String} {location : Location}
    (h : '/' ∉ hash.toList) (hlocation : payloadLocation stateDir disk hash = some location) :
    location = stateDir.names ++ [hash ++ ".json"] := by
  unfold payloadLocation at hlocation
  cases hdirs : makeDirs disk stateDir.names with
  | error e =>
    rw [hdirs] at hlocation
    cases hlocation
  | ok mid =>
    rw [hdirs] at hlocation
    dsimp only at hlocation
    rw [payloadFile_of_plain h] at hlocation
    have hdots : ".." ∉ stateDir.names ++ [hash ++ ".json"] := by
      rw [List.mem_append, not_or]
      refine ⟨stateDir.no_dots, ?_⟩
      intro hmem
      have hlength := congrArg (fun text => text.toList.length) (List.mem_singleton.mp hmem)
      simp only [String.toList_append, List.length_append] at hlength
      have htwo : "..".toList.length = 2 := rfl
      have hfive : ".json".toList.length = 5 := rfl
      omega
    cases hresolve : resolve mid (stateDir.names ++ [hash ++ ".json"]) with
    | error e =>
      rw [hresolve] at hlocation
      cases hlocation
    | ok found =>
      rw [hresolve] at hlocation
      cases hlocation
      exact resolve_of_not_mem hdots hresolve

/-- Every hash of a request is a plain name, and none is the name of the file of the acknowledgements. -/
def PlainHashes (requests : List (InjectRequest P)) : Prop :=
  ∀ request ∈ requests, ∀ hash, injectedHash request.1 = .ok hash → '/' ∉ hash.toList ∧ hash ≠ "acked"

theorem serveEach_stored_of_plain (host : AdapterHost P) (parseFloat : List Char → P) (disk : Disk)
    {requests : List (InjectRequest P)}
    (h : PlainHashes requests) : ∀ stored ∈ (serveEach host parseFloat stateDir disk requests).stored,
      stored.2 = stateDir.names ++ [stored.1 ++ ".json"] := by
  induction requests using List.reverseRecOn with
  | nil =>
    intro stored hmem
    cases hmem
  | append_singleton requests request ih =>
    rw [serveEach_concat]
    intro stored hmem
    rcases List.mem_append.mp hmem with hold | hnew
    · exact ih (fun other hother => h other (List.mem_append_left _ hother)) stored hold
    · obtain ⟨hhash, hlocation⟩ := storedPayload_eq_some (Option.mem_toList.mp hnew)
      exact payloadLocation_of_plain (h request (by simp) stored.1 hhash).1 hlocation

/-- Hashes that are plain names, of Unicode scalars, keep their payloads apart. -/
theorem apart_of_plain {disk : Disk} {requests : List (InjectRequest P)} (h : PlainHashes requests)
    (front : List (InjectRequest P)) (request : InjectRequest P) (hfront : front ++ [request] <+: requests) :
    Apart stateDir (serveEach host parseFloat stateDir disk front) request := by
  intro hash location hhash hlocation
  have hmem : ∀ other ∈ front ++ [request], other ∈ requests := fun other hother => hfront.subset hother
  obtain ⟨hslash, hacked⟩ := h request (hmem request (by simp)) hash hhash
  have hplace := payloadLocation_of_plain hslash hlocation
  have hname : ∀ a b : String, stateDir.names ++ [a ++ ".json"] = stateDir.names ++ [b ++ ".json"] → a = b := by
    intro a b heq
    exact (String.append_left_inj _).mp (List.cons.inj (List.append_cancel_left heq)).1
  refine ⟨?_, ?_⟩
  · intro heq
    exact hacked (hname hash "acked" (hplace.symm.trans heq))
  · intro stored hstored heq
    have hplain := serveEach_stored_of_plain host parseFloat disk
      (fun other hother => h other (hmem other (by simp [hother]))) stored hstored
    exact hname stored.1 hash (hplain.symm.trans (heq.trans hplace))

def plainRequests : List (InjectRequest F32) := [([("hash", .str "a")], none), ([("hash", .str "b")], none)]

theorem plainRequests_keep :
    Acknowledged (fun _ => (⟨0⟩ : F32)) stateFolder
        (serveEach pythonAdapter (fun _ => ⟨0⟩) stateFolder rootDisk plainRequests).disk "a" ∧
      (serveEach pythonAdapter (fun _ => ⟨0⟩) stateFolder rootDisk plainRequests).disk ["state", "a.json"] =
        (serveEach pythonAdapter (fun _ => ⟨0⟩) stateFolder rootDisk
          [([("hash", .str "a")], none)]).disk ["state", "a.json"] := by
  have hplain : PlainHashes plainRequests := by
    intro request hmem hash hhash
    have hcases : request = ([("hash", .str "a")], none) ∨ request = ([("hash", .str "b")], none) := by
      simpa [plainRequests] using hmem
    rcases hcases with rfl | rfl
    · cases hhash
      decide
    · cases hhash
      decide
  have hapart : ∀ front request, front ++ [request] <+: plainRequests → Apart stateFolder
      (serveEach pythonAdapter (fun _ => ⟨0⟩) stateFolder rootDisk front) request := apart_of_plain hplain
  have hkeeps := serveEach_keeps hapart [([("hash", .str "a")], none)] ([("hash", .str "b")], none)
    (List.prefix_refl _)
  refine ⟨hkeeps.1 "a" ⟨{"a"}, by decide +kernel, by decide⟩, ?_⟩
  apply hkeeps.2 ("a", ["state", "a.json"]) (by decide +kernel)
  decide

/-- A request for `acked` takes the place of what is acknowledged, and one for `./a` that of the payload
of `a`. -/
theorem names_collide :
    (Acknowledged (fun _ => (⟨0⟩ : F32)) stateFolder
        (serveEach pythonAdapter (fun _ => ⟨0⟩) stateFolder rootDisk [([("hash", .str "a")], none)]).disk "a" ∧
      ¬Acknowledged (fun _ => (⟨0⟩ : F32)) stateFolder
        (serveEach pythonAdapter (fun _ => ⟨0⟩) stateFolder rootDisk
          [([("hash", .str "a")], none), ([("hash", .str "acked")], none)]).disk "a") ∧
      ("a", ["state", "a.json"]) ∈ (serveEach pythonAdapter (fun _ => ⟨0⟩) stateFolder rootDisk
          [([("hash", .str "a")], none)]).stored ∧
        (serveEach pythonAdapter (fun _ => ⟨0⟩) stateFolder rootDisk
            [([("hash", .str "a")], none), ([("hash", .str "./a")], none)]).disk ["state", "a.json"] ≠
          (serveEach pythonAdapter (fun _ => ⟨0⟩) stateFolder rootDisk
            [([("hash", .str "a")], none)]).disk ["state", "a.json"] := by
  refine ⟨⟨⟨{"a"}, by decide +kernel, by decide⟩, ?_⟩, by decide +kernel, by decide +kernel⟩
  intro hack
  obtain ⟨hashes, hload, hmem⟩ := hack
  have honly : loadAcknowledged (fun _ => (⟨0⟩ : F32)) stateFolder
      (serveEach pythonAdapter (fun _ => ⟨0⟩) stateFolder rootDisk
        [([("hash", .str "a")], none), ([("hash", .str "acked")], none)]).disk = .ok {"acked"} := by
    decide +kernel
  cases honly.symm.trans hload
  exact absurd hmem (by decide)

end Runs

end PermeantOS
