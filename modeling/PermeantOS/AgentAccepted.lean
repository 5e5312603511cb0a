import PermeantOS.AgentPlan

namespace PermeantOS

variable {P : Type} {host : AgentHost P} {package workspace : Directory}

section Entries

theorem item_of_get_str {value : Json P} {key text : String} (h : value.get key = .ok (.str text)) :
    value.item key = .ok (.str text) := by
  obtain ⟨fields, rfl, hlookup⟩ := Json.get_ok_iff.mp h
  refine Json.item_ok_iff.mpr ⟨fields, rfl, ?_⟩
  cases hfound : fields.lookup key with
  | none =>
    rw [hfound] at hlookup
    cases hlookup
  | some found =>
    rw [hfound] at hlookup
    exact congrArg some hlookup

theorem getOr_of_get_str {value default : Json P} {key text : String} (h : value.get key = .ok (.str text)) :
    value.getOr key default = .ok (.str text) := Json.getOr_of_item (item_of_get_str h) default

theorem refuseEntry_ok_iff {c : Bool} {artifact : Json P} {message : String → String} :
    refuseEntry host c artifact message = .ok () ↔ c = false := by
  cases c with
  | false => simp [refuseEntry]
  | true =>
    rw [refuseEntry, if_pos rfl, except_bind_ok_iff]
    simp

/-- The hash and the size of a blob are those of its entry. -/
structure BlobFits (host : AgentHost P) (artifact : Json P) (blob : List UInt8) : Prop where
  sha256 : artifact.item "sha256" = .ok (.str (sha256Bytes host blob))
  size : ∃ size, artifact.item "size_bytes" = .ok size ∧ pyEq host (.int blob.length) size = true

theorem checkBlob_ok_iff {artifact : Json P} {blob : List UInt8} :
    (∃ verified, checkBlob host artifact (sha256Bytes host blob) blob.length = .ok verified) ↔
      BlobFits host artifact blob ∧ (∃ path, artifact.item "path" = .ok path) ∧
        ∃ blobPath, artifact.item "blob_path" = .ok blobPath := by
  constructor
  · intro h
    obtain ⟨verified, h⟩ := h
    obtain ⟨sha256, hsha256, h⟩ := except_bind_ok_iff.mp h
    obtain ⟨hhash, h⟩ := except_bind_unit_ok_iff.mp h
    obtain ⟨size, hsize, h⟩ := except_bind_ok_iff.mp h
    obtain ⟨hlength, h⟩ := except_bind_unit_ok_iff.mp h
    obtain ⟨path, hpath, h⟩ := except_bind_ok_iff.mp h
    obtain ⟨blobPath, hblobPath, _⟩ := except_bind_ok_iff.mp h
    rw [refuseEntry_ok_iff, Bool.not_eq_false'] at hhash hlength
    rw [(pyEq_str_left_iff host).mp hhash] at hsha256
    exact ⟨⟨hsha256, size, hsize, hlength⟩, ⟨path, hpath⟩, blobPath, hblobPath⟩
  · intro h
    obtain ⟨⟨hsha256, size, hsize, hlength⟩, ⟨path, hpath⟩, blobPath, hblobPath⟩ := h
    rw [checkBlob, except_bind_of_ok hsha256,
      except_bind_of_ok (refuseEntry_ok_iff.mpr (by rw [pyEq_str_self]; rfl)), except_bind_of_ok hsize,
      except_bind_of_ok (refuseEntry_ok_iff.mpr (by rw [hlength]; rfl)), except_bind_of_ok hpath,
      except_bind_of_ok hblobPath]
    exact ⟨_, rfl⟩

/-- An entry that passes its checks: it is to be bound again elsewhere, or its blob is in the package as it says. -/
inductive EntryFits (host : AgentHost P) (package : Directory) (disk : Disk) (artifact : Json P) : Prop
  | rebound {path : Json P} (hvalid : validateArtifactManifestEntry host artifact = .ok ())
      (hpolicy : artifact.get "restore_policy" = .ok (.str "external_rebind"))
      (hpath : artifact.item "path" = .ok path) : EntryFits host package disk artifact
  | packaged {path blobPath : Json P} {relative : PurePath} {blob : List UInt8}
      (hvalid : validateArtifactManifestEntry host artifact = .ok ())
      (hpolicy : artifact.get "restore_policy" ≠ .ok (.str "external_rebind"))
      (hpath : artifact.item "path" = .ok path) (hblobPath : artifact.item "blob_path" = .ok blobPath)
      (hrelative : safePackageRelativePath blobPath = .ok relative)
      (hblob : readBytes disk (package.names ++ relative.parts) = .ok blob) (hfits : BlobFits host artifact blob) :
    EntryFits host package disk artifact

theorem run_liftDisk_ok_iff {α : Type} {f : Disk → Except PyException α} {world world' : World} {a : α} :
    (liftDisk f).run world = .ok a world' ↔ f world.disk = .ok a ∧ world' = world := by
  rw [liftDisk, run_get_bind]
  exact run_liftExcept_ok_iff

theorem run_verifyArtifact_iff {artifact : Json P} {world : World} :
    (∃ verified middle, (verifyArtifact host package artifact).run world = .ok verified middle) ↔
      EntryFits host package world.disk artifact := by
  constructor
  · intro h
    obtain ⟨verified, middle, h⟩ := h
    unfold verifyArtifact at h
    obtain ⟨_, hvalid, h⟩ := run_liftExcept_bind_ok_iff.mp h
    obtain ⟨policy, hpolicy, h⟩ := run_liftExcept_bind_ok_iff.mp h
    split at h
    next hexternal =>
      obtain ⟨path, hpath, _⟩ := run_liftExcept_bind_ok_iff.mp h
      rw [(pyEq_str_iff host).mp hexternal] at hpolicy
      exact .rebound hvalid hpolicy hpath
    next hpackaged =>
      obtain ⟨blobPath, hblobPath, h⟩ := run_liftExcept_bind_ok_iff.mp h
      obtain ⟨relative, hrelative, h⟩ := run_liftExcept_bind_ok_iff.mp h
      obtain ⟨_, start, hexists, h⟩ := run_bind_ok_iff.mp h
      obtain ⟨_, rfl⟩ := run_liftDisk_ok_iff.mp hexists
      obtain ⟨_, _, h⟩ := run_liftExcept_bind_ok_iff.mp h
      obtain ⟨found, after, hhash, h⟩ := run_bind_ok_iff.mp h
      obtain ⟨blob, last, hread, hhash⟩ := run_bind_ok_iff.mp hhash
      obtain ⟨location, hresolve, hfile, _⟩ := run_openRead_ok_iff.mp hread
      cases hhash
      obtain ⟨hfits, ⟨path, hpath⟩, _⟩ := checkBlob_ok_iff.mp ⟨verified, (run_liftExcept_ok_iff.mp h).1⟩
      refine .packaged hvalid ?_ hpath hblobPath hrelative (readBytes_ok_iff.mpr ⟨location, hresolve, hfile⟩) hfits
      intro hexternal
      cases hpolicy.symm.trans hexternal
      exact hpackaged (pyEq_str_self host _)
  · intro h
    cases h with
    | rebound hvalid hpolicy hpath =>
      obtain ⟨fields, rfl, _⟩ := Json.item_ok_iff.mp hpath
      rw [verifyArtifact, run_liftExcept_bind_of_ok hvalid, run_liftExcept_bind_of_ok hpolicy,
        if_pos (pyEq_str_self host _), run_liftExcept_bind_of_ok hpath,
        run_liftExcept_bind_of_ok (Json.get_ok_iff.mpr ⟨fields, rfl, rfl⟩)]
      exact ⟨_, _, rfl⟩
    | @packaged path blobPath relative blob hvalid hpolicy hpath hblobPath hrelative hblob hfits =>
      obtain ⟨fields, rfl, _⟩ := Json.item_ok_iff.mp hpath
      have hget : (Json.dict fields).get "restore_policy" = .ok ((fields.lookup "restore_policy").getD .null) :=
        Json.get_ok_iff.mpr ⟨fields, rfl, rfl⟩
      have hpackaged : ¬pyEq host ((fields.lookup "restore_policy").getD .null) (.str "external_rebind") = true := by
        rw [pyEq_str_iff]
        intro heq
        exact hpolicy (hget.trans (congrArg Except.ok heq))
      have hdots := package.not_mem_append (safeRelativePath_ok hrelative).1.no_dots
      have hfound : refuseIf (!true) s!"missing artifact blob: {pyStr host blobPath}" = .ok () := rfl
      have hexists : (liftDisk fun disk => .ok (fileExists disk (package.names ++ relative.parts)) : AgentIO Bool).run
          world = .ok true world :=
        run_liftDisk_ok_iff.mpr ⟨congrArg Except.ok (fileExists_of_readBytes hblob), rfl⟩
      obtain ⟨verified, hverified⟩ := checkBlob_ok_iff.mpr ⟨hfits, ⟨path, hpath⟩, blobPath, hblobPath⟩
      rw [verifyArtifact, run_liftExcept_bind_of_ok hvalid, run_liftExcept_bind_of_ok hget, if_neg hpackaged,
        run_liftExcept_bind_of_ok hblobPath, run_liftExcept_bind_of_ok hrelative]
      dsimp only
      rw [run_bind_of_ok hexists, run_liftExcept_bind_of_ok hfound,
        run_bind_of_ok (run_fileSha256AndSize_of_readBytes host world.log hdots hblob)]
      dsimp only
      rw [hverified]
      exact ⟨verified, _, rfl⟩

theorem EntryFits.mono {disk disk' : Disk} {artifact : Json P} (h : EntryFits host package disk artifact)
    (hkept : ∀ path, package.names <+: path → ".." ∉ path →
      ∀ bytes, readBytes disk path = .ok bytes → readBytes disk' path = .ok bytes) :
    EntryFits host package disk' artifact := by
  cases h with
  | rebound hvalid hpolicy hpath => exact .rebound hvalid hpolicy hpath
  | packaged hvalid hpolicy hpath hblobPath hrelative hblob hfits =>
    have hdots := package.not_mem_append (safeRelativePath_ok hrelative).1.no_dots
    exact .packaged hvalid hpolicy hpath hblobPath hrelative (hkept _ (List.prefix_append _ _) hdots _ hblob) hfits

theorem EntryFits.fetchable {disk : Disk} {artifact : Json P} (h : EntryFits host package disk artifact) :
    Fetchable host package disk artifact := by
  cases h with
  | @rebound path hvalid hexternal hpath =>
    refine ⟨⟨path, hpath⟩, ?_⟩
    intro policy relative target hpolicy hpackaged hpaths
    cases (getOr_of_get_str hexternal).symm.trans hpolicy
    rw [pyEq_str_self] at hpackaged
    cases hpackaged
  | @packaged path blobPath relative blob hvalid hexternal hpath hblobPath hrelative hblob hfits =>
    refine ⟨⟨path, hpath⟩, ?_⟩
    intro policy source target hpolicy hpackaged hpaths
    obtain ⟨found, _, _, hfound, hsource, _⟩ := artifactPaths_ok_iff.mp hpaths
    cases hblobPath.symm.trans hfound
    cases hrelative.symm.trans hsource
    exact ⟨blob, hblob⟩

/-- An entry that passes its checks and those of its paths brings its blob, as long as the blob is there. -/
theorem EntryFits.delivers {disk : Disk} {artifact : Json P} (h : EntryFits host package disk artifact)
    (hcheck : checkArtifactPaths host artifact = .ok ()) (workspace : Directory) :
    ∃ found, delivery host package workspace disk artifact = .ok found := by
  cases h with
  | rebound hvalid hexternal hpath =>
    rw [delivery, except_bind_of_ok (getOr_of_get_str hexternal), if_pos (pyEq_str_self host _)]
    exact ⟨none, rfl⟩
  | @packaged path blobPath relative blob hvalid hexternal hpath hblobPath hrelative hblob hfits =>
    obtain ⟨fields, rfl, _⟩ := Json.item_ok_iff.mp hpath
    have hpolicy : (Json.dict fields).getOr "restore_policy" (.str "required") =
      .ok ((fields.lookup "restore_policy").getD (.str "required")) := rfl
    have htargetPath : (Json.dict fields).getOr "target_path" path =
      .ok ((fields.lookup "target_path").getD path) := rfl
    obtain ⟨target, htarget, _⟩ := pathAllowedByPrefix_true (checkArtifactPaths_target hcheck hpath htargetPath)
    have hpaths : artifactPaths (.dict fields) = .ok (relative, target) :=
      artifactPaths_ok_iff.mpr ⟨_, _, _, hblobPath, hrelative, hpath, htargetPath, htarget⟩
    have hdots := package.not_mem_append (artifactPaths_dots hpaths).1
    obtain ⟨location, hresolve, hfile⟩ := readBytes_ok_iff.mp hblob
    cases resolve_of_not_mem hdots hresolve
    have hstatus : restoreStatus host (.dict fields) ((fields.lookup "restore_policy").getD (.str "required"))
        (sha256Bytes host blob) = .ok .restored := by
      rw [restoreStatus, except_bind_of_ok hfits.sha256, if_pos (pyEq_str_self host _)]
      rfl
    rw [delivery, except_bind_of_ok hpolicy]
    split
    next => exact ⟨none, rfl⟩
    next =>
      rw [except_bind_of_ok hpaths]
      dsimp only
      rw [except_bind_of_ok (liftFile_ok_iff.mpr (fileContent_ok_iff.mpr hfile)), except_bind_of_ok hstatus]
      exact ⟨_, rfl⟩

end Entries

section Packages

variable {targetRuntime : String} {manifest graph : Json P} {artifacts : List (Json P)} {disk disk' : Disk}
  {world : World}

/-- A package that passes every check that comes before the restore. -/
structure Accepted (host : AgentHost P) (package : Directory) (targetRuntime : String) (disk : Disk)
    (manifest graph : Json P) (artifacts : List (Json P)) : Prop where
  documents : packageAt host package disk = .ok (manifest, graph)
  checks : ∃ reports, checkDocuments host manifest graph targetRuntime = .ok reports
  listed : manifestArtifacts manifest = .ok artifacts
  entries : ∀ artifact ∈ artifacts, EntryFits host package disk artifact

/-- What the checks after the restore ask of the documents. -/
structure SessionFits (host : AgentHost P) (manifest graph : Json P) (artifacts : List (Json P)) : Prop where
  prompt : ∃ prompt, reconstructPrompt host graph = .ok prompt ∧ (asBytes prompt).length ≤ 2 ^ 32 ∧
    ManifestContinues host manifest prompt
  hashes : ∃ hashes, artifacts.mapM artifactHash = .ok hashes
  store : ∃ store, manifest.item "artifact_store" = .ok store

theorem run_verifyEach_iff :
    (∃ verified middle, (artifacts.mapM (verifyArtifact host package)).run world = .ok verified middle) ↔
      ∀ artifact ∈ artifacts, EntryFits host package world.disk artifact := by
  induction artifacts generalizing world with
  | nil => exact iff_of_true ⟨[], world, rfl⟩ (by simp)
  | cons artifact artifacts ih =>
    rw [List.mapM_cons, List.forall_mem_cons]
    constructor
    · intro h
      obtain ⟨verified, middle, h⟩ := h
      obtain ⟨first, start, hfirst, h⟩ := run_bind_ok_iff.mp h
      obtain ⟨rest, last, hrest, _⟩ := run_bind_ok_iff.mp h
      have hsame : SameDisk world (leftState ((verifyArtifact host package artifact).run world)) :=
        sameDisk_verifyArtifact artifact world
      rw [hfirst, leftState_ok] at hsame
      exact ⟨run_verifyArtifact_iff.mp ⟨first, start, hfirst⟩, hsame.disk ▸ ih.mp ⟨rest, last, hrest⟩⟩
    · intro h
      obtain ⟨first, start, hfirst⟩ := run_verifyArtifact_iff.mpr h.1
      have hsame : SameDisk world (leftState ((verifyArtifact host package artifact).run world)) :=
        sameDisk_verifyArtifact artifact world
      rw [hfirst, leftState_ok] at hsame
      obtain ⟨rest, last, hrest⟩ := ih.mpr (hsame.disk.symm ▸ h.2)
      rw [run_bind_of_ok hfirst, run_bind_of_ok hrest]
      exact ⟨_, last, rfl⟩

theorem run_verifyPackage_accepted {verified : VerifiedPackage P} {middle : World}
    (h : (verifyPackage host package targetRuntime).run world = .ok verified middle) :
    ∃ artifacts, Accepted host package targetRuntime world.disk verified.manifest verified.graph artifacts := by
  obtain ⟨documents, start, hread, h⟩ := run_bind_ok_iff.mp h
  obtain ⟨reports, hreports, h⟩ := run_liftExcept_bind_ok_iff.mp h
  obtain ⟨found, last, hverify, h⟩ := run_bind_ok_iff.mp h
  cases h
  obtain ⟨hdocuments, hdisk⟩ := run_readPackage_ok host hread
  obtain ⟨artifacts, hartifacts, hverify⟩ := run_liftExcept_bind_ok_iff.mp hverify
  exact ⟨artifacts, hdocuments, ⟨reports, hreports⟩, hartifacts, hdisk ▸ run_verifyEach_iff.mp ⟨found, _, hverify⟩⟩

theorem Accepted.run_verifyPackage (h : Accepted host package targetRuntime world.disk manifest graph artifacts) :
    ∃ verified middle, (verifyPackage host package targetRuntime).run world = .ok verified middle ∧
      verified.manifest = manifest ∧ verified.graph = graph ∧ middle.disk = world.disk := by
  obtain ⟨reports, hreports⟩ := h.checks
  have hread := run_readPackage_of_packageAt host world h.documents
  obtain ⟨verified, middle, hverify⟩ : ∃ verified middle, (artifacts.mapM (verifyArtifact host package)).run
      ⟨world.disk, world.log ++ packageReads package manifest⟩ = .ok verified middle :=
    run_verifyEach_iff.mpr h.entries
  have hrun : (verifyPackage host package targetRuntime).run world =
      .ok ⟨manifest, graph, reports.1, reports.2.1, reports.2.2, verified⟩ middle := by
    rw [verifyPackage, run_bind_of_ok hread]
    dsimp only
    rw [run_liftExcept_bind_of_ok hreports, verifyArtifacts]
    refine run_bind_ok_iff.mpr ⟨verified, middle, ?_, rfl⟩
    rw [run_liftExcept_bind_of_ok h.listed, hverify]
  exact ⟨_, middle, hrun, rfl, rfl, (run_verifyPackage_ok hrun).1.disk⟩

theorem documentPaths_begin {location : Location} (h : location ∈ documentPaths package manifest) :
    package.names <+: location := by
  rw [documentPaths] at h
  split at h
  next =>
    simp only [List.mem_cons, List.not_mem_nil, or_false] at h
    rcases h with rfl | rfl
    · exact List.prefix_append _ _
    · exact List.prefix_append _ _
  next => cases h

/-- The documents of a package are up to the files that they are read from. -/
theorem packageAt_of_kept (hpackage : packageAt host package disk = .ok (manifest, graph))
    (hkept : ∀ path ∈ documentPaths package manifest, ".." ∉ path →
      ∀ bytes, readBytes disk path = .ok bytes → readBytes disk' path = .ok bytes) :
    packageAt host package disk' = .ok (manifest, graph) := by
  obtain ⟨found, hmanifest, hpackage⟩ := except_bind_ok_iff.mp hpackage
  obtain ⟨graphPath, hgraphPath, hpackage⟩ := except_bind_ok_iff.mp hpackage
  obtain ⟨relative, hrelative, hpackage⟩ := except_bind_ok_iff.mp hpackage
  obtain ⟨read, hgraph, hpackage⟩ := except_bind_ok_iff.mp hpackage
  cases hpackage
  have hpaths : documentPaths package manifest = [manifestPath package, package.names ++ relative.parts] := by
    rw [documentPaths, except_bind_of_ok hgraphPath, hrelative]
  have hkeeps : ∀ path ∈ documentPaths package manifest, ".." ∉ path → ∀ value,
      jsonAt host disk path = .ok value → jsonAt host disk' path = .ok value := by
    intro path hpath hdots value hvalue
    obtain ⟨content, hread, hparse⟩ := jsonAt_ok_iff.mp hvalue
    exact jsonAt_ok_iff.mpr ⟨content, hkept path hpath hdots content hread, hparse⟩
  have hdots : ".." ∉ manifestPath package := package.not_mem_append (by decide)
  have hdots' := package.not_mem_append (safeRelativePath_ok hrelative).1.no_dots
  rw [packageAt, except_bind_of_ok (hkeeps _ (by simp [hpaths]) hdots _ hmanifest),
    except_bind_of_ok hgraphPath, except_bind_of_ok hrelative,
    except_bind_of_ok (hkeeps _ (by simp [hpaths]) hdots' _ hgraph)]
  rfl

/-- The package is accepted wherever its files are the same. -/
theorem Accepted.mono (h : Accepted host package targetRuntime disk manifest graph artifacts)
    (hkept : ∀ path, package.names <+: path → ".." ∉ path →
      ∀ bytes, readBytes disk path = .ok bytes → readBytes disk' path = .ok bytes) :
    Accepted host package targetRuntime disk' manifest graph artifacts :=
  ⟨packageAt_of_kept h.documents fun path hpath hdots => hkept path (documentPaths_begin hpath) hdots, h.checks,
    h.listed, fun artifact hmem => (h.entries artifact hmem).mono hkept⟩

/-- A session that goes on has the entries for it in its manifest. -/
theorem continues_of_checkContinuation {evidence : ImportEvidence}
    (h : checkContinuation host manifest graph = .ok evidence) :
    ∃ prompt, reconstructPrompt host graph = .ok prompt ∧ (asBytes prompt).length ≤ 2 ^ 32 ∧
      ManifestContinues host manifest prompt := by
  obtain ⟨prompt, hprompt, h⟩ := except_bind_ok_iff.mp h
  dsimp only at h
  obtain ⟨kvHash, hkvHash, h⟩ := except_bind_ok_iff.mp h
  obtain ⟨promptEntry, hpromptEntry, h⟩ := except_bind_ok_iff.mp h
  obtain ⟨byteHash, hbyteHash, h⟩ := except_bind_ok_iff.mp h
  obtain ⟨hbytes, h⟩ := except_bind_unit_ok_iff.mp h
  obtain ⟨expectedTokens, htokenHash, h⟩ := except_bind_ok_iff.mp h
  obtain ⟨htokens, h⟩ := except_bind_unit_ok_iff.mp h
  obtain ⟨kvEntry, hkvEntry, h⟩ := except_bind_ok_iff.mp h
  obtain ⟨expectedKv, hexpectedKv, h⟩ := except_bind_ok_iff.mp h
  obtain ⟨hkv, h⟩ := except_bind_unit_ok_iff.mp h
  obtain ⟨artifacts, hartifacts, h⟩ := except_bind_ok_iff.mp h
  obtain ⟨artifact, hartifact, h⟩ := except_bind_ok_iff.mp h
  obtain ⟨sha256, hsha256, h⟩ := except_bind_ok_iff.mp h
  obtain ⟨expected, hexpected, h⟩ := except_bind_ok_iff.mp h
  obtain ⟨hresponse, _⟩ := except_bind_unit_ok_iff.mp h
  rw [refuseIf_ok_iff, Bool.not_eq_false', pyEq_str_left_iff] at hbytes htokens hkv hresponse
  subst hbytes htokens hkv hresponse
  rw [simulatedKvHash] at hkvHash
  split at hkvHash
  next hshort =>
    cases hkvHash
    exact ⟨prompt, hprompt, hshort, ⟨promptEntry, hpromptEntry, hbyteHash, htokenHash⟩,
      ⟨kvEntry, hkvEntry, hexpectedKv⟩, artifacts, artifact, sha256, hartifacts, hartifact, hsha256, hexpected⟩
  next => cases hkvHash

/-- The checks after the restore, spelled out. -/
theorem finishImport_ok_iff {verified : VerifiedPackage P} {hash : Json P} {report : List (RestoreEntry P)}
    (hhash : verified.graph.item "graph_hash" = .ok hash)
    (hartifacts : manifestArtifacts verified.manifest = .ok artifacts) :
    (∃ result, finishImport host verified workspace report = .ok result) ↔
      SessionFits host verified.manifest verified.graph artifacts := by
  constructor
  · intro h
    obtain ⟨result, h⟩ := h
    obtain ⟨evidence, hevidence, h⟩ := except_bind_ok_iff.mp h
    obtain ⟨_, _, h⟩ := except_bind_ok_iff.mp h
    obtain ⟨found, hfound, h⟩ := except_bind_ok_iff.mp h
    obtain ⟨hashes, hhashes, h⟩ := except_bind_ok_iff.mp h
    obtain ⟨store, hstore, _⟩ := except_bind_ok_iff.mp h
    cases hartifacts.symm.trans hfound
    exact ⟨continues_of_checkContinuation hevidence, ⟨hashes, hhashes⟩, store, hstore⟩
  · intro h
    obtain ⟨prompt, hprompt, hshort, hcontinues⟩ := h.prompt
    obtain ⟨hashes, hhashes⟩ := h.hashes
    obtain ⟨store, hstore⟩ := h.store
    exact hcontinues.finishImport verified hprompt hshort hhash hartifacts hhashes hstore workspace report

section Outcomes

/-- What an import of a package that is not accepted leaves. -/
theorem run_importSession_of_refused (workspace : Option Directory)
    (h : ∀ manifest graph artifacts, ¬Accepted host package targetRuntime world.disk manifest graph artifacts) :
    ∃ e world', (importSession host package workspace targetRuntime).run world = .error e world' ∧
      world'.disk = world.disk := by
  cases hverify : (verifyPackage host package targetRuntime).run world with
  | ok verified middle =>
    obtain ⟨artifacts, haccepted⟩ := run_verifyPackage_accepted hverify
    exact absurd haccepted (h _ _ artifacts)
  | error e middle =>
    have hsame := sameDisk_verifyPackage host package targetRuntime world
    rw [hverify] at hsame
    exact ⟨e, middle, by rw [importSession, run_bind_of_error hverify], hsame.disk⟩

theorem verifyGraph_ok {expectedHash : Json P} (h : verifyGraph host graph expectedHash = .ok ()) :
    ∃ hash, expectedHash = .str hash ∧ canonicalGraphHash host graph = .ok hash ∧
      graph.get "graph_hash" = .ok (.str hash) := by
  obtain ⟨hash, hhash, h⟩ := except_bind_ok_iff.mp h
  obtain ⟨hequal, h⟩ := except_bind_unit_ok_iff.mp h
  obtain ⟨field, hfield, h⟩ := except_bind_ok_iff.mp h
  rw [refuseIf_ok_iff, Bool.not_eq_false'] at hequal h
  cases (pyEq_str_left_iff host).mp hequal
  rw [(pyEq_str_iff host).mp h] at hfield
  exact ⟨hash, rfl, hhash, hfield⟩

theorem Accepted.graphHash (h : Accepted host package targetRuntime disk manifest graph artifacts) :
    ∃ hash, manifest.item "graph_hash" = .ok (.str hash) ∧
    canonicalGraphHash host graph = .ok hash ∧ graph.item "graph_hash" = .ok (.str hash) := by
  obtain ⟨reports, hreports⟩ := h.checks
  obtain ⟨expected, hexpected, hverifies⟩ := (checkDocuments_ok hreports).verified
  obtain ⟨hash, rfl, hhash, hget⟩ := verifyGraph_ok hverifies
  exact ⟨hash, hexpected, hhash, item_of_get_str hget⟩

theorem Accepted.run_importSession_of_error {e : PyException} (workspace : Option Directory)
    (h : Accepted host package targetRuntime world.disk manifest graph artifacts)
    (hplan : (restorePlan host package (workspaceOr package workspace) world.disk artifacts).2 = .error e) :
    ∃ world', (importSession host package workspace targetRuntime).run world = .error e world' ∧
      SameFiles (writeAll world.disk ((restorePlan host package (workspaceOr package workspace) world.disk
        artifacts).1.map (Delivery.write (workspaceOr package workspace)))) world'.disk := by
  obtain ⟨verified, middle, hverify, rfl, rfl, hdisk⟩ := h.run_verifyPackage
  have hfetch : ∀ artifact ∈ artifacts, Fetchable host package middle.disk artifact :=
    fun artifact hmem => hdisk.symm ▸ (h.entries artifact hmem).fetchable
  rw [← hdisk] at hplan ⊢
  obtain ⟨world', hrestore, hsame⟩ := (run_restoreEach_plan hfetch).2 e hplan
  refine ⟨world', ?_, hsame⟩
  rw [importSession, run_bind_of_ok hverify]
  refine run_bind_of_error ?_
  rw [restoreArtifacts, run_liftExcept_bind_of_ok h.listed, hrestore]

/-- Past the restore, an import is up to the documents. -/
theorem Accepted.run_importSession_of_ok (workspace : Option Directory)
    (h : Accepted host package targetRuntime world.disk manifest graph artifacts)
    (hplan : (restorePlan host package (workspaceOr package workspace) world.disk artifacts).2 = .ok disk') :
    ∃ log, (SessionFits host manifest graph artifacts →
        ∃ result, (importSession host package workspace targetRuntime).run world = .ok result ⟨disk', log⟩) ∧
      (¬SessionFits host manifest graph artifacts →
        ∃ e, (importSession host package workspace targetRuntime).run world = .error e ⟨disk', log⟩) := by
  obtain ⟨hash, _, _, hhash⟩ := h.graphHash
  obtain ⟨verified, middle, hverify, rfl, rfl, hdisk⟩ := h.run_verifyPackage
  have hfetch : ∀ artifact ∈ artifacts, Fetchable host package middle.disk artifact :=
    fun artifact hmem => hdisk.symm ▸ (h.entries artifact hmem).fetchable
  rw [← hdisk] at hplan
  obtain ⟨report, log, hreport⟩ := (run_restoreEach_plan hfetch).1 disk' hplan
  have hrestore : (restoreArtifacts host package verified.manifest (workspaceOr package workspace)).run middle =
      .ok report ⟨disk', log⟩ := by
    rw [restoreArtifacts, run_liftExcept_bind_of_ok h.listed, hreport]
  have hrun : (importSession host package workspace targetRuntime).run world =
      (liftExcept (finishImport host verified (workspaceOr package workspace) report) : AgentIO _).run
        ⟨disk', log⟩ := by
    rw [importSession, run_bind_of_ok hverify]
    exact run_bind_of_ok hrestore
  have hiff : (∃ result, finishImport host verified (workspaceOr package workspace) report = .ok result) ↔
    SessionFits host verified.manifest verified.graph artifacts := finishImport_ok_iff hhash h.listed
  refine ⟨log, ?_, ?_⟩
  · intro hfits
    obtain ⟨result, hresult⟩ := hiff.mpr hfits
    exact ⟨result, hrun.trans (run_liftExcept_ok_iff.mpr ⟨hresult, rfl⟩)⟩
  · intro hunfit
    cases hresult : finishImport host verified (workspaceOr package workspace) report with
    | ok result => exact absurd (hiff.mp ⟨result, hresult⟩) hunfit
    | error e =>
      rw [hrun, hresult]
      exact ⟨e, rfl⟩

end Outcomes

section Documents

/-- No artifact is restored over one of the two documents of a package. -/
def KeepsDocuments (host : AgentHost P) (package workspace : Directory) (disk : Disk) (manifest : Json P)
    (artifacts : List (Json P)) : Prop :=
  ∀ brought ∈ deliveries host package workspace disk artifacts,
    brought.place workspace ∉ documentPaths package manifest

/-- The documents of a package, as a restore leaves them, name a graph with a hash. -/
def LeavesGraph (host : AgentHost P) (package workspace : Directory) (disk : Disk) (artifacts : List (Json P))
    (hash : String) : Prop :=
  ∃ restored manifest graph, (restorePlan host package workspace disk artifacts).2 = .ok restored ∧
    packageAt host package restored = .ok (manifest, graph) ∧ canonicalGraphHash host graph = .ok hash

theorem keepsDocuments_of_apart (h : ApartFrom package workspace) (disk : Disk) (manifest : Json P)
    (artifacts : List (Json P)) : KeepsDocuments host package workspace disk manifest artifacts :=
  fun brought _ hpath => h.not_begins (documentPaths_begin hpath) (brought.place_begins workspace)

theorem KeepsDocuments.packageAt (h : KeepsDocuments host package workspace disk manifest artifacts)
    (hpackage : packageAt host package disk = .ok (manifest, graph))
    (hplan : (restorePlan host package workspace disk artifacts).2 = .ok disk') :
    PermeantOS.packageAt host package disk' = .ok (manifest, graph) := by
  refine packageAt_of_kept hpackage ?_
  intro path hpath hdots bytes hread
  refine restorePlan_reads hdots hplan ?_ hread
  intro brought hmem hplace
  rw [restorePlan_deliveries (SameFiles.refl disk) hplan] at hmem
  exact absurd (hplace ▸ hpath) (h brought hmem)

/-- An import that returned has come to the end of its plan. -/
theorem run_importSession_planned {workspace : Option Directory} {result : ImportResult P} {world' : World}
    (h : (importSession host package workspace targetRuntime).run world = .ok result world') :
    ∃ manifest graph artifacts, Accepted host package targetRuntime world.disk manifest graph artifacts ∧
      SessionFits host manifest graph artifacts ∧
      (restorePlan host package (workspaceOr package workspace) world.disk artifacts).2 = .ok world'.disk := by
  obtain ⟨verified, middle, _, hverify, _, _⟩ := run_importSession_ok_iff.mp h
  obtain ⟨artifacts, haccepted⟩ := run_verifyPackage_accepted hverify
  refine ⟨_, _, artifacts, haccepted, ?_⟩
  cases hplan : (restorePlan host package (workspaceOr package workspace) world.disk artifacts).2 with
  | error e =>
    obtain ⟨_, hrun, _⟩ := haccepted.run_importSession_of_error workspace hplan
    cases h.symm.trans hrun
  | ok disk =>
    obtain ⟨log, hgoes, hrefused⟩ := haccepted.run_importSession_of_ok workspace hplan
    by_cases hfits : SessionFits host verified.manifest verified.graph artifacts
    · obtain ⟨_, hrun⟩ := hgoes hfits
      cases h.symm.trans hrun
      exact ⟨hfits, rfl⟩
    · obtain ⟨_, hrun⟩ := hrefused hfits
      cases h.symm.trans hrun

end Documents

end Packages

section Drafts

variable (host) {targetRuntime graphPath path : String} {nodes : List (Json P)} {content : List UInt8} {disk : Disk}
  {target : PurePath}

theorem entryFits_blobDraft (hblob : readBytes disk ["package", "blob"] = .ok content) :
    EntryFits host draftPackage disk (blobArtifact host path content) := by
  have hsize : pyEq host (.int content.length) (.int content.length) = true := by
    simp [pyEq, numbersEq, Json.asInt]
  have hpolicy : (blobArtifact host path content).get "restore_policy" ≠ .ok (.str "external_rebind") := by
    simp [blobArtifact, Json.get, List.lookup_cons]
  have hrelative : safePackageRelativePath (.str "blob" : Json P) = .ok ⟨"", ["blob"]⟩ := rfl
  exact .packaged (validateArtifactManifestEntry_blobDraft host) hpolicy rfl rfl hrelative hblob
    ⟨rfl, _, rfl, hsize⟩

theorem accepted_blobDraft {reports : SecurityReport P × List (AuditEntry P) × VectorReport P}
    (hpackage : packageAt host draftPackage disk =
      .ok (draftManifest host (blobDraft host graphPath path nodes content),
        draftGraph host (blobDraft host graphPath path nodes content)))
    (hreports : checkDocuments host (draftManifest host (blobDraft host graphPath path nodes content))
      (draftGraph host (blobDraft host graphPath path nodes content)) targetRuntime = .ok reports)
    (hblob : readBytes disk ["package", "blob"] = .ok content) :
    Accepted host draftPackage targetRuntime disk (draftManifest host (blobDraft host graphPath path nodes content))
      (draftGraph host (blobDraft host graphPath path nodes content)) [blobArtifact host path content] := by
  refine ⟨hpackage, ⟨reports, hreports⟩, rfl, ?_⟩
  intro artifact hmem
  cases List.mem_singleton.mp hmem
  exact entryFits_blobDraft host hblob

theorem sessionFits_blobDraft (hmessages : messagesOf host nodes = .ok []) :
    SessionFits host (draftManifest host (blobDraft host graphPath path nodes content))
      (draftGraph host (blobDraft host graphPath path nodes content)) [blobArtifact host path content] := by
  have hprompt : reconstructPrompt host (draftGraph host (blobDraft host graphPath path nodes content)) = .ok "\n" :=
    reconstructPrompt_draft host hmessages
  exact ⟨⟨"\n", hprompt, by decide, continues_draft host _⟩, ⟨_, rfl⟩, ⟨_, rfl⟩⟩

/-- The one artifact of a draft is delivered to its target. -/
theorem deliveries_blobDraft (hblob : disk ["package", "blob"] = some (.file content))
    (htarget : safeWorkspaceRelativePath (.str path : Json P) = .ok target)
    (hne : ["package", "blob"] ≠ workspace.names ++ target.parts) :
    deliveries host draftPackage workspace disk [blobArtifact host path content] = [⟨target, .restored, content⟩] := by
  have hpolicy : (blobArtifact host path content).getOr "restore_policy" (.str "required") =
    .ok (.str "required") := rfl
  have hexternal : ¬pyEq host (.str "required") (.str "external_rebind") = true := by
    rw [pyEq_str_iff]
    simp
  have hblobPath : (blobArtifact host path content).item "blob_path" = .ok (.str "blob") := rfl
  have hrelative : safePackageRelativePath (.str "blob" : Json P) = .ok ⟨"", ["blob"]⟩ := rfl
  have hpaths : artifactPaths (blobArtifact host path content) = .ok (⟨"", ["blob"]⟩, target) :=
    artifactPaths_ok_iff.mpr ⟨_, _, _, hblobPath, hrelative, rfl, rfl, htarget⟩
  have hstatus : restoreStatus host (blobArtifact host path content) (.str "required")
      (sha256Bytes host content) = .ok .restored := by
    simp [restoreStatus, blobArtifact, Json.item, pyEq_str_self, bind, Except.bind, pure, Except.pure]
  have hfile : liftFile (fileContent (disk (draftPackage.names ++ ["blob"]))) = .ok content :=
    liftFile_ok_iff.mpr (fileContent_ok_iff.mpr hblob)
  have hdelivery : delivery host draftPackage workspace disk (blobArtifact host path content) =
      .ok (some ⟨target, .restored, content⟩) := by
    rw [delivery, except_bind_of_ok hpolicy, if_neg hexternal, except_bind_of_ok hpaths]
    dsimp only
    rw [except_bind_of_ok hfile, except_bind_of_ok hstatus]
    exact congrArg (fun bytes => Except.ok (some (Delivery.mk target .restored bytes))) (if_neg hne)
  rw [deliveries, hdelivery]
  rfl

end Drafts

end PermeantOS
