import PermeantOS.AgentExportKeys

namespace PermeantOS

variable {P : Type} {host : AgentHost P}

section Checks

variable {session : LocalSession} {record : ArtifactRecord} {prompt : String}

theorem canonicalGraphHash_sortKeys {fields : Fields P} (hkeys : (fields.map (·.1)).Nodup) :
    canonicalGraphHash host (sortKeys (.dict fields)) = canonicalGraphHash host (.dict fields) := by
  rw [sortKeys_dict, canonicalGraphHash, canonicalGraphHash]
  have hsame := sortKeys_filter hkeys fun key => decide (key ≠ "graph_hash")
  rw [← sha256Json_sortKeys, hsame, sha256Json_sortKeys]

theorem verifyGraph_exported :
    verifyGraph host (sortKeys (exportedGraph host session record prompt)) (exportedHash host session record prompt) =
      .ok () := by
  have hcanonical : canonicalGraphHash host (sortKeys (exportedGraph host session record prompt)) =
      .ok (sha256Json host (.dict (graphBody host session record prompt))) :=
    (canonicalGraphHash_sortKeys uniqueKeys_graphFields).trans (canonicalGraphHash_body _)
  have hhash : (sortKeys (exportedGraph host session record prompt)).get "graph_hash" =
    .ok (exportedHash host session record prompt) := get_sortKeys uniqueKeys_graphFields rfl
  have hok (message : String) : refuseIf (!pyEq host (exportedHash host session record prompt)
      (exportedHash host session record prompt)) message = .ok () := by
    rw [exportedHash, pyEq_str_self]
    rfl
  rw [verifyGraph, except_bind_of_ok hcanonical, ← exportedHash, except_bind_of_ok (hok _), except_bind_of_ok hhash]
  exact hok _

variable {f : Json P → Json P}

theorem uniqueKeys_manifestArtifact : ((manifestArtifactFields record : Fields P).map (·.1)).Nodup := by
  rw [manifestArtifactFields]
  cases record.blobPath with
  | none => cases record.rebindRequired <;> simp
  | some blobPath => cases record.rebindRequired <;> simp

theorem lookup_manifestArtifact {key : String} {value : Json P}
    (h : [("path", .str record.path), ("sha256", .str record.contentHash), ("size_bytes", .int record.sizeBytes),
      ("media_type", .str record.mediaType), ("restore_policy", .str record.restorePolicy),
      ("target_path", .str record.targetPath), ("packaging", .str record.disposition.text)].lookup key =
        some value) : (manifestArtifactFields record).lookup key = some value := by
  rw [manifestArtifactFields, List.append_assoc, List.lookup_append, h]
  rfl

theorem manifestArtifact_str (hf : Transparent f) {key text : String}
    (h : [("path", .str record.path), ("sha256", .str record.contentHash), ("size_bytes", .int record.sizeBytes),
      ("media_type", .str record.mediaType), ("restore_policy", .str record.restorePolicy),
      ("target_path", .str record.targetPath), ("packaging", .str record.disposition.text)].lookup key =
        some (.str text : Json P)) : (f (manifestArtifact record)).item key = .ok (.str text) :=
  (hf.item uniqueKeys_manifestArtifact (lookup_manifestArtifact h)).trans (congrArg _ (hf.str _))

theorem checkArtifactPaths_exported (hf : Transparent f)
    (hpath : pathAllowedByPrefix (.str record.path : Json P) = .ok true) (htarget : record.targetPath = record.path) :
    checkArtifactPaths host (f (manifestArtifact record)) = .ok () := by
  have hfield : (f (manifestArtifact record)).item "path" = .ok (.str record.path) := manifestArtifact_str hf rfl
  have htargetField : (f (manifestArtifact record)).item "target_path" = .ok (.str record.path) := by
    rw [← htarget]
    exact manifestArtifact_str hf rfl
  have hallowed (message : String) : refuseIf (!true) message = .ok () := rfl
  rw [checkArtifactPaths, except_bind_of_ok (Json.getOr_of_item hfield _), except_bind_of_ok hpath,
    except_bind_of_ok (hallowed _), except_bind_of_ok (Json.getOr_of_item htargetField _),
    except_bind_of_ok hpath]
  exact hallowed _

theorem uniqueKeys_artifactNode : (((artifactNode record : GraphNode P).fields host).map (·.1)).Nodup := by
  by_cases hpackaged : record.disposition = .packaged
  · simp [GraphNode.fields, artifactNode, artifactNodePayload, payloadHead, hpackaged]
  · simp [GraphNode.fields, artifactNode, artifactNodePayload, payloadHead, hpackaged]

theorem checkArtifactNode_exported (hf : Transparent f)
    (hpath : pathAllowedByPrefix (.str record.path : Json P) = .ok true) :
    checkArtifactNode host (f (baseNode host (artifactNode record))) = .ok () := by
  have hfield : (f (baseNode host (artifactNode record))).get "path" = .ok (.str record.path) :=
    (hf.get uniqueKeys_artifactNode rfl).trans (congrArg _ (hf.str _))
  have hallowed (message : String) : refuseIf (!true) message = .ok () := rfl
  rw [checkArtifactNode, except_bind_of_ok hfield]
  split
  next =>
    rw [except_bind_of_ok hpath]
    exact hallowed _
  next => rfl

theorem checkCredential_exported (hf : Transparent f) :
    checkCredential host (f (baseNode host credentialNode)) = .ok () := by
  have hkeys : (((credentialNode : GraphNode P).fields host).map (·.1)).Nodup := by
    simp [GraphNode.fields, credentialNode, payloadHead]
  have hredaction : (f (baseNode host credentialNode)).get "redaction_state" = .ok (.str "external_only") :=
    (hf.get hkeys rfl).trans (congrArg _ (hf.str _))
  have hrequired : (f (baseNode host credentialNode)).get "required" = .ok (.bool true) :=
    (hf.get hkeys rfl).trans (congrArg _ (hf.bool _))
  have hbinding : (f (baseNode host credentialNode)).get "binding" =
      .ok (.str "target runtime must authorize reports/ artifact writes") :=
    (hf.get hkeys rfl).trans (congrArg _ (hf.str _))
  have hok (message : String) : refuseNode host (!true) message (f (baseNode host credentialNode)) = .ok () := rfl
  have hmarked : refuseNode host (!(Json.bool true : Json P).isTrue) "credential reference must require target rebind"
    (f (baseNode host credentialNode)) = .ok () := rfl
  rw [checkCredential, except_bind_of_ok hredaction, pyEq_str_self, except_bind_of_ok (hok _),
    except_bind_of_ok hrequired, except_bind_of_ok hmarked, except_bind_of_ok hbinding]
  rfl

theorem noSecrets_findings {graph manifest : Json P} (hgraph : NoSecrets graph) (hmanifest : NoSecrets manifest) :
    findForbiddenSecretMaterial "$" graph ++ findForbiddenSecretMaterial "$" manifest = [] := by
  rw [NoSecrets] at hgraph hmanifest
  rw [hgraph, hmanifest, List.append_nil]

theorem artifacts_exported (hf : Transparent f) :
    (f (exportedManifest host session record prompt)).item "artifacts" =
      .ok (.list [f (manifestArtifact record)]) := by
  have hlookup : (exportedManifestFields host session record prompt).lookup "artifacts" =
    some (.list [manifestArtifact record]) := rfl
  rw [exportedManifest, hf.item uniqueKeys_manifest hlookup, hf.list]
  rfl

theorem checkContents_exported (hpath : pathAllowedByPrefix (.str record.path : Json P) = .ok true)
    (htarget : record.targetPath = record.path) :
    checkContents host (sortKeys (exportedGraph host session record prompt))
      (sortKeys (exportedManifest host session record prompt))
      (sortKeys (.dict (exportedSecurity host session record prompt))) runtimeId = .ok () := by
  have hf : Transparent (sortKeys : Json P → Json P) := transparent_sortKeys
  have hartifacts : (sortKeys (exportedManifest host session record prompt)).getOr "artifacts" (.list []) =
    .ok (.list [sortKeys (manifestArtifact record)]) := Json.getOr_of_item (artifacts_exported hf) _
  have hitems : (Json.list [sortKeys (manifestArtifact record : Json P)]).iterate =
    .ok [sortKeys (manifestArtifact record)] := rfl
  have hpaths : checkEach (fun _ artifact => checkArtifactPaths host artifact) 0
      [sortKeys (manifestArtifact record)] = .ok () := by
    rw [checkEach, except_bind_of_ok (checkArtifactPaths_exported hf hpath htarget)]
    rfl
  have hnodes : checkEach (fun _ node => checkArtifactNode host node) 0
      [sortKeys (baseNode host (artifactNode record))] = .ok () := by
    rw [checkEach, except_bind_of_ok (checkArtifactNode_exported hf hpath)]
    rfl
  have hcredentials : checkEach (fun _ node => checkCredential host node) 0
      [sortKeys (baseNode host credentialNode)] = .ok () := by
    rw [checkEach, except_bind_of_ok (checkCredential_exported hf)]
    rfl
  have hgraph : NoSecrets (sortKeys (exportedGraph host session record prompt)) :=
    noSecrets_sortKeys noSecrets_exportedGraph
  have hmanifest : NoSecrets (sortKeys (exportedManifest host session record prompt)) :=
    noSecrets_sortKeys noSecrets_exportedManifest
  have hnone (message : String) : refuseIf (!([] : List String).isEmpty) message = .ok () := rfl
  rw [checkContents, except_bind_of_ok (checkHooks_exported hf), except_bind_of_ok hartifacts,
    except_bind_of_ok hitems, except_bind_of_ok hpaths, except_bind_of_ok (artifactNodes_exported hf),
    except_bind_of_ok hnodes]
  dsimp only
  rw [noSecrets_findings hgraph hmanifest, except_bind_of_ok (hnone _),
    except_bind_of_ok (credentialRefNodes_exported hf)]
  exact hcredentials

theorem validateSecurityPolicy_exported (hpath : pathAllowedByPrefix (.str record.path : Json P) = .ok true)
    (htarget : record.targetPath = record.path) :
    validateSecurityPolicy host (sortKeys (exportedGraph host session record prompt))
      (sortKeys (exportedManifest host session record prompt)) runtimeId =
        .ok ⟨.str trustedSignerId, runtimeId, 1⟩ := by
  have hf : Transparent (sortKeys : Json P → Json P) := transparent_sortKeys
  have htruthy : refuseIf (!(sortKeys (.dict (exportedSecurity host session record prompt))).truthy
      host.toAdapterHost) "missing security attestation" = .ok () := by
    rw [truthy_sortKeys]
    rfl
  rw [validateSecurityPolicy, except_bind_of_ok (security_exported hf), except_bind_of_ok htruthy,
    except_bind_of_ok (checkSignature_exported hf), except_bind_of_ok (checkContents_exported hpath htarget),
    except_bind_of_ok (checkProvenance_exported hf)]
  rfl

end Checks

section Vectors

/-- The one result of the retrieval node, with all that the node says of it. -/
def retrievalFields (host : AgentHost P) : Fields P :=
  [("node_id", .str "memory:report-fact"), ("rank", .int 1), ("score", .float (reportScore host queryText)),
    ("score_kind", .str "cosine"),
    ("score_breakdown", .list [.dict [("name", .str "semantic"), ("value", .float (reportScore host queryText)),
      ("weight", decimal host "1.0")]]),
    ("candidate_source", .str "semantic_neighbor"), ("snippet_hash", .str (sha256Bytes host (asBytes reportText)))]

variable {session : LocalSession} {record : ArtifactRecord} {prompt : String}

theorem sortKeys_reportResult : sortKeys (reportResult host) = reportResult host :=
  sortKeys_of_sorted rfl (by simp)

theorem pyEq_reportResult (h : ExportFloats host) :
    pyEq host (.list [reportResult host]) (.list [reportResult host]) = true := by
  simp [reportResult, pyEq, pyEqItems, pyEqFields, numbersEq, Json.asInt, List.lookup_cons, h.score_eq]

variable {f : Json P → Json P}

theorem checkVectorRecord_exported (hf : Transparent f) :
    checkVectorRecord host (reportSnapshot host) [(.str "memory:report-fact", f (baseNode host (memoryNode host)))]
      (f (reportRecord host).json) = .ok () := by
  have hkeys : ((reportRecord host).fields.map (·.1)).Nodup := by simp [VectorRecord.fields]
  have hid : (f (reportRecord host).json).item "node_id" = .ok (.str "memory:report-fact") :=
    (hf.item hkeys rfl).trans (congrArg _ (hf.str _))
  have hget : (f (reportRecord host).json).get "node_id" = .ok (.str "memory:report-fact") :=
    (hf.get hkeys rfl).trans (congrArg _ (hf.str _))
  have hhash : (f (reportRecord host).json).get "embedding_hash" =
      .ok (.str (embeddingHash host (deterministicEmbedding host reportText))) :=
    (hf.get hkeys rfl).trans (congrArg _ (hf.str _))
  have hmemory : (f (baseNode host (memoryNode host))).get "embedding_hash" =
      .ok (.str (embeddingHash host (deterministicEmbedding host reportText))) :=
    (hf.get uniqueKeys_memoryNode rfl).trans (congrArg _ (hf.str _))
  have hrecord : lastWithKey host (·.nodeId) (reportSnapshot host).records (.str "memory:report-fact") =
      .ok (some (reportRecord host)) := by
    simp [lastWithKey, reportSnapshot, reportRecord, Json.hashable, pyEq]
  have hnode : lastWithKey host (·.1) [(.str "memory:report-fact", f (baseNode host (memoryNode host)))]
      (.str "memory:report-fact") = .ok (some (.str "memory:report-fact", f (baseNode host (memoryNode host)))) := by
    simp [lastWithKey, Json.hashable, pyEq]
  have hok (message : String) : refuseIf (!pyEq host (.str (embeddingHash host (deterministicEmbedding host reportText)))
      (.str (reportRecord host).embeddingHash)) message = .ok () := by
    rw [reportRecord, pyEq_str_self]
    rfl
  rw [checkVectorRecord, except_bind_of_ok hget, except_bind_of_ok hrecord]
  dsimp only
  rw [except_bind_of_ok hid, except_bind_of_ok hnode]
  dsimp only
  rw [except_bind_of_ok hmemory, except_bind_of_ok (hok _), except_bind_of_ok hhash]
  exact hok _

theorem checkRetrieval_exported (hf : Transparent f) (h : ExportFloats host) :
    checkRetrieval host (reportSnapshot host) (f (baseNode host (retrievalNode host))) = .ok () := by
  have hkeys : (((retrievalNode host).fields host).map (·.1)).Nodup := by
    simp [GraphNode.fields, retrievalNode, vectorRetrievalPayload, payloadHead]
  have hkind : (f (baseNode host (retrievalNode host))).get "retrieval_kind" = .ok (.str "vector") :=
    (hf.get hkeys rfl).trans (congrArg _ (hf.str _))
  have hresults : (f (baseNode host (retrievalNode host))).getOr "results" (.list []) =
      .ok (.list [f (.dict (retrievalFields host))]) := by
    have hlookup : ((retrievalNode host).fields host).lookup "results" =
      some (.list [.dict (retrievalFields host)]) := rfl
    rw [baseNode, hf.getOr hkeys hlookup, hf.list]
    rfl
  have hresultKeys : ((retrievalFields host).map (·.1)).Nodup := by simp [retrievalFields]
  have hid : (f (.dict (retrievalFields host))).item "node_id" = .ok (.str "memory:report-fact") :=
    (hf.item hresultKeys rfl).trans (congrArg _ (hf.str _))
  have hrank : (f (.dict (retrievalFields host))).item "rank" = .ok (.int 1) :=
    (hf.item hresultKeys rfl).trans (congrArg _ (hf.int _))
  have hscore : (f (.dict (retrievalFields host))).get "score" = .ok (.float (reportScore host queryText)) :=
    (hf.get hresultKeys rfl).trans (congrArg _ (hf.float _))
  have hresult : retrievalResult (f (.dict (retrievalFields host))) = .ok (reportResult host) := by
    rw [retrievalResult, except_bind_of_ok hid, except_bind_of_ok hrank, except_bind_of_ok hscore]
    rfl
  have hmapped : [f (.dict (retrievalFields host))].mapM retrievalResult = .ok [reportResult host] := by
    rw [List.mapM_cons, except_bind_of_ok hresult]
    rfl
  have hitems : (Json.list [f (.dict (retrievalFields host))]).iterate = .ok [f (.dict (retrievalFields host))] := rfl
  rw [checkRetrieval, except_bind_of_ok hkind, pyEq_str_self]
  simp only [if_true]
  rw [except_bind_of_ok hresults, except_bind_of_ok hitems, except_bind_of_ok hmapped, reportSnapshot,
    pyEq_reportResult h]
  rfl

theorem validateVectorMemory_exported (session : LocalSession) (record : ArtifactRecord) (prompt : String)
    (h : ExportFloats host) :
    ∃ report, validateVectorMemory host (sortKeys (exportedGraph host session record prompt))
      (sortKeys (exportedManifest host session record prompt)) = .ok report := by
  have hf : Transparent (sortKeys : Json P → Json P) := transparent_sortKeys
  have hkeys : (((reportSnapshot host).fields host queryText).map (·.1)).Nodup := by simp [VectorSnapshot.fields]
  have hmemory : (sortKeys (exportedManifest host session record prompt)).get "vector_memory" =
    .ok (sortKeys (.dict ((reportSnapshot host).fields host queryText))) := hf.get uniqueKeys_manifest rfl
  have htext (key text : String) (hlookup : ((reportSnapshot host).fields host queryText).lookup key =
      some (.str text)) : (sortKeys (.dict ((reportSnapshot host).fields host queryText))).item key =
        .ok (.str text) :=
    (hf.item hkeys hlookup).trans (congrArg _ (hf.str _))
  have hget (key text : String) (hlookup : ((reportSnapshot host).fields host queryText).lookup key =
      some (.str text)) : (sortKeys (.dict ((reportSnapshot host).fields host queryText))).get key =
        .ok (.str text) :=
    (hf.get hkeys (by rw [hlookup, Option.getD_some])).trans (congrArg _ (hf.str _))
  have hdim : (sortKeys (.dict ((reportSnapshot host).fields host queryText))).get "embedding_dim" =
      .ok (.int embeddingDim) := (hf.get hkeys rfl).trans (congrArg _ (hf.int _))
  have hrecords : (sortKeys (.dict ((reportSnapshot host).fields host queryText))).getOr "records" (.list []) =
      .ok (.list [sortKeys (reportRecord host).json]) := by
    have hlookup : ((reportSnapshot host).fields host queryText).lookup "records" =
      some (.list [(reportRecord host).json]) := rfl
    rw [hf.getOr hkeys hlookup, hf.list]
    rfl
  have hresults : (sortKeys (.dict ((reportSnapshot host).fields host queryText))).get "expected_results" =
      .ok (.list [reportResult host]) := by
    have hlookup : (((reportSnapshot host).fields host queryText).lookup "expected_results").getD .null =
      .list [reportResult host] := rfl
    rw [hf.get hkeys hlookup, hf.list, List.map_singleton, sortKeys_reportResult]
  have hok (text message : String) : refuseIf (!pyEq host (.str text) (.str text)) message = .ok () := by
    rw [pyEq_str_self]
    rfl
  have hsameDim : refuseIf (!pyEq host (.int embeddingDim) (.int embeddingDim))
      "vector memory embedding dimension mismatch" = .ok () := rfl
  have hid : (sortKeys (baseNode host (memoryNode host))).item "id" = .ok (.str "memory:report-fact") :=
    (hf.item uniqueKeys_memoryNode rfl).trans (congrArg _ (hf.str _))
  have hmemories : [sortKeys (baseNode host (memoryNode host))].mapM (fun node => do
      let nodeId ← node.item "id"
      pure (nodeId, node)) = .ok [(.str "memory:report-fact", sortKeys (baseNode host (memoryNode host)))] := by
    rw [List.mapM_cons, bind_assoc, except_bind_of_ok hid]
    rfl
  have hitems : (Json.list [sortKeys (reportRecord host).json]).iterate = .ok [sortKeys (reportRecord host).json] := rfl
  have hchecked : checkEach (fun _ record => checkVectorRecord host (reportSnapshot host)
      [(.str "memory:report-fact", sortKeys (baseNode host (memoryNode host)))] record) 0
        [sortKeys (reportRecord host).json] = .ok () := by
    rw [checkEach, except_bind_of_ok (checkVectorRecord_exported hf)]
    rfl
  have hsame : refuseIf (!pyEq host (.list [reportResult host]) (reportSnapshot host).expectedResults)
      "vector retrieval results mismatch" = .ok () := by
    rw [reportSnapshot, pyEq_reportResult h]
    rfl
  have hretrieved : checkEach (fun _ retrieval => checkRetrieval host (reportSnapshot host) retrieval) 0
      [sortKeys (baseNode host (retrievalNode host))] = .ok () := by
    rw [checkEach, except_bind_of_ok (checkRetrieval_exported hf h)]
    rfl
  have hsnapshot : ∃ report, checkVectorSnapshot host (sortKeys (exportedGraph host session record prompt))
      (sortKeys (.dict ((reportSnapshot host).fields host queryText))) = .ok report := by
    rw [checkVectorSnapshot, except_bind_of_ok (hget "embedding_model" _ rfl), except_bind_of_ok (hok _ _),
      except_bind_of_ok hdim, except_bind_of_ok hsameDim, except_bind_of_ok (hget "distance_metric" _ rfl),
      except_bind_of_ok (hok _ _), except_bind_of_ok (htext "query_text" _ rfl),
      except_bind_of_ok (buildVectorSnapshot_exported hf), except_bind_of_ok (memoryNodes_exported hf),
      except_bind_of_ok hmemories, except_bind_of_ok hrecords, except_bind_of_ok hitems,
      except_bind_of_ok hchecked, except_bind_of_ok hresults, except_bind_of_ok hsame,
      except_bind_of_ok (retrievalNodes_exported hf), except_bind_of_ok hretrieved,
      except_bind_of_ok (htext "vector_store_ref" _ rfl), except_bind_of_ok (htext "query_hash" _ rfl)]
    exact ⟨_, rfl⟩
  have htruthy : (sortKeys (.dict ((reportSnapshot host).fields host queryText))).truthy host.toAdapterHost =
    true := truthy_sortKeys _ _
  have hexternal : pyEq host (.str "snapshot") (.str "external_rebind") = false := rfl
  rw [validateVectorMemory, except_bind_of_ok hmemory, htruthy]
  simp only [if_true]
  rw [except_bind_of_ok (hget "mode" _ rfl), hexternal, pyEq_str_self]
  simp only [Bool.false_eq_true, if_false, if_true]
  exact hsnapshot

/-- The documents of an export pass all checks that they are put to. -/
theorem checkDocuments_exported (session : LocalSession) (prompt : String) (h : ExportFloats host)
    (hpath : pathAllowedByPrefix (.str record.path : Json P) = .ok true) (htarget : record.targetPath = record.path) :
    ∃ reports, checkDocuments host (sortKeys (exportedManifest host session record prompt))
      (sortKeys (exportedGraph host session record prompt)) runtimeId = .ok reports := by
  have hf : Transparent (sortKeys : Json P → Json P) := transparent_sortKeys
  have hhash : (sortKeys (exportedManifest host session record prompt)).item "graph_hash" =
    .ok (exportedHash host session record prompt) := (hf.item uniqueKeys_manifest rfl).trans (congrArg _ (hf.str _))
  have hsafe : rejectUnsafeToolReplay host [(writeCallAudit : AuditEntry P)] = .ok () := rfl
  obtain ⟨report, hreport⟩ := validateVectorMemory_exported session record prompt h
  rw [checkDocuments, except_bind_of_ok hhash, except_bind_of_ok verifyGraph_exported,
    except_bind_of_ok (validateSecurityPolicy_exported hpath htarget),
    except_bind_of_ok (auditToolReplaySafety_exported hf), except_bind_of_ok hsafe, except_bind_of_ok hreport]
  exact ⟨_, rfl⟩

end Vectors

end PermeantOS
