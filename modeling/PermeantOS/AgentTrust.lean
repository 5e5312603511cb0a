import PermeantOS.AgentDrafts

namespace PermeantOS

variable {P : Type} (host : AgentHost P)

section Trust

/-- What an import is to be trusted for: the signer, the tools and the runtime are the program's own. -/
structure TrustedImport (manifest graph : Json P) (targetRuntime : String) : Prop where
  signer : ∃ security, manifest.get "security" = .ok security ∧
    security.get "signer_id" = .ok (.str trustedSignerId)
  tools : ∃ nodes, toolCallNodes host graph = .ok nodes ∧
    ∀ node ∈ nodes, ∃ name ∈ allowedToolNames, node.get "name" = .ok (.str name)
  runtime : targetRuntime ∈ allowedTargetRuntimes

/-- `value.get(key, [])` holds strings of the list only. -/
def NamesWithin (value : Json P) (key : String) (names : List String) : Prop :=
  ∃ found items, value.getOr key (.list []) = .ok found ∧ found.iterate = .ok items ∧
    ∀ item ∈ items, ∃ name ∈ names, item = .str name

/-- The allowlists that a manifest brings along. -/
structure BringsAllowlists (manifest : Json P) (signers targets tools : List String) : Prop where
  signers : ∃ security, manifest.get "security" = .ok security ∧
    NamesWithin security "trusted_signer_ids" signers
  targets : ∃ security hooks, manifest.get "security" = .ok security ∧
    security.getOr "policy_hooks" (.dict []) = .ok hooks ∧
      NamesWithin hooks "allowed_target_runtimes" targets
  tools : ∃ security hooks, manifest.get "security" = .ok security ∧
    security.getOr "policy_hooks" (.dict []) = .ok hooks ∧ NamesWithin hooks "allowed_tools" tools

variable {host}

theorem inSet_within {value names : Json P} {key : String} {holder : Json P} {allowed : List String}
    (hwithin : NamesWithin holder key allowed) (hnames : holder.getOr key (.list []) = .ok names)
    (h : inSet host value names = .ok true) : ∃ name ∈ allowed, value = .str name := by
  obtain ⟨found, items, hfound, hitems, hall⟩ := hwithin
  cases hfound.symm.trans hnames
  rw [inSet, except_bind_of_ok hitems] at h
  split at h
  next =>
    obtain ⟨item, hmem, heq⟩ := List.any_eq_true.mp (Except.ok.inj h)
    obtain ⟨name, hname, rfl⟩ := hall item hmem
    exact ⟨name, hname, (pyEq_str_left_iff host).mp heq⟩
  next => cases h

theorem checkSignature_within {graph security signerId : Json P} {signers : List String}
    (hwithin : NamesWithin security "trusted_signer_ids" signers)
    (h : checkSignature host graph security = .ok signerId) :
    ∃ name ∈ signers, security.get "signer_id" = .ok (.str name) := by
  obtain ⟨version, _, h⟩ := except_bind_ok_iff.mp h
  obtain ⟨_, h⟩ := except_bind_unit_ok_iff.mp h
  obtain ⟨algorithm, _, h⟩ := except_bind_ok_iff.mp h
  obtain ⟨_, h⟩ := except_bind_unit_ok_iff.mp h
  obtain ⟨signer, hsigner, h⟩ := except_bind_ok_iff.mp h
  obtain ⟨names, hnames, h⟩ := except_bind_ok_iff.mp h
  obtain ⟨trusted, htrusted, h⟩ := except_bind_ok_iff.mp h
  obtain ⟨hrefuse, _⟩ := except_bind_unit_ok_iff.mp h
  rw [refuseIf_ok_iff, Bool.not_eq_false'] at hrefuse
  subst hrefuse
  obtain ⟨name, hname, rfl⟩ := inSet_within hwithin hnames htrusted
  exact ⟨name, hname, hsigner⟩

theorem checkTool_within {holder allowedTools node : Json P} {tools : List String}
    (hwithin : NamesWithin holder "allowed_tools" tools)
    (htools : holder.getOr "allowed_tools" (.list []) = .ok allowedTools)
    (h : checkTool host allowedTools node = .ok ()) :
    ∃ name ∈ tools, node.get "name" = .ok (.str name) := by
  obtain ⟨found, hfound, h⟩ := except_bind_ok_iff.mp h
  obtain ⟨allowed, hallowed, h⟩ := except_bind_ok_iff.mp h
  rw [refuseIf_ok_iff, Bool.not_eq_false'] at h
  subst h
  obtain ⟨name, hname, rfl⟩ := inSet_within hwithin htools hallowed
  exact ⟨name, hname, hfound⟩

theorem checkHooks_within {graph security hooks : Json P} {targetRuntime : String}
    {targets tools : List String} (hhooks : security.getOr "policy_hooks" (.dict []) = .ok hooks)
    (htargets : NamesWithin hooks "allowed_target_runtimes" targets)
    (htools : NamesWithin hooks "allowed_tools" tools)
    (h : checkHooks host graph security targetRuntime = .ok ()) :
    targetRuntime ∈ targets ∧ ∃ nodes, toolCallNodes host graph = .ok nodes ∧
      ∀ node ∈ nodes, ∃ name ∈ tools, node.get "name" = .ok (.str name) := by
  obtain ⟨found, hfound, h⟩ := except_bind_ok_iff.mp h
  cases hfound.symm.trans hhooks
  obtain ⟨allowedTargets, hallowedTargets, h⟩ := except_bind_ok_iff.mp h
  obtain ⟨allowed, hallowed, h⟩ := except_bind_ok_iff.mp h
  obtain ⟨hrefuse, h⟩ := except_bind_unit_ok_iff.mp h
  obtain ⟨allowedTools, hallowedTools, h⟩ := except_bind_ok_iff.mp h
  obtain ⟨_, _, h⟩ := except_bind_ok_iff.mp h
  obtain ⟨nodes, hnodes, hchecked⟩ := except_bind_ok_iff.mp h
  rw [refuseIf_ok_iff, Bool.not_eq_false'] at hrefuse
  rw [hrefuse] at hallowed
  obtain ⟨name, hname, heq⟩ := inSet_within htargets hallowedTargets hallowed
  cases heq
  refine ⟨hname, nodes, hnodes, ?_⟩
  have hall := (checkEach_ok_iff_forall (P := fun node => checkTool host allowedTools node = .ok ())
    fun _ _ => Iff.rfl).mp hchecked
  intro node hmem
  exact checkTool_within htools hallowedTools (hall node hmem)

theorem checkDocuments_security {manifest graph : Json P} {targetRuntime : String}
    {reports : SecurityReport P × List (AuditEntry P) × VectorReport P}
    (h : checkDocuments host manifest graph targetRuntime = .ok reports) :
    ∃ security signerId, manifest.get "security" = .ok security ∧
      checkSignature host graph security = .ok signerId ∧
        checkHooks host graph security targetRuntime = .ok () := by
  obtain ⟨security, signerId, _, hsecurity, hsigner, hcontents, _⟩ :=
    validateSecurityPolicy_ok (checkDocuments_ok h).security
  obtain ⟨hhooks, _⟩ := except_bind_unit_ok_iff.mp hcontents
  exact ⟨security, signerId, hsecurity, hsigner, hhooks⟩

/-- What the allowlists of the manifest say of an accepted package, and nothing else does. -/
theorem checkDocuments_within {manifest graph : Json P} {targetRuntime : String}
    {reports : SecurityReport P × List (AuditEntry P) × VectorReport P} {signers targets tools : List String}
    (h : checkDocuments host manifest graph targetRuntime = .ok reports)
    (hlists : BringsAllowlists manifest signers targets tools) :
    (∃ security, manifest.get "security" = .ok security ∧
      ∃ name ∈ signers, security.get "signer_id" = .ok (.str name)) ∧
    targetRuntime ∈ targets ∧ ∃ nodes, toolCallNodes host graph = .ok nodes ∧
      ∀ node ∈ nodes, ∃ name ∈ tools, node.get "name" = .ok (.str name) := by
  obtain ⟨security, signerId, hsecurity, hsigner, hhooks⟩ := checkDocuments_security h
  obtain ⟨found, hfound, hsigners⟩ := hlists.signers
  cases hsecurity.symm.trans hfound
  obtain ⟨found, hooks, hfound, hfoundHooks, htargets⟩ := hlists.targets
  cases hsecurity.symm.trans hfound
  obtain ⟨found, hooks', hfound, hfoundHooks', htools⟩ := hlists.tools
  cases hsecurity.symm.trans hfound
  cases hfoundHooks.symm.trans hfoundHooks'
  exact ⟨⟨security, hsecurity, checkSignature_within hsigners hsigner⟩,
    checkHooks_within hfoundHooks htargets htools hhooks⟩

end Trust

section AcceptedDrafts

/-- A tool call that is over. -/
def finishedCall (name : String) : Json P :=
  .dict [("type", .str "tool_call"), ("id", .str "call"), ("name", .str name), ("status", .str "completed")]

/-- A package with at most one tool call, whose only artifact stays outside. -/
def allowlistDraft (signer : String) (signers targets tools : List String) (name : Option String) :
    PackageDraft P where
  graphPath := "graph.json"
  signer := signer
  signers := signers
  targets := targets
  tools := tools
  nodes := name.toList.map finishedCall
  artifact := [("path", .str "reports/a"), ("restore_policy", .str "external_rebind"),
    ("rebind_required", .bool true)]
  artifactSha256 := "none"

variable (signer : String) {targetRuntime : String} (signers : List String) {targets tools : List String}
  {name : Option String}

theorem checkHooks_draft (htarget : targetRuntime ∈ targets) (hname : ∀ found ∈ name, found ∈ tools) :
    checkHooks host (draftGraph host (allowlistDraft signer signers targets tools name))
      (draftSecurity host (allowlistDraft signer signers targets tools name)) targetRuntime = .ok () := by
  have hset := inSet_draftNames host htarget
  obtain ⟨answer, hnull⟩ := inSet_null_draftNames host tools
  cases name with
  | none =>
    simp [checkHooks, draftSecurity, allowlistDraft, Json.getOr, hset, hnull, toolCallNodes,
      nodesOfType_draft, selectNodes, checkEach, refuseIf, bind, Except.bind, List.lookup_cons]
  | some found =>
    have htool := inSet_draftNames host (hname found rfl)
    simp [checkHooks, draftSecurity, allowlistDraft, Json.getOr, hset, hnull, toolCallNodes,
      nodesOfType_draft, selectNodes, checkEach, refuseIf, bind, Except.bind, List.lookup_cons, finishedCall,
      Json.get, pyEq_str_self, pure, Except.pure, checkTool, htool]

variable (targets tools name)

theorem findForbidden_draftGraph :
    findForbiddenSecretMaterial "$" (draftGraph host (allowlistDraft signer signers targets tools name)) =
      [] := by
  cases name <;>
    simp [draftGraph, draftBody, draftHash, allowlistDraft, findForbiddenSecretMaterial,
      findForbiddenFields, findForbiddenItems, isForbiddenKey, forbiddenSecretKeys, lowerChar, finishedCall]

theorem findForbidden_draftManifest :
    findForbiddenSecretMaterial "$" (draftManifest host (allowlistDraft signer signers targets tools name)) =
      [] := by
  simp [draftManifest, draftHash, draftSecurity, draftNames, draftArtifact, allowlistDraft,
    findForbiddenSecretMaterial, findForbiddenFields, findForbiddenItems, findForbiddenItems_names,
    isForbiddenKey, forbiddenSecretKeys, lowerChar]

theorem selectNodes_draft {kind : String} (h : kind ≠ "tool_call") :
    selectNodes host kind (allowlistDraft signer signers targets tools name : PackageDraft P).nodes =
      .ok [] := by
  cases name with
  | none => rfl
  | some found =>
    simp [allowlistDraft, finishedCall, selectNodes, Json.get, pyEq, h.symm, bind, Except.bind, pure,
      Except.pure]

variable {targets tools name}

theorem checkContents_allowlistDraft (htarget : targetRuntime ∈ targets)
    (hname : ∀ found ∈ name, found ∈ tools) :
    checkContents host (draftGraph host (allowlistDraft signer signers targets tools name))
      (draftManifest host (allowlistDraft signer signers targets tools name))
      (draftSecurity host (allowlistDraft signer signers targets tools name)) targetRuntime = .ok () := by
  have hhooks := checkHooks_draft host signer signers htarget hname
  have hartifacts : (draftManifest host (allowlistDraft signer signers targets tools name)).getOr
    "artifacts" (.list []) = .ok (.list [draftArtifact (allowlistDraft signer signers targets tools name)]) := rfl
  have hpath : pathAllowedByPrefix (.str "reports/a" : Json P) = .ok true := rfl
  have hpaths : checkArtifactPaths host (draftArtifact (allowlistDraft signer signers targets tools name)) =
      .ok () := by
    simp [checkArtifactPaths, draftArtifact, allowlistDraft, Json.getOr, List.lookup_cons, hpath, refuseIf,
      bind, Except.bind]
  have hnodes : artifactNodes host (draftGraph host (allowlistDraft signer signers targets tools name)) =
    .ok [] := selectNodes_draft host signer signers targets tools name (by decide)
  have hcredentials : credentialRefNodes host
    (draftGraph host (allowlistDraft signer signers targets tools name)) = .ok [] :=
      selectNodes_draft host signer signers targets tools name (by decide)
  simp [checkContents, hhooks, hartifacts, hpaths, hnodes, hcredentials, findForbidden_draftGraph,
    findForbidden_draftManifest, Json.iterate, checkEach, refuseIf, bind, Except.bind]

theorem checkDocuments_allowlistDraft (hsigner : signer ∈ signers) (htarget : targetRuntime ∈ targets)
    (hname : ∀ found ∈ name, found ∈ tools) :
    ∃ reports, checkDocuments host (draftManifest host (allowlistDraft signer signers targets tools name))
      (draftGraph host (allowlistDraft signer signers targets tools name)) targetRuntime = .ok reports := by
  apply checkDocuments_draft host (allowlistDraft signer signers targets tools name) targetRuntime hsigner
    (checkContents_allowlistDraft host signer signers htarget hname)
  cases name with
  | none => rfl
  | some found => rfl

theorem printable_allowlistManifest :
    Printable host.floatRepr host.parseFloat
      (draftManifest host (allowlistDraft signer signers targets tools name)) := by
  simp [draftManifest, draftHash, draftSecurity, draftNames, draftArtifact, allowlistDraft, Printable,
    PrintableFields, PrintableItems, printableItems_names]

variable (targets tools name)

theorem packageAt_allowlistDraft :
    packageAt host draftPackage (draftWorld host (allowlistDraft signer signers targets tools name)).disk =
      .ok (draftManifest host (allowlistDraft signer signers targets tools name),
        draftGraph host (allowlistDraft signer signers targets tools name)) := by
  have hrelative : safePackageRelativePath (.str "graph.json" : Json P) = .ok ⟨"", ["graph.json"]⟩ := rfl
  have hnodes : PrintableItems host.floatRepr host.parseFloat
      (allowlistDraft signer signers targets tools name : PackageDraft P).nodes := by
    cases name <;> simp [allowlistDraft, finishedCall, Printable, PrintableFields, PrintableItems]
  exact packageAt_of_files host rfl (printable_allowlistManifest host signer signers) rfl hrelative rfl
    (printable_draftGraph host _ hnodes)

variable {targets tools name}

/-- The documents of a draft whose artifact stays outside are accepted without a look at the disk. -/
theorem importDocuments_draft (hsigner : signer ∈ signers) (htarget : targetRuntime ∈ targets)
    (hname : ∀ found ∈ name, found ∈ tools) (world : World) :
    ∃ result, (importDocuments host draftPackage none targetRuntime
      (draftManifest host (allowlistDraft signer signers targets tools name))
      (draftGraph host (allowlistDraft signer signers targets tools name))).run world = .ok result world := by
  obtain ⟨reports, hreports⟩ := checkDocuments_allowlistDraft host signer signers hsigner htarget hname
  have hverify : (verifyArtifacts host draftPackage
      (draftManifest host (allowlistDraft signer signers targets tools name))).run world =
    .ok [.rebindRequired (.str "reports/a") (.str "none")] world := rfl
  have hrestore : (restoreArtifacts host draftPackage
      (draftManifest host (allowlistDraft signer signers targets tools name))
        (workspaceOr draftPackage none)).run world =
    .ok [⟨.str "reports/a", none, .rebindRequired, .str "external_rebind", .str "none", none⟩] world := rfl
  have hmessages : messagesOf host (allowlistDraft signer signers targets tools name : PackageDraft P).nodes =
      .ok [] := by
    cases name with
    | none => rfl
    | some found => rfl
  obtain ⟨result, hfinish, _⟩ := finishImport_draft host _ hmessages
    (show artifactHash (draftArtifact (allowlistDraft signer signers targets tools name)) =
      .ok (.str "reports/a", .str "none") from rfl) reports
    [.rebindRequired (.str "reports/a") (.str "none")] (workspaceOr draftPackage none)
    [⟨.str "reports/a", none, .rebindRequired, .str "external_rebind", .str "none", none⟩]
  refine ⟨result, ?_⟩
  rw [importDocuments, run_liftExcept_bind_of_ok hreports]
  dsimp only
  rw [run_bind_of_ok hverify, run_bind_of_ok hrestore]
  exact run_liftExcept_ok_iff.mpr ⟨hfinish, rfl⟩

/-- Whoever writes the allowlists of a manifest can have any of their names accepted. -/
theorem importSession_draft (hsigner : signer ∈ signers) (htarget : targetRuntime ∈ targets)
    (hname : ∀ found ∈ name, found ∈ tools) :
    ∃ result world', (importSession host draftPackage none targetRuntime).run
      (draftWorld host (allowlistDraft signer signers targets tools name)) = .ok result world' := by
  have hread := run_readPackage_of_packageAt host
    (draftWorld host (allowlistDraft signer signers targets tools name))
    (packageAt_allowlistDraft host signer signers targets tools name)
  obtain ⟨result, hrun⟩ := importDocuments_draft host signer signers hsigner htarget hname
    ⟨(draftWorld host (allowlistDraft signer signers targets tools name)).disk,
      packageReads draftPackage (draftManifest host (allowlistDraft signer signers targets tools name))⟩
  rw [importSession_eq, run_bind_of_ok hread]
  exact ⟨result, _, hrun⟩

theorem bringsAllowlists_draft :
    BringsAllowlists (draftManifest host (allowlistDraft signer signers targets tools name))
      signers targets tools := by
  have hnames : ∀ names : List String, ∀ item ∈ names.map (Json.str : String → Json P),
      ∃ found ∈ names, item = .str found := by
    intro names item hitem
    obtain ⟨found, hfound, rfl⟩ := List.mem_map.mp hitem
    exact ⟨found, hfound, rfl⟩
  exact ⟨⟨_, rfl, _, _, rfl, rfl, hnames signers⟩, ⟨_, _, rfl, rfl, _, _, rfl, rfl, hnames targets⟩,
    ⟨_, _, rfl, rfl, _, _, rfl, rfl, hnames tools⟩⟩

theorem trustedImport_draft {manifest : Json P} (hmanifest : manifest =
      draftManifest host (allowlistDraft signer signers targets tools name))
    (h : TrustedImport host manifest (draftGraph host (allowlistDraft signer signers targets tools name))
      targetRuntime) :
    signer = trustedSignerId ∧ targetRuntime ∈ allowedTargetRuntimes ∧
      ∀ found ∈ name, found ∈ allowedToolNames := by
  subst hmanifest
  obtain ⟨security, hsecurity, hsigner⟩ := h.signer
  cases hsecurity
  obtain ⟨nodes, hnodes, hall⟩ := h.tools
  refine ⟨?_, h.runtime, ?_⟩
  · exact Json.str.inj (Except.ok.inj hsigner)
  · intro found hfound
    cases hfound
    have hselected : toolCallNodes host
        (draftGraph host (allowlistDraft signer signers targets tools (some found))) =
          .ok [finishedCall found] := by
      simp [toolCallNodes, nodesOfType_draft, allowlistDraft, selectNodes, finishedCall, Json.get,
        pyEq_str_self, bind, Except.bind, pure, Except.pure]
    cases hselected.symm.trans hnodes
    obtain ⟨allowed, hallowed, heq⟩ := hall _ List.mem_cons_self
    cases heq
    exact hallowed

end AcceptedDrafts

section Allowlists

/-- Accepted packages are trusted, whatever else they say, exactly where the allowlists that the manifest
itself brings along name nobody, or no one but whom the program knows. -/
theorem importSession_trusted_iff (signers targets tools : List String) :
    (∀ package workspace targetRuntime world result world' manifest graph,
      (importSession host package workspace targetRuntime).run world = .ok result world' →
      packageAt host package world.disk = .ok (manifest, graph) →
      BringsAllowlists manifest signers targets tools → TrustedImport host manifest graph targetRuntime) ↔
    signers = [] ∨ targets = [] ∨
      (signers ⊆ [trustedSignerId] ∧ targets ⊆ allowedTargetRuntimes ∧ tools ⊆ allowedToolNames) := by
  constructor
  · intro h
    by_contra hlists
    simp only [not_or] at hlists
    obtain ⟨hsigners, htargets, hforeign⟩ := hlists
    obtain ⟨signer, hsigner⟩ := List.exists_mem_of_ne_nil signers hsigners
    obtain ⟨targetRuntime, htarget⟩ := List.exists_mem_of_ne_nil targets htargets
    -- any choice of names from the lists makes a package that is accepted
    have hdraft : ∀ signer ∈ signers, ∀ targetRuntime ∈ targets, ∀ name : Option String,
        (∀ found ∈ name, found ∈ tools) → signer = trustedSignerId ∧
          targetRuntime ∈ allowedTargetRuntimes ∧ ∀ found ∈ name, found ∈ allowedToolNames := by
      intro signer hsigner targetRuntime htarget name hname
      obtain ⟨result, world', hrun⟩ := importSession_draft host signer signers hsigner htarget hname
      exact trustedImport_draft host signer signers rfl (h _ _ _ _ _ _ _ _ hrun
        (packageAt_allowlistDraft host signer signers targets tools name) (bringsAllowlists_draft host signer signers))
    apply hforeign
    refine ⟨?_, ?_, ?_⟩
    · intro other hother
      rw [(hdraft other hother targetRuntime htarget none (by simp)).1]
      exact List.mem_singleton_self _
    · intro other hother
      exact (hdraft signer hsigner other hother none (by simp)).2.1
    · intro other hother
      exact (hdraft signer hsigner targetRuntime htarget (some other) (by simpa using hother)).2.2 other rfl
  · intro hlists package workspace targetRuntime world result world' manifest graph hrun hpackage hbrings
    obtain ⟨verified, middle, report, hverify, _, _⟩ := run_importSession_ok_iff.mp hrun
    have hverified := (run_verifyPackage_ok hverify).2
    cases hpackage.symm.trans hverified.documents
    obtain ⟨⟨security, hsecurity, signer, hsigner, hget⟩, htarget, nodes, hnodes, hall⟩ :=
      checkDocuments_within hverified.checks hbrings
    rcases hlists with rfl | rfl | ⟨hsigners, htargets, htools⟩
    · cases hsigner
    · cases htarget
    · have htrusted := List.mem_singleton.mp (hsigners hsigner)
      subst htrusted
      refine ⟨⟨security, hsecurity, hget⟩, ⟨nodes, hnodes, ?_⟩, htargets htarget⟩
      intro node hnode
      obtain ⟨name, hname, hnamed⟩ := hall node hnode
      exact ⟨name, htools hname, hnamed⟩

/-- A package that a stranger signed, and whose manifest says that the stranger is trusted. -/
theorem strangerSigned_accepted : ∃ result world' manifest graph,
    (importSession decimalHost draftPackage none runtimeId).run
      (draftWorld decimalHost (allowlistDraft "signer:stranger" ["signer:stranger"] [runtimeId] [] none)) =
        .ok result world' ∧
    packageAt decimalHost draftPackage
      (draftWorld decimalHost (allowlistDraft "signer:stranger" ["signer:stranger"] [runtimeId] [] none)).disk =
        .ok (manifest, graph) ∧
    ¬TrustedImport decimalHost manifest graph runtimeId := by
  have hname : ∀ found ∈ (none : Option String), found ∈ ([] : List String) := by simp
  obtain ⟨result, world', hrun⟩ := importSession_draft decimalHost "signer:stranger" ["signer:stranger"]
    List.mem_cons_self (List.mem_singleton_self runtimeId) hname
  refine ⟨result, world', _, _, hrun, packageAt_allowlistDraft decimalHost _ _ _ _ _, ?_⟩
  intro h
  exact absurd (trustedImport_draft decimalHost _ _ rfl h).1 (by decide)

end Allowlists

end PermeantOS
