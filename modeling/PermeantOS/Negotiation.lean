import PermeantOS.Fallible
import PermeantOS.StableSort

namespace PermeantOS

inductive ProductionTransportMode
  | webSocketMtls
  | quicMtls
  | rdmaUcx
  | nixl
  | framedTcpMtls
  deriving DecidableEq, Repr

structure ProductionTransportProfile where
  mode : ProductionTransportMode
  binaryFraming : Bool
  requireMutualTls : Bool
  maxFrameBytes : UInt32
  idleTimeoutMs : UInt64
  keepaliveIntervalMs : UInt64
  replayWindowFrames : UInt32
  deriving DecidableEq, Repr

structure TransportCandidate where
  profile : ProductionTransportProfile
  priority : UInt16
  reason : String
  deriving DecidableEq, Repr

structure TransportNegotiationResult where
  selected : ProductionTransportProfile
  selectedReason : String
  consideredModes : List ProductionTransportMode
  deriving DecidableEq, Repr

/-- No limit exceeds that of an offer. -/
structure ProductionTransportProfile.Within (profile offer : ProductionTransportProfile) : Prop where
  maxFrameBytes : profile.maxFrameBytes ≤ offer.maxFrameBytes
  idleTimeoutMs : profile.idleTimeoutMs ≤ offer.idleTimeoutMs
  keepaliveIntervalMs : profile.keepaliveIntervalMs ≤ offer.keepaliveIntervalMs
  replayWindowFrames : profile.replayWindowFrames ≤ offer.replayWindowFrames

section Pairs

variable (source target : TransportCandidate)

/-- The test of `negotiate_transport` on one pair. -/
def Compatible : Prop :=
  source.profile.mode = target.profile.mode ∧ source.profile.binaryFraming = true ∧
    target.profile.binaryFraming = true ∧ source.profile.requireMutualTls = true ∧
    target.profile.requireMutualTls = true

instance : Decidable (Compatible source target) := by
  unfold Compatible
  infer_instance

/-- The source's profile, with the smaller of the two limits each time. -/
def selectedProfile : ProductionTransportProfile :=
  { source.profile with
    maxFrameBytes := min source.profile.maxFrameBytes target.profile.maxFrameBytes
    idleTimeoutMs := min source.profile.idleTimeoutMs target.profile.idleTimeoutMs
    keepaliveIntervalMs := min source.profile.keepaliveIntervalMs target.profile.keepaliveIntervalMs
    replayWindowFrames := min source.profile.replayWindowFrames target.profile.replayWindowFrames }

def candidateOf : UInt16 × ProductionTransportProfile × String :=
  (min source.priority target.priority, selectedProfile source target,
    s!"{source.reason}; target: {target.reason}")

/-- What is pushed for a pair. -/
def compatibleEntry : Option (UInt16 × ProductionTransportProfile × String) :=
  if Compatible source target then some (candidateOf source target) else none

theorem selectedProfile_within :
    (selectedProfile source target).Within source.profile ∧ (selectedProfile source target).Within target.profile :=
  ⟨⟨Std.min_le_left, Std.min_le_left, Std.min_le_left, Std.min_le_left⟩,
    ⟨Std.min_le_right, Std.min_le_right, Std.min_le_right, Std.min_le_right⟩⟩

end Pairs

section Negotiate

variable (sourceCandidates targetCandidates : List TransportCandidate)

/-- The two loops over the candidates. -/
def compatibleEntries : List (UInt16 × ProductionTransportProfile × String) :=
  sourceCandidates.flatMap fun source => targetCandidates.filterMap (compatibleEntry source)

def negotiateTransport : Fallible TransportNegotiationResult :=
  let consideredModes := sourceCandidates.map fun source => source.profile.mode
  match sortByReverse (fun candidate => candidate.1.toNat) (compatibleEntries sourceCandidates targetCandidates) with
  | (_, selected, selectedReason) :: _ => .ok ⟨selected, selectedReason, consideredModes⟩
  | [] => bail "no mutually supported production transport candidate"

variable {sourceCandidates targetCandidates} {source target : TransportCandidate}
  {entry : UInt16 × ProductionTransportProfile × String}

theorem compatibleEntry_eq_some_iff : compatibleEntry source target = some entry ↔
    Compatible source target ∧ candidateOf source target = entry := by
  unfold compatibleEntry
  split
  next h => simp [h]
  next h => simp [h]

theorem mem_filterMap_compatibleEntry {targets : List TransportCandidate} (ht : target ∈ targets)
    (h : Compatible source target) : candidateOf source target ∈ targets.filterMap (compatibleEntry source) :=
  List.mem_filterMap.mpr ⟨target, ht, compatibleEntry_eq_some_iff.mpr ⟨h, rfl⟩⟩

theorem mem_compatibleEntries (hs : source ∈ sourceCandidates) (ht : target ∈ targetCandidates)
    (h : Compatible source target) :
    candidateOf source target ∈ compatibleEntries sourceCandidates targetCandidates :=
  List.mem_flatMap.mpr ⟨source, hs, mem_filterMap_compatibleEntry ht h⟩

/-- The pair that is selected, with the candidates around it. -/
theorem negotiateTransport_ok {result : TransportNegotiationResult}
    (h : negotiateTransport sourceCandidates targetCandidates = .ok result) :
    ∃ sourcesBefore source sourcesAfter targetsBefore target targetsAfter,
      sourceCandidates = sourcesBefore ++ source :: sourcesAfter ∧
      targetCandidates = targetsBefore ++ target :: targetsAfter ∧ Compatible source target ∧
      result.selected = selectedProfile source target ∧
      (∀ s t, s ∈ sourcesBefore ∧ t ∈ targetCandidates ∨ s = source ∧ t ∈ targetsBefore → Compatible s t →
        (min s.priority t.priority).toNat < (min source.priority target.priority).toNat) ∧
      ∀ s t, s ∈ sourcesAfter ∧ t ∈ targetCandidates ∨ s = source ∧ t ∈ targetsAfter → Compatible s t →
        (min s.priority t.priority).toNat ≤ (min source.priority target.priority).toNat := by
  unfold negotiateTransport at h
  dsimp only at h
  split at h
  next entry selected selectedReason rest hsorted =>
    cases h
    obtain ⟨front, back, hall, hfront, hback⟩ := sortByReverse_head hsorted
    obtain ⟨sourcesBefore, source, sourcesAfter, front', back', hsources, hpairs, rfl, rfl⟩ :=
      flatMap_eq_append_cons hall
    obtain ⟨targetsBefore, target, targetsAfter, htargets, hentry, rfl, rfl⟩ := filterMap_eq_append_cons hpairs
    obtain ⟨hcompatible, heq⟩ := compatibleEntry_eq_some_iff.mp hentry
    cases heq
    refine ⟨sourcesBefore, source, sourcesAfter, targetsBefore, target, targetsAfter, hsources, htargets, hcompatible,
      rfl, ?_, ?_⟩
    · intro s t hbefore hst
      refine hfront (candidateOf s t) ?_
      obtain ⟨hs, ht⟩ | ⟨rfl, ht⟩ := hbefore
      · exact List.mem_append_left _ (mem_compatibleEntries hs ht hst)
      · exact List.mem_append_right _ (mem_filterMap_compatibleEntry ht hst)
    · intro s t hafter hst
      refine hback (candidateOf s t) ?_
      obtain ⟨hs, ht⟩ | ⟨rfl, ht⟩ := hafter
      · exact List.mem_append_right _ (mem_compatibleEntries hs ht hst)
      · exact List.mem_append_left _ (mem_filterMap_compatibleEntry ht hst)
  next => cases h

theorem exists_negotiateTransport_ok_iff :
    (∃ result, negotiateTransport sourceCandidates targetCandidates = .ok result) ↔
      ∃ source ∈ sourceCandidates, ∃ target ∈ targetCandidates, Compatible source target := by
  constructor
  · intro h
    obtain ⟨result, hresult⟩ := h
    obtain ⟨_, source, _, _, target, _, rfl, rfl, hcompatible, _⟩ := negotiateTransport_ok hresult
    exact ⟨source, by simp, target, by simp, hcompatible⟩
  · intro h
    obtain ⟨source, hs, target, ht, hcompatible⟩ := h
    have hmem := mem_compatibleEntries hs ht hcompatible
    unfold negotiateTransport
    dsimp only
    split
    next => exact ⟨_, rfl⟩
    next hnil =>
      have hsorted : candidateOf source target ∈ sortByReverse (fun candidate => candidate.1.toNat)
        (compatibleEntries sourceCandidates targetCandidates) := mem_sortByReverse.mpr hmem
      rw [hnil] at hsorted
      cases hsorted

/-- The negotiation finds a secure pair if there is one, and then the best one: the first among the pairs with
the greatest common priority, with limits that neither side exceeds. -/
theorem negotiateTransport_best (sourceCandidates targetCandidates : List TransportCandidate) :
    ((∃ result, negotiateTransport sourceCandidates targetCandidates = .ok result) ↔
      ∃ source ∈ sourceCandidates, ∃ target ∈ targetCandidates, Compatible source target) ∧
    ∀ result, negotiateTransport sourceCandidates targetCandidates = .ok result →
      ∃ (i j : Nat) (source target : TransportCandidate), sourceCandidates[i]? = some source ∧
        targetCandidates[j]? = some target ∧ Compatible source target ∧
        (∀ (i' j' : Nat) s t, sourceCandidates[i']? = some s → targetCandidates[j']? = some t → Compatible s t →
          min s.priority t.priority ≤ min source.priority target.priority ∧
          (min s.priority t.priority = min source.priority target.priority → i < i' ∨ i = i' ∧ j ≤ j')) ∧
        result.selected =
          { mode := source.profile.mode, binaryFraming := true, requireMutualTls := true,
            maxFrameBytes := min source.profile.maxFrameBytes target.profile.maxFrameBytes,
            idleTimeoutMs := min source.profile.idleTimeoutMs target.profile.idleTimeoutMs,
            keepaliveIntervalMs := min source.profile.keepaliveIntervalMs target.profile.keepaliveIntervalMs,
            replayWindowFrames := min source.profile.replayWindowFrames target.profile.replayWindowFrames } ∧
        result.selected.Within source.profile ∧ result.selected.Within target.profile := by
  refine ⟨exists_negotiateTransport_ok_iff, ?_⟩
  intro result hresult
  obtain ⟨sourcesBefore, source, sourcesAfter, targetsBefore, target, targetsAfter, rfl, rfl, hcompatible, hselected,
    hfront, hback⟩ := negotiateTransport_ok hresult
  have lower : ∀ {p q : UInt16} {later : Prop}, p.toNat < q.toNat → p ≤ q ∧ (p = q → later) := by
    intro p q later h
    exact ⟨UInt16.le_iff_toNat_le.mpr h.le, fun heq => absurd (congrArg UInt16.toNat heq) h.ne⟩
  refine ⟨sourcesBefore.length, targetsBefore.length, source, target, by simp, by simp, hcompatible, ?_, ?_, ?_⟩
  · intro i' j' s t hs ht hst
    have htarget := List.mem_of_getElem? ht
    obtain ⟨hi, hs⟩ | ⟨rfl, rfl⟩ | ⟨hi, hs⟩ := getElem?_append_cons hs
    · exact lower (hfront s t (Or.inl ⟨hs, htarget⟩) hst)
    · obtain ⟨hj, ht⟩ | ⟨rfl, rfl⟩ | ⟨hj, ht⟩ := getElem?_append_cons ht
      · exact lower (hfront s t (Or.inr ⟨rfl, ht⟩) hst)
      · exact ⟨UInt16.le_refl _, fun _ => Or.inr ⟨rfl, le_rfl⟩⟩
      · exact ⟨UInt16.le_iff_toNat_le.mpr (hback s t (Or.inr ⟨rfl, ht⟩) hst), fun _ => Or.inr ⟨rfl, hj.le⟩⟩
    · exact ⟨UInt16.le_iff_toNat_le.mpr (hback s t (Or.inl ⟨hs, htarget⟩) hst), fun _ => Or.inl hi⟩
  · rw [hselected, selectedProfile, hcompatible.2.1, hcompatible.2.2.2.1]
  · rw [hselected]
    exact selectedProfile_within source target

end Negotiate

end PermeantOS
