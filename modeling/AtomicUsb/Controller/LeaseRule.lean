import AtomicUsb.Controller.PassRule

/-!
# The rule every lease write follows

`reconcileAll_obeys` says what can be relied on although a pass works on outdated copies: it never
changes a lease except at the version of a genuine copy — one the API server did hold at some
time — and judged by that copy the change is one of three: take a free device for a claim that is
being reconciled, give one up for the claim that has it, or release one whose claim is not live
(`LeaseChange`).  `scanOnce_obeys` is the counterpart for agents, which never touch leases.
-/

namespace AtomicUsb

/-- Who may do what to the lease that a copy shows, in a patch of that copy's version. -/
abbrev LeaseRule := Writer → Option Attachment → Member Attachment → Prop

/-- The rule of a controller pass for which the claims `live` are alive. -/
inductive LeaseChange (live : List String) : LeaseRule
  | lease {l : Attachment} : l.claimUid ∈ live →
      LeaseChange live (.reconciling l.claimUid) none (.value l)
  | release {l : Attachment} : l.claimUid ∈ live →
      LeaseChange live (.reconciling l.claimUid) (some l) .null
  | orphan {l : Attachment} : l.claimUid ∉ live →
      LeaseChange live (.orphanPass live) (some l) .null

/-- Either the lease is left out of the patch, or the patch is guarded by the version of a
genuine copy and changes the lease by the rule. -/
def MayPatch (rule : LeaseRule) (H : Copies) (by_ : Writer) (name : String)
    (resourceVersion : Option ℕ) (patch : DeviceStatusPatch) : Prop :=
  patch.attachedTo = .absent ∨ ∃ copy, H name copy ∧ resourceVersion = some copy.version ∧
    rule by_ copy.value.attachedTo patch.attachedTo

/-- The discipline of a party bound to the rule. -/
def leaseDiscipline (rule : LeaseRule) : Prog.Discipline ApiCall ApiCall.Answer Copies where
  may H
    | .patchDeviceStatus by_ name rv patch => MayPatch rule H by_ name rv patch
    | _ => True
  next H c x H' := (∀ n o, H n o → H' n o) ∧
    match c, x with
    | .patchDeviceStatus _ name _ _, .ok o => H' name o
    | _, _ => True

variable {rule : LeaseRule} {live : List String} {H : Copies}

/-- Knowing more copies forbids no call. -/
lemma leaseDiscipline_may_mono (H H' : Copies) (c : ApiCall) (hle : ∀ n o, H n o → H' n o)
    (hmay : (leaseDiscipline rule).may H c) : (leaseDiscipline rule).may H' c := by
  cases c with
  | patchDeviceStatus w name rv patch =>
      rcases hmay with hmay | ⟨copy, hcopy, hrest⟩
      · exact Or.inl hmay
      · exact Or.inr ⟨copy, hle _ _ hcopy, hrest⟩
  | _ => trivial

lemma leaseDiscipline_other (c : ApiCall) (hc : c.isOther = true) :
    (leaseDiscipline rule).may H c := by
  cases c with
  | patchDeviceStatus w name rv patch => cases hc
  | _ => trivial

/-- The patches of a pass change leases by the rule. -/
lemma leaseChange_allows (ctx : PassContext) :
    PassAllowed ctx live (leaseDiscipline (LeaseChange live)).may where
  other _ := leaseDiscipline_other
  lost _ _ _ _ := Or.inl rfl
  orphan H d lease hcopy hlease hlive := by
    refine Or.inr ⟨d.stored, hcopy, rfl, ?_⟩
    have hshown : d.stored.value.attachedTo = some lease := hlease
    rw [hshown]
    exact LeaseChange.orphan hlive
  lease H d claim hcopy hfree hlive := by
    refine Or.inr ⟨d.stored, hcopy, rfl, ?_⟩
    have hshown : d.stored.value.attachedTo = none := hfree
    rw [hshown]
    exact LeaseChange.lease (l := leaseFor ctx claim) hlive
  release H d lease hcopy hlease hlive := by
    refine Or.inr ⟨d.stored, hcopy, rfl, ?_⟩
    have hshown : d.stored.value.attachedTo = some lease := hlease
    rw [hshown]
    exact LeaseChange.release hlive

/-- **A pass changes leases by the rule.** Started from genuine copies, however old. -/
lemma reconcileAll_obeys (ctx : PassContext) {snap : Snapshot} {released : Released}
    (hgen : Genuine H snap.devices) :
    (reconcileAll ctx snap released).Ensures (leaseDiscipline (LeaseChange snap.liveUids)) H
      fun _ _ => True :=
  reconcileAll_allowed (leaseChange_allows ctx) hgen

/-- **A scan leaves leases alone.** -/
lemma scanOnce_obeys (rt : Runtime) (cfg : AgentConfig) (sha256 : List UInt8 → List UInt8)
    (state : Discovery) (input : ScanInput) :
    (scanOnce rt cfg sha256 state input).Ensures (leaseDiscipline rule) H fun _ _ => True := by
  have hallowed : ScanAllowed cfg.node (fun _ _ => True) (leaseDiscipline rule).may :=
    { other := fun _ => leaseDiscipline_other
      heartbeat := fun _ _ _ _ habsent => Or.inl habsent
      unplugged := fun _ _ _ _ _ _ _ habsent => Or.inl habsent }
  exact scanOnce_allowed rt hallowed (fun _ _ _ _ _ => trivial) sha256 state fun _ _ => trivial

end AtomicUsb
