import AtomicUsb.Foundation.Program
import AtomicUsb.Kubevirt

/-!
# Calls to the API server

The writes the controller and the agents send, each with the answer it can get.  Every call
that writes also carries a `Writer`: what its sender was doing, which the wire does not carry but
laws about who may write what have to speak of.
-/

namespace AtomicUsb

/-- How a call fails: HTTP 409, HTTP 404, or any other way. -/
inductive ApiError
  | conflict
  | notFound
  | other
  deriving DecidableEq

/-- On whose behalf a call is made. -/
inductive Writer
  /-- The controller, marking devices without heartbeat. -/
  | lostPass
  /-- The controller, releasing leases of claims outside `live`. -/
  | orphanPass (live : List String)
  /-- The controller, reconciling the claim with this UID. -/
  | reconciling (uid : String)
  /-- The controller, holding or releasing the boot of a VM. -/
  | bootHold
  /-- The agent of a node. -/
  | agent (node : String)
  deriving DecidableEq

inductive ApiCall
  /-- Merge-patch the status of a device, at a version or at any. -/
  | patchDeviceStatus (by_ : Writer) (name : String) (resourceVersion : Option ℕ)
      (patch : DeviceStatusPatch)
  /-- Server-side apply of a device's labels and spec. -/
  | applyDevice (by_ : Writer) (name : String) (labels : List (String × String))
      (spec : UsbDeviceSpec)
  /-- Merge-patch the owner references of a claim. -/
  | patchOwnerReferences (by_ : Writer) (ns name : String) (resourceVersion : ℕ)
      (ownerReferences : List OwnerReference)
  | patchClaimStatus (by_ : Writer) (ns name : String) (patch : ClaimStatusPatch)
  /-- Resume a VMI by name; `observed` is the UID its sender believes it has. -/
  | unpause (ns name observed : String)
  deriving DecidableEq

/-- The answer to a call.  Of the objects that come back only a patched device is looked at. -/
abbrev ApiCall.Answer : ApiCall → Type
  | .patchDeviceStatus .. => Except ApiError (Versioned DeviceBody)
  | _ => Except ApiError Unit

abbrev ApiProg (α : Type) := Prog ApiCall ApiCall.Answer α

abbrev ApiEvent := Prog.Event ApiCall ApiCall.Answer

/-! Each call as a program that returns its answer. -/

abbrev patchDeviceStatus (by_ : Writer) (name : String) (resourceVersion : Option ℕ)
    (patch : DeviceStatusPatch) : ApiProg (Except ApiError (Versioned DeviceBody)) :=
  Prog.perform (ApiCall.patchDeviceStatus by_ name resourceVersion patch)

abbrev applyDevice (by_ : Writer) (name : String) (labels : List (String × String))
    (spec : UsbDeviceSpec) : ApiProg (Except ApiError Unit) :=
  Prog.perform (ApiCall.applyDevice by_ name labels spec)

abbrev patchOwnerReferences (by_ : Writer) (ns name : String) (resourceVersion : ℕ)
    (ownerReferences : List OwnerReference) : ApiProg (Except ApiError Unit) :=
  Prog.perform (ApiCall.patchOwnerReferences by_ ns name resourceVersion ownerReferences)

abbrev patchClaimStatus (by_ : Writer) (ns name : String) (patch : ClaimStatusPatch) :
    ApiProg (Except ApiError Unit) :=
  Prog.perform (ApiCall.patchClaimStatus by_ ns name patch)

abbrev unpause (ns name observed : String) : ApiProg (Except ApiError Unit) :=
  Prog.perform (ApiCall.unpause ns name observed)

/-- Whose call it is. -/
def ApiCall.writer : ApiCall → Writer
  | .patchDeviceStatus w .. => w
  | .applyDevice w .. => w
  | .patchOwnerReferences w .. => w
  | .patchClaimStatus w .. => w
  | .unpause .. => .bootHold

/-- A fallible step on a state that stays as the step left it also when it fails, followed by
the rest: what `?` does in a function that updates something it was lent. -/
def ApiProg.andThen {σ α β : Type} (p : ApiProg (σ × Except ApiError α))
    (f : σ → α → ApiProg (σ × Except ApiError β)) : ApiProg (σ × Except ApiError β) :=
  p >>= fun
    | (s, .error e) => pure (s, .error e)
    | (s, .ok a) => f s a

lemma ApiProg.pure_andThen {σ α β : Type} (s : σ) (a : α)
    (f : σ → α → ApiProg (σ × Except ApiError β)) :
    ApiProg.andThen (pure (s, .ok a)) f = f s a := rfl

lemma ApiProg.andThen_eq_pure {σ α β : Type} {p : ApiProg (σ × Except ApiError α)}
    {f : σ → α → ApiProg (σ × Except ApiError β)} {r : σ × Except ApiError β}
    (h : p.andThen f = pure r) :
    ∃ s x, p = pure (s, x) ∧ ∀ a, x = .ok a → f s a = pure r := by
  obtain ⟨⟨s, x⟩, hp, hf⟩ := Prog.bind_eq_pure h
  refine ⟨s, x, hp, ?_⟩
  rintro a rfl
  exact hf

lemma ApiProg.andThen_assoc {σ α β γ : Type} :
    ∀ (p : ApiProg (σ × Except ApiError α)) (f : σ → α → ApiProg (σ × Except ApiError β))
      (g : σ → β → ApiProg (σ × Except ApiError γ)),
      (p.andThen f).andThen g = p.andThen fun s a => (f s a).andThen g
  | .pure (_, .error _), _, _ => rfl
  | .pure (_, .ok _), _, _ => rfl
  | .call c k, f, g => congrArg (Prog.call c) (funext fun x => andThen_assoc (k x) f g)

/-- A run of a sequence either ends with the error of the first part or goes on to the second. -/
lemma ApiProg.runs_andThen {σ α β : Type} {p : ApiProg (σ × Except ApiError α)}
    {f : σ → α → ApiProg (σ × Except ApiError β)} {tr : List ApiEvent}
    {r : σ × Except ApiError β} :
    (p.andThen f).Runs tr r ↔
      (∃ e, r.2 = .error e ∧ p.Runs tr (r.1, .error e)) ∨
      ∃ tr₁ tr₂ s a, tr = tr₁ ++ tr₂ ∧ p.Runs tr₁ (s, .ok a) ∧ (f s a).Runs tr₂ r := by
  unfold ApiProg.andThen
  rw [Prog.runs_bind]
  constructor
  · rintro ⟨tr₁, tr₂, ⟨s, e | a⟩, rfl, h₁, h₂⟩
    · obtain ⟨rfl, rfl⟩ := h₂
      exact Or.inl ⟨e, rfl, by simpa using h₁⟩
    · exact Or.inr ⟨tr₁, tr₂, s, a, rfl, h₁, h₂⟩
  · rintro (⟨e, he, h⟩ | ⟨tr₁, tr₂, s, a, rfl, h₁, h₂⟩)
    · refine ⟨tr, [], _, (List.append_nil tr).symm, h, rfl, ?_⟩
      rw [← he]
    · exact ⟨tr₁, tr₂, _, rfl, h₁, h₂⟩

lemma ApiProg.issues_andThen {σ α β : Type} {P : ApiCall → Prop}
    {p : ApiProg (σ × Except ApiError α)} {f : σ → α → ApiProg (σ × Except ApiError β)}
    (hp : p.Issues P) (hf : ∀ s a, (f s a).Issues P) : (p.andThen f).Issues P := by
  refine hp.bind ?_
  rintro ⟨s, e | a⟩
  · trivial
  · exact hf s a

lemma ApiProg.ensures_andThen {σ α β γ : Type} {D : Prog.Discipline ApiCall ApiCall.Answer γ}
    {p : ApiProg (σ × Except ApiError α)} {f : σ → α → ApiProg (σ × Except ApiError β)} {g : γ}
    {P : σ → α → γ → Prop} {Q : σ × Except ApiError β → γ → Prop}
    (hp : p.Ensures D g fun r g' => match r with
      | (s, .error e) => Q (s, .error e) g'
      | (s, .ok a) => P s a g')
    (hf : ∀ s a g', P s a g' → (f s a).Ensures D g' Q) : (p.andThen f).Ensures D g Q := by
  unfold ApiProg.andThen
  rw [Prog.ensures_bind]
  refine hp.mono ?_
  rintro ⟨s, e | a⟩ g' h
  · exact h
  · exact hf s a g' h

/-- The sequencing rule for a property of the state alone. -/
lemma ApiProg.ensures_andThen_keep {σ α β γ : Type}
    {D : Prog.Discipline ApiCall ApiCall.Answer γ} {p : ApiProg (σ × Except ApiError α)}
    {f : σ → α → ApiProg (σ × Except ApiError β)} {g : γ} {I : σ → γ → Prop}
    (hp : p.Ensures D g fun r g' => I r.1 g')
    (hf : ∀ s a g', I s g' → (f s a).Ensures D g' fun r g' => I r.1 g') :
    (p.andThen f).Ensures D g fun r g' => I r.1 g' := by
  refine ensures_andThen (P := fun s _ g' => I s g') (hp.mono ?_) hf
  rintro ⟨s, e | a⟩ g' h
  · exact h
  · exact h

/-- The error a call was answered with, if any. -/
def ApiCall.failure : (c : ApiCall) → c.Answer → Option ApiError
  | .patchDeviceStatus .., .error e => some e
  | .applyDevice .., .error e => some e
  | .patchOwnerReferences .., .error e => some e
  | .patchClaimStatus .., .error e => some e
  | .unpause .., .error e => some e
  | .patchDeviceStatus .., .ok _ => none
  | .applyDevice .., .ok _ => none
  | .patchOwnerReferences .., .ok _ => none
  | .patchClaimStatus .., .ok _ => none
  | .unpause .., .ok _ => none

end AtomicUsb
