import AtomicUsb.Api
import AtomicUsb.Foundation.Transition
import AtomicUsb.Foundation.Utf8
import AtomicUsb.Psk
import Mathlib.Logic.Function.Basic

/-!
# One key for all

The two ends of a handshake authenticate each other with a key that each reads from its own mount of
one secret.  A controller that is given the secret's name makes sure of the secret before anything
else.  While one controller replaces another, or after one died half-way, several may find the
secret missing and each draws a key; the server accepts one of them, and the controllers it refuses
are content with that.

`agents_share_key` is what the agents rely on: the keys they ever read are one key.  The invariant
is that no controller takes the secret to be there when it is not (`KnowsSecret`), and that a secret
that is there stays as it is.
-/

namespace AtomicUsb

/-- A secret.  `stringData` is only written: the server takes it over into `data`. -/
structure Secret where
  ns : String
  name : String
  labels : List (String × String)
  data : List (String × List UInt8)
  stringData : List (String × String)

/-- The secret as the server keeps it. -/
def Secret.stored (secret : Secret) : Secret :=
  { secret with
    data := secret.stringData.map (fun entry => (entry.1, Text.bytes entry.2)) ++ secret.data
    stringData := [] }

inductive SecretCall
  | getOpt (ns name : String)
  /-- `rand::random::<[u8; 32]>()`. -/
  | random
  | create (secret : Secret)

abbrev SecretCall.Answer : SecretCall → Type
  | .getOpt _ _ => Except ApiError (Option Secret)
  | .random => {key : List UInt8 // key.length = 32}
  | .create _ => Except ApiError Unit

abbrev SecretProg (α : Type) := Prog SecretCall SecretCall.Answer α

/-! Each call as a program that returns its answer. -/

def getOptSecret (ns name : String) : SecretProg (Except ApiError (Option Secret)) :=
  Prog.perform (SecretCall.getOpt ns name)

def randomKey : SecretProg {key : List UInt8 // key.length = 32} :=
  Prog.perform SecretCall.random

def createSecret (secret : Secret) : SecretProg (Except ApiError Unit) :=
  Prog.perform (SecretCall.create secret)

/-- The secret a controller creates with the bytes it has drawn. -/
def pskSecret (ns name : String) (random : List UInt8) : Secret where
  ns := ns
  name := name
  labels := [("app.kubernetes.io/name", "atomic-usb")]
  data := []
  stringData := [("psk", String.ofList (Text.hexEncode random))]

def ensurePskSecret (ns name : String) : SecretProg (Except ApiError Unit) := do
  match ← getOptSecret ns name with
  | .error e => pure (.error e)
  | .ok (some _) => pure (.ok ())
  | .ok none =>
      let random ← randomKey
      match ← createSecret (pskSecret ns name random.1) with
      | .ok () => pure (.ok ())
      -- another controller was faster
      | .error .conflict => pure (.ok ())
      | .error e => pure (.error e)

/-! ## The generated key -/

/-- The key that is generated from 32 random bytes. -/
def generatedKey (random : List UInt8) : List UInt8 :=
  Text.bytes (String.ofList (Text.hexEncode random))

lemma utf8EncodeChar_of_digit {c : Char} (h : ('0' ≤ c ∧ c ≤ '9') ∨ ('a' ≤ c ∧ c ≤ 'f')) :
    String.utf8EncodeChar c = [UInt8.ofNat c.toNat] ∧
      isAsciiWhitespace (UInt8.ofNat c.toNat) = false := by
  have hsmall : c.toNat < 128 := by
    rcases h with ⟨-, h⟩ | ⟨-, h⟩
    · exact lt_of_le_of_lt h (by decide : '9'.toNat < 128)
    · exact lt_of_le_of_lt h (by decide : 'f'.toNat < 128)
  refine ⟨?_, ?_⟩
  · have hascii : c.val.toNat ≤ 127 := Nat.le_of_lt_succ hsmall
    rw [String.utf8EncodeChar, if_pos hascii]
    rfl
  · exact Text.forall_ascii (P := fun c => ('0' ≤ c ∧ c ≤ '9') ∨ ('a' ≤ c ∧ c ≤ 'f') →
      isAsciiWhitespace (UInt8.ofNat c.toNat) = false) (by decide +kernel) hsmall h

lemma generatedKey_eq_map (random : List UInt8) :
    generatedKey random = (Text.hexEncode random).map fun c => UInt8.ofNat c.toNat := by
  unfold generatedKey
  rw [Text.bytes_eq_flatMap, String.toList_ofList, List.map_eq_flatMap]
  exact List.flatMap_congr fun c hc => (utf8EncodeChar_of_digit (Text.lower_of_mem_hexEncode hc)).1

lemma trimAscii_generatedKey (random : List UInt8) :
    trimAscii (generatedKey random) = generatedKey random := by
  have hclean : ∀ b ∈ generatedKey random, isAsciiWhitespace b = false := by
    intro b hb
    rw [generatedKey_eq_map] at hb
    obtain ⟨c, hc, rfl⟩ := List.mem_map.mp hb
    exact (utf8EncodeChar_of_digit (Text.lower_of_mem_hexEncode hc)).2
  have hfront : (generatedKey random).dropWhile isAsciiWhitespace = generatedKey random :=
    List.dropWhile_eq_self_iff.mpr fun hpos => by simp [hclean]
  rw [trimAscii, hfront, List.rdropWhile_eq_self_iff]
  intro hne
  simp [hclean]

/-- An agent accepts a generated key, and takes it as it is. -/
lemma pskOf_generatedKey {random : List UInt8} (h : random.length = 32) (path : String) :
    pskOf path (generatedKey random) = .ok (generatedKey random) := by
  have hlength : (generatedKey random).length = 64 := by
    rw [generatedKey_eq_map, List.length_map, Text.length_hexEncode, h]
  rw [pskOf, trimAscii_generatedKey, if_pos]
  rw [hlength]
  decide

/-! ## The cluster -/

/-- Controllers, the secrets they find, and what the agents have read. -/
structure Keyring where
  /-- The secrets of the cluster by namespace and name. -/
  secrets : String × String → Option Secret
  /-- What is left of `ensure_psk_secret` in every controller that has been started. -/
  rest : ℕ → Option (SecretProg (Except ApiError Unit))
  /-- Whether the secret with the key came from somebody else than a controller. -/
  given : Bool
  /-- The keys agents have read. -/
  keys : List (List UInt8)

/-- How the server answers, and what becomes of the secrets.  When a secret is created the answer
may still be any: it can get lost, and a request that is sent again on the way is refused. -/
inductive ServesSecrets (secrets : String × String → Option Secret) :
    (c : SecretCall) → c.Answer → (String × String → Option Secret) → Prop
  | got {ns name : String} :
      ServesSecrets secrets (.getOpt ns name) (.ok (secrets (ns, name))) secrets
  | gotNothing {ns name : String} {e : ApiError} :
      ServesSecrets secrets (.getOpt ns name) (.error e) secrets
  | drew (key : {key : List UInt8 // key.length = 32}) : ServesSecrets secrets .random key secrets
  | created {secret : Secret} (x : Except ApiError Unit)
      (habsent : secrets (secret.ns, secret.name) = none) :
      ServesSecrets secrets (.create secret) x
        (Function.update secrets (secret.ns, secret.name) (some secret.stored))
  | refused {secret : Secret} {e : ApiError}
      (hconflict : e = .conflict → (secrets (secret.ns, secret.name)).isSome = true) :
      ServesSecrets secrets (.create secret) (.error e) secrets

namespace Keyring

inductive Label
  | start (i : ℕ)
  | call (i : ℕ) (c : SecretCall)
  /-- Somebody else creates the secret with the key. -/
  | give
  /-- Something happens to other secrets. -/
  | others
  /-- An agent reads the key. -/
  | read

/-- What the file holds that the agents have mounted. -/
def file (s : Keyring) (ns name : String) : Option (List UInt8) :=
  (s.secrets (ns, name)).bind fun secret => secret.data.lookup "psk"

/-- A controller goes on with `p`. -/
def goOn (s : Keyring) (i : ℕ) (p : SecretProg (Except ApiError Unit)) : Keyring :=
  { s with rest := Function.update s.rest i (some p) }

variable (path ns name : String)

/-- A controller that has died takes no more steps; one that takes its place is another. -/
inductive Step : Keyring → Label → Keyring → Prop
  | start {s : Keyring} {i : ℕ} (hnew : s.rest i = none) :
      Step s (.start i) (s.goOn i (ensurePskSecret ns name))
  | call {s : Keyring} {i : ℕ} {c : SecretCall}
      {k : c.Answer → SecretProg (Except ApiError Unit)} {x : c.Answer}
      {secrets : String × String → Option Secret} (hcall : s.rest i = some (.call c k))
      (hserves : ServesSecrets s.secrets c x secrets) :
      Step s (.call i c) { s.goOn i (k x) with secrets := secrets }
  | give {s : Keyring} (secret : Secret) (habsent : s.secrets (ns, name) = none) :
      Step s .give
        { s with
          secrets := Function.update s.secrets (ns, name) (some secret.stored)
          given := true }
  | others {s : Keyring} {secrets : String × String → Option Secret}
      (hsame : secrets (ns, name) = s.secrets (ns, name)) :
      Step s .others { s with secrets := secrets }
  | read {s : Keyring} {x : Except String (List UInt8)} {psk : List UInt8}
      (hfile : ∀ raw, x = .ok raw → s.file ns name = some raw)
      (hread : (readPsk path).Runs [⟨.read path, x⟩] (.ok psk)) :
      Step s .read { s with keys := psk :: s.keys }

end Keyring

/-- Any number of controllers make sure of the secret, at any time, while agents read the key.
Nobody changes the secret or deletes it. -/
def keyring (path ns name : String) : System Keyring Keyring.Label where
  init s := (∀ i, s.rest i = none) ∧ s.given = (s.secrets (ns, name)).isSome ∧ s.keys = []
  step := Keyring.Step path ns name

/-! ## What a controller knows -/

/-- An answer that tells the secret is there. -/
def SecretCall.Shows : (c : SecretCall) → c.Answer → Prop
  | .getOpt _ _, x => ∃ secret, x = .ok (some secret)
  | .random, _ => False
  | .create _, x => x = .ok () ∨ x = .error .conflict

/-- Calls about the secret with the key. -/
def SecretCall.About (ns name : String) : SecretCall → Prop
  | .getOpt ns' name' => (ns', name') = (ns, name)
  | .random => True
  | .create secret => ∃ random : List UInt8, random.length = 32 ∧ secret = pskSecret ns name random

/-- The ghost state says whether the secret is there.  It stays there. -/
def aboutSecret (ns name : String) : Prog.Discipline SecretCall SecretCall.Answer Prop where
  may _ c := c.About ns name
  next there c x there' := (there → there') ∧ (c.Shows x → there')

/-- What is left of a controller's work is about the secret, and succeeds only once the secret is
there. -/
def KnowsSecret (ns name : String) (there : Prop) (p : SecretProg (Except ApiError Unit)) : Prop :=
  p.Ensures (aboutSecret ns name) there fun r there => r = .ok () → there

lemma ensurePskSecret_knows (ns name : String) (there : Prop) :
    KnowsSecret ns name there (ensurePskSecret ns name) := by
  unfold KnowsSecret ensurePskSecret
  refine Prog.ensures_call.mpr ⟨rfl, fun x there₁ hnext => ?_⟩
  rcases x with e | _ | secret
  · intro h
    cases h
  · refine ⟨trivial, fun random there₂ _ => ⟨⟨random.1, random.2, rfl⟩, fun x there₃ hnext => ?_⟩⟩
    rcases x with (_ | _ | _) | _
    · exact fun _ => hnext.2 (.inr rfl)
    · intro h
      cases h
    · intro h
      cases h
    · exact fun _ => hnext.2 (.inl rfl)
  · exact fun _ => hnext.2 ⟨secret, rfl⟩

lemma KnowsSecret.mono {ns name : String} {there there' : Prop}
    {p : SecretProg (Except ApiError Unit)} (h : KnowsSecret ns name there p)
    (hthere : there → there') : KnowsSecret ns name there' p := by
  unfold KnowsSecret at h ⊢
  refine Prog.Ensures.of_le (R := fun g g' => g → g') ?_ ?_ ?_ hthere h
  · exact fun _ _ _ _ hmay => hmay
  · exact fun _ _ _ _ _ hR hnext => ⟨fun hg => hnext.1 (hR hg), hnext.2⟩
  · exact fun _ _ _ hR hQ hr => hR (hQ hr)

section Answers

variable {secrets secrets' : String × String → Option Secret} {c : SecretCall} {x : c.Answer}

/-- A secret that is there stays as it is. -/
lemma ServesSecrets.keeps (h : ServesSecrets secrets c x secrets') {key : String × String}
    {secret : Secret} (hsecret : secrets key = some secret) : secrets' key = some secret := by
  cases h with
  | got | gotNothing | drew | refused => exact hsecret
  | created x habsent =>
      rw [Function.update_of_ne, hsecret]
      rintro rfl
      rw [habsent] at hsecret
      cases hsecret

/-- A secret that is new is what was to be created. -/
lemma ServesSecrets.origin {ns name : String} (h : ServesSecrets secrets c x secrets')
    (hc : c.About ns name) {secret : Secret} (hsecret : secrets' (ns, name) = some secret) :
    secrets (ns, name) = some secret ∨
      ∃ random : List UInt8, random.length = 32 ∧ secret = (pskSecret ns name random).stored := by
  cases h with
  | got | gotNothing | drew | refused => exact .inl hsecret
  | created x habsent =>
      obtain ⟨random, hlength, rfl⟩ := hc
      refine .inr ⟨random, hlength, ?_⟩
      exact (Option.some.inj ((Function.update_self (ns, name) _ secrets).symm.trans hsecret)).symm

lemma ServesSecrets.next {ns name : String} (h : ServesSecrets secrets c x secrets')
    (hc : c.About ns name) :
    (aboutSecret ns name).next ((secrets (ns, name)).isSome = true) c x
      ((secrets' (ns, name)).isSome = true) := by
  refine ⟨fun hthere => ?_, fun hshows => ?_⟩
  · obtain ⟨secret, hsecret⟩ := Option.isSome_iff_exists.mp hthere
    rw [h.keeps hsecret]
    rfl
  · cases h with
    | got =>
        obtain ⟨secret, hsecret⟩ := hshows
        rw [← hc, Except.ok.inj hsecret]
        rfl
    | gotNothing =>
        obtain ⟨secret, hsecret⟩ := hshows
        cases hsecret
    | drew => exact hshows.elim
    | created x habsent =>
        obtain ⟨random, -, rfl⟩ := hc
        exact congrArg Option.isSome (Function.update_self (ns, name) _ secrets)
    | refused hconflict =>
        obtain ⟨random, -, rfl⟩ := hc
        rcases hshows with hok | herror
        · cases hok
        · exact hconflict (Except.error.inj herror)

end Answers

/-! ## The invariant -/

namespace Keyring

variable {path ns name : String} {s s' : Keyring} {l : Label}

/-- The secret with the key is there. -/
def There (ns name : String) (s : Keyring) : Prop := (s.secrets (ns, name)).isSome = true

structure Inv (path ns name : String) (s : Keyring) : Prop where
  controllers : ∀ i p, s.rest i = some p → KnowsSecret ns name (s.There ns name) p
  /-- Unless it was given, the secret is one that a controller created. -/
  drawn : s.given = false → ∀ secret, s.secrets (ns, name) = some secret →
    ∃ random : List UInt8, random.length = 32 ∧ secret = (pskSecret ns name random).stored
  /-- What was read is what the file still says. -/
  keys : ∀ psk ∈ s.keys, ∃ raw, s.file ns name = some raw ∧ pskOf path raw = .ok psk

lemma Step.keeps (hstep : Step path ns name s l s') {secret : Secret}
    (h : s.secrets (ns, name) = some secret) : s'.secrets (ns, name) = some secret := by
  cases hstep with
  | start | read => exact h
  | call hcall hserves => exact hserves.keeps h
  | give secret' habsent =>
      rw [habsent] at h
      cases h
  | others hsame => exact hsame.trans h

lemma Step.keeps_there (hstep : Step path ns name s l s') (h : s.There ns name) :
    s'.There ns name := by
  obtain ⟨secret, hsecret⟩ := Option.isSome_iff_exists.mp h
  exact Option.isSome_iff_exists.mpr ⟨secret, hstep.keeps hsecret⟩

lemma Step.keeps_file (hstep : Step path ns name s l s') {raw : List UInt8}
    (h : s.file ns name = some raw) : s'.file ns name = some raw := by
  obtain ⟨secret, hsecret, hraw⟩ := Option.bind_eq_some_iff.mp h
  exact Option.bind_eq_some_iff.mpr ⟨secret, hstep.keeps hsecret, hraw⟩

/-- A controller other than `i` is where it was, and `i` goes on with `p`. -/
lemma goOn_knows {there there' : Prop} {i : ℕ} {p : SecretProg (Except ApiError Unit)}
    (h : ∀ i p, s.rest i = some p → KnowsSecret ns name there p) (hthere : there → there')
    (hp : KnowsSecret ns name there' p) :
    ∀ j q, (s.goOn i p).rest j = some q → KnowsSecret ns name there' q := by
  intro j q hq
  by_cases hj : j = i
  · subst hj
    obtain rfl : p = q := Option.some.inj ((Function.update_self j _ s.rest).symm.trans hq)
    exact hp
  · exact (h j q ((Function.update_of_ne hj ..).symm.trans hq)).mono hthere

lemma step_controllers (h : Inv path ns name s) (hstep : Step path ns name s l s') :
    ∀ i p, s'.rest i = some p → KnowsSecret ns name (s'.There ns name) p := by
  have hthere := hstep.keeps_there
  cases hstep with
  | start hnew => exact goOn_knows h.controllers hthere (ensurePskSecret_knows ns name _)
  | call hcall hserves =>
      obtain ⟨habout, hgoes⟩ := h.controllers _ _ hcall
      exact goOn_knows h.controllers hthere (hgoes _ _ (hserves.next habout))
  | give | others | read => exact fun i p hp => (h.controllers i p hp).mono hthere

lemma step_drawn (h : Inv path ns name s) (hstep : Step path ns name s l s') :
    s'.given = false → ∀ secret, s'.secrets (ns, name) = some secret →
      ∃ random : List UInt8, random.length = 32 ∧ secret = (pskSecret ns name random).stored := by
  cases hstep with
  | start | read => exact h.drawn
  | call hcall hserves =>
      intro hgiven secret hsecret
      rcases hserves.origin (h.controllers _ _ hcall).1 hsecret with hold | hnew
      · exact h.drawn hgiven secret hold
      · exact hnew
  | give secret habsent =>
      intro hgiven
      cases hgiven
  | others hsame => exact fun hgiven secret hsecret => h.drawn hgiven secret (hsame ▸ hsecret)

lemma key_of_read {x : Except String (List UInt8)} {psk : List UInt8}
    (h : (readPsk path).Runs [⟨.read path, x⟩] (.ok psk)) :
    ∃ raw, x = .ok raw ∧ pskOf path raw = .ok psk := by
  obtain ⟨x, _, heq, h⟩ := h
  cases heq
  cases x with
  | error e => cases h.2
  | ok raw => exact ⟨raw, rfl, h.2.symm⟩

lemma step_keys (h : Inv path ns name s) (hstep : Step path ns name s l s') :
    ∀ psk ∈ s'.keys, ∃ raw, s'.file ns name = some raw ∧ pskOf path raw = .ok psk := by
  have hold : ∀ psk ∈ s.keys, ∃ raw, s'.file ns name = some raw ∧ pskOf path raw = .ok psk := by
    intro psk hpsk
    obtain ⟨raw, hraw, hkey⟩ := h.keys psk hpsk
    exact ⟨raw, hstep.keeps_file hraw, hkey⟩
  cases hstep with
  | start | call | give | others => exact hold
  | read hfile hread =>
      intro psk hpsk
      rcases List.mem_cons.mp hpsk with rfl | hpsk
      · obtain ⟨raw, hraw, hkey⟩ := key_of_read hread
        exact ⟨raw, hfile raw hraw, hkey⟩
      · exact hold psk hpsk

lemma inv_of_reachable (h : (keyring path ns name).Reachable s) : Inv path ns name s := by
  refine h.invariant (fun s hs => ?_) fun s l s' hs hstep =>
    ⟨step_controllers hs hstep, step_drawn hs hstep, step_keys hs hstep⟩
  obtain ⟨hrest, hgiven, hkeys⟩ := hs
  refine ⟨fun i p hp => ?_, fun hnot secret hsecret => ?_, fun psk hpsk => ?_⟩
  · rw [hrest] at hp
    cases hp
  · rw [hgiven, hsecret] at hnot
    cases hnot
  · rw [hkeys] at hpsk
    cases hpsk

lemma Inv.one_key (h : Inv path ns name s) {psk psk' : List UInt8} (hpsk : psk ∈ s.keys)
    (hpsk' : psk' ∈ s.keys) : psk = psk' := by
  obtain ⟨raw, hraw, hkey⟩ := h.keys psk hpsk
  obtain ⟨raw', hraw', hkey'⟩ := h.keys psk' hpsk'
  obtain rfl := Option.some.inj (hraw.symm.trans hraw')
  exact Except.ok.inj (hkey.symm.trans hkey')

lemma Inv.there_of_done (h : Inv path ns name s) {i : ℕ} (hdone : s.rest i = some (pure (.ok ()))) :
    s.There ns name := h.controllers i _ hdone rfl

/-- A generated secret has the generated key in its file. -/
lemma Inv.file_of_drawn (h : Inv path ns name s) (hgiven : s.given = false)
    (hthere : s.There ns name) : ∃ random : List UInt8, random.length = 32 ∧
      s.file ns name = some (generatedKey random) := by
  obtain ⟨secret, hsecret⟩ := Option.isSome_iff_exists.mp hthere
  obtain ⟨random, hlength, rfl⟩ := h.drawn hgiven secret hsecret
  refine ⟨random, hlength, ?_⟩
  rw [file, hsecret]
  rfl

end Keyring

/-- **The agents share one key**, however many controllers have made sure of it and whenever each of
them started, failed or died.  A hello made with a key that was read is authentic to whoever has
read a key; once a controller has made sure of the secret it is there; and if nobody else provided
it, its key is one of 64 digits that every agent accepts as it is. -/
theorem agents_share_key {path ns name : String} {s : Keyring}
    (h : (keyring path ns name).Reachable s) :
    (∀ psk ∈ s.keys, ∀ psk' ∈ s.keys, psk = psk' ∧
      ∀ hmac device claim timestamp random now,
        (Hello.new hmac psk device claim timestamp random).verify hmac psk' now =
          if withinSkew now timestamp then .ok () else .error .expired) ∧
    (∀ i, s.rest i = some (pure (.ok ())) → s.There ns name) ∧
    (s.given = false → s.There ns name → ∃ random : List UInt8, random.length = 32 ∧
      s.file ns name = some (generatedKey random) ∧
      pskOf path (generatedKey random) = .ok (generatedKey random)) := by
  have hinv := Keyring.inv_of_reachable h
  refine ⟨fun psk hpsk psk' hpsk' => ?_, fun i hdone => hinv.there_of_done hdone,
    fun hgiven hthere => ?_⟩
  · obtain rfl := hinv.one_key hpsk hpsk'
    exact ⟨rfl, fun hmac device claim timestamp random now =>
      Hello.verify_new hmac psk device claim timestamp now random⟩
  · obtain ⟨random, hlength, hfile⟩ := hinv.file_of_drawn hgiven hthere
    exact ⟨random, hlength, hfile, pskOf_generatedKey hlength path⟩

/-! ### Two controllers at once

Both find the secret missing and draw a key.  The first to ask gets its secret created, the second
is refused. -/

def bareKeyring : Keyring where
  secrets _ := none
  rest _ := none
  given := false
  keys := []

def drawnBytes (b : UInt8) : {key : List UInt8 // key.length = 32} := ⟨List.replicate 32 b, rfl⟩

lemma raced_reachable : ∃ s, (keyring "/etc/atomic-usb/psk" "usb" "atomic-usb-psk").Reachable s ∧
    s.given = false ∧ s.rest 1 = some (pure (.ok ())) ∧
    s.keys = [generatedKey (drawnBytes 7).1] := by
  have h : (keyring "/etc/atomic-usb/psk" "usb" "atomic-usb-psk").Reachable bareKeyring :=
    .init ⟨fun _ => rfl, rfl, rfl⟩
  have h := h.step (Keyring.Step.start (i := 0) rfl)
  have h := h.step (Keyring.Step.start (i := 1) rfl)
  have h := h.step (Keyring.Step.call (i := 0) rfl .got)
  have h := h.step (Keyring.Step.call (i := 1) rfl .got)
  have h := h.step (Keyring.Step.call (i := 0) rfl (.drew (drawnBytes 7)))
  have h := h.step (Keyring.Step.call (i := 1) rfl (.drew (drawnBytes 9)))
  have h := h.step (Keyring.Step.call (i := 0) rfl (.created (.ok ()) rfl))
  have h := h.step (Keyring.Step.call (i := 1) rfl (.refused (e := .conflict) fun _ => rfl))
  have hread : (readPsk "/etc/atomic-usb/psk").Runs
      [⟨.read "/etc/atomic-usb/psk", .ok (generatedKey (drawnBytes 7).1)⟩]
      (.ok (generatedKey (drawnBytes 7).1)) :=
    ⟨_, _, rfl, rfl, (pskOf_generatedKey (drawnBytes 7).2 _).symm⟩
  have h := h.step (Keyring.Step.read (fun raw hraw => ?_) hread)
  · exact ⟨_, h, rfl, rfl, rfl⟩
  · rw [← Except.ok.inj hraw]
    rfl

/-- The second controller goes on, and the agent reads a key that is in the file. -/
theorem agents_share_key_raced : ∃ s : Keyring, s.rest 1 = some (pure (.ok ())) ∧
    s.keys = [generatedKey (drawnBytes 7).1] ∧
    (∀ psk ∈ s.keys, psk = generatedKey (drawnBytes 7).1) ∧
    ∃ random : List UInt8, random.length = 32 ∧
      s.file "usb" "atomic-usb-psk" = some (generatedKey random) := by
  obtain ⟨s, hs, hgiven, hdone, hkeys⟩ := raced_reachable
  obtain ⟨hshared, hthere, hdrawn⟩ := agents_share_key hs
  obtain ⟨random, hlength, hfile, -⟩ := hdrawn hgiven (hthere 1 hdone)
  refine ⟨s, hdone, hkeys, fun psk hpsk => (hshared psk hpsk _ ?_).1, random, hlength, hfile⟩
  rw [hkeys]
  exact List.mem_singleton_self _

end AtomicUsb
