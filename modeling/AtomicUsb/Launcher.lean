import AtomicUsb.Foundation.History
import AtomicUsb.Foundation.Text
import AtomicUsb.Kubevirt
import Mathlib.Data.List.Infix

/-!
# Finding the usbredir sockets of a VM

QEMU listens on `virt-usbredir-N` sockets inside the VM's launcher pod.  An agent looks for them
under the kubelet's directories of the pod and, where that does not work, in the file systems of the
host's processes.  Any container can create such a socket in its own file system, so only processes
of the VM's launcher pods may be considered: `locate` never so much as looks at another one
(`locate_stays_in_pods`).

Which pod a process is in is judged by its cgroup path, as a substring test.  `podNames` reads the
names out of the path instead, and `namesPod_iff` says that the two agree on UIDs.
-/

namespace AtomicUsb

/-! ## Paths and files -/

inductive FsCall
  | isSocket (path : String)
  /-- The names in a directory; `none` is an entry that cannot be read or has no Unicode name. -/
  | readDir (path : String)
  /-- A file that can be read and is Unicode. -/
  | readToString (path : String)
  | read (path : String)

def FsCall.Answer : FsCall → Type
  | .isSocket _ => Bool
  | .readDir _ => Option (List (Option String))
  | .readToString _ => Option String
  | .read _ => Except String (List UInt8)

abbrev FsProg := Prog FsCall FsCall.Answer

abbrev FsEvent := Prog.Event FsCall FsCall.Answer

def fs (call : FsCall) : FsProg call.Answer := Prog.perform call

/-- `Path::join`: an absolute path replaces what it is joined to. -/
def joinPath (base path : String) : String :=
  if path.toList.head? = some '/' then path
  else if base.toList.getLast?.all (· = '/') then base ++ path
  else base ++ "/" ++ path

/-- `str::contains`. -/
def contains (s pattern : String) : Bool := pattern.toList <:+: s.toList

/-! ## The search -/

structure SocketLocator where
  kubeletRoot : String
  /-- Host `/proc`, when the agent runs with `hostPID`. -/
  procRoot : Option String

def socketName (slot : ℤ) : String := s!"virt-usbredir-{slot}"

/-- virt-launcher pods of a VMI scheduled on a node. -/
def VmiInfo.launcherPodsOn (vmi : VmiInfo) (node : String) : List String :=
  (vmi.activePods.filter (·.2 = node)).map (·.1)

/-- A UID as the systemd driver spells it in cgroup paths. -/
def underscored (uid : String) : String :=
  String.ofList (uid.toList.map fun c => if c = '-' then '_' else c)

/-- The test `process_in_pods` makes on the cgroup path. -/
def namesPod (cgroup : String) (podUids : List String) : Bool :=
  (podUids.filter (· ≠ "")).any fun uid =>
    contains cgroup ("pod" ++ uid) || contains cgroup ("pod" ++ underscored uid)

/-- Whether `/proc/<pid>` belongs to one of the pods. -/
def processInPods (procPid : String) (podUids : List String) : FsProg Bool := do
  match ← fs (.readToString (joinPath procPid "cgroup")) with
  | none => pure false
  | some cgroup => pure (namesPod cgroup podUids)

def firstSocket : List String → FsProg (Option String)
  | [] => pure none
  | path :: paths => do
    match ← fs (.isSocket path) with
    | true => pure (some path)
    | false => firstSocket paths

/-- The name of a directory in `/proc` that stands for a process. -/
def isPid (name : String) : Bool := name.toList.all fun c => '0' ≤ c && c ≤ '9'

namespace SocketLocator

variable (loc : SocketLocator)

/-- Candidate socket paths in order of preference. -/
def candidates (vmiUid : String) (launcherPods : List String) (slot : ℤ) : List String :=
  launcherPods.map fun pod =>
    joinPath (joinPath (joinPath (joinPath (joinPath loc.kubeletRoot "pods") pod)
      "volumes/kubernetes.io~empty-dir/private") vmiUid) (socketName slot)

/-- The socket of a process, under `/proc/<pid>`. -/
def processSocket (procPid vmiUid : String) (slot : ℤ) : String :=
  joinPath procPid
    (joinPath (joinPath "root/var/run/kubevirt-private" vmiUid) (socketName slot))

def searchProcesses (procRoot vmiUid : String) (launcherPods : List String) (slot : ℤ) :
    List (Option String) → FsProg (Option String)
  | [] => pure none
  | none :: entries => searchProcesses procRoot vmiUid launcherPods slot entries
  | some name :: entries =>
    if isPid name then do
      match ← processInPods (joinPath procRoot name) launcherPods with
      | false => searchProcesses procRoot vmiUid launcherPods slot entries
      | true =>
        match ← fs (.isSocket (processSocket (joinPath procRoot name) vmiUid slot)) with
        | true => pure (some (processSocket (joinPath procRoot name) vmiUid slot))
        | false => searchProcesses procRoot vmiUid launcherPods slot entries
    else searchProcesses procRoot vmiUid launcherPods slot entries

/-- The first existing socket for the VMI, falling back to scanning host processes. -/
def locate (vmiUid : String) (launcherPods : List String) (slot : ℤ) : FsProg (Option String) := do
  match ← firstSocket (loc.candidates vmiUid launcherPods slot) with
  | some found => pure (some found)
  | none =>
    match loc.procRoot with
    | none => pure none
    | some procRoot =>
      if launcherPods = [] then pure none
      else
        match ← fs (.readDir procRoot) with
        | none => pure none
        | some entries => searchProcesses procRoot vmiUid launcherPods slot entries

end SocketLocator

/-! ## Which pod a process is in -/

def uidLength : ℕ := 36

def isUidChar (c : Char) : Bool := ('0' ≤ c && c ≤ '9') || ('a' ≤ c && c ≤ 'f') || c == '-'

structure IsUid (s : String) : Prop where
  length : s.toList.length = uidLength
  chars : ∀ c ∈ s.toList, isUidChar c = true

/-- The texts in a cgroup path that follow `pod` and look like a UID in either spelling. -/
def podNames (cgroup : String) : List (List Char) :=
  cgroup.toList.tails.filterMap fun tail =>
    (Text.stripPrefix "pod".toList tail).bind fun rest =>
      if (rest.take uidLength).length = uidLength ∧
          (rest.take uidLength).all (fun c => isUidChar c || c == '_') = true then
        some (rest.take uidLength)
      else none

lemma contains_iff_mem_podNames {cgroup name : String} (hlength : name.toList.length = uidLength)
    (hchars : ∀ c ∈ name.toList, (isUidChar c || c == '_') = true) :
    contains cgroup ("pod" ++ name) = true ↔ name.toList ∈ podNames cgroup := by
  have hall : name.toList.all (fun c => isUidChar c || c == '_') = true :=
    List.all_eq_true.mpr hchars
  rw [contains, decide_eq_true_eq, String.toList_append, List.infix_iff_prefix_suffix, podNames,
    List.mem_filterMap]
  constructor
  · rintro ⟨tail, ⟨rest, rfl⟩, hsuffix⟩
    refine ⟨_, (List.mem_tails _ _).mpr hsuffix, Option.bind_eq_some_iff.mpr
      ⟨name.toList ++ rest, ?_, ?_⟩⟩
    · rw [Text.stripPrefix_eq_some, List.append_assoc]
    · have htake : (name.toList ++ rest).take uidLength = name.toList := by
        rw [← hlength, List.take_left]
      rw [htake, if_pos ⟨hlength, hall⟩]
  · rintro ⟨tail, htail, hname⟩
    obtain ⟨rest, hrest, hname⟩ := Option.bind_eq_some_iff.mp hname
    rw [Option.ite_none_right_eq_some] at hname
    have hprefix : name.toList <+: rest := Option.some.inj hname.2 ▸ List.take_prefix _ _
    refine ⟨tail, ?_, (List.mem_tails _ _).mp htail⟩
    rw [Text.stripPrefix_eq_some.mp hrest]
    exact (List.prefix_append_right_inj _).mpr hprefix

lemma toList_underscored (uid : String) :
    (underscored uid).toList = uid.toList.map fun c => if c = '-' then '_' else c :=
  String.toList_ofList

lemma IsUid.spelled {uid : String} (h : IsUid uid) :
    (underscored uid).toList.length = uidLength ∧
      ∀ c ∈ (underscored uid).toList, (isUidChar c || c == '_') = true := by
  rw [toList_underscored]
  refine ⟨by rw [List.length_map, h.length], fun c hc => ?_⟩
  obtain ⟨d, hd, rfl⟩ := List.mem_map.mp hc
  split_ifs
  · simp
  · simp [h.chars d hd]

/-- The path names one of the pods, in one of the two spellings. -/
def NamesOneOf (podUids : List String) (cgroup : String) : Prop :=
  ∃ uid ∈ podUids, uid.toList ∈ podNames cgroup ∨ (underscored uid).toList ∈ podNames cgroup

/-- On UIDs the substring test is a comparison of names. -/
lemma namesPod_iff {cgroup : String} {podUids : List String} (h : ∀ uid ∈ podUids, IsUid uid) :
    namesPod cgroup podUids = true ↔ NamesOneOf podUids cgroup := by
  have huid : ∀ uid ∈ podUids, uid ≠ "" ∧
      ((contains cgroup ("pod" ++ uid) || contains cgroup ("pod" ++ underscored uid)) = true ↔
        uid.toList ∈ podNames cgroup ∨ (underscored uid).toList ∈ podNames cgroup) := by
    intro uid hmem
    have hu := h uid hmem
    refine ⟨fun hempty => ?_, ?_⟩
    · have hlength := hu.length
      rw [hempty] at hlength
      cases hlength
    · rw [Bool.or_eq_true, contains_iff_mem_podNames hu.length fun c hc => by simp [hu.chars c hc],
        contains_iff_mem_podNames hu.spelled.1 hu.spelled.2]
  rw [namesPod, List.any_eq_true]
  constructor
  · rintro ⟨uid, hmem, hnames⟩
    have hmem := (List.mem_filter.mp hmem).1
    exact ⟨uid, hmem, (huid uid hmem).2.mp hnames⟩
  · rintro ⟨uid, hmem, hnames⟩
    exact ⟨uid, List.mem_filter.mpr ⟨hmem, decide_eq_true (huid uid hmem).1⟩,
      (huid uid hmem).2.mpr hnames⟩

/-- A UID is read back from either spelling. -/
lemma IsUid.read_back {uid : String} (h : IsUid uid) {name : List Char}
    (hname : name = uid.toList ∨ name = (underscored uid).toList) :
    (name.map fun c => if c = '_' then '-' else c) = uid.toList := by
  have hno : ∀ c ∈ uid.toList, c ≠ '_' := by
    rintro _ hc rfl
    cases h.chars _ hc
  rcases hname with rfl | rfl
  · conv_rhs => rw [← List.map_id uid.toList]
    exact List.map_congr_left fun c hc => if_neg (hno c hc)
  · rw [toList_underscored, List.map_map]
    conv_rhs => rw [← List.map_id uid.toList]
    refine List.map_congr_left fun c hc => ?_
    by_cases hdash : c = '-'
    · simp [hdash]
    · simp [hdash, hno c hc]

/-- A process whose path names a single pod is taken for one of the launcher pods only if that pod
is one of them. -/
lemma mem_of_namesOneOf {uid cgroup : String} {podUids : List String}
    (hpods : ∀ uid ∈ podUids, IsUid uid) (huid : IsUid uid)
    (honly : ∀ name ∈ podNames cgroup, name = uid.toList ∨ name = (underscored uid).toList)
    (h : NamesOneOf podUids cgroup) : uid ∈ podUids := by
  obtain ⟨uid', hmem, hname⟩ := h
  obtain ⟨name, hname, hspelled⟩ : ∃ name ∈ podNames cgroup,
      name = uid'.toList ∨ name = (underscored uid').toList := by
    rcases hname with hname | hname
    · exact ⟨_, hname, Or.inl rfl⟩
    · exact ⟨_, hname, Or.inr rfl⟩
  have heq := ((hpods uid' hmem).read_back hspelled).symm.trans (huid.read_back (honly name hname))
  rwa [← String.toList_inj.mp heq]

/-! ## Runs of the search -/

def FsEvent.finds : FsEvent → Bool
  | ⟨.isSocket _, found⟩ => found
  | _ => false

/-- No socket has been found yet. -/
def NoSocket (log : List FsEvent) : Prop := ∀ e ∈ log, FsEvent.finds e = false

/-- The last thing that happened is that a socket was found, for the first time. -/
def Found (log : List FsEvent) (path : String) : Prop :=
  ∃ before, log = before ++ [⟨.isSocket path, true⟩] ∧ NoSocket before

/-- The process's cgroup file has just been read, and it names one of the pods. -/
def SeenInPods (podUids : List String) (log : List FsEvent) (procPid : String) : Prop :=
  ∃ cgroup, log.getLast? = some ⟨.readToString (joinPath procPid "cgroup"), some cgroup⟩ ∧
    NamesOneOf podUids cgroup

lemma NoSocket.append {log : List FsEvent} {e : FsEvent} (h : NoSocket log)
    (he : FsEvent.finds e = false) : NoSocket (log ++ [e]) :=
  List.forall_mem_append.mpr ⟨h, List.forall_mem_singleton.mpr he⟩

section Search

variable {may : List FsEvent → FsCall → Prop} {log : List FsEvent}

lemma firstSocket_spec {paths : List String}
    (hmay : ∀ log, ∀ path ∈ paths, may log (.isSocket path)) (hlog : NoSocket log) :
    (firstSocket paths).Ensures (.logged may) log fun r log' =>
      (∀ path, r = some path → Found log' path) ∧
      (r = none → NoSocket log' ∧ ∀ path ∈ paths, ⟨.isSocket path, false⟩ ∈ log') := by
  induction paths generalizing log with
  | nil => exact ⟨nofun, fun _ => ⟨hlog, by simp⟩⟩
  | cons path paths ih =>
      refine Prog.ensures_logged_call.mpr ⟨hmay log path List.mem_cons_self, fun found => ?_⟩
      cases found with
      | true =>
          refine ⟨fun path' heq => ?_, nofun⟩
          obtain rfl := Option.some.inj heq
          exact ⟨log, rfl, hlog⟩
      | false =>
          have hlog' : NoSocket (log ++ [⟨.isSocket path, false⟩]) := hlog.append rfl
          have hrest := ih (fun log p hp => hmay log p (List.mem_cons_of_mem _ hp)) hlog'
          refine hrest.logged_grows.mono fun r log' ⟨hr, hgrows⟩ => ⟨hr.1, fun hnone => ?_⟩
          refine ⟨(hr.2 hnone).1, List.forall_mem_cons.mpr ⟨?_, (hr.2 hnone).2⟩⟩
          exact hgrows.subset (by simp)

namespace SocketLocator

/-- A process was passed over: it is in none of the pods as far as one can read, or has no such
socket. -/
def PassedOver (podUids : List String) (log : List FsEvent) (procPid vmiUid : String) (slot : ℤ) :
    Prop :=
  ∃ cgroup, ⟨.readToString (joinPath procPid "cgroup"), cgroup⟩ ∈ log ∧
    ∀ text, cgroup = some text → NamesOneOf podUids text →
      ⟨.isSocket (processSocket procPid vmiUid slot), false⟩ ∈ log

lemma PassedOver.mono {podUids : List String} {log log' : List FsEvent} {procPid vmiUid : String}
    {slot : ℤ} (h : PassedOver podUids log procPid vmiUid slot) (hgrows : log <+: log') :
    PassedOver podUids log' procPid vmiUid slot := by
  obtain ⟨cgroup, hread, hpassed⟩ := h
  exact ⟨cgroup, hgrows.subset hread, fun text ht hn => hgrows.subset (hpassed text ht hn)⟩

lemma searchProcesses_spec {procRoot vmiUid : String} {pods : List String} {slot : ℤ}
    (hpods : ∀ uid ∈ pods, IsUid uid)
    (hread : ∀ log path, may log (.readToString path))
    (hmay : ∀ log name, isPid name = true → SeenInPods pods log (joinPath procRoot name) →
      may log (.isSocket (processSocket (joinPath procRoot name) vmiUid slot)))
    {entries : List (Option String)} (hlog : NoSocket log) :
    (searchProcesses procRoot vmiUid pods slot entries).Ensures (.logged may) log fun r log' =>
      (∀ path, r = some path → Found log' path) ∧
      (r = none → NoSocket log' ∧ ∀ name, some name ∈ entries → isPid name = true →
        PassedOver pods log' (joinPath procRoot name) vmiUid slot) := by
  induction entries generalizing log with
  | nil => exact ⟨nofun, fun _ => ⟨hlog, by simp⟩⟩
  | cons entry entries ih =>
      -- the rest of the search, once this entry has been dealt with
      have hrest : ∀ log', log <+: log' → NoSocket log' →
          (∀ name, entry = some name → isPid name = true →
            PassedOver pods log' (joinPath procRoot name) vmiUid slot) →
          (searchProcesses procRoot vmiUid pods slot entries).Ensures (.logged may) log'
            fun r log'' =>
              (∀ path, r = some path → Found log'' path) ∧
              (r = none → NoSocket log'' ∧ ∀ name, some name ∈ entry :: entries →
                isPid name = true →
                  PassedOver pods log'' (joinPath procRoot name) vmiUid slot) := by
        intro log' _ hlog' hentry
        refine (ih hlog').logged_grows.mono fun r log'' ⟨hr, hgrows⟩ => ⟨hr.1, fun hnone => ?_⟩
        refine ⟨(hr.2 hnone).1, fun name hmem hpid => ?_⟩
        rcases List.mem_cons.mp hmem with heq | hmem
        · exact (hentry name heq.symm hpid).mono hgrows
        · exact (hr.2 hnone).2 name hmem hpid
      cases entry with
      | none => exact hrest log (List.prefix_refl _) hlog nofun
      | some name =>
          rw [searchProcesses]
          split_ifs with hpid
          · refine Prog.ensures_logged_call.mpr ⟨hread _ _, fun cgroup => ?_⟩
            have hlog₁ : NoSocket (log ++ [⟨.readToString
                (joinPath (joinPath procRoot name) "cgroup"), cgroup⟩]) :=
              hlog.append rfl
            have hmem : (⟨.readToString (joinPath (joinPath procRoot name) "cgroup"), cgroup⟩ :
                FsEvent) ∈ log ++ [⟨.readToString
                  (joinPath (joinPath procRoot name) "cgroup"), cgroup⟩] := by simp
            cases cgroup with
            | none =>
                refine hrest _ (List.prefix_append _ _) hlog₁ fun name' heq _ => ?_
                obtain rfl := Option.some.inj heq
                exact ⟨none, hmem, nofun⟩
            | some cgroup =>
                show Prog.Ensures _ (match namesPod cgroup pods with
                  | false => _
                  | true => _) _ _
                cases hnames : namesPod cgroup pods with
                | false =>
                    refine hrest _ (List.prefix_append _ _) hlog₁ fun name' heq _ => ?_
                    obtain rfl := Option.some.inj heq
                    refine ⟨some cgroup, hmem, fun text ht hnamed => ?_⟩
                    obtain rfl := Option.some.inj ht
                    rw [(namesPod_iff hpods).mpr hnamed] at hnames
                    cases hnames
                | true =>
                    have hseen : SeenInPods pods (log ++ [⟨.readToString _, some cgroup⟩])
                        (joinPath procRoot name) :=
                      ⟨cgroup, List.getLast?_concat, (namesPod_iff hpods).mp hnames⟩
                    refine Prog.ensures_logged_call.mpr ⟨hmay _ name hpid hseen, fun found => ?_⟩
                    cases found with
                    | true =>
                        refine ⟨fun path heq => ?_, nofun⟩
                        obtain rfl := Option.some.inj heq
                        exact ⟨_, rfl, hlog₁⟩
                    | false =>
                        refine hrest _ ?_ (hlog₁.append rfl) fun name' heq _ => ?_
                        · rw [List.append_assoc]
                          exact List.prefix_append _ _
                        · obtain rfl := Option.some.inj heq
                          exact ⟨some cgroup, List.mem_append_left _ hmem, fun _ _ _ => by simp⟩
          · refine hrest log (List.prefix_refl _) hlog fun name' heq hpid' => ?_
            obtain rfl := Option.some.inj heq
            exact absurd hpid' hpid

variable (loc : SocketLocator)

/-- A socket that may be looked at: in the directory of a launcher pod, or in the file system of a
process that was seen to be in one. -/
def Eligible (vmiUid : String) (pods : List String) (slot : ℤ) (log : List FsEvent)
    (path : String) : Prop :=
  path ∈ loc.candidates vmiUid pods slot ∨
    ∃ procRoot name, loc.procRoot = some procRoot ∧ isPid name = true ∧
      SeenInPods pods log (joinPath procRoot name) ∧
      path = processSocket (joinPath procRoot name) vmiUid slot

/-- Every place was tried. -/
structure Exhausted (vmiUid : String) (pods : List String) (slot : ℤ) (log : List FsEvent) :
    Prop where
  candidates : ∀ path ∈ loc.candidates vmiUid pods slot, ⟨.isSocket path, false⟩ ∈ log
  processes : ∀ procRoot, loc.procRoot = some procRoot → pods ≠ [] →
    ∃ listing, ⟨.readDir procRoot, listing⟩ ∈ log ∧
      ∀ entries, listing = some entries → ∀ name, some name ∈ entries → isPid name = true →
        PassedOver pods log (joinPath procRoot name) vmiUid slot

/-- What may be asked of the file system. -/
def MayLook (vmiUid : String) (pods : List String) (slot : ℤ) (log : List FsEvent) : FsCall → Prop
  | .isSocket path => loc.Eligible vmiUid pods slot log path
  | _ => True

lemma locate_spec (vmiUid : String) {pods : List String} (slot : ℤ)
    (hpods : ∀ uid ∈ pods, IsUid uid) :
    (loc.locate vmiUid pods slot).Ensures (.logged (loc.MayLook vmiUid pods slot)) [] fun r log =>
      (∀ path, r = some path → Found log path) ∧
      (r = none → loc.Exhausted vmiUid pods slot log) := by
  have hfirst : (firstSocket (loc.candidates vmiUid pods slot)).Ensures
      (.logged (loc.MayLook vmiUid pods slot)) [] _ :=
    firstSocket_spec (fun _ _ hpath => Or.inl hpath) fun _ he => absurd he List.not_mem_nil
  refine Prog.ensures_bind.mpr (hfirst.mono fun r log ⟨hfound, hmissed⟩ => ?_)
  cases r with
  | some path => exact ⟨fun path' heq => hfound path' heq, nofun⟩
  | none =>
      obtain ⟨hlog, hcandidates⟩ := hmissed rfl
      cases hroot : loc.procRoot with
      | none => exact ⟨nofun, fun _ => ⟨hcandidates, by simp [hroot]⟩⟩
      | some procRoot =>
          dsimp only
          split_ifs with hempty
          · exact ⟨nofun, fun _ => ⟨hcandidates, fun _ _ hne => absurd hempty hne⟩⟩
          · refine Prog.ensures_logged_call.mpr ⟨trivial, fun listing => ?_⟩
            have hlog' : NoSocket (log ++ [⟨.readDir procRoot, listing⟩]) := hlog.append rfl
            cases listing with
            | none =>
                refine ⟨nofun, fun _ => ⟨fun path hpath =>
                  List.mem_append_left _ (hcandidates path hpath), fun root heq _ => ?_⟩⟩
                obtain rfl := Option.some.inj (hroot.symm.trans heq)
                exact ⟨none, by simp, nofun⟩
            | some entries =>
                have hsearch : (searchProcesses procRoot vmiUid pods slot entries).Ensures
                    (.logged (loc.MayLook vmiUid pods slot)) _ _ :=
                  searchProcesses_spec hpods (fun _ _ => trivial)
                    (fun log name hpid hseen => Or.inr ⟨procRoot, name, hroot, hpid, hseen, rfl⟩)
                    hlog'
                refine hsearch.logged_grows.mono fun r log' ⟨⟨hfound, hmissed⟩, hgrows⟩ =>
                  ⟨hfound, fun hnone => ⟨fun path hpath => hgrows.subset
                    (List.mem_append_left _ (hcandidates path hpath)), fun root heq _ => ?_⟩⟩
                obtain rfl := Option.some.inj (hroot.symm.trans heq)
                refine ⟨some entries, hgrows.subset (by simp), fun entries' heq => ?_⟩
                obtain rfl := Option.some.inj heq
                exact (hmissed hnone).2

lemma searchProcesses_found {procRoot vmiUid : String} {pods : List String} {slot : ℤ}
    (hmay : ∀ log call, (∀ path, call ≠ .read path) → may log call)
    {entries : List (Option String)} :
    (searchProcesses procRoot vmiUid pods slot entries).Ensures (.logged may) log fun r log' =>
      ∀ path, r = some path → ⟨.isSocket path, true⟩ ∈ log' := by
  induction entries generalizing log with
  | nil => exact nofun
  | cons entry entries ih =>
      cases entry with
      | none => exact ih
      | some name =>
          rw [searchProcesses]
          split_ifs
          · refine Prog.ensures_logged_call.mpr ⟨hmay _ _ nofun, fun cgroup => ?_⟩
            cases cgroup with
            | none => exact ih
            | some cgroup =>
                show Prog.Ensures _ (match namesPod cgroup pods with
                  | false => _
                  | true => _) _ _
                cases namesPod cgroup pods with
                | false => exact ih
                | true =>
                    refine Prog.ensures_logged_call.mpr ⟨hmay _ _ nofun, fun found => ?_⟩
                    cases found with
                    | false => exact ih
                    | true =>
                        intro path heq
                        obtain rfl := Option.some.inj heq
                        simp
          · exact ih

/-- Whatever the pods are called, only a socket that was found is returned. -/
lemma locate_found {vmiUid : String} {pods : List String} {slot : ℤ}
    (hmay : ∀ log call, (∀ path, call ≠ .read path) → may log call) :
    (loc.locate vmiUid pods slot).Ensures (.logged may) [] fun r log =>
      ∀ path, r = some path → ⟨.isSocket path, true⟩ ∈ log := by
  have hfirst : (firstSocket (loc.candidates vmiUid pods slot)).Ensures (.logged may) [] _ :=
    firstSocket_spec (fun _ _ _ => hmay _ _ nofun) fun _ he => absurd he List.not_mem_nil
  refine Prog.ensures_bind.mpr (hfirst.mono fun r log ⟨hfound, _⟩ => ?_)
  cases r with
  | some path =>
      intro path' heq
      obtain ⟨before, rfl, _⟩ := hfound path' heq
      simp
  | none =>
      cases loc.procRoot with
      | none => exact nofun
      | some procRoot =>
          dsimp only
          split_ifs
          · exact nofun
          · refine Prog.ensures_logged_call.mpr ⟨hmay _ _ nofun, fun listing => ?_⟩
            cases listing with
            | none => exact nofun
            | some entries => exact searchProcesses_found hmay

/-- **The search never leaves the VM's launcher pods.**  Right before a socket in the file system of
a process is looked at, the process's cgroup path has been read and names one of the pods; if it
names a single pod, that is one of them.  What the search returns is the first socket it found, and
it comes back empty-handed only after trying every candidate and every process it can see to be in
one of the pods. -/
theorem locate_stays_in_pods {vmiUid : String} {pods : List String} {slot : ℤ}
    (hpods : ∀ uid ∈ pods, IsUid uid) {tr : List FsEvent} {r : Option String}
    (h : (loc.locate vmiUid pods slot).Runs tr r) :
    (∀ before path found after, tr = before ++ ⟨.isSocket path, found⟩ :: after →
      loc.Eligible vmiUid pods slot before path) ∧
    (∀ before file cgroup path found after uid,
      tr = before ++ ⟨.readToString file, some cgroup⟩ :: ⟨.isSocket path, found⟩ :: after →
      path ∉ loc.candidates vmiUid pods slot → IsUid uid →
      (∀ name ∈ podNames cgroup, name = uid.toList ∨ name = (underscored uid).toList) →
      uid ∈ pods) ∧
    (∀ path, r = some path → Found tr path) ∧
    (r = none → loc.Exhausted vmiUid pods slot tr) := by
  have hspec := locate_spec loc vmiUid slot hpods
  have heligible : ∀ before path found after, tr = before ++ ⟨.isSocket path, found⟩ :: after →
      loc.Eligible vmiUid pods slot before path := by
    rintro before path found after rfl
    exact hspec.logged_allowed h
  refine ⟨heligible, fun before file cgroup path found after uid htr hpath huid honly => ?_,
    hspec.logged_result h⟩
  rw [List.append_cons] at htr
  obtain hcandidate | ⟨_, _, _, _, ⟨cgroup', hlast, hnames⟩, _⟩ := heligible _ path found after htr
  · exact absurd hcandidate hpath
  · rw [List.getLast?_concat] at hlast
    cases Option.some.inj hlast
    exact mem_of_namesOneOf hpods huid honly hnames

end SocketLocator

end Search

/-! A node on which another pod has planted a socket for the VM: process 6 is not in the launcher
pod and is passed over, process 7 is. -/

def launcherUid : String := "0659178d-bb0e-41ef-a3be-d486a723f441"

def hostLocator : SocketLocator := ⟨"/var/lib/kubelet", some "/proc"⟩

def launcherSocket : String := SocketLocator.processSocket (joinPath "/proc" "7") "vmi-1" 0

def plantedRun : List FsEvent :=
  (hostLocator.candidates "vmi-1" [launcherUid] 0).map (⟨.isSocket ·, false⟩) ++
    [⟨.readDir "/proc", some [some "6", some "7"]⟩,
      ⟨.readToString (joinPath (joinPath "/proc" "6") "cgroup"),
        some "0::/pod11111111-2222-3333-4444-555555555555"⟩,
      ⟨.readToString (joinPath (joinPath "/proc" "7") "cgroup"),
        some "0::/pod0659178d_bb0e_41ef_a3be_d486a723f441"⟩,
      ⟨.isSocket launcherSocket, true⟩]

lemma plantedRun_runs :
    (hostLocator.locate "vmi-1" [launcherUid] 0).Runs plantedRun (some launcherSocket) := by
  have hplanted : namesPod "0::/pod11111111-2222-3333-4444-555555555555" [launcherUid] = false := by
    decide +kernel
  have hlauncher : namesPod "0::/pod0659178d_bb0e_41ef_a3be_d486a723f441" [launcherUid] = true := by
    decide +kernel
  refine Prog.runs_bind.mpr ⟨_, _, none, rfl, ⟨false, _, rfl, rfl, rfl⟩,
    some [some "6", some "7"], _, rfl, ?_⟩
  show (SocketLocator.searchProcesses "/proc" "vmi-1" [launcherUid] 0
    [some "6", some "7"]).Runs _ _
  rw [SocketLocator.searchProcesses, if_pos (by decide)]
  refine Prog.runs_bind.mpr ⟨[_], _, false, rfl, ⟨some _, _, rfl, rfl, hplanted.symm⟩, ?_⟩
  dsimp only
  rw [SocketLocator.searchProcesses, if_pos (by decide)]
  exact Prog.runs_bind.mpr ⟨[_], _, true, rfl, ⟨some _, _, rfl, rfl, hlauncher.symm⟩,
    true, _, rfl, rfl, rfl⟩

theorem locate_stays_in_pods_planted :
    hostLocator.Eligible "vmi-1" [launcherUid] 0 plantedRun.dropLast launcherSocket ∧
      Found plantedRun launcherSocket := by
  have huid : IsUid launcherUid := ⟨rfl, List.all_eq_true.mp (by decide +kernel)⟩
  have hspec := hostLocator.locate_stays_in_pods (List.forall_mem_singleton.mpr huid)
    plantedRun_runs
  exact ⟨hspec.1 _ _ _ [] rfl, hspec.2.2.1 _ rfl⟩

end AtomicUsb
