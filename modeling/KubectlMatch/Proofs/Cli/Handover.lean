import KubectlMatch.Cli.Run
import KubectlMatch.Proofs.Files.Joins
import KubectlMatch.Proofs.Launch.Starting
import KubectlMatch.Proofs.Resolution.Availability
/-!
# A run as kubectl

A run with kubectl's command line ends in one of two ways: it becomes the file that its two decisions have led to,
with the arguments and the environment that it was given itself, or it tells on the standard error why it could not.
The path that is decided on has a slash in it, so no other file can come in between.  Such a run never ends exactly if
a scan of the search path waits for a binary that never ends its answer (`run_becomes_or_tells`).
-/
namespace KubectlMatch

namespace Surroundings

variable {s : Surroundings}

theorem bytes_ne_nil_of_mem_searchPath {dir : Path} {list : Option String} (h : dir ∈ s.searchPath list) :
    dir.bytes ≠ [] := by
  unfold searchPath at h
  have := (List.mem_filter.1 h).2
  simpa [HostText.isEmpty] using this

theorem bytes_downloadDir_ne_nil (p : Platform) : (s.downloadDir p).bytes ≠ [] := by
  have hbin : (Path.join s.dataDir "bin").bytes ≠ [] := Path.bytes_join_ne_nil (by decide)
  exact List.ne_nil_of_mem (Path.slash_mem_join _ hbin)

end Surroundings

/-- A first decision whose parties leave the files alone does so itself. -/
theorem Collaborators.files_versionToUse {c : Collaborators (StateM World)} {limit : Duration}
    (hprobe : ∀ world, ((c.probe limit).run world).2.files = world.files)
    (hrecent : ∀ world, (c.mostRecent.run world).2.files = world.files)
    (hstable : ∀ world, (c.stable.run world).2.files = world.files) (world : World) :
    ((c.versionToUse limit).run world).2.files = world.files := by
  rw [versionToUse, World.run_bind]
  rcases hprobed : (c.probe limit).run world with ⟨e | v, probed⟩
  · have hfiles := hprobe world
    rw [hprobed] at hfiles
    dsimp only
    rw [World.run_bind]
    rcases hfound : c.mostRecent.run probed with ⟨e' | b, found⟩
    · have hfiles' := hrecent probed
      rw [hfound] at hfiles'
      cases e' with
      | noneFound =>
        dsimp only
        rw [World.run_bind]
        have hfiles'' := hstable found
        rcases hreleased : c.stable.run found with ⟨e'' | v, released⟩
        · rw [hreleased] at hfiles''
          exact hfiles''.trans (hfiles'.trans hfiles)
        · rw [hreleased] at hfiles''
          exact hfiles''.trans (hfiles'.trans hfiles)
      | _ => exact hfiles'.trans hfiles
    · have hfiles' := hrecent probed
      rw [hfound] at hfiles'
      exact hfiles'.trans hfiles
  · have hfiles := hprobe world
    rw [hprobed] at hfiles
    exact hfiles

/-! ## Paths of answers -/

namespace Machine

variable {m : Machine} {s : Settings} {v : Version} {allow : Bool} {path : Path} {world : World}

theorem slash_mem_entryPath (m : Machine) (v : Version) : Path.slash ∈ (m.cache.entryPath v).bytes :=
  Path.slash_mem_join _ (Surroundings.bytes_downloadDir_ne_nil m.platform)

theorem slash_mem_of_mem_scanned {b : Binary} {fs : FileSystem} (h : b ∈ (m.finder s).scanned fs) :
    Path.slash ∈ b.path.bytes := by
  rcases Finder.mem_scanned_iff.1 h with h | h
  · obtain ⟨dir, hdir, _, _, name, _, hpath, _⟩ := Finder.mem_systemBinaries_iff.1 h
    rw [hpath]
    exact Path.slash_mem_join name (Surroundings.bytes_ne_nil_of_mem_searchPath hdir)
  · obtain ⟨_, _, name, _, hentry⟩ := Finder.mem_localBinaries_iff.1 h
    rw [(LocalCache.entry?_eq_some hentry).1]
    exact Path.slash_mem_join name (Surroundings.bytes_downloadDir_ne_nil m.platform)

/-- A path that is decided on is never the bare name of a program. -/
theorem slash_mem_of_ensureAvailable (h : (((m.parties s).ensureAvailable v allow).run world).1 = .ok path) :
    Path.slash ∈ path.bytes := by
  rcases Collaborators.ensureAvailable_eq_ok h with ⟨b, hb, rfl⟩ | rfl
  · obtain ⟨hfirst, -⟩ := Binary.compatible?_eq_some_iff.1 (Finder.findCompatible_eq_ok_iff.1 hb)
    exact slash_mem_of_mem_scanned hfirst.mem
  · exact slash_mem_entryPath m v

/-! ## Decisions that may never be made -/

open World.Course (Follows follows_ofAction follows_ofSearch follows_pure run_ofSearch_eq_none run_bind_eq_none)

theorem fetchToCache_follows (m : Machine) (s : Settings) (v : Version) (world : World) :
    Follows ((m.collaborators s).fetchToCache v) ((m.parties s).fetchToCache v) world := by
  refine .bind (follows_ofAction _ world) ?_
  generalize (m.parties s).ensureCache.run world = made
  rcases made with ⟨e | ⟨⟩, made⟩
  · exact follows_pure _ _
  · refine .bind (follows_ofAction _ made) ?_
    generalize ((m.parties s).fetch v ((m.parties s).entryPath v)).run made = fetched
    rcases fetched with ⟨e | ⟨⟩, fetched⟩
    · exact follows_pure _ _
    · exact follows_pure _ _

theorem ensureAvailable_follows (h : m.scanEnds s world.files = true) :
    Follows ((m.collaborators s).ensureAvailable v allow) ((m.parties s).ensureAvailable v allow) world := by
  refine .bind (follows_ofSearch h) ?_
  generalize ((m.parties s).compatible v).run world = found
  rcases found with ⟨e | b, found⟩
  · cases allow with
    | false => exact follows_pure _ _
    | true => exact (fetchToCache_follows m s v found).bind (follows_pure _ _)
  · exact follows_pure _ _

theorem ensureAvailable_eq_none (h : m.scanEnds s world.files ≠ true) :
    ((m.collaborators s).ensureAvailable v allow).run world = none :=
  run_bind_eq_none (run_ofSearch_eq_none h)

theorem versionToUse_follows (limit : Duration) (h : m.scanEnds s world.files = true) :
    Follows ((m.collaborators s).versionToUse limit) ((m.parties s).versionToUse limit) world := by
  have hfiles : (((m.parties s).probe limit).run world).2.files = world.files := rfl
  refine .bind (follows_ofAction _ world) ?_
  generalize ((m.parties s).probe limit).run world = probed at hfiles ⊢
  rcases probed with ⟨e | v, probed⟩
  · refine .bind (follows_ofSearch (by rw [hfiles]; exact h)) ?_
    generalize (m.parties s).mostRecent.run probed = found
    rcases found with ⟨e' | b, found⟩
    · cases e' with
      | noneFound =>
        refine .bind (follows_ofAction _ found) ?_
        generalize (m.parties s).stable.run found = released
        rcases released with ⟨e'' | v, released⟩
        · exact follows_pure _ _
        · exact follows_pure _ _
      | _ => exact follows_pure _ _
    · exact follows_pure _ _
  · exact follows_pure _ _

/-- Without a scan the first decision is the cluster's, and nothing is done to the files. -/
theorem versionToUse_of_not_scanEnds (limit : Duration) (h : m.scanEnds s world.files ≠ true) :
    ((m.collaborators s).versionToUse limit).run world = none ∨ ∃ v after,
      ((m.collaborators s).versionToUse limit).run world = some (.ok v, after) ∧ after.files = world.files := by
  have hfiles : (((m.parties s).probe limit).run world).2.files = world.files := rfl
  have hprobe : Follows ((m.collaborators s).probe limit) ((m.parties s).probe limit) world := rfl
  rw [Collaborators.versionToUse, hprobe.run_bind]
  generalize ((m.parties s).probe limit).run world = probed at hfiles ⊢
  rcases probed with ⟨e | v, probed⟩
  · exact Or.inl (run_bind_eq_none (run_ofSearch_eq_none (by rw [hfiles]; exact h)))
  · exact Or.inr ⟨v, probed, rfl, hfiles⟩

theorem files_versionToUse (m : Machine) (s : Settings) (limit : Duration) (world : World) :
    (((m.parties s).versionToUse limit).run world).2.files = world.files := by
  have hprobe : ∀ world, (((m.parties s).probe limit).run world).2.files = world.files := fun _ => rfl
  have hrecent : ∀ world, ((m.parties s).mostRecent.run world).2.files = world.files := fun _ => rfl
  have hstable : (m.parties s).stable = World.online (Mirror.stableVersion m.network (m.mirror s)) := rfl
  refine Collaborators.files_versionToUse hprobe hrecent (fun world => ?_) world
  rw [hstable, World.files_online]

end Machine

/-! ## Whose command line it is -/

namespace Command

variable {args : List HostText}

theorem reserved?_eq_none_iff : reserved? args = none ↔
    ∀ word, args[1]? = some word → word.text? ≠ some "bins" ∧ word.text? ≠ some "get-bin" := by
  match args with
  | [] => simp [reserved?]
  | [_] => simp [reserved?]
  | _ :: word :: _ => simp [reserved?, Reserved.word]

theorem ofArgs_eq_kubectl (h : reserved? args = none) : ofArgs args = .kubectl args.tail := by
  unfold ofArgs
  rw [h]

end Command

theorem ResolveError.chain_ne_nil (e : ResolveError) : e.chain ≠ [] := by
  cases e <;> exact List.cons_ne_nil _ _

/-! ## The stages of a run -/

namespace Machine

variable {m : Machine} {s : Settings} {v : Version} {path : Path} {args : List HostText} {world asked after : World}

/-- Where a run starts once it has made the directory of its own data. -/
def started (m : Machine) (world : World) : World := (m.makeDataDir.run world).2

theorem run_eq (m : Machine) (args : List HostText) (world : World) : (m.run args).run world =
    match Settings.load (m.started world).files m.surroundings.settingsDirs with
    | .error e => some (.failure ("failed to load configuration" :: e.chain), m.started world)
    | .ok s => (m.perform s (.ofArgs args)).run (m.started world) := by
  show StateT.run (match Settings.load (m.started world).files _ with | .error e => _ | .ok s => _) _ = _
  cases Settings.load (m.started world).files m.surroundings.settingsDirs with
  | error e => rfl
  | ok s => rfl

theorem chain_ne_nil_of_prepare {chain : List String} (h : m.prepare = .error chain) : chain ≠ [] := by
  rcases bind_eq_error_iff.1 h with h | ⟨⟨⟩, -, h⟩
  · cases hruntime : m.runtime with
    | error e =>
      rw [hruntime] at h
      cases h
      exact List.cons_ne_nil _ _
    | ok u =>
      rw [hruntime] at h
      cases h
  · cases hclient : m.mirrorClient with
    | error e =>
      rw [hclient] at h
      cases h
      exact List.cons_ne_nil _ _
    | ok u =>
      rw [hclient] at h
      cases h

theorem becomeKubectl_of_unprepared {chain : List String} (h : m.prepare = .error chain) :
    (m.becomeKubectl s args).run world = some (.failure chain, world) := by
  rw [becomeKubectl, h]
  rfl

/-- What becomes of a path that was decided on. -/
def handedOver (m : Machine) (args : List HostText) (path : Path) (after : World) : Outcome :=
  match Image.replace after.files path args m.surroundings.env with
  | .error e => .failure (("cannot run " ++ path.quoted) :: e.chain)
  | .ok image => .became image

theorem becomeKubectl_eq (h : m.prepare = .ok ()) : (m.becomeKubectl s args).run world =
    ((m.collaborators s).resolve s.probeTimeout s.allowDownload).run world >>= fun resolved =>
      match resolved.1 with
      | .error e => some (.failure e.chain, resolved.2)
      | .ok path => some (m.handedOver args path resolved.2, resolved.2) := by
  rw [becomeKubectl, h]
  show StateT.run ((m.collaborators s).resolve s.probeTimeout s.allowDownload >>= _) world = _
  rw [StateT.run_bind]
  generalize ((m.collaborators s).resolve s.probeTimeout s.allowDownload).run world = resolved
  rcases resolved with _ | ⟨e | path, after⟩
  · rfl
  · rfl
  · unfold handedOver
    show StateT.run (match Image.replace after.files path args _ with | .error e => _ | .ok image => _) after = some _
    cases Image.replace after.files path args m.surroundings.env with
    | error e => rfl
    | ok image => rfl

/-- A run gets as far as a path: its settings load, it has all that it needs, a version is decided on, and a binary that
fits it is available. -/
def Resolves (m : Machine) (world : World) (path : Path) (after : World) : Prop :=
  ∃ s v asked, Settings.load (m.started world).files m.surroundings.settingsDirs = .ok s ∧ m.prepare = .ok () ∧
    ((m.collaborators s).versionToUse s.probeTimeout).run (m.started world) = some (.ok v, asked) ∧
    ((m.collaborators s).ensureAvailable v s.allowDownload).run asked = some (.ok path, after)

/-- A run gets as far as a scan that waits for ever: its settings load, it has all that it needs, and some binary on the
search path never ends its answer. -/
def Waits (m : Machine) (world : World) : Prop :=
  ∃ s, Settings.load (m.started world).files m.surroundings.settingsDirs = .ok s ∧ m.prepare = .ok () ∧
    m.scanEnds s (m.started world).files ≠ true

theorem slash_mem_of_resolves (h : m.Resolves world path after) : Path.slash ∈ path.bytes := by
  obtain ⟨s, v, asked, -, -, -, hensured⟩ := h
  by_cases hends : m.scanEnds s asked.files = true
  · rw [ensureAvailable_follows hends, Option.some.injEq] at hensured
    exact slash_mem_of_ensureAvailable (congrArg Prod.fst hensured)
  · rw [ensureAvailable_eq_none hends] at hensured
    cases hensured

/-- The end of a run that tells why it could not go on. -/
def Tells (out : Outcome) : Prop :=
  ∃ chain, chain ≠ [] ∧ out = .exited 1 "" ("Error: " ++ ": ".intercalate chain ++ "\n")

theorem tells_failure {chain : List String} (h : chain ≠ []) : Tells (.failure chain) := ⟨chain, h, rfl⟩

section Kubectl

variable (hargs : Command.reserved? args = none)

include hargs

theorem run_of_load (hload : Settings.load (m.started world).files m.surroundings.settingsDirs = .ok s) :
    (m.run args).run world = (m.becomeKubectl s args.tail).run (m.started world) := by
  rw [run_eq, hload, Command.ofArgs_eq_kubectl hargs]
  rfl

theorem run_of_resolves (h : m.Resolves world path after) :
    (m.run args).run world = some (m.handedOver args.tail path after, after) := by
  obtain ⟨s, v, asked, hload, hprepare, hversion, hensured⟩ := h
  rw [run_of_load hargs hload, becomeKubectl_eq hprepare, Collaborators.resolve, StateT.run_bind, hversion]
  show ((m.collaborators s).ensureAvailable v s.allowDownload).run asked >>= _ = _
  rw [hensured]
  rfl

theorem run_of_waits (h : m.Waits world) : (m.run args).run world = none := by
  obtain ⟨s, hload, hprepare, hscan⟩ := h
  rw [run_of_load hargs hload, becomeKubectl_eq hprepare, Collaborators.resolve, StateT.run_bind]
  rcases versionToUse_of_not_scanEnds s.probeTimeout hscan with hnone | ⟨v, asked, hversion, hfiles⟩
  · rw [hnone]
    rfl
  · rw [hversion]
    show ((m.collaborators s).ensureAvailable v s.allowDownload).run asked >>= _ = _
    rw [ensureAvailable_eq_none (by rw [hfiles]; exact hscan)]
    rfl

/-- A stage before the handover leads to the next one or ends the run, unless a scan waits for ever. -/
theorem resolves_or_tells (hwaits : ¬ m.Waits world) : (∃ path after, m.Resolves world path after) ∨
    ∃ out after, (m.run args).run world = some (out, after) ∧ Tells out := by
  cases hload : Settings.load (m.started world).files m.surroundings.settingsDirs with
  | error e =>
    right
    rw [run_eq, hload]
    exact ⟨_, _, rfl, tells_failure (List.cons_ne_nil _ _)⟩
  | ok s =>
    rw [run_of_load hargs hload]
    cases hprepare : m.prepare with
    | error chain => exact Or.inr ⟨_, _, becomeKubectl_of_unprepared hprepare,
        tells_failure (chain_ne_nil_of_prepare hprepare)⟩
    | ok u =>
      have hscan : m.scanEnds s (m.started world).files = true := by
        by_contra hnot
        exact hwaits ⟨s, hload, hprepare, hnot⟩
      have hversion := versionToUse_follows s.probeTimeout hscan
      have hfiles := files_versionToUse m s s.probeTimeout (m.started world)
      unfold World.Course.Follows at hversion
      rw [becomeKubectl_eq hprepare, Collaborators.resolve, StateT.run_bind, hversion]
      generalize ((m.parties s).versionToUse s.probeTimeout).run (m.started world) = decided at hversion hfiles ⊢
      rcases decided with ⟨e | v, asked⟩
      · exact Or.inr ⟨_, _, rfl, tells_failure e.chain_ne_nil⟩
      · have hensured : World.Course.Follows ((m.collaborators s).ensureAvailable v s.allowDownload) _ asked :=
          ensureAvailable_follows (hfiles ▸ hscan)
        unfold World.Course.Follows at hensured
        show _ ∨ ∃ out after, ((m.collaborators s).ensureAvailable v s.allowDownload).run asked >>= _ = _ ∧ _
        rw [hensured]
        generalize ((m.parties s).ensureAvailable v s.allowDownload).run asked = ensured at hensured ⊢
        rcases ensured with ⟨e | path, after⟩
        · exact Or.inr ⟨_, _, rfl, tells_failure e.chain_ne_nil⟩
        · exact Or.inl ⟨path, after, s, v, asked, hload, hprepare, hversion, hensured⟩

end Kubectl

/-- **A run with kubectl's command line is transparent or fails cleanly, if it ends**, on every machine and in every
world.  It never ends exactly if it comes to a scan that waits for ever.  If it ends, either it has become one
program: the file at the path that its two decisions have led to, with the arguments behind the program's own name as
they are, and with its own environment, each variable once and in the order of their names.  That file the shell reads
if the system cannot tell how to start it.  Or the run has written nothing but one line on why not, to the standard
error, and exits with status 1.  It does become the program wherever the handover to the path is accepted. -/
theorem run_becomes_or_tells (m : Machine) (args : List HostText) (world : World)
    (hargs : ∀ word, args[1]? = some word → word.text? ≠ some "bins" ∧ word.text? ≠ some "get-bin") :
    let env := m.surroundings.env
    let course := (m.run args).run world
    (course = none ↔ m.Waits world) ∧
    (∀ out after, course = some (out, after) →
      (∃ path image, m.Resolves world path after ∧ out = .became image ∧
        after.files.locate path = .ok image.file ∧ image.args = args.drop 1 ∧
        (image.asScript = true ↔
          Image.startable after.files Image.interpreterLimit path = .error (.system .notExecutable)) ∧
        (∀ entry, entry ∈ image.env ↔
          ∃ before after, env = before ++ entry :: after ∧ ∀ other ∈ after, other.1 ≠ entry.1) ∧
        (image.env.Pairwise fun a b => a.1.bytes < b.1.bytes) ∧
        ((env.map Prod.fst).Nodup → image.env.Perm env)) ∨ Tells out) ∧
    ∀ path after image, m.Resolves world path after → Image.replace after.files path (args.drop 1) env = .ok image →
      course = some (.became image, after) := by
  intro env course
  have hargs := Command.reserved?_eq_none_iff.2 hargs
  rw [List.drop_one]
  refine ⟨⟨fun hnone => ?_, run_of_waits hargs⟩, fun out after hout => ?_, fun path after image hresolves himage => ?_⟩
  · by_contra hwaits
    rcases resolves_or_tells hargs hwaits with ⟨path, after, hresolves⟩ | ⟨out, after, hout, -⟩
    · rw [show course = _ from run_of_resolves hargs hresolves] at hnone
      cases hnone
    · rw [show course = _ from hout] at hnone
      cases hnone
  · have hends : ¬ m.Waits world := fun hwaits => by
      rw [show course = none from run_of_waits hargs hwaits] at hout
      cases hout
    rcases resolves_or_tells hargs hends with ⟨path, after', hresolves⟩ | ⟨out', after', hout', htells⟩
    · rw [show course = _ from run_of_resolves hargs hresolves] at hout
      cases hout
      unfold handedOver
      cases himage : Image.replace after.files path args.tail m.surroundings.env with
      | error e => exact Or.inr (tells_failure (List.cons_ne_nil _ _))
      | ok image =>
        have hstarts := Image.replace_eq_ok (slash_mem_of_resolves hresolves) himage
        refine Or.inl ⟨path, image, hresolves, rfl, hstarts.locate, hstarts.args, hstarts.asScript, fun entry => ?_, ?_,
          fun hnodup => ?_⟩
        · rw [hstarts.env, Image.mem_lastOfEach_iff]
        · rw [hstarts.env]
          exact Image.pairwise_lastOfEach env
        · rw [hstarts.env]
          exact Image.lastOfEach_perm_of_nodup hnodup
    · rw [show course = _ from hout'] at hout
      cases hout
      exact Or.inr htells
  · have hout : course = _ := run_of_resolves hargs hresolves
    rw [hout, handedOver, himage]

/-- So a run becomes the kubectl in its cache, though one of kubectl's own arguments is a reserved word. -/
theorem run_becomes_cached_kubectl :
    let m : Machine := ⟨⟨[("KUBEWRAP_HOME", "/k")], none⟩, .current, fun _ _ => ⟨[], [], .exited 0, ⟨0⟩, true⟩,
      fun _ _ => ⟨⟨0⟩, .unconnected ⟨101⟩⟩, none, .ok (), .ok (), .ok ()⟩
    let dir : Location := ["linux-amd64", "bin", "k"]
    let fs := (((FileSystem.empty.put ["k"] .directory).put ["bin", "k"] .directory).put dir .directory).put
      ("kubectl1.20.0" :: dir) (.file 0o755 Image.machineMark)
    ((m.run ["kubewrap", "get", "bins"]).run (.ofFiles fs)).map Prod.fst =
      some (.became ⟨"kubectl1.20.0" :: dir, false, ["get", "bins"], m.surroundings.env⟩) := by
  intro m dir fs
  have hargs : ∀ word, (["kubewrap", "get", "bins"] : List HostText)[1]? = some word →
      word.text? ≠ some "bins" ∧ word.text? ≠ some "get-bin" := by
    rintro word h
    cases h
    decide
  have hload : Settings.load (m.started (.ofFiles fs)).files m.surroundings.settingsDirs = .ok .default := by
    decide +kernel
  let asked := (((m.parties .default).versionToUse Settings.default.probeTimeout).run (m.started (.ofFiles fs))).2
  let after := (((m.parties .default).ensureAvailable (Version.ofNumbers 1 20 0) true).run asked).2
  have hscan : m.scanEnds .default (m.started (.ofFiles fs)).files = true := by decide +kernel
  have hversion : ((m.collaborators .default).versionToUse Settings.default.probeTimeout).run
      (m.started (.ofFiles fs)) = some (.ok (Version.ofNumbers 1 20 0), asked) :=
    (versionToUse_follows _ hscan).trans (congrArg some (Prod.ext (by decide +kernel) rfl))
  have hensured : ((m.collaborators .default).ensureAvailable (Version.ofNumbers 1 20 0) true).run asked =
      some (.ok "/k/bin/linux-amd64/kubectl1.20.0", after) :=
    (ensureAvailable_follows (by decide +kernel)).trans (congrArg some (Prod.ext (by decide +kernel) rfl))
  have hresolves : m.Resolves (.ofFiles fs) "/k/bin/linux-amd64/kubectl1.20.0" after :=
    ⟨.default, Version.ofNumbers 1 20 0, asked, hload, rfl, hversion, hensured⟩
  have himage : Image.replace after.files "/k/bin/linux-amd64/kubectl1.20.0" ["get", "bins"] m.surroundings.env =
      .ok ⟨"kubectl1.20.0" :: dir, false, ["get", "bins"], m.surroundings.env⟩ := by
    decide +kernel
  rw [(run_becomes_or_tells m _ (.ofFiles fs) hargs).2.2 _ _ _ hresolves himage]
  rfl

/-- A run can become the shell instead, for a kubectl that the system cannot start by itself.  And it never ends where a
kubectl on the search path has told its version and is gone, but something else holds its output open. -/
theorem run_becomes_shell_or_waits :
    let answer := Text.utf8 "\x7b\"clientVersion\": \x7b\"gitVersion\": \"v1.20.0\"\x7d\x7d"
    let m (env : Environment) (outputEnds : Bool) : Machine := ⟨⟨env, none⟩, .current,
      fun _ _ => ⟨answer, [], .exited 0, ⟨0⟩, outputEnds⟩, fun _ _ => ⟨⟨0⟩, .unconnected ⟨101⟩⟩, none, .ok (), .ok (),
        .ok ()⟩
    let outcome (m : Machine) fs := ((m.run ["kubewrap", "get"]).run (.ofFiles fs)).map Prod.fst
    let home : Environment := [("KUBEWRAP_HOME", "/k")]
    let dir : Location := ["linux-amd64", "bin", "k"]
    let cached := ((((FileSystem.empty.put ["k"] .directory).put ["bin", "k"] .directory).put dir .directory).put
      ("kubectl1.20.0" :: dir) (.file 0o755 (Text.utf8 "echo hi\n"))).put ["bin"] .directory
    let shell := cached.put ["sh", "bin"] (.file 0o755 Image.machineMark)
    let path : Environment := [("PATH", "/p")]
    let found := (FileSystem.empty.put ["p"] .directory).put ["kubectl", "p"] (.file 0o755 Image.machineMark)
    (Image.startFile shell "/k/bin/linux-amd64/kubectl1.20.0" ["get"] home = .error (.system .notExecutable) ∧
      outcome (m home true) shell = some (.became ⟨"kubectl1.20.0" :: dir, true, ["get"], home⟩)) ∧
    outcome (m path true) found = some (.became ⟨["kubectl", "p"], false, ["get"], path⟩) ∧
    outcome (m path false) found = none := by
  intro answer m outcome home dir cached shell path found
  exact ⟨⟨by decide +kernel, by decide +kernel⟩, by decide +kernel, by decide +kernel⟩

end Machine

end KubectlMatch
