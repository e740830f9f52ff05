import KubectlMatch.Cluster.Kubeconfig
import KubectlMatch.Proofs.Files.Joins
import KubectlMatch.Proofs.Success
import KubectlMatch.Proofs.Text.Base64
/-!
# The chain to a cluster

A configuration names the context in use, the first context of that name names a cluster, and the first cluster of
that name is the one that is meant (`Kubeconfig.Chain`).  The endpoint is made of this cluster and of what it says
about trust (`Endpoint.Describes`), and it fails only where a link of the chain is missing or the certificates cannot
be had (`Endpoint.Fails`).  Two configurations with the same chain give the same endpoint, whatever else is in them.
-/
namespace KubectlMatch

namespace Kubeconfig

variable {α : Type} {nameOf : α → String} {name : String} {entries : List α} {entry : α} {k k' : Kubeconfig}
  {context : NamedContext} {cluster : NamedCluster} {info : ClusterInfo} {e : EndpointError}

/-! ## First entries of a name -/

/-- The first entry of a name: what stands before it has other names. -/
def FirstOf (nameOf : α → String) (name : String) (entries : List α) (entry : α) : Prop :=
  nameOf entry = name ∧ ∃ before after, entries = before ++ entry :: after ∧ ∀ x ∈ before, nameOf x ≠ name

theorem find?_eq_some_iff : (entries.find? fun x => nameOf x = name) = some entry ↔
    FirstOf nameOf name entries entry := by
  simp [FirstOf, List.find?_eq_some_iff_append]

theorem find?_eq_none_iff : (entries.find? fun x => nameOf x = name) = none ↔ ∀ x ∈ entries, nameOf x ≠ name := by
  simp [List.find?_eq_none]

/-! ## The chain -/

/-- The first context of the name that the configuration says is in use. -/
structure InUse (k : Kubeconfig) (context : NamedContext) : Prop where
  current : k.currentContext = some context.name
  named : context.name ≠ ""
  first : FirstOf NamedContext.name context.name k.contexts context

/-- The cluster that is meant: the first of the name that the context in use gives. -/
structure Chain (k : Kubeconfig) (context : NamedContext) (cluster : NamedCluster) : Prop extends k.InUse context where
  cluster : FirstOf NamedCluster.name context.cluster k.clusters cluster

/-- A link of the chain is missing.  The error names what is not there. -/
inductive Breaks (k : Kubeconfig) : EndpointError → Prop
  | noCurrentContext (h : ∀ name, k.currentContext = some name → name = "") : Breaks k .noCurrentContext
  | noContext {name : String} (hcurrent : k.currentContext = some name) (hnamed : name ≠ "")
      (h : ∀ context ∈ k.contexts, context.name ≠ name) : Breaks k (.noContext name)
  | noCluster {context : NamedContext} (hcontext : k.InUse context)
      (h : ∀ cluster ∈ k.clusters, cluster.name ≠ context.cluster) : Breaks k (.noCluster context.cluster)

theorem filter_currentContext (hcurrent : k.currentContext = some name) (hnamed : name ≠ "") :
    (k.currentContext.filter fun name => !name.isEmpty) = some name := by
  rw [hcurrent, Option.filter_some_pos]
  simpa using hnamed

theorem Chain.currentCluster_eq (h : k.Chain context cluster) : k.currentCluster = .ok cluster.cluster := by
  simp only [currentCluster, filter_currentContext h.current h.named, find?_eq_some_iff.2 h.first,
    find?_eq_some_iff.2 h.cluster]

theorem Breaks.currentCluster_eq (h : k.Breaks e) : k.currentCluster = .error e := by
  cases h with
  | noCurrentContext h =>
    have hfilter : (k.currentContext.filter fun name => !name.isEmpty) = none := by
      rw [Option.filter_eq_none_iff]
      intro name hname
      rw [h name hname]
      decide
    simp only [currentCluster, hfilter]
  | noContext hcurrent hnamed h =>
    simp only [currentCluster, filter_currentContext hcurrent hnamed, find?_eq_none_iff.2 h]
  | noCluster hcontext h =>
    simp only [currentCluster, filter_currentContext hcontext.current hcontext.named,
      find?_eq_some_iff.2 hcontext.first, find?_eq_none_iff.2 h]

/-- Every configuration has a chain, or a link of it is missing. -/
theorem chain_or_breaks (k : Kubeconfig) : (∃ context cluster, k.Chain context cluster) ∨ ∃ e, k.Breaks e := by
  by_cases hcurrent : ∀ name, k.currentContext = some name → name = ""
  · exact Or.inr ⟨_, .noCurrentContext hcurrent⟩
  · obtain ⟨name, hname⟩ := not_forall.1 hcurrent
    obtain ⟨hcurrent, hnamed⟩ := Classical.not_imp.1 hname
    cases hcontext : k.contexts.find? fun c => c.name = name with
    | none => exact Or.inr ⟨_, .noContext hcurrent hnamed (find?_eq_none_iff.1 hcontext)⟩
    | some context =>
      have hfirst := find?_eq_some_iff.1 hcontext
      obtain rfl := hfirst.1
      have huse : k.InUse context := ⟨hcurrent, hnamed, hfirst⟩
      cases hcluster : k.clusters.find? fun c => c.name = context.cluster with
      | none => exact Or.inr ⟨_, .noCluster huse (find?_eq_none_iff.1 hcluster)⟩
      | some cluster => exact Or.inl ⟨context, cluster, huse, find?_eq_some_iff.1 hcluster⟩

theorem currentCluster_iff (k : Kubeconfig) :
    (∀ info, k.currentCluster = .ok info ↔ ∃ context cluster, k.Chain context cluster ∧ cluster.cluster = info) ∧
      ∀ e, k.currentCluster = .error e ↔ k.Breaks e := by
  refine eq_iff_of_rules ?_ (fun _ => Breaks.currentCluster_eq)
    (k.chain_or_breaks.imp_left fun ⟨context, cluster, h⟩ => ⟨_, context, cluster, h, rfl⟩)
  rintro _ ⟨context, cluster, hchain, rfl⟩
  exact hchain.currentCluster_eq

/-- Two configurations have one chain, or it breaks in both for want of the same. -/
inductive Agrees (k k' : Kubeconfig) : Prop
  | whole {context : NamedContext} {cluster : NamedCluster} (h : k.Chain context cluster)
      (h' : k'.Chain context cluster) : Agrees k k'
  | broken {e : EndpointError} (h : k.Breaks e) (h' : k'.Breaks e) : Agrees k k'

theorem Agrees.currentCluster_eq (h : k.Agrees k') : k.currentCluster = k'.currentCluster := by
  cases h with
  | whole h h' => rw [h.currentCluster_eq, h'.currentCluster_eq]
  | broken h h' => rw [h.currentCluster_eq, h'.currentCluster_eq]

end Kubeconfig

/-! ## The endpoint -/

namespace Endpoint

variable {fs fs' : FileSystem} {dir dir' : Path} {info : ClusterInfo} {authority : Option Bytes} {endpoint : Endpoint}
  {e : EndpointError} {k : Kubeconfig}

/-- The symbols that spell certificates, without the blanks around them. -/
def symbols (data : String) : Bytes := Text.utf8 (String.ofList (Text.trim data.toList))

/-- Whom a cluster's description trusts: the certificates that it spells out, those of its file if it spells out none,
or nobody in particular. -/
inductive Trusts (fs : FileSystem) (dir : Path) (info : ClusterInfo) : Option Bytes → Prop
  | inline {data : String} {bytes : Bytes} (hdata : info.authorityData = some data)
      (h : symbols data = Text.Base64.encode bytes) : Trusts fs dir info (some bytes)
  | file {name : String} {bytes : Bytes} (hdata : info.authorityData = none) (hfile : info.authorityFile = some name)
      (h : fs.readFile (dir.join name) = .ok bytes) : Trusts fs dir info (some bytes)
  | nobody (hdata : info.authorityData = none) (hfile : info.authorityFile = none) : Trusts fs dir info none

/-- The certificates of a cluster's description cannot be had. -/
inductive Distrusts (fs : FileSystem) (dir : Path) (info : ClusterInfo) : EndpointError → Prop
  | inline {data : String} {cause : Text.Base64.Error} (hdata : info.authorityData = some data)
      (h : Text.Base64.decode (symbols data) = .error cause) : Distrusts fs dir info (.badAuthority cause)
  | file {name : String} {cause : IoError} (hdata : info.authorityData = none) (hfile : info.authorityFile = some name)
      (h : fs.readFile (dir.join name) = .error cause) : Distrusts fs dir info (.unreadable (dir.join name) cause)

theorem Trusts.readAuthority_eq (h : Trusts fs dir info authority) : readAuthority fs dir info = .ok authority := by
  cases h with
  | inline hdata h =>
    rw [symbols] at h
    simp only [readAuthority, hdata, Text.Base64.decode_eq_ok_iff.2 h]
  | file hdata hfile h => simp only [readAuthority, hdata, hfile, h]
  | nobody hdata hfile => simp only [readAuthority, hdata, hfile]

theorem Distrusts.readAuthority_eq (h : Distrusts fs dir info e) : readAuthority fs dir info = .error e := by
  cases h with
  | inline hdata h =>
    rw [symbols] at h
    simp only [readAuthority, hdata, h]
  | file hdata hfile h => simp only [readAuthority, hdata, hfile, h]

theorem trusts_or_distrusts (fs : FileSystem) (dir : Path) (info : ClusterInfo) :
    (∃ authority, Trusts fs dir info authority) ∨ ∃ e, Distrusts fs dir info e := by
  cases hdata : info.authorityData with
  | some data =>
    cases h : Text.Base64.decode (symbols data) with
    | ok bytes => exact Or.inl ⟨_, .inline hdata (Text.Base64.decode_eq_ok_iff.1 h)⟩
    | error cause => exact Or.inr ⟨_, .inline hdata h⟩
  | none =>
    cases hfile : info.authorityFile with
    | none => exact Or.inl ⟨_, .nobody hdata hfile⟩
    | some name =>
      cases h : fs.readFile (dir.join name) with
      | ok bytes => exact Or.inl ⟨_, .file hdata hfile h⟩
      | error cause => exact Or.inr ⟨_, .file hdata hfile h⟩

theorem readAuthority_iff (fs : FileSystem) (dir : Path) (info : ClusterInfo) :
    (∀ authority, readAuthority fs dir info = .ok authority ↔ Trusts fs dir info authority) ∧
      ∀ e, readAuthority fs dir info = .error e ↔ Distrusts fs dir info e :=
  eq_iff_of_rules (fun _ => Trusts.readAuthority_eq) (fun _ => Distrusts.readAuthority_eq)
    (trusts_or_distrusts fs dir info)

/-- An endpoint is what a cluster's description says: its address without slashes at the end, and whom it trusts. -/
structure Describes (fs : FileSystem) (dir : Path) (info : ClusterInfo) (endpoint : Endpoint) : Prop where
  server : ∃ n, info.server.toList = endpoint.server.toList ++ List.replicate n '/'
  bare : endpoint.server.toList.getLast? ≠ some '/'
  authority : Trusts fs dir info endpoint.authority
  insecure : endpoint.insecure = info.insecure

/-- There is no endpoint: a link of the chain is missing, or the cluster's certificates cannot be had. -/
inductive Fails (fs : FileSystem) (dir : Path) (k : Kubeconfig) : EndpointError → Prop
  | chain {e : EndpointError} (h : k.Breaks e) : Fails fs dir k e
  | authority {context : NamedContext} {cluster : NamedCluster} {e : EndpointError} (hchain : k.Chain context cluster)
      (h : Distrusts fs dir cluster.cluster e) : Fails fs dir k e

theorem ofKubeconfig_eq_ok_iff : ofKubeconfig fs dir k = .ok endpoint ↔
    ∃ context cluster, k.Chain context cluster ∧ Describes fs dir cluster.cluster endpoint := by
  unfold ofKubeconfig
  simp only [bind_eq_ok_iff, Kubeconfig.currentCluster_iff, readAuthority_iff]
  constructor
  · rintro ⟨info, ⟨context, cluster, hchain, rfl⟩, authority, htrust, h⟩
    cases h
    obtain ⟨hserver, hbare⟩ := Text.dropTrailing_eq_iff.1 (String.toList_ofList (l := Text.dropTrailing '/' _)).symm
    exact ⟨context, cluster, hchain, hserver, hbare, htrust, rfl⟩
  · rintro ⟨context, cluster, hchain, h⟩
    refine ⟨cluster.cluster, ⟨context, cluster, hchain, rfl⟩, endpoint.authority, h.authority, ?_⟩
    rw [Text.dropTrailing_eq_iff.2 ⟨h.server, h.bare⟩, String.ofList_toList, ← h.insecure]
    rfl

theorem ofKubeconfig_eq_error_iff : ofKubeconfig fs dir k = .error e ↔ Fails fs dir k e := by
  unfold ofKubeconfig
  simp only [bind_eq_error_iff, Kubeconfig.currentCluster_iff, readAuthority_iff]
  constructor
  · rintro (h | ⟨info, ⟨context, cluster, hchain, rfl⟩, h | ⟨authority, -, h⟩⟩)
    · exact .chain h
    · exact .authority hchain h
    · cases h
  · rintro (h | ⟨hchain, h⟩)
    · exact Or.inl h
    · exact Or.inr ⟨_, ⟨_, _, hchain, rfl⟩, Or.inl h⟩

theorem ofText_eq {text : String} (h : Kubeconfig.ofText? text = .ok k) :
    ofText fs dir text = ofKubeconfig fs dir k := by
  unfold ofText
  rw [h]
  rfl

/-- What decides is the chain, not what else is in a configuration. -/
theorem ofKubeconfig_agrees {k' : Kubeconfig} (h : k.Agrees k') : ofKubeconfig fs dir k = ofKubeconfig fs dir k' := by
  unfold ofKubeconfig
  rw [h.currentCluster_eq]

theorem ofKubeconfig_of_inline {context : NamedContext} {cluster : NamedCluster} {data : String}
    (hchain : k.Chain context cluster) (hdata : cluster.cluster.authorityData = some data) :
    ofKubeconfig fs dir k = ofKubeconfig fs' dir' k := by
  have hauthority : readAuthority fs dir cluster.cluster = readAuthority fs' dir' cluster.cluster := by
    simp only [readAuthority, hdata]
  simp only [ofKubeconfig, hchain.currentCluster_eq, bind, Except.bind, hauthority]

/-- It fails if there is no chain, if what should spell certificates is no base64, or if their file cannot be read. -/
theorem exists_fails_iff : (∃ e, Fails fs dir k e) ↔ (¬ ∃ context cluster, k.Chain context cluster) ∨
    ∃ context cluster, k.Chain context cluster ∧
      ((∃ data, cluster.cluster.authorityData = some data ∧ ∀ bytes, symbols data ≠ Text.Base64.encode bytes) ∨
        cluster.cluster.authorityData = none ∧ ∃ name, cluster.cluster.authorityFile = some name ∧
          ∀ bytes, fs.readFile (dir.join name) ≠ .ok bytes) := by
  constructor
  · rintro ⟨e, h | ⟨hchain, h⟩⟩
    · refine Or.inl fun ⟨context, cluster, hchain⟩ => ?_
      have hcluster := hchain.currentCluster_eq
      rw [h.currentCluster_eq] at hcluster
      cases hcluster
    · refine Or.inr ⟨_, _, hchain, ?_⟩
      cases h with
      | inline hdata h => exact Or.inl ⟨_, hdata, Text.Base64.exists_decode_error_iff.1 ⟨_, h⟩⟩
      | file hdata hfile h =>
        refine Or.inr ⟨hdata, _, hfile, fun bytes hread => ?_⟩
        rw [h] at hread
        cases hread
  · rintro (hnone | ⟨context, cluster, hchain, ⟨data, hdata, hbad⟩ | ⟨hdata, name, hfile, hread⟩⟩)
    · obtain ⟨e, he⟩ := k.chain_or_breaks.resolve_left hnone
      exact ⟨e, .chain he⟩
    · obtain ⟨cause, h⟩ := Text.Base64.exists_decode_error_iff.2 hbad
      exact ⟨_, .authority hchain (.inline hdata h)⟩
    · cases h : fs.readFile (dir.join name) with
      | ok bytes => exact absurd h (hread bytes)
      | error cause => exact ⟨_, .authority hchain (.file hdata hfile h)⟩

/-- **An endpoint depends on one chain**, in every configuration text that can be read.  It is what the first cluster
says that has the name which the first context of the current name gives: the address without slashes at its end, and
the certificates that are spelled out, or else those of the file, whose path is taken from the directory if it is
relative. It fails if and only if a link of the chain is missing, what is spelled out is no base64, or the file cannot
be read; with certificates spelled out no file matters at all.  Two configurations whose chain is the same have the
same endpoint or the same error. -/
theorem follows_current_chain (fs : FileSystem) (dir : Path) {text : String} {k : Kubeconfig}
    (h : Kubeconfig.ofText? text = .ok k) :
    (∀ endpoint, ofText fs dir text = .ok endpoint ↔
      ∃ context cluster, k.Chain context cluster ∧ Describes fs dir cluster.cluster endpoint) ∧
    (∀ e, ofText fs dir text = .error e ↔ Fails fs dir k e) ∧
    ((∃ e, ofText fs dir text = .error e) ↔ (¬ ∃ context cluster, k.Chain context cluster) ∨
      ∃ context cluster, k.Chain context cluster ∧
        ((∃ data, cluster.cluster.authorityData = some data ∧ ∀ bytes, symbols data ≠ Text.Base64.encode bytes) ∨
          cluster.cluster.authorityData = none ∧ ∃ name, cluster.cluster.authorityFile = some name ∧
            ∀ bytes, fs.readFile (dir.join name) ≠ .ok bytes)) ∧
    (∀ context cluster data, k.Chain context cluster → cluster.cluster.authorityData = some data →
      ∀ fs' dir', ofText fs' dir' text = ofText fs dir text) ∧
    (∀ file : Path, (file.isAbsolute = true → dir.join file = file) ∧
      (file.isAbsolute = false → dir.bytes <+: (dir.join file).bytes ∧
        (dir.join file).names = dir.names ++ file.names)) ∧
    ∀ text' k', Kubeconfig.ofText? text' = .ok k' → k.Agrees k' → ofText fs dir text' = ofText fs dir text := by
  have hrelative (file : Path) (hfile : file.isAbsolute = false) : dir.bytes <+: (dir.join file).bytes := by
    unfold Path.join
    rw [hfile, if_neg Bool.false_ne_true]
    split
    · exact List.prefix_append _ _
    · exact List.prefix_append _ _
  refine ⟨fun endpoint => ?_, fun e => ?_, ?_, fun context cluster data hchain hdata fs' dir' => ?_,
    fun file => ⟨fun hfile => if_pos hfile, fun hfile => ⟨hrelative file hfile, Path.names_join_of_relative hfile dir⟩⟩,
    fun text' k' h' hagrees => ?_⟩
  · rw [ofText_eq h, ofKubeconfig_eq_ok_iff]
  · rw [ofText_eq h, ofKubeconfig_eq_error_iff]
  · rw [ofText_eq h, ← exists_fails_iff]
    simp only [ofKubeconfig_eq_error_iff]
  · rw [ofText_eq h, ofText_eq h]
    exact ofKubeconfig_of_inline hchain hdata
  · rw [ofText_eq h, ofText_eq h', ofKubeconfig_agrees hagrees]

/-- Of two contexts of a name the first one counts. -/
theorem follows_current_chain_past_second :
    Kubeconfig.ofText? ("contexts:\n- name: b\n  context:\n    cluster: c\n- name: b\n  context:\n    cluster: x\n" ++
      "clusters:\n- name: c\n  cluster:\n    server: h//\n    certificate-authority-data: YWI=\ncurrent-context: b\n") =
        .ok ⟨[⟨"c", ⟨"h//", none, some "YWI=", false⟩⟩], [⟨"b", "c"⟩, ⟨"b", "x"⟩], some "b"⟩ ∧
    ofText FileSystem.empty Path.dot
      ("contexts:\n- name: b\n  context:\n    cluster: c\n- name: b\n  context:\n    cluster: x\n" ++
      "clusters:\n- name: c\n  cluster:\n    server: h//\n    certificate-authority-data: YWI=\ncurrent-context: b\n") =
        .ok ⟨"h", some [97, 98], false⟩ := by
  have h : Kubeconfig.ofText?
    ("contexts:\n- name: b\n  context:\n    cluster: c\n- name: b\n  context:\n    cluster: x\n" ++
      "clusters:\n- name: c\n  cluster:\n    server: h//\n    certificate-authority-data: YWI=\ncurrent-context: b\n") =
        .ok ⟨[⟨"c", ⟨"h//", none, some "YWI=", false⟩⟩], [⟨"b", "c"⟩, ⟨"b", "x"⟩], some "b"⟩ := by
    decide +kernel
  refine ⟨h, ((follows_current_chain FileSystem.empty Path.dot h).1 _).2 ⟨⟨"b", "c"⟩, _,
    ⟨⟨rfl, by decide, rfl, [], _, rfl, nofun⟩, rfl, [], _, rfl, nofun⟩, ⟨2, by decide⟩, by decide, ?_, rfl⟩⟩
  exact .inline rfl (by decide +kernel)

end Endpoint

end KubectlMatch
