import KubectlMatch.Cluster.Probe
import KubectlMatch.Proofs.Cluster.Chain
import KubectlMatch.Proofs.Http.Requests
import KubectlMatch.World
/-!
# What the cluster's answer comes to

A probe has three parts.  The configuration must lead to an endpoint that a client can be made for
(`Endpoint.Configured`), the request must end in a response (`Http.Requests`), and the response must tell a version
(`ClusterVersion.Answers`). What each part comes to decides the result and nothing else does
(`ClusterVersion.Probes`); only the plain release of the version is ever a result.
-/
namespace KubectlMatch

/-! ## What a document tells -/

namespace Json.Value

variable {name text : String} {value field : Value}

/-- A document tells a text under a name: it is a record that has the name once, with that text, and texts for all
names; or it is the list of that one text. -/
inductive Tells (name : String) : Value → String → Prop
  | member {before after : List (Option String × Value)} {text : String}
      (hothers : ∀ m ∈ before ++ after, ∃ other, m.1 = some other ∧ other ≠ name) :
      Tells name (.object (before ++ (some name, .string (some text)) :: after)) text
  | item {text : String} : Tells name (.array [.string (some text)]) text

theorem string?_eq_ok_iff : value.string? = .ok text ↔ value = .string (some text) := by
  constructor
  · intro h
    unfold string? at h
    split at h <;> cases h
    rfl
  · rintro rfl
    rfl

theorem onlyField_object_eq_ok_iff {members : List (Option String × Value)} :
    (object members).onlyField name = .ok field ↔ ∃ before after, members = before ++ (some name, field) :: after ∧
      ∀ m ∈ before ++ after, ∃ other, m.1 = some other ∧ other ≠ name := by
  have hother (m : Option String × Value) :
      (∃ other, m.1 = some other ∧ other ≠ name) ↔ m.1.isNone ≠ true ∧ ¬ (m.1 == some name) = true := by
    obtain ⟨_ | other, item⟩ := m <;> simp
  rw [onlyField]
  constructor
  · intro h
    split at h
    · cases h
    rename_i hall
    have htext : ∀ m ∈ members, m.1.isNone ≠ true := fun m hm hnone => hall (List.any_eq_true.2 ⟨m, hm, hnone⟩)
    split at h
    · cases h
    · rename_i key item hone
      cases h
      obtain ⟨before, after, rfl, hbefore, hkey, hafter⟩ := List.filter_eq_cons_iff.1 hone
      obtain rfl : key = some name := beq_iff_eq.1 hkey
      refine ⟨before, after, rfl, fun m hm => (hother m).2 ?_⟩
      rcases List.mem_append.1 hm with hm | hm
      · exact ⟨htext m (List.mem_append_left _ hm), hbefore m hm⟩
      · exact ⟨htext m (List.mem_append_right _ (List.mem_cons_of_mem _ hm)), List.filter_eq_nil_iff.1 hafter m hm⟩
    · cases h
  · rintro ⟨before, after, rfl, hothers⟩
    have hrest := fun m hm => (hother m).1 (hothers m hm)
    have hbefore : before.filter (fun m => m.1 == some name) = [] :=
      List.filter_eq_nil_iff.2 fun m hm => (hrest m (List.mem_append_left _ hm)).2
    have hafter : after.filter (fun m => m.1 == some name) = [] :=
      List.filter_eq_nil_iff.2 fun m hm => (hrest m (List.mem_append_right _ hm)).2
    have htexts : ¬ ((before ++ (some name, field) :: after).any fun m => m.1.isNone) = true := by
      rw [List.any_eq_true]
      rintro ⟨m, hm, hnone⟩
      rcases List.mem_append.1 hm with hm | hm
      · exact (hrest m (List.mem_append_left _ hm)).1 hnone
      · rcases List.mem_cons.1 hm with rfl | hm
        · cases hnone
        · exact (hrest m (List.mem_append_right _ hm)).1 hnone
    rw [if_neg htexts, List.filter_append, hbefore, List.filter_cons, if_pos (beq_self_eq_true (some name)), hafter]
    rfl

theorem tells_iff : value.Tells name text ↔ ∃ field, value.onlyField name = .ok field ∧ field.string? = .ok text := by
  simp only [string?_eq_ok_iff, exists_eq_right]
  constructor
  · rintro (hothers | _)
    · exact onlyField_object_eq_ok_iff.2 ⟨_, _, rfl, hothers⟩
    · rfl
  · intro h
    match value, h with
    | .object members, h =>
      obtain ⟨before, after, rfl, hothers⟩ := onlyField_object_eq_ok_iff.1 h
      exact .member hothers
    | .array [item], h =>
      cases h
      exact .item

end Json.Value

/-! ## Where requests can go -/

namespace Endpoint

variable {client : Except Http.Error Unit} {fs : FileSystem} {kubeconfig? : Option Path} {endpoint : Endpoint}
  {e : EndpointError} {path : Path}

/-- The certificates are no obstacle to a client: the endpoint trusts any server, or none are named, or those that are
named can be trusted. -/
inductive Serves : Endpoint → Prop
  | insecure {endpoint : Endpoint} (h : endpoint.insecure = true) : Serves endpoint
  | nobody {endpoint : Endpoint} (h : endpoint.authority = none) : Serves endpoint
  | trusted {endpoint : Endpoint} {file : Bytes} (h : endpoint.authority = some file)
      (hfile : Http.Certificate.isTrustworthy file = true) : Serves endpoint

/-- The configuration at a path leads to an endpoint, and a client can be made for it. -/
inductive Configured (client : Except Http.Error Unit) (fs : FileSystem) : Option Path → Endpoint → Prop
  | at {path : Path} {text : String} {k : Kubeconfig} {context : NamedContext} {cluster : NamedCluster}
      {endpoint : Endpoint} (hread : fs.readText path = .ok text) (hk : Kubeconfig.ofText? text = .ok k)
      (hchain : k.Chain context cluster) (h : Describes fs (path.parent?.getD Path.dot) cluster.cluster endpoint)
      (hserves : endpoint.Serves) (hclient : client = .ok ()) : Configured client fs (some path) endpoint

/-- There is no configuration, or it leads to no endpoint, or no client can be made for that. -/
inductive Unconfigured (client : Except Http.Error Unit) (fs : FileSystem) : Option Path → EndpointError → Prop
  | noLocation : Unconfigured client fs none .noLocation
  | unreadable {path : Path} {cause : IoError} (h : fs.readText path = .error cause) :
      Unconfigured client fs (some path) (.unreadable path cause)
  | malformed {path : Path} {text : String} {cause : Yaml.Fault} (hread : fs.readText path = .ok text)
      (h : Kubeconfig.ofText? text = .error cause) : Unconfigured client fs (some path) (.malformed cause)
  | fails {path : Path} {text : String} {k : Kubeconfig} {e : EndpointError} (hread : fs.readText path = .ok text)
      (hk : Kubeconfig.ofText? text = .ok k) (h : Fails fs (path.parent?.getD Path.dot) k e) :
      Unconfigured client fs (some path) e
  | distrusted {path : Path} {text : String} {k : Kubeconfig} {context : NamedContext} {cluster : NamedCluster}
      {endpoint : Endpoint} (hread : fs.readText path = .ok text) (hk : Kubeconfig.ofText? text = .ok k)
      (hchain : k.Chain context cluster) (h : Describes fs (path.parent?.getD Path.dot) cluster.cluster endpoint)
      (hserves : ¬ endpoint.Serves) : Unconfigured client fs (some path) (.noClient ⟨.building, none, .badCertificate⟩)
  | noClient {path : Path} {text : String} {k : Kubeconfig} {context : NamedContext} {cluster : NamedCluster}
      {endpoint : Endpoint} {cause : Http.Error} (hread : fs.readText path = .ok text)
      (hk : Kubeconfig.ofText? text = .ok k) (hchain : k.Chain context cluster)
      (h : Describes fs (path.parent?.getD Path.dot) cluster.cluster endpoint) (hserves : endpoint.Serves)
      (hclient : client = .error cause) : Unconfigured client fs (some path) (.noClient cause)

theorem Serves.checkAuthority_eq (h : endpoint.Serves) : endpoint.checkAuthority = .ok () := by
  unfold checkAuthority
  cases h with
  | insecure h => rw [h]
  | nobody h =>
    rw [h]
    cases endpoint.insecure <;> rfl
  | trusted h hfile =>
    rw [h]
    cases endpoint.insecure with
    | false => exact if_pos hfile
    | true => rfl

theorem checkAuthority_of_not_serves (h : ¬ endpoint.Serves) :
    endpoint.checkAuthority = .error (.noClient ⟨.building, none, .badCertificate⟩) := by
  unfold checkAuthority
  cases hinsecure : endpoint.insecure with
  | true => exact absurd (.insecure hinsecure) h
  | false =>
    cases hauthority : endpoint.authority with
    | none => exact absurd (.nobody hauthority) h
    | some file => exact if_neg fun hfile => h (.trusted hauthority hfile)

theorem load_of_text {text : String} {k : Kubeconfig} (hread : fs.readText path = .ok text)
    (hk : Kubeconfig.ofText? text = .ok k) : load fs path = ofKubeconfig fs (path.parent?.getD Path.dot) k := by
  unfold load
  rw [hread]
  exact ofText_eq hk

theorem forRequests_some : forRequests client fs (some path) = load fs path >>= fun endpoint =>
    endpoint.checkAuthority >>= fun _ => client.mapError .noClient >>= fun _ => .ok endpoint := rfl

/-- Where the configuration describes an endpoint, its certificates and the client are what is left to be tried. -/
theorem forRequests_of_describes {text : String} {k : Kubeconfig} {context : NamedContext} {cluster : NamedCluster}
    (hread : fs.readText path = .ok text) (hk : Kubeconfig.ofText? text = .ok k) (hchain : k.Chain context cluster)
    (h : Describes fs (path.parent?.getD Path.dot) cluster.cluster endpoint) : forRequests client fs (some path) =
      endpoint.checkAuthority >>= fun _ => client.mapError .noClient >>= fun _ => .ok endpoint := by
  rw [forRequests_some, load_of_text hread hk, ofKubeconfig_eq_ok_iff.2 ⟨_, _, hchain, h⟩]
  rfl

theorem Configured.forRequests_eq (h : Configured client fs kubeconfig? endpoint) :
    forRequests client fs kubeconfig? = .ok endpoint := by
  obtain ⟨hread, hk, hchain, h, hserves, rfl⟩ := h
  rw [forRequests_of_describes hread hk hchain h, hserves.checkAuthority_eq]
  rfl

theorem Unconfigured.forRequests_eq (h : Unconfigured client fs kubeconfig? e) :
    forRequests client fs kubeconfig? = .error e := by
  cases h with
  | noLocation => rfl
  | unreadable h =>
    rw [forRequests_some, load, h]
    rfl
  | malformed hread h =>
    rw [forRequests_some, load, hread]
    show (ofText fs _ _ >>= _) = _
    rw [ofText, h]
    rfl
  | fails hread hk h =>
    rw [forRequests_some, load_of_text hread hk, ofKubeconfig_eq_error_iff.2 h]
    rfl
  | distrusted hread hk hchain h hserves =>
    rw [forRequests_of_describes hread hk hchain h, checkAuthority_of_not_serves hserves]
    rfl
  | noClient hread hk hchain h hserves hclient =>
    rw [forRequests_of_describes hread hk hchain h, hserves.checkAuthority_eq, hclient]
    rfl

theorem configured_or_unconfigured (client : Except Http.Error Unit) (fs : FileSystem) (kubeconfig? : Option Path) :
    (∃ endpoint, Configured client fs kubeconfig? endpoint) ∨ ∃ e, Unconfigured client fs kubeconfig? e := by
  cases kubeconfig? with
  | none => exact Or.inr ⟨_, .noLocation⟩
  | some path =>
    cases hread : fs.readText path with
    | error cause => exact Or.inr ⟨_, .unreadable hread⟩
    | ok text =>
      cases hk : Kubeconfig.ofText? text with
      | error cause => exact Or.inr ⟨_, .malformed hread hk⟩
      | ok k =>
        cases hload : ofKubeconfig fs (path.parent?.getD Path.dot) k with
        | error e => exact Or.inr ⟨e, .fails hread hk (ofKubeconfig_eq_error_iff.1 hload)⟩
        | ok endpoint =>
          obtain ⟨context, cluster, hchain, h⟩ := ofKubeconfig_eq_ok_iff.1 hload
          by_cases hserves : endpoint.Serves
          · cases hclient : client with
            | ok u => exact Or.inl ⟨endpoint, .at hread hk hchain h hserves rfl⟩
            | error cause => exact Or.inr ⟨_, .noClient hread hk hchain h hserves rfl⟩
          · exact Or.inr ⟨_, .distrusted hread hk hchain h hserves⟩

end Endpoint

/-! ## What an answer comes to -/

namespace ClusterVersion

variable {client : Except Http.Error Unit} {net : Http.Network} {fs : FileSystem} {kubeconfig? : Option Path}
  {limit : Duration} {body : Bytes} {text : String} {made made' : List Http.Attempt} {received : Http.Received}
  {result : Except ProbeError Version}

theorem gitVersion?_eq_ok_iff : gitVersion? body = .ok text ↔
    ∃ value, Json.Value.ofBytes? body = .ok value ∧ value.Tells "gitVersion" text := by
  unfold gitVersion?
  simp only [bind_eq_ok_iff, Json.Value.tells_iff]

/-- A response of success, all of whose body is there in time. -/
structure IsWhole (limit : Duration) (received : Http.Received) : Prop where
  success : received.isSuccess = true
  in_time : ¬ limit < received.elapsed + received.response.body.duration
  complete : received.response.body.loss? = none

/-- What a response comes to. -/
inductive Answers (limit : Duration) (received : Http.Received) : Except ProbeError Version → Prop
  | unsuccessful (h : received.isSuccess = false) :
      Answers limit received (.error (.badResponse ("Unexpected status: " ++ received.response.status.text)))
  | late (hsuccess : received.isSuccess = true)
      (h : limit < received.elapsed + received.response.body.duration ∨
        received.response.body.loss? = some (.broken .timedOut)) : Answers limit received (.error (.timedOut limit))
  | cutShort {loss : Http.Loss} (hsuccess : received.isSuccess = true)
      (hin : ¬ limit < received.elapsed + received.response.body.duration)
      (h : received.response.body.loss? = some loss) (hloss : loss ≠ .broken .timedOut) : Answers limit received
        (.error (.badResponse ("error decoding response body for url (" ++ received.address.text ++ ")")))
  | untold (hwhole : IsWhole limit received)
      (h : ∀ value text, Json.Value.ofBytes? received.chunks.flatten = .ok value → ¬ value.Tells "gitVersion" text) :
      Answers limit received
        (.error (.badResponse ("error decoding response body for url (" ++ received.address.text ++ ")")))
  | noVersion {value : Json.Value} {text : String} {e : VersionError} (hwhole : IsWhole limit received)
      (hvalue : Json.Value.ofBytes? received.chunks.flatten = .ok value) (htells : value.Tells "gitVersion" text)
      (h : Version.parse text = .error e) : Answers limit received (.error (.badResponse e.message))
  | told {value : Json.Value} {text : String} {version : Version} (hwhole : IsWhole limit received)
      (hvalue : Json.Value.ofBytes? received.chunks.flatten = .ok value) (htells : value.Tells "gitVersion" text)
      (h : Version.parse text = .ok version) : Answers limit received (.ok version.release)

theorem bytes_of_late (h : limit < received.elapsed + received.response.body.duration) :
    received.bytes limit = .error (.of .decoding received.address .timedOut) := by
  unfold Http.Received.bytes Http.Received.ending
  rw [if_pos h]
  rfl

theorem bytes_of_cutShort {loss : Http.Loss} (hin : ¬ limit < received.elapsed + received.response.body.duration)
    (h : received.response.body.loss? = some loss) :
    received.bytes limit = .error (.of .decoding received.address (.cutShort loss)) := by
  unfold Http.Received.bytes Http.Received.ending
  rw [if_neg hin, h]
  rfl

theorem IsWhole.bytes_eq (h : IsWhole limit received) : received.bytes limit = .ok received.chunks.flatten := by
  unfold Http.Received.bytes Http.Received.ending
  rw [if_neg h.in_time, h.complete]
  rfl

/-- How a whole body is taken. -/
def ofBody (address : Http.Address) (body : Bytes) : Except ProbeError Version :=
  match gitVersion? body with
  | .error _ => .error (.badResponse ("error decoding response body for url (" ++ address.text ++ ")"))
  | .ok text =>
    match Version.parse text with
    | .ok version => .ok version.release
    | .error e => .error (.badResponse e.message)

theorem ofResponse_of_success (h : received.isSuccess = true) : ofResponse limit received =
    match received.bytes limit with
    | .error e => .error (if e.isTimeout then .timedOut limit else .badResponse e.message)
    | .ok body => ofBody received.address body := by
  unfold ofResponse ofBody
  rw [h]
  cases received.bytes limit with
  | error e => rfl
  | ok body =>
    dsimp only
    cases gitVersion? body with
    | error fault => rfl
    | ok text =>
      dsimp only
      cases Version.parse text with
      | error e => rfl
      | ok version => rfl

theorem ofResponse_of_whole (h : IsWhole limit received) :
    ofResponse limit received = ofBody received.address received.chunks.flatten := by
  rw [ofResponse_of_success h.success, h.bytes_eq]

theorem Answers.ofResponse_eq (h : Answers limit received result) : ofResponse limit received = result := by
  cases h with
  | unsuccessful h =>
    unfold ofResponse
    rw [h]
    rfl
  | late hsuccess h =>
    by_cases hlate : limit < received.elapsed + received.response.body.duration
    · rw [ofResponse_of_success hsuccess, bytes_of_late hlate]
      rfl
    · rw [ofResponse_of_success hsuccess, bytes_of_cutShort hlate (h.resolve_left hlate)]
      rfl
  | @cutShort loss hsuccess hin h hloss =>
    have hbroken : (Http.Error.of .decoding received.address (.cutShort loss)).isTimeout = false := by
      cases loss with
      | closed => rfl
      | broken errno => exact beq_false_of_ne fun herrno => hloss (congrArg _ herrno)
    rw [ofResponse_of_success hsuccess, bytes_of_cutShort hin h]
    dsimp only
    rw [hbroken]
    rfl
  | untold hwhole h =>
    rw [ofResponse_of_whole hwhole, ofBody]
    cases hversion : gitVersion? received.chunks.flatten with
    | error fault => rfl
    | ok text =>
      obtain ⟨value, hvalue, htells⟩ := gitVersion?_eq_ok_iff.1 hversion
      exact absurd htells (h value text hvalue)
  | noVersion hwhole hvalue htells h =>
    have hversion := gitVersion?_eq_ok_iff.2 ⟨_, hvalue, htells⟩
    simp only [ofResponse_of_whole hwhole, ofBody, hversion, h]
  | told hwhole hvalue htells h =>
    have hversion := gitVersion?_eq_ok_iff.2 ⟨_, hvalue, htells⟩
    simp only [ofResponse_of_whole hwhole, ofBody, hversion, h]

theorem exists_answers (limit : Duration) (received : Http.Received) : ∃ result, Answers limit received result := by
  cases hsuccess : received.isSuccess with
  | false => exact ⟨_, .unsuccessful hsuccess⟩
  | true =>
    by_cases hlate : limit < received.elapsed + received.response.body.duration
    · exact ⟨_, .late hsuccess (Or.inl hlate)⟩
    · cases hcomplete : received.response.body.loss? with
      | some loss =>
        by_cases hloss : loss = .broken .timedOut
        · rw [hloss] at hcomplete
          exact ⟨_, .late hsuccess (Or.inr hcomplete)⟩
        · exact ⟨_, .cutShort hsuccess hlate hcomplete hloss⟩
      | none =>
        have hwhole : IsWhole limit received := ⟨hsuccess, hlate, hcomplete⟩
        by_cases htold : ∃ value text, Json.Value.ofBytes? received.chunks.flatten = .ok value ∧
          value.Tells "gitVersion" text
        · obtain ⟨value, text, hvalue, htells⟩ := htold
          cases hparse : Version.parse text with
          | error e => exact ⟨_, .noVersion hwhole hvalue htells hparse⟩
          | ok version => exact ⟨_, .told hwhole hvalue htells hparse⟩
        · exact ⟨_, .untold hwhole fun value text hvalue htells => htold ⟨value, text, hvalue, htells⟩⟩

/-! ## What a probe comes to -/

/-- What a probe comes to, and the attempts that it leaves. -/
inductive Probes (client : Except Http.Error Unit) (net : Http.Network) (fs : FileSystem) (kubeconfig? : Option Path)
    (limit : Duration) (made : List Http.Attempt) : List Http.Attempt → Except ProbeError Version → Prop
  | unconfigured {e : EndpointError} (h : Endpoint.Unconfigured client fs kubeconfig? e) :
      Probes client net fs kubeconfig? limit made made (.error (.badConfig e))
  | late {endpoint : Endpoint} {made' : List Http.Attempt} {e : Http.Error}
      (hconfigured : Endpoint.Configured client fs kubeconfig? endpoint)
      (h : Http.Requests net limit endpoint.versionUrl made made' (.error e)) (he : e.cause.RunsOut) :
      Probes client net fs kubeconfig? limit made made' (.error (.timedOut limit))
  | unconnected {endpoint : Endpoint} {made' : List Http.Attempt} {e : Http.Error}
      (hconfigured : Endpoint.Configured client fs kubeconfig? endpoint)
      (h : Http.Requests net limit endpoint.versionUrl made made' (.error e)) (he : e.cause.Refuses) :
      Probes client net fs kubeconfig? limit made made' (.error (.unreachable e.message))
  | defeated {endpoint : Endpoint} {made' : List Http.Attempt} {e : Http.Error}
      (hconfigured : Endpoint.Configured client fs kubeconfig? endpoint)
      (h : Http.Requests net limit endpoint.versionUrl made made' (.error e)) (he : e.cause.Defeats) :
      Probes client net fs kubeconfig? limit made made' (.error (.network e))
  | answered {endpoint : Endpoint} {made' : List Http.Attempt} {received : Http.Received}
      {result : Except ProbeError Version} (hconfigured : Endpoint.Configured client fs kubeconfig? endpoint)
      (h : Http.Requests net limit endpoint.versionUrl made made' (.ok received))
      (hanswers : Answers limit received result) : Probes client net fs kubeconfig? limit made made' result

theorem ofNoResponse_late {e : Http.Error} (he : e.cause.RunsOut) : ofNoResponse limit e = .timedOut limit := by
  obtain ⟨stage, address, cause⟩ := e
  cases he <;> rfl

theorem ofNoResponse_unconnected {e : Http.Error} (he : e.cause.Refuses) :
    ofNoResponse limit e = .unreachable e.message := by
  obtain ⟨stage, address, cause⟩ := e
  cases he with
  | unconnected h =>
    have htimeout : (Http.Error.mk stage address (.unconnected _)).isTimeout = false := beq_false_of_ne h
    rw [ofNoResponse, htimeout]
    rfl

theorem ofNoResponse_defeated {e : Http.Error} (he : e.cause.Defeats) : ofNoResponse limit e = .network e := by
  obtain ⟨stage, address, cause⟩ := e
  cases he with
  | @lost loss h =>
    have htimeout : (Http.Error.mk stage address (.lost loss)).isTimeout = false := by
      cases loss with
      | closed => rfl
      | broken errno => exact beq_false_of_ne fun herrno => h (congrArg _ herrno)
    rw [ofNoResponse, htimeout]
    rfl
  | tooManyRedirects => rfl
  | badScheme => rfl
  | badAddress => rfl

/-- How what becomes of the request is taken. -/
def ofReply (limit : Duration) : Except Http.Error Http.Received → Except ProbeError Version
  | .error e => .error (ofNoResponse limit e)
  | .ok received => ofResponse limit received

theorem run_probe {endpoint : Endpoint} {reply : Except Http.Error Http.Received}
    (hconfigured : Endpoint.Configured client fs kubeconfig? endpoint)
    (h : Http.Requests net limit endpoint.versionUrl made made' reply) :
    (probe client net fs kubeconfig? limit).run made = (ofReply limit reply, made') := by
  unfold probe
  rw [hconfigured.forRequests_eq]
  dsimp only
  unfold ask
  have hrun := Http.request_eq_iff.2 h
  -- what the request is no longer matters, only that it ends as `h` says
  generalize Http.request net limit endpoint.versionUrl = request at hrun ⊢
  rw [World.run_bind, hrun]
  cases reply with
  | error e => rfl
  | ok received => rfl

theorem Probes.run_eq (h : Probes client net fs kubeconfig? limit made made' result) :
    (probe client net fs kubeconfig? limit).run made = (result, made') := by
  cases h with
  | unconfigured h =>
    unfold probe
    rw [h.forRequests_eq]
    rfl
  | late hconfigured h he => rw [run_probe hconfigured h, ofReply, ofNoResponse_late he]
  | unconnected hconfigured h he => rw [run_probe hconfigured h, ofReply, ofNoResponse_unconnected he]
  | defeated hconfigured h he => rw [run_probe hconfigured h, ofReply, ofNoResponse_defeated he]
  | answered hconfigured h hanswers => rw [run_probe hconfigured h, ofReply, hanswers.ofResponse_eq]

theorem exists_probes (client : Except Http.Error Unit) (net : Http.Network) (fs : FileSystem)
    (kubeconfig? : Option Path) (limit : Duration) (made : List Http.Attempt) :
    ∃ made' result, Probes client net fs kubeconfig? limit made made' result := by
  rcases Endpoint.configured_or_unconfigured client fs kubeconfig? with ⟨endpoint, hconfigured⟩ | ⟨e, he⟩
  · obtain ⟨made', reply, h⟩ := Http.exists_requests net limit endpoint.versionUrl made
    cases reply with
    | error e =>
      rcases h.cause_cases with he | he | he
      · exact ⟨_, _, .late hconfigured h he⟩
      · exact ⟨_, _, .unconnected hconfigured h he⟩
      · exact ⟨_, _, .defeated hconfigured h he⟩
    | ok received =>
      obtain ⟨result, hanswers⟩ := exists_answers limit received
      exact ⟨_, result, .answered hconfigured h hanswers⟩
  · exact ⟨_, _, .unconfigured he⟩

theorem probe_eq_iff : (probe client net fs kubeconfig? limit).run made = (result, made') ↔
    Probes client net fs kubeconfig? limit made made' result := by
  refine ⟨fun h => ?_, Probes.run_eq⟩
  obtain ⟨after, outcome, hprobes⟩ := exists_probes client net fs kubeconfig? limit made
  have heq : (result, made') = (outcome, after) := h.symm.trans hprobes.run_eq
  cases heq
  exact hprobes

theorem Probes.unique {outcome : Except ProbeError Version} {after : List Http.Attempt}
    (h : Probes client net fs kubeconfig? limit made made' result)
    (h' : Probes client net fs kubeconfig? limit made after outcome) :
    result = outcome ∧ made' = after :=
  Prod.mk.inj (h.run_eq.symm.trans h'.run_eq)

/-- A version comes of a response only, and is the plain release of what the response tells. -/
theorem probes_ok_iff {v : Version} : Probes client net fs kubeconfig? limit made made' (.ok v) ↔
    ∃ endpoint received value text version, Endpoint.Configured client fs kubeconfig? endpoint ∧
      Http.Requests net limit endpoint.versionUrl made made' (.ok received) ∧ IsWhole limit received ∧
      Json.Value.ofBytes? received.chunks.flatten = .ok value ∧ value.Tells "gitVersion" text ∧
      Version.parse text = .ok version ∧ v = version.release := by
  constructor
  · intro h
    cases h with
    | answered hconfigured hrequest hanswers =>
      cases hanswers with
      | told hwhole hvalue htells hparse =>
        exact ⟨_, _, _, _, _, hconfigured, hrequest, hwhole, hvalue, htells, hparse, rfl⟩
  · rintro ⟨endpoint, received, value, text, version, hconfigured, hrequest, hwhole, hvalue, htells, hparse, rfl⟩
    exact .answered hconfigured hrequest (.told hwhole hvalue htells hparse)

theorem badConfig_iff {e : EndpointError} (h : Probes client net fs kubeconfig? limit made made' result) :
    result = .error (.badConfig e) ↔ Endpoint.Unconfigured client fs kubeconfig? e := by
  constructor
  · rintro rfl
    cases h with
    | unconfigured he => exact he
    | answered _ _ hanswers => cases hanswers
  · intro he
    exact (h.unique (.unconfigured he)).1

/-- No request is made without an endpoint that it could go to. -/
theorem configured_of_made (h : Probes client net fs kubeconfig? limit made made' result) (hmade : made' ≠ made) :
    ∃ endpoint, Endpoint.Configured client fs kubeconfig? endpoint := by
  cases h with
  | unconfigured => exact absurd rfl hmade
  | late hconfigured => exact ⟨_, hconfigured⟩
  | unconnected hconfigured => exact ⟨_, hconfigured⟩
  | defeated hconfigured => exact ⟨_, hconfigured⟩
  | answered hconfigured => exact ⟨_, hconfigured⟩

theorem isTimeout_iff (e : ProbeError) :
    e.isTimeout = true ↔ (∃ limit, e = .timedOut limit) ∨ ∃ reason, e = .unreachable reason := by
  cases e <;> simp [ProbeError.isTimeout]

/-- **A probe gives a plain release, or says what kept it from one**, for every configuration and every network.  No
request is made before the configuration leads to an endpoint that a client can be made for.  A version comes of a
response of success alone, the whole body of which tells one; it has neither prerelease nor build, and versions of one
core give one result.  Of the errors exactly two say that there was no word from the cluster: the time ran out, before a
response or while the body of a success was read, or no connection came about. -/
theorem probe_yields_plain_release (client : Except Http.Error Unit) (net : Http.Network) (fs : FileSystem)
    (kubeconfig? : Option Path) (limit : Duration) (made : List Http.Attempt) :
    (∀ result made', (probe client net fs kubeconfig? limit).run made = (result, made') ↔
      Probes client net fs kubeconfig? limit made made' result) ∧
    (∀ result made', Probes client net fs kubeconfig? limit made made' result →
      (∀ e, result = .error (.badConfig e) ↔ Endpoint.Unconfigured client fs kubeconfig? e) ∧
      (made' ≠ made → ∃ endpoint, Endpoint.Configured client fs kubeconfig? endpoint)) ∧
    (∀ v made', Probes client net fs kubeconfig? limit made made' (.ok v) ↔
      ∃ endpoint received value text version, Endpoint.Configured client fs kubeconfig? endpoint ∧
        Http.Requests net limit endpoint.versionUrl made made' (.ok received) ∧ IsWhole limit received ∧
        Json.Value.ofBytes? received.chunks.flatten = .ok value ∧ value.Tells "gitVersion" text ∧
        Version.parse text = .ok version ∧ v = version.release) ∧
    (∀ version : Version, version.release.prerelease = [] ∧ version.release.build = [] ∧
      ∀ other : Version, version.major = other.major → version.minor = other.minor → version.patch = other.patch →
        version.release = other.release) ∧
    ∀ e : ProbeError, e.isTimeout = true ↔ (∃ limit, e = .timedOut limit) ∨ ∃ reason, e = .unreachable reason := by
  refine ⟨fun result made' => probe_eq_iff, fun result made' h => ⟨fun e => badConfig_iff h, configured_of_made h⟩,
    fun v made' => probes_ok_iff, fun version => ⟨rfl, rfl, fun other hmajor hminor hpatch => ?_⟩, isTimeout_iff⟩
  unfold Version.release
  rw [hmajor, hminor, hpatch]

/-- A connection that is not refused but finds no way is no failure of the network.  What the system gives up for want of
time is a timeout, before a response as well as in the middle of a body, though no time of the client's ran out.  A list
of one text tells a version without a name for it, and a name that is there twice tells none. -/
theorem probe_beyond_refusals :
    let fs := FileSystem.empty.put ["config"] (.file 0o644 (Text.utf8 ("clusters:\n- name: c\n  cluster:\n" ++
      "    server: https://255.255.255.255\ncontexts:\n- name: x\n  context:\n    cluster: c\ncurrent-context: x\n")))
    let answering (body : String) : Http.Network :=
      fun _ _ => ⟨⟨0⟩, .response ⟨⟨200⟩, none, ⟨[Text.utf8 body], none, ⟨0⟩⟩⟩⟩
    let probed (net : Http.Network) := ((probe (.ok ()) net fs (some "/config") (.ofSeconds 2)).run []).1
    probed (fun _ _ => ⟨⟨0⟩, .unconnected ⟨101⟩⟩) =
      .error (.unreachable "error sending request for url (https://255.255.255.255/version)") ∧
    probed (fun _ _ => ⟨⟨0⟩, .unconnected .timedOut⟩) = .error (.timedOut (.ofSeconds 2)) ∧
    probed (fun _ _ => ⟨⟨0⟩, .response ⟨⟨200⟩, none, ⟨[], some (.broken .timedOut), ⟨0⟩⟩⟩⟩) =
      .error (.timedOut (.ofSeconds 2)) ∧
    probed (answering "[\"v1.2.3\"]") = .ok (Version.ofNumbers 1 2 3) ∧
    probed (answering "\x7b\"gitVersion\": \"v1.2.3\", \"gitVersion\": \"v1.2.3\"\x7d") =
      .error (.badResponse "error decoding response body for url (https://255.255.255.255/version)") := by
  intro fs answering probed
  have hconfig : Endpoint.forRequests (.ok ()) fs (some "/config") = .ok ⟨"https://255.255.255.255", none, false⟩ := by
    decide +kernel
  have hprobed (net : Http.Network) : probed net =
      ((ask net (.ofSeconds 2) ⟨"https://255.255.255.255", none, false⟩).run []).1 := by
    show ((probe (.ok ()) net fs (some "/config") (.ofSeconds 2)).run []).1 = _
    unfold probe
    rw [hconfig]
  simp only [hprobed]
  refine ⟨by decide +kernel, by decide +kernel, by decide +kernel, by decide +kernel, by decide +kernel⟩

end ClusterVersion

end KubectlMatch
