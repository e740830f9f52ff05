import KubectlMatch.Proofs.Http.Segments
import KubectlMatch.Proofs.Mirror.Fetching
import KubectlMatch.Proofs.Version.Spelling
/-!
# One address, one resource

The address of an artifact spells its version and its platform between slashes, of which a version has none, so both
can be read off it.  The last character of an address tells whether it is an artifact's, a checksum's or the stable
pointer.  Hence no two resources of a mirror share an address, and a fetch, which requests the two addresses of its own
version and nothing else, is told nothing by what the mirror keeps under the others.

An address is a text, and what is requested is what a client reads in it.  Under a base of the usual form no two
resources are requested as one either (`requests_are_apart`).
-/
namespace KubectlMatch

/-- Neither name of a platform has a slash in it. -/
def Platform.HasNoSlash (p : Platform) : Prop := '/' ∉ p.os.toList ∧ '/' ∉ p.arch.toList

/-- The names of a platform stand in an address as they are. -/
structure Platform.IsPlain (p : Platform) : Prop where
  os : Http.Address.IsPlainSegment p.os.toList
  arch : Http.Address.IsPlainSegment p.arch.toList

namespace Version

theorem not_mem_slash_chars (v : Version) : '/' ∉ v.chars := fun h => (bounds_of_mem_chars h).2.2 rfl

end Version

namespace Mirror

variable {base base' : String} {p q : Platform} {v w : Version} {m n : Mirror} {net net' : Http.Network}

/-! ## What an address spells -/

/-- What stands before the first slash, and what stands behind it. -/
theorem append_slash_inj {s t s' t' : List Char} (hs : '/' ∉ s) (ht : '/' ∉ t) :
    s ++ '/' :: s' = t ++ '/' :: t' ↔ s = t ∧ s' = t' := by
  have hspan : ∀ s s' : List Char, '/' ∉ s → (s ++ '/' :: s').takeWhile (· != '/') = s := fun s s' hs =>
    takeWhile_append_eq (fun c hc => bne_iff_ne.2 fun h => hs (h ▸ hc)) fun c hc => by cases hc; rfl
  constructor
  · intro h
    obtain rfl : s = t := by rw [← hspan s s' hs, h, hspan t t' ht]
    exact ⟨rfl, (List.cons.inj (List.append_cancel_left h)).2⟩
  · rintro ⟨rfl, rfl⟩
    rfl

/-- An artifact's address behind the mirror's own. -/
def artifactPath (p : Platform) (v : Version) : List Char :=
  "/release/v".toList ++ (v.chars ++ '/' :: ("bin".toList ++ '/' :: (p.os.toList ++ '/' :: (p.arch.toList ++ '/' ::
    ("kubectl".toList ++ p.exeSuffix.toList)))))

theorem toList_artifactUrl (m : Mirror) (v : Version) :
    (m.artifactUrl v).toList = m.base.toList ++ artifactPath m.platform v := by
  unfold artifactUrl artifactPath Version.text
  simp only [String.toList_append, String.toList_ofList, List.append_assoc]
  simp

/-- **The version and the platform can be read off an artifact's address.** -/
theorem artifactPath_inj (hp : p.HasNoSlash) (hq : q.HasNoSlash) :
    artifactPath p v = artifactPath q w ↔ v = w ∧ p = q := by
  constructor
  · intro h
    obtain ⟨hversion, h⟩ := (append_slash_inj v.not_mem_slash_chars w.not_mem_slash_chars).1 (List.append_cancel_left h)
    obtain ⟨hos, h⟩ := (append_slash_inj hp.1 hq.1).1 (List.cons.inj (List.append_cancel_left h)).2
    obtain ⟨harch, -⟩ := (append_slash_inj hp.2 hq.2).1 h
    obtain ⟨os, arch⟩ := p
    obtain ⟨os', arch'⟩ := q
    cases String.toList_inj.1 hos
    cases String.toList_inj.1 harch
    exact ⟨Version.chars_injective hversion, rfl⟩
  · rintro ⟨rfl, rfl⟩
    rfl

theorem artifactUrl_inj (hbase : m.base = n.base) (hm : m.platform.HasNoSlash) (hn : n.platform.HasNoSlash) :
    m.artifactUrl v = n.artifactUrl w ↔ v = w ∧ m.platform = n.platform := by
  rw [← String.toList_inj, toList_artifactUrl, toList_artifactUrl, hbase, List.append_cancel_left_eq,
    artifactPath_inj hm hn]

theorem checksumUrl_inj {url url' : String} : checksumUrl url = checksumUrl url' ↔ url = url' := by
  unfold checksumUrl
  rw [String.append_left_inj]

/-! ## How an address ends -/

theorem getLast?_artifactUrl (m : Mirror) (v : Version) :
    (m.artifactUrl v).toList.getLast? = some 'l' ∨ (m.artifactUrl v).toList.getLast? = some 'e' := by
  unfold artifactUrl Platform.exeSuffix
  by_cases h : m.platform.os = "windows"
  · rw [if_pos h, String.toList_append, List.getLast?_append]
    exact Or.inr rfl
  · rw [if_neg h, String.append_empty, String.toList_append, List.getLast?_append]
    exact Or.inl rfl

theorem getLast?_checksumUrl (url : String) : (checksumUrl url).toList.getLast? = some '6' := by
  simp [checksumUrl]

theorem getLast?_stableUrl (m : Mirror) : m.stableUrl.toList.getLast? = some 't' := by
  simp [stableUrl]

theorem checksumUrl_ne_artifactUrl {url : String} : checksumUrl url ≠ m.artifactUrl v := by
  intro h
  have hlast := getLast?_artifactUrl m v
  rw [← h, getLast?_checksumUrl] at hlast
  revert hlast
  decide

theorem stableUrl_ne_artifactUrl : m.stableUrl ≠ n.artifactUrl v := by
  intro h
  have hlast := getLast?_artifactUrl n v
  rw [← h, getLast?_stableUrl] at hlast
  revert hlast
  decide

theorem checksumUrl_ne_stableUrl {url : String} : checksumUrl url ≠ m.stableUrl := by
  intro h
  have hlast := getLast?_stableUrl m
  rw [← h, getLast?_checksumUrl] at hlast
  revert hlast
  decide

/-! ## The mirror's own address -/

/-- Two texts that differ at most in the slashes at their ends. -/
def DifferInSlashes (base base' : String) : Prop :=
  ∃ stem i j, base.toList = stem ++ List.replicate i '/' ∧ base'.toList = stem ++ List.replicate j '/'

theorem base_ofBase_eq_iff : (ofBase base p).base = (ofBase base' q).base ↔ DifferInSlashes base base' := by
  show String.ofList _ = String.ofList _ ↔ _
  rw [String.ofList_inj]
  constructor
  · intro h
    obtain ⟨⟨i, hi⟩, -⟩ := Text.dropTrailing_eq_iff.1 h
    obtain ⟨⟨j, hj⟩, -⟩ := Text.dropTrailing_eq_iff.1 (Eq.refl (Text.dropTrailing '/' base'.toList))
    exact ⟨_, i, j, hi, hj⟩
  · rintro ⟨stem, i, j, hi, hj⟩
    rw [hi, hj, Text.dropTrailing_append_replicate, Text.dropTrailing_append_replicate]

theorem artifactUrl_ofBase_eq_iff :
    (ofBase base p).artifactUrl v = (ofBase base' p).artifactUrl v ↔ DifferInSlashes base base' := by
  rw [← String.toList_inj, toList_artifactUrl, toList_artifactUrl, ← base_ofBase_eq_iff (p := p) (q := p)]
  show _ ++ artifactPath p v = _ ++ artifactPath p v ↔ _
  rw [List.append_cancel_right_eq, String.toList_inj]

theorem stableUrl_ofBase_eq_iff : (ofBase base p).stableUrl = (ofBase base' q).stableUrl ↔
    DifferInSlashes base base' := by
  rw [← base_ofBase_eq_iff (p := p) (q := q)]
  unfold stableUrl
  rw [String.append_left_inj]

/-! ## What a fetch requests -/

/-- Two networks that answer a request for an address alike, whatever was requested before. -/
def AnswerAlike (net net' : Http.Network) (url : String) : Prop :=
  Http.request net limit url = Http.request net' limit url

theorem getText_congr {url : String} (h : AnswerAlike net net' url) : getText net url = getText net' url := by
  unfold getText get
  rw [h]

theorem publishedChecksum_congr {url : String} (h : AnswerAlike net net' (checksumUrl url)) :
    publishedChecksum net url = publishedChecksum net' url := by
  simp only [publishedChecksum, getText_congr h]

theorem store_congr {url : String} {expected : Checksum} {destination : Path} (h : AnswerAlike net net' url) :
    store net url expected destination = store net' url expected destination := by
  unfold store get
  rw [h]

/-- A fetch is told nothing by what is answered to other requests than its two. -/
theorem fetch_congr {destination : Path} (hchecksum : AnswerAlike net net' (checksumUrl (m.artifactUrl v)))
    (hartifact : AnswerAlike net net' (m.artifactUrl v)) : fetch net m v destination = fetch net' m v destination := by
  rw [fetch, fetch, publishedChecksum_congr hchecksum]
  refine bind_congr fun r => ?_
  cases r with
  | error e => rfl
  | ok expected => exact store_congr hartifact

/-- **A mirror's addresses are unambiguous**, for every address of the mirror itself, all versions and all platforms.

Where no name of a platform has a slash in it, two artifacts have one address only if they are of one version and one
platform, and so it is with two checksums.  No checksum and no stable pointer has the address of an artifact, and no
checksum that of the stable pointer.  The addresses are those of another mirror exactly if the two mirrors' own
addresses differ at most in slashes at the end.  A fetch requests the address of its version's checksum and that of
its version's artifact for its platform, and what is answered to any other request makes no difference to it. -/
theorem addresses_are_unambiguous (base : String) (p q : Platform) (v w : Version) :
    let m := ofBase base p
    let n := ofBase base q
    (p.HasNoSlash → q.HasNoSlash → (m.artifactUrl v = n.artifactUrl w ↔ v = w ∧ p.os = q.os ∧ p.arch = q.arch) ∧
      (checksumUrl (m.artifactUrl v) = checksumUrl (n.artifactUrl w) ↔ v = w ∧ p.os = q.os ∧ p.arch = q.arch)) ∧
    checksumUrl (m.artifactUrl v) ≠ n.artifactUrl w ∧ m.stableUrl ≠ n.artifactUrl w ∧
    checksumUrl (m.artifactUrl v) ≠ n.stableUrl ∧
    (∀ base', (m.artifactUrl v = (ofBase base' p).artifactUrl v ↔ DifferInSlashes base base') ∧
      (m.stableUrl = (ofBase base' q).stableUrl ↔ DifferInSlashes base base')) ∧
    ∀ net net' destination, AnswerAlike net net' (checksumUrl (m.artifactUrl v)) →
      AnswerAlike net net' (m.artifactUrl v) → fetch net m v destination = fetch net' m v destination := by
  intro m n
  have hplatform : p = q ↔ p.os = q.os ∧ p.arch = q.arch := by
    cases p
    cases q
    rw [Platform.mk.injEq]
  refine ⟨fun hp hq => ?_, checksumUrl_ne_artifactUrl, stableUrl_ne_artifactUrl, checksumUrl_ne_stableUrl,
    fun base' => ⟨artifactUrl_ofBase_eq_iff, stableUrl_ofBase_eq_iff⟩, fun net net' destination => fetch_congr⟩
  have hartifacts : m.artifactUrl v = n.artifactUrl w ↔ v = w ∧ p.os = q.os ∧ p.arch = q.arch := by
    rw [← hplatform]
    exact artifactUrl_inj rfl hp hq
  exact ⟨hartifacts, checksumUrl_inj.trans hartifacts⟩

/-! ## What is requested -/

/-- What a mirror keeps. -/
inductive Resource where
  | stable
  | artifact (version : Version)
  | checksum (version : Version)

namespace Resource

open Http.Address (IsPlain IsPlainSegment spelled)

variable {r r' : Resource}

def url (m : Mirror) : Resource → String
  | stable => m.stableUrl
  | artifact v => m.artifactUrl v
  | checksum v => checksumUrl (m.artifactUrl v)

/-- The segments of what is kept of a version, behind the directory of releases. -/
def ofVersion (p : Platform) (v : Version) (ending : List Char) : List (List Char) :=
  ['v' :: v.chars, "bin".toList, p.os.toList, p.arch.toList, "kubectl".toList ++ p.exeSuffix.toList ++ ending]

def segments (p : Platform) : Resource → List (List Char)
  | stable => ["stable.txt".toList]
  | artifact v => ofVersion p v []
  | checksum v => ofVersion p v ".sha256".toList

theorem spelled_ofVersion (p : Platform) (v : Version) (ending : List Char) :
    spelled ("release".toList :: ofVersion p v ending) = artifactPath p v ++ ending := by
  have hspelled : ∀ r v b o a k s e : List Char, spelled [r, 'v' :: v, b, o, a, k ++ s ++ e] =
      '/' :: r ++ ['/', 'v'] ++ (v ++ '/' :: (b ++ '/' :: (o ++ '/' :: (a ++ '/' :: (k ++ s))))) ++ e := by
    intro r v b o a k s e
    simp [spelled]
  have hstart : '/' :: "release".toList ++ ['/', 'v'] = "/release/v".toList := by decide
  unfold ofVersion artifactPath
  rw [hspelled, hstart]

theorem toList_url (m : Mirror) (r : Resource) :
    (r.url m).toList = m.base.toList ++ spelled ("release".toList :: r.segments m.platform) := by
  cases r with
  | stable =>
    rw [url, stableUrl, String.toList_append]
    rfl
  | artifact v => rw [url, toList_artifactUrl, segments, spelled_ofVersion, List.append_nil]
  | checksum v =>
    rw [url, checksumUrl, String.toList_append, toList_artifactUrl, segments, spelled_ofVersion, List.append_assoc]

theorem segments_ne_nil (p : Platform) (r : Resource) : r.segments p ≠ [] := by
  cases r <;> exact List.cons_ne_nil _ _

/-! ### Plain segments -/

theorem isPlain_of_isLabelChar {c : Char} (h : isLabelChar c = true) : IsPlain c := by
  have hset : (Http.Address.pathSet.all fun c => !isLabelChar c) = true := by decide
  have hbounds := isLabelChar_bounds h
  refine ⟨by omega, by omega, fun hc => ?_, ?_, ?_⟩
  · rw [List.all_eq_true] at hset
    exact absurd h (by simpa using hset c hc)
  · rintro rfl
    cases h
  · rintro rfl
    cases h

theorem isPlainSegment_version (v : Version) : IsPlainSegment ('v' :: v.chars) := by
  refine ⟨fun c hc => ?_, nofun, nofun⟩
  rcases List.mem_cons.1 hc with rfl | hc
  · decide
  · rcases Version.of_mem_chars hc with hc | rfl | rfl
    · exact isPlain_of_isLabelChar hc
    · decide
    · decide

theorem isPlainSegment_program (p : Platform) {ending : List Char} (h : ∀ c ∈ ending, IsPlain c) :
    IsPlainSegment ("kubectl".toList ++ p.exeSuffix.toList ++ ending) := by
  have hprogram : IsPlainSegment "kubectl".toList := by decide
  have hsuffix : ∀ c ∈ p.exeSuffix.toList, IsPlain c := by
    unfold Platform.exeSuffix
    split
    · exact (show IsPlainSegment ".exe".toList by decide).chars
    · nofun
  refine ⟨fun c hc => ?_, nofun, nofun⟩
  rcases List.mem_append.1 hc with hc | hc
  · exact (List.mem_append.1 hc).elim (hprogram.chars c) (hsuffix c)
  · exact h c hc

theorem isPlainSegment_ofVersion {p : Platform} (hp : p.IsPlain) (v : Version) {ending : List Char}
    (h : ∀ c ∈ ending, IsPlain c) : ∀ s ∈ ofVersion p v ending, IsPlainSegment s := by
  have hbin : IsPlainSegment "bin".toList := by decide
  simp only [ofVersion, List.forall_mem_cons]
  exact ⟨isPlainSegment_version v, hbin, hp.os, hp.arch, isPlainSegment_program p h, nofun⟩

theorem isPlainSegment_segments {p : Platform} (hp : p.IsPlain) (r : Resource) :
    ∀ s ∈ r.segments p, IsPlainSegment s := by
  cases r with
  | stable =>
    intro s hs
    rw [List.mem_singleton.1 hs]
    decide
  | artifact v => exact isPlainSegment_ofVersion hp v nofun
  | checksum v => exact isPlainSegment_ofVersion hp v (show IsPlainSegment ".sha256".toList by decide).chars

theorem ofVersion_inj {ending ending' : List Char} :
    ofVersion p v ending = ofVersion q w ending' ↔ v = w ∧ p = q ∧ ending = ending' := by
  constructor
  · intro h
    obtain ⟨hversion, h⟩ := List.cons.inj h
    obtain ⟨hos, h⟩ := List.cons.inj (List.cons.inj h).2
    obtain ⟨harch, h⟩ := List.cons.inj h
    obtain ⟨os, arch⟩ := p
    obtain ⟨os', arch'⟩ := q
    cases String.toList_inj.1 hos
    cases String.toList_inj.1 harch
    exact ⟨Version.chars_injective (List.cons.inj hversion).2, rfl, List.append_cancel_left (List.cons.inj h).1⟩
  · rintro ⟨rfl, rfl, rfl⟩
    rfl

/-- The segments tell what is kept there, and for which platform if that matters. -/
theorem segments_inj : r.segments p = r'.segments q ↔ r = r' ∧ (r = .stable ∨ p = q) := by
  have hending : ([] : List Char) ≠ ".sha256".toList := by decide
  cases r with
  | stable =>
    cases r' with
    | stable => simp [segments]
    | artifact w => simp [segments, ofVersion]
    | checksum w => simp [segments, ofVersion]
  | artifact v =>
    cases r' with
    | stable => simp [segments, ofVersion]
    | artifact w => simp [segments, ofVersion_inj]
    | checksum w => simp only [segments, ofVersion_inj, hending, and_false, reduceCtorEq, false_and]
  | checksum v =>
    cases r' with
    | stable => simp [segments, ofVersion]
    | artifact w => simp only [segments, ofVersion_inj, hending.symm, and_false, reduceCtorEq, false_and]
    | checksum w => simp [segments, ofVersion_inj]

end Resource

/-- **No two resources of a mirror are requested as one.**  Where the mirror's own address has neither a query nor a
fragment, and the platforms' names stand in an address as they are, what is requested for one resource is requested for
another only if it is the same, of the same version and for the same platform. -/
theorem requests_are_apart (hbase : m.base = n.base) (hquery : '?' ∉ m.base.toList) (hfragment : '#' ∉ m.base.toList)
    (hm : m.platform.IsPlain) (hn : n.platform.IsPlain) {r r' : Resource} {a : Http.Address}
    (hserved : a.isServed = true) (h : Http.Address.ofText (r.url m) = .ok a) :
    Http.Address.ofText (r'.url n) = .ok a ↔ r = r' ∧ (r = .stable ∨ m.platform = n.platform) := by
  have hfirst : Http.Address.IsPlainSegment "release".toList := by decide
  rw [Http.Address.ofText, Resource.toList_url] at h ⊢
  rw [← hbase, Http.Address.ofChars_spelled_inj hquery hfragment hfirst (by decide) (Resource.segments_ne_nil _ r)
    (Resource.isPlainSegment_segments hm r) (Resource.segments_ne_nil _ r')
    (Resource.isPlainSegment_segments hn r') hserved h,
    Resource.segments_inj]

end Mirror

end KubectlMatch
