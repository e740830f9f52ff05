import KubectlMatch.Mirror.Fetch
import KubectlMatch.Proofs.Files.Directories
import KubectlMatch.Proofs.Mirror.Transfers
/-!
# What a fetch leaves

A fetch brings the whole body of the artifact to its destination, with the published checksum, or it leaves the
destination as it was.  `IsVerified` lists all that has to go well.  Nothing else decides the result, as long as it is
not the last piece that cannot be written, and the files after a fetch are known in either case.
-/
namespace KubectlMatch

namespace Checksum

end Checksum

namespace Mirror

open World

variable {net : Http.Network} {url : String} {attempts : List Http.Attempt} {received : Http.Received}
  {pieces : List Bytes} {checksum expected : Checksum} {world : World} {destination : Path} {fs fs' : FileSystem}
  {unfinished : Location}

/-! ## The requests -/

/-- The requests that are made for an address. -/
def asked (net : Http.Network) (url : String) (attempts : List Http.Attempt) : List Http.Attempt :=
  ((Http.request net limit url).run attempts).2

/-- A request for an address ends in a response of success with a whole body, which arrives in these pieces. -/
def Delivers (net : Http.Network) (url : String) (attempts : List Http.Attempt) (pieces : List Bytes) : Prop :=
  ∃ received, ((Http.request net limit url).run attempts).1 = .ok received ∧ received.isSuccess = true ∧
    received.ending limit = .ok () ∧ received.chunks = pieces

/-- How a request to a mirror is taken. -/
def accept (url : String) : Except Http.Error Http.Received → Except DownloadError Http.Received
  | .error e => .error (.network e)
  | .ok received =>
    if received.isSuccess then .ok received
    else .error (.unavailable url ("Unexpected status: " ++ received.response.status.text))

theorem run_get : (get net url).run attempts =
    (accept url ((Http.request net limit url).run attempts).1, asked net url attempts) := by
  rw [get, run_bind, asked]
  rcases (Http.request net limit url).run attempts with ⟨_ | received, after⟩
  · rfl
  · dsimp only
    rw [accept]
    split
    · rfl
    · rfl

theorem accept_eq_ok_iff {reply : Except Http.Error Http.Received} :
    accept url reply = .ok received ↔ reply = .ok received ∧ received.isSuccess = true := by
  cases reply with
  | error e => exact ⟨nofun, fun h => nomatch h.1⟩
  | ok r =>
    by_cases hs : r.isSuccess = true
    · rw [accept, if_pos hs]
      exact ⟨fun h => by cases h; exact ⟨rfl, hs⟩, fun h => by cases h.1; rfl⟩
    · rw [accept, if_neg hs]
      refine ⟨nofun, fun h => ?_⟩
      cases h.1
      exact absurd h.2 hs

theorem delivers_iff : Delivers net url attempts pieces ↔ ∃ received, ((get net url).run attempts).1 = .ok received ∧
    received.ending limit = .ok () ∧ received.chunks = pieces := by
  rw [run_get]
  dsimp only
  constructor
  · rintro ⟨received, hrequest, hsuccess, hending, hpieces⟩
    exact ⟨received, accept_eq_ok_iff.2 ⟨hrequest, hsuccess⟩, hending, hpieces⟩
  · rintro ⟨received, hreceived, hending, hpieces⟩
    obtain ⟨hrequest, hsuccess⟩ := accept_eq_ok_iff.1 hreceived
    exact ⟨received, hrequest, hsuccess, hending, hpieces⟩

/-- How the body of a response is taken for a checksum. -/
def readChecksum (url body : String) : Except DownloadError Checksum :=
  match Checksum.published? body with
  | some checksum => .ok checksum
  | none => .error (.badResponse ("malformed checksum from " ++ url ++ ": " ++ Text.quote body))

theorem run_publishedChecksum : (publishedChecksum net url).run attempts =
    (((accept (checksumUrl url) ((Http.request net limit (checksumUrl url)).run attempts).1).bind fun received =>
        (received.text limit).mapError .network).bind (readChecksum (checksumUrl url)),
      asked net (checksumUrl url) attempts) := by
  rw [publishedChecksum, run_bind, run_pure, getText, run_bind, run_pure, run_get]
  dsimp only
  rfl

theorem run_publishedChecksum_snd :
    ((publishedChecksum net url).run attempts).2 = asked net (checksumUrl url) attempts := by
  rw [run_publishedChecksum]

/-- What is done to the file that was made for a body, after its pieces have been written. -/
def finish (unfinished : Location) (destination : Path) (fs : FileSystem) : Except IoError FileSystem := do
  fs.permit .sync unfinished
  let fs ← fs.setMode unfinished Transfer.installedMode
  fs.rename unfinished destination

/-- All that is done to the files once the destination's directory is there: a temporary file is made, the pieces are
written to it, and it is moved to the destination. -/
def storeFiles (destination : Path) (pieces : List Bytes) (fs : FileSystem) : Except IoError FileSystem := do
  let (unfinished, fs) ← fs.createTemporary (directoryOf destination) unfinishedStart
  let fs ← fs.appendAll unfinished (written pieces)
  finish unfinished destination fs

/-- Of the pieces all could be written to the temporary file but the last. -/
def LosesLast (destination : Path) (pieces : List Bytes) (fs : FileSystem) : Prop :=
  ∃ unfinished made lost, fs.createTemporary (directoryOf destination) unfinishedStart = .ok (unfinished, made) ∧
    made.LosesLast unfinished (written pieces) lost

/-- An unfinished file for a destination, which the system does not let go of. -/
def Stays (destination : Path) (fs : FileSystem) (loc : Location) : Prop :=
  (∃ n here, loc = FileSystem.numberedName unfinishedStart n :: here ∧ fs.locate (directoryOf destination) = .ok here) ∧
    fs.nodeAt? loc = none ∧ (fs.refusal? .remove loc).isSome

theorem flatten_written (pieces : List Bytes) : (written pieces).flatten = pieces.flatten :=
  List.flatten_filter_not_isEmpty

/-- The artifact is delivered, and all its pieces could be written but the last. -/
def LastLost (net : Http.Network) (url : String) (destination : Path) (world : World) : Prop :=
  ∃ pieces, Delivers net url (asked net (checksumUrl url) world.attempts) pieces ∧
    LosesLast destination pieces (world.files.makeDirs (directoryOf destination)).2

/-- The whole body comes, is the expected one and is stored, though perhaps without its last piece: otherwise a transfer
comes to a failure. -/
theorem outcome_transfer_eq_ok_iff {delivery : Except DownloadError Http.Received} :
    (transfer url expected destination unfinished delivery).outcome fs = .ok fs' ↔ ∃ received, delivery = .ok received ∧
      received.ending limit = .ok () ∧ Checksum.ofBytes received.chunks.flatten = expected ∧
      ∃ filled, (fs.appendAll unfinished (written received.chunks) = .ok filled ∨
        fs.LosesLast unfinished (written received.chunks) filled) ∧ finish unfinished destination filled = .ok fs' := by
  cases delivery with
  | error e => exact ⟨nofun, fun ⟨_, h, _⟩ => nomatch h⟩
  | ok received =>
    constructor
    · intro h
      obtain ⟨filled, hfilled, h⟩ := bind_eq_ok_iff.1 h
      obtain ⟨⟨⟩, hending, h⟩ := bind_eq_ok_iff.1 h
      obtain ⟨⟨⟩, hsync, h⟩ := bind_eq_ok_iff.1 h
      rw [Transfer.judged] at h
      split at h
      · rename_i hsum
        refine ⟨received, rfl, mapError_eq_ok_iff.1 hending, ?_, filled,
          FileSystem.writeAll_eq_ok_iff.1 (mapError_eq_ok_iff.1 hfilled),
          bind_eq_ok_iff.2 ⟨(), mapError_eq_ok_iff.1 hsync, mapError_eq_ok_iff.1 h⟩⟩
        rw [← flatten_written]
        exact hsum
      · cases h
    · rintro ⟨_, hr, hending, hsum, filled, hfilled, hfinish⟩
      cases hr
      obtain ⟨⟨⟩, hsync, hinstalled⟩ := bind_eq_ok_iff.1 hfinish
      refine bind_eq_ok_iff.2 ⟨filled, mapError_eq_ok_iff.2 (FileSystem.writeAll_eq_ok_iff.2 hfilled),
        bind_eq_ok_iff.2 ⟨(), mapError_eq_ok_iff.2 hending, bind_eq_ok_iff.2 ⟨(), mapError_eq_ok_iff.2 hsync, ?_⟩⟩⟩
      rw [← flatten_written] at hsum
      rw [Transfer.judged]
      exact (if_pos hsum).trans (mapError_eq_ok_iff.2 hinstalled)

/-! ## Storing -/

section Transfer

variable (url : String) (expected : Checksum) (destination : Path) (unfinished : Location)
  (delivery : Except DownloadError Http.Received)

theorem unfinished_transfer : (transfer url expected destination unfinished delivery).unfinished = unfinished := by
  cases delivery <;> rfl

theorem destination_transfer : (transfer url expected destination unfinished delivery).destination = destination := by
  cases delivery <;> rfl

theorem expected_transfer : (transfer url expected destination unfinished delivery).expected = expected := by
  cases delivery <;> rfl

theorem holds_transfer (base : FileSystem) : (transfer url expected destination unfinished delivery).Holds base
    (base.put unfinished (.file 0o600 [])) := by
  cases delivery with
  | error e => exact ⟨_, _, rfl⟩
  | ok received => exact ⟨_, _, rfl⟩

variable {unfinished}

/-- What is filled with all pieces is the body at its place in the end. -/
theorem installed_of_finish {base filled : FileSystem} (hfree : base.nodeAt? unfinished = none)
    (hfilled : (base.put unfinished (.file 0o600 [])).appendAll unfinished (written pieces) = .ok filled)
    (hfinish : finish unfinished destination filled = .ok fs') :
    Transfer.Installed base destination pieces.flatten fs' := by
  have hne := FileSystem.ne_nil_of_nodeAt?_eq_none hfree
  rw [FileSystem.appendAll_ok hne hfilled, List.nil_append, flatten_written] at hfinish
  obtain ⟨⟨⟩, -, hfinish⟩ := bind_eq_ok_iff.1 hfinish
  obtain ⟨executable, hmode, hrename⟩ := bind_eq_ok_iff.1 hfinish
  have hput := FileSystem.setMode_ok (FileSystem.nodeAt?_put_self hne) hmode
  rw [FileSystem.put_put] at hput
  rw [hput] at hrename
  exact Transfer.installed_of_rename hfree hrename

/-- A whole run of a transfer: the body at its place if all goes well, or else nothing at all, but for an unfinished
file that the system does not let go of. -/
theorem transfer_all_or_nothing {base : FileSystem} (hfree : base.nodeAt? unfinished = none) :
    let start := base.put unfinished (.file 0o600 [])
    let ended := (transfer url expected destination unfinished delivery).run start
    (∀ received filled files, delivery = .ok received → received.ending limit = .ok () →
      Checksum.ofBytes received.chunks.flatten = expected →
      start.appendAll unfinished (written received.chunks) = .ok filled →
        finish unfinished destination filled = .ok files →
        ended = (.ok (), files) ∧ Transfer.Installed base destination received.chunks.flatten files) ∧
    (ended.1 = .ok () → (∃ content, Transfer.Installed base destination content ended.2) ∧
      ∃ received, delivery = .ok received ∧ received.ending limit = .ok () ∧
        Checksum.ofBytes received.chunks.flatten = expected ∧
        ∃ filled, (start.appendAll unfinished (written received.chunks) = .ok filled ∨
          start.LosesLast unfinished (written received.chunks) filled) ∧
          finish unfinished destination filled = .ok ended.2) ∧
    ∀ e, ended.1 = .error e → Transfer.Abandoned base unfinished ended.2 := by
  intro start ended
  have hholds := holds_transfer url expected destination unfinished delivery base
  have hfree' : base.nodeAt? (transfer url expected destination unfinished delivery).unfinished = none := by
    rw [unfinished_transfer]
    exact hfree
  refine ⟨fun received filled files hd hending hsum hfilled hfinish => ⟨?_, ?_⟩, fun hok => ⟨?_, ?_⟩, fun e he => ?_⟩
  · exact Transfer.run_eq_ok_iff.2
      (outcome_transfer_eq_ok_iff.2 ⟨received, hd, hending, hsum, filled, Or.inl hfilled, hfinish⟩)
  · exact installed_of_finish destination hfree hfilled hfinish
  · have hinstalled := Transfer.run_ok hfree' hholds hok
    rw [destination_transfer] at hinstalled
    exact hinstalled
  · exact outcome_transfer_eq_ok_iff.1 (Transfer.run_eq_ok_iff.1 (Prod.ext hok rfl))
  · have habandoned := Transfer.run_error hfree' hholds he
    rw [unfinished_transfer] at habandoned
    exact habandoned

end Transfer

section Store

variable (net : Http.Network) (url : String) (expected : Checksum) {e : IoError}

theorem run_store_unmade (hmade : (world.files.makeDirs (directoryOf destination)).1 = .error e) :
    (store net url expected destination).run world =
      (.error (.io e), { world with files := (world.files.makeDirs (directoryOf destination)).2 }) := by
  rw [store, run_bind, run_onFiles, hmade]
  rfl

theorem run_store_uncreated (hmade : (world.files.makeDirs (directoryOf destination)).1 = .ok ())
    (hcreate : (world.files.makeDirs (directoryOf destination)).2.createTemporary (directoryOf destination)
      unfinishedStart = .error e) :
    (store net url expected destination).run world =
      (.error (.io e), { world with files := (world.files.makeDirs (directoryOf destination)).2 }) := by
  rw [store, run_bind, run_onFiles, hmade]
  dsimp only
  rw [run_bind, run_ofTheFiles]
  dsimp only
  rw [hcreate]
  rfl

theorem run_store_created (hmade : (world.files.makeDirs (directoryOf destination)).1 = .ok ())
    (hcreate : (world.files.makeDirs (directoryOf destination)).2.createTemporary (directoryOf destination)
      unfinishedStart = .ok (unfinished, fs)) :
    (store net url expected destination).run world =
      let ended := (transfer url expected destination unfinished ((get net url).run world.attempts).1).run fs
      (ended.1, ⟨ended.2, asked net url world.attempts⟩) := by
  rw [store, run_bind, run_onFiles, hmade]
  dsimp only
  rw [run_bind, run_ofTheFiles]
  dsimp only
  rw [hcreate]
  dsimp only
  rw [run_bind, run_modify, run_bind, run_online, run_onFiles, run_get]

end Store

theorem storeFiles_of_created {base : FileSystem} (pieces : List Bytes)
    (hcreate : base.createTemporary (directoryOf destination) unfinishedStart = .ok (unfinished, fs)) :
    storeFiles destination pieces base =
      fs.appendAll unfinished (written pieces) >>= finish unfinished destination := by
  rw [storeFiles, hcreate]
  rfl

/-- **Storing a body** succeeds exactly if it is delivered and is the expected one and the files can be written, unless
its last piece is lost.  Then it is at its place, and otherwise only directories have been made. -/
theorem store_all_or_nothing (net : Http.Network) (url : String) (expected : Checksum) (destination : Path)
    (world : World) :
    let made := world.files.makeDirs (directoryOf destination)
    let out := (store net url expected destination).run world
    (∀ pieces files, Delivers net url world.attempts pieces → Checksum.ofBytes pieces.flatten = expected →
      made.1 = .ok () → storeFiles destination pieces made.2 = .ok files →
      out = (.ok (), ⟨files, asked net url world.attempts⟩) ∧
        Transfer.Installed made.2 destination pieces.flatten files) ∧
    (out.1 = .ok () → (∃ content, Transfer.Installed made.2 destination content out.2.files) ∧
      ∃ pieces, Delivers net url world.attempts pieces ∧ Checksum.ofBytes pieces.flatten = expected ∧ made.1 = .ok () ∧
        (storeFiles destination pieces made.2 = .ok out.2.files ∨ LosesLast destination pieces made.2)) ∧
    (∀ e, out.1 = .error e → out.2.files = made.2 ∨
      ∃ loc mode content, Stays destination made.2 loc ∧ out.2.files = made.2.put loc (.file mode content)) ∧
    (out.2.attempts = world.attempts ∨ out.2.attempts = asked net url world.attempts) := by
  intro made out
  cases hmade : made.1 with
  | error e =>
    have hout : out = (.error (.io e), { world with files := made.2 }) := run_store_unmade net url expected hmade
    rw [hout]
    exact ⟨fun _ _ _ _ h => (nomatch h), nofun, fun _ _ => Or.inl rfl, Or.inl rfl⟩
  | ok u =>
    cases hcreate : made.2.createTemporary (directoryOf destination) unfinishedStart with
    | error e =>
      have hout : out = (.error (.io e), { world with files := made.2 }) :=
        run_store_uncreated net url expected hmade hcreate
      rw [hout]
      refine ⟨fun _ _ _ _ _ hstored => ?_, nofun, fun _ _ => Or.inl rfl, Or.inl rfl⟩
      rw [storeFiles, hcreate] at hstored
      cases hstored
    | ok created =>
      -- From here on the files differ from `made` only at a location that was free.
      obtain ⟨unfinished, fs⟩ := created
      obtain ⟨here, hlocate, -, ⟨n, hname⟩, hfree, rfl⟩ := FileSystem.createTemporary_ok hcreate
      obtain ⟨hall, hok, hnothing⟩ :=
        transfer_all_or_nothing url expected destination ((get net url).run world.attempts).1 hfree
      obtain ⟨result, files, hrun⟩ : ∃ result files, (transfer url expected destination unfinished
          ((get net url).run world.attempts).1).run (made.2.put unfinished (.file 0o600 [])) = (result, files) :=
        ⟨_, _, rfl⟩
      have hout : out = (result, ⟨files, asked net url world.attempts⟩) := by
        refine (run_store_created net url expected hmade hcreate).trans ?_
        rw [hrun]
      rw [hrun] at hall hok hnothing
      rw [hout]
      refine ⟨fun pieces files' hdelivered hsum _ hstored => ?_, fun h => ?_, fun e he => ?_, Or.inr rfl⟩
      · obtain ⟨received, hreceived, hending, rfl⟩ := delivers_iff.1 hdelivered
        rw [storeFiles_of_created received.chunks hcreate, bind_eq_ok_iff] at hstored
        obtain ⟨filled, hfilled, hfinish⟩ := hstored
        obtain ⟨hended, hinstalled⟩ := hall received filled files' hreceived hending hsum hfilled hfinish
        cases hended
        exact ⟨rfl, hinstalled⟩
      · obtain ⟨hinstalled, received, hreceived, hending, hsum, filled, hfilled, hfinish⟩ := hok h
        refine ⟨hinstalled, received.chunks, delivers_iff.2 ⟨received, hreceived, hending, rfl⟩, hsum, rfl, ?_⟩
        rw [storeFiles_of_created received.chunks hcreate, bind_eq_ok_iff]
        rcases hfilled with hfilled | hlost
        · exact Or.inl ⟨filled, hfilled, hfinish⟩
        · exact Or.inr ⟨unfinished, _, filled, hcreate, hlost⟩
      · refine (hnothing e he).imp_right ?_
        rintro ⟨hrefused, mode, content, hfiles⟩
        exact ⟨unfinished, mode, content, ⟨⟨n, here, hname, hlocate⟩, hfree, hrefused⟩, hfiles⟩

/-! ## Fetching -/

section Fetch

variable (m : Mirror) (v : Version)

theorem run_fetch_error {e : DownloadError}
    (h : ((publishedChecksum net (m.artifactUrl v)).run world.attempts).1 = .error e) :
    (fetch net m v destination).run world =
      (.error e, ⟨world.files, asked net (checksumUrl (m.artifactUrl v)) world.attempts⟩) := by
  rw [fetch, run_bind, run_online, h, run_publishedChecksum_snd]
  dsimp only
  rw [run_pure]

theorem run_fetch_ok (h : ((publishedChecksum net (m.artifactUrl v)).run world.attempts).1 = .ok expected) :
    (fetch net m v destination).run world = (store net (m.artifactUrl v) expected destination).run
      ⟨world.files, asked net (checksumUrl (m.artifactUrl v)) world.attempts⟩ := by
  rw [fetch, run_bind, run_online, h, run_publishedChecksum_snd]

end Fetch

end Mirror

end KubectlMatch
