import KubectlMatch.Proofs.Success
import KubectlMatch.Settings.Load
/-!
# Which layer decides

Each of the directories adds a layer, and what a setting comes to is what the last layer that mentions it says
(`LastSaid`).  Layers lie on each other like one (`foldl_apply`), and one that is laid on a second time changes nothing;
so what is loaded of two lists of directories is known from what is loaded of the first and from the layers of the
second.  The first file that makes no layer ends the loading.
-/
namespace KubectlMatch

open Yaml (Decoder)

/-! ## Fields -/

namespace Yaml.Decoder

variable {α : Type} {d : Document} {entries : List (String × Node)} {name : String} {decode : Decoder α}

theorem optional_eq_ok_iff {n : Node} {r : Option α} : optional decode d n = .ok r ↔
    (saysNothing (d.resolve n) = .ok true ∧ r = none) ∨
      (saysNothing (d.resolve n) = .ok false ∧ ∃ a, decode d n = .ok a ∧ r = some a) := by
  unfold optional
  cases saysNothing (d.resolve n) with
  | error fault => exact ⟨nofun, by rintro (⟨h, -⟩ | ⟨h, -⟩) <;> cases h⟩
  | ok nothing =>
    cases nothing with
    | true =>
      constructor
      · intro h
        cases h
        exact Or.inl ⟨rfl, rfl⟩
      · rintro (⟨-, rfl⟩ | ⟨h, -⟩)
        · rfl
        · cases h
    | false =>
      show (decode d n >>= fun a => pure (some a)) = .ok r ↔ _
      rw [bind_eq_ok_iff]
      constructor
      · rintro ⟨a, ha, h⟩
        cases h
        exact Or.inr ⟨rfl, a, ha, rfl⟩
      · rintro (⟨h, -⟩ | ⟨-, a, ha, rfl⟩)
        · cases h
        · exact ⟨a, ha, rfl⟩

theorem field?_eq_ok_iff {found : Option α} : field? name decode d entries = .ok found ↔
    (entries.filter (·.1 == name) = [] ∧ found = none) ∨
      ∃ key value a, entries.filter (·.1 == name) = [(key, value)] ∧ decode d value = .ok a ∧ found = some a := by
  unfold field?
  split
  · rename_i h
    rw [h]
    constructor
    · intro hfound
      cases hfound
      exact Or.inl ⟨rfl, rfl⟩
    · rintro (⟨-, rfl⟩ | ⟨key, value, a, hone, -⟩)
      · rfl
      · cases hone
  · rename_i key value h
    rw [h]
    cases hvalue : decode d value with
    | error fault =>
      refine ⟨nofun, ?_⟩
      rintro (⟨hnone, -⟩ | ⟨key', value', a, hone, ha, -⟩)
      · cases hnone
      · cases hone
        rw [hvalue] at ha
        cases ha
    | ok a =>
      constructor
      · intro hfound
        cases hfound
        exact Or.inr ⟨key, value, a, rfl, hvalue, rfl⟩
      · rintro (⟨hnone, -⟩ | ⟨key', value', a', hone, ha, rfl⟩)
        · cases hnone
        · cases hone
          rw [hvalue] at ha
          cases ha
          rfl
  · rename_i hnone hone
    refine ⟨nofun, ?_⟩
    rintro (⟨h, -⟩ | ⟨key, value, a, h, -⟩)
    · exact absurd h hnone
    · exact absurd h (hone key value)

/-- What a mapping says under a name that it has once at most: nothing if the name is not there or has a null, and else
the value that is there. -/
inductive Tells (d : Document) (entries : List (String × Node)) (name : String) (decode : Decoder α) : Option α → Prop
  | absent (h : entries.filter (·.1 == name) = []) : Tells d entries name decode none
  | null {key : String} {value : Node} (h : entries.filter (·.1 == name) = [(key, value)])
      (hnull : saysNothing (d.resolve value) = .ok true) : Tells d entries name decode none
  | value {key : String} {value : Node} {a : α} (h : entries.filter (·.1 == name) = [(key, value)])
      (hwritten : saysNothing (d.resolve value) = .ok false) (ha : decode d value = .ok a) :
      Tells d entries name decode (some a)

theorem tells_iff {said : Option α} : Tells d entries name decode said ↔
    ∃ found, field? name (optional decode) d entries = .ok found ∧ found.join = said := by
  constructor
  · rintro (h | ⟨h, hnull⟩ | ⟨h, hwritten, ha⟩)
    · exact ⟨none, field?_eq_ok_iff.2 (Or.inl ⟨h, rfl⟩), rfl⟩
    · exact ⟨some none, field?_eq_ok_iff.2 (Or.inr ⟨_, _, none, h, optional_eq_ok_iff.2 (Or.inl ⟨hnull, rfl⟩), rfl⟩),
        rfl⟩
    · exact ⟨some (some _),
        field?_eq_ok_iff.2 (Or.inr ⟨_, _, _, h, optional_eq_ok_iff.2 (Or.inr ⟨hwritten, _, ha, rfl⟩), rfl⟩), rfl⟩
  · rintro ⟨found, hfound, rfl⟩
    rcases field?_eq_ok_iff.1 hfound with ⟨h, rfl⟩ | ⟨key, value, r, h, hvalue, rfl⟩
    · exact .absent h
    · rcases optional_eq_ok_iff.1 hvalue with ⟨hnull, rfl⟩ | ⟨hwritten, a, ha, rfl⟩
      · exact .null h hnull
      · exact .value h hwritten ha

end Yaml.Decoder

/-! ## What a file says -/

namespace Overrides

variable {d : Yaml.Document} {o : Overrides}

/-- The entries of a mapping say a layer, each setting under its own name. -/
structure IsLayer (d : Yaml.Document) (entries : List (String × Yaml.Node)) (o : Overrides) : Prop where
  allowDownload : Decoder.Tells d entries "allowDownload" .bool o.allowDownload
  systemPath : Decoder.Tells d entries "systemPath" .string o.systemPath
  timeout : Decoder.Tells d entries "timeout" .natural o.timeout
  mirror : Decoder.Tells d entries "mirror" .string o.mirror

theorem decode_eq_ok_iff {n : Yaml.Node} :
    Overrides.decode d n = .ok o ↔ ∃ entries, Decoder.entries d n = .ok entries ∧ IsLayer d entries o := by
  unfold Overrides.decode
  simp only [bind_eq_ok_iff]
  constructor
  · rintro ⟨entries, hentries, allowDownload, ha, systemPath, hs, timeout, ht, mirror, hm, h⟩
    cases h
    exact ⟨entries, hentries, Decoder.tells_iff.2 ⟨_, ha, rfl⟩, Decoder.tells_iff.2 ⟨_, hs, rfl⟩,
      Decoder.tells_iff.2 ⟨_, ht, rfl⟩, Decoder.tells_iff.2 ⟨_, hm, rfl⟩⟩
  · rintro ⟨entries, hentries, h⟩
    obtain ⟨allowDownload, ha, hallow⟩ := Decoder.tells_iff.1 h.allowDownload
    obtain ⟨systemPath, hs, hsystem⟩ := Decoder.tells_iff.1 h.systemPath
    obtain ⟨timeout, ht, htimeout⟩ := Decoder.tells_iff.1 h.timeout
    obtain ⟨mirror, hm, hmirror⟩ := Decoder.tells_iff.1 h.mirror
    refine ⟨entries, hentries, allowDownload, ha, systemPath, hs, timeout, ht, mirror, hm, ?_⟩
    rw [hallow, hsystem, htimeout, hmirror]
    rfl

/-- A text is a settings file of a layer: its one mapping has the layer under the name of kubectl, or has no such name,
and then the layer mentions nothing. -/
inductive IsFileOf : String → Overrides → Prop
  | absent {text : String} {d : Yaml.Document} {entries : List (String × Yaml.Node)}
      (hd : Yaml.Document.ofText? text = .ok d) (hentries : Decoder.entries d d.root = .ok entries)
      (h : entries.filter (·.1 == "kubectl") = []) : IsFileOf text {}
  | layer {text : String} {d : Yaml.Document} {entries layer : List (String × Yaml.Node)} {key : String}
      {value : Yaml.Node} {o : Overrides} (hd : Yaml.Document.ofText? text = .ok d)
      (hentries : Decoder.entries d d.root = .ok entries) (h : entries.filter (·.1 == "kubectl") = [(key, value)])
      (hlayer : Decoder.entries d value = .ok layer) (ho : IsLayer d layer o) : IsFileOf text o

theorem run_decodeFile_eq_ok_iff {text : String} : Overrides.decodeFile.run text = .ok o ↔ IsFileOf text o := by
  unfold Decoder.run Overrides.decodeFile
  simp only [bind_eq_ok_iff, Decoder.field?_eq_ok_iff]
  constructor
  · rintro ⟨d, hd, entries, hentries, found, ⟨h, rfl⟩ | ⟨key, value, layer, h, hvalue, rfl⟩, hout⟩
    · cases hout
      exact .absent hd hentries h
    · cases hout
      obtain ⟨under, hlayer, ho⟩ := decode_eq_ok_iff.1 hvalue
      exact .layer hd hentries h hlayer ho
  · rintro (⟨hd, hentries, h⟩ | ⟨hd, hentries, h, hlayer, ho⟩)
    · exact ⟨_, hd, _, hentries, none, Or.inl ⟨h, rfl⟩, rfl⟩
    · exact ⟨_, hd, _, hentries, some _, Or.inr ⟨_, _, _, h, decode_eq_ok_iff.2 ⟨_, hlayer, ho⟩, rfl⟩, rfl⟩

end Overrides

/-! ## Layers on layers -/

namespace Overrides

variable {α : Type} {layers : List Overrides} {o : Overrides} {s : Settings}

/-- One layer that changes what two do, the second of them below. -/
def onto (o below : Overrides) : Overrides where
  allowDownload := o.allowDownload.or below.allowDownload
  systemPath := o.systemPath.or below.systemPath
  timeout := o.timeout.or below.timeout
  mirror := o.mirror.or below.mirror

theorem apply_onto (o below : Overrides) (s : Settings) : (o.onto below).apply s = o.apply (below.apply s) := by
  simp only [apply, onto, Option.getD_or, Option.or_assoc]

/-- A layer that is laid on twice counts once. -/
theorem apply_apply (o : Overrides) (s : Settings) : o.apply (o.apply s) = o.apply s := by
  obtain ⟨_ | _, _ | _, _ | _, _ | _⟩ := o <;> rfl

/-- The layers one on the other, as one; the last is on top. -/
def merged (layers : List Overrides) : Overrides := layers.foldl (fun below o => o.onto below) {}

/-- **A list of layers does what one does.** -/
theorem foldl_apply (layers : List Overrides) (s : Settings) :
    layers.foldl (fun s o => o.apply s) s = (merged layers).apply s := by
  -- with any layer below the first, since the recursion puts the first below the others
  have hbelow : ∀ (layers : List Overrides) (below : Overrides), layers.foldl (fun s o => o.apply s) (below.apply s) =
      (layers.foldl (fun below o => o.onto below) below).apply s := by
    intro layers
    induction layers with
    | nil => exact fun below => rfl
    | cons o layers ih =>
      intro below
      rw [List.foldl_cons, List.foldl_cons, ← apply_onto, ih]
  exact hbelow layers {}

/-- A setting after layers: what the last layer that mentions it says, or else what it was before. -/
inductive LastSaid (field : Overrides → Option α) (before : α) : List Overrides → α → Prop
  | never {layers : List Overrides} (h : ∀ o ∈ layers, field o = none) : LastSaid field before layers before
  | last {below above : List Overrides} {o : Overrides} {a : α} (ho : field o = some a)
      (habove : ∀ x ∈ above, field x = none) : LastSaid field before (below ++ o :: above) a

/-- **Each layer keeps the rule of the last word**, and so does any number of them. -/
theorem lastSaid_foldl {field : Overrides → Option α} {setting : Settings → α}
    (hstep : ∀ o s, setting (apply o s) = (field o).getD (setting s)) : ∀ (layers : List Overrides) (s : Settings),
      LastSaid field (setting s) layers (setting (layers.foldl (fun s o => o.apply s) s))
  | [], s => .never nofun
  | o :: layers, s => by
    have hrest := lastSaid_foldl hstep layers (o.apply s)
    rw [List.foldl_cons]
    generalize setting (layers.foldl (fun s o => o.apply s) (o.apply s)) = after at hrest ⊢
    rw [hstep] at hrest
    cases hrest with
    | never h =>
      cases ho : field o with
      | none => exact .never (List.forall_mem_cons.2 ⟨ho, h⟩)
      | some a => exact @LastSaid.last _ field _ [] layers o a ho h
    | @last below above o' _ ho' habove => exact @LastSaid.last _ field _ (o :: below) above o' _ ho' habove

/-- Each setting is what the last layer that mentions it says, whatever is said of the others. -/
structure Settles (layers : List Overrides) (before after : Settings) : Prop where
  allowDownload : LastSaid (·.allowDownload) before.allowDownload layers after.allowDownload
  systemPath : LastSaid (fun o => o.systemPath.map some) before.systemPath layers after.systemPath
  timeout : LastSaid (·.timeout) before.timeout layers after.timeout
  mirror : LastSaid (·.mirror) before.mirror layers after.mirror

theorem settles_foldl (layers : List Overrides) (s : Settings) :
    Settles layers s (layers.foldl (fun s o => o.apply s) s) where
  allowDownload := lastSaid_foldl (fun _ _ => rfl) layers s
  systemPath := lastSaid_foldl (fun o s => by
    show o.systemPath.or s.systemPath = _
    cases o.systemPath <;> rfl) layers s
  timeout := lastSaid_foldl (fun _ _ => rfl) layers s
  mirror := lastSaid_foldl (fun _ _ => rfl) layers s

end Overrides

/-! ## Loading -/

namespace Settings

variable {fs : FileSystem} {dir : Path} {dirs : List Path} {o : Overrides} {e : SettingsError} {s : Settings}

/-- There is nothing in a directory's settings file but blanks, or there is no such file. -/
inductive IsIdle (fs : FileSystem) (dir : Path) : Prop
  | missing (h : fs.readText (dir.join fileName) = .error (.system .noEntry))
  | blank {text : String} (h : fs.readText (dir.join fileName) = .ok text)
      (hblank : ∀ c ∈ text.toList, Text.isBlank c = true)

/-- A directory adds a layer, which is what its file says. -/
inductive Adds (fs : FileSystem) (dir : Path) : Overrides → Prop
  | idle (h : IsIdle fs dir) : Adds fs dir {}
  | file {text : String} {o : Overrides} (h : fs.readText (dir.join fileName) = .ok text)
      (hwritten : ¬ ∀ c ∈ text.toList, Text.isBlank c = true) (ho : Overrides.IsFileOf text o) : Adds fs dir o

/-- A directory's file makes no layer: it cannot be read, or is no settings file.  The error names it. -/
inductive Refuses (fs : FileSystem) (dir : Path) : SettingsError → Prop
  | unreadable {cause : IoError} (h : fs.readText (dir.join fileName) = .error cause)
      (hthere : cause ≠ .system .noEntry) :
      Refuses fs dir (.unreadable (dir.join fileName) cause)
  | malformed {text : String} {fault : Yaml.Fault} (h : fs.readText (dir.join fileName) = .ok text)
      (hwritten : ¬ ∀ c ∈ text.toList, Text.isBlank c = true) (hfault : Overrides.decodeFile.run text = .error fault) :
      Refuses fs dir (.malformed (dir.join fileName) fault)

theorem isMissing_iff {cause : IoError} : cause.isMissing = true ↔ cause = .system .noEntry := by
  unfold IoError.isMissing
  exact beq_iff_eq

theorem layer_of_written {text : String} (h : fs.readText (dir.join fileName) = .ok text)
    (hwritten : ¬ ∀ c ∈ text.toList, Text.isBlank c = true) :
    layer fs dir = (Overrides.decodeFile.run text).mapError (.malformed (dir.join fileName)) := by
  have hblank : ¬ Text.isAllBlank text.toList = true := fun hall => hwritten (List.all_eq_true.1 hall)
  unfold layer Overrides.ofText?
  dsimp only
  rw [h]
  dsimp only
  rw [if_neg hblank]

theorem IsIdle.layer_eq (h : IsIdle fs dir) : layer fs dir = .ok {} := by
  unfold layer
  dsimp only
  rcases h with h | ⟨h, hblank⟩
  · rw [h]
    rfl
  · rw [h]
    dsimp only
    unfold Overrides.ofText? Text.isAllBlank
    rw [if_pos (List.all_eq_true.2 hblank)]
    rfl

theorem Adds.layer_eq (h : Adds fs dir o) : layer fs dir = .ok o := by
  rcases h with h | ⟨h, hwritten, ho⟩
  · exact h.layer_eq
  · rw [layer_of_written h hwritten, Overrides.run_decodeFile_eq_ok_iff.2 ho]
    rfl

theorem Refuses.layer_eq (h : Refuses fs dir e) : layer fs dir = .error e := by
  rcases h with ⟨h, hthere⟩ | ⟨h, hwritten, hfault⟩
  · unfold layer
    dsimp only
    rw [h]
    dsimp only
    rw [if_neg fun hmissing => hthere (isMissing_iff.1 hmissing)]
  · rw [layer_of_written h hwritten, hfault]
    rfl

/-- Whatever a directory holds, it adds a layer or refuses to. -/
theorem adds_or_refuses (fs : FileSystem) (dir : Path) : (∃ o, Adds fs dir o) ∨ ∃ e, Refuses fs dir e := by
  cases hread : fs.readText (dir.join fileName) with
  | error cause =>
    by_cases hmissing : cause = .system .noEntry
    · rw [hmissing] at hread
      exact Or.inl ⟨_, .idle (.missing hread)⟩
    · exact Or.inr ⟨_, .unreadable hread hmissing⟩
  | ok text =>
    by_cases hblank : ∀ c ∈ text.toList, Text.isBlank c = true
    · exact Or.inl ⟨_, .idle (.blank hread hblank)⟩
    · cases hrun : Overrides.decodeFile.run text with
      | error fault => exact Or.inr ⟨_, .malformed hread hblank hrun⟩
      | ok o => exact Or.inl ⟨o, .file hread hblank (Overrides.run_decodeFile_eq_ok_iff.1 hrun)⟩

theorem Refuses.not_adds (he : Refuses fs dir e) (ho : Adds fs dir o) : False := by
  have hlayer := he.layer_eq
  rw [ho.layer_eq] at hlayer
  cases hlayer

theorem layer_iff (fs : FileSystem) (dir : Path) :
    (∀ o, layer fs dir = .ok o ↔ Adds fs dir o) ∧ ∀ e, layer fs dir = .error e ↔ Refuses fs dir e :=
  eq_iff_of_rules (fun _ => Adds.layer_eq) (fun _ => Refuses.layer_eq) (adds_or_refuses fs dir)

theorem load_eq_ok_iff : load fs dirs = .ok s ↔
    ∃ layers, List.Forall₂ (Adds fs) dirs layers ∧ s = layers.foldl (fun s o => o.apply s) default := by
  unfold load
  simp only [bind_eq_ok_iff, mapM_eq_ok_iff, layer_iff]
  constructor
  · rintro ⟨layers, hlayers, h⟩
    cases h
    exact ⟨layers, hlayers, rfl⟩
  · rintro ⟨layers, hlayers, rfl⟩
    exact ⟨layers, hlayers, rfl⟩

theorem load_eq_error_iff : load fs dirs = .error e ↔ ∃ before dir after, dirs = before ++ dir :: after ∧
    (∀ earlier ∈ before, ∃ o, Adds fs earlier o) ∧ Refuses fs dir e := by
  have hlayers : load fs dirs = .error e ↔ dirs.mapM (layer fs) = .error e := by
    unfold load
    cases dirs.mapM (layer fs) with
    | error e' => exact ⟨fun h => by cases h; rfl, fun h => by cases h; rfl⟩
    | ok layers => exact ⟨nofun, nofun⟩
  rw [hlayers, mapM_eq_error_iff]
  simp only [layer_iff]

theorem load_append {more : List Path} {layers : List Overrides} (h : load fs dirs = .ok s)
    (hmore : List.Forall₂ (Adds fs) more layers) :
    load fs (dirs ++ more) = .ok (layers.foldl (fun s o => o.apply s) s) := by
  obtain ⟨below, hbelow, rfl⟩ := load_eq_ok_iff.1 h
  exact load_eq_ok_iff.2 ⟨below ++ layers, List.rel_append hbelow hmore, List.foldl_append.symm⟩

theorem load_append_error {more : List Path} (h : load fs dirs = .error e) : load fs (dirs ++ more) = .error e := by
  obtain ⟨before, dir, after, rfl, hbefore, hdir⟩ := load_eq_error_iff.1 h
  exact load_eq_error_iff.2 ⟨before, dir, after ++ more, by simp, hbefore, hdir⟩

/-- **Loading the same list again changes nothing.** -/
theorem load_append_self (fs : FileSystem) (dirs : List Path) : load fs (dirs ++ dirs) = load fs dirs := by
  cases h : load fs dirs with
  | error e => exact load_append_error h
  | ok s =>
    obtain ⟨layers, hlayers, rfl⟩ := load_eq_ok_iff.1 h
    rw [load_append h hlayers]
    simp only [Overrides.foldl_apply, Overrides.apply_apply]

/-- **A missing or blank file is not noticed**, wherever its directory stands. -/
theorem load_idle (h : IsIdle fs dir) (before after : List Path) :
    load fs (before ++ dir :: after) = load fs (before ++ after) := by
  unfold load
  rw [List.mapM_append, List.mapM_append, List.mapM_cons, h.layer_eq]
  cases before.mapM (layer fs) with
  | error e => rfl
  | ok below =>
    cases after.mapM (layer fs) with
    | error e => rfl
    | ok above =>
      show Except.ok ((below ++ {} :: above).foldl (fun s o => Overrides.apply o s) default) =
        .ok ((below ++ above).foldl (fun s o => Overrides.apply o s) default)
      rw [List.foldl_append, List.foldl_append, List.foldl_cons, Overrides.apply_empty]

theorem exists_load_iff : (∃ s, load fs dirs = .ok s) ↔ ∀ dir ∈ dirs, ∃ o, Adds fs dir o := by
  constructor
  · rintro ⟨s, h⟩ dir hdir
    obtain ⟨layers, hlayers, -⟩ := bind_eq_ok_iff.1 h
    obtain ⟨o, ho⟩ := exists_ok_of_mem hlayers dir hdir
    exact ⟨o, ((layer_iff fs dir).1 o).1 ho⟩
  · intro h
    cases hload : load fs dirs with
    | ok s => exact ⟨s, rfl⟩
    | error e =>
      obtain ⟨before, dir, after, rfl, -, hdir⟩ := load_eq_error_iff.1 hload
      obtain ⟨o, ho⟩ := h dir (List.mem_append_right _ List.mem_cons_self)
      exact (hdir.not_adds ho).elim

/-- **Of each setting the last word counts**, for every list of directories and whatever is in their files.  If every
file is missing, blank or a settings file, there are settings, and each of the four is by itself what the last file
says that has a value for it, or else the default.  Missing and blank files are not noticed.  More directories lay
their layers on what the first ones have made, and the same ones again change nothing.  If a file cannot be read or is
no settings file, the first such one is the error, whatever is in the others. -/
theorem load_takes_last_word (fs : FileSystem) :
    (∀ dirs, ((∃ s, load fs dirs = .ok s) ↔ ∀ dir ∈ dirs, ∃ o, Adds fs dir o) ∧
      ∀ s, load fs dirs = .ok s →
        ∃ layers, List.Forall₂ (Adds fs) dirs layers ∧ Overrides.Settles layers default s) ∧
    (∀ dir, IsIdle fs dir → ∀ before after, load fs (before ++ dir :: after) = load fs (before ++ after)) ∧
    (∀ dirs s, load fs dirs = .ok s → ∀ more layers, List.Forall₂ (Adds fs) more layers →
      ∃ s', load fs (dirs ++ more) = .ok s' ∧ s' = layers.foldl (fun s o => o.apply s) s ∧
        Overrides.Settles layers s s') ∧
    (∀ dirs, load fs (dirs ++ dirs) = load fs dirs) ∧
    ∀ dirs, ((∀ e, load fs dirs = .error e ↔ ∃ before dir after, dirs = before ++ dir :: after ∧
        (∀ earlier ∈ before, ∃ o, Adds fs earlier o) ∧ Refuses fs dir e) ∧
      ((∃ e, load fs dirs = .error e) ↔ ∃ dir ∈ dirs, ∃ e, Refuses fs dir e)) := by
  refine ⟨fun dirs => ⟨exists_load_iff, fun s h => ?_⟩, fun dir hdir => load_idle hdir,
    fun dirs s h more layers hmore => ⟨_, load_append h hmore, rfl, Overrides.settles_foldl layers s⟩,
    load_append_self fs, fun dirs => ⟨fun e => load_eq_error_iff, ?_, ?_⟩⟩
  · obtain ⟨layers, hlayers, rfl⟩ := load_eq_ok_iff.1 h
    exact ⟨layers, hlayers, Overrides.settles_foldl layers default⟩
  · rintro ⟨e, h⟩
    obtain ⟨before, dir, after, rfl, -, hdir⟩ := load_eq_error_iff.1 h
    exact ⟨dir, List.mem_append_right _ List.mem_cons_self, e, hdir⟩
  · rintro ⟨dir, hmem, e, hdir⟩
    cases h : load fs dirs with
    | error e' => exact ⟨e', rfl⟩
    | ok s =>
      obtain ⟨o, ho⟩ := exists_load_iff.1 ⟨s, h⟩ dir hmem
      exact (hdir.not_adds ho).elim

end Settings

end KubectlMatch
