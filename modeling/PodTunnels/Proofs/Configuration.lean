import PodTunnels.Config.Store
import PodTunnels.Proofs.Decoding
import PodTunnels.Proofs.JsonText
import PodTunnels.Proofs.TemporaryFile

/-!
# Configurations are kept

A configuration is read back from the text that it is written as (`Config.parse?_render`), whatever
its texts are, whichever of the optional fields are set, and for all timeouts of 64 bits. A save
that succeeds leaves what it has written at the place of the configuration
(`ConfigStore.read_of_save`). If the system did not refuse to write, that is the whole text, and
loading gives what was saved (`ConfigStore.load_save`).

Symbolic links can come between. A link in the place of the temporary file is moved into the place
of the configuration, where it may lead nowhere; and a link in that place is lost by the move, which
may cut off a location that leads through it. So it is asked that the location leads to something
after the save.
-/

namespace PodTunnels.Config

open Json

theorem exact_numbers_json (c : Config) : ∀ n ∈ c.json.numbers, n.Exact := by
  have hseconds (n : UInt64) : (Number.ofNat n.toNat).Exact := Number.exact_ofNat n.toNat_lt_size
  obtain ⟨defaultAddress, ns, kubectlPath, context, readyTimeout, requestTimeout⟩ := c
  cases kubectlPath <;> cases context <;>
    simp [json, ofSeconds, numbers, memberNumbers, hseconds]

theorem seconds_ofNat (n : UInt64) : seconds (.number (.ofNat n.toNat)) = some n := by
  have hnat : (Number.ofNat n.toNat).toNat? = some n.toNat := by
    simp [Number.toNat?, Number.toInt?, Number.ofNat, n.toNat_lt_size]
  simp [seconds, Reader.natBelow, hnat, Option.filter, n.toNat_lt_size]

theorem reader_document_json (c : Config) : reader c.json.document = some c := by
  obtain ⟨defaultAddress, ns, kubectlPath, context, readyTimeout, requestTimeout⟩ := c
  cases kubectlPath <;> cases context <;>
    simp [json, ofSeconds, document, memberDocuments, reader, Document.fields?, fieldNames,
      takeFields, Reader.orDefault, Reader.optional, Reader.text, seconds_ofNat]

/-- The text that a configuration is written as says that configuration. -/
theorem parse?_render (c : Config) : parse? c.render = some c := by
  rw [parse?, render, parse?_pretty (exact_numbers_json c), Option.bind_some, reader_document_json]

end PodTunnels.Config

namespace PodTunnels

open Storage

variable {s : ConfigStore} {faults : Faults} {step : ConfigStep} {c : Config} {fs fs' : FileSystem}
  {bytes : List UInt8} {id : Nat}

theorem Faults.kept_of_none (h : faults .writeTemporary = Option.none) :
    faults.kept bytes = bytes := by
  rw [kept, h]

namespace Saving

variable {α β : Type}

/-- The answer of some work on a file system, and what it leaves. -/
def outcome (x : Saving α) (fs : FileSystem) : Except Failure α × FileSystem :=
  x.run fs

theorem outcome_get_bind (f : FileSystem → Saving α) (fs : FileSystem) :
    outcome (get >>= f) fs = outcome (f fs) fs := rfl

theorem outcome_modify_bind (g : FileSystem → FileSystem) (f : PUnit → Saving α)
    (fs : FileSystem) : outcome (modify g >>= f) fs = outcome (f ⟨⟩) (g fs) := rfl

theorem outcome_bind (x : Saving α) (f : α → Saving β) (fs : FileSystem) :
    outcome (x >>= f) fs = match outcome x fs with
      | (.ok a, mid) => outcome (f a) mid
      | (.error e, mid) => (.error e, mid) := by
  show (match outcome x fs with | (r, mid) => (ExceptT.bindCont f r : StateM _ _) mid) = _
  rcases outcome x fs with ⟨_ | a, mid⟩
  · rfl
  · rfl

theorem outcome_bind_eq_ok_iff {x : Saving α} {f : α → Saving β} {b : β} :
    outcome (x >>= f) fs = (.ok b, fs') ↔
      ∃ a mid, outcome x fs = (.ok a, mid) ∧ outcome (f a) mid = (.ok b, fs') := by
  rw [outcome_bind]
  rcases outcome x fs with ⟨_ | a, mid⟩
  · simp
  · constructor
    · exact fun h => ⟨a, mid, rfl, h⟩
    · rintro ⟨_, _, ⟨rfl, rfl⟩, h⟩
      exact h

end Saving

namespace ConfigStore

open Saving

/-! ## The steps of a save -/

section Steps

variable {α : Type} {a : α}

theorem whole_eq_ok_iff {act : FileSystem → Except String (α × FileSystem)} :
    whole act fs = (.ok a, fs') ↔ act fs = .ok (a, fs') := by
  unfold whole
  cases act fs <;> simp [Prod.ext_iff]

theorem outcome_attempt (faults : Faults) (step : ConfigStep)
    (act : FileSystem → Except String α × FileSystem) (fs : FileSystem) :
    outcome (attempt faults step act) fs = match faults step with
      | some fault => (.error (.config step fault.detail), fs)
      | none => ((act fs).1.mapError (.config step), (act fs).2) := by
  unfold attempt
  cases faults step with
  | some fault => rfl
  | none =>
    simp only [outcome_get_bind]
    rcases act fs with ⟨_ | _, mid⟩
    · rfl
    · rfl

theorem outcome_attempt_eq_ok_iff {act : FileSystem → Except String α × FileSystem} :
    outcome (attempt faults step act) fs = (.ok a, fs') ↔
      faults step = none ∧ act fs = (.ok a, fs') := by
  rw [outcome_attempt]
  cases faults step with
  | some fault => simp
  | none => rcases act fs with ⟨_ | _, mid⟩ <;> simp [Except.mapError]

theorem outcome_write (faults : Faults) (file : Nat) (bytes : List UInt8) (fs : FileSystem) :
    outcome (write faults file bytes) fs =
      (match faults.noticed? bytes.length with
        | some fault => .error (.config .writeTemporary fault.detail)
        | none => .ok (),
      fs.append file (faults.kept bytes)) := by
  unfold write
  rw [outcome_modify_bind]
  cases faults.noticed? bytes.length <;> rfl

theorem outcome_write_eq_ok_iff {u : Unit} :
    outcome (write faults id bytes) fs = (.ok u, fs') ↔
      faults.noticed? bytes.length = none ∧ fs' = fs.append id (faults.kept bytes) := by
  rw [outcome_write]
  cases faults.noticed? bytes.length <;> simp [eq_comm]

end Steps

/-- The steps of a save that come after the making of the directory. -/
def replacing (s : ConfigStore) (faults : Faults) (c : Config) : Saving Unit := do
  let file ← attempt faults .createTemporary
    (whole fun fs => fs.createFile (temporary s.location))
  write faults file (Text.Utf8.encode c.render)
  attempt faults .syncTemporary (whole fun fs => .ok ((), fs))
  attempt faults .rename
    (whole fun fs => (fs.move (temporary s.location) s.location).map fun fs => ((), fs))

theorem saving_eq (s : ConfigStore) (faults : Faults) (c : Config) :
    s.saving faults c = match s.location.parent? with
      | some directory => do
        attempt faults .createDirectory fun fs => fs.makeDirectory directory
        s.replacing faults c
      | none => s.replacing faults c := rfl

def directories (s : ConfigStore) : List Location :=
  (s.location.parent?.map Location.ways).getD []

/-- What a save finds when its directories are made. -/
def ready (s : ConfigStore) (fs : FileSystem) : FileSystem :=
  (fs.makeEach s.directories).2

theorem makeEach_of_makeDirectory {directory : Location} {made : FileSystem}
    (h : fs.makeDirectory directory = (.ok (), made)) :
    fs.makeEach directory.ways = (.ok (), made) := by
  unfold FileSystem.makeDirectory at h
  split at h
  · cases h
  · rcases hmade : fs.makeEach directory.ways with ⟨_ | _, made'⟩
    · rw [hmade] at h
      cases h
    · rw [hmade] at h
      exact h

theorem outcome_replacing_of_save (h : s.save faults c fs = (.ok (), fs')) :
    outcome (s.replacing faults c) (s.ready fs) = (.ok (), fs') := by
  have hsaving : outcome (s.saving faults c) fs = (.ok (), fs') := h
  rw [saving_eq] at hsaving
  unfold ready directories
  split at hsaving
  · rename_i directory hparent
    obtain ⟨_, made, hmade, hrest⟩ := outcome_bind_eq_ok_iff.1 hsaving
    have hall := makeEach_of_makeDirectory (outcome_attempt_eq_ok_iff.1 hmade).2
    rw [hparent, Option.map_some, Option.getD_some, hall]
    exact hrest
  · rename_i hparent
    rw [hparent]
    exact hsaving

theorem map_unit_eq_ok_iff {x : Except String FileSystem} :
    x.map (fun fs => ((), fs)) = .ok ((), fs') ↔ x = .ok fs' := by
  cases x <;> simp [Except.map]

theorem outcome_replacing_eq_ok_iff :
    outcome (s.replacing faults c) fs = (.ok (), fs') ↔ ∃ id begun,
      faults .createTemporary = none ∧ fs.createFile (temporary s.location) = .ok (id, begun) ∧
      faults.noticed? (Text.Utf8.encode c.render).length = none ∧ faults .syncTemporary = none ∧
      faults .rename = none ∧
      (begun.append id (faults.kept (Text.Utf8.encode c.render))).move (temporary s.location)
        s.location = .ok fs' := by
  simp only [replacing, outcome_bind_eq_ok_iff, outcome_attempt_eq_ok_iff, outcome_write_eq_ok_iff,
    whole_eq_ok_iff, map_unit_eq_ok_iff]
  constructor
  · rintro ⟨id, begun, ⟨htemporary, hbegun⟩, -, written, ⟨hnoticed, rfl⟩, -, synced,
      ⟨hsync, ⟨⟩⟩, hrename, hmoved⟩
    exact ⟨id, begun, htemporary, hbegun, hnoticed, hsync, hrename, hmoved⟩
  · rintro ⟨id, begun, htemporary, hbegun, hnoticed, hsync, hrename, hmoved⟩
    exact ⟨id, begun, ⟨htemporary, hbegun⟩, (), _, ⟨hnoticed, rfl⟩, (), _, ⟨hsync, rfl⟩, hrename,
      hmoved⟩

/-- Before its last step, a save that succeeds has a file where the temporary one leads to, with
what it has written. -/
structure Written (s : ConfigStore) (faults : Faults) (c : Config) (made written : FileSystem)
    (id : Nat) : Prop where
  sameBut : ∃ t, made.place (temporary s.location) = .ok t ∧ FileSystem.SameBut t id made written
  file : written.file (temporary s.location) = .ok id
  content : written.content id = faults.kept (Text.Utf8.encode c.render)

theorem written_of_createFile (faults : Faults) (c : Config) {begun : FileSystem}
    (hbegun : fs.createFile (temporary s.location) = .ok (id, begun)) :
    s.Written faults c fs (begun.append id (faults.kept (Text.Utf8.encode c.render))) id := by
  obtain ⟨hnamed, hslash, t, hplace, hopens⟩ := FileSystem.createFile_eq_ok_iff.1 hbegun
  have hsame := hopens.sameBut.append (faults.kept (Text.Utf8.encode c.render))
  refine ⟨⟨t, hplace, hsame⟩, hsame.file hnamed hslash hplace, ?_⟩
  rw [FileSystem.content_append_self, hopens.content, List.nil_append]

theorem exists_written_of_save (h : s.save faults c fs = (.ok (), fs')) :
    ∃ written id, s.Written faults c (s.ready fs) written id ∧
      written.move (temporary s.location) s.location = .ok fs' := by
  obtain ⟨id, begun, -, hbegun, -, -, -, hmoved⟩ :=
    outcome_replacing_eq_ok_iff.1 (outcome_replacing_of_save h)
  exact ⟨_, id, written_of_createFile faults c hbegun, hmoved⟩

/-! ## What is loaded afterwards -/

/-- What a save that succeeds has written is read at the place of the configuration, if anything
is there. -/
theorem read_of_save (h : s.save faults c fs = (.ok (), fs'))
    (hway : fs.Rooted ∨ ¬ (s.ready fs).IsLink (temporary s.location))
    (hthere : s.isThere fs' = true) :
    fs'.read s.location = .ok (faults.kept (Text.Utf8.encode c.render)) := by
  obtain ⟨written, id, hwritten, hmoved⟩ := exists_written_of_save h
  obtain ⟨t, ht, hsame⟩ := hwritten.sameBut
  have hfile := file_of_moved_temporary hmoved hwritten.file
    (hway.imp (fun hrooted => hsame.rooted (hrooted.makeEach _) ht)
      fun hlink hlinked => hlink (hsame.isLink_back hlinked)) hthere
  obtain ⟨p, q, node, -, -, -, -, rfl⟩ := FileSystem.move_eq_ok_iff.1 hmoved
  rw [FileSystem.read_of_file hfile, FileSystem.content_moved, hwritten.content]

/-- The configuration is there if no link came between. -/
theorem isThere_of_save (h : s.save faults c fs = (.ok (), fs'))
    (hlink : ¬ (s.ready fs).IsLink (temporary s.location))
    (hlink' : ¬ (s.ready fs).IsLink s.location) : s.isThere fs' = true := by
  obtain ⟨written, id, hwritten, hmoved⟩ := exists_written_of_save h
  obtain ⟨t, -, hsame⟩ := hwritten.sameBut
  obtain ⟨p, hp, hnode⟩ := FileSystem.exists_entry_of_file
    (fun hlinked => hlink (hsame.isLink_back hlinked)) hwritten.file
  exact FileSystem.holds_of_move hmoved hp hnode
    fun hlinked => hlink' (hsame.isLink_back hlinked)

/-- A file is loaded for what its text says. -/
theorem load_of_read {text : String} (hread : fs.read s.location = .ok (Text.Utf8.encode text))
    (hparse : Config.parse? text = some c) : s.load fs = .ok c := by
  obtain ⟨id, hfile, -⟩ := FileSystem.read_eq_ok_iff.1 hread
  have hthere : s.isThere fs = true := FileSystem.holds_of_file hfile
  simp [load, hthere, hread, Text.Utf8.decode?_encode, hparse]

/-- A save succeeds if no refusal is noticed, the directory can be made, nothing is in the place of
the temporary file, and a file can be moved into that of the configuration. -/
theorem exists_save {directory : Location} {made : FileSystem} {p q : Place}
    (hfaults : ∀ step, step ≠ .writeTemporary → faults step = none)
    (hnoticed : faults.noticed? (Text.Utf8.encode c.render).length = none)
    (hparent : s.location.parent? = some directory)
    (hmade : fs.makeDirectory directory = (.ok (), made))
    (hp : made.entry (temporary s.location) = .ok p) (hfree : made.node? p = none)
    (hslash : (temporary s.location).endsInSlash = false) (hq : made.target s.location = .ok q) :
    ∃ fs', s.save faults c fs = (.ok (), fs') := by
  have hnamed : (temporary s.location).names ≠ [] := by
    obtain ⟨-, before, name, d, hnames, -⟩ := FileSystem.entry_eq_ok_iff.1 hp
    simp [hnames]
  have hbegun := FileSystem.createFile_eq_ok_iff.2
    ⟨hnamed, hslash, p, FileSystem.place_of_entry hp (by simp [hfree]), .added hfree⟩
  let bytes := faults.kept (Text.Utf8.encode c.render)
  have hsame := (FileSystem.Opens.added hfree).sameBut.append bytes
  obtain ⟨hentry, hpoints, hplain, hnot⟩ := FileSystem.target_eq_ok_iff.1 hq
  have htarget := FileSystem.target_eq_ok_iff.2
    ⟨FileSystem.entry_of_waysStay hentry hsame.waysStay, hpoints, hplain, fun hdirectory =>
      hnot (hsame.waysStay_back.node? q .directory trivial hdirectory)⟩
  have hmoved := FileSystem.move_eq_ok_iff.2 ⟨p, q, .file made.fresh,
    FileSystem.entry_of_waysStay hp hsame.waysStay, htarget, hsame.node?_self, nofun, rfl⟩
  have hreplaced := outcome_replacing_eq_ok_iff.2 ⟨made.fresh, _, hfaults _ nofun, hbegun,
    hnoticed, hfaults _ nofun, hfaults _ nofun, hmoved⟩
  refine ⟨FileSystem.moved ((made.addFile p []).append made.fresh bytes) p q (.file made.fresh), ?_⟩
  show outcome (s.saving faults c) fs = _
  rw [saving_eq, hparent]
  exact outcome_bind_eq_ok_iff.2
    ⟨(), made, outcome_attempt_eq_ok_iff.2 ⟨hfaults _ nofun, hmade⟩, hreplaced⟩

/-- The text that is written says the configuration. So where everything stands in a directory, what
is saved is loaded again, if the system did not refuse to write and the place of the configuration
can still be reached, which it can if no link came between; and a configuration that was loaded is
loaded again after it was saved. -/
theorem load_save (s : ConfigStore) (c : Config) :
    Config.parse? c.render = some c ∧
      (∀ faults fs fs', FileSystem.Rooted fs → s.save faults c fs = (.ok (), fs') →
        faults .writeTemporary = none →
          (s.isThere fs' = true →
            fs'.read s.location = .ok (Text.Utf8.encode c.render) ∧ s.load fs' = .ok c) ∧
          (¬ (s.ready fs).IsLink (temporary s.location) → ¬ (s.ready fs).IsLink s.location →
            s.isThere fs' = true)) ∧
      ∀ faults fs fs', FileSystem.Rooted fs → s.load fs = .ok c →
        s.save faults c fs = (.ok (), fs') → faults .writeTemporary = none →
          s.isThere fs' = true → s.load fs' = s.load fs := by
  have hparse := Config.parse?_render c
  have hread (faults : Faults) (fs fs' : FileSystem) (hrooted : fs.Rooted)
      (h : s.save faults c fs = (.ok (), fs')) (hwrite : faults .writeTemporary = none)
      (hthere : s.isThere fs' = true) :
      fs'.read s.location = .ok (Text.Utf8.encode c.render) := by
    rw [read_of_save h (.inl hrooted) hthere, Faults.kept_of_none hwrite]
  refine ⟨hparse, ?_, ?_⟩
  · intro faults fs fs' hrooted h hwrite
    refine ⟨fun hthere => ?_, isThere_of_save h⟩
    have hsaved := hread faults fs fs' hrooted h hwrite hthere
    exact ⟨hsaved, load_of_read hsaved hparse⟩
  · intro faults fs fs' hrooted hload h hwrite hthere
    rw [hload]
    exact load_of_read (hread faults fs fs' hrooted h hwrite hthere) hparse

/-! ## A file in the working directory -/

/-- A store whose file is in the working directory. -/
def nearby : ConfigStore :=
  ⟨"config.json"⟩

/-- A working directory with a configuration file and nothing else. -/
def holding (text : String) : FileSystem :=
  FileSystem.addFile {} ["config.json"] (Text.Utf8.encode text)

theorem location_nearby : nearby.location = { names := ["config.json"] } := by decide +kernel

theorem temporary_nearby : temporary nearby.location = { names := ["config.json.tmp"] } := by
  decide +kernel

theorem parent?_nearby : nearby.location.parent? = some { names := [] } := by
  rw [location_nearby]
  rfl

theorem ready_nearby (fs : FileSystem) : nearby.ready fs = fs := by
  rw [ready, directories, parent?_nearby]
  rfl

theorem entry_nearby (fs : FileSystem) :
    fs.entry nearby.location = .ok (fs.working ++ ["config.json"]) :=
  location_nearby ▸ FileSystem.entry_of_name (by decide) (by decide) (by decide) (by decide)
    (by decide)

theorem entry_temporary_nearby (fs : FileSystem) :
    fs.entry (temporary nearby.location) = .ok (fs.working ++ ["config.json.tmp"]) :=
  temporary_nearby ▸ FileSystem.entry_of_name (by decide) (by decide) (by decide) (by decide)
    (by decide)

theorem node?_holding (text : String) : (holding text).node? ["config.json"] = some (.file 0) :=
  FileSystem.node?_addFile_self (by decide)

theorem node?_temporary_holding (text : String) :
    (holding text).node? ["config.json.tmp"] = none :=
  FileSystem.node?_addFile_of_ne (by decide)

theorem not_isLink_holding (text : String) : ¬ (holding text).IsLink nearby.location :=
  FileSystem.not_isLink_of_entry (entry_nearby _)
    (by simp [show (holding text).working = [] from rfl, node?_holding])

theorem not_isLink_temporary_holding (text : String) :
    ¬ (holding text).IsLink (temporary nearby.location) :=
  FileSystem.not_isLink_of_entry (entry_temporary_nearby _)
    (by simp [show (holding text).working = [] from rfl, node?_temporary_holding])

theorem rooted_holding (text : String) : (holding text).Rooted :=
  FileSystem.rooted_empty.of_but (by decide) (fun _ => FileSystem.node?_addFile_of_ne)
    (.inr ⟨[], "config.json", rfl, by decide⟩)

theorem file_holding (text : String) : (holding text).file nearby.location = .ok 0 :=
  FileSystem.file_eq_ok_iff.2 ⟨by simp [location_nearby], by simp [location_nearby],
    ["config.json"], FileSystem.place_of_not_isLink (not_isLink_holding text) (entry_nearby _),
    node?_holding text⟩

theorem read_holding (text : String) :
    (holding text).read nearby.location = .ok (Text.Utf8.encode text) :=
  FileSystem.read_eq_ok_iff.2 ⟨0, file_holding text, FileSystem.content_addFile_self⟩

theorem exists_save_nearby (text : String)
    (hfaults : ∀ step, step ≠ .writeTemporary → faults step = none)
    (hnoticed : faults.noticed? (Text.Utf8.encode c.render).length = none) :
    ∃ fs', nearby.save faults c (holding text) = (.ok (), fs') := by
  have htarget : (holding text).target nearby.location = .ok ["config.json"] :=
    FileSystem.target_eq_ok_iff.2 ⟨entry_nearby _, by rw [location_nearby]; decide,
      by simp [location_nearby], by simp [node?_holding]⟩
  exact exists_save hfaults hnoticed parent?_nearby rfl (entry_temporary_nearby _)
    (node?_temporary_holding text) (by simp [temporary_nearby]) htarget

/-- A file with a member too many, with escapes in a text, and with most members left out. -/
theorem load_save_escaped :
    ∃ (s : ConfigStore) (text : String) (c : Config) (fs fs' : FileSystem),
      text = "\x7b\"other\": [null], \"namespace\": \"\\\"\\\\\\u001bü\\n\"\x7d" ∧
      c = { ns := "\"\\\x1bü\n" } ∧ fs.Rooted ∧ fs.read s.location = .ok (Text.Utf8.encode text) ∧
      s.load fs = .ok c ∧ s.save Faults.none c fs = (.ok (), fs') ∧ s.isThere fs' = true ∧
      s.load fs' = s.load fs := by
  let text := "\x7b\"other\": [null], \"namespace\": \"\\\"\\\\\\u001bü\\n\"\x7d"
  let c : Config := { ns := "\"\\\x1bü\n" }
  have hload : nearby.load (holding text) = .ok c :=
    load_of_read (read_holding text) (by decide +kernel)
  obtain ⟨fs', hsave⟩ := exists_save_nearby (c := c) text (fun _ _ => rfl) rfl
  have hlink : ¬ (nearby.ready (holding text)).IsLink (temporary nearby.location) := by
    rw [ready_nearby]
    exact not_isLink_temporary_holding text
  have hlink' : ¬ (nearby.ready (holding text)).IsLink nearby.location := by
    rw [ready_nearby]
    exact not_isLink_holding text
  have hrooted := rooted_holding text
  have hthere : nearby.isThere fs' = true :=
    ((load_save nearby c).2.1 Faults.none _ fs' hrooted hsave rfl).2 hlink hlink'
  exact ⟨nearby, text, c, holding text, fs', rfl, rfl, hrooted, read_holding text, hload, hsave,
    hthere, (load_save nearby c).2.2 Faults.none _ fs' hrooted hload hsave rfl hthere⟩

end ConfigStore

end PodTunnels
