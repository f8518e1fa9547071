/-
  Ambient.Proofs.Source.Loading

  What comes of loading. A source brings its document exactly if its text can be read as one
  (`World.load_eq_ok_iff`). Otherwise loading fails, and it says so in its own terms but for a few
  faults, each of which has its condition on the source (`World.load_eq_error_iff`). Loading manifests
  turns the faults of the first kind into those of discovery and lets the others through
  (`Discovery.load_terms`).
-/
import Ambient.Discovery
import Ambient.Proofs.Keeping
import Ambient.Proofs.Source.Placing

namespace Ambient

/-- The faults by which loading tells that a source is missing or has no document. -/
def Fault.IsOwn : Fault → Prop
  | .fileMissing _ | .source _ => True
  | _ => False

/-! ## Targets -/

/-- What a location is taken for. -/
inductive Target where
  | nothing
  /-- A host that no URL can have. -/
  | badHost (cause : HostFault)
  /-- A scheme of the web without a host. -/
  | hostless
  | page
  | file (path : Path)

/-- What a location is taken for. -/
def Target.of (location : String) : Target :=
  if location.isAllBlank then .nothing
  else match Url.parts location with
    | .error cause => .badHost cause
    | .ok url =>
      if url.isWeb then if url.host.isEmpty then .hostless else .page
      else .file (Path.ofText location)

/-- A scheme of the web is not empty. -/
theorem Url.scheme_of_isWeb {url : Url} (h : url.isWeb = true) : url.scheme.isEmpty = false := by
  cases hscheme : url.scheme with
  | nil =>
    rw [isWeb, hscheme] at h
    exact absurd h (by decide)
  | cons c rest => rfl

namespace World

variable {world : World} {location : String}

/-- Loading goes by what a location is taken for. -/
theorem load_eq (world : World) (location : String) :
    world.load location =
      match Target.of location with
      | .nothing => .error (.source .noLocation)
      | .badHost cause => .error (.invalidHost cause)
      | .hostless => .error (.source (.invalidUrl location))
      | .page => ({ source := location, data := · }) <$> answer location (world.response location)
      | .file path => world.loadFile path := by
  rw [load, Target.of]
  by_cases hblank : location.isAllBlank = true
  · rw [if_pos hblank, if_pos hblank]
  rw [if_neg hblank, if_neg hblank, isUrl, loadUrl, Url.ofLocation]
  cases hurl : Url.parts location with
  | error cause => rfl
  | ok url =>
    cases hweb : url.isWeb with
    | false => simp [Except.mapError, bind, Except.bind, hweb]
    | true =>
      simp only [Except.mapError, bind, Except.bind, hweb, Url.scheme_of_isWeb hweb, Bool.false_or,
        if_true]
      cases url.host.isEmpty with
      | true => rfl
      | false => cases answer location (world.response location) <;> rfl

theorem load_of_page (h : Target.of location = .page) :
    world.load location =
      ({ source := location, data := · }) <$> answer location (world.response location) := by
  rw [load_eq, h]

theorem load_of_file {path : Path} (h : Target.of location = .file path) :
    world.load location = world.loadFile path := by
  rw [load_eq, h]

end World

/-! ## Texts in files -/

namespace FileTree

/-- A path leads to a file with some bytes. -/
def HasBytes (tree : FileTree) (path : Path) (bytes : ByteArray) : Prop :=
  ∃ place, tree.placeOf path = .ok place ∧ tree.bytes? place = some bytes

variable {tree : FileTree} {path : Path} {bytes : ByteArray}

theorem HasBytes.contains_eq (h : tree.HasBytes path bytes) : tree.contains path = .ok true := by
  obtain ⟨place, hplace, hbytes⟩ := h
  exact contains_eq_true_iff.mpr ⟨place, hplace, by simp [isFile, hbytes]⟩

theorem HasBytes.read_eq (h : tree.HasBytes path bytes) : tree.read path = decode bytes := by
  obtain ⟨place, hplace, hbytes⟩ := h
  rw [read, hplace]
  dsimp only [bind, Except.bind]
  rw [hbytes]

/-- Something that is no file is not read. -/
theorem read_of_not_hasBytes (hholds : tree.Holds path) (hnone : ∀ bytes, ¬ tree.HasBytes path bytes) :
    ∃ problem, tree.read path = .error (.refused problem path.text) := by
  obtain ⟨place, hplace, -⟩ := hholds
  have hbytes : tree.bytes? place = none :=
    Option.eq_none_iff_forall_ne_some.mpr fun bytes h => hnone bytes ⟨place, hplace, h⟩
  rw [read, hplace]
  dsimp only [bind, Except.bind]
  rw [hbytes]
  dsimp only
  split <;> exact ⟨_, rfl⟩

theorem decode_error {fault : FileFault} (h : decode bytes = .error fault) :
    String.fromUTF8? bytes = none ∧ fault = .undecodable (Utf8.complaint bytes.data.toList) := by
  rw [decode] at h
  split at h
  · cases h
  · rename_i hnone
    cases h
    exact ⟨hnone, rfl⟩

theorem decode_of_fromUTF8?_none (h : String.fromUTF8? bytes = none) :
    decode bytes = .error (.undecodable (Utf8.complaint bytes.data.toList)) := by
  rw [decode, h]

end FileTree

namespace World

/-! ## Documents and faults of sources -/

/-- The document that a source brings: the body of a page that is no failure, or the text of a
file. -/
inductive Brings (world : World) (location : String) : Loaded → Prop where
  | page {status : Int} {body : String} {data : Json} (htarget : Target.of location = .page)
      (hresponse : world.response location = .page status body) (hstatus : isFailure status = false)
      (hdepth : Json.isTooDeep body = false) (hdata : Json.parse body = .ok data) :
      Brings world location { source := location, data }
  | file {path : Path} {bytes : ByteArray} {text : String} {data : Json}
      (htarget : Target.of location = .file path) (hbytes : world.files.HasBytes path bytes)
      (htext : FileTree.decode bytes = .ok text) (hdepth : Json.isTooDeep text = false)
      (hdata : Json.parse text = .ok data) :
      Brings world location { source := path.text, data }

/-- The faults that loading does not tell in its own terms, each with what is wrong with the
source. -/
inductive Strays (world : World) (location : String) : Fault → Prop where
  | badHost {cause : HostFault} (htarget : Target.of location = .badHost cause) :
      Strays world location (.invalidHost cause)
  /-- An error of the protocol is asked for the status of a response that it does not have. -/
  | noResponse (htarget : Target.of location = .page)
      (hresponse : world.response location = .noResponse) :
      Strays world location (.value (.noMember .null "status_code"))
  | deepPage {status : Int} {body : String} (htarget : Target.of location = .page)
      (hresponse : world.response location = .page status body) (hstatus : isFailure status = false)
      (hdepth : Json.isTooDeep body = true) : Strays world location .tooDeep
  | longName {path : Path} {text : String} (htarget : Target.of location = .file path)
      (hlong : world.files.placeOf path = .error (.refused .nameTooLong text)) :
      Strays world location (.file (.refused .nameTooLong text))
  | undecodable {path : Path} {bytes : ByteArray} (htarget : Target.of location = .file path)
      (hbytes : world.files.HasBytes path bytes) (hutf8 : String.fromUTF8? bytes = none) :
      Strays world location (.file (.undecodable (Utf8.complaint bytes.data.toList)))
  | deepFile {path : Path} {bytes : ByteArray} {text : String}
      (htarget : Target.of location = .file path) (hbytes : world.files.HasBytes path bytes)
      (htext : FileTree.decode bytes = .ok text) (hdepth : Json.isTooDeep text = true) :
      Strays world location .tooDeep
  | manyDigits {path : Path} {bytes : ByteArray} {text : String} {count : Nat}
      (htarget : Target.of location = .file path) (hbytes : world.files.HasBytes path bytes)
      (htext : FileTree.decode bytes = .ok text) (hdepth : Json.isTooDeep text = false)
      (hdata : Json.parse text = .error (.tooManyDigits count)) :
      Strays world location (.tooManyDigits count)

variable {world : World} {location : String}

theorem Strays.not_isOwn {fault : Fault} (h : world.Strays location fault) : ¬ fault.IsOwn := by
  cases h <;> exact id

/-! ## Faults from sources -/

theorem loadFile_of_text {path : Path} {bytes : ByteArray} {text : String}
    (hbytes : world.files.HasBytes path bytes) (htext : FileTree.decode bytes = .ok text) :
    world.loadFile path =
      if Json.isTooDeep text then .error .tooDeep
      else match Json.parse text with
        | .ok data => .ok { source := path.text, data }
        | .error (.tooManyDigits count) => .error (.tooManyDigits count)
        | .error fault => .error (.source (.malformedFile path.text fault.message)) := by
  rw [loadFile, hbytes.contains_eq, hbytes.read_eq, htext]
  rfl

/-- A source brings its document. -/
theorem Brings.load_eq {loaded : Loaded} (h : world.Brings location loaded) :
    world.load location = .ok loaded := by
  cases h with
  | page htarget hresponse hstatus hdepth hdata =>
    rw [load_of_page htarget, hresponse, answer, hstatus, documentOf, hdepth, hdata]
    rfl
  | file htarget hbytes htext hdepth hdata =>
    rw [load_of_file htarget, loadFile_of_text hbytes htext, hdepth, hdata]
    rfl

theorem Strays.load_eq {fault : Fault} (h : world.Strays location fault) :
    world.load location = .error fault := by
  -- one stage of loading for each cause, and what comes before that stage succeeds
  cases h with
  | badHost htarget => rw [World.load_eq, htarget]
  | noResponse htarget hresponse =>
    rw [load_of_page htarget, hresponse]
    rfl
  | deepPage htarget hresponse hstatus hdepth =>
    rw [load_of_page htarget, hresponse, answer, hstatus, documentOf, hdepth]
    rfl
  | longName htarget hlong =>
    rw [load_of_file htarget, loadFile, FileTree.contains, hlong]
    rfl
  | undecodable htarget hbytes hutf8 =>
    rw [load_of_file htarget, loadFile, hbytes.contains_eq, hbytes.read_eq,
      FileTree.decode_of_fromUTF8?_none hutf8]
    rfl
  | deepFile htarget hbytes htext hdepth =>
    rw [load_of_file htarget, loadFile_of_text hbytes htext, hdepth]
    rfl
  | manyDigits htarget hbytes htext hdepth hdata =>
    rw [load_of_file htarget, loadFile_of_text hbytes htext, hdepth, hdata]
    rfl

/-! ## Outcomes -/

/-- A source brings its document, or it is told in terms of loading what is wrong with it, or the
fault is one of those that stray. -/
inductive Outcome (world : World) (location : String) : Except Fault Loaded → Prop where
  | loaded {loaded : Loaded} (h : world.Brings location loaded) : Outcome world location (.ok loaded)
  | own {fault : Fault} (h : fault.IsOwn) : Outcome world location (.error fault)
  | stray {fault : Fault} (h : world.Strays location fault) : Outcome world location (.error fault)

theorem outcome_page (htarget : Target.of location = .page) :
    world.Outcome location
      (({ source := location, data := · }) <$> answer location (world.response location)) := by
  cases hresponse : world.response location with
  | timeout | noConnection | failed reason => exact .own trivial
  | noResponse => exact .stray (.noResponse htarget hresponse)
  | refusedBody status reason =>
    rw [answer]
    split <;> exact .own trivial
  | page status body =>
    rw [answer]
    cases hstatus : isFailure status with
    | true => exact .own trivial
    | false =>
      rw [documentOf]
      cases hdepth : Json.isTooDeep body with
      | true => exact .stray (.deepPage htarget hresponse hstatus hdepth)
      | false =>
        cases hdata : Json.parse body with
        | ok data => exact .loaded (.page htarget hresponse hstatus hdepth hdata)
        | error fault => cases fault <;> exact .own trivial

theorem outcome_text {path : Path} {bytes : ByteArray} {text : String}
    (htarget : Target.of location = .file path) (hbytes : world.files.HasBytes path bytes)
    (htext : FileTree.decode bytes = .ok text) : world.Outcome location (world.loadFile path) := by
  rw [loadFile_of_text hbytes htext]
  cases hdepth : Json.isTooDeep text with
  | true => exact .stray (.deepFile htarget hbytes htext hdepth)
  | false =>
    cases hdata : Json.parse text with
    | ok data => exact .loaded (.file htarget hbytes htext hdepth hdata)
    | error fault =>
      cases fault with
      | tooManyDigits count => exact .stray (.manyDigits htarget hbytes htext hdepth hdata)
      | malformed problem line column position => exact .own trivial

theorem outcome_file {path : Path} (htarget : Target.of location = .file path) :
    world.Outcome location (world.loadFile path) := by
  by_cases hbytes : ∃ bytes, world.files.HasBytes path bytes
  · obtain ⟨bytes, hbytes⟩ := hbytes
    cases htext : FileTree.decode bytes with
    | ok text => exact outcome_text htarget hbytes htext
    | error fault =>
      obtain ⟨hutf8, rfl⟩ := FileTree.decode_error htext
      have hstray : world.Strays location _ := .undecodable htarget hbytes hutf8
      rw [← load_of_file htarget, hstray.load_eq]
      exact .stray hstray
  rw [loadFile]
  cases hpresent : world.files.contains path with
  | error fault =>
    obtain ⟨text, rfl, hplace⟩ := FileTree.contains_eq_error hpresent
    exact .stray (.longName htarget hplace)
  | ok present =>
    cases present with
    | false => exact .own trivial
    | true =>
      -- there is something, but no file
      obtain ⟨problem, hread⟩ := FileTree.read_of_not_hasBytes
        (FileTree.contains_eq_true_iff.mp hpresent) (not_exists.mp hbytes)
      rw [hread]
      exact .own trivial

theorem outcome_load (world : World) (location : String) :
    world.Outcome location (world.load location) := by
  rw [load_eq]
  cases htarget : Target.of location with
  | nothing | hostless => exact .own trivial
  | badHost cause => exact .stray (.badHost htarget)
  | page => exact outcome_page htarget
  | file path => exact outcome_file htarget

/-- A document is loaded exactly if the source brings it. -/
theorem load_eq_ok_iff {loaded : Loaded} :
    world.load location = .ok loaded ↔ world.Brings location loaded := by
  refine ⟨fun hload => ?_, Brings.load_eq⟩
  have houtcome := world.outcome_load location
  rw [hload] at houtcome
  cases houtcome with
  | loaded h => exact h

/-- A fault that is not in terms of loading comes exactly from a source with which something is wrong
that loading has no term for. -/
theorem load_eq_error_iff {fault : Fault} (h : ¬ fault.IsOwn) :
    world.load location = .error fault ↔ world.Strays location fault := by
  refine ⟨fun hload => ?_, Strays.load_eq⟩
  have houtcome := world.outcome_load location
  rw [hload] at houtcome
  cases houtcome with
  | own hown => exact (h hown).elim
  | stray hstray => exact hstray

/-- Where nothing strays, loading brings the document of the source or fails in its own terms. -/
theorem load_of_not_strays (h : ∀ fault, ¬ world.Strays location fault) :
    (∃ loaded, world.load location = .ok loaded ∧ world.Brings location loaded) ∨
      ∃ fault, world.load location = .error fault ∧ fault.IsOwn := by
  cases hload : world.load location with
  | ok loaded => exact .inl ⟨loaded, rfl, load_eq_ok_iff.mp hload⟩
  | error fault =>
    by_cases hown : fault.IsOwn
    · exact .inr ⟨fault, rfl, hown⟩
    · exact (h fault ((load_eq_error_iff hown).mp hload)).elim

end World

/-! ## Manifests -/

namespace Discovery

variable {world : World} {config : Config}

theorem symbolsOfLocation_of_load {location : Json} {place : String} {fault : Fault}
    (hplace : resolveLocation (workingDirectory world) config.baseDirectory location = .ok place)
    (hload : world.load place = .error fault) :
    symbolsOfLocation world config location = .error (loadFault place fault) := by
  rw [symbolsOfLocation, hplace]
  dsimp only [bind, Except.bind]
  rw [symbolsAt, hload]
  rfl

/-- A location that no URL can have is found out when it is resolved. -/
theorem symbolsOfLocation_of_badHost {location : Json} {cause : HostFault}
    (h : Url.parts location.text = .error cause) :
    symbolsOfLocation world config location = .error (.invalidHost cause) := by
  rw [symbolsOfLocation, resolveLocation, isUrl, Url.ofLocation, h]
  rfl

/-- The first location without symbols ends the loading of manifests. -/
theorem loadManifests_error {before : List Json} {location : Json} {fault : Fault}
    (hbefore : ∀ l ∈ before, ∃ symbols, symbolsOfLocation world config l = .ok symbols)
    (h : symbolsOfLocation world config location = .error fault) (rest : List Json) :
    loadManifests world config (before ++ location :: rest) = .error fault := by
  induction before with
  | nil =>
    rw [List.nil_append, loadManifests, h]
    rfl
  | cons first others ih =>
    obtain ⟨⟨symbols, hfirst⟩, hothers⟩ := List.forall_mem_cons.mp hbefore
    rw [List.cons_append, loadManifests, hfirst, ih hothers]
    rfl

theorem loadFault_of_not_isOwn {fault : Fault} (h : ¬ fault.IsOwn) (place : String) :
    loadFault place fault = fault := by
  cases fault <;> first | rfl | exact (h trivial).elim

/-- Where nothing strays, loading brings the document of the source or fails in its own terms; what
strays is not in its terms. Manifests after others that are loaded fail with the fault of discovery
for the one, and with the fault itself for the other. -/
theorem load_terms (world : World) (config : Config) :
    (∀ location,
      ((∀ fault, ¬ world.Strays location fault) →
        (∃ loaded, world.load location = .ok loaded ∧ world.Brings location loaded) ∨
          ∃ fault, world.load location = .error fault ∧ fault.IsOwn) ∧
      ∀ fault, world.Strays location fault →
        world.load location = .error fault ∧ ¬ fault.IsOwn) ∧
    ∀ before location rest,
      (∀ l ∈ before, ∃ symbols, symbolsOfLocation world config l = .ok symbols) →
      (∀ place,
        resolveLocation (workingDirectory world) config.baseDirectory location = .ok place →
        (∀ path, world.load place = .error (.fileMissing path) →
          loadManifests world config (before ++ location :: rest) =
            .error (.discovery (.notFound place))) ∧
        (∀ cause, world.load place = .error (.source cause) →
          loadManifests world config (before ++ location :: rest) =
            .error (.discovery (.notLoaded place cause))) ∧
        ∀ fault, world.Strays place fault →
          loadManifests world config (before ++ location :: rest) = .error fault) ∧
      ∀ cause, Url.parts location.text = .error cause →
        loadManifests world config (before ++ location :: rest) = .error (.invalidHost cause) := by
  refine ⟨fun location => ⟨World.load_of_not_strays,
      fun fault hstray => ⟨hstray.load_eq, hstray.not_isOwn⟩⟩,
    fun before location rest hbefore => ⟨fun place hplace => ⟨fun path hload => ?_,
      fun cause hload => ?_, fun fault hstray => ?_⟩, fun cause hhost => ?_⟩⟩
  · exact loadManifests_error hbefore (symbolsOfLocation_of_load hplace hload) rest
  · exact loadManifests_error hbefore (symbolsOfLocation_of_load hplace hload) rest
  · -- what strays is let through as it is
    have hfault := symbolsOfLocation_of_load hplace hstray.load_eq
    rw [loadFault_of_not_isOwn hstray.not_isOwn] at hfault
    exact loadManifests_error hbefore hfault rest
  · exact loadManifests_error hbefore (symbolsOfLocation_of_badHost hhost) rest

/-- A file with a manifest, one with a list that is not closed, and one with a byte that no text
has. -/
def unevenFiles : FileTree where
  files := [(["a.json"], ⟨#[0x5B, 0x5D]⟩), (["b.json"], ⟨#[0x5B]⟩), (["c.json"], ⟨#[0xFF]⟩)]

/-- A list that is not closed is a fault of discovery, and what is no text is a fault from outside of
it. -/
theorem load_terms_uneven :
    (∃ fault, World.load { files := unevenFiles } "/b.json" = .error fault ∧ fault.IsOwn) ∧
      (∃ cause, loadManifests { files := unevenFiles } {} [.str "/a.json", .str "/b.json"] =
        .error (.discovery (.notLoaded "/b.json" cause))) ∧
      loadManifests { files := unevenFiles } {} [.str "/a.json", .str "/c.json"] =
        .error (.file (.undecodable (Utf8.complaint [0xFF]))) := by
  obtain ⟨hlocations, hmanifests⟩ := load_terms { files := unevenFiles } {}
  have hload : World.load { files := unevenFiles } "/b.json" =
      .error (.source (.malformedFile "/b.json" "Expecting value: line 1 column 2 (char 1)")) := rfl
  have hbefore : ∀ l ∈ [Json.str "/a.json"], ∃ symbols,
      symbolsOfLocation { files := unevenFiles } {} l = .ok symbols := by
    rintro l hl
    rw [List.mem_singleton.mp hl]
    exact ⟨[], rfl⟩
  have hstray : World.Strays { files := unevenFiles } "/c.json"
      (.file (.undecodable (Utf8.complaint [0xFF]))) :=
    @World.Strays.undecodable _ _ (Path.ofText "/c.json") ⟨#[0xFF]⟩ rfl ⟨["c.json"], rfl, rfl⟩ rfl
  refine ⟨?_, ⟨_, ((hmanifests _ (.str "/b.json") [] hbefore).1 "/b.json" rfl).2.1 _ hload⟩,
    ((hmanifests _ (.str "/c.json") [] hbefore).1 "/c.json" rfl).2.2 _ hstray⟩
  refine ((hlocations "/b.json").1 fun fault h => ?_).resolve_left ?_
  · -- what strays is not in terms of loading, but this fault is
    have hown := h.not_isOwn
    rw [Except.error.inj (h.load_eq.symm.trans hload)] at hown
    exact hown trivial
  · rintro ⟨loaded, hok, -⟩
    rw [hload] at hok
    cases hok

/-- A byte that no text has is not told in terms of loading. -/
theorem load_undecodable :
    World.load { files := { files := [(["a.json"], ⟨#[0xFF]⟩)] } } "a.json" =
      .error (.file (.undecodable (Utf8.complaint [0xFF]))) ∧
    ¬ (Fault.file (.undecodable (Utf8.complaint [0xFF]))).IsOwn :=
  ⟨rfl, id⟩

end Discovery

end Ambient
