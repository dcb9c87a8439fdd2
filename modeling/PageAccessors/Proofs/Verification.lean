import PageAccessors.Output
import PageAccessors.Proofs.ManifestText
import PageAccessors.Proofs.Places

/-!
# Verifying files

Whether a file verifies depends on what two paths lead to, its own and that of its manifest
(`verify_eq_ok_iff`). Whatever path leads to a file, its manifest is found at one place
(`Path.Ends.find?_manifest`), so what is promised of the paths below a directory is a promise about
the places below it: each source is sound (`verifiedBelow_iff`, `SoundBelow.unalteredBelow`).
-/

namespace PageAccessors

/-- A manifest in some bytes notes the hash of the text in others. -/
def Pins (beside bytes : ByteArray) : Prop :=
  ∃ text m contents, String.fromUTF8? beside = some text ∧ Manifest.parse text = .ok m ∧
    String.fromUTF8? bytes = some contents ∧ Digest.hex contents = m.outputHash

theorem fromUTF8?_toUTF8 (text : String) : String.fromUTF8? text.toUTF8 = some text := by
  have : text.toUTF8.IsValidUTF8 := text.isValidUTF8
  rw [String.fromUTF8?, dif_pos this]
  rfl

theorem pins_ofContents (p : Path) (contents : String) (provenance : Provenance) :
    Pins (Manifest.ofContents p contents provenance).render.toUTF8 contents.toUTF8 :=
  ⟨_, _, contents, fromUTF8?_toUTF8 _, Manifest.parse_render rfl, fromUTF8?_toUTF8 _, rfl⟩

/-! ## Paths -/

namespace FileTree

variable {t : FileTree} {p : Path} {q : Location}

theorem find?_of_locate (h : t.locate p = .ok q) : t.find? p = t.node? q := by
  rw [find?, h]

theorem exists_locate_of_find? {n : Node} (h : t.find? p = some n) :
    ∃ q, t.locate p = .ok q ∧ t.node? q = some n := by
  unfold find? at h
  split at h
  · rename_i q hl
    exact ⟨q, hl, h⟩
  · cases h

theorem read_eq_ok_iff {bytes : ByteArray} :
    t.read p = .ok bytes ↔ t.find? p = some (.file bytes) := by
  unfold read find?
  cases t.locate p with
  | error e => simp [bind, Except.bind]
  | ok q =>
    rw [Except.ok_bind]
    simp only
    cases t.node? q with
    | none => simp [throw, throwThe, MonadExceptOf.throw]
    | some n => cases n <;> simp [throw, throwThe, MonadExceptOf.throw, pure, Except.pure]

theorem readText_eq_ok_iff {text : String} : t.readText p = .ok text ↔
    ∃ bytes, t.find? p = some (.file bytes) ∧ String.fromUTF8? bytes = some text := by
  rw [readText, Except.bind_eq_ok_iff]
  simp only [read_eq_ok_iff]
  refine exists_congr fun bytes => and_congr_right fun _ => ?_
  cases String.fromUTF8? bytes with
  | none => simp [throw, throwThe, MonadExceptOf.throw]
  | some s => simp [Except.pure_eq_ok_iff]

end FileTree

section

variable {t : FileTree} {p : Path}

theorem Manifest.read_eq_ok_iff {m : Manifest} : Manifest.read t p = .ok m ↔
    ∃ text, t.readText p = .ok text ∧ Manifest.parse text = .ok m := by
  rw [Manifest.read, Except.bind_eq_ok_iff]
  simp only [Except.mapError_eq_ok_iff]

/-- A file verifies if it is one and its manifest pins it. -/
theorem verify_eq_ok_iff : verify t p = .ok () ↔ ∃ beside bytes,
    t.find? p.manifest = some (.file beside) ∧ t.find? p = some (.file bytes) ∧
      Pins beside bytes := by
  unfold verify
  simp only [Except.bind_eq_ok_iff, Except.mapError_eq_ok_iff, Manifest.read_eq_ok_iff,
    FileTree.readText_eq_ok_iff]
  constructor
  · rintro ⟨m, ⟨text, ⟨beside, hb, ht⟩, hm⟩, contents, ⟨bytes, hf, hc⟩, hash⟩
    refine ⟨beside, bytes, hb, hf, text, m, contents, ht, hm, hc, ?_⟩
    by_contra hne
    rw [if_pos hne] at hash
    cases hash
  · rintro ⟨beside, bytes, hb, hf, text, m, contents, ht, hm, hc, hash⟩
    refine ⟨m, ⟨text, ⟨beside, hb, ht⟩, hm⟩, contents, ⟨bytes, hf, hc⟩, ?_⟩
    rw [if_neg (not_not.2 hash)]
    rfl

/-- A file whose text has another hash than its manifest notes is told with both. -/
theorem verify_of_ne {m : Manifest} {text : String} (hm : Manifest.read t p.manifest = .ok m)
    (ht : t.readText p = .ok text) (hne : Digest.hex text ≠ m.outputHash) :
    verify t p = .error (.hashMismatch p m.outputHash (Digest.hex text)) := by
  rw [verify, hm, ht]
  simp only [Except.mapError, Except.ok_bind]
  rw [if_pos hne]
  rfl

/-- Where nothing can be read as the manifest, it is the manifest that is told. -/
theorem verify_of_unread (h : ∀ beside text m, t.find? p.manifest = some (.file beside) →
    String.fromUTF8? beside = some text → Manifest.parse text ≠ .ok m) :
    ∃ fault, verify t p = .error (.unreadableManifest p fault) := by
  cases hm : Manifest.read t p.manifest with
  | error fault =>
    refine ⟨fault, ?_⟩
    rw [verify, hm]
    rfl
  | ok m =>
    obtain ⟨text, ht, parsed⟩ := Manifest.read_eq_ok_iff.1 hm
    obtain ⟨beside, hb, hu⟩ := FileTree.readText_eq_ok_iff.1 ht
    exact absurd parsed (h beside text m hb hu)

/-- Without a manifest that is a file, it is the manifest that cannot be read. -/
theorem verify_of_no_manifest (h : ∀ beside, t.find? p.manifest ≠ some (.file beside)) :
    ∃ fault, verify t p = .error (.unreadableManifest p fault) :=
  verify_of_unread fun beside _ _ hb => absurd hb (h beside)

end

/-! ## Places -/

/-- The place of the manifest of a file. -/
def Location.manifest (q : Location) : Location := manifestName (q.headD "") :: q.tail

/-- What a file has as its manifest; nothing if the name of the manifest is too long for one. -/
def FileTree.beside? (t : FileTree) (q : Location) : Option Node :=
  if (manifestName (q.headD "")).utf8ByteSize ≤ 255 then t.node? q.manifest else none

theorem Path.Ends.manifest_place {p : Path} {front : List String} {name : String}
    (h : p.Ends front name) (home : Location) :
    p.manifest.place home = (p.place home).manifest := by
  rw [h.place_manifest, h.place]
  rfl

theorem Path.Ends.find?_manifest {p : Path} {front : List String} {name : String} {t : FileTree}
    {q : Location} (h : p.Ends front name) (hl : t.locate p = .ok q) :
    t.find? p.manifest = t.beside? q := by
  obtain ⟨-, parent, -, -, -, rfl⟩ := h.locate_eq_ok_iff.1 hl
  rw [FileTree.beside?, Location.manifest, List.headD_cons, List.tail_cons]
  split_ifs with length
  · exact FileTree.find?_of_locate (h.locate_manifest hl length)
  · rw [FileTree.find?, h.locate_manifest_error hl length]

/-- A place with names that files can have. -/
def IsPlace (q : Location) : Prop := ∀ name ∈ q, IsPlain name ∧ name.utf8ByteSize ≤ 255

instance (q : Location) : Decidable (IsPlace q) :=
  inferInstanceAs (Decidable (∀ name ∈ q, IsPlain name ∧ name.utf8ByteSize ≤ 255))

/-- The path from the root to a place. -/
def Location.path (q : Location) : Path := ⟨"" :: q.reverse⟩

/-- A path is the path with its text, if there is no slash in a piece. -/
theorem Path.ofString_text {p : Path} (hne : p.pieces ≠ [])
    (h : ∀ piece ∈ p.pieces, '/' ∉ piece.toList) : Path.ofString p.text = p := by
  have slash : "/".toList = ['/'] := rfl
  rw [Path.ofString, Path.text, String.toList_intercalate, slash, List.splitOn_intercalate]
  · simp [Function.comp_def]
  · simpa using h
  · simpa using hne

/-- There is a way down to what lies below a directory. -/
theorem FileTree.walk_reverse {t : FileTree} {place : Location} : ∀ {q : Location} {n : Node},
    IsPlace q → t.node? (q ++ place) = some n → t.walk place q.reverse = .ok (q ++ place)
  | [], _, _, _ => rfl
  | name :: q, _, hq, hn => by
    obtain ⟨⟨plain, length⟩, hq⟩ := List.forall_mem_cons.1 hq
    have hd := FileTree.node?_tail hn
    rw [List.reverse_cons, walk_append]
    refine ⟨q ++ place, walk_reverse hq hd, walk_cons.2 ⟨hd, length, ?_⟩⟩
    rw [plain.along]
    rfl

theorem FileTree.locate_path {t : FileTree} {q : Location} {n : Node} (hne : q ≠ [])
    (hq : IsPlace q) (hn : t.node? q = some n) : t.locate q.path = .ok q := by
  obtain ⟨first, rest, hr⟩ := List.exists_cons_of_ne_nil (List.reverse_ne_nil_iff.2 hne)
  have absolute : q.path.isAbsolute = true := by
    rw [Location.path, hr]
    rfl
  rw [locate_eq_ok_iff, Path.origin, absolute]
  refine ⟨⟨?_, ?_⟩, ?_⟩
  · rw [Location.path, List.forall_mem_cons]
    exact ⟨by decide, fun piece hm => (hq piece (List.mem_reverse.1 hm)).1.zero⟩
  · rw [Location.path, hr]
    simp [Path.isEmpty]
  · rw [if_pos rfl, Location.path, walk_cons]
    have way : t.walk [] q.reverse = .ok (q ++ []) := t.walk_reverse hq (by rwa [List.append_nil])
    rw [List.append_nil] at way
    exact ⟨rfl, by decide, way⟩

/-! ## Sources below a directory -/

theorem isSourceName_manifestName (name : String) : isSourceName (manifestName name) = false := by
  rw [Bool.eq_false_iff]
  intro h
  obtain ⟨front, h⟩ := List.isSuffixOf_iff_suffix.1 h
  rw [toList_manifestName] at h
  have last := congrArg List.getLast? h
  rw [List.getLast?_append_of_ne_nil _ (by decide), List.getLast?_append_of_ne_nil _ (by decide)]
    at last
  exact absurd last (by decide)

theorem ne_nil_of_isSourceName {q : Location} (h : isSourceName (q.headD "") = true) : q ≠ [] := by
  rintro rfl
  exact absurd h (by decide)

namespace FileTree

/-- Something is true of every path that leads to a source below a directory. -/
def SourcesBelow (t : FileTree) (root : Location) (P : Path → Prop) : Prop :=
  ∀ text q bytes, IsPlace q → t.locate (.ofString text) = .ok q →
    t.node? q = some (.file bytes) → root <:+ q.tail → isSourceName (q.headD "") = true →
    P (.ofString text)

/-- Every source below a directory verifies. -/
def VerifiedBelow (t : FileTree) (root : Location) : Prop :=
  t.SourcesBelow root fun p => verify t p = .ok ()

/-- Every source below a directory verifies, or it has no manifest that could be read: there is
none, or a directory instead. -/
def UnalteredBelow (t : FileTree) (root : Location) : Prop :=
  t.SourcesBelow root fun p => verify t p = .ok () ∨
    (∃ fault, verify t p = .error (.unreadableManifest p fault)) ∧
      (t.find? p.manifest = none ∨ t.find? p.manifest = some .directory)

end FileTree

/-- Bytes are pinned by what is beside them; if `bare`, there may be no file beside them. -/
def Sound (bare : Prop) (bytes : ByteArray) (beside : Option Node) : Prop :=
  (∃ noted, beside = some (.file noted) ∧ Pins noted bytes) ∨
    bare ∧ (beside = none ∨ beside = some .directory)

namespace FileTree

variable {t : FileTree} {root : Location}

/-- Every source below a directory is sound. -/
def SoundBelow (bare : Prop) (t : FileTree) (root : Location) : Prop :=
  ∀ q bytes, IsPlace q → root <:+ q.tail → isSourceName (q.headD "") = true →
    t.node? q = some (.file bytes) → Sound bare bytes (t.beside? q)

theorem SoundBelow.verifiedBelow (h : SoundBelow False t root) : t.VerifiedBelow root := by
  intro text q bytes hp hl hn hr hs
  obtain ⟨front, name, ends, -⟩ := exists_ends_of_locate hl hn
  obtain ⟨noted, hb, pins⟩ := (h q bytes hp hr hs hn).resolve_right (fun hf => hf.1)
  exact verify_eq_ok_iff.2 ⟨noted, bytes, (ends.find?_manifest hl).trans hb,
    (find?_of_locate hl).trans hn, pins⟩

/-- What verifies by a path is sound at its place, since a path leads to every place. -/
theorem verifiedBelow_iff : t.VerifiedBelow root ↔ SoundBelow False t root := by
  refine ⟨fun h q bytes hp hr hs hn => ?_, SoundBelow.verifiedBelow⟩
  have hne : q ≠ [] := by
    rintro rfl
    cases hn
  have hl := locate_path hne hp hn
  have text : Path.ofString q.path.text = q.path := by
    refine Path.ofString_text (List.cons_ne_nil _ _) ?_
    rw [Location.path, List.forall_mem_cons]
    exact ⟨by decide, fun piece hm => (hp piece (List.mem_reverse.1 hm)).1.slash⟩
  rw [← text] at hl
  obtain ⟨front, name, ends, -⟩ := exists_ends_of_locate hl hn
  obtain ⟨beside, bytes', hb, hf, pins⟩ := verify_eq_ok_iff.1 (h _ q bytes hp hl hn hr hs)
  rw [find?_of_locate hl, hn] at hf
  cases hf
  exact .inl ⟨beside, (ends.find?_manifest hl).symm.trans hb, pins⟩

theorem SoundBelow.unalteredBelow {bare : Prop} (h : SoundBelow bare t root) :
    t.UnalteredBelow root := by
  intro text q bytes hp hl hn hr hs
  obtain ⟨front, name, ends, -⟩ := exists_ends_of_locate hl hn
  have hm := ends.find?_manifest hl
  rcases h q bytes hp hr hs hn with ⟨noted, hb, pins⟩ | ⟨-, hb⟩
  · exact .inl (verify_eq_ok_iff.2 ⟨noted, bytes, hm.trans hb, (find?_of_locate hl).trans hn,
      pins⟩)
  · refine .inr ⟨verify_of_no_manifest fun beside hf => ?_, by rwa [hm]⟩
    rw [hm] at hf
    rcases hb with hb | hb
    · rw [hb] at hf
      cases hf
    · rw [hb] at hf
      cases hf

theorem SoundBelow.mono {bare bare' : Prop} (hb : bare → bare') (h : SoundBelow bare t root) :
    SoundBelow bare' t root :=
  fun q bytes hp hr hs hn => (h q bytes hp hr hs hn).imp id (.imp hb id)

end FileTree

end PageAccessors
