import PageAccessors.Proofs.YamlBlank
import PageAccessors.Proofs.YamlNames
import PageAccessors.Proofs.YamlText
import PageAccessors.Settings

/-!
# Settings in files

A settings file is a record of settings in any order, with other keys among them (`Holds`). Its
fields are read one after the other (`exists_reads_fields`). Some are set at once; those that belong
to the options are kept until the end, and so is every field that is not known, since until then
nobody knows what is an option (`reads_later`). What the file sets in the end is what its fields say
(`ofText_of_holds`).
-/

namespace PageAccessors

namespace Yaml.Document

variable (d : Document)

/-- The fields of the record that a document holds. -/
def fields : List (Node × Node) :=
  match d.meant d.root with
  | some (.record _ fields) => fields
  | _ => []

/-- The text that a node is or stands for. -/
def text? (node : Node) : Option String :=
  match d.meant node with
  | some (.scalar _ _ text) => some text
  | _ => none

/-- How the text is written that a node is or stands for. -/
def style? (node : Node) : Option Style :=
  match d.meant node with
  | some (.scalar _ style _) => some style
  | _ => none

end Yaml.Document

namespace Settings

open Yaml (Document Place Reading Reads Value)

/-- What a key of a settings file says. -/
inductive Setting where
  | verbosity (v : Verbosity)
  | color (c : ColorChoice)
  | jobs (n : Nat)
  | failFast (b : Bool)
  | output (text : String)
  | manifests (b : Bool)
  | runtimePackage (s : String)
  | header (s : String)
  | other (key : String) (v : Value)

def knownKeys : List String :=
  ["verbosity", "color", "parallel_jobs", "fail_fast", "output_dir", "manifest", "runtime_package",
    "header"]

namespace Setting

def key : Setting → String
  | verbosity _ => "verbosity"
  | color _ => "color"
  | jobs _ => "parallel_jobs"
  | failFast _ => "fail_fast"
  | output _ => "output_dir"
  | manifests _ => "manifest"
  | runtimePackage _ => "runtime_package"
  | header _ => "header"
  | other key _ => key

/-- How a setting is said. A name may be said by a text, or by the tag of nothing. -/
inductive IsValue : Setting → Value → Prop
  | verbosity (v : Verbosity) : IsValue (verbosity v) (.scalar (.text v.name))
  | verbosityTag (v : Verbosity) : IsValue (verbosity v) (.tagged v.name (.scalar .null))
  | color (c : ColorChoice) : IsValue (color c) (.scalar (.text c.name))
  | colorTag (c : ColorChoice) : IsValue (color c) (.tagged c.name (.scalar .null))
  | jobs (n : Nat) : IsValue (jobs n) (.scalar (.natural n))
  | failFast (b : Bool) : IsValue (failFast b) (.scalar (.bool b))
  | output (text : String) : IsValue (output text) (.scalar (.text text))
  | manifests (b : Bool) : IsValue (manifests b) (.scalar (.bool b))
  | runtimePackage (s : String) : IsValue (runtimePackage s) (.scalar (.text s))
  | header (s : String) : IsValue (header s) (.scalar (.text s))
  | other {key : String} (h : key ∉ knownKeys) (v : Value) : IsValue (other key v) v

/-- A field that says a setting. -/
def IsField (e : Setting) (field : Value × Value) : Prop :=
  field.1 = .scalar (.text e.key) ∧ e.IsValue field.2

/-- The layer that a setting is by itself. -/
def layer : Setting → Layer
  | verbosity v => { verbosity := some v }
  | color c => { color := some c }
  | jobs n => { jobs := some n }
  | failFast b => { failFast := some b }
  | output text => { output := some (.ofString text) }
  | manifests b => { manifests := some b }
  | runtimePackage s => { runtimePackage := some s }
  | header s => { header := some s }
  | other _ _ => {}

end Setting

/-- The layer of some settings. -/
def Layer.ofSettings (es : List Setting) : Layer where
  verbosity := es.findSome? (·.layer.verbosity)
  color := es.findSome? (·.layer.color)
  jobs := es.findSome? (·.layer.jobs)
  failFast := es.findSome? (·.layer.failFast)
  output := es.findSome? (·.layer.output)
  manifests := es.findSome? (·.layer.manifests)
  runtimePackage := es.findSome? (·.layer.runtimePackage)
  header := es.findSome? (·.layer.header)

/-- A record that holds some settings in any order, each known one once. -/
structure Holds (v : Value) (es : List Setting) : Prop where
  fields : ∃ fields, v.bare = .record fields ∧ List.Forall₂ Setting.IsField es fields
  once : es.Pairwise fun a b => a.key = b.key → a.key ∉ knownKeys

/-! ## Reading one field -/

/-- The layer with what another one sets besides. -/
def Layer.or (l l' : Layer) : Layer where
  verbosity := l.verbosity.or l'.verbosity
  color := l.color.or l'.color
  jobs := l.jobs.or l'.jobs
  failFast := l.failFast.or l'.failFast
  output := l.output.or l'.output
  manifests := l.manifests.or l'.manifests
  runtimePackage := l.runtimePackage.or l'.runtimePackage
  header := l.header.or l'.header

/-- Whether a field is only judged at the end. -/
def Setting.isLater : Setting → Bool
  | .runtimePackage _ => true
  | .header _ => true
  | .other _ _ => true
  | _ => false

/-- What is kept of a field until the end. -/
inductive Setting.Keeps : Setting → List (String × Data) → Prop
  | early {e : Setting} (h : e.isLater = false) : Keeps e []
  | runtimePackage (s : String) : Keeps (.runtimePackage s) [("runtime_package", .text s)]
  | header (s : String) : Keeps (.header s) [("header", .text s)]
  | other (key : String) (v : Value) (data : Data) : Keeps (.other key v) [(key, data)]

/-- The part of a setting's layer that is set at once. -/
def Setting.early : Setting → Layer
  | runtimePackage _ => {}
  | header _ => {}
  | e => e.layer

/-- The part of a setting's layer that is set at the end. -/
def Setting.late : Setting → Layer
  | runtimePackage s => { runtimePackage := some s }
  | header s => { header := some s }
  | _ => {}

/-- Whether a layer leaves open what a setting says. -/
def Setting.Fresh (l : Layer) : Setting → Prop
  | .verbosity _ => l.verbosity = none
  | .color _ => l.color = none
  | .jobs _ => l.jobs = none
  | .failFast _ => l.failFast = none
  | .output _ => l.output = none
  | .manifests _ => l.manifests = none
  | .runtimePackage _ => l.runtimePackage = none
  | .header _ => l.header = none
  | .other _ _ => True

variable {d : Document} {n m : Nat}

theorem reads_setOnce {α : Type} {name : String} {read : Reading α} {a : α}
    (h : Reads read d n a m) : Reads (setOnce name none read) d n (some a) m :=
  Yaml.reads_map.2 ⟨a, h, rfl⟩

theorem Verbosity.lookup_name (v : Verbosity) :
    (Verbosity.all.map fun v => (v.name, v)).lookup v.name = some v := by
  cases v <;> rfl

theorem ColorChoice.lookup_name (c : ColorChoice) :
    (ColorChoice.all.map fun c => (c.name, c)).lookup c.name = some c := by
  cases c <;> rfl

/-- A field that is not set at once is kept for the end. -/
theorem reads_readField_later {key value : Yaml.Node} {name : String} {data : Data} {k : Nat}
    (hn : name ∉ ["verbosity", "color", "parallel_jobs", "fail_fast", "output_dir", "manifest"])
    (hk : Reads (Yaml.textField "field identifier" .root key) d n name k)
    (hv : Reads (Yaml.dataOf (Yaml.depthLimit - 1) (Place.root.ofKey key) value) d k data m)
    (p : Progress) :
    Reads (readField p (key, value)) d n { p with later := p.later ++ [(name, data)] } m := by
  simp only [List.mem_cons, List.not_mem_nil, or_false, not_or] at hn
  simp only [readField, Yaml.reads_bind]
  refine ⟨_, _, hk, ?_⟩
  split
  case h_7 => exact Yaml.reads_bind.2 ⟨data, m, hv, Yaml.reads_pure.2 ⟨rfl, rfl⟩⟩
  all_goals simp_all

/-- A field is read, and what it says is set or kept for the end. -/
theorem reads_readField {e : Setting} {key value : Yaml.Node} {field : Value × Value}
    {k : Nat} (he : e.IsField field)
    (hk : Reads (Yaml.valueOf (Yaml.depthLimit - 1) key) d n field.1 k)
    (hv : Reads (Yaml.valueOf (Yaml.depthLimit - 1) value) d k field.2 m)
    (untagged : ∀ key v, e = .other key v → v.Untagged)
    (unquoted : e.key ∈ ["parallel_jobs", "fail_fast", "manifest"] → d.style? value ≠ some .other)
    {p : Progress} (fresh : e.Fresh p.layer) :
    ∃ kept, e.Keeps kept ∧
      Reads (readField p (key, value)) d n ⟨p.layer.or e.early, p.later ++ kept⟩ m := by
  obtain ⟨hname, he⟩ := he
  rw [hname] at hk
  generalize field.2 = v at he hv
  have name := Yaml.reads_textField "field identifier" .root hk
  have quoted (h : e.key ∈ ["parallel_jobs", "fail_fast", "manifest"]) (tag : Option String)
      (text : String) : d.meant value ≠ some (.scalar tag .other text) := fun hm =>
    unquoted h (by rw [Document.style?, hm])
  obtain ⟨l, later⟩ := p
  have keep {name : String} {data : Data}
      (hn : name ∉ ["verbosity", "color", "parallel_jobs", "fail_fast", "output_dir", "manifest"])
      (hk : Reads (Yaml.textField "field identifier" .root key) d n name k)
      (hv : Reads (Yaml.dataOf (Yaml.depthLimit - 1) (Place.root.ofKey key) value) d k data m) :
      Reads (readField ⟨l, later⟩ (key, value)) d n ⟨l.or {}, later ++ [(name, data)]⟩ m := by
    have := reads_readField_later hn hk hv ⟨l, later⟩
    simpa [Layer.or] using this
  cases e with
  | verbosity v =>
    have read : Reads (Yaml.variantField (Verbosity.all.map fun v => (v.name, v))
        (Place.root.ofKey key) value) d k v m := by
      cases he with
      | verbosity => exact Yaml.reads_variantField_text (Verbosity.lookup_name v) hv
      | verbosityTag => exact Yaml.reads_variantField_tag (Verbosity.lookup_name v) hv
    have fresh : l.verbosity = none := fresh
    refine ⟨[], .early rfl, ?_⟩
    simp only [readField, Yaml.reads_bind]
    refine ⟨_, _, name, ?_⟩
    simp only [Setting.key, fresh, Yaml.reads_bind]
    exact ⟨_, _, reads_setOnce read, by simp [Layer.or, Setting.early, Setting.layer, fresh]⟩
  | color c =>
    have read : Reads (Yaml.variantField (ColorChoice.all.map fun c => (c.name, c))
        (Place.root.ofKey key) value) d k c m := by
      cases he with
      | color => exact Yaml.reads_variantField_text (ColorChoice.lookup_name c) hv
      | colorTag => exact Yaml.reads_variantField_tag (ColorChoice.lookup_name c) hv
    have fresh : l.color = none := fresh
    refine ⟨[], .early rfl, ?_⟩
    simp only [readField, Yaml.reads_bind]
    refine ⟨_, _, name, ?_⟩
    simp only [Setting.key, fresh, Yaml.reads_bind]
    exact ⟨_, _, reads_setOnce read, by simp [Layer.or, Setting.early, Setting.layer, fresh]⟩
  | jobs j =>
    cases he
    have read := Yaml.reads_naturalField (Place.root.ofKey key) (quoted (by simp [Setting.key])) hv
    have fresh : l.jobs = none := fresh
    refine ⟨[], .early rfl, ?_⟩
    simp only [readField, Yaml.reads_bind]
    refine ⟨_, _, name, ?_⟩
    simp only [Setting.key, fresh, Yaml.reads_bind]
    exact ⟨_, _, reads_setOnce read, by simp [Layer.or, Setting.early, Setting.layer, fresh]⟩
  | failFast b =>
    cases he
    have read := Yaml.reads_boolField (Place.root.ofKey key) (quoted (by simp [Setting.key])) hv
    have fresh : l.failFast = none := fresh
    refine ⟨[], .early rfl, ?_⟩
    simp only [readField, Yaml.reads_bind]
    refine ⟨_, _, name, ?_⟩
    simp only [Setting.key, fresh, Yaml.reads_bind]
    exact ⟨_, _, reads_setOnce read, by simp [Layer.or, Setting.early, Setting.layer, fresh]⟩
  | output text =>
    cases he
    have read := Yaml.reads_textField "path string" (Place.root.ofKey key) hv
    have fresh : l.output = none := fresh
    refine ⟨[], .early rfl, ?_⟩
    simp only [readField, Yaml.reads_bind]
    refine ⟨_, _, name, ?_⟩
    simp only [Setting.key, fresh, Yaml.reads_bind]
    exact ⟨_, _, reads_setOnce (Yaml.reads_map.2 ⟨_, read, rfl⟩),
      by simp [Layer.or, Setting.early, Setting.layer, fresh]⟩
  | manifests b =>
    cases he
    have read := Yaml.reads_boolField (Place.root.ofKey key) (quoted (by simp [Setting.key])) hv
    have fresh : l.manifests = none := fresh
    refine ⟨[], .early rfl, ?_⟩
    simp only [readField, Yaml.reads_bind]
    refine ⟨_, _, name, ?_⟩
    simp only [Setting.key, fresh, Yaml.reads_bind]
    exact ⟨_, _, reads_setOnce read, by simp [Layer.or, Setting.early, Setting.layer, fresh]⟩
  | runtimePackage s =>
    cases he
    have read := Yaml.reads_dataOf_scalar (Place.root.ofKey key) hv
    exact ⟨_, .runtimePackage s, keep (by decide) name read⟩
  | header s =>
    cases he
    have read := Yaml.reads_dataOf_scalar (Place.root.ofKey key) hv
    exact ⟨_, .header s, keep (by decide) name read⟩
  | other own v =>
    cases he with
    | other unknown =>
      obtain ⟨data, read⟩ := (Yaml.reads_dataOf_iff (Place.root.ofKey key) hv).2
        (untagged own v rfl)
      refine ⟨_, .other own v data, keep (fun h => unknown ?_) name read⟩
      exact List.mem_append_left ["runtime_package", "header"] h

/-! ## Reading all fields -/

theorem Setting.fresh_or {e : Setting} {l l' : Layer} :
    e.Fresh (l.or l') ↔ e.Fresh l ∧ e.Fresh l' := by
  cases e <;> simp [Fresh, Layer.or]

/-- A setting leaves open what other keys say. -/
theorem Setting.fresh_layer {e e' : Setting} (h : e.key = e'.key → e.key ∉ knownKeys) :
    e'.Fresh e.layer := by
  cases e <;> cases e' <;> first
    | exact absurd (by simp [key, knownKeys]) (h rfl)
    | simp [Fresh, layer]

theorem Setting.fresh_empty (e : Setting) : e.Fresh {} := by cases e <;> simp [Fresh]

theorem Setting.fresh_early {e e' : Setting} (h : e.key = e'.key → e.key ∉ knownKeys) :
    e'.Fresh e.early := by
  cases e with
  | runtimePackage s => exact e'.fresh_empty
  | header s => exact e'.fresh_empty
  | _ => exact fresh_layer h

theorem Setting.fresh_late {e e' : Setting} (h : e.key = e'.key → e.key ∉ knownKeys) :
    e'.Fresh e.late := by
  cases e with
  | runtimePackage s => exact fresh_layer h
  | header s => exact fresh_layer h
  | _ => exact e'.fresh_empty

/-- The fields of a settings file are read one after the other. -/
theorem exists_reads_fields {es : List Setting} {fields : List (Yaml.Node × Yaml.Node)}
    {vs : List (Value × Value)} (hes : List.Forall₂ Setting.IsField es vs)
    (h : Reads (Yaml.readFields (Yaml.valueOf (Yaml.depthLimit - 1)) fields) d n vs m)
    (once : es.Pairwise fun a b => a.key = b.key → a.key ∉ knownKeys)
    (untagged : ∀ key v, .other key v ∈ es → v.Untagged)
    (unquoted : ∀ f ∈ fields, ∀ name ∈ d.text? f.1,
      name ∈ ["parallel_jobs", "fail_fast", "manifest"] → d.style? f.2 ≠ some .other)
    {p : Progress} (fresh : ∀ e ∈ es, e.Fresh p.layer) :
    ∃ kept, List.Forall₂ Setting.Keeps es kept ∧ Reads (fields.foldlM readField p) d n
      ⟨es.foldl (fun l e => l.or e.early) p.layer, p.later ++ kept.flatten⟩ m := by
  induction hes generalizing fields n p with
  | nil =>
    cases fields with
    | nil =>
      obtain ⟨-, rfl⟩ := Yaml.reads_pure.1 h
      exact ⟨[], .nil, Yaml.reads_pure.2 ⟨by simp, rfl⟩⟩
    | cons field fields =>
      obtain ⟨_, _, _, _, _, -, -, -, hv⟩ := Yaml.reads_readFields_cons.1 h
      cases hv
  | @cons e v es vs he hes ih =>
    cases fields with
    | nil =>
      obtain ⟨hv, -⟩ := Yaml.reads_pure.1 h
      cases hv
    | cons field fields =>
      obtain ⟨key, value⟩ := field
      obtain ⟨name, k, _, k', _, hkey, hvalue, hfs, hv⟩ := Yaml.reads_readFields_cons.1 h
      obtain ⟨rfl, rfl⟩ := List.cons_eq_cons.1 hv
      rw [List.pairwise_cons] at once
      rw [List.forall_mem_cons] at fresh unquoted
      have name : d.text? key = some e.key := by
        have named : name = .scalar (.text e.key) := he.1
        rw [named] at hkey
        obtain ⟨tag, style, hfollow, -⟩ := Yaml.exists_of_reads_text hkey
        rw [Document.text?, Yaml.meant_of_follow hfollow]
      obtain ⟨kept, hkept, read⟩ := reads_readField he hkey hvalue
        (fun key v he => untagged key v (by simp [he])) (unquoted.1 e.key name) fresh.1
      obtain ⟨more, hmore, reads⟩ := ih hfs once.2
        (fun key v he => untagged key v (by simp [he])) unquoted.2
        (p := ⟨p.layer.or e.early, p.later ++ kept⟩)
        (fun e' he' => Setting.fresh_or.2 ⟨fresh.2 e' he', Setting.fresh_early (once.1 e' he')⟩)
      refine ⟨kept :: more, .cons hkept hmore, Yaml.reads_foldlM_cons.2 ⟨_, _, read, ?_⟩⟩
      simpa using reads

/-- What has been kept is judged one after the other. -/
theorem reads_later {es : List Setting} {kept : List (List (String × Data))}
    (h : List.Forall₂ Setting.Keeps es kept)
    (unknown : ∀ key v, .other key v ∈ es → key ∉ knownKeys)
    (once : es.Pairwise fun a b => a.key = b.key → a.key ∉ knownKeys)
    {l : Layer} (fresh : ∀ e ∈ es, e.isLater = true → e.Fresh l) :
    Reads (kept.flatten.foldlM readLater l) d n (es.foldl (fun l e => l.or e.late) l) n := by
  induction h generalizing l with
  | nil => exact Yaml.reads_pure.2 ⟨rfl, rfl⟩
  | @cons e data es kept he hes ih =>
    rw [List.pairwise_cons] at once
    rw [List.forall_mem_cons] at fresh
    have next := ih (fun key v he => unknown key v (by simp [he])) once.2
      (l := l.or e.late) fun e' he' hl =>
        Setting.fresh_or.2 ⟨fresh.2 e' he' hl, Setting.fresh_late (once.1 e' he')⟩
    have same : l.or {} = l := by simp [Layer.or]
    cases he with
    | early he =>
      have late : e.late = {} := by cases e <;> first | rfl | cases he
      rw [late, same] at next
      simpa [late, same] using next
    | runtimePackage s =>
      have fresh : l.runtimePackage = none := fresh.1 rfl
      refine Yaml.reads_foldlM_cons.2 ⟨_, _, ?_, next⟩
      simp only [readLater, laterText, fresh, setOnce, Yaml.reads_bind, Yaml.reads_map]
      exact ⟨some s, n, ⟨s, Yaml.reads_pure.2 ⟨rfl, rfl⟩, rfl⟩,
        Yaml.reads_pure.2 ⟨by simp [Layer.or, Setting.late, fresh], rfl⟩⟩
    | header s =>
      have fresh : l.header = none := fresh.1 rfl
      refine Yaml.reads_foldlM_cons.2 ⟨_, _, ?_, next⟩
      simp only [readLater, laterText, fresh, setOnce, Yaml.reads_bind, Yaml.reads_map]
      exact ⟨some s, n, ⟨s, Yaml.reads_pure.2 ⟨rfl, rfl⟩, rfl⟩,
        Yaml.reads_pure.2 ⟨by simp [Layer.or, Setting.late, fresh], rfl⟩⟩
    | other key v data =>
      have hk := unknown key v (by simp)
      simp only [knownKeys, List.mem_cons, List.not_mem_nil, or_false, not_or] at hk
      have skipped : Reads (readLater l (key, data)) d n (l.or (Setting.other key v).late) n := by
        rw [show l.or (Setting.other key v).late = l from same, readLater]
        · exact Yaml.reads_pure.2 ⟨rfl, rfl⟩
        · exact hk.2.2.2.2.2.2.1
        · exact hk.2.2.2.2.2.2.2
      exact Yaml.reads_foldlM_cons.2 ⟨_, _, skipped, next⟩

/-- A slot of a layer, once some settings have been put together. -/
theorem slot_foldl_or {α : Type} (slot : Layer → Option α)
    (h : ∀ l l' : Layer, slot (l.or l') = (slot l).or (slot l')) (part : Setting → Layer)
    (es : List Setting) (l : Layer) :
    slot (es.foldl (fun l e => l.or (part e)) l) =
      (slot l).or (es.findSome? fun e => slot (part e)) := by
  induction es generalizing l with
  | nil => simp
  | cons e es ih =>
    rw [List.foldl_cons, ih, h, Option.or_assoc, List.findSome?_cons]
    cases slot (part e) <;> rfl

/-- A slot that is set at once. -/
theorem slot_atOnce {α : Type} (slot : Layer → Option α) (es : List Setting)
    (h : ∀ l l' : Layer, slot (l.or l') = (slot l).or (slot l') := by intro _ _; rfl)
    (empty : slot {} = none := by rfl)
    (early : ∀ e : Setting, slot e.early = slot e.layer := by intro e; cases e <;> rfl)
    (late : ∀ e : Setting, slot e.late = none := by intro e; cases e <;> rfl) :
    slot (es.foldl (fun l e => l.or e.late) (es.foldl (fun l e => l.or e.early) {})) =
      es.findSome? fun e => slot e.layer := by
  have nothing : (es.findSome? fun _ => (none : Option α)) = none := by simp
  rw [slot_foldl_or slot h, slot_foldl_or slot h, empty]
  simp only [early, late, nothing, Option.none_or, Option.or_none]

/-- A slot that is set at the end. -/
theorem slot_atEnd {α : Type} (slot : Layer → Option α) (es : List Setting)
    (h : ∀ l l' : Layer, slot (l.or l') = (slot l).or (slot l') := by intro _ _; rfl)
    (empty : slot {} = none := by rfl)
    (early : ∀ e : Setting, slot e.early = none := by intro e; cases e <;> rfl)
    (late : ∀ e : Setting, slot e.late = slot e.layer := by intro e; cases e <;> rfl) :
    slot (es.foldl (fun l e => l.or e.late) (es.foldl (fun l e => l.or e.early) {})) =
      es.findSome? fun e => slot e.layer := by
  have nothing : (es.findSome? fun _ => (none : Option α)) = none := by simp
  rw [slot_foldl_or slot h, slot_foldl_or slot h, empty]
  simp only [early, late, nothing, Option.none_or]

/-- What is set at once and what is set at the end make up the layer of the settings. -/
theorem foldl_late_early (es : List Setting) :
    es.foldl (fun l e => l.or e.late) (es.foldl (fun l e => l.or e.early) {}) =
      Layer.ofSettings es := by
  rw [Layer.ofSettings, ← slot_atOnce Layer.verbosity es, ← slot_atOnce Layer.color es,
    ← slot_atOnce Layer.jobs es, ← slot_atOnce Layer.failFast es, ← slot_atOnce Layer.output es,
    ← slot_atOnce Layer.manifests es, ← slot_atEnd Layer.runtimePackage es,
    ← slot_atEnd Layer.header es]

/-- Nothing that is judged at the end has been set before. -/
theorem Setting.fresh_foldl_early {e : Setting} (he : e.isLater = true) (es : List Setting) :
    e.Fresh (es.foldl (fun l e => l.or e.early) {}) := by
  have unset {slot : Layer → Option String}
      (h : ∀ l l' : Layer, slot (l.or l') = (slot l).or (slot l')) (empty : slot {} = none)
      (early : ∀ e : Setting, slot e.early = none) :
      slot (es.foldl (fun l e => l.or e.early) {}) = none := by
    rw [slot_foldl_or slot h, empty]
    simp only [early, Option.none_or, List.findSome?_eq_none_iff, implies_true]
  cases e with
  | runtimePackage s => exact unset (fun _ _ => rfl) rfl fun e => by cases e <;> rfl
  | header s => exact unset (fun _ _ => rfl) rfl fun e => by cases e <;> rfl
  | other key v => trivial
  | _ => cases he

theorem exists_field_of_mem {es : List Setting} {fields : List (Value × Value)}
    (h : List.Forall₂ Setting.IsField es fields) {e : Setting} (he : e ∈ es) :
    ∃ field ∈ fields, e.IsField field := by
  induction h with
  | nil => cases he
  | @cons _ field _ _ hf _ ih =>
    rcases List.mem_cons.1 he with rfl | he
    · exact ⟨field, .head _, hf⟩
    · obtain ⟨field, hm, hf⟩ := ih he
      exact ⟨field, .tail _ hm, hf⟩

theorem notMem_knownKeys {es : List Setting} {fields : List (Value × Value)}
    (h : List.Forall₂ Setting.IsField es fields) {key : String} {v : Value}
    (he : .other key v ∈ es) : key ∉ knownKeys := by
  obtain ⟨_, -, -, hv⟩ := exists_field_of_mem h he
  cases hv with
  | other unknown => exact unknown

/-! ## Reading a file -/

/-- No truth value or number that is set is written in quotes or folded. -/
def Unquoted (text : String) : Prop :=
  ∀ d following, Yaml.First.ofText text = .document d following → ∀ f ∈ d.fields,
    ∀ name ∈ d.text? f.1, name ∈ ["parallel_jobs", "fail_fast", "manifest"] →
      d.style? f.2 ≠ some .other

theorem ofText_of_holds {text : String} {v : Value} {es : List Setting}
    (hv : Yaml.load text = .ok v) (holds : Holds v es)
    (untagged : ∀ key v, .other key v ∈ es → v.Untagged) (unquoted : Unquoted text) :
    Layer.ofText text = .ok (.ofSettings es) := by
  obtain ⟨fields, hb, hes⟩ := holds.fields
  obtain ⟨d, m, hd, hr⟩ := Yaml.exists_document_of_load hv hb
  obtain ⟨deep, tag, nodes, k, hdeep, hf, -, hi⟩ := Yaml.exists_of_bare_record hr hb
  obtain rfl : deep = Yaml.depthLimit - 1 := by omega
  have nodes_eq : d.fields = nodes := by rw [Document.fields, Yaml.meant_of_follow hf]
  obtain ⟨kept, hkept, read⟩ := exists_reads_fields (p := ⟨{}, []⟩) hes hi holds.once untagged
    (by rw [← nodes_eq]; exact unquoted d .nothing hd) fun e _ => e.fresh_empty
  have later := reads_later (d := d) (n := m) hkept (fun _ _ => notMem_knownKeys hes) holds.once
    fun e _ he => e.fresh_foldl_early he es
  rw [foldl_late_early] at later
  have whole : Reads (Layer.ofNode (some d.root)) d 0 (.ofSettings es) m := by
    rw [Layer.ofNode, Yaml.reads_bind]
    refine ⟨nodes, k, ?_, ?_⟩
    · rw [Yaml.recordFields, Yaml.reads_bind]
      exact ⟨_, _, hf, Yaml.reads_pure.2 ⟨rfl, rfl⟩⟩
    · rw [Yaml.reads_bind]
      exact ⟨_, _, read, later⟩
  rw [Layer.ofText, if_neg (by simp [Yaml.isBlankText_of_load hv hb])]
  exact Yaml.readText_eq_ok hd whole

end Settings

end PageAccessors
