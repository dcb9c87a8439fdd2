import PageAccessors.Proofs.SettingsFile

/-!
# Settings that are read

A file that holds settings is read exactly if the values of its other keys have no names and its
truth values and numbers are not in quotes (`exists_ofText_iff`). What is read of a field says how
its key and its value are written (`exists_of_reads_readField`).
-/

namespace PageAccessors.Settings

open Yaml (Document Place Reads Value)

variable {d : Document} {n m : Nat}

/-! ## How read values are written -/

theorem text?_of_reads {expected : String} {place : Place} {node : Yaml.Node} {text : String}
    (h : Reads (Yaml.textField expected place node) d n text m) : d.text? node = some text := by
  rw [Yaml.textField, Yaml.reads_bind] at h
  obtain ⟨target, k, hf, h⟩ := h
  rw [Document.text?, Yaml.meant_of_follow hf]
  cases target with
  | scalar tag style s => rw [(Yaml.reads_pure.1 h).1]
  | _ => simp [Yaml.refuseNode] at h

/-- A truth value is not read out of quotes. -/
theorem style?_of_reads_boolField {place : Place} {node : Yaml.Node} {b : Bool}
    (h : Reads (Yaml.boolField place node) d n b m) : d.style? node ≠ some .other := by
  rw [Yaml.boolField, Yaml.reads_bind] at h
  obtain ⟨target, k, hf, h⟩ := h
  rw [Document.style?, Yaml.meant_of_follow hf]
  cases target with
  | scalar tag style s =>
    rintro ⟨⟩
    simp [Yaml.mayStandFor, Yaml.refuseNode] at h
  | _ => simp

/-- A number is not read out of quotes. -/
theorem style?_of_reads_naturalField {place : Place} {node : Yaml.Node} {j : Nat}
    (h : Reads (Yaml.naturalField place node) d n j m) : d.style? node ≠ some .other := by
  rw [Yaml.naturalField, Yaml.reads_bind] at h
  obtain ⟨target, k, hf, h⟩ := h
  rw [Document.style?, Yaml.meant_of_follow hf]
  cases target with
  | scalar tag style s =>
    rintro ⟨⟩
    simp [Yaml.mayStandFor, Yaml.refuseNode] at h
  | _ => simp

theorem reads_of_setOnce {α : Type} {name : String} {old : Option α} {read : Yaml.Reading α}
    {found : Option α} (h : Reads (setOnce name old read) d n found m) :
    ∃ a, Reads read d n a m := by
  cases old with
  | some a => simp [setOnce] at h
  | none =>
    obtain ⟨a, ha, -⟩ := Yaml.reads_map.1 h
    exact ⟨a, ha⟩

/-- A field that is read has a key. A truth value or number is not in quotes there, and what is not
known is read as data. -/
theorem exists_of_reads_readField {p p' : Progress} {key value : Yaml.Node}
    (h : Reads (readField p (key, value)) d n p' m) : ∃ name, d.text? key = some name ∧
      (name ∈ ["parallel_jobs", "fail_fast", "manifest"] → d.style? value ≠ some .other) ∧
      (name ∉ knownKeys → ∃ depth place x i j, Reads (Yaml.dataOf depth place value) d i x j) := by
  rw [readField, Yaml.reads_bind] at h
  obtain ⟨name, k, hk, h⟩ := h
  refine ⟨name, text?_of_reads hk, ?_⟩
  dsimp only at h
  split at h
  case h_3 =>
    obtain ⟨_, _, set, -⟩ := Yaml.reads_bind.1 h
    obtain ⟨j, read⟩ := reads_of_setOnce set
    exact ⟨fun _ => style?_of_reads_naturalField read, fun no => absurd (by decide) no⟩
  case h_4 =>
    obtain ⟨_, _, set, -⟩ := Yaml.reads_bind.1 h
    obtain ⟨b, read⟩ := reads_of_setOnce set
    exact ⟨fun _ => style?_of_reads_boolField read, fun no => absurd (by decide) no⟩
  case h_6 =>
    obtain ⟨_, _, set, -⟩ := Yaml.reads_bind.1 h
    obtain ⟨b, read⟩ := reads_of_setOnce set
    exact ⟨fun _ => style?_of_reads_boolField read, fun no => absurd (by decide) no⟩
  case h_7 no₁ no₂ jobs failFast no₅ manifests =>
    obtain ⟨x, j, read, -⟩ := Yaml.reads_bind.1 h
    refine ⟨fun wanted => absurd wanted ?_, fun _ => ⟨_, _, x, k, j, read⟩⟩
    simp only [List.mem_cons, List.not_mem_nil, or_false, not_or]
    exact ⟨jobs, failFast, manifests⟩
  all_goals exact ⟨fun wanted => absurd wanted (by decide), fun no => absurd (by decide) no⟩

/-! ## Files that are read -/

/-- A file that holds settings is read exactly if the values of its other keys have no names, and no
truth value or number that is set is in quotes. -/
theorem exists_ofText_iff {text : String} {v : Value} {es : List Setting}
    (hv : Yaml.load text = .ok v) (holds : Holds v es) :
    (∃ l, Layer.ofText text = .ok l) ↔
      (∀ key v, .other key v ∈ es → v.Untagged) ∧ Unquoted text := by
  refine ⟨?_, fun plain => ⟨_, ofText_of_holds hv holds plain.1 plain.2⟩⟩
  rintro ⟨l, read⟩
  obtain ⟨vs, hb, hes⟩ := holds.fields
  obtain ⟨d, m, hd, hr⟩ := Yaml.exists_document_of_load hv hb
  obtain ⟨deep, tag, nodes, k, hdeep, hf, -, hi⟩ := Yaml.exists_of_bare_record hr hb
  have nodes_eq : d.fields = nodes := by rw [Document.fields, Yaml.meant_of_follow hf]
  rw [Layer.ofText, if_neg (by simp [Yaml.isBlankText_of_load hv hb])] at read
  obtain ⟨-, m', read⟩ := Yaml.reads_of_readText_eq_ok hd read
  -- Each field has been read, whatever the layer was by then.
  have each : ∀ field ∈ nodes, ∃ p p' i j, Reads (readField p field) d i p' j := by
    rw [Layer.ofNode, Yaml.reads_bind] at read
    obtain ⟨found, k', fields, read⟩ := read
    rw [Yaml.recordFields, Yaml.reads_bind] at fields
    obtain ⟨target, _, hf', fields⟩ := fields
    cases (Yaml.meant_of_follow hf).symm.trans (Yaml.meant_of_follow hf')
    obtain ⟨rfl, -⟩ := Yaml.reads_pure.1 fields
    obtain ⟨p, _, all, -⟩ := Yaml.reads_bind.1 read
    intro field hfield
    exact Yaml.exists_of_reads_foldlM all field hfield
  constructor
  · intro key w he
    obtain ⟨_, hfield, hkey, hw⟩ := exists_field_of_mem hes he
    obtain ⟨field, hm, _, _, pair⟩ := (Yaml.exists_of_reads_mapM hi).2 _ hfield
    obtain ⟨_, name, value⟩ := Yaml.reads_pair.1 pair
    obtain ⟨p, p', _, _, read⟩ := each field hm
    obtain ⟨name', hn', -, data⟩ := exists_of_reads_readField read
    rw [hkey] at name
    obtain rfl : name' = key := by
      obtain ⟨_, _, hf, -⟩ := Yaml.exists_of_reads_text name
      rw [Document.text?, Yaml.meant_of_follow hf] at hn'
      exact (Option.some.inj hn').symm
    cases hw with
    | other unknown =>
      obtain ⟨_, _, _, _, _, read⟩ := data unknown
      exact (Yaml.isData_of_reads read).untagged value
  · intro d' following hd' f hfield name hn hk
    cases hd.symm.trans hd'
    rw [nodes_eq] at hfield
    obtain ⟨p, p', i, j, read⟩ := each f hfield
    obtain ⟨name', hn', wanted, -⟩ := exists_of_reads_readField read
    cases hn'.symm.trans hn
    exact wanted hk

end PageAccessors.Settings
