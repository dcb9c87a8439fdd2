import PageAccessors.Manifest
import PageAccessors.Proofs.JsonText

/-!
# The text of a manifest

A manifest comes back from its text, whatever its fields hold (`parse_render`).
-/

namespace PageAccessors

open Json (Written Takes Matches)

/-- The fields of a provenance, as they are written and read. -/
def Provenance.written (p : Provenance) : List Written :=
  [("tool", p.tool), ("version", p.version), ("declaration", p.declaration),
    ("input_hash", p.inputHash), ("timestamp", p.timestamp), ("regenerate_cmd", p.command)].map
    fun (key, text) => ⟨key, .text text, .text text⟩

/-- The fields of a manifest of the current version, as they are written and read. -/
def Manifest.written (m : Manifest) : List Written :=
  [⟨"manifest_version", .natural currentVersion, .natural currentVersion⟩,
    ⟨"output_path", .text m.outputName, .text m.outputName⟩,
    ⟨"output_hash", .text m.outputHash, .text m.outputHash⟩,
    ⟨"generation", m.provenance.toData, .list (m.provenance.written.map Written.read)⟩]

namespace Manifest

theorem matches_provenanceFields (depth : Nat) (p : Provenance) :
    Matches depth provenanceFields p.written := by
  unfold Matches provenanceFields Provenance.written
  rw [List.forall₂_map_left_iff, List.forall₂_map_right_iff]
  repeat' first
    | exact .nil
    | refine .cons ⟨rfl, Json.takes_textField _⟩ ?_

theorem provenance_written_ne_nil (p : Provenance) : p.written ≠ [] := List.cons_ne_nil _ _

theorem written_ne_nil (m : Manifest) : m.written ≠ [] := List.cons_ne_nil _ _

theorem takes_provenanceField (depth : Nat) (p : Provenance) :
    Takes provenanceField depth p.toData (.list (p.written.map Written.read)) := by
  intro rest _
  have hd : (p.written.map Written.key).Nodup := by
    simp [Provenance.written]
  have hs : Json.skipSpace (' ' :: (Json.prettyChars depth p.toData ++ rest)) =
      Json.prettyChars depth (Json.writtenRecord p.written) ++ rest := by
    rw [Json.skipSpace_blank, ← Json.skipSpace_writtenRecord (provenance_written_ne_nil p)]
    rfl
  rw [provenanceField, Json.record_pretty (provenance_written_ne_nil p)
    (matches_provenanceFields _ p) hd hs]
  rfl

theorem matches_manifestFields (depth : Nat) (m : Manifest) :
    Matches depth manifestFields m.written :=
  .cons ⟨rfl, Json.takes_wordField_one⟩ <| .cons ⟨rfl, Json.takes_textField _⟩ <|
    .cons ⟨rfl, Json.takes_textField _⟩ <| .cons ⟨rfl, takes_provenanceField _ _⟩ .nil

/-- A manifest of the current version comes back from its text. -/
theorem parse_render {m : Manifest} (h : m.version = currentVersion) : parse m.render = .ok m := by
  have data : m.toData = Json.writtenRecord m.written := by
    rw [toData, h]
    rfl
  have hd : (m.written.map Written.key).Nodup := by
    simp [written]
  have hs : Json.skipSpace m.render.toList =
      Json.prettyChars 0 (Json.writtenRecord m.written) ++ [] := by
    rw [← Json.skipSpace_writtenRecord (written_ne_nil m), render, Json.pretty, data,
      String.toList_ofList, List.append_nil]
  have values : ofValues? (m.written.map Written.read) = some m := by
    obtain ⟨version, name, hash, provenance⟩ := m
    cases h
    rfl
  rw [parse, Json.readAll, reader,
    Json.record_pretty (written_ne_nil m) (matches_manifestFields 1 m) hd hs]
  simp only [values, Except.ok_bind]
  rfl

end Manifest

end PageAccessors
