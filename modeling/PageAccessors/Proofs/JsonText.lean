import Mathlib.Data.List.Forall2
import Mathlib.Data.List.Nodup
import Mathlib.Tactic.SplitIfs
import PageAccessors.Json.Record
import PageAccessors.Json.Writer
import PageAccessors.Proofs.Steps

/-!
# Written JSON read back

What the writer writes over several lines is read back as it was. A text comes back from its quotes
whatever its characters are (`text_quoteChars`). The fields of a record come back one after the
other, each behind its key, as long as the reader of each one takes what was written for it and
stops there (`objectFields_prettyFields`), and are then put in their declared order
(`record_pretty`).
-/

namespace PageAccessors.Json

/-! ## Texts -/

/-- A reading step with what it read put in front of what was read before. -/
def prepend (c : Char) (r : Except Stop (List Char × List Char)) :
    Except Stop (List Char × List Char) :=
  r.map fun (cs, rest) => (c :: cs, rest)

theorem textBody_unescape {s after : List Char} {c : Char} (h : unescape s = .ok (c, after)) :
    textBody ('\\' :: s) = prepend c (textBody after) := by
  rw [textBody, if_neg (by decide), if_pos rfl]
  split
  · rename_i h'
    rw [h] at h'
    cases h'
  · rename_i h'
    rw [h, Except.ok.injEq, Prod.mk.injEq] at h'
    rw [h'.1, h'.2]
    cases textBody _ <;> rfl

theorem textBody_plain {c : Char} (hq : c ≠ '"') (hb : c ≠ '\\') (hc : ¬ c.toNat < 0x20)
    (rest : List Char) : textBody (c :: rest) = prepend c (textBody rest) := by
  rw [textBody, if_neg hq, if_neg hb, if_neg hc]
  cases textBody rest <;> rfl

theorem unescape_control {c : Char} (h : c.toNat < 0x20) (rest : List Char) :
    unescape ('u' :: '0' :: '0' :: Nat.digitChar (c.toNat / 16) :: Nat.digitChar (c.toNat % 16) ::
      rest) = .ok (c, rest) := by
  have hd : fourDigits? '0' '0' (Nat.digitChar (c.toNat / 16)) (Nat.digitChar (c.toNat % 16)) =
      some c.toNat := by
    simp only [fourDigits?, hexValue?_digitChar _ (show c.toNat / 16 < 16 by omega),
      hexValue?_digitChar _ (Nat.mod_lt _ (show 0 < 16 by decide)),
      show hexValue? '0' = some 0 from rfl, Option.bind_eq_bind, Option.bind_some,
      Option.some.injEq]
    omega
  simp only [unescape, hexFour, hd, bind, Except.bind]
  rw [if_neg (by omega), if_neg (by omega), Char.ofNat_toNat]

/-- A character comes back from the way it is written between quotes. -/
theorem textBody_escapeChar (c : Char) (rest : List Char) :
    textBody (escapeChar c ++ rest) = prepend c (textBody rest) := by
  unfold escapeChar
  split
  case h_8 hq hb _ _ _ _ _ =>
    split_ifs with hc
    · exact textBody_unescape (unescape_control hc rest)
    · exact textBody_plain hq hb hc rest
  all_goals exact textBody_unescape rfl

theorem textBody_flatMap_escapeChar (rest : List Char) : ∀ s : List Char,
    textBody (s.flatMap escapeChar ++ '"' :: rest) = .ok (s, rest)
  | [] => by rw [List.flatMap_nil, List.nil_append, textBody, if_pos rfl]
  | c :: s => by
    rw [List.flatMap_cons, List.append_assoc, textBody_escapeChar,
      textBody_flatMap_escapeChar rest s]
    rfl

/-- A text comes back from its quotes. -/
theorem text_quoteChars (s : String) (rest : List Char) :
    text (s.toList.flatMap escapeChar ++ '"' :: rest) = .ok (s, rest) := by
  rw [text, textBody_flatMap_escapeChar]
  simp [bind, Except.bind]

theorem quoteChars_append (s : String) (rest : List Char) :
    quoteChars s ++ rest = '"' :: (s.toList.flatMap escapeChar ++ '"' :: rest) := by
  simp [quoteChars]

/-! ## Between values -/

theorem skipSpace_cons {c : Char} (h : isSpace c = false) (rest : List Char) :
    skipSpace (c :: rest) = c :: rest :=
  List.dropWhile_cons_of_neg (by simp [h])

theorem skipSpace_newLine (depth : Nat) (rest : List Char) :
    skipSpace (newLine depth ++ rest) = skipSpace rest := by
  refine List.dropWhile_append_of_pos fun c hc => ?_
  rw [newLine, List.mem_cons] at hc
  rcases hc with rfl | hc
  · rfl
  · rw [(List.mem_replicate.1 hc).2]
    rfl

theorem skipSpace_blank (rest : List Char) : skipSpace (' ' :: rest) = skipSpace rest :=
  List.dropWhile_cons_of_pos rfl

/-- The comma in front of all elements but the first. -/
def separator (first : Bool) : List Char := if first then [] else [',']

section

variable {blanks : List Char} (hb : ∀ s, skipSpace (blanks ++ s) = skipSpace s)

include hb

theorem nextKey_quoteChars (first : Bool) (key : String) (rest : List Char) :
    nextKey first (separator first ++ (blanks ++ (quoteChars key ++ rest))) =
      .ok (some (key, rest)) := by
  have hs : skipSpace (blanks ++ (quoteChars key ++ rest)) =
      '"' :: (key.toList.flatMap escapeChar ++ '"' :: rest) := by
    rw [quoteChars_append, hb, skipSpace_cons (by decide)]
  cases first with
  | true =>
    simp [nextKey, separator, hs, text_quoteChars, bind, Except.bind]
  | false =>
    have hc : skipSpace (separator false ++ (blanks ++ (quoteChars key ++ rest))) =
        ',' :: (blanks ++ (quoteChars key ++ rest)) :=
      skipSpace_cons (by decide) _
    simp [nextKey, hc, hs, text_quoteChars, bind, Except.bind]

theorem nextKey_end (first : Bool) (rest : List Char) :
    nextKey first (blanks ++ '\x7d' :: rest) = .ok none := by
  have hs : skipSpace (blanks ++ '\x7d' :: rest) = '\x7d' :: rest := by
    rw [hb, skipSpace_cons (by decide)]
  simp only [nextKey, hs]

end

theorem colon_append (rest : List Char) : colon ([':', ' '] ++ rest) = .ok (' ' :: rest) := rfl

/-! ## Records -/

/-- What may follow a value that was written: a comma or a new line. -/
def Follows (rest : List Char) : Prop := rest.head? = some ',' ∨ rest.head? = some '\n'

/-- A reader takes what was written for a value at a depth, and nothing behind it. -/
def Takes (read : Reader Data) (depth : Nat) (x y : Data) : Prop :=
  ∀ rest, Follows rest → read (' ' :: (prettyChars depth x ++ rest)) = .ok (y, rest)

theorem follows_newLine (depth : Nat) (rest : List Char) : Follows (newLine depth ++ rest) :=
  .inr rfl

/-- A field as it is written and as it is read. -/
structure Written where
  key : String
  value : Data
  read : Data

variable {fields : List Field} {depth : Nat}

/-- The fields behind the first are led by a comma, and the last one is followed by a new line. -/
theorem follows_prettyFields (outer : Nat) (rest : List Char) : ∀ ws : List Written,
    Follows (prettyFields depth false (ws.map fun w => (.text w.key, w.value)) ++
      (newLine outer ++ rest))
  | [] => follows_newLine _ _
  | _ :: _ => .inl rfl

theorem prettyFields_cons (first : Bool) (w : Written) (fields : List (Data × Data)) :
    prettyFields depth first ((.text w.key, w.value) :: fields) =
      separator first ++ (newLine depth ++ (quoteChars w.key ++ ([':', ' '] ++
        (prettyChars depth w.value ++ prettyFields depth false fields)))) := by
  simp only [prettyFields, separator, keyChars, List.append_assoc]

/-- Written fields are found again, the last of them in front. -/
theorem objectFields_prettyFields (outer : Nat) (rest : List Char) :
    ∀ {ws : List Written} {fuel : Nat} {first : Bool} {found : List (String × Data)},
    ws.length < fuel →
    (∀ w ∈ ws, ∃ read, fields.lookup w.key = some read ∧ Takes read depth w.value w.read) →
    (ws.map Written.key).Nodup → (∀ w ∈ ws, found.lookup w.key = none) →
    objectFields fields fuel first found
      (prettyFields depth first (ws.map fun w => (.text w.key, w.value)) ++
        (newLine outer ++ '\x7d' :: rest)) =
      .ok ((ws.map fun w => (w.key, w.read)).reverse ++ found, newLine outer ++ '\x7d' :: rest)
  | [], fuel + 1, first, found, _, _, _, _ => by
    rw [List.map_nil, prettyFields, List.nil_append, objectFields,
      nextKey_end (skipSpace_newLine outer)]
    rfl
  | w :: ws, fuel + 1, first, found, hf, hr, hd, hn => by
    rw [List.map_cons, List.nodup_cons] at hd
    rw [List.forall_mem_cons] at hr hn
    obtain ⟨⟨read, hl, ht⟩, hr⟩ := hr
    have hx := ht (prettyFields depth false (ws.map fun w => (.text w.key, w.value)) ++
      (newLine outer ++ '\x7d' :: rest)) (follows_prettyFields _ _ ws)
    have found' : ∀ w' ∈ ws, ((w.key, w.read) :: found).lookup w'.key = none := by
      intro w' hw'
      have hne : w'.key ≠ w.key := fun h => hd.1 (h ▸ List.mem_map_of_mem hw')
      rw [List.lookup_cons, beq_false_of_ne hne]
      exact hn.2 w' hw'
    have ih : objectFields fields fuel false ((w.key, w.read) :: found) _ = .ok (_, _) :=
      objectFields_prettyFields outer rest (by simpa using hf) hr hd.2 found'
    simp only [List.map_cons, prettyFields_cons, List.append_assoc]
    rw [objectFields, nextKey_quoteChars (skipSpace_newLine depth)]
    simp only [Except.mapError, bind, Except.bind, hl, hn.1, Option.isSome_none, colon_append, hx,
      Bool.false_eq_true, if_false, ih, List.reverse_cons, List.append_assoc, List.singleton_append]

theorem length_le_prettyFields (first : Bool) : ∀ ws : List Written,
    ws.length ≤ (prettyFields depth first (ws.map fun w => (.text w.key, w.value))).length
  | [] => Nat.zero_le _
  | w :: ws => by
    have := length_le_prettyFields false ws
    rw [List.map_cons, prettyFields_cons]
    simp only [List.length_append, List.length_cons]
    omega

theorem lookup_eq_some_of_mem {key : String} {x : Data} : ∀ {found : List (String × Data)},
    (found.map Prod.fst).Nodup → (key, x) ∈ found → found.lookup key = some x
  | (k, y) :: found, hd, hm => by
    rw [List.map_cons, List.nodup_cons] at hd
    rw [List.lookup_cons]
    rcases List.mem_cons.1 hm with h | h
    · rw [Prod.mk.injEq] at h
      rw [h.1, h.2, BEq.rfl]
    · have hne : key ≠ k := by
        rintro rfl
        exact hd.1 (List.mem_map.2 ⟨_, h, rfl⟩)
      rw [beq_false_of_ne hne]
      exact lookup_eq_some_of_mem hd.2 h

theorem declaredOrder_eq {found : List (String × Data)} {s : List Char} :
    ∀ {ws : List Written}, (∀ w ∈ ws, found.lookup w.key = some w.read) →
    declaredOrder found s (ws.map Written.key) = .ok (ws.map Written.read)
  | [], _ => rfl
  | w :: ws, h => by
    rw [List.forall_mem_cons] at h
    simp only [List.map_cons, declaredOrder, h.1, declaredOrder_eq h.2, bind, Except.bind]

/-- The fields of a reader are those that were written, each with a reader that takes its value. -/
def Matches (depth : Nat) (fields : List Field) (ws : List Written) : Prop :=
  List.Forall₂ (fun f w => f.1 = w.key ∧ Takes f.2 depth w.value w.read) fields ws

theorem Matches.keys_eq : ∀ {fields : List Field} {ws : List Written}, Matches depth fields ws →
    fields.map Prod.fst = ws.map Written.key
  | [], [], _ => rfl
  | _ :: _, _ :: _, .cons h hs => by rw [List.map_cons, List.map_cons, h.1, keys_eq hs]

theorem Matches.exists_lookup : ∀ {fields : List Field} {ws : List Written},
    Matches depth fields ws → (ws.map Written.key).Nodup →
    ∀ w ∈ ws, ∃ read, fields.lookup w.key = some read ∧ Takes read depth w.value w.read
  | [], [], _, _, _, hw => nomatch hw
  | (k, read) :: fields, w :: ws, .cons h hs, hd, w', hw => by
    rw [List.map_cons, List.nodup_cons] at hd
    rw [List.lookup_cons]
    rcases List.mem_cons.1 hw with rfl | hw
    · exact ⟨read, by rw [show k = w'.key from h.1, BEq.rfl], h.2⟩
    · have hne : w'.key ≠ k := fun e =>
        hd.1 (h.1 ▸ e ▸ List.mem_map_of_mem hw)
      rw [beq_false_of_ne hne]
      exact exists_lookup hs hd.2 w' hw

/-- The record of some written fields. -/
def writtenRecord (ws : List Written) : Data := .record (ws.map fun w => (.text w.key, w.value))

theorem prettyChars_writtenRecord {ws : List Written} (h : ws ≠ []) (rest : List Char) :
    prettyChars depth (writtenRecord ws) ++ rest = '\x7b' :: (prettyFields (depth + 1) true
      (ws.map fun w => (.text w.key, w.value)) ++ (newLine depth ++ '\x7d' :: rest)) := by
  obtain ⟨w, ws, rfl⟩ := List.exists_cons_of_ne_nil h
  simp [writtenRecord, prettyChars]

/-- A record comes back from what was written for it, with its values in their order. -/
theorem record_pretty {type : String} {ws : List Written} {s rest : List Char} (hne : ws ≠ [])
    (hm : Matches (depth + 1) fields ws) (hd : (ws.map Written.key).Nodup)
    (hs : skipSpace s = prettyChars depth (writtenRecord ws) ++ rest) :
    record type fields s = .ok (ws.map Written.read, rest) := by
  rw [prettyChars_writtenRecord hne] at hs
  have fuel : ws.length <
      (prettyFields (depth + 1) true (ws.map fun w => (.text w.key, w.value)) ++
        (newLine depth ++ '\x7d' :: rest)).length + 1 := by
    have := @length_le_prettyFields (depth + 1) true ws
    rw [List.length_append]
    omega
  have found : objectFields fields _ true [] _ =
      .ok ((ws.map fun w => (w.key, w.read)).reverse ++ [], newLine depth ++ '\x7d' :: rest) :=
    objectFields_prettyFields depth rest fuel (hm.exists_lookup hd) hd (fun _ _ => rfl)
  rw [List.append_nil] at found
  have keys : ((ws.map fun w => (w.key, w.read)).reverse.map Prod.fst).Nodup := by
    rw [List.map_reverse, List.nodup_reverse, List.map_map]
    exact hd
  have order : declaredOrder (ws.map fun w => (w.key, w.read)).reverse
      (newLine depth ++ '\x7d' :: rest) (fields.map Prod.fst) = .ok (ws.map Written.read) := by
    rw [hm.keys_eq]
    exact declaredOrder_eq fun w hw =>
      lookup_eq_some_of_mem keys (List.mem_reverse.2 (List.mem_map_of_mem hw))
  have close : skipSpace (newLine depth ++ '\x7d' :: rest) = '\x7d' :: rest := by
    rw [skipSpace_newLine, skipSpace_cons (by decide)]
  rw [record, hs]
  simp only [bind, Except.bind, found, order, pure, Except.pure, Except.mapError, close,
    List.drop_succ_cons, List.drop_zero]

theorem skipSpace_writtenRecord {ws : List Written} (h : ws ≠ []) (rest : List Char) :
    skipSpace (prettyChars depth (writtenRecord ws) ++ rest) =
      prettyChars depth (writtenRecord ws) ++ rest := by
  rw [prettyChars_writtenRecord h, skipSpace_cons (by decide)]

/-! ## Fields -/

theorem takes_textField (s : String) : Takes textField depth (.text s) (.text s) := by
  intro rest _
  have hs : skipSpace (' ' :: (prettyChars depth (.text s) ++ rest)) =
      '"' :: (s.toList.flatMap escapeChar ++ '"' :: rest) := by
    rw [skipSpace_blank, prettyChars, scalarChars, quoteChars_append, skipSpace_cons (by decide)]
  rw [textField, hs]
  simp [text_quoteChars, bind, Except.bind]

/-- A single digit comes back; nothing that may follow it belongs to a number. -/
theorem takes_wordField_one : Takes wordField depth (.natural 1) (.natural 1) := by
  intro rest hr
  rcases rest with _ | ⟨c, rest⟩
  · rcases hr with h | h <;> cases h
  · rcases hr with h | h <;>
    · cases h
      rfl

end PageAccessors.Json
