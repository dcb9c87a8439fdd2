import PageAccessors.Proofs.JsonText

/-!
# Written values read back

A value without numbers tells by itself where it ends: it is a word, or it is closed by a quote, a
bracket or a brace. So what the writer writes for it without blanks is read back whatever follows
(`value_renderChars`), if it does not nest deeper than the reader goes (`Data.Nests`), and its
meaning is that of the value (`decode_render`).
-/

namespace PageAccessors

/-- Fields with texts as their keys. -/
def Data.keyed (fields : List (String × Data)) : List (Data × Data) :=
  fields.map fun (key, d) => (.text key, d)

/-- A value without numbers, whose records have texts as their keys and which nests at most so
deep. -/
inductive Data.Nests : Nat → Data → Prop
  | null {n : Nat} : Nests n .null
  | bool {n : Nat} (b : Bool) : Nests n (.bool b)
  | text {n : Nat} (s : String) : Nests n (.text s)
  | list {n : Nat} {items : List Data} (h : ∀ d ∈ items, Nests n d) : Nests (n + 1) (.list items)
  | object {n : Nat} {fields : List (String × Data)} (h : ∀ f ∈ fields, Nests n f.2) :
    Nests (n + 1) (.object fields)

namespace Json

variable {c : Char} {rest : List Char} {n depth : Nat} {d : Data}

/-- A text that starts with a value, as far as its first character tells. -/
def Starts (s : List Char) : Prop := ∃ c rest, s = c :: rest ∧ isSpace c = false ∧ c ≠ ']'

theorem starts_renderChars (h : d.Nests n) : ∀ rest, Starts (renderChars d ++ rest) := by
  intro rest
  cases h with
  | null => exact ⟨'n', _, rfl, rfl, by decide⟩
  | bool b => cases b <;> exact ⟨_, _, rfl, rfl, by decide⟩
  | text s => exact ⟨'"', _, rfl, rfl, by decide⟩
  | list => exact ⟨'[', _, rfl, rfl, by decide⟩
  | object => exact ⟨'\x7b', _, rfl, rfl, by decide⟩

/-! ## Elements and members -/

theorem nextElement_separator (first : Bool) {s : List Char} (h : Starts s) :
    nextElement first (separator first ++ s) = .ok (some s) := by
  obtain ⟨c, rest, rfl, hs, hc⟩ := h
  have skip : skipSpace (c :: rest) = c :: rest := skipSpace_cons hs rest
  cases first with
  | true =>
    rw [separator, if_pos rfl, List.nil_append, nextElement, skip]
    split <;> simp_all
  | false =>
    have comma : skipSpace (',' :: c :: rest) = ',' :: c :: rest := skipSpace_cons rfl _
    rw [separator, if_neg (by decide), List.singleton_append, nextElement, comma]
    simp only [Bool.false_eq_true, if_false]
    refine (if_pos rfl).trans ?_
    rw [skip]
    split <;> simp_all

theorem nextElement_end (first : Bool) (rest : List Char) :
    nextElement first (']' :: rest) = .ok none := by
  simp only [nextElement, skipSpace_cons (show isSpace ']' = false from rfl)]

theorem renderItems_cons (first : Bool) (d : Data) (items : List Data) :
    renderItems first (d :: items) =
      separator first ++ (renderChars d ++ renderItems false items) := by
  rw [renderItems, separator, List.append_assoc]

theorem renderFields_cons (first : Bool) (key : String) (d : Data) (fields : List (String × Data)) :
    renderFields first (Data.keyed ((key, d) :: fields)) = separator first ++ ([] ++
      (quoteChars key ++ ':' :: (renderChars d ++ renderFields false (Data.keyed fields)))) := by
  simp [Data.keyed, renderFields, separator, keyChars]

/-- A reader takes what is written for a value, whatever follows. -/
def Reads (item : Reader Data) (d : Data) : Prop :=
  ∀ rest, item (renderChars d ++ rest) = .ok (d, rest)

variable {item : Reader Data}

theorem elements_renderItems (rest : List Char) : ∀ {items : List Data} {fuel : Nat} {first : Bool},
    items.length < fuel → (∀ d ∈ items, Reads item d ∧ ∀ rest, Starts (renderChars d ++ rest)) →
    elements item fuel first (renderItems first items ++ ']' :: rest) = .ok (items, rest)
  | [], fuel + 1, first, _, _ => by
    rw [renderItems, List.nil_append, elements, nextElement_end, skipSpace_cons rfl]
    rfl
  | d :: items, fuel + 1, first, hf, h => by
    rw [List.forall_mem_cons] at h
    obtain ⟨⟨read, starts⟩, h⟩ := h
    have ih := @elements_renderItems rest items fuel false (Nat.lt_of_succ_lt_succ hf) h
    rw [renderItems_cons, List.append_assoc, List.append_assoc, elements,
      nextElement_separator first (starts _)]
    simp only [bind, Except.bind, read _, ih]

theorem members_renderFields (rest : List Char) : ∀ {fields : List (String × Data)} {fuel : Nat}
    {first : Bool}, fields.length < fuel → (∀ f ∈ fields, Reads item f.2) →
    members item fuel first
      (renderFields first (Data.keyed fields) ++ '\x7d' :: rest) =
        .ok (fields, rest)
  | [], fuel + 1, first, _, _ => by
    have stop : nextKey first ('\x7d' :: rest) = .ok none :=
      @nextKey_end [] (fun _ => rfl) first rest
    rw [Data.keyed, List.map_nil, renderFields, List.nil_append, members, stop, skipSpace_cons rfl]
    rfl
  | (key, d) :: fields, fuel + 1, first, hf, h => by
    rw [List.forall_mem_cons] at h
    have ih := @members_renderFields rest fields fuel false (Nat.lt_of_succ_lt_succ hf) h.2
    have colon_eq : ∀ s, colon (':' :: s) = .ok s := fun _ => rfl
    rw [renderFields_cons]
    simp only [List.append_assoc, List.cons_append]
    rw [members, nextKey_quoteChars (fun _ => rfl)]
    simp only [bind, Except.bind, colon_eq, h.1 _, ih]

theorem length_le_renderItems (first : Bool) : ∀ {items : List Data},
    (∀ d ∈ items, ∀ rest, Starts (renderChars d ++ rest)) →
    items.length ≤ (renderItems first items).length
  | [], _ => Nat.zero_le _
  | d :: items, h => by
    rw [List.forall_mem_cons] at h
    have ih := length_le_renderItems false h.2
    obtain ⟨c, rest, hd, -⟩ := h.1 []
    rw [List.append_nil] at hd
    rw [renderItems_cons, hd]
    simp only [List.length_append, List.length_cons]
    omega

theorem length_le_renderFields (first : Bool) : ∀ fields : List (String × Data),
    fields.length ≤ (renderFields first (Data.keyed fields)).length
  | [] => Nat.zero_le _
  | (key, d) :: fields => by
    have ih := length_le_renderFields false fields
    rw [renderFields_cons]
    simp only [List.length_append, List.length_cons]
    omega

/-! ## Values -/

theorem value_of_scalar (hs : isSpace c = false) (hl : c ≠ '[') (ho : c ≠ '\x7b') :
    value depth (c :: rest) = scalar (c :: rest) := by
  cases depth <;>
  · rw [value, skipSpace_cons hs]
    split <;> simp_all

theorem value_list {items : List Data} (rest : List Char)
    (h : ∀ d ∈ items, Reads (value depth) d ∧ ∀ rest, Starts (renderChars d ++ rest)) :
    value (depth + 1) (renderChars (.list items) ++ rest) = .ok (.list items, rest) := by
  have length : items.length < (renderItems true items ++ ']' :: rest).length + 1 := by
    have := length_le_renderItems true fun d hd => (h d hd).2
    rw [List.length_append]
    omega
  have chars : renderChars (.list items) ++ rest = '[' :: (renderItems true items ++ ']' :: rest) :=
    by simp [renderChars]
  rw [chars, value, skipSpace_cons rfl]
  simp only [elements_renderItems rest length h, bind, Except.bind]

theorem value_object {fields : List (String × Data)} (rest : List Char)
    (h : ∀ f ∈ fields, Reads (value depth) f.2) :
    value (depth + 1) (renderChars (.object fields) ++ rest) = .ok (.object fields, rest) := by
  have length : fields.length <
      (renderFields true (Data.keyed fields) ++ '\x7d' :: rest).length + 1 :=
    by
      have := length_le_renderFields true fields
      rw [List.length_append]
      omega
  have chars : renderChars (.object fields) ++ rest =
      '\x7b' :: (renderFields true (Data.keyed fields) ++ '\x7d' :: rest) :=
    by simp [renderChars, Data.object, Data.keyed]
  rw [chars, value, skipSpace_cons rfl]
  simp only [members_renderFields rest length h, bind, Except.bind]

/-- A value comes back from what was written for it, whatever follows. -/
theorem value_renderChars (h : d.Nests n) : ∀ {depth : Nat}, n ≤ depth → Reads (value depth) d := by
  induction h with
  | null => exact fun _ rest => value_of_scalar rfl (by decide) (by decide)
  | bool b =>
    intro depth _ rest
    cases b <;> exact value_of_scalar rfl (by decide) (by decide)
  | text s =>
    intro depth _ rest
    rw [renderChars, scalarChars, quoteChars_append,
      value_of_scalar rfl (by decide) (by decide), scalar]
    simp [text_quoteChars, bind, Except.bind]
  | list h ih =>
    intro depth hd rest
    obtain ⟨depth, rfl⟩ : ∃ k, depth = k + 1 := ⟨depth - 1, by omega⟩
    exact value_list rest fun d hm =>
      ⟨ih d hm (Nat.le_of_succ_le_succ hd), starts_renderChars (h d hm)⟩
  | object h ih =>
    intro depth hd rest
    obtain ⟨depth, rfl⟩ : ∃ k, depth = k + 1 := ⟨depth - 1, by omega⟩
    exact value_object rest fun f hm => ih f hm (Nat.le_of_succ_le_succ hd)

/-- A text that was written for a value has the meaning of the value. -/
theorem decode_render {α : Type} {meaning : Data → Except Mismatch α} (h : d.Nests n)
    (hn : n ≤ depthLimit) : decode meaning (render d) =
      (meaning d).mapError fun m => ⟨.mismatch m, none⟩ := by
  have read : value depthLimit (render d).toList = .ok (d, []) := by
    have := value_renderChars h hn []
    rwa [render, String.toList_ofList, ← List.append_nil (renderChars d)]
  simp only [decode, read, Except.mapError, bind, Except.bind]
  cases meaning d <;> rfl

/-! ## Lists of texts -/

theorem renderItems_eq_intercalate : ∀ items : List Data,
    renderItems true items = [','].intercalate (items.map renderChars)
  | [] => by simp [renderItems]
  | [d] => by simp [renderItems]
  | d :: e :: items => by
    have ih := renderItems_eq_intercalate (e :: items)
    rw [renderItems_cons] at ih ⊢
    rw [renderItems_cons, List.map_cons, List.map_cons, List.intercalate_cons_cons, ← List.map_cons,
      ← ih]
    simp [separator]

/-- The text of a list is the texts of its elements, in brackets and with commas between them. -/
theorem render_list (items : List Data) :
    render (.list items) = "[" ++ ",".intercalate (items.map render) ++ "]" := by
  apply String.toList_injective
  simp [render, renderChars, renderItems_eq_intercalate, String.toList_intercalate,
    Function.comp_def]

end Json

end PageAccessors
