import PageAccessors.Proofs.YamlValues

/-!
# Values without names

Data has no names, so that a node is read as data exactly if no part of its value has one
(`reads_dataOf_iff`).
-/

namespace PageAccessors.Yaml

variable {d : Document} {node : Node} {n m depth : Nat} {x : Data} {v : Value}

/-- A value none of whose parts has a name. -/
inductive Value.Untagged : Value → Prop
  | scalar (x : Data) : Untagged (.scalar x)
  | list {items : List Value} (h : ∀ v ∈ items, Untagged v) : Untagged (.list items)
  | record {fields : List (Value × Value)} (hk : ∀ f ∈ fields, Untagged f.1)
    (hv : ∀ f ∈ fields, Untagged f.2) : Untagged (.record fields)

/-- In a value without names, only the parts of a text have to be followed. -/
theorem reads_dataOf_scalar (place : Place)
    (h : Reads (valueOf depth node) d n (.scalar x) m) :
    Reads (dataOf depth place node) d n x m := by
  obtain ⟨tag, style, text, hf, ht, hx⟩ := exists_of_reads_scalar h
  rw [dataOf, reads_bind]
  exact ⟨_, _, hf, by simp [dataOfScalar, ht, hx]⟩

theorem tagName?_of_untagged {tag : Option String} {w : Value} (h : (withTag tag w).Untagged) :
    tagName? tag = none := by
  rcases withTag_cases tag w with ⟨ht, -⟩ | ⟨name, -, he⟩
  · exact ht
  · rw [he] at h
    nomatch h

/-- The items of a list are read one after the other, each at its own place. -/
theorem exists_reads_items {f : Node → Reading Value} {g : Place → Node → Reading Data}
    (place : Place) {items : List Node} {vs : List Value} (h : Reads (items.mapM f) d n vs m)
    (hg : ∀ v ∈ vs, ∀ item place n m, Reads (f item) d n v m →
      ∃ x, Reads (g place item) d n x m) :
    ∃ xs, Reads ((itemsWithPlaces place items).mapM fun (p, item) => g p item) d n xs m := by
  rw [itemsWithPlaces]
  generalize 0 = first
  induction items generalizing n vs first with
  | nil =>
    obtain ⟨-, rfl⟩ := reads_pure.1 h
    exact ⟨[], reads_pure.2 ⟨rfl, rfl⟩⟩
  | cons item items ih =>
    obtain ⟨v, k, vs, hv, hvs, rfl⟩ := reads_mapM_cons.1 h
    rw [List.forall_mem_cons] at hg
    obtain ⟨x, hx⟩ := hg.1 item (.item place first) n k hv
    obtain ⟨xs, hxs⟩ := ih hvs hg.2 (first + 1)
    exact ⟨x :: xs, reads_mapM_cons.2 ⟨x, k, xs, hx, hxs, rfl⟩⟩

/-- The fields of a record are read one after the other, each value at the place of its key. -/
theorem exists_reads_fields {f : Node → Reading Value} {g : Place → Node → Reading Data}
    (place : Place) {fields : List (Node × Node)} {vs : List (Value × Value)}
    (h : Reads (readFields f fields) d n vs m)
    (hg : ∀ v ∈ vs, ∀ place n m,
      (∀ key, Reads (f key) d n v.1 m → ∃ x, Reads (g place key) d n x m) ∧
        ∀ value, Reads (f value) d n v.2 m → ∃ x, Reads (g place value) d n x m) :
    ∃ xs, Reads (fields.mapM fun field => do
      return (← g place field.1, ← g (place.ofKey field.1) field.2)) d n xs m := by
  induction fields generalizing n vs with
  | nil =>
    obtain ⟨-, rfl⟩ := reads_pure.1 h
    exact ⟨[], reads_pure.2 ⟨rfl, rfl⟩⟩
  | cons field fields ih =>
    obtain ⟨v, i, w, j, rest, hkey, hvalue, hrest, rfl⟩ := reads_readFields_cons.1 h
    rw [List.forall_mem_cons] at hg
    obtain ⟨x, hx⟩ := (hg.1 place n i).1 _ hkey
    obtain ⟨y, hy⟩ := (hg.1 (place.ofKey field.1) i j).2 _ hvalue
    obtain ⟨xs, hxs⟩ := ih hrest hg.2
    exact ⟨(x, y) :: xs, reads_mapM_cons.2 ⟨(x, y), j, xs, reads_pair.2 ⟨i, hx, hy⟩, hxs, rfl⟩⟩

/-- A value without names can be read as data. -/
theorem exists_reads_dataOf (hv : v.Untagged) : ∀ {depth : Nat} {node : Node} {n m : Nat}
    (place : Place), Reads (valueOf depth node) d n v m →
      ∃ data, Reads (dataOf depth place node) d n data m := by
  induction hv with
  | scalar x => exact fun place h => ⟨x, reads_dataOf_scalar place h⟩
  | @list vs hvs ih =>
    intro depth node n m place h
    obtain ⟨deep, tag, items, k, rfl, hf, hv, hi⟩ := exists_of_bare_list h rfl
    have ht := tagName?_of_untagged (hv ▸ Value.Untagged.list hvs)
    obtain ⟨xs, hxs⟩ := exists_reads_items place hi fun v hm item place n m h =>
      ih v hm place h
    refine ⟨.list xs, ?_⟩
    rw [dataOf, reads_bind]
    refine ⟨_, _, hf, ?_⟩
    simp only [ht, Option.isSome_none, Bool.false_eq_true, if_false, reads_bind, reads_pure]
    exact ⟨xs, m, hxs, rfl, rfl⟩
  | @record vs hk hvs ihk ihv =>
    intro depth node n m place h
    obtain ⟨deep, tag, fields, k, rfl, hf, hv, hi⟩ := exists_of_bare_record h rfl
    have ht := tagName?_of_untagged (hv ▸ Value.Untagged.record hk hvs)
    obtain ⟨xs, hxs⟩ := exists_reads_fields place hi fun v hm place n m =>
      ⟨fun key h => ihk v hm place h, fun value h => ihv v hm place h⟩
    refine ⟨.record xs, ?_⟩
    rw [dataOf, reads_bind]
    refine ⟨_, _, hf, ?_⟩
    simp only [ht, Option.isSome_none, Bool.false_eq_true, if_false]
    rw [reads_bind]
    exact ⟨xs, m, hxs, reads_pure.2 ⟨rfl, rfl⟩⟩

/-! ## Nodes that are data -/

/-- A node without names, with whatever stands below it. -/
inductive IsData (d : Document) : Node → Prop
  | scalar {node : Node} {tag : Option String} {style : Style} {text : String}
    (hm : d.meant node = some (.scalar tag style text)) (ht : tagName? tag = none) : IsData d node
  | list {node : Node} {tag : Option String} {items : List Node}
    (hm : d.meant node = some (.list tag items)) (ht : tagName? tag = none)
    (hi : ∀ item ∈ items, IsData d item) : IsData d node
  | record {node : Node} {tag : Option String} {fields : List (Node × Node)}
    (hm : d.meant node = some (.record tag fields)) (ht : tagName? tag = none)
    (hk : ∀ field ∈ fields, IsData d field.1) (hv : ∀ field ∈ fields, IsData d field.2) :
    IsData d node

theorem isData_of_reads {place : Place} (h : Reads (dataOf depth place node) d n x m) :
    IsData d node := by
  have refused {β : Type} {f : PUnit → Reading β} {place : Place} {b : β} {n m : Nat} :
      ¬ Reads (Reading.refuse place .taggedValue >>= f) d n b m := by simp [reads_bind]
  induction depth using Nat.strongRecOn generalizing place node n x m with
  | ind depth ih =>
    rw [dataOf, reads_bind] at h
    obtain ⟨target, k, hf, h⟩ := h
    have hm := meant_of_follow hf
    cases target with
    | «alias» number => simp at h
    | scalar tag style text =>
      cases ht : tagName? tag with
      | none => exact .scalar hm ht
      | some name => simp [dataOfScalar, ht] at h
    | list tag items =>
      cases ht : tagName? tag with
      | some name =>
        simp only [ht, Option.isSome_some, if_true] at h
        exact absurd h refused
      | none =>
        simp only [ht, Option.isSome_none, Bool.false_eq_true, if_false] at h
        cases depth with
        | zero => simp at h
        | succ depth =>
          obtain ⟨xs, _, hi, -⟩ := reads_bind.1 h
          refine .list hm ht fun item hitem => ?_
          obtain ⟨i, hi'⟩ := List.getElem?_of_mem hitem
          have placed : (.item place i, item) ∈ itemsWithPlaces place items :=
            List.mem_map.2 ⟨(item, i), List.mem_zipIdx_iff_getElem?.2 hi', rfl⟩
          obtain ⟨x, n, m, read⟩ := (exists_of_reads_mapM hi).1 _ placed
          exact ih depth depth.lt_succ_self read
    | record tag fields =>
      cases ht : tagName? tag with
      | some name =>
        simp only [ht, Option.isSome_some, if_true] at h
        exact absurd h refused
      | none =>
        simp only [ht, Option.isSome_none, Bool.false_eq_true, if_false] at h
        cases depth with
        | zero => simp at h
        | succ depth =>
          obtain ⟨xs, _, hi, -⟩ := reads_bind.1 h
          have read (field : Node × Node) (hm : field ∈ fields) := (exists_of_reads_mapM hi).1 _ hm
          refine .record hm ht (fun field hm => ?_) fun field hm => ?_
          · obtain ⟨x, n, m, read⟩ := read field hm
            obtain ⟨k, hkey, -⟩ := reads_pair.1 read
            exact ih depth depth.lt_succ_self hkey
          · obtain ⟨x, n, m, read⟩ := read field hm
            obtain ⟨k, -, hvalue⟩ := reads_pair.1 read
            exact ih depth depth.lt_succ_self hvalue

/-- The value of a node without names is without names. -/
theorem IsData.untagged (hd : IsData d node) (h : Reads (valueOf depth node) d n v m) :
    v.Untagged := by
  induction hd generalizing depth n m v with
  | scalar hm ht =>
    cases reads_valueOf.1 h with
    | scalar hf hx =>
      cases hm.symm.trans (meant_of_follow hf)
      simpa [withTag, ht] using Value.Untagged.scalar _
    | list hf hi => cases hm.symm.trans (meant_of_follow hf)
    | record hf hi => cases hm.symm.trans (meant_of_follow hf)
  | list hm ht hi ih =>
    cases reads_valueOf.1 h with
    | list hf hi =>
      cases hm.symm.trans (meant_of_follow hf)
      rw [withTag, ht]
      refine .list fun w hw => ?_
      obtain ⟨item, hitem, _, _, read⟩ := (exists_of_reads_mapM hi).2 w hw
      exact ih item hitem read
    | scalar hf hx => cases hm.symm.trans (meant_of_follow hf)
    | record hf hi => cases hm.symm.trans (meant_of_follow hf)
  | record hm ht hk hv ihk ihv =>
    cases reads_valueOf.1 h with
    | record hf hi =>
      cases hm.symm.trans (meant_of_follow hf)
      rw [withTag, ht]
      have read (w : Value × Value) (hw : w ∈ _) := (exists_of_reads_mapM hi).2 w hw
      refine .record (fun w hw => ?_) fun w hw => ?_
      · obtain ⟨field, hfield, _, _, read⟩ := read w hw
        obtain ⟨_, hkey, -⟩ := reads_pair.1 read
        exact ihk field hfield hkey
      · obtain ⟨field, hfield, _, _, read⟩ := read w hw
        obtain ⟨_, -, hvalue⟩ := reads_pair.1 read
        exact ihv field hfield hvalue
    | scalar hf hx => cases hm.symm.trans (meant_of_follow hf)
    | list hf hi => cases hm.symm.trans (meant_of_follow hf)

/-- A node with a value is read as data exactly if no part of the value has a name. -/
theorem reads_dataOf_iff (place : Place) (h : Reads (valueOf depth node) d n v m) :
    (∃ x, Reads (dataOf depth place node) d n x m) ↔ v.Untagged := by
  constructor
  · rintro ⟨x, read⟩
    exact (isData_of_reads read).untagged h
  · exact fun hv => exists_reads_dataOf hv place h

end PageAccessors.Yaml
