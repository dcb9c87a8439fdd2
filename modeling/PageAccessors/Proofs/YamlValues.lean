import Mathlib.Data.List.Forall2
import PageAccessors.Yaml.Field
import PageAccessors.Yaml.WellFormed

/-!
# Values and typed readings

What it means that a reading succeeds (`Reads`), and how the value of a node comes about
(`reads_valueOf`) and that of a text (`StandsUnder`). The value of a node decides what a typed
reading gives there: a text, a truth value, a number or a name (`reads_textField`,
`reads_boolField`, `reads_naturalField`, `reads_variantField_text`).
-/

namespace PageAccessors.Yaml

/-- A reading succeeds in a document; so many aliases have been followed before and after it. -/
def Reads {α : Type} (r : Reading α) (d : Document) (before : Nat) (a : α) (behind : Nat) : Prop :=
  (r.run d).run before = .ok (a, behind)

/-- A reading fails in a document, after so many aliases have been followed. -/
def Fails {α : Type} (r : Reading α) (d : Document) (before : Nat) (e : Error) : Prop :=
  (r.run d).run before = .error e

section

variable {α β : Type} {d : Document} {n m : Nat}

@[simp]
theorem reads_pure {a b : α} : Reads (pure a) d n b m ↔ a = b ∧ n = m := by
  show Except.ok (a, n) = Except.ok (b, m) ↔ _
  simp

theorem reads_bind {r : Reading α} {f : α → Reading β} {b : β} :
    Reads (r >>= f) d n b m ↔ ∃ a k, Reads r d n a k ∧ Reads (f a) d k b m := by
  show (((r.run d).run n) >>= fun p => ((f p.1).run d).run p.2) = _ ↔ _
  cases h : (r.run d).run n with
  | error e => simp [Reads, h, bind, Except.bind]
  | ok p =>
    obtain ⟨a, k⟩ := p
    simp only [Reads, h, bind, Except.bind, Except.ok.injEq, Prod.mk.injEq]
    exact ⟨fun hb => ⟨a, k, ⟨rfl, rfl⟩, hb⟩, fun ⟨_, _, ⟨ha, hk⟩, hb⟩ => ha ▸ hk ▸ hb⟩

theorem fails_bind {r : Reading α} {f : α → Reading β} {e : Error} :
    Fails (r >>= f) d n e ↔ Fails r d n e ∨ ∃ a k, Reads r d n a k ∧ Fails (f a) d k e := by
  show (((r.run d).run n) >>= fun p => ((f p.1).run d).run p.2) = _ ↔ _
  cases h : (r.run d).run n with
  | error e' => simp [Reads, Fails, h, bind, Except.bind]
  | ok p =>
    obtain ⟨a, k⟩ := p
    simp only [Reads, Fails, h, bind, Except.bind, reduceCtorEq, false_or, Except.ok.injEq,
      Prod.mk.injEq]
    exact ⟨fun hb => ⟨a, k, ⟨rfl, rfl⟩, hb⟩, fun ⟨_, _, ⟨ha, hk⟩, hb⟩ => ha ▸ hk ▸ hb⟩

@[simp]
theorem reads_throw {e : Error} {a : α} : ¬ Reads (throw e) d n a m := by
  intro h
  cases h

@[simp]
theorem reads_refuse {place : Place} {e : Mismatch} {a : α} :
    ¬ Reads (Reading.refuse place e) d n a m := reads_throw

theorem reads_read {e : Document} : Reads read d n e m ↔ d = e ∧ n = m := by
  show Except.ok (d, n) = Except.ok (e, m) ↔ _
  simp

theorem reads_get {k : Nat} : Reads get d n k m ↔ n = k ∧ n = m := by
  show Except.ok (n, n) = Except.ok (k, m) ↔ _
  simp

theorem reads_modify {f : Nat → Nat} {u : PUnit} : Reads (modify f) d n u m ↔ f n = m := by
  show Except.ok (PUnit.unit, f n) = Except.ok (u, m) ↔ _
  simp

theorem reads_map {r : Reading α} {f : α → β} {b : β} :
    Reads (f <$> r) d n b m ↔ ∃ a, Reads r d n a m ∧ f a = b := by
  rw [map_eq_pure_bind, reads_bind]
  simp

theorem reads_pair {r : Reading α} {r' : Reading β} {p : α × β} :
    Reads (do return (← r, ← r')) d n p m ↔ ∃ k, Reads r d n p.1 k ∧ Reads r' d k p.2 m := by
  obtain ⟨a, b⟩ := p
  simp only [reads_bind, reads_pure, Prod.mk.injEq]
  constructor
  · rintro ⟨_, k, ha, _, _, hb, ⟨rfl, rfl⟩, rfl⟩
    exact ⟨k, ha, hb⟩
  · rintro ⟨k, ha, hb⟩
    exact ⟨a, k, ha, b, m, hb, ⟨rfl, rfl⟩, rfl⟩

theorem reads_mapM_cons {f : α → Reading β} {x : α} {xs : List α} {ys : List β} :
    Reads ((x :: xs).mapM f) d n ys m ↔ ∃ y k ys', Reads (f x) d n y k ∧
      Reads (xs.mapM f) d k ys' m ∧ ys = y :: ys' := by
  rw [List.mapM_cons]
  simp only [reads_bind, reads_pure]
  grind

theorem reads_foldlM_cons {f : β → α → Reading β} {x : α} {xs : List α} {b c : β} :
    Reads ((x :: xs).foldlM f b) d n c m ↔ ∃ b' k, Reads (f b x) d n b' k ∧
      Reads (xs.foldlM f b') d k c m := by
  rw [List.foldlM_cons, reads_bind]

/-- What is read one after the other is read one by one. -/
theorem exists_of_reads_mapM {f : α → Reading β} {xs : List α} {ys : List β}
    (h : Reads (xs.mapM f) d n ys m) :
    (∀ x ∈ xs, ∃ y i j, Reads (f x) d i y j) ∧ ∀ y ∈ ys, ∃ x ∈ xs, ∃ i j, Reads (f x) d i y j := by
  induction xs generalizing n ys with
  | nil =>
    obtain ⟨rfl, -⟩ := reads_pure.1 h
    exact ⟨List.forall_mem_nil _, List.forall_mem_nil _⟩
  | cons x xs ih =>
    obtain ⟨y, k, ys, hy, hys, rfl⟩ := reads_mapM_cons.1 h
    obtain ⟨here, there⟩ := ih hys
    refine ⟨List.forall_mem_cons.2 ⟨⟨y, n, k, hy⟩, here⟩,
      List.forall_mem_cons.2 ⟨⟨x, .head _, n, k, hy⟩, fun y hm => ?_⟩⟩
    obtain ⟨x, hx, read⟩ := there y hm
    exact ⟨x, .tail _ hx, read⟩

theorem exists_of_reads_foldlM {f : β → α → Reading β} {xs : List α} {b c : β}
    (h : Reads (xs.foldlM f b) d n c m) : ∀ x ∈ xs, ∃ b' c' i j, Reads (f b' x) d i c' j := by
  induction xs generalizing n b with
  | nil => exact List.forall_mem_nil _
  | cons x xs ih =>
    obtain ⟨b', k, hx, hxs⟩ := reads_foldlM_cons.1 h
    exact List.forall_mem_cons.2 ⟨⟨b, b', n, k, hx⟩, ih hxs⟩

end

/-! ## What a node is -/

/-- The node that a node is, or stands for. -/
def Document.meant (d : Document) : Node → Option Node
  | .alias number => d.node? number
  | node => some node

variable {d : Document} {node target : Node} {n m : Nat}

theorem meant_of_follow (h : Reads (follow node) d n target m) : d.meant node = some target := by
  cases node with
  | «alias» number =>
    simp only [follow, reads_bind, reads_modify, reads_read, reads_get] at h
    obtain ⟨_, _, -, _, _, ⟨rfl, rfl⟩, _, _, ⟨rfl, rfl⟩, h⟩ := h
    rw [Document.meant]
    split_ifs at h
    · simp [reads_bind] at h
    · cases hn : d.node? number with
      | none => simp [hn] at h
      | some node =>
        simp only [hn, reads_pure] at h
        rw [h.1]
  | _ =>
    simp only [follow, reads_pure] at h
    exact congrArg some h.1

/-- A value without its name. -/
def Value.bare : Value → Value
  | .tagged _ v => v
  | v => v

theorem withTag_cases (tag : Option String) (v : Value) :
    tagName? tag = none ∧ withTag tag v = v ∨
      ∃ name, tagName? tag = some name ∧ withTag tag v = .tagged name v := by
  cases h : tagName? tag <;> simp [withTag, h]

theorem bare_withTag (tag : Option String) {v : Value} (hv : v.bare = v) :
    (withTag tag v).bare = v := by
  rcases withTag_cases tag v with ⟨-, he⟩ | ⟨name, -, he⟩
  · rw [he, hv]
  · rw [he]
    rfl

/-- Reads the keys and values of fields. -/
def readFields (f : Node → Reading Value) (fields : List (Node × Node)) :
    Reading (List (Value × Value)) :=
  fields.mapM fun field => do return (← f field.1, ← f field.2)

theorem reads_readFields_cons {f : Node → Reading Value} {field : Node × Node}
    {fields : List (Node × Node)} {vs : List (Value × Value)} :
    Reads (readFields f (field :: fields)) d n vs m ↔ ∃ key i value j rest,
      Reads (f field.1) d n key i ∧ Reads (f field.2) d i value j ∧
      Reads (readFields f fields) d j rest m ∧ vs = (key, value) :: rest := by
  rw [readFields, reads_mapM_cons]
  simp only [reads_pair]
  constructor
  · rintro ⟨⟨key, value⟩, j, rest, ⟨i, hk, hv⟩, hr, rfl⟩
    exact ⟨key, i, value, j, rest, hk, hv, hr, rfl⟩
  · rintro ⟨key, i, value, j, rest, hk, hv, hr, rfl⟩
    exact ⟨(key, value), j, rest, ⟨i, hk, hv⟩, hr, rfl⟩

/-- How a node has got its value. -/
inductive HasValue (d : Document) (node : Node) (n m : Nat) : Nat → Value → Prop
  | scalar {depth : Nat} {tag : Option String} {style : Style} {text : String} {x : Data}
    (hf : Reads (follow node) d n (.scalar tag style text) m)
    (hx : scalarValue "any value" tag style text = .ok x) :
    HasValue d node n m depth (withTag tag (.scalar x))
  | list {depth k : Nat} {tag : Option String} {items : List Node} {vs : List Value}
    (hf : Reads (follow node) d n (.list tag items) k)
    (hi : Reads (items.mapM (valueOf depth)) d k vs m) :
    HasValue d node n m (depth + 1) (withTag tag (.list vs))
  | record {depth k : Nat} {tag : Option String} {fields : List (Node × Node)}
    {vs : List (Value × Value)} (hf : Reads (follow node) d n (.record tag fields) k)
    (hi : Reads (readFields (valueOf depth) fields) d k vs m) :
    HasValue d node n m (depth + 1) (withTag tag (.record vs))

theorem reads_valueOf {depth : Nat} {v : Value} :
    Reads (valueOf depth node) d n v m ↔ HasValue d node n m depth v := by
  rw [valueOf, reads_bind]
  constructor
  · rintro ⟨target, k, hf, h⟩
    cases target with
    | «alias» number => simp at h
    | scalar tag style text =>
      cases hs : scalarValue "any value" tag style text with
      | error e => simp [hs] at h
      | ok x =>
        simp only [hs, reads_pure] at h
        obtain ⟨rfl, rfl⟩ := h
        exact .scalar hf hs
    | list tag items =>
      cases depth with
      | zero => simp at h
      | succ depth =>
        simp only [reads_bind, reads_pure] at h
        obtain ⟨vs, k', hi, rfl, rfl⟩ := h
        exact .list hf hi
    | record tag fields =>
      cases depth with
      | zero => simp at h
      | succ depth =>
        rw [reads_bind] at h
        obtain ⟨vs, k', hi, h⟩ := h
        obtain ⟨rfl, rfl⟩ := reads_pure.1 h
        exact .record hf hi
  · intro h
    cases h with
    | scalar hf hx => exact ⟨_, m, hf, by simp [hx]⟩
    | list hf hi => exact ⟨_, _, hf, reads_bind.2 ⟨_, m, hi, reads_pure.2 ⟨rfl, rfl⟩⟩⟩
    | record hf hi => exact ⟨_, _, hf, reads_bind.2 ⟨_, m, hi, reads_pure.2 ⟨rfl, rfl⟩⟩⟩

theorem reads_valueOf_scalar {depth : Nat} {tag : Option String} {style : Style} {text : String}
    {x : Data} (h : scalarValue "any value" tag style text = .ok x) :
    Reads (valueOf depth (.scalar tag style text)) d n (withTag tag (.scalar x)) n :=
  reads_valueOf.2 (.scalar (reads_pure.2 ⟨rfl, rfl⟩) h)

theorem reads_valueOf_list {depth : Nat} {items : List Node} {vs : List Value}
    (h : Reads (items.mapM (valueOf depth)) d n vs m) :
    Reads (valueOf (depth + 1) (.list none items)) d n (.list vs) m := by
  have hf : Reads (follow (.list none items)) d n (.list none items) n := reads_pure.2 ⟨rfl, rfl⟩
  have := HasValue.list hf h
  exact reads_valueOf.2 this

theorem reads_valueOf_record {depth : Nat} {fields : List (Node × Node)}
    {vs : List (Value × Value)} (h : Reads (readFields (valueOf depth) fields) d n vs m) :
    Reads (valueOf (depth + 1) (.record none fields)) d n (.record vs) m := by
  have hf : Reads (follow (.record none fields)) d n (.record none fields) n :=
    reads_pure.2 ⟨rfl, rfl⟩
  have := HasValue.record hf h
  exact reads_valueOf.2 this

/-! ## What texts stand for -/

section

variable {s text : String} {b : Bool} {k : Nat} {data : Data}

/-- How a text is a whole number. -/
inductive IsWhole (text : String) : Data → Prop
  | natural {n : Nat} (h : natural? text.toList = some n) (hn : n < 1 <<< 64) :
    IsWhole text (.natural n)
  | negative (n : Nat) : IsWhole text (.negative n)

/-- How a text without quotes gets its value. -/
inductive StandsFor (text : String) : Data → Prop
  | null (h : standsForNull text = true) : StandsFor text .null
  | bool {b : Bool} (h : boolOfText? text = some b) : StandsFor text (.bool b)
  | whole {data : Data} (h : IsWhole text data) : StandsFor text data
  | float (x : Float) : StandsFor text (.float x)
  | text : StandsFor text (.text text)

theorem isWhole_of_whole? (h : whole? text.toList = some (.ok data)) : IsWhole text data := by
  unfold whole? at h
  split at h
  · rename_i n hn
    split_ifs at h with bound
    · cases h
      exact .natural hn bound
    · cases h
  · split at h
    · split_ifs at h
      · cases h
        exact .negative _
      · cases h
    · cases h

theorem standsFor_of_plainValue (h : plainValue text = .ok data) : StandsFor text data := by
  by_cases null : standsForNull text = true
  · rw [plainValue, if_pos null] at h
    cases h
    exact .null null
  · rw [plainValue, if_neg null] at h
    split at h
    · rename_i b hb
      cases h
      exact .bool hb
    · split at h
      · rename_i value hv
        subst h
        exact .whole (isWhole_of_whole? hv)
      · split at h
        · cases h
          exact .text
        · split at h <;> cases h
          · exact .float _
          · exact .text

/-- How a text gets its value under its tag. -/
inductive StandsUnder (text : String) (tag : Option String) (style : Style) : Data → Prop
  | plain {data : Data} (hs : style = .plain) (h : StandsFor text data) :
    StandsUnder text tag style data
  | bool {b : Bool} (ht : tag = some (coreTag "bool")) (h : boolOfText? text = some b) :
    StandsUnder text tag style (.bool b)
  | int {data : Data} (ht : tag = some (coreTag "int")) (h : IsWhole text data) :
    StandsUnder text tag style data
  | float (x : Float) : StandsUnder text tag style (.float x)
  | null (ht : tag = some (coreTag "null")) : StandsUnder text tag style .null
  | text : StandsUnder text tag style (.text text)

theorem standsUnder_of_scalarValue {expected : String} {tag : Option String} {style : Style}
    (h : scalarValue expected tag style text = .ok data) : StandsUnder text tag style data := by
  have narrow {value : Except Int Data} {e : Int → Mismatch} (h : value.mapError e = .ok data) :
      value = .ok data := by
    cases value <;> simp_all [Except.mapError]
  have refused {kind : String} {found : Option Data} (h : orRefused text kind found = .ok data) :
      found = some data := by
    cases found <;> simp_all [orRefused]
  cases tag with
  | none =>
    simp only [scalarValue] at h
    split_ifs at h with hs
    · exact .plain hs (standsFor_of_plainValue (narrow h))
    · cases h
      exact .text
  | some tag =>
    simp only [scalarValue] at h
    split_ifs at h with ht ht ht ht null hs
    · obtain ⟨b, hb, rfl⟩ := Option.map_eq_some_iff.1 (refused h)
      exact .bool (by rw [ht]) hb
    · split at h
      · rename_i value hv
        refine .int (by rw [ht]) (isWhole_of_whole? ?_)
        rw [hv, narrow h]
      · cases refused h
    · obtain ⟨x, -, rfl⟩ := Option.map_eq_some_iff.1 (refused h)
      exact .float x
    · cases refused h
      exact .null (by rw [ht])
    · cases refused h
    · exact .plain hs.2 (standsFor_of_plainValue (narrow h))
    · cases h
      exact .text

end

/-! ## Texts, names, truth values and numbers -/

variable {depth : Nat} {x : Data} {v : Value}

section

variable (h : Reads (valueOf depth node) d n v m)

include h

theorem exists_of_bare_scalar (hv : v.bare = .scalar x) :
    ∃ tag style text, Reads (follow node) d n (.scalar tag style text) m ∧
      v = withTag tag (.scalar x) ∧ scalarValue "any value" tag style text = .ok x := by
  cases reads_valueOf.1 h with
  | scalar hf hx =>
    rw [bare_withTag _ rfl, Value.scalar.injEq] at hv
    subst hv
    exact ⟨_, _, _, hf, rfl, hx⟩
  | list => rw [bare_withTag _ rfl] at hv; cases hv
  | record => rw [bare_withTag _ rfl] at hv; cases hv

theorem exists_of_bare_list {vs : List Value} (hv : v.bare = .list vs) :
    ∃ deep tag items k, depth = deep + 1 ∧ Reads (follow node) d n (.list tag items) k ∧
      v = withTag tag (.list vs) ∧ Reads (items.mapM (valueOf deep)) d k vs m := by
  cases reads_valueOf.1 h with
  | list hf hi =>
    rw [bare_withTag _ rfl, Value.list.injEq] at hv
    subst hv
    exact ⟨_, _, _, _, rfl, hf, rfl, hi⟩
  | scalar => rw [bare_withTag _ rfl] at hv; cases hv
  | record => rw [bare_withTag _ rfl] at hv; cases hv

theorem exists_of_bare_record {vs : List (Value × Value)} (hv : v.bare = .record vs) :
    ∃ deep tag fields k, depth = deep + 1 ∧ Reads (follow node) d n (.record tag fields) k ∧
      v = withTag tag (.record vs) ∧ Reads (readFields (valueOf deep) fields) d k vs m := by
  cases reads_valueOf.1 h with
  | record hf hi =>
    rw [bare_withTag _ rfl, Value.record.injEq] at hv
    subst hv
    exact ⟨_, _, _, _, rfl, hf, rfl, hi⟩
  | scalar => rw [bare_withTag _ rfl] at hv; cases hv
  | list => rw [bare_withTag _ rfl] at hv; cases hv

end

/-- A scalar without a name is what a text stands for. -/
theorem exists_of_reads_scalar (h : Reads (valueOf depth node) d n (.scalar x) m) :
    ∃ tag style text, Reads (follow node) d n (.scalar tag style text) m ∧ tagName? tag = none ∧
      scalarValue "any value" tag style text = .ok x := by
  obtain ⟨tag, style, text, hf, hv, hx⟩ := exists_of_bare_scalar h rfl
  rcases withTag_cases tag (.scalar x) with ⟨ht, -⟩ | ⟨name, -, he⟩
  · exact ⟨tag, style, text, hf, ht, hx⟩
  · rw [he] at hv
    cases hv

theorem exists_of_reads_text {s : String}
    (h : Reads (valueOf depth node) d n (.scalar (.text s)) m) :
    ∃ tag style, Reads (follow node) d n (.scalar tag style s) m ∧ tagName? tag = none := by
  obtain ⟨tag, style, text, hf, ht, hx⟩ := exists_of_reads_scalar h
  obtain rfl : s = text := by
    cases standsUnder_of_scalarValue hx with
    | plain _ h =>
      cases h with
      | whole h => nomatch h
      | text => rfl
    | int _ h => nomatch h
    | text => rfl
  exact ⟨tag, style, hf, ht⟩

/-- A text without a name is read as it is written. -/
theorem reads_textField (expected : String) (place : Place) {s : String}
    (h : Reads (valueOf depth node) d n (.scalar (.text s)) m) :
    Reads (textField expected place node) d n s m := by
  obtain ⟨tag, style, hf, -⟩ := exists_of_reads_text h
  rw [textField, reads_bind]
  exact ⟨_, _, hf, reads_pure.2 ⟨rfl, rfl⟩⟩

section

variable (place : Place) (hs : ∀ tag text, d.meant node ≠ some (.scalar tag .other text))

include hs

/-- A truth value is read as one, unless its text is in quotes or folded. -/
theorem reads_boolField {b : Bool} (h : Reads (valueOf depth node) d n (.scalar (.bool b)) m) :
    Reads (boolField place node) d n b m := by
  obtain ⟨tag, style, text, hf, -, hx⟩ := exists_of_reads_scalar h
  have may : mayStandFor "bool" tag style = true ∧ boolOfText? text = some b := by
    cases standsUnder_of_scalarValue hx with
    | plain hs h =>
      cases h with
      | bool h => exact ⟨by simp [mayStandFor, hs], h⟩
      | whole h => nomatch h
    | bool ht h =>
      refine ⟨?_, h⟩
      cases style with
      | other => exact absurd (meant_of_follow hf) (hs tag text)
      | _ => simp [mayStandFor, ht]
    | int ht h => nomatch h
  rw [boolField, reads_bind]
  exact ⟨_, _, hf, by simp [may]⟩

/-- A natural number is read as one, unless its text is in quotes or folded. -/
theorem reads_naturalField {k : Nat}
    (h : Reads (valueOf depth node) d n (.scalar (.natural k)) m) :
    Reads (naturalField place node) d n k m := by
  obtain ⟨tag, style, text, hf, -, hx⟩ := exists_of_reads_scalar h
  have may : mayStandFor "int" tag style = true ∧ natural? text.toList = some k ∧
      k < 1 <<< 64 := by
    cases standsUnder_of_scalarValue hx with
    | plain hs h =>
      cases h with
      | whole h =>
        cases h with
        | natural h bound => exact ⟨by simp [mayStandFor, hs], h, bound⟩
    | int ht h =>
      cases h with
      | natural h bound =>
        refine ⟨?_, h, bound⟩
        cases style with
        | other => exact absurd (meant_of_follow hf) (hs tag text)
        | _ => simp [mayStandFor, ht]
  rw [naturalField, reads_bind]
  exact ⟨_, _, hf, by simp only [may, if_true, reads_pure, and_self]⟩

end

section

variable {α : Type} {choices : List (String × α)} {place : Place} {name : String} {a : α}

theorem reads_choose {place : Option Place} (h : choices.lookup name = some a) :
    Reads (choose choices place name) d n a n := by
  simp [choose, h]

theorem reads_variantField_text (hc : choices.lookup name = some a)
    (h : Reads (valueOf depth node) d n (.scalar (.text name)) m) :
    Reads (variantField choices place node) d n a m := by
  obtain ⟨tag, style, hf, ht⟩ := exists_of_reads_text h
  rw [variantField, reads_bind]
  refine ⟨_, _, hf, ?_⟩
  simp only [ht]
  exact reads_choose hc

/-- A name may be said by the tag of nothing. -/
theorem reads_variantField_tag (hc : choices.lookup name = some a)
    (h : Reads (valueOf depth node) d n (.tagged name (.scalar .null)) m) :
    Reads (variantField choices place node) d n a m := by
  obtain ⟨tag, style, text, hf, hv, hx⟩ := exists_of_bare_scalar h rfl
  have ht : tagName? tag = some name := by
    rcases withTag_cases tag (.scalar .null) with ⟨-, he⟩ | ⟨name, ht, he⟩ <;> rw [he] at hv <;>
      cases hv
    exact ht
  obtain ⟨hs, null⟩ : style = .plain ∧ standsForNull text = true := by
    cases standsUnder_of_scalarValue hx with
    | plain hs h =>
      cases h with
      | null h => exact ⟨hs, h⟩
      | whole h => nomatch h
    | int _ h => nomatch h
    | null hn =>
      have none : tagName? (some (coreTag "null")) = none := by decide
      rw [hn, none] at ht
      cases ht
  rw [variantField, reads_bind]
  refine ⟨_, _, hf, ?_⟩
  simp only [ht, chooseByTag, reads_bind]
  exact ⟨a, m, reads_choose hc, (), m, by simp [nothingElse, hs, null], reads_pure.2 ⟨rfl, rfl⟩⟩

end

/-! ## Texts -/

/-- The value of a text, with the names in it. -/
def load (text : String) : Except Error Value :=
  readText (fun node => match node with
    | none => pure (.scalar .null)
    | some node => valueOf depthLimit node) text

variable {text : String}

theorem readText_eq_ok {α : Type} {reader : Option Node → Reading α} {a : α}
    (hd : First.ofText text = .document d .nothing) (h : Reads (reader (some d.root)) d 0 a m) :
    readText reader text = .ok a := by
  have within : (reader (some d.root)).within d = .ok a := by
    rw [Reading.within, h]
    rfl
  rw [readText, hd]
  simp only [within]
  rfl

theorem readText_eq_error {α : Type} {reader : Option Node → Reading α} {d : Document}
    {following : Following} {e : Error} (hd : First.ofText text = .document d following)
    (h : Fails (reader (some d.root)) d 0 e) : readText reader text = .error e := by
  have within : (reader (some d.root)).within d = .error e := by
    rw [Reading.within, h]
    rfl
  rw [readText, hd]
  simp only [within]
  rfl

/-- What is read from a document is all that the text holds. -/
theorem reads_of_readText_eq_ok {α : Type} {reader : Option Node → Reading α} {a : α}
    {d : Document} {following : Following} (hd : First.ofText text = .document d following)
    (h : readText reader text = .ok a) :
    following = .nothing ∧ ∃ m, Reads (reader (some d.root)) d 0 a m := by
  rw [readText, hd] at h
  simp only [Reading.within] at h
  cases hr : ((reader (some d.root)).run d).run 0 with
  | error e =>
    rw [hr] at h
    cases h
  | ok p =>
    obtain ⟨b, m⟩ := p
    rw [hr] at h
    cases following <;> cases h
    exact ⟨rfl, m, hr⟩

/-- A text that holds a record is one document. -/
theorem exists_document_of_load {fields : List (Value × Value)} (h : load text = .ok v)
    (hv : v.bare = .record fields) : ∃ d m, First.ofText text = .document d .nothing ∧
      Reads (valueOf depthLimit d.root) d 0 v m := by
  cases hd : First.ofText text with
  | unreadable =>
    rw [load, readText, hd] at h
    cases h
  | nothing =>
    rw [load, readText, hd] at h
    cases h
    cases hv
  | document d following =>
    obtain ⟨rfl, m, read⟩ := reads_of_readText_eq_ok hd h
    exact ⟨d, m, rfl, read⟩

end PageAccessors.Yaml
