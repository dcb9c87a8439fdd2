import Mathlib.Data.List.Basic
import Mathlib.Tactic.SplitIfs
import PageAccessors.Proofs.YamlTokens
import PageAccessors.Proofs.YamlValues

/-!
# Documents of written records

The text of a record holds printable characters only, so that its tokens are those of its fields
(`tokens_render`), and its document is the record (`First.ofText_render`). A number is read back
from its digits (`plainValue_toString`), and any other value from how it is written
(`scalarValue_written`); so the value of the text is the record (`load_render`).
-/

namespace PageAccessors.Yaml

open Scanner

/-! ## Texts of records -/

theorem forall_mem_indented {P : Char → Prop} {f : Char → List Char} (space : P ' ')
    {s : List Char} (h : ∀ c ∈ s, P c ∧ ∀ d ∈ f c, P d) (b : Bool) :
    ∀ d ∈ indented f b s, P d := by
  induction s generalizing b with
  | nil => nofun
  | cons c s ih =>
    rw [List.forall_mem_cons] at h
    rw [indented]
    split_ifs
    · exact List.forall_mem_cons.2 ⟨h.1.1, ih h.2 true⟩
    all_goals
      simp only [List.forall_mem_append]
      exact ⟨⟨by simp [space], h.1.2⟩, ih h.2 false⟩

theorem isPrintable_of_mem_textChars (s : String) : ∀ c ∈ textChars s, isPrintable c = true := by
  have double : ∀ c ∈ doubleQuoted s.toList, isPrintable c = true := by
    rw [doubleQuoted_eq]
    simp only [List.forall_mem_cons, List.forall_mem_append, List.mem_flatMap]
    exact ⟨rfl, fun c ⟨d, _, hc⟩ => (doubleChar_line d c hc).1, rfl, nofun⟩
  rw [textChars]
  split_ifs with lines allowed plain single
  · simp only [blockAllowed, Bool.and_eq_true, Bool.not_eq_true'] at allowed
    have printable := isPrintable_of_not_needsEscapes allowed.1.2
    have marks : ∀ c ∈ blockMarks s.toList, isPrintable c = true := by
      simp only [blockMarks, List.forall_mem_append]
      constructor
      · split_ifs <;> exact List.all_eq_true.1 rfl
      · repeat' split
        all_goals exact List.all_eq_true.1 rfl
    rw [block]
    simp only [List.forall_mem_append, List.forall_mem_cons]
    refine ⟨⟨rfl, marks⟩, rfl,
      forall_mem_indented (P := (isPrintable · = true)) rfl (fun c hc => ⟨printable c hc, ?_⟩) true⟩
    simpa using printable c hc
  · exact double
  · simp only [plainAllowed, Bool.and_eq_true, Bool.not_eq_true'] at plain
    exact isPrintable_of_not_needsEscapes plain.2.1.1.1.1.1
  · simp only [singleAllowed, Bool.and_eq_true, Bool.not_eq_true'] at single
    have printable := isPrintable_of_not_needsEscapes single.1
    rw [singleQuoted_eq, singleRest]
    simp only [List.forall_mem_append, List.forall_mem_cons]
    refine ⟨rfl, forall_mem_indented (P := (isPrintable · = true)) rfl
      (fun c hc => ⟨printable c hc, ?_⟩) false, ?_⟩
    · intro d hd
      exact printable d (mem_of_mem_singleChars (s := s.toList) (List.mem_flatMap.2 ⟨c, hc, hd⟩))
    · split_ifs <;> exact List.all_eq_true.1 rfl
  · exact double

theorem isPrintable_of_mem_valueLine (v : Simple) : ∀ c ∈ valueLine v, isPrintable c = true := by
  cases v <;> simp only [valueLine, List.forall_mem_append]
  case text s =>
    refine ⟨isPrintable_of_mem_textChars s, ?_⟩
    split_ifs <;> exact List.all_eq_true.1 rfl
  case bool b => exact ⟨by cases b <;> exact List.all_eq_true.1 rfl, List.all_eq_true.1 rfl⟩
  case natural n =>
    refine ⟨fun c hc => isPrintable_of_isDigit ?_, List.all_eq_true.1 rfl⟩
    rw [Simple.chars, show (toString n).toList = Nat.toDigits 10 n from Nat.toList_repr] at hc
    exact Nat.isDigit_of_mem_toDigits (by decide) (by decide) hc

theorem isPrintable_of_mem_recordChars {fields : List (String × Simple)}
    (hf : ∀ f ∈ fields, IsKeyName f.1.toList) :
    ∀ c ∈ recordChars fields, isPrintable c = true := by
  induction fields with
  | nil => nofun
  | cons f fields ih =>
    obtain ⟨key, v⟩ := f
    rw [List.forall_mem_cons] at hf
    rw [recordChars_cons]
    simp only [List.forall_mem_append, List.forall_mem_cons]
    exact ⟨fun c hc => (isPrintable_of_isKeyChar (hf.1.chars c hc)).1, rfl, rfl,
      isPrintable_of_mem_valueLine v, ih hf.2⟩

theorem isAllowed_of_isPrintable {c : Char} (h : isPrintable c = true) : isAllowed c = true := by
  simp only [isPrintable, isAllowed, Bool.or_eq_true, Bool.and_eq_true] at h ⊢
  tauto

theorem uniformBreaks_eq {s : List Char} (h : ∀ c ∈ s, isPrintable c = true) :
    uniformBreaks s = s := by
  induction s with
  | nil => rfl
  | cons c s ih =>
    rw [List.forall_mem_cons] at h
    rw [uniformBreaks, ih h.2]
    all_goals
      intros
      subst_vars
      cases h.1

theorem length_le_recordChars (fields : List (String × Simple)) :
    fields.length ≤ (recordChars fields).length := by
  induction fields with
  | nil => exact Nat.le_refl _
  | cons f fields ih =>
    obtain ⟨key, v⟩ := f
    rw [recordChars_cons]
    simp only [List.length_append, List.length_cons]
    omega

/-- The tokens of a written record. -/
theorem tokens_render {fields : List (String × Simple)} (ne : fields ≠ [])
    (hf : ∀ f ∈ fields, IsKeyName f.1.toList) :
    tokens (render fields) =
      .blockRecordStart :: (fields.flatMap fieldTokens ++ [.blockEnd, .streamEnd]) := by
  have printable := isPrintable_of_mem_recordChars hf
  have allowed : (recordChars fields).all isAllowed = true :=
    List.all_eq_true.2 fun c hc => isAllowed_of_isPrintable (printable c hc)
  have text : (render fields).toList = recordChars fields := String.toList_ofList
  rw [tokens, text, if_pos allowed, uniformBreaks_eq printable]
  obtain ⟨⟨key, v⟩, rest, rfl⟩ := List.exists_cons_of_ne_nil ne
  have past := pastSpace_line (s := Scanner.ofText (recordChars ((key, v) :: rest)))
    (startsLine_recordChars hf) (recordChars ((key, v) :: rest)).length
  have length := length_le_recordChars ((key, v) :: rest)
  rw [List.forall_mem_cons] at hf
  obtain ⟨c, b, n, ends, field⟩ := tokens_field .outside hf.1 v
    (s := Scanner.ofText (recordChars ((key, v) :: rest))) (m := ⟨0, 0, 0⟩) (n := 0)
    (startsLine_recordChars hf.2).stops rfl rfl (by rw [← recordChars_cons]; exact past)
  obtain ⟨fuel, hfuel⟩ : ∃ fuel, 8 * ((recordChars ((key, v) :: rest)).length + 2) =
      fuel + (7 * rest.length + 3) + ([Token.blockRecordStart].length + 7) := by
    refine ⟨8 * ((recordChars ((key, v) :: rest)).length + 2) - (7 * rest.length + 11), ?_⟩
    simp only [List.length_cons, List.length_nil] at length ⊢
    omega
  show Scanner.tokens (8 * ((recordChars ((key, v) :: rest)).length + 2))
    (Scanner.ofText (recordChars ((key, v) :: rest))) = _
  rw [hfuel, field, tokens_fields hf.2 ends]
  simp

/-! ## Documents of records -/

namespace Draft

theorem blockFields_end (fuel : Nat) (handles : List (String × String)) (k : Nat) :
    blockFields (fuel + 1) ⟨[.blockEnd, .streamEnd], handles, [], [], k⟩ =
      some ([], ⟨[.streamEnd], handles, [], [], k + 1⟩) := rfl

theorem blockFields_cons (fuel : Nat) (key : String) (style : Style) (text : String)
    (ts : List Token) (handles : List (String × String)) (k : Nat) :
    blockFields (fuel + 3)
        ⟨.key :: .scalar .plain key :: .value :: .scalar style text :: ts, handles, [], [], k⟩ =
      (blockFields (fuel + 2) ⟨ts, handles, [], [], k + 2⟩).map fun (fields, d) =>
        ((.scalar none .plain key, .scalar none style text) :: fields, d) := by
  show (blockFields (fuel + 2) ⟨ts, handles, [], [], k + 2⟩ >>= fun (fields, d) => some
    ((.scalar none .plain key, .scalar none style text) :: fields, d)) = _
  cases blockFields (fuel + 2) ⟨ts, handles, [], [], k + 2⟩ <;> rfl

theorem root_record (fuel : Nat) (ts : List Token) :
    root (fuel + 1) ⟨.blockRecordStart :: ts, [], [], [], 0⟩ =
      (blockFields fuel ⟨ts, knownHandles, [], [], 1⟩).map fun (fields, d) =>
        (.record none fields, d) := by
  show ((blockFields fuel ⟨ts, knownHandles, [], [], 1⟩ >>= fun (fields, d) => some
    (Node.record none fields, d)) >>= fun (n, d) => some (n, d)) = _
  cases blockFields fuel ⟨ts, knownHandles, [], [], 1⟩ <;> rfl

end Draft

def fieldNode (field : String × Simple) : Node × Node :=
  (.scalar none .plain field.1, .scalar none (writtenStyle field.2) (writtenText field.2))

theorem Draft.blockFields_fields (fields : List (String × Simple)) (fuel : Nat)
    (handles : List (String × String)) (k : Nat) :
    blockFields (fuel + fields.length + 3)
        ⟨fields.flatMap fieldTokens ++ [.blockEnd, .streamEnd], handles, [], [], k⟩ =
      some (fields.map fieldNode, ⟨[.streamEnd], handles, [], [], k + 2 * fields.length + 1⟩) := by
  induction fields generalizing k with
  | nil => exact blockFields_end (fuel + 2) handles k
  | cons f fields ih =>
    have step := blockFields_cons (fuel + fields.length + 1) f.1 (writtenStyle f.2)
      (writtenText f.2) (fields.flatMap fieldTokens ++ [.blockEnd, .streamEnd]) handles k
    rw [ih (k + 2)] at step
    rw [List.length_cons, Nat.mul_succ, ← Nat.add_assoc k, Nat.add_right_comm k]
    exact step

/-- The document of a written record. -/
theorem First.ofText_render {fields : List (String × Simple)} (ne : fields ≠ [])
    (hf : ∀ f ∈ fields, IsKeyName f.1.toList) :
    First.ofText (render fields) =
      .document ⟨.record none (fields.map fieldNode), [], 2 * fields.length + 2⟩ .nothing := by
  obtain ⟨ts, hts⟩ : ∃ ts, ts = fields.flatMap fieldTokens ++ [.blockEnd, .streamEnd] := ⟨_, rfl⟩
  have length : fields.length ≤ ts.length := by
    have : (fields.flatMap fieldTokens).length = fields.length * 4 := by
      simp [List.length_flatMap, fieldTokens]
    rw [hts, List.length_append, this]
    omega
  obtain ⟨fuel, hfuel⟩ : ∃ fuel, 4 * (ts.length + 1) + 4 = fuel + fields.length + 3 + 1 :=
    ⟨4 * (ts.length + 1) - fields.length, by omega⟩
  have root := Draft.root_record (fuel + fields.length + 3) ts
  have read := Draft.blockFields_fields fields fuel Draft.knownHandles 1
  rw [← hts] at read
  rw [read] at root
  rw [First.ofText, tokens_render ne hf, ← hts, First.ofTokens, List.length_cons, hfuel, root]
  · rw [Nat.add_comm 1, Nat.add_assoc]
    rfl
  · intro rest h
    cases h

/-! ## Numbers -/

/-- The digits of a number start with a zero only if that is all. -/
theorem toDigits_eq_cons_zero {n : Nat} {rest : List Char} (h : Nat.toDigits 10 n = '0' :: rest) :
    rest = [] := by
  induction n using Nat.strongRecOn generalizing rest with
  | ind n ih =>
    rw [Nat.toDigits_eq_if (by decide)] at h
    split_ifs at h with small
    · simp_all
    · cases hd : Nat.toDigits 10 (n / 10) with
      | nil => exact absurd hd Nat.toDigits_ne_nil
      | cons c front =>
        rw [hd, List.cons_append, List.cons_eq_cons] at h
        obtain ⟨rfl, -⟩ := h
        obtain rfl := ih (n / 10) (by omega) hd
        have value := Nat.ofDigitChars_toDigits (b := 10) (n := n / 10) (by decide) (by decide)
        rw [hd] at value
        have : n / 10 = 0 := value.symm
        omega

theorem digits?_of_isDigit {s : List Char} (ne : s ≠ []) (h : ∀ c ∈ s, c.isDigit = true) :
    digits? 10 s = some (Nat.ofDigitChars 10 s 0) := by
  have read : ∀ a : Nat, s.foldlM (fun n c => do
      let d ← hexDigit? c
      if d < 10 then some (10 * n + d) else none) a = some (Nat.ofDigitChars 10 s a) := by
    clear ne
    induction s with
    | nil => exact fun a => rfl
    | cons c s ih =>
      rw [List.forall_mem_cons] at h
      intro a
      have digit : hexDigit? c = some (c.toNat - '0'.toNat) := if_pos h.1
      have small : c.toNat - '0'.toNat < 10 := by
        have := h.1
        simp only [Char.isDigit, Bool.and_eq_true, decide_eq_true_eq,
          UInt32.le_iff_toNat_le] at this
        have : c.toNat ≤ 57 := this.2
        have : '0'.toNat = 48 := rfl
        omega
      rw [List.foldlM_cons, digit, Nat.ofDigitChars_cons, ← ih h.2]
      simp only [Option.bind_eq_bind, Option.bind_some, if_pos small]
  rw [digits?, read 0]
  simp [ne]

theorem natural?_toDigits (n : Nat) :
    natural? (Nat.toDigits 10 n) = some n ∧ zeroPadded (Nat.toDigits 10 n) = false := by
  have ne : Nat.toDigits 10 n ≠ [] := Nat.toDigits_ne_nil
  have digits : ∀ c ∈ Nat.toDigits 10 n, c.isDigit = true := fun c hc =>
    Nat.isDigit_of_mem_toDigits (by decide) (by decide) hc
  have value : digits? 10 (Nat.toDigits 10 n) = some n := by
    rw [digits?_of_isDigit ne digits, Nat.ofDigitChars_toDigits (by decide) (by decide)]
  have zero {rest : List Char} : Nat.toDigits 10 n = '0' :: rest → rest = [] :=
    toDigits_eq_cons_zero
  revert ne digits value zero
  generalize Nat.toDigits 10 n = s
  intro ne digits value zero
  obtain ⟨c, s, rfl⟩ := List.exists_cons_of_ne_nil ne
  have plus : c ≠ '+' := by
    rintro rfl
    cases digits '+' (by simp)
  have minus : c ≠ '-' := by
    rintro rfl
    cases digits '-' (by simp)
  by_cases hc : c = '0'
  · subst hc
    obtain rfl := zero rfl
    exact ⟨value, rfl⟩
  · have padded : zeroPadded (c :: s) = false := by
      unfold zeroPadded
      split <;> simp_all
    have base : baseDigits? (c :: s) = none := by
      unfold baseDigits?
      split <;> simp_all
    refine ⟨?_, padded⟩
    unfold natural?
    split <;> simp_all

/-- A number is read from its digits. -/
theorem plainValue_toString {n : Nat} (h : n < 1 <<< 64) :
    plainValue (toString n) = .ok (.natural n) := by
  have digits : (toString n).toList = Nat.toDigits 10 n := Nat.toList_repr
  have no {s : String} (hs : s.toList.all Char.isDigit = false) : toString n ≠ s := by
    rintro rfl
    have all : (Nat.toDigits 10 n).all Char.isDigit = true := List.all_eq_true.2 fun c =>
      Nat.isDigit_of_mem_toDigits (by decide) (by decide)
    rw [digits, all] at hs
    cases hs
  have ne : toString n ≠ "" := fun he => by
    rw [he] at digits
    exact Nat.toDigits_ne_nil digits.symm
  have whole : whole? (toString n).toList = some (.ok (.natural n)) := by
    rw [whole?, digits, (natural?_toDigits n).1]
    simp only [if_pos h]
  generalize toString n = t at *
  have null : standsForNull t = false := by
    simp [standsForNull, isNullText, ne, no (s := "null") rfl, no (s := "Null") rfl,
      no (s := "NULL") rfl, no (s := "~") rfl]
  have bool : boolOfText? t = none := by
    simp [boolOfText?, no (s := "true") rfl, no (s := "True") rfl,
      no (s := "TRUE") rfl, no (s := "false") rfl, no (s := "False") rfl,
      no (s := "FALSE") rfl]
  rw [plainValue, null, bool, whole]
  rfl

/-! ## Values -/

/-- The value that is written. -/
def Simple.data : Simple → Data
  | .text s => .text s
  | .bool b => .bool b
  | .natural n => .natural n

/-- Whether a value can be read back: whole numbers have 64 bits. -/
def Simple.IsNarrow : Simple → Prop
  | .natural n => n < 1 <<< 64
  | _ => True

theorem plainValue_of_not_ambiguous {s : String} (h : isAmbiguous s = false) :
    plainValue s = .ok (.text s) := by
  rw [isAmbiguous] at h
  cases hv : plainValue s with
  | error i => simp [hv] at h
  | ok x =>
    cases standsFor_of_plainValue hv with
    | text => rfl
    | whole hw => cases hw <;> simp [hv] at h
    | _ => simp [hv] at h

/-- A written text has the value that it was written for. -/
theorem scalarValue_written (expected : String) {v : Simple} (h : v.IsNarrow) :
    scalarValue expected none (writtenStyle v) (writtenText v) = .ok v.data := by
  cases v with
  | bool b => cases b <;> rfl
  | natural n =>
    simp only [scalarValue, writtenStyle, writtenText, plainValue_toString h]
    rfl
  | text s =>
    rw [scalarValue, writtenText]
    by_cases hs : writtenStyle (.text s) = .plain
    · have plain : isAmbiguous s = false := by
        rw [writtenStyle] at hs
        split_ifs at hs with lines allowed plain
        simp_all
      simp only [if_pos hs, plainValue_of_not_ambiguous plain]
      rfl
    · simp only [if_neg hs]
      rfl

/-- A record is read back from its text. -/
theorem load_render {fields : List (String × Simple)} (ne : fields ≠ [])
    (hf : ∀ f ∈ fields, IsKeyName f.1.toList ∧ isAmbiguous f.1 = false ∧ f.2.IsNarrow) :
    load (render fields) = .ok (.record (fields.map fun f =>
      (.scalar (.text f.1), .scalar f.2.data))) := by
  refine readText_eq_ok (m := 0) (First.ofText_render ne fun f h => (hf f h).1) ?_
  have read (d : Document) : Reads (readFields (valueOf (depthLimit - 1)) (fields.map fieldNode)) d
      0 (fields.map fun f => (.scalar (.text f.1), .scalar f.2.data)) 0 := by
    clear ne
    induction fields with
    | nil => exact reads_pure.2 ⟨rfl, rfl⟩
    | cons f fields ih =>
      rw [List.forall_mem_cons] at hf
      obtain ⟨⟨-, plain, narrow⟩, hf⟩ := hf
      rw [List.map_cons, List.map_cons]
      have key : scalarValue "any value" none .plain f.1 = .ok (.text f.1) := by
        simp only [scalarValue, plainValue_of_not_ambiguous plain]
        rfl
      exact reads_readFields_cons.2 ⟨_, 0, _, 0, _, reads_valueOf_scalar key,
        reads_valueOf_scalar (scalarValue_written _ narrow), ih hf, rfl⟩
  exact reads_valueOf_record (read _)

end PageAccessors.Yaml
