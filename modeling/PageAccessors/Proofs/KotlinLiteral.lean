import PageAccessors.Json.Reader
import PageAccessors.Proofs.Rules
import PageAccessors.Source

/-!
# Literals read back

A double-quoted literal as Kotlin reads it (`Kotlin.literal?`): characters, escapes, and names in
braces behind a dollar sign, whose values the literal is filled in with when it is evaluated
(`Kotlin.eval`). Three quotes in a row would start another kind of literal, and an unfinished
line, a surrogate or a dollar sign of any other kind is refused.

Each character comes back from its escape (`parts?_escapeChar`) and each name from its braces
(`parts?_reference`), whatever stands around them, so a text comes back from its literal
(`literal?_quoted`), and the segments of a template from theirs (`literal?_templateLiteral`).
-/

namespace PageAccessors.Kotlin

/-- A piece of a literal: a character, or a name to be replaced by its value. -/
inductive Part where
  | char (c : Char)
  | reference (name : String)
  deriving DecidableEq

/-- The names that a literal refers to. -/
def names (parts : List Part) : List String :=
  parts.filterMap fun
    | .char _ => none
    | .reference name => some name

/-- The text of a piece, where names may have values. -/
def Part.eval (value : String → Option String) : Part → Option (List Char)
  | .char c => some [c]
  | .reference name => (value name).map String.toList

/-- The characters of a literal, if every name in it has a value. -/
def evalParts (value : String → Option String) : List Part → Option (List Char)
  | [] => some []
  | p :: rest => do
    let text ← p.eval value
    let texts ← evalParts value rest
    some (text ++ texts)

def eval (value : String → Option String) (parts : List Part) : Option String :=
  (evalParts value parts).map String.ofList

/-! ## Reading -/

/-- The character that a letter behind a backslash stands for. -/
def escapedChar? : Char → Option Char
  | 't' => some '\t'
  | 'b' => some '\x08'
  | 'n' => some '\n'
  | 'r' => some '\r'
  | '\'' => some '\''
  | '"' => some '"'
  | '\\' => some '\\'
  | '$' => some '$'
  | _ => none

/-- The character behind a backslash, by its letter or its number, and what follows it. -/
def escape? : List Char → Option (Char × List Char)
  | 'u' :: a :: b :: c :: d :: rest => do
    let n ← Json.fourDigits? a b c d
    if n.isValidChar then some (Char.ofNat n, rest) else none
  | c :: rest => (escapedChar? c).map fun c => (c, rest)
  | [] => none

/-- The name in braces behind a dollar sign, and what follows it. -/
def reference? : List Char → Option (String × List Char)
  | '\x7b' :: rest =>
    let name := String.ofList (rest.takeWhile isNameChar)
    let rest := rest.dropWhile isNameChar
    if nameFault? name = none ∧ rest.head? = some '\x7d' then some (name, rest.tail) else none
  | _ => none

/-- The next piece of a literal, and what follows it. -/
def part? : List Char → Option (Part × List Char)
  | [] => none
  | '\\' :: rest => (escape? rest).map fun (c, rest) => (.char c, rest)
  | '$' :: rest => (reference? rest).map fun (name, rest) => (.reference name, rest)
  | c :: rest => if c = '"' ∨ c = '\n' ∨ c = '\r' then none else some (.char c, rest)

theorem escape?_length {s rest : List Char} {c : Char} (h : escape? s = some (c, rest)) :
    rest.length < s.length := by
  unfold escape? at h
  split at h
  · simp only [Option.bind_eq_bind, Option.bind_eq_some_iff, Option.ite_none_right_eq_some,
      Option.some.injEq, Prod.mk.injEq] at h
    obtain ⟨_, -, -, -, rfl⟩ := h
    simp only [List.length_cons]
    omega
  · simp only [Option.map_eq_some_iff, Prod.mk.injEq] at h
    obtain ⟨_, -, -, rfl⟩ := h
    simp
  · cases h

theorem reference?_length {s rest : List Char} {name : String}
    (h : reference? s = some (name, rest)) : rest.length < s.length := by
  unfold reference? at h
  split at h
  · simp only [Option.ite_none_right_eq_some, Option.some.injEq, Prod.mk.injEq] at h
    obtain ⟨-, -, rfl⟩ := h
    rename_i after
    have := (List.dropWhile_suffix isNameChar (l := after)).length_le
    simp only [List.length_tail, List.length_cons]
    omega
  · cases h

theorem part?_length {s rest : List Char} {p : Part} (h : part? s = some (p, rest)) :
    rest.length < s.length := by
  unfold part? at h
  split at h
  · cases h
  · simp only [Option.map_eq_some_iff, Prod.mk.injEq, Prod.exists] at h
    obtain ⟨c, after, h, -, rfl⟩ := h
    exact Nat.lt_trans (escape?_length h) (by simp)
  · simp only [Option.map_eq_some_iff, Prod.mk.injEq, Prod.exists] at h
    obtain ⟨name, after, h, -, rfl⟩ := h
    exact Nat.lt_trans (reference?_length h) (by simp)
  · simp only [Option.ite_none_left_eq_some, Option.some.injEq, Prod.mk.injEq] at h
    obtain ⟨-, -, rfl⟩ := h
    simp

/-- The pieces up to the closing quote, and what follows it. -/
def parts? (s : List Char) : Option (List Part × List Char) :=
  if s.head? = some '"' then some ([], s.tail)
  else
    match h : part? s with
    | none => none
    | some (p, rest) =>
      have := part?_length h
      (parts? rest).map fun (parts, after) => (p :: parts, after)
termination_by s.length

/-- A literal at the start of a text, and what follows it. -/
def literal? : List Char → Option (List Part × List Char)
  | '"' :: rest => if rest.take 2 = ['"', '"'] then none else parts? rest
  | _ => none

theorem parts?_quote (rest : List Char) : parts? ('"' :: rest) = some ([], rest) := by
  rw [parts?]
  rfl

theorem parts?_of_part? {s rest : List Char} {p : Part} (h : part? s = some (p, rest)) :
    parts? s = (parts? rest).map fun (parts, after) => (p :: parts, after) := by
  have hq : s.head? ≠ some '"' := by
    rintro hq
    cases s with
    | nil => cases hq
    | cons c s =>
      rw [List.head?_cons, Option.some.injEq] at hq
      simp [hq, part?] at h
  rw [parts?, if_neg hq]
  split
  · rename_i h'
    rw [h] at h'
    cases h'
  · rename_i h'
    rw [h, Option.some.injEq, Prod.mk.injEq] at h'
    rw [h'.1, h'.2]

/-- A literal whose quote is followed by something else is not of the kind with three quotes. -/
theorem literal?_of_parts? {s after : List Char} {parts : List Part} {c : Char}
    (h : parts? s = some (parts, c :: after)) (hc : c ≠ '"') :
    literal? ('"' :: s) = some (parts, c :: after) := by
  rw [literal?, if_neg, h]
  intro ht
  rcases s with _ | ⟨a, _ | ⟨b, s⟩⟩
  · cases ht
  · cases ht
  · simp only [List.take_succ_cons, List.take_zero, List.cons.injEq, and_true] at ht
    obtain ⟨rfl, rfl⟩ := ht
    rw [parts?_quote] at h
    simp only [Option.some.injEq, Prod.mk.injEq, List.cons.injEq] at h
    exact hc h.2.1.symm

/-! ## Characters -/

theorem fourDigits?_digitChar {n : Nat} (h : n < 65536) :
    Json.fourDigits? (Nat.digitChar (n / 4096 % 16)) (Nat.digitChar (n / 256 % 16))
      (Nat.digitChar (n / 16 % 16)) (Nat.digitChar (n % 16)) = some n := by
  have digit : ∀ m, Json.hexValue? (Nat.digitChar (m % 16)) = some (m % 16) := fun m =>
    Json.hexValue?_digitChar _ (Nat.mod_lt _ (by decide))
  simp only [Json.fourDigits?, digit, Option.bind_eq_bind, Option.bind_some, Option.some.injEq]
  omega

theorem escape?_fourHex {c : Char} (h : c.toNat < 65536) (rest : List Char) :
    escape? ('u' :: (Source.fourHex c.toNat ++ rest)) = some (c, rest) := by
  simp only [Source.fourHex, List.map_cons, List.map_nil, List.cons_append, List.nil_append]
  rw [escape?, fourDigits?_digitChar h]
  have hv : c.toNat.isValidChar := c.valid
  simp only [Option.bind_eq_bind, Option.bind_some, if_pos hv, Char.ofNat_toNat]

theorem toNat_lt_of_isControl {c : Char} (h : Source.isControl c = true) : c.toNat < 65536 := by
  simp only [Source.isControl, Bool.or_eq_true, decide_eq_true_eq, Bool.and_eq_true] at h
  omega

theorem part?_escapeChar (c : Char) (rest : List Char) :
    part? (Source.escapeChar c ++ rest) = some (.char c, rest) := by
  unfold Source.escapeChar
  split
  case h_7 h1 h2 h3 h4 h5 h6 =>
    split_ifs with hc
    · simp only [List.cons_append, part?, escape?_fourHex (toNat_lt_of_isControl hc),
        Option.map_some]
    · rw [List.singleton_append]
      unfold part?
      split
      · contradiction
      · simp_all
      · simp_all
      · simp_all
  all_goals rfl

theorem parts?_escapeChar (c : Char) (rest : List Char) :
    parts? (Source.escapeChar c ++ rest) =
      (parts? rest).map fun (parts, after) => (.char c :: parts, after) :=
  parts?_of_part? (part?_escapeChar c rest)

theorem parts?_escape {rest after : List Char} {parts : List Part}
    (h : parts? rest = some (parts, after)) : ∀ text : List Char,
    parts? (Source.escape text ++ rest) = some (text.map .char ++ parts, after)
  | [] => h
  | c :: text => by
    rw [Source.escape, List.flatMap_cons, List.append_assoc, parts?_escapeChar,
      ← Source.escape, parts?_escape h text]
    rfl

/-! ## Names -/

theorem takeWhile_isNameChar {name : String} (h : IsName name) {c : Char}
    (hc : isNameChar c = false) (rest : List Char) :
    (name.toList ++ c :: rest).takeWhile isNameChar = name.toList := by
  rw [List.takeWhile_append_of_pos (nameChars (isName_iff.1 h)).2,
    List.takeWhile_cons_of_neg (by simp [hc]), List.append_nil]

theorem dropWhile_isNameChar {name : String} (h : IsName name) {c : Char}
    (hc : isNameChar c = false) (rest : List Char) :
    (name.toList ++ c :: rest).dropWhile isNameChar = c :: rest := by
  rw [List.dropWhile_append_of_pos (nameChars (isName_iff.1 h)).2,
    List.dropWhile_cons_of_neg (by simp [hc])]

theorem parts?_reference {name : String} (h : IsName name) (rest : List Char) :
    parts? (['$', '\x7b'] ++ name.toList ++ ['\x7d'] ++ rest) =
      (parts? rest).map fun (parts, after) => (.reference name :: parts, after) := by
  apply parts?_of_part?
  rw [List.append_assoc, List.append_assoc]
  simp only [List.cons_append, List.nil_append, part?, reference?,
    takeWhile_isNameChar h (show isNameChar '\x7d' = false by decide),
    dropWhile_isNameChar h (show isNameChar '\x7d' = false by decide), String.ofList_toList]
  rw [if_pos ⟨isName_iff.1 h, rfl⟩]
  rfl

/-! ## Templates -/

/-- A segment as it stands in the literal of a template. -/
def printed : Segment → List Char
  | .literal text => Source.escape text.toList
  | .placeholder name => ['$', '\x7b'] ++ name.toList ++ ['\x7d']

/-- The pieces that a segment is read as. -/
def segmentParts : Segment → List Part
  | .literal text => text.toList.map .char
  | .placeholder name => [.reference name]

theorem templateLiteral_eq (t : Template) :
    Source.templateLiteral t = String.ofList ('"' :: t.segments.flatMap printed ++ ['"']) := by
  refine congrArg (fun text => String.ofList ('"' :: text ++ ['"'])) ?_
  refine List.flatMap_congr fun s _ => ?_
  cases s <;> rfl

theorem parts?_segments {rest after : List Char} {parts : List Part}
    (h : parts? rest = some (parts, after)) : ∀ segments : List Segment,
    (∀ name, .placeholder name ∈ segments → IsName name) →
    parts? (segments.flatMap printed ++ rest) =
      some (segments.flatMap segmentParts ++ parts, after)
  | [], _ => h
  | .literal text :: segments, hn => by
    rw [List.flatMap_cons, List.append_assoc, printed,
      parts?_escape (parts?_segments h segments fun name hm => hn name (.tail _ hm)),
      List.flatMap_cons, List.append_assoc, segmentParts]
  | .placeholder name :: segments, hn => by
    rw [List.flatMap_cons, List.append_assoc, printed, parts?_reference (hn name (.head _)),
      parts?_segments h segments fun name hm => hn name (.tail _ hm)]
    rfl

/-- A text comes back from its literal. -/
theorem literal?_quoted (text : String) {c : Char} (hc : c ≠ '"') (rest : List Char) :
    literal? ((Source.quoted text).toList ++ c :: rest) =
      some (text.toList.map .char, c :: rest) := by
  have h := parts?_escape (parts?_quote (c :: rest)) text.toList
  rw [List.append_nil] at h
  simpa [Source.quoted] using literal?_of_parts? h hc

/-- The segments of a template come back from its literal. -/
theorem literal?_templateLiteral {t : Template} (hn : ∀ name ∈ t.parameters, IsName name)
    {c : Char} (hc : c ≠ '"') (rest : List Char) :
    literal? ((Source.templateLiteral t).toList ++ c :: rest) =
      some (t.segments.flatMap segmentParts, c :: rest) := by
  have h := parts?_segments (parts?_quote (c :: rest)) t.segments fun name hm =>
    hn name (Template.mem_parameters.2 (List.mem_filterMap.2 ⟨_, hm, rfl⟩))
  rw [List.append_nil] at h
  simpa [templateLiteral_eq] using literal?_of_parts? h hc

end PageAccessors.Kotlin
