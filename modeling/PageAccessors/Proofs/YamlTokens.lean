import Mathlib.Data.List.Basic
import Mathlib.Tactic.SplitIfs
import PageAccessors.Proofs.YamlBlock
import PageAccessors.Proofs.YamlQuotes

/-!
# Tokens of written records

The tokens of a record are those of its fields, one after the other. A key at the start of a line is
read and waits for its colon (`readToken_key`, `readToken_colon`), a value is read to the end of its
line (`readsAs_value`), and by then nothing waits, so that the next line can be read in the same way
(`tokens_field`, `tokens_fields`).
-/

namespace PageAccessors.Yaml

/-! ## Keys -/

/-- A character of the keys that are written. -/
def isKeyChar (c : Char) : Bool := c.isAlpha || c = '_'

/-- A key as records are written with. -/
structure IsKeyName (key : List Char) : Prop where
  ne : key ≠ []
  chars : ∀ c ∈ key, isKeyChar c = true
  length : key.length ≤ 1024

theorem isIndicator_of_isKeyChar {c : Char} (h : isKeyChar c = true) : isIndicator c = false := by
  by_contra hc
  simp only [isIndicator, isFlowIndicator, Bool.not_eq_false, Bool.or_eq_true, decide_eq_true_eq,
    List.contains_iff_mem] at hc
  have signs : ∀ d ∈ "-?:#&*!|>'\"%@\x60".toList, isKeyChar d = false :=
    List.all_iff_forall_prop.1 (by decide)
  rcases hc with ((((rfl | rfl) | rfl) | rfl) | rfl) | hc
  case inr =>
    rw [signs c hc] at h
    cases h
  all_goals cases h

theorem isPrintable_of_isKeyChar {c : Char} (h : isKeyChar c = true) :
    isPrintable c = true ∧ isSpace c = false ∧ c ≠ byteOrderMark := by
  refine ⟨?_, ?_, by rintro rfl; cases h⟩
  · by_cases hc : c = '_'
    · subst hc
      rfl
    · have alpha : c.isAlpha = true := by simpa [isKeyChar, hc] using h
      have letter : ('A' ≤ c ∧ c ≤ 'Z') ∨ ('a' ≤ c ∧ c ≤ 'z') := by
        have cases : c.isUpper = true ∨ c.isLower = true := Bool.or_eq_true_iff.1 alpha
        refine cases.imp (fun upper => of_decide_eq_true upper) fun lower => ?_
        have bounds := Bool.and_eq_true_iff.1 lower
        exact ⟨of_decide_eq_true bounds.1, of_decide_eq_true bounds.2⟩
      have : '\x20' ≤ c ∧ c ≤ '\x7e' := by
        simp only [Char.le_def, UInt32.le_iff_toNat_le] at letter ⊢
        simp at letter ⊢
        omega
      simp [isPrintable, this]
  · by_contra hc
    simp only [isSpace, isBlank, isBreak, Bool.not_eq_false, Bool.or_eq_true,
      decide_eq_true_eq] at hc
    rcases hc with (rfl | rfl) | (rfl | rfl) | rfl <;> cases h

theorem IsKeyName.past_eq {key : List Char} (hk : IsKeyName key) (m : Mark) :
    m.past key = ⟨m.index + key.length, m.line, m.column + key.length⟩ :=
  m.past_line fun c hc => isBreak_of_not_isSpace (isPrintable_of_isKeyChar (hk.chars c hc)).2.1

theorem IsKeyName.column_past {key : List Char} (hk : IsKeyName key) (m : Mark) :
    0 < (m.past key).column := by
  rw [hk.past_eq]
  exact Nat.add_pos_right _ (List.length_pos_iff.2 hk.ne)

theorem isPrintable_of_isDigit {c : Char} (h : c.isDigit = true) : isPrintable c = true := by
  have : '\x20' ≤ c ∧ c ≤ '\x7e' := by
    simp only [Char.isDigit, Bool.and_eq_true, decide_eq_true_eq] at h
    simp only [Char.le_def, UInt32.le_iff_toNat_le] at h ⊢
    simp at h ⊢
    omega
  simp [isPrintable, this]

/-- Digits can stand without quotes. -/
theorem plainAllowed_of_isDigit {s : List Char} (h : ∀ c ∈ s, c.isDigit = true) :
    plainAllowed s = true := by
  have no {d : Char} (hd : d.isDigit = false) : d ∉ s := fun hm => by
    rw [h d hm] at hd
    cases hd
  have none {q : Neighbours → Bool} (hq : ∀ n : Neighbours, n.char.isDigit = true → q n = false) :
      (neighbours none s).any q = false := by
    rw [List.any_eq_false]
    intro n hn
    obtain ⟨front, c, rest, hs, rfl⟩ := mem_neighbours.1 hn
    simp [hq ⟨_, c, _⟩ (h c (by simp [hs]))]
  have escapes : needsEscapes s = false := by
    rw [needsEscapes, none fun n hn => ?_, Bool.or_false, List.any_eq_false]
    · exact fun c hc => by simp [isPrintable_of_isDigit (h c hc)]
    · have : n.char ≠ ' ' := by
        intro he
        rw [he] at hn
        cases hn
      simp [Neighbours.blankBeforeBreak, this]
  have breaks : s.any isBreak = false := by
    rw [List.any_eq_false]
    intro c hc hb
    simp only [isBreak, Bool.or_eq_true, decide_eq_true_eq] at hb
    rcases hb with (rfl | rfl) | rfl <;> exact no rfl hc
  have mark : startsLikeMark s = false := by
    rcases s with _ | ⟨a, _ | ⟨b, _ | ⟨c, s⟩⟩⟩ <;> try rfl
    have dash : a ≠ '-' := fun he => no (d := '-') rfl (by simp [he])
    have dot : a ≠ '.' := fun he => no (d := '.') rfl (by simp [he])
    simp [startsLikeMark, dash, dot]
  have misleads : (neighbours Option.none s).any Neighbours.misleads = false := by
    refine none fun n hn => ?_
    have signs : ∀ d ∈ "#,[]\x7b\x7d&*!|>'\"%@\x60".toList ++ "?:-".toList,
        d.isDigit = false := List.all_iff_forall_prop.1 (by decide)
    have sign : n.char ∉ "#,[]\x7b\x7d&*!|>'\"%@\x60".toList ++ "?:-".toList := fun hm => by
      rw [signs _ hm] at hn
      cases hn
    rw [List.mem_append, not_or] at sign
    have colon : n.char ≠ ':' := fun he => by simp [he] at sign
    have hash : n.char ≠ '#' := fun he => by simp [he] at sign
    simp only [Neighbours.misleads, ← List.elem_eq_contains, List.elem_eq_mem, sign, colon, hash]
    cases n.before <;> rfl
  have first : s.head? ≠ some ' ' := fun he => no rfl (List.mem_of_head? he)
  have last : s.getLast? ≠ some ' ' := fun he => no rfl (List.mem_of_getLast? he)
  simp [plainAllowed, escapes, breaks, mark, misleads, first, last]

/-! ## How fields are written -/

/-- How a value is written. -/
def writtenStyle : Simple → Style
  | .text s =>
    if s.toList.contains '\n' then if blockAllowed s.toList then .literal else .other
    else if !isAmbiguous s && plainAllowed s.toList then .plain
    else .other
  | _ => .plain

/-- The text that is written for a value. -/
def writtenText : Simple → String
  | .text s => s
  | .bool b => toString b
  | .natural n => toString n

/-- A value with the end of its line. -/
def valueLine (v : Simple) : List Char :=
  v.chars ++ match v with
    | .text s =>
      if s.toList.contains '\n' && blockAllowed s.toList && s.toList.getLast?.any isBreak then []
      else ['\n']
    | _ => ['\n']

/-- The text of a record. -/
def recordChars (fields : List (String × Simple)) : List Char :=
  fields.flatMap fun (key, v) => fieldChars key v

theorem recordChars_cons (key : String) (v : Simple) (fields : List (String × Simple)) :
    recordChars ((key, v) :: fields) =
      key.toList ++ ':' :: ' ' :: (valueLine v ++ recordChars fields) := by
  have field : fieldChars key v = key.toList ++ ':' :: ' ' :: valueLine v := by
    cases v <;> simp only [fieldChars, valueLine]
    case text s => split_ifs <;> simp
    all_goals simp
  show fieldChars key v ++ recordChars fields = _
  rw [field, List.append_assoc]
  rfl

def fieldTokens (field : String × Simple) : List Token :=
  [.key, .scalar .plain field.1, .value, .scalar (writtenStyle field.2) (writtenText field.2)]

namespace Scanner

/-- The levels of indentation in front of a record and inside it. -/
inductive Level : Int → List Int → List Token → Prop
  | outside : Level (-1) [] [.blockRecordStart]
  | inside : Level 0 [-1] []

variable {i : Int} {is : List Int} {start : List Token}

theorem Level.unwind_eq (h : Level i is start) (column : Nat) :
    unwind column i is = (i, is, 0) := by
  cases h with
  | outside => rfl
  | inside => rw [unwind, if_neg (by omega)]

theorem Level.comeOut_eq (h : Level i is start) (c : Cursor) (key : Option KeyStart)
    (b : Bool) (ts : List Token) (n column : Nat) :
    comeOut ⟨c, i, is, key, [], b, ts, n⟩ column = ⟨c, i, is, key, [], b, ts, n⟩ := by
  simp [comeOut, flow, h.unwind_eq column]

theorem startsWithMark_eq_false {a c : Char} (h : c ≠ a) (s : List Char) :
    startsWithMark a (c :: s) = false := by
  rcases s with _ | ⟨b, _ | ⟨d, s⟩⟩ <;> simp [startsWithMark, h]

/-- Where the next token stands, once what is in front of it has been passed. -/
structure Arrives (s t : Scanner) : Prop where
  past : pastSpace (s.cursor.rest.length + 1) s = t
  drop : t.dropKeys = some t
  out : t.comeOut t.cursor.column = t

/-- A text without quotes is read where one starts. -/
theorem readToken_plain {s t : Scanner} (arrives : Arrives s t) {c : Char} (rest : List Char)
    (hc : t.cursor.rest = c :: rest) (space : isSpace c = false) (starts : StartsWord c rest)
    (mark : t.cursor.atDocumentMark = false) (hf : t.outerKeys = []) :
    s.readToken = t.readPlainText := by
  have flow : t.flow = false := by simp [Scanner.flow, hf]
  simp only [Cursor.atDocumentMark, hc, Bool.and_or_distrib_left, Bool.or_eq_false_iff] at mark
  rcases starts with indicator | ⟨hi, alone⟩
  · have no (d : Char) (hd : isIndicator d = true) : ¬ c = d := by
      rintro rfl
      rw [indicator] at hd
      cases hd
    have starts : startsPlain false c rest = true := by simp [startsPlain, space, indicator]
    rw [readToken, arrives.past, arrives.drop]
    simp only [Option.bind_eq_bind, Option.bind_some, arrives.out, hc, flow, mark, no '%' rfl,
      no '[' rfl, no '\x7b' rfl, no ']' rfl,
      no '\x7d' rfl, no ',' rfl, no '-' rfl, no '?' rfl, no ':' rfl, no '*' rfl, no '&' rfl,
      no '!' rfl, no '|' rfl, no '>' rfl, no '\'' rfl, no '"' rfl, starts, decide_false,
      Bool.and_false, Bool.false_and, Bool.false_eq_true, if_false, if_true]
  · have blank : rest.head?.any isBlank = false := by
      cases rest with
      | nil => rfl
      | cons d rest =>
        simp only [spaceFollows, isSpace, Bool.or_eq_false_iff] at alone
        exact alone.1
    have starts : startsPlain false c rest = true := by
      rcases hi with rfl | rfl | rfl <;> simp [startsPlain, blank, alone]
    rw [readToken, arrives.past, arrives.drop]
    simp only [Option.bind_eq_bind, Option.bind_some, arrives.out, hc, flow, mark,
      Bool.false_eq_true, if_false]
    rcases hi with rfl | rfl | rfl <;> simp [alone, starts]

/-- A key has been read, and waits for its colon. -/
def waitingKey (i : Int) (is : List Int) (key : String) (m : Mark) (rest : List Char) (n : Nat) :
    Scanner :=
  ⟨⟨rest, m.past key.toList⟩, i, is, some ⟨n, i = 0, m⟩, [], false, [.scalar .plain key], n⟩

/-- The tokens up to the value of a field. -/
def keyTokens (start : List Token) (key : String) : List Token :=
  start ++ [.key, .scalar .plain key, .value]

section

variable {key : String} (hk : IsKeyName key.toList)

include hk

/-- At the start of a line, a key is read and may turn out to be one. -/
theorem readToken_key (h : Level i is start) {rest : List Char} {s : Scanner} {m : Mark} {n : Nat}
    (hm : m.column = 0) (hr : spaceFollows rest = true)
    (past : pastSpace (s.cursor.rest.length + 1) s =
      ⟨⟨key.toList ++ ':' :: rest, m⟩, i, is, none, [], true, [], n⟩) :
    s.readToken = some (waitingKey i is key m (':' :: rest) n) := by
  have plain {c : Char} (hc : c ∈ key.toList) := isPrintable_of_isKeyChar (hk.chars c hc)
  have no {c : Char} (hc : isKeyChar c = false) : c ∉ key.toList := fun h => by
    rw [hk.chars c h] at hc
    cases hc
  obtain ⟨c, tail, hc⟩ := List.exists_cons_of_ne_nil hk.ne
  have hm' : c ∈ key.toList := by simp [hc]
  have mark : Cursor.atDocumentMark ⟨key.toList ++ ':' :: rest, m⟩ = false := by
    have dash : c ≠ '-' := fun he => no (c := '-') rfl (he ▸ hm')
    have dot : c ≠ '.' := fun he => no (c := '.') rfl (he ▸ hm')
    simp [hc, Cursor.atDocumentMark, startsWithMark_eq_false dash, startsWithMark_eq_false dot]
  have head : key.toList.head? ≠ some '#' := fun h => no rfl (List.mem_of_head? h)
  have read := readPlain_key hk.ne (fun d hd => (plain hd).2.1) (no rfl) head hr (i + 1) mark
  have arrives : Arrives s ⟨⟨key.toList ++ ':' :: rest, m⟩, i, is, none, [], true, [], n⟩ :=
    ⟨past, rfl, h.comeOut_eq _ _ _ _ _ _⟩
  have save : saveKey ⟨⟨key.toList ++ ':' :: rest, m⟩, i, is, none, [], true, [], n⟩ =
      some ⟨⟨key.toList ++ ':' :: rest, m⟩, i, is, some ⟨n, i = 0, m⟩, [], true, [], n⟩ := by
    cases h <;> simp [saveKey, removeKey, flow, Cursor.column, hm]
  rw [readToken_plain arrives (tail ++ ':' :: rest) (by simp [hc]) (plain hm').2.1
    (.inl (isIndicator_of_isKeyChar (hk.chars c hm'))) mark rfl, readPlainText, save]
  simp only [Option.bind_eq_bind, Option.bind_some, flow, List.isEmpty_nil, Bool.not_true, read,
    String.ofList_toList]
  rfl

theorem dropKeys_waitingKey (m : Mark) (rest : List Char) (n : Nat) :
    (waitingKey i is key m rest n).dropKeys = some (waitingKey i is key m rest n) := by
  have : outlived (m.past key.toList) ⟨n, i = 0, m⟩ = false := by
    simp [hk.past_eq, outlived, hk.length]
  simp [waitingKey, dropKeys, dropOutlived, this]

/-- The colon makes a record of what comes before it, unless there is one already. -/
theorem readToken_colon (h : Level i is start) (rest : List Char) {m : Mark} (hm : m.column = 0)
    (hr : spaceFollows rest = true) (n : Nat) :
    (waitingKey i is key m (':' :: rest) n).readToken =
      some ⟨⟨rest, (m.past key.toList).after ':'⟩, 0, [-1], none, [], false, keyTokens start key,
        n⟩ := by
  have nonzero : (m.past key.toList).column ≠ 0 := Nat.ne_of_gt (hk.column_past m)
  have past : pastSpace ((waitingKey i is key m (':' :: rest) n).cursor.rest.length + 1)
      (waitingKey i is key m (':' :: rest) n) = waitingKey i is key m (':' :: rest) n := by
    simp [waitingKey, pastSpace, Cursor.column, nonzero, moveTo, Cursor.skipWhile, Cursor.span,
      Cursor.spanList, isBreak]
  have read : (waitingKey i is key m (':' :: rest) n).readValue =
      some ⟨⟨rest, (m.past key.toList).after ':'⟩, 0, [-1], none, [], false, keyTokens start key,
        n⟩ := by
    cases h <;>
      simp [waitingKey, keyTokens, readValue, emitBefore, goIn, flow, hm, skip, moveTo,
        Cursor.skip, emit]
  have out : (waitingKey i is key m (':' :: rest) n).comeOut
      (waitingKey i is key m (':' :: rest) n).cursor.column =
        waitingKey i is key m (':' :: rest) n := h.comeOut_eq _ _ _ _ _ _
  rw [readToken, past, dropKeys_waitingKey hk]
  simp only [Option.bind_eq_bind, Option.bind_some, out]
  simpa [waitingKey, Cursor.column, nonzero, hr] using read

end

/-! ## Values -/

/-- Inside a record, behind a colon. -/
def behindColon (c : Cursor) (n : Nat) : Scanner := ⟨c, 0, [-1], none, [], false, [], n⟩

/-- Inside a record, when a value has been read. -/
def behindValue (c : Cursor) (keyAllowed : Bool) (style : Style) (text : List Char) (n : Nat) :
    Scanner :=
  ⟨c, 0, [-1], none, [], keyAllowed, [.scalar style (String.ofList text)], n⟩

/-- Whether a cursor is at the end of a line, or behind it where a key may stand. -/
inductive EndsLine (after : List Char) : Cursor → Bool → Prop
  | before (m : Mark) : EndsLine after ⟨'\n' :: after, m⟩ false
  | behind {m : Mark} (hm : m.column = 0) : EndsLine after ⟨after, m⟩ true

/-- What is written behind a key, and its end of line, is read as a text. -/
def ReadsAs (line : List Char) (style : Style) (text : List Char) : Prop :=
  ∀ (after : List Char) (m : Mark) (n : Nat), Stops isSpace after → 0 < m.column →
    ∃ c b, EndsLine after c b ∧
      readToken (behindColon ⟨' ' :: (line ++ after), m⟩ n) = some (behindValue c b style text n)

theorem arrives_value {c : Char} (rest : List Char) {m : Mark} (n : Nat) (hm : 0 < m.column)
    (space : isSpace c = false) (hc : c ≠ '#') :
    Arrives (behindColon ⟨' ' :: c :: rest, m⟩ n) (behindColon ⟨c :: rest, m.after ' '⟩ n) := by
  have nonzero : m.column ≠ 0 := by omega
  simp only [isSpace, isBlank, Bool.or_eq_false_iff, decide_eq_false_iff_not] at space
  refine ⟨?_, rfl, ?_⟩
  · simp [behindColon, pastSpace, Cursor.column, nonzero, moveTo, Cursor.skipWhile, Cursor.span,
      Cursor.spanList, space, hc]
  · exact Level.inside.comeOut_eq _ _ _ _ _ _

theorem saveKey_behindColon (c : Cursor) (n : Nat) :
    (behindColon c n).saveKey = some (behindColon c n) := rfl

theorem readsAs_plain {s : List Char} (ne : s ≠ []) (h : plainAllowed s = true) :
    ReadsAs (s ++ ['\n']) .plain s := by
  intro after m n ha hm
  obtain ⟨c, s, rfl⟩ := List.exists_cons_of_ne_nil ne
  obtain ⟨space, hc, starts⟩ := starts_of_plainAllowed h after
  have column : 0 < (m.after ' ').column := by
    rw [m.column_after rfl]
    omega
  have read := readPlain_line ne (isUnquoted_of_plainAllowed h) (.cons space s) (by simp [hc]) ha
    column
  refine ⟨⟨after, ((m.after ' ').past (c :: s)).after '\n'⟩, true,
    .behind (Mark.column_after_break _ rfl), ?_⟩
  have written : ' ' :: (c :: s ++ ['\n'] ++ after) = ' ' :: c :: (s ++ '\n' :: after) := by simp
  rw [written, readToken_plain (arrives_value _ n hm space hc) _ rfl space starts
    (Cursor.atDocumentMark_of_column column) rfl]
  rw [List.cons_append] at read
  rw [readPlainText, saveKey_behindColon]
  simp only [Option.bind_eq_bind, Option.bind_some, behindColon, flow, List.isEmpty_nil,
    Bool.not_true, zero_add, read]
  rfl

/-- What is written in quotes is read as it was if its quotes are. -/
theorem readsAs_quoted {double : Bool} {quote : Char} {s written : List Char}
    (hq : quote = '\'' ∧ double = false ∨ quote = '"' ∧ double = true)
    (h : ∀ after m, ∃ m', readQuoted double ⟨quote :: written ++ '\n' :: after, m⟩ =
      some (s, ⟨'\n' :: after, m'⟩)) : ReadsAs (quote :: written ++ ['\n']) .other s := by
  intro after m n _ hm
  obtain ⟨m', read⟩ := h after (m.after ' ')
  have column : (m.after ' ').column ≠ 0 := by
    rw [m.column_after rfl]
    omega
  refine ⟨_, _, .before m', ?_⟩
  have arrives := arrives_value (c := quote) (written ++ '\n' :: after) n hm
    (by rcases hq with ⟨rfl, -⟩ | ⟨rfl, -⟩ <;> rfl)
    (by rcases hq with ⟨rfl, -⟩ | ⟨rfl, -⟩ <;> decide)
  rw [List.append_assoc, List.cons_append, List.singleton_append, readToken, arrives.past,
    arrives.drop]
  rw [List.cons_append] at read
  simp only [Option.bind_eq_bind, Option.bind_some, arrives.out]
  rcases hq with ⟨rfl, rfl⟩ | ⟨rfl, rfl⟩
  all_goals
    simp [behindColon, Cursor.column, column]
    simp [readQuotedText, readMark, saveKey, read]
    rfl

/-- What is written below a bar is read as it was. -/
theorem readsAs_block {s : List Char} (hs : s ≠ []) :
    ReadsAs (block s ++ closing s) .literal s := by
  intro after m n ha hm
  obtain ⟨m', hm', read⟩ := readBlock_block hs ha (m.after ' ')
  have column : (m.after ' ').column ≠ 0 := by
    rw [m.column_after rfl]
    omega
  refine ⟨_, _, .behind hm', ?_⟩
  obtain ⟨lines, hl⟩ : ∃ lines, block s = '|' :: lines := ⟨_, rfl⟩
  have written : block s ++ (closing s ++ after) = '|' :: (lines ++ (closing s ++ after)) := by
    rw [hl, List.cons_append]
  have arrives := arrives_value (c := '|') (lines ++ (closing s ++ after)) n hm rfl (by decide)
  rw [written] at read
  rw [List.append_assoc, written, readToken, arrives.past, arrives.drop]
  simp only [Option.bind_eq_bind, Option.bind_some, arrives.out]
  simp [behindColon, Cursor.column, column, flow]
  simp [readBlockText, removeKey, read]
  rfl

theorem readsAs_single {s : List Char} (h : singleAllowed s = true) (line : '\n' ∉ s) :
    ReadsAs (singleQuoted s ++ ['\n']) .other s := by
  rw [singleQuoted_eq]
  exact readsAs_quoted (.inl ⟨rfl, rfl⟩) (readQuoted_single (isSpaced_of_singleAllowed h line))

theorem readsAs_double (s : List Char) : ReadsAs (doubleQuoted s ++ ['\n']) .other s := by
  have read := readQuoted_double s
  rw [doubleQuoted_eq] at read ⊢
  exact readsAs_quoted (.inr ⟨rfl, rfl⟩) read

/-! ## Fields -/

theorem readsAs_value (v : Simple) :
    ReadsAs (valueLine v) (writtenStyle v) (writtenText v).toList := by
  cases v with
  | bool b => cases b <;> exact readsAs_plain nofun (by decide)
  | natural n =>
    have digits : (toString n).toList = Nat.toDigits 10 n := Nat.toList_repr
    simp only [valueLine, Simple.chars, writtenStyle, writtenText, digits]
    exact readsAs_plain Nat.toDigits_ne_nil
      (plainAllowed_of_isDigit fun c => Nat.isDigit_of_mem_toDigits (by decide) (by decide))
  | text s =>
    simp only [valueLine, Simple.chars, textChars, writtenStyle, writtenText]
    by_cases lines : s.toList.contains '\n' = true
    · by_cases allowed : blockAllowed s.toList = true
      · have ne : s.toList ≠ [] := by
          intro he
          rw [he] at lines
          cases lines
        simp only [lines, allowed, Bool.true_and, if_true]
        exact readsAs_block ne
      · simp only [lines, allowed, Bool.true_and, Bool.false_and, if_true]
        exact readsAs_double s.toList
    · have line : '\n' ∉ s.toList := by simpa using lines
      by_cases plain : (!isAmbiguous s && plainAllowed s.toList) = true
      · have ne : s.toList ≠ [] := by
          intro he
          obtain rfl : s = "" := by simpa using he
          exact absurd plain (by decide)
        simp only [lines, plain, Bool.false_and, if_true]
        exact readsAs_plain ne (by simp_all)
      · by_cases single : singleAllowed s.toList = true
        · simp only [lines, plain, single, Bool.false_and, if_true]
          exact readsAs_single single line
        · simp only [lines, plain, single, Bool.false_and]
          exact readsAs_double s.toList

/-! ## Records -/

/-- A text that ends, or goes on with a key. -/
def StartsLine (s : List Char) : Prop := ∀ c ∈ s.head?, isKeyChar c = true

theorem StartsLine.stops {s : List Char} (h : StartsLine s) : Stops isSpace s :=
  fun c hc => (isPrintable_of_isKeyChar (h c hc)).2.1

/-- At the start of a line, there is nothing to pass. -/
theorem pastSpace_line {s : Scanner} (h : StartsLine s.cursor.rest) (fuel : Nat) :
    pastSpace (fuel + 1) s = s := by
  obtain ⟨⟨rest, m⟩, i, is, key, outer, b, ts, n⟩ := s
  cases rest with
  | nil => simp [pastSpace, moveTo, Cursor.skipWhile, Cursor.span, Cursor.spanList]
  | cons c rest =>
    have hc : isKeyChar c = true := h c rfl
    obtain ⟨-, space, mark⟩ := isPrintable_of_isKeyChar hc
    have hash : c ≠ '#' := by
      rintro rfl
      cases hc
    simp only [isSpace, isBlank, Bool.or_eq_false_iff, decide_eq_false_iff_not] at space
    simp [pastSpace, moveTo, Cursor.skipWhile, Cursor.span, Cursor.spanList, mark, hash, space]

theorem pastSpace_endsLine {after : List Char} (ha : StartsLine after) {c : Cursor} {b : Bool}
    (h : EndsLine after c b) (n : Nat) :
    ∃ m : Mark, m.column = 0 ∧
      pastSpace (c.rest.length + 1) ⟨c, 0, [-1], none, [], b, [], n⟩ =
        ⟨⟨after, m⟩, 0, [-1], none, [], true, [], n⟩ := by
  cases h with
  | before m =>
    refine ⟨m.after '\n', Mark.column_after_break _ rfl, ?_⟩
    have next := pastSpace_line (s := ⟨⟨after, m.after '\n'⟩, 0, [-1], none, [], true, [], n⟩) ha
      after.length
    simp [pastSpace, moveTo, skip, Cursor.skipWhile, Cursor.span, Cursor.spanList, Cursor.skip,
      isBreak, byteOrderMark, flow, next]
  | behind hm => exact ⟨_, hm, pastSpace_line ha _⟩

theorem tokens_read {s t : Scanner} (h : s.waiting = []) (read : s.readToken = some t)
    (fuel : Nat) : tokens (fuel + 1) s = tokens fuel t := by
  simp [tokens, h, read]

theorem tokens_keyWaits {s t : Scanner} (h : s.waiting ≠ []) (drop : s.dropKeys = some s)
    (waits : s.keyWaits = true) (read : s.readToken = some t) (fuel : Nat) :
    tokens (fuel + 1) s = tokens fuel t := by
  obtain ⟨a, ts, hs⟩ := List.exists_cons_of_ne_nil h
  simp [tokens, hs, drop, waits, read]

/-- Tokens that wait for nothing are settled one after the other. -/
theorem tokens_waiting (ts : List Token) (h : .streamEnd ∉ ts) (c : Cursor) (i : Int)
    (is : List Int) (b : Bool) (n fuel : Nat) :
    tokens (fuel + ts.length) ⟨c, i, is, none, [], b, ts, n⟩ =
      ts ++ tokens fuel ⟨c, i, is, none, [], b, [], n + ts.length⟩ := by
  induction ts generalizing n with
  | nil => rfl
  | cons t ts ih =>
    rw [List.mem_cons, not_or] at h
    have next := ih h.2 (n + 1)
    rw [Nat.add_assoc n, Nat.add_comm 1] at next
    simp only [List.length_cons, ← Nat.add_assoc, tokens]
    simp [dropKeys, dropOutlived, keyWaits, Ne.symm h.1]
    exact next

/-- A field and the end of its line are read as a key and its value. -/
theorem tokens_field (h : Level i is start) {key : String} (hk : IsKeyName key.toList) (v : Simple)
    {after : List Char} (ha : Stops isSpace after) {s : Scanner} {m : Mark} {n : Nat}
    (hm : m.column = 0) (waiting : s.waiting = [])
    (past : pastSpace (s.cursor.rest.length + 1) s =
      ⟨⟨key.toList ++ ':' :: ' ' :: (valueLine v ++ after), m⟩, i, is, none, [], true, [], n⟩) :
    ∃ c b n', EndsLine after c b ∧ ∀ fuel, tokens (fuel + (start.length + 7)) s =
      start ++ (fieldTokens (key, v) ++ tokens fuel ⟨c, 0, [-1], none, [], b, [], n'⟩) := by
  have first := readToken_key hk h hm rfl past
  have colon := readToken_colon hk h (' ' :: (valueLine v ++ after)) hm rfl n
  have waits :
      (waitingKey i is key m (':' :: ' ' :: (valueLine v ++ after)) n).keyWaits = true := by
    simp [waitingKey, keyWaits]
  have settled := tokens_waiting (keyTokens start key) (by cases h <;> simp [keyTokens])
    ⟨' ' :: (valueLine v ++ after), (m.past key.toList).after ':'⟩ 0 [-1] false n
  obtain ⟨c, b, ends, value⟩ := readsAs_value v after ((m.past key.toList).after ':')
    (n + (keyTokens start key).length) ha (by rw [Mark.column_after _ rfl]; exact Nat.succ_pos _)
  refine ⟨c, b, n + (keyTokens start key).length + 1, ends, fun fuel => ?_⟩
  have length : (keyTokens start key).length = start.length + 3 := by simp [keyTokens]
  have last := tokens_waiting [.scalar (writtenStyle v) (writtenText v)] (by simp) c 0 [-1]
    b (n + (keyTokens start key).length) fuel
  have value := (tokens_read rfl value (fuel + 1)).trans
    ((congrArg (tokens (fuel + 1)) (by rw [behindValue, String.ofList_toList])).trans last)
  calc tokens (fuel + (start.length + 7)) s
    _ = tokens (fuel + 2 + (keyTokens start key).length)
          ⟨⟨' ' :: (valueLine v ++ after), (m.past key.toList).after ':'⟩, 0, [-1], none, [], false,
            keyTokens start key, n⟩ := by
      rw [← Nat.add_assoc, tokens_read waiting first,
        tokens_keyWaits (by simp [waitingKey]) (dropKeys_waitingKey hk _ _ _) waits colon, length]
      congr 1
      omega
    _ = keyTokens start key ++ tokens (fuel + 2)
          (behindColon ⟨' ' :: (valueLine v ++ after), (m.past key.toList).after ':'⟩
            (n + (keyTokens start key).length)) := settled (fuel + 2)
    _ = _ := by
      rw [value]
      simp [keyTokens, fieldTokens]

theorem startsLine_recordChars {fields : List (String × Simple)}
    (hf : ∀ f ∈ fields, IsKeyName f.1.toList) : StartsLine (recordChars fields) := by
  cases fields with
  | nil => simp [recordChars, StartsLine]
  | cons f fields =>
    obtain ⟨key, v⟩ := f
    have hk : IsKeyName key.toList := hf (key, v) (by simp)
    obtain ⟨c, tail, hc⟩ := List.exists_cons_of_ne_nil hk.ne
    intro d hd
    rw [recordChars_cons, hc] at hd
    obtain rfl : c = d := by simpa using hd
    exact hk.chars c (by simp [hc])

/-- The fields of a record are read one after the other. -/
theorem tokens_fields {fields : List (String × Simple)}
    (hf : ∀ f ∈ fields, IsKeyName f.1.toList) {c : Cursor} {b : Bool}
    (h : EndsLine (recordChars fields) c b) (n fuel : Nat) :
    tokens (fuel + (7 * fields.length + 3)) ⟨c, 0, [-1], none, [], b, [], n⟩ =
      fields.flatMap fieldTokens ++ [.blockEnd, .streamEnd] := by
  induction fields generalizing c b n with
  | nil =>
    obtain ⟨m, hm, past⟩ := pastSpace_endsLine (startsLine_recordChars hf) h n
    have read : readToken ⟨c, 0, [-1], none, [], b, [], n⟩ =
        some ⟨⟨[], m⟩, -1, [], none, [], false, [.blockEnd, .streamEnd], n⟩ := by
      rw [readToken, past]
      simp [recordChars, dropKeys, dropOutlived, comeOut, flow, unwind, Cursor.column, hm, readEnd,
        removeKey, emit]
    rw [show fuel + (7 * [].length + 3) = fuel + 2 + 1 from rfl, tokens_read rfl read]
    simp [tokens, dropKeys, dropOutlived, keyWaits]
  | cons f fields ih =>
    obtain ⟨key, v⟩ := f
    obtain ⟨m, hm, past⟩ := pastSpace_endsLine (startsLine_recordChars hf) h n
    rw [List.forall_mem_cons] at hf
    rw [recordChars_cons] at past
    obtain ⟨c', b', n', ends, field⟩ := tokens_field .inside hf.1 v
      (startsLine_recordChars hf.2).stops hm rfl past
    have length : fuel + (7 * (fields.length + 1) + 3) =
        fuel + (7 * fields.length + 3) + (([] : List Token).length + 7) := by
      simp only [List.length_nil]
      omega
    rw [List.length_cons, length, field, ih hf.2 ends n']
    simp

end Scanner

end PageAccessors.Yaml
